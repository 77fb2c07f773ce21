import Stencil.Engine.History
import Stencil.Proofs.Building

/-!
Faithful caches. Every template of a faithful cache has the nodes of the source that it stands
under, whatever name and options it was first compiled with, and however deep its blocks were
allowed to lie. Compiling with such a cache gives what compiling anew gives, unless that is refused
because of the limit, and keeps the cache faithful.
-/

namespace Stencil

/-! ### What a source says -/

namespace Template

variable {limit limit' : Nat} {source : String} {name : Option String} {nodes nodes' : List Node}
  {error : CompileError}

/-- The nodes of a source, which are read if the limit to its blocks is high enough. -/
def Reads (source : String) (nodes : List Node) : Prop :=
  ∃ limit, Tree.build limit (tokenize source) = .ok nodes

/-- The blocks of the source lie inside one another beyond the limit. -/
def TooDeep (limit : Nat) (source : String) : Prop :=
  Tree.build limit (tokenize source) = .error .tooDeep

instance (limit : Nat) (source : String) : Decidable (TooDeep limit source) :=
  decidable_of_iff (Tree.fault? limit (tokenize source) = some .tooDeep) Tree.fault?_eq_some_iff

theorem compile_eq_ok_iff :
    compile limit source name = .ok nodes ↔ Tree.build limit (tokenize source) = .ok nodes := by
  unfold compile parse
  cases Tree.build limit (tokenize source) <;> simp

theorem reads_of_compile (h : compile limit source name = .ok nodes) : Reads source nodes :=
  ⟨limit, compile_eq_ok_iff.1 h⟩

/-- A limit that is high enough plays no part. -/
theorem Reads.compile (h : Reads source nodes) (hDeep : ¬TooDeep limit source)
    (name : Option String) : compile limit source name = .ok nodes := by
  obtain ⟨other, hOther⟩ := h
  rw [compile_eq_ok_iff, ← hOther]
  rcases Tree.build_eq_or_tooDeep limit other (tokenize source) with h | h | h
  · exact h
  · exact absurd h hDeep
  · rw [hOther] at h
    cases h

theorem Reads.tooDeep_of_compile (h : Reads source nodes)
    (hCompile : Template.compile limit source name = .error error) : TooDeep limit source := by
  refine Classical.byContradiction fun hDeep => ?_
  rw [h.compile hDeep name] at hCompile
  cases hCompile

/-- A source has only one list of nodes. -/
theorem Reads.unique (h : Reads source nodes) (h' : Reads source nodes') : nodes = nodes' := by
  obtain ⟨limit, hNodes⟩ := h'
  have hDeep : ¬TooDeep limit source := fun hDeep => by
    rw [TooDeep, hNodes] at hDeep
    cases hDeep
  have hSame := compile_eq_ok_iff.1 (h.compile hDeep none)
  rw [hNodes] at hSame
  exact (Except.ok.inj hSame).symm

/-- Limits that are high enough come to the same. -/
theorem compile_eq_of_not_tooDeep (h : ¬TooDeep limit source) (h' : ¬TooDeep limit' source)
    (name : Option String) : compile limit source name = compile limit' source name := by
  unfold compile parse
  rcases Tree.build_eq_or_tooDeep limit limit' (tokenize source) with hSame | hDeep | hDeep
  · rw [hSame]
  · exact absurd hDeep h
  · exact absurd hDeep h'

theorem compile_of_isOk (h : (compile limit source name).isOk = true) :
    compile limit source name = .ok ((compile limit source name).toOption.getD []) := by
  cases hNodes : compile limit source name with
  | ok nodes => rfl
  | error error =>
    rw [hNodes] at h
    cases h

/-- A template without the numbers that tell it apart from others that say the same. -/
def anonymous (template : Template) : Template := { template with number := 0, tree := 0 }

theorem anonymous_eq_iff {template : Template} {options : Options} :
    template.anonymous = ⟨0, 0, nodes, source, name, options⟩ ↔
      template.nodes = nodes ∧ template.source = source ∧ template.name = name ∧
        template.options = options := by
  cases template
  simp [anonymous]

end Template

/-! ### What a cache may hold -/

/-- Every template of the cache stands under its own source, and has the nodes of this source. -/
def Cache.Faithful (cache : Cache) : Prop :=
  ∀ source entry, cache.find? source = some entry →
    entry.template.source = source ∧ Template.Reads source entry.template.nodes

/-- Whatever is in the first cache is in the second one too. -/
def Cache.Within (cache cache' : Cache) : Prop :=
  ∀ source, cache.contains source = true → cache'.contains source = true

namespace Cache

variable {cache cache' : Cache} {source : String} {entry entry' : CacheEntry}

theorem Faithful.empty : Faithful .empty := by
  intro source entry h
  cases h

theorem Faithful.insert (h : cache.Faithful) (hSource : entry.template.source = source)
    (hNodes : Template.Reads source entry.template.nodes) :
    Faithful (Table.insert cache source entry) := by
  intro other found hFound
  rw [Table.find?_insert] at hFound
  split at hFound
  · rename_i hSame
    cases hFound
    exact ⟨hSame ▸ hSource, hSame ▸ hNodes⟩
  · exact h other found hFound

theorem Within.refl (cache : Cache) : cache.Within cache := fun _ h => h

theorem Within.empty (cache : Cache) : Within .empty cache := by
  intro source h
  cases h

theorem contains_insert (source other : String) :
    Table.contains (Table.insert cache source entry) other =
      (decide (other = source) || cache.contains other) := by
  unfold Table.contains
  rw [Table.find?_insert]
  by_cases h : other = source <;> simp [h]

theorem Within.insert (h : cache.Within cache') :
    Within (Table.insert cache source entry) (Table.insert cache' source entry') := by
  intro other hOther
  rw [contains_insert, Bool.or_eq_true] at hOther ⊢
  exact hOther.imp id (h other)

/-- To put something into the second cache, or there again, makes no difference. -/
theorem Within.insert_right (h : cache.Within cache') :
    Within cache (Table.insert cache' source entry') := by
  intro other hOther
  rw [contains_insert, h other hOther, Bool.or_true]

end Cache

/-! ### Compiling with a faithful cache -/

namespace History

variable {history history' : History} {limit limit' : Nat} {options options' : Options}
  {source : String} {name : Option String}

/-- A template under another name and with other options says what it said, under that name and
with those options. -/
theorem rebind_spec (history : History) (template : Template) (options : Options)
    (name : Option String) :
    (history.rebind template options name).1.anonymous =
        { template.anonymous with options, name } ∧
      (history.rebind template options name).2.cache = history.cache := by
  unfold rebind
  split
  · rename_i h
    rw [h.1, h.2]
    exact ⟨rfl, rfl⟩
  · exact ⟨rfl, rfl⟩

theorem make_of_ok (history : History) (options : Options) {nodes : List Node}
    (hn : Template.compile limit source name = .ok nodes) :
    ∃ template after, history.make limit options source name = .ok (template, after) ∧
      template.anonymous = ⟨0, 0, nodes, source, name, options⟩ ∧
      after.cache = history.cache := by
  unfold make
  rw [hn]
  exact ⟨_, _, rfl, rfl, rfl⟩

theorem make_of_error {error : CompileError}
    (he : Template.compile limit source name = .error error) :
    history.make limit options source name = .error error := by
  unfold make
  rw [he]
  rfl

/-- A source that is in the cache is not compiled again; its entry counts one use more. -/
theorem compile_of_find? (limit : Nat) (name : Option String) {entry : CacheEntry}
    (hc : options.cache = true) (hf : history.cache.find? source = some entry) :
    ∃ used : History,
      used.cache = history.cache.insert source { entry with uses := entry.uses + 1 } ∧
      history.compile limit options source name =
        .ok (used.rebind entry.template options name) := by
  refine ⟨{ history with
    cache := history.cache.insert source { entry with uses := entry.uses + 1 } }.note
      (.found (entry.uses + 1) source), rfl, ?_⟩
  simp only [compile, hc, if_true, Cache.use?, hf, Option.map_some]

/-- A source that is not in the cache is compiled and then put there, if the options say so. -/
theorem compile_of_find?_none (hc : options.cache = true)
    (hf : history.cache.find? source = none) :
    history.compile limit options source name =
      (history.make limit options source name).map fun (template, after) =>
        (template, { after with cache := after.cache.put template source }) := by
  simp only [compile, hc, if_true, Cache.use?, hf, Option.map_none]
  rfl

/-- Without the cache a source is compiled anew. -/
theorem compile_of_not_cache (hc : options.cache = false) :
    history.compile limit options source name = history.make limit options source name := by
  simp [compile, hc]

/-- The source is taken from the cache. -/
def Hits (history : History) (options : Options) (source : String) : Prop :=
  options.cache = true ∧ history.cache.contains source = true

theorem find?_eq_none_of_not_hits (h : ¬history.Hits options source)
    (hc : options.cache = true) : history.cache.find? source = none := by
  rw [Hits, not_and, Bool.not_eq_true] at h
  exact Option.isNone_iff_eq_none.1 (Option.isSome_eq_false_iff.1 (h hc))

/-- What comes of compiling a source with a faithful cache. -/
inductive Compiled (history : History) (limit : Nat) (options : Options) (source : String)
    (name : Option String) : Except CompileError (Template × History) → Prop
  | found {template : Template} {after : History} {nodes : List Node} {entry : CacheEntry}
      (hHits : history.Hits options source) (hNodes : Template.Reads source nodes)
      (hSpec : template.anonymous = ⟨0, 0, nodes, source, name, options⟩)
      (hEntry : entry.template.source = source ∧ Template.Reads source entry.template.nodes)
      (hAfter : after.cache = history.cache.insert source entry) :
      Compiled history limit options source name (.ok (template, after))
  | made {template : Template} {after : History} {nodes : List Node}
      (hMiss : ¬history.Hits options source)
      (hNodes : Template.compile limit source name = .ok nodes)
      (hSpec : template.anonymous = ⟨0, 0, nodes, source, name, options⟩)
      (hAfter : after.cache =
        if options.cache then history.cache.put template source else history.cache) :
      Compiled history limit options source name (.ok (template, after))
  | refused {error : CompileError} (hMiss : ¬history.Hits options source)
      (hError : Template.compile limit source name = .error error) :
      Compiled history limit options source name (.error error)

theorem compiled_of_not_hits (h : ¬history.Hits options source) (limit : Nat)
    (name : Option String) :
    history.Compiled limit options source name (history.compile limit options source name) := by
  cases hNodes : Template.compile limit source name with
  | error error =>
    have hError : history.compile limit options source name = .error error := by
      cases hc : options.cache with
      | false => rw [compile_of_not_cache hc, make_of_error hNodes]
      | true =>
        rw [compile_of_find?_none hc (find?_eq_none_of_not_hits h hc), make_of_error hNodes]
        rfl
    rw [hError]
    exact .refused h hNodes
  | ok nodes =>
    obtain ⟨template, after, hMake, hSpec, hAfter⟩ := make_of_ok history options hNodes
    cases hc : options.cache with
    | false =>
      rw [compile_of_not_cache hc, hMake]
      exact .made h hNodes hSpec (by rw [hc, hAfter]; rfl)
    | true =>
      rw [compile_of_find?_none hc (find?_eq_none_of_not_hits h hc), hMake]
      exact .made h hNodes hSpec (by rw [hc, ← hAfter]; rfl)

theorem compiled (h : history.cache.Faithful) (limit : Nat) (options : Options) (source : String)
    (name : Option String) :
    history.Compiled limit options source name (history.compile limit options source name) := by
  by_cases hHits : history.Hits options source
  · obtain ⟨entry, hFound⟩ := Option.isSome_iff_exists.1 hHits.2
    have hEntry := h source entry hFound
    obtain ⟨used, hUsed, hCompile⟩ := compile_of_find? limit name hHits.1 hFound
    obtain ⟨hRebind, hCache⟩ := rebind_spec used entry.template options name
    have hSpec : { entry.template.anonymous with options, name } =
        (⟨0, 0, entry.template.nodes, source, name, options⟩ : Template) := by
      rw [← hEntry.1]
      rfl
    rw [hCompile]
    refine .found hHits hEntry.2 (hRebind.trans hSpec) ?_ (hCache.trans hUsed)
    exact hEntry
  · exact compiled_of_not_hits hHits limit name

/-- What is compiled with a faithful cache has the nodes of its source, and the cache stays
faithful. -/
theorem spec_of_compile_ok (h : history.cache.Faithful) {template : Template} {after : History}
    (hc : history.compile limit options source name = .ok (template, after)) :
    ∃ nodes, Template.Reads source nodes ∧
      template.anonymous = ⟨0, 0, nodes, source, name, options⟩ ∧ after.cache.Faithful := by
  have hCompiled := compiled h limit options source name
  rw [hc] at hCompiled
  cases hCompiled with
  | found hHits hNodes hSpec hEntry hAfter =>
    exact ⟨_, hNodes, hSpec, hAfter ▸ h.insert hEntry.1 hEntry.2⟩
  | @made _ _ nodes hMiss hNodes hSpec hAfter =>
    obtain ⟨hSame, hSource, -⟩ := Template.anonymous_eq_iff.1 hSpec
    have hReads := Template.reads_of_compile hNodes
    refine ⟨nodes, hReads, hSpec, ?_⟩
    rw [hAfter]
    split
    · exact h.insert hSource (hSame ▸ hReads)
    · exact h

/-- A source is refused for what is wrong with it, and only if it is not in the cache. -/
theorem error_of_compile (h : history.cache.Faithful) {error : CompileError}
    (hc : history.compile limit options source name = .error error) :
    Template.compile limit source name = .error error ∧ ¬history.Hits options source := by
  have hCompiled := compiled h limit options source name
  rw [hc] at hCompiled
  cases hCompiled with
  | refused hMiss hError => exact ⟨hError, hMiss⟩

/-- A source that has nodes is compiled, unless it is refused for its depth. -/
theorem compile_of_not_refused (h : history.cache.Faithful) {nodes : List Node}
    (hNodes : Template.Reads source nodes)
    (hRefused : ∀ error, history.compile limit options source name = .error error →
      ¬Template.TooDeep limit source) :
    ∃ template after, history.compile limit options source name = .ok (template, after) ∧
      template.anonymous = ⟨0, 0, nodes, source, name, options⟩ ∧ after.cache.Faithful := by
  cases hc : history.compile limit options source name with
  | ok compiled =>
    obtain ⟨template, after⟩ := compiled
    obtain ⟨others, hOthers, hSpec, hAfter⟩ := spec_of_compile_ok h hc
    cases hNodes.unique hOthers
    exact ⟨template, after, rfl, hSpec, hAfter⟩
  | error error =>
    exact absurd (hNodes.tooDeep_of_compile (error_of_compile h hc).1) (hRefused error hc)

/-- A source whose blocks do not lie too deep is compiled, whether it is in the cache or not. -/
theorem compile_of_reads (h : history.cache.Faithful) {nodes : List Node}
    (hNodes : Template.Reads source nodes) (hDeep : ¬Template.TooDeep limit source)
    (options : Options) (name : Option String) :
    ∃ template after, history.compile limit options source name = .ok (template, after) ∧
      template.anonymous = ⟨0, 0, nodes, source, name, options⟩ ∧ after.cache.Faithful :=
  compile_of_not_refused h hNodes fun _ _ => hDeep

/-! ### Two histories -/

/-- Two histories with faithful caches. Whatever is in the cache of the first one is in the cache of
the second one too. -/
structure Below (history history' : History) : Prop where
  faithful : history.cache.Faithful
  faithful' : history'.cache.Faithful
  within : history.cache.Within history'.cache

theorem Below.refl (h : history.cache.Faithful) : history.Below history := ⟨h, h, .refl _⟩

/-- Compiling takes nothing out of the cache. -/
theorem Below.of_compile (h : history.cache.Faithful) {template : Template} {after : History}
    (hc : history.compile limit options source name = .ok (template, after)) :
    history.Below after := by
  obtain ⟨nodes, -, -, hFaithful⟩ := spec_of_compile_ok h hc
  refine ⟨h, hFaithful, ?_⟩
  have hCompiled := compiled h limit options source name
  rw [hc] at hCompiled
  cases hCompiled with
  | found _ _ _ _ hAfter =>
    rw [hAfter]
    exact (Cache.Within.refl _).insert_right
  | made _ _ _ hAfter =>
    rw [hAfter]
    split
    · exact (Cache.Within.refl _).insert_right
    · exact .refl _

theorem Below.hits (h : history.Below history')
    (hCache : options.cache = true → options'.cache = true) (hHits : history.Hits options source) :
    history'.Hits options' source :=
  ⟨hCache hHits.1, h.within source hHits.2⟩

/-- If both histories compile the source, then what one keeps of that is kept by the other. -/
theorem Below.within_after (h : history.Below history')
    (hCache : options.cache = true → options'.cache = true) {template template' : Template}
    {after after' : History}
    (hc : history.Compiled limit options source name (.ok (template, after)))
    (hc' : history'.Compiled limit' options' source name (.ok (template', after'))) :
    after.cache.Within after'.cache := by
  cases hc with
  | found hHits _ _ _ hAfter =>
    cases hc' with
    | found _ _ _ _ hAfter' => exact hAfter ▸ hAfter' ▸ h.within.insert
    | made hMiss => exact absurd (h.hits hCache hHits) hMiss
  | made _ _ _ hAfter =>
    cases hc' with
    | found _ _ _ _ hAfter' =>
      rw [hAfter, hAfter']
      split
      · exact h.within.insert
      · exact h.within.insert_right
    | made _ _ _ hAfter' =>
      rw [hAfter, hAfter']
      cases hOff : options.cache with
      | true =>
        rw [hCache hOff]
        exact h.within.insert
      | false =>
        rw [if_neg (by simp)]
        split
        · exact h.within.insert_right
        · exact h.within

/-- A source that the first history refuses is not in the cache of the second one, if that is in
the cache of the first one, and it is refused there too. -/
theorem Below.refused (h' : history'.Below history)
    (hCache : options'.cache = true → options.cache = true) {error : CompileError}
    (hc : history.compile limit options source name = .error error) :
    history'.compile limit options' source name = .error error := by
  obtain ⟨hError, hMiss⟩ := error_of_compile h'.faithful' hc
  have hCompiled := compiled_of_not_hits (fun hHits => hMiss (h'.hits hCache hHits)) limit name
  generalize history'.compile limit options' source name = result at hCompiled
  cases hCompiled with
  | found hHits => exact absurd (h'.hits hCache hHits) hMiss
  | made _ hMade =>
    rw [hMade] at hError
    cases hError
  | refused _ hError' =>
    rw [hError'] at hError
    cases hError
    rfl

/-- What comes of compiling a source with either of two histories: templates that say the same, or
the same error. -/
inductive CompiledAlike (options options' : Options) (source : String) (name : Option String) :
    Except CompileError (Template × History) → Except CompileError (Template × History) → Prop
  | ok {template template' : Template} {after after' : History} {nodes : List Node}
      (hNodes : Template.Reads source nodes)
      (hSpec : template.anonymous = ⟨0, 0, nodes, source, name, options⟩)
      (hSpec' : template'.anonymous = ⟨0, 0, nodes, source, name, options'⟩)
      (hAfter : after.Below after') (hAfter' : after'.Below after) :
      CompiledAlike options options' source name (.ok (template, after)) (.ok (template', after'))
  | error (error : CompileError) :
      CompiledAlike options options' source name (.error error) (.error error)

/-- Histories that keep the same sources compile alike. -/
theorem compiledAlike (h : history.Below history') (h' : history'.Below history)
    (hCache : options.cache = options'.cache) (limit : Nat) (source : String)
    (name : Option String) :
    CompiledAlike options options' source name (history.compile limit options source name)
      (history'.compile limit options' source name) := by
  have hCompiled := compiled h.faithful limit options source name
  have hCompiled' := compiled h.faithful' limit options' source name
  cases hc : history.compile limit options source name with
  | error error =>
    rw [h'.refused (hCache ▸ id) hc]
    exact .error error
  | ok result =>
    obtain ⟨template, after⟩ := result
    cases hc' : history'.compile limit options' source name with
    | error error =>
      rw [h.refused (hCache ▸ id) hc'] at hc
      cases hc
    | ok result' =>
      obtain ⟨template', after'⟩ := result'
      obtain ⟨nodes, hNodes, hSpec, hAfter⟩ := spec_of_compile_ok h.faithful hc
      obtain ⟨others, hOthers, hSpec', hAfter'⟩ := spec_of_compile_ok h.faithful' hc'
      cases hNodes.unique hOthers
      rw [hc] at hCompiled
      rw [hc'] at hCompiled'
      exact .ok hNodes hSpec hSpec'
        ⟨hAfter, hAfter', h.within_after (hCache ▸ id) hCompiled hCompiled'⟩
        ⟨hAfter', hAfter, h'.within_after (hCache ▸ id) hCompiled' hCompiled⟩

/-- What comes of compiling a source with either of two histories: templates that say the same, the
same error, or an error of the first one alone, because blocks lie too deep for it. -/
inductive CompiledBelow (limit : Nat) (options options' : Options) (source : String)
    (name : Option String) : Except CompileError (Template × History) →
    Except CompileError (Template × History) → Prop
  | ok {template template' : Template} {after after' : History} {nodes : List Node}
      (hNodes : Template.Reads source nodes)
      (hSpec : template.anonymous = ⟨0, 0, nodes, source, name, options⟩)
      (hSpec' : template'.anonymous = ⟨0, 0, nodes, source, name, options'⟩)
      (hAfter : after.Below after') :
      CompiledBelow limit options options' source name (.ok (template, after))
        (.ok (template', after'))
  | error (error : CompileError) :
      CompiledBelow limit options options' source name (.error error) (.error error)
  | refused {error : CompileError} {result : Except CompileError (Template × History)}
      (hDeep : Template.TooDeep limit source) :
      CompiledBelow limit options options' source name (.error error) result

/-- The second history has as high a limit, and uses its cache if the first one does. -/
theorem compiledBelow (h : history.Below history')
    (hCache : options.cache = true → options'.cache = true)
    (hLimit : Template.TooDeep limit' source → Template.TooDeep limit source)
    (name : Option String) :
    CompiledBelow limit options options' source name (history.compile limit options source name)
      (history'.compile limit' options' source name) := by
  cases hc : history.compile limit options source name with
  | error error =>
    have hError := (error_of_compile h.faithful hc).1
    by_cases hDeep : Template.TooDeep limit source
    · exact .refused hDeep
    · rw [Template.compile_eq_of_not_tooDeep hDeep (mt hLimit hDeep)] at hError
      cases hc' : history'.compile limit' options' source name with
      | error error' =>
        rw [(error_of_compile h.faithful' hc').1] at hError
        cases hError
        exact .error error
      | ok compiled =>
        obtain ⟨nodes, hNodes, -⟩ := spec_of_compile_ok h.faithful' hc'
        exact absurd (hLimit (hNodes.tooDeep_of_compile hError)) hDeep
  | ok compiled =>
    obtain ⟨template, after⟩ := compiled
    obtain ⟨nodes, hNodes, hSpec, hAfter⟩ := spec_of_compile_ok h.faithful hc
    have hCompiled := compiled h.faithful limit options source name
    have hCompiled' := compiled h.faithful' limit' options' source name
    rw [hc] at hCompiled
    cases hc' : history'.compile limit' options' source name with
    | ok compiled' =>
      obtain ⟨template', after'⟩ := compiled'
      obtain ⟨others, hOthers, hSpec', hAfter'⟩ := spec_of_compile_ok h.faithful' hc'
      cases hNodes.unique hOthers
      rw [hc'] at hCompiled'
      exact .ok hNodes hSpec hSpec' ⟨hAfter, hAfter', h.within_after hCache hCompiled hCompiled'⟩
    | error error =>
      -- The second one refuses the source at its limit, so the first one has it in its cache.
      obtain ⟨hError, hMiss⟩ := error_of_compile h.faithful' hc'
      have hDeep := hLimit (hNodes.tooDeep_of_compile hError)
      cases hCompiled with
      | found hHits => exact absurd (h.hits hCache hHits) hMiss
      | made _ hMade =>
        rw [Template.TooDeep, Template.compile_eq_ok_iff.1 hMade] at hDeep
        cases hDeep

end History

end Stencil
