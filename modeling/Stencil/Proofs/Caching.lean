import Stencil.Proofs.Cycles

/-!
What a render leaves in the cache. Whether a partial is compiled with the cache is up to the
defaults of the engine; the options of the call are not asked. So a call that turns the cache off
leaves it alone as long as no partial is compiled, or the engine does not use its cache at all, and
otherwise the uses that the cache counts go up.
-/

namespace Stencil

/-! ### Counting uses -/

namespace Cache

/-- The uses of some entries. -/
def usesOf : List (String × CacheEntry) → Nat
  | [] => 0
  | entry :: entries => entry.2.uses + usesOf entries

theorem totalUses_eq (cache : Cache) : cache.totalUses = usesOf cache.entries := by
  have hFold (entries : List (String × CacheEntry)) (total : Nat) :
      entries.foldl (fun total entry => total + entry.2.uses) total = total + usesOf entries := by
    induction entries generalizing total with
    | nil => rfl
    | cons entry entries ih =>
      rw [List.foldl_cons, ih, usesOf]
      omega
  rw [totalUses, hFold, Nat.zero_add]

/-- An entry takes the place of what stood under its name. -/
theorem usesOf_insertEntry (source : String) (entry : CacheEntry)
    (entries : List (String × CacheEntry)) :
    usesOf (Table.insertEntry source entry entries) +
        ((entries.lookup source).elim 0 CacheEntry.uses) =
      usesOf entries + entry.uses := by
  induction entries with
  | nil => simp [Table.insertEntry, usesOf]
  | cons first entries ih =>
    obtain ⟨key, old⟩ := first
    by_cases hKey : key = source
    · subst hKey
      simp [Table.insertEntry, usesOf]
      omega
    · have hOther : (source == key) = false := beq_eq_false_iff_ne.2 (Ne.symm hKey)
      simp only [Table.insertEntry, if_neg hKey, List.lookup_cons, hOther, usesOf]
      omega

theorem totalUses_insert (cache : Cache) (source : String) (entry : CacheEntry) :
    Cache.totalUses (Table.insert cache source entry) +
        ((cache.find? source).elim 0 CacheEntry.uses) =
      cache.totalUses + entry.uses := by
  rw [totalUses_eq, totalUses_eq]
  exact usesOf_insertEntry source entry cache.entries

end Cache

namespace History

variable {history after : History} {limit : Nat} {options : Options} {source : String}
  {name : Option String} {template : Template}

theorem make_cache (h : history.make limit options source name = .ok (template, after)) :
    after.cache = history.cache ∧ template.source = source := by
  unfold make at h
  cases hNodes : Template.compile limit source name with
  | error error =>
    rw [hNodes] at h
    cases h
  | ok nodes =>
    rw [hNodes] at h
    cases h
    exact ⟨rfl, rfl⟩

/-- What compiling does to the cache: nothing if the cache is off; otherwise the entry of the source
has one use more, or there is a new one. -/
theorem compile_cases (h : history.compile limit options source name = .ok (template, after)) :
    (options.cache = false ∧ after.cache = history.cache) ∨
      (options.cache = true ∧ ∃ entry, history.cache.find? source = some entry ∧
        after.cache = history.cache.insert source { entry with uses := entry.uses + 1 }) ∨
      (options.cache = true ∧ history.cache.find? source = none ∧
        ∃ made : Template, made.source = source ∧
          after.cache = history.cache.insert source ⟨made, source, 1⟩) := by
  cases hCache : options.cache with
  | false =>
    rw [compile_of_not_cache hCache] at h
    exact .inl ⟨rfl, (make_cache h).1⟩
  | true =>
    refine .inr ?_
    cases hFound : history.cache.find? source with
    | some entry =>
      obtain ⟨used, hUsed, hCompile⟩ := compile_of_find? limit name hCache hFound
      have hRebind := (rebind_spec used entry.template options name).2
      rw [hCompile] at h
      rw [Except.ok.inj h] at hRebind
      exact .inl ⟨rfl, entry, rfl, hRebind.trans hUsed⟩
    | none =>
      rw [compile_of_find?_none hCache hFound] at h
      cases hMake : history.make limit options source name with
      | error error =>
        rw [hMake] at h
        cases h
      | ok made =>
        obtain ⟨made, later⟩ := made
        rw [hMake] at h
        cases h
        obtain ⟨hSame, hSource⟩ := make_cache hMake
        refine .inr ⟨rfl, rfl, template, hSource, ?_⟩
        rw [← hSame]
        rfl

/-- Compiling without the cache leaves it alone. -/
theorem compile_cache (hCache : options.cache = false)
    (h : history.compile limit options source name = .ok (template, after)) :
    after.cache = history.cache := by
  rcases compile_cases h with ⟨-, hSame⟩ | ⟨hOn, -⟩ | ⟨hOn, -⟩
  · exact hSame
  · rw [hCache] at hOn
    cases hOn
  · rw [hCache] at hOn
    cases hOn

/-- Compiling with the cache is one use more. -/
theorem compile_totalUses (hCache : options.cache = true)
    (h : history.compile limit options source name = .ok (template, after)) :
    after.cache.totalUses = history.cache.totalUses + 1 := by
  rcases compile_cases h with ⟨hOff, -⟩ | ⟨-, entry, hFound, hAfter⟩ | ⟨-, hFound, made, -, hAfter⟩
  · rw [hCache] at hOff
    cases hOff
  · have hTotal := Cache.totalUses_insert history.cache source
      { entry with uses := entry.uses + 1 }
    rw [hFound, Option.elim_some] at hTotal
    rw [hAfter]
    dsimp only at hTotal
    omega
  · have hTotal := Cache.totalUses_insert history.cache source ⟨made, source, 1⟩
    rw [hFound] at hTotal
    rw [hAfter]
    exact hTotal

end History

namespace Render

variable {setup : Setup}

/-- Partials are compiled with the cache if that is the default of the engine. -/
theorem partial_cache {options : Options} {strict noEscape : Bool} :
    options.cache = (options.merge { strict, noEscape }).cache := rfl

/-! ### Where no partial is compiled -/

/-- If the bodies that it asks for leave the history alone, then so does the action. -/
theorem carryOut_unchanged {α : Type} {body : Value → Metadata → Step String} {action : Action α}
    {state : State} (h : ∀ inner more last, Asks body action state inner more last →
      ((body inner more).run last).2.history = last.history) :
    ((carryOut body action).run state).2.history = state.history := by
  induction action generalizing state with
  | done a => rfl
  | fail failure => rfl
  | body context metadata next ih =>
    rw [run_carryOut_body, ← h _ _ _ .now]
    exact ih _ fun inner more last hAsks => h inner more last (.later rfl hAsks)
  | frame next ih => exact ih state.published fun inner more last hAsks => h _ _ _ (.frame hAsks)

theorem Task.unchanged {task : Task}
    (h : ∀ site, task.Visits setup site → (site.outcome setup).2.history = site.state.history) :
    (task.outcome setup).2.history = task.state.history := by
  obtain ⟨room, frame, nodes, context, metadata, state⟩ := task
  induction nodes generalizing state with
  | nil =>
    unfold outcome renderNodes
    rfl
  | cons node nodes ih =>
    have hSite := h _ .head
    rw [outcome_cons]
    rcases hFirst : Site.outcome setup ⟨room, frame, node, context, metadata, state⟩
      with ⟨failure | text, middle⟩
    · rw [hFirst] at hSite
      rw [run_bind_of_error hFirst]
      exact hSite
    · rw [hFirst] at hSite
      rw [run_bind_of_ok hFirst]
      have hLater := ih middle fun site hVisits => h site (.tail hFirst hVisits)
      exact holds_bind (I := fun after => after.history = state.history)
        (hLater.trans hSite) fun later => keeps_pure _ _

/-- A block whose helper is not known leaves the history alone, whether it is an error or not. -/
theorem Site.unchanged_of_unknown {site : Site} {offset : Nat} {name : String}
    {arguments : List String} {children : List Node}
    (hNode : site.node = .block offset name arguments children)
    (hFound : setup.helpers.find? name = none) :
    (site.outcome setup).2.history = site.state.history := by
  unfold outcome
  rw [hNode]
  unfold renderNode helper?
  rw [hFound]
  cases site.frame.strict with
  | true => rfl
  | false => rfl

/-- A partial is compiled for the node. -/
inductive Site.Compiles (setup : Setup) (site : Site) (after : History) : Prop
  | intro {offset : Nat} {name source : String} {expression : Option String} {inner : Value}
      {frame : Frame} {template : Template} (hNode : site.node = .inclusion offset name expression)
      (hFound : setup.partials.find? name = some source)
      (hContext : site.innerContext? setup expression = .ok inner)
      (hEnter : site.frame.enter name source = .ok frame)
      (hCompile : site.state.history.compile (site.limit setup) (site.innerOptions setup) source
        (some name) = .ok (template, after)) : Compiles setup site after

/-- A node for which no partial is compiled leaves the history alone if the bodies do that are
rendered for it. -/
theorem Site.unchanged {site : Site} (hNone : ∀ after, ¬ site.Compiles setup after)
    (h : ∀ inner, site.Starts setup [] inner →
      (inner.outcome setup).2.history = inner.state.history) :
    (site.outcome setup).2.history = site.state.history := by
  have hText (value : Value) : Keeps (fun after => after.history = site.state.history)
      (textOf site.frame site.node.offset value) := keeps_textOf _ _ _ value
  cases hNode : site.node with
  | text offset content => rw [outcome_text hNode]
  | output offset path arguments filters =>
    have hKeeps : Keeps (fun after => after.history = site.state.history)
        (renderOutput setup site.frame offset path arguments filters site.context site.metadata) :=
      keeps_renderOutput _ _ _ _ _ _ _ _
    unfold outcome
    rw [hNode, renderNode]
    exact hKeeps site.state rfl
  | block offset name arguments children =>
    cases hFound : setup.helpers.find? name with
    | none => exact unchanged_of_unknown hNode hFound
    | some helper =>
      rw [outcome_block hNode hFound]
      rcases resolveAll_cases site.context site.metadata arguments with
        ⟨values, hValues⟩ | ⟨before, path, after, values, fault, rfl, hBefore, hFault⟩
      · rw [run_bind_of_ok (run_lookUpAll_of_ok hValues _)]
        refine holds_bind (I := fun after => after.history = site.state.history) ?_ hText
        cases hKind : helper.isBlock with
        | true =>
          rw [if_pos rfl, run_call]
          refine carryOut_unchanged fun inner more last hAsks => ?_
          cases hOpens : setup.machine.opens (.body name :: last.around) with
          | true =>
            rw [run_body_of_opens hOpens]
            exact h _ (.body hNode hFound hKind hValues hAsks hOpens)
          | false => rw [run_body_of_not_opens hOpens]
        | false =>
          rw [if_neg Bool.false_ne_true, run_call]
          exact carryOut_unchanged fun _ _ _ _ => rfl
      · rw [run_bind_of_error (run_lookUpAll_of_error hBefore hFault after site.state)]
  | inclusion offset name expression =>
    have hIncluded : site.Included setup name expression (site.outcome setup) := included hNode
    generalize site.outcome setup = outcome at hIncluded
    cases hIncluded with
    | bounded hFound hContext hEnter hCompile
    | closed hFound hContext hEnter hCompile
    | rendered hFound hContext hEnter hCompile =>
      exact absurd (.intro hNode hFound hContext hEnter hCompile) (hNone _)
    | _ => rfl

/-- Somewhere on the way of the render a partial is compiled. -/
def Task.CompilesPartial (setup : Setup) (task : Task) : Prop :=
  ∃ path site after, Leads setup task path site ∧ site.Compiles setup after

/-- As long as no partial is compiled, the history stays as it is. -/
theorem Task.unchanged_of_not_compilesPartial (task : Task) (h : ¬ task.CompilesPartial setup) :
    (task.outcome setup).2.history = task.state.history := by
  refine Task.unchanged fun site hVisits => ?_
  refine Site.unchanged (fun after hCompiles => h ⟨[], site, after, .visit hVisits, hCompiles⟩) ?_
  intro inner hStarts
  have hSmaller := hStarts.smaller hVisits
  have hInner : ¬ inner.CompilesPartial setup := fun ⟨path, last, after, hLeads, hCompiles⟩ =>
    h ⟨_, last, after, .inside hVisits hStarts hLeads, hCompiles⟩
  exact unchanged_of_not_compilesPartial inner hInner
termination_by (task.room, sizeOf task.nodes)
decreasing_by
  rcases hSmaller with hRoom | ⟨hRoom, hNodes⟩
  · exact .left _ _ hRoom
  · rw [hRoom]
    exact .right _ hNodes

/-! ### Where partials are compiled -/

/-- The history counts at least so many uses. -/
def Counts (least : Nat) (history : History) : Prop := least ≤ history.cache.totalUses

theorem keptByCompiling_counts (setup : Setup) (least : Nat) :
    KeptByCompiling setup (Counts least) := by
  intro history limit strict noEscape source name template after h hCompile
  unfold Counts at *
  cases hCache : setup.options.cache with
  | true =>
    have hMore : after.cache.totalUses = history.cache.totalUses + 1 :=
      History.compile_totalUses (partial_cache ▸ hCache) hCompile
    omega
  | false => rwa [History.compile_cache (partial_cache ▸ hCache) hCompile]

/-- If the engine does not use its cache, no partial touches it. -/
theorem keptByCompiling_cache (hCache : setup.options.cache = false) (cache : Cache) :
    KeptByCompiling setup fun history => history.cache = cache := by
  intro history limit strict noEscape source name template after h hCompile
  rw [History.compile_cache (partial_cache ▸ hCache) hCompile]
  exact h

/-- What holds of the history when a partial has been compiled still holds behind the node. -/
theorem Site.Compiles.holds {J : History → Prop} (hJ : KeptByCompiling setup J) {site : Site}
    {after : History} (hCompiles : site.Compiles setup after) (h : J after) :
    J (site.outcome setup).2.history := by
  cases hCompiles with
  | @intro offset name source expression inner frame template hNode hFound hContext hEnter
      hCompile =>
    have hRun := run_compile_of_ok site.state hCompile
    rw [innerOptions] at hRun
    let compiled : State := { site.state with history := after }
    have hKept : Kept J site.state.published compiled := ⟨h, rfl⟩
    rw [outcome_inclusion hNode hFound hContext]
    unfold enterPartial
    rw [hEnter]
    dsimp only
    rw [run_bind_of_ok hRun]
    cases site.room with
    | zero => exact h
    | succ room =>
      refine (keeps_publishing ?_ _ compiled hKept).history
      have hInside := @keeps_inside String _ (indifferent_kept J (some frame)) setup.machine
      exact hInside _ (keeps_renderNodes hInside
        (fun _ _ _ _ => keeps_enterPartial hJ _ _ _ _ _ _ _) template.nodes inner site.metadata)

/-- A partial that is compiled is one use of the cache more, if the engine uses its cache. -/
theorem Task.counts_of_compilesPartial {task : Task} (hCache : setup.options.cache = true)
    (hFrame : task.state.published = some task.frame) (h : task.CompilesPartial setup) :
    Counts (task.state.history.cache.totalUses + 1) (task.outcome setup).2.history := by
  obtain ⟨path, site, after, hLeads, hCompiles⟩ := h
  have hSite : Kept (Counts task.state.history.cache.totalUses) (some site.frame) site.state :=
    hLeads.kept (keptByCompiling_counts setup _) ⟨Nat.le_refl _, hFrame⟩
  have hMore : after.cache.totalUses = site.state.history.cache.totalUses + 1 := by
    cases hCompiles with
    | intro _ _ _ _ hCompile =>
      exact History.compile_totalUses (partial_cache ▸ hCache) hCompile
  -- One use more is counted where the partial is compiled, and from there on it stays counted.
  refine hLeads.holds (keptByCompiling_counts setup _)
    (hCompiles.holds (keptByCompiling_counts setup _) ?_)
  have hLeast : task.state.history.cache.totalUses ≤ _ := hSite.history
  rw [Counts, hMore]
  omega

end Render

namespace Engine

open Render

variable {engine after : Engine} {template : Template}

/-! ### Calls -/

/-- The engine after calls of a template, each with a context and named values. -/
def callAll (engine : Engine) (template : Template)
    (calls : List (Value × List (String × Value))) : Engine :=
  calls.foldl (fun engine call => (engine.call template call.1 call.2).2) engine

/-- In one of the calls a partial is compiled. -/
def CompilesPartial (engine : Engine) (template : Template) :
    List (Value × List (String × Value)) → Prop
  | [] => False
  | (context, named) :: calls =>
    (engine.task template context named).CompilesPartial engine.setup ∨
      CompilesPartial (engine.call template context named).2 template calls

theorem callAll_cons (call : Value × List (String × Value))
    (calls : List (Value × List (String × Value))) :
    engine.callAll template (call :: calls) =
      (engine.call template call.1 call.2).2.callAll template calls := rfl

/-- What compiling keeps of the history is kept by a call. -/
theorem call_holds {J : History → Prop} (hJ : KeptByCompiling engine.setup J)
    (h : J engine.history) (context : Value) (named : List (String × Value)) :
    J (engine.call template context named).2.history := by
  have hKept : Kept J _ ((engine.task template context named).outcome engine.setup).2 :=
    Task.kept_outcome hJ ⟨h, rfl⟩
  exact hKept.history

theorem callAll_holds {J : History → Prop} (hJ : KeptByCompiling engine.setup J)
    (h : J engine.history) (calls : List (Value × List (String × Value))) :
    J (engine.callAll template calls).history := by
  induction calls generalizing engine with
  | nil => exact h
  | cons call calls ih =>
    rw [callAll_cons]
    exact ih hJ (call_holds hJ h call.1 call.2)

theorem call_cache_of_not_compilesPartial (context : Value) (named : List (String × Value))
    (h : ¬ (engine.task template context named).CompilesPartial engine.setup) :
    (engine.call template context named).2.history.cache = engine.history.cache := by
  have hSame := (engine.task template context named).unchanged_of_not_compilesPartial h
  exact congrArg History.cache hSame

/-- What the first of some calls counts is still counted in the end. -/
theorem callAll_cache_of_compilesPartial (context : Value) (named : List (String × Value))
    (hCache : engine.setup.options.cache = true)
    (h : (engine.task template context named).CompilesPartial engine.setup)
    (calls : List (Value × List (String × Value))) :
    (engine.callAll template ((context, named) :: calls)).history.cache ≠
      engine.history.cache := by
  have hFirst : Counts _ (engine.call template context named).2.history :=
    Task.counts_of_compilesPartial hCache rfl h
  have hEnd : Counts _ (engine.callAll template ((context, named) :: calls)).history :=
    callAll_holds (keptByCompiling_counts _ _) hFirst calls
  intro hSame
  rw [Counts, hSame] at hEnd
  exact Nat.not_succ_le_self _ hEnd

/-- Calls leave the cache alone just if the engine does not use it by default, or no partial is
compiled in any of them. -/
theorem callAll_cache_iff (calls : List (Value × List (String × Value))) :
    (engine.callAll template calls).history.cache = engine.history.cache ↔
      engine.setup.options.cache = false ∨ ¬ engine.CompilesPartial template calls := by
  cases hCache : engine.setup.options.cache with
  | false =>
    refine iff_of_true ?_ (.inl rfl)
    exact callAll_holds (J := fun history => history.cache = engine.history.cache)
      (keptByCompiling_cache hCache _) rfl calls
  | true =>
    rw [or_iff_right nofun]
    induction calls generalizing engine with
    | nil => exact ⟨fun _ h => h, fun _ => rfl⟩
    | cons call calls ih =>
      obtain ⟨context, named⟩ := call
      rw [CompilesPartial, not_or]
      by_cases hFirst : (engine.task template context named).CompilesPartial engine.setup
      · exact iff_of_false (callAll_cache_of_compilesPartial context named hCache hFirst calls)
          fun hNone => hNone.1 hFirst
      · have hSame := call_cache_of_not_compilesPartial context named hFirst
        rw [and_iff_right hFirst, callAll_cons, ← hSame]
        exact ih hCache

/-! ### Whole requests -/

theorem compile_cache_off (source : String) (name : Option String) (overrides : Overrides) :
    (engine.compile source name { overrides with cache := some false }).2.history.cache =
      engine.history.cache := by
  cases hCompile : engine.history.compile (engine.setup.machine.nesting [])
      (engine.setup.options.merge { overrides with cache := some false }) source name with
  | error error => rw [compile_of_error hCompile]
  | ok compiled =>
    rw [compile_of_ok hCompile]
    exact History.compile_cache rfl hCompile

/-- Rendering a source is compiling it and calling the template. -/
theorem render_of_compile {source : String} {overrides : Overrides} (context : Value)
    (h : engine.compile source none overrides = (.ok template, after)) :
    (engine.render source context overrides).2 = after.callAll template [(context, [])] := by
  cases hCompile : engine.history.compile (engine.setup.machine.nesting [])
      (engine.setup.options.merge overrides) source none with
  | error error =>
    rw [compile_of_error hCompile] at h
    cases h
  | ok compiled =>
    rw [compile_of_ok hCompile] at h
    cases h
    rw [render, run, run_bind_of_ok (run_compile_of_ok { history := engine.history } hCompile)]
    rfl

/-- A source that cannot be compiled leaves the engine as it is. -/
theorem render_of_error {source : String} {overrides : Overrides} {failure : Failure}
    (context : Value) (h : engine.compile source none overrides = (.error failure, after)) :
    (engine.render source context overrides).2 = engine := by
  cases hCompile : engine.history.compile (engine.setup.machine.nesting [])
      (engine.setup.options.merge overrides) source none with
  | error error =>
    rw [render, run,
      run_bind_of_error (run_compile_of_error { history := engine.history } hCompile)]
  | ok compiled =>
    rw [compile_of_ok hCompile] at h
    cases h

/-- A call that turns the cache off compiles its source without it. What is rendered then leaves the
cache alone just if the engine does not use it by default, or no partial is compiled: that is done
with the default of the engine, and is one use more. -/
theorem cache_off_iff (machine : Machine) (options : Options) (operations : List Operation)
    (source : String) (name : Option String) (overrides : Overrides) :
    let engine := (new machine options).performAll operations
    let off : Overrides := { overrides with cache := some false }
    (engine.compile source name off).2.history.cache = engine.history.cache ∧
      (∀ template after, engine.compile source name off = (.ok template, after) → ∀ calls,
        (after.callAll template calls).history.cache = engine.history.cache ↔
          engine.setup.options.cache = false ∨ ¬ after.CompilesPartial template calls) ∧
      ∀ context, (engine.render source context off).2.history.cache = engine.history.cache ↔
        engine.setup.options.cache = false ∨
          ∀ template after, engine.compile source none off = (.ok template, after) →
            ¬ after.CompilesPartial template [(context, [])] := by
  intro engine off
  have hCalls (name : Option String) (template : Template) (after : Engine)
      (hCompile : engine.compile source name off = (.ok template, after))
      (calls : List (Value × List (String × Value))) :
      (after.callAll template calls).history.cache = engine.history.cache ↔
        engine.setup.options.cache = false ∨ ¬ after.CompilesPartial template calls := by
    have hOff : (engine.compile source name off).2.history.cache = engine.history.cache :=
      compile_cache_off source name overrides
    have hSetup : (engine.compile source name off).2.setup = engine.setup := rfl
    rw [hCompile] at hOff hSetup
    rw [← hOff, ← hSetup]
    exact callAll_cache_iff calls
  refine ⟨compile_cache_off source name overrides, hCalls name, fun context => ?_⟩
  rcases hCompile : engine.compile source none off with ⟨failure | template, after⟩
  · rw [render_of_error context hCompile]
    exact iff_of_true rfl (.inr nofun)
  · rw [render_of_compile context hCompile, hCalls none template after hCompile]
    simp

/-- The same call with a partial, of an engine that does not use its cache by default and of one
that does. -/
theorem cache_off_iff_row :
    let operations : List Operation := [.registerPartial "row" "x"]
    let quiet := (new .small { cache := false }).performAll operations
    let busy := (new .small {}).performAll operations
    let source := Node.tag "> row"
    let off : Overrides := { cache := some false }
    (quiet.render source .null off).2.history.cache = quiet.history.cache ∧
      ∃ template after, busy.compile source none off = (.ok template, after) ∧
        after.CompilesPartial template [(.null, [])] := by
  intro operations quiet busy source off
  have hQuiet := (cache_off_iff .small { cache := false } operations source none off).2.2 .null
  have hBusy := (cache_off_iff .small {} operations source none off).2.2 .null
  have hChanged : (busy.render source .null off).2.history.cache ≠ busy.history.cache :=
    fun hSame => absurd (congrArg Table.size hSame) (by decide +kernel)
  refine ⟨hQuiet.2 (.inl rfl), ?_⟩
  by_contra hNone
  exact hChanged (hBusy.2 (.inr fun template after hCompile hCompiles =>
    hNone ⟨template, after, hCompile, hCompiles⟩))

/-- The cache is off for the call, and yet the partial is in the cache afterwards. -/
theorem cache_changed_though_off :
    let engine := (new .small {}).performAll [.registerPartial "p" "x"]
    (engine.render (Node.tag "> p") .null { cache := some false }).2.history.cache ≠
      engine.history.cache :=
  fun hSame => absurd (congrArg Table.size hSame) (by decide +kernel)

end Engine

end Stencil
