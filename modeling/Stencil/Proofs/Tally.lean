import Stencil.Proofs.Compilations
import Stencil.Proofs.Rounding
import Mathlib.Algebra.BigOperators.Group.List.Lemmas

/-!
What the cache counts. It has an entry for every source that was compiled with the cache since it
was last cleared, and the entry counts how often. So its totals are those of the compilations,
whatever the operations of the engine were and whether they succeeded.
-/

namespace Stencil

/-! ### The tally -/

/-- The cache counts for every source of the list how often it occurs there, and has no other
entries. -/
structure Cache.Tallies (cache : Cache) (sources : List String) : Prop where
  own : ∀ source entry, cache.find? source = some entry →
    entry.source = source ∧ entry.template.source = source ∧ 0 < entry.uses
  counts : ∀ source, (cache.find? source).elim 0 CacheEntry.uses = sources.count source
  total : cache.totalUses = sources.length

namespace Cache.Tallies

variable {cache : Cache} {sources : List String}

theorem empty : Cache.Tallies .empty [] where
  own _ _ h := nomatch h
  counts _ := rfl
  total := rfl

theorem mem_names_iff (h : cache.Tallies sources) (source : String) :
    source ∈ cache.names ↔ source ∈ sources := by
  rw [Table.mem_names_iff, ← List.count_pos_iff, ← h.counts]
  cases hFound : cache.find? source with
  | none => simp
  | some entry => simp [(h.own source entry hFound).2.2]

/-- One use more of a source, whether it is new or not. -/
theorem insert (h : cache.Tallies sources) {source : String} {entry : CacheEntry}
    (hSource : entry.source = source) (hTemplate : entry.template.source = source)
    (hUses : entry.uses = sources.count source + 1) :
    Cache.Tallies (Table.insert cache source entry) (sources ++ [source]) where
  own other found hFound := by
    rw [Table.find?_insert] at hFound
    by_cases hSame : other = source
    · rw [if_pos hSame] at hFound
      cases hFound
      subst hSame
      exact ⟨hSource, hTemplate, by omega⟩
    · rw [if_neg hSame] at hFound
      exact h.own other found hFound
  counts other := by
    rw [Table.find?_insert, List.count_append]
    by_cases hSame : other = source
    · subst hSame
      simp [hUses]
    · simp [hSame, Ne.symm hSame, h.counts]
  total := by
    have hTotal := Cache.totalUses_insert cache source entry
    rw [h.counts, h.total, hUses] at hTotal
    rw [List.length_append, List.length_singleton]
    omega

/-- The uses of all entries together are as many as there are sources. -/
theorem sum_counts (h : cache.Tallies sources) :
    (cache.names.map sources.count).sum = sources.length := by
  -- The names are the sources without repetitions, in some order.
  have hPerm : cache.names.Perm sources.dedup :=
    (List.perm_ext_iff_of_nodup cache.nodup (List.nodup_dedup sources)).2 fun source =>
      (h.mem_names_iff source).trans List.mem_dedup.symm
  rw [(hPerm.map sources.count).sum_eq, List.sum_map_count_dedup_eq_length]

end Cache.Tallies

/-- The sources that were compiled with the cache, each as often as it was. -/
def cachedSources (log : List Compilation) : List String :=
  (log.filter Compilation.cached).map Compilation.source

theorem cachedSources_append (log log' : List Compilation) :
    cachedSources (log ++ log') = cachedSources log ++ cachedSources log' := by
  rw [cachedSources, List.filter_append, List.map_append]
  rfl

namespace History

variable {history after : History} {sources : List String}

/-- Compiling a source with the cache is one use of it, and without the cache it is none. -/
theorem tallies_of_compile {limit : Nat} {options : Options} {source : String}
    {name : Option String} {template : Template} (h : history.cache.Tallies sources)
    (hCompile : history.compile limit options source name = .ok (template, after)) :
    after.cache.Tallies (sources ++ cachedSources [⟨source, options.cache⟩]) := by
  rcases compile_cases hCompile with
    ⟨hOff, hSame⟩ | ⟨hOn, entry, hFound, hSame⟩ | ⟨hOn, hFound, made, hSource, hSame⟩
  · rw [hSame, hOff]
    change history.cache.Tallies (sources ++ [])
    rwa [List.append_nil]
  · obtain ⟨hSource, hTemplate, -⟩ := h.own source entry hFound
    have hCount := h.counts source
    rw [hFound, Option.elim_some] at hCount
    rw [hSame, hOn]
    exact h.insert hSource hTemplate (congrArg (· + 1) hCount)
  · have hCount := h.counts source
    rw [hFound, Option.elim_none] at hCount
    rw [hSame, hOn]
    exact h.insert rfl hSource (congrArg (· + 1) hCount)

theorem Compiles.tallies {log : List Compilation} (hLog : history.Compiles log after)
    (h : history.cache.Tallies sources) : after.cache.Tallies (sources ++ cachedSources log) := by
  induction hLog generalizing sources with
  | nil => rwa [cachedSources, List.filter_nil, List.map_nil, List.append_nil]
  | cons hFirst hLater ih =>
    have hAll := ih (tallies_of_compile h hFirst)
    rwa [List.append_assoc, ← cachedSources_append] at hAll

end History

namespace Engine

open Render

variable {engine : Engine}

/-! ### Operations -/

/-- The source, if it can be compiled. -/
def compiled (engine : Engine) (source : String) (name : Option String) (overrides : Overrides) :
    List Compilation :=
  match (engine.compile source name overrides).1 with
  | .error _ => []
  | .ok _ => [⟨source, (engine.setup.options.merge overrides).cache⟩]

/-- What an operation compiles, the earliest first: a source that is compiled successfully, and all
that the nodes of a template ask for while they are rendered. -/
def compilations (engine : Engine) : Operation → List Compilation
  | .compile source name overrides => engine.compiled source name overrides
  | .render source context overrides =>
    engine.compiled source none overrides ++
      match engine.compile source none overrides with
      | (.error _, _) => []
      | (.ok template, after) => (after.task template context []).compilations after.setup
  | .call template context named =>
    (engine.task template context named).compilations engine.setup
  | .registerHelper .. | .registerHelpers .. | .registerPartial .. | .registerPartials ..
  | .clearCache => []

/-- What was compiled since the cache was last cleared, after an operation. -/
def logAfter (engine : Engine) (log : List Compilation) : Operation → List Compilation
  | .clearCache => []
  | operation => log ++ engine.compilations operation

/-- What was compiled since the cache was last cleared, after operations. -/
def logAfterAll (engine : Engine) (log : List Compilation) : List Operation → List Compilation
  | [] => log
  | operation :: operations =>
    (engine.perform operation).logAfterAll (engine.logAfter log operation) operations

theorem compiles_compile (engine : Engine) (source : String) (name : Option String)
    (overrides : Overrides) :
    engine.history.Compiles (engine.compilations (.compile source name overrides))
      (engine.compile source name overrides).2.history := by
  change engine.history.Compiles (engine.compiled source name overrides) _
  rw [compiled]
  cases hCompile : engine.history.compile (engine.setup.machine.nesting [])
      (engine.setup.options.merge overrides) source name with
  | error error =>
    rw [compile_of_error hCompile]
    exact .nil
  | ok found =>
    rw [compile_of_ok hCompile]
    exact .single hCompile

theorem compiles_call (engine : Engine) (template : Template) (context : Value)
    (named : List (String × Value)) :
    engine.history.Compiles (engine.compilations (.call template context named))
      (engine.call template context named).2.history :=
  (engine.task template context named).compiles

theorem compiles_render (engine : Engine) (source : String) (context : Value)
    (overrides : Overrides) :
    engine.history.Compiles (engine.compilations (.render source context overrides))
      (engine.render source context overrides).2.history := by
  have hFirst := engine.compiles_compile source none overrides
  dsimp only [compilations] at hFirst ⊢
  rcases hCompile : engine.compile source none overrides with ⟨failure | template, after⟩
  · rw [compiled, hCompile, render_of_error context hCompile]
    exact .nil
  · rw [hCompile] at hFirst
    rw [render_of_compile context hCompile]
    exact hFirst.append (after.compiles_call template context [])

/-- What an operation does to the cache is to clear it or to compile. -/
theorem tallies_perform {log : List Compilation}
    (h : engine.history.cache.Tallies (cachedSources log)) (operation : Operation) :
    (engine.perform operation).history.cache.Tallies
      (cachedSources (engine.logAfter log operation)) := by
  have hSame : cachedSources (log ++ []) = cachedSources log := by rw [List.append_nil]
  cases operation with
  | registerHelper | registerHelpers | registerPartial | registerPartials => exact hSame ▸ h
  | compile source name overrides =>
    have hAfter := (engine.compiles_compile source name overrides).tallies h
    rwa [← cachedSources_append] at hAfter
  | render source context overrides =>
    have hAfter := (engine.compiles_render source context overrides).tallies h
    rwa [← cachedSources_append] at hAfter
  | call template context named =>
    have hAfter := (engine.compiles_call template context named).tallies h
    rwa [← cachedSources_append] at hAfter
  | clearCache => exact .empty

theorem tallies_performAll {log : List Compilation}
    (h : engine.history.cache.Tallies (cachedSources log)) (operations : List Operation) :
    (engine.performAll operations).history.cache.Tallies
      (cachedSources (engine.logAfterAll log operations)) := by
  induction operations generalizing engine log with
  | nil => exact h
  | cons operation operations ih => exact ih (tallies_perform h operation)

theorem compile_eq_of_error {source : String} {name : Option String} {overrides : Overrides}
    {failure : Failure} {after : Engine}
    (h : engine.compile source name overrides = (.error failure, after)) : after = engine := by
  cases hCompile : engine.history.compile (engine.setup.machine.nesting [])
      (engine.setup.options.merge overrides) source name with
  | error error =>
    rw [compile_of_error hCompile] at h
    cases h
    rfl
  | ok compiled =>
    rw [compile_of_ok hCompile] at h
    cases h

theorem run_compile_eq_of_error {machine : Machine} {options : Options} {source : String}
    {name : Option String} {state after : State} {failure : Failure}
    (h : (Render.compile machine options source name).run state = (.error failure, after)) :
    after = state := by
  cases hCompile : state.history.compile (machine.nesting state.around) options source name with
  | error error =>
    rw [run_compile_of_error state hCompile] at h
    cases h
    rfl
  | ok compiled =>
    rw [run_compile_of_ok state hCompile] at h
    cases h

theorem average_of_names {cache : Cache} (hSome : cache.names ≠ [])
    (h : cache.totalUses ≤ twoTo 1023 * cache.size) :
    ∃ quanta, cache.stats.average = .finite false quanta ∧
      Binary64.IsNearest (cache.totalUses * Binary64.one) cache.size quanta.count := by
  have hSize : cache.size ≠ 0 := fun hZero => hSome <| by
    rw [Table.names, List.length_eq_zero_iff.1 hZero]
    rfl
  obtain ⟨quanta, hQuanta, hNearest⟩ :=
    Binary64.ofIntQuotient?_of_le (Nat.pos_of_ne_zero hSize) h
  refine ⟨quanta, ?_, hNearest⟩
  rw [Cache.stats, if_neg hSize, hQuanta]
  rfl

/-- Whatever an engine was asked to do, and whether it succeeded or not: the cache has an entry for
each source that was compiled with the cache since it was last cleared, and for no other, and counts
how often that was. The statistics are the number of entries, the sum of the counts, and the nearest
number to their quotient. What cannot be compiled changes nothing. -/
theorem cache_tallies (machine : Machine) (options : Options) (operations : List Operation) :
    let engine := (new machine options).performAll operations
    let cache := engine.history.cache
    let sources := cachedSources ((new machine options).logAfterAll [] operations)
    cache.names.Nodup ∧
      (∀ source, source ∈ cache.names ↔ source ∈ sources) ∧
      (∀ source entry, cache.find? source = some entry →
        entry.source = source ∧ entry.template.source = source ∧
          entry.uses = sources.count source) ∧
      engine.stats.size = cache.names.length ∧
      engine.stats.total = (cache.names.map sources.count).sum ∧
      engine.stats.total = sources.length ∧
      (cache.names = [] → engine.stats.average = .zero) ∧
      (cache.names ≠ [] → engine.stats.total ≤ twoTo 1023 * engine.stats.size →
        ∃ quanta, engine.stats.average = .finite false quanta ∧
          Binary64.IsNearest (engine.stats.total * Binary64.one) engine.stats.size quanta.count) ∧
      (∀ source name overrides failure after,
        engine.compile source name overrides = (.error failure, after) → after = engine) ∧
      (∀ source context overrides failure after,
        engine.compile source none overrides = (.error failure, after) →
          (engine.render source context overrides).2 = engine) ∧
      ∀ (machine : Machine) (options : Options) (source : String) (name : Option String)
        (state after : State) (failure : Failure),
        (Render.compile machine options source name).run state = (.error failure, after) →
          after = state := by
  intro engine cache sources
  have hStart : (new machine options).history.cache.Tallies (cachedSources []) := .empty
  have hTallies : cache.Tallies sources := tallies_performAll hStart operations
  refine ⟨cache.nodup, hTallies.mem_names_iff, ?_, (List.length_map _).symm, ?_,
    hTallies.total, ?_, average_of_names, fun _ _ _ _ _ => compile_eq_of_error,
    fun _ context _ _ _ => render_of_error context, fun _ _ _ _ _ _ _ => run_compile_eq_of_error⟩
  · intro source entry hFound
    obtain ⟨hSource, hTemplate, -⟩ := hTallies.own source entry hFound
    have hCount := hTallies.counts source
    rw [hFound, Option.elim_some] at hCount
    exact ⟨hSource, hTemplate, hCount⟩
  · exact hTallies.total.trans hTallies.sum_counts.symm
  · intro hNone
    have hSize : cache.size = 0 := by
      rw [Table.size, ← List.length_map Prod.fst, ← Table.names, hNone]
      rfl
    exact if_pos hSize

/-- A source that includes a partial twice is rendered, one that cannot be compiled is not, and
nothing is counted while the cache is off. -/
theorem cache_tallies_row :
    let source := Node.tag "> row" ++ Node.tag "> row"
    let broken := Node.tag "#if x"
    let engine := (new .small {}).performAll [.compile source none {}, .clearCache,
      .registerPartial "row" "x", .render source .null {}, .render broken .null {},
      .compile "y" none { cache := some false }]
    (∃ entry, engine.history.cache.find? "x" = some entry ∧ entry.source = "x" ∧
      entry.template.source = "x" ∧ entry.uses = 2) ∧
      engine.stats.total = 3 ∧ engine.stats.size = 2 ∧
      (∃ quanta, engine.stats.average = .finite false quanta ∧
        Binary64.IsNearest (3 * Binary64.one) 2 quanta.count) ∧
      ∃ failure after, engine.compile broken none {} = (.error failure, after) ∧
        after = engine ∧ (engine.render broken .null {}).2 = engine := by
  intro source broken engine
  obtain ⟨-, -, hEntries, hSize, -, hTotal, -, hAverage, hCompile, hRender, -⟩ :=
    cache_tallies .small {} [.compile source none {}, .clearCache, .registerPartial "row" "x",
      .render source .null {}, .render broken .null {}, .compile "y" none { cache := some false }]
  have hNames : engine.history.cache.names = [source, "x"] := by decide +kernel
  have hThree : engine.stats.total = 3 := hTotal.trans (by decide +kernel)
  have hTwo : engine.stats.size = 2 := hSize.trans (congrArg List.length hNames)
  have hFails : (engine.compile broken none {}).1.toOption.isNone := by decide +kernel
  refine ⟨?_, hThree, hTwo, ?_, ?_⟩
  · obtain ⟨entry, hFound⟩ : ∃ entry, engine.history.cache.find? "x" = some entry :=
      Option.isSome_iff_exists.1 (by decide +kernel)
    obtain ⟨hSource, hTemplate, hUses⟩ := hEntries "x" entry hFound
    exact ⟨entry, hFound, hSource, hTemplate, hUses.trans (by decide +kernel)⟩
  · have hRange : engine.stats.total ≤ twoTo 1023 * engine.stats.size := by
      rw [hThree, hTwo]
      decide +kernel
    have hNearest := hAverage (by rw [hNames]; exact List.cons_ne_nil _ _) hRange
    rwa [hThree, hTwo] at hNearest
  · rcases hResult : engine.compile broken none {} with ⟨failure | template, after⟩
    · exact ⟨failure, after, rfl, hCompile _ _ _ _ _ hResult, hRender _ _ _ _ _ hResult⟩
    · rw [hResult] at hFails
      cases hFails

end Engine

end Stencil
