import Stencil.Render.Nodes

/-!
Running parts of renders: what a part that is put together from others comes to, and which of them
it owes its failure to.
-/

namespace Stencil.Render

variable {α β : Type}

theorem run_ext {x y : Step α} (h : ∀ state, x.run state = y.run state) : x = y := funext h

@[simp] theorem run_pure (a : α) (state : State) :
    (pure a : Step α).run state = (.ok a, state) := rfl

@[simp] theorem run_raising_ok (a : α) (state : State) :
    (raising (.ok a)).run state = (.ok a, state) := rfl

/-! ### One part after another -/

theorem run_bind_of_ok {x : Step α} {f : α → Step β} {state after : State} {a : α}
    (h : x.run state = (.ok a, after)) : (x >>= f).run state = (f a).run after := by
  change (ExceptT.bindCont f (x.run state).1) (x.run state).2 = _
  rw [h]
  rfl

theorem run_bind_of_error {x : Step α} {f : α → Step β} {state after : State}
    {failure : Failure} (h : x.run state = (.error failure, after)) :
    (x >>= f).run state = (.error failure, after) := by
  change (ExceptT.bindCont f (x.run state).1) (x.run state).2 = _
  rw [h]
  rfl

/-- Two parts have a result if both have one. -/
theorem run_bind_eq_error {x : Step α} {f : α → Step β} {state after : State}
    {failure : Failure} :
    (x >>= f).run state = (.error failure, after) ↔
      x.run state = (.error failure, after) ∨
        ∃ a middle, x.run state = (.ok a, middle) ∧ (f a).run middle = (.error failure, after) := by
  constructor
  · intro h
    rcases hx : x.run state with ⟨_ | a, middle⟩
    · rw [run_bind_of_error hx] at h
      cases h
      exact .inl rfl
    · exact .inr ⟨a, middle, rfl, by rwa [run_bind_of_ok hx] at h⟩
  · rintro (hx | ⟨a, middle, hx, hf⟩)
    · exact run_bind_of_error hx
    · rw [run_bind_of_ok hx, hf]

/-! ### Frames and failures -/

theorem run_publishing (frame : Frame) (x : Step α) (state : State) :
    (publishing frame x).run state =
      ((x.run { state with published := some frame }).1,
        { (x.run { state with published := some frame }).2 with
          published := state.published }) := rfl

theorem run_inside_of_opens {machine : Machine} {surrounding : Surrounding} {state : State}
    (h : machine.opens (surrounding :: state.around) = true) (x : Step α) :
    (inside machine surrounding x).run state =
      ((x.run (state.inside surrounding)).1,
        { (x.run (state.inside surrounding)).2 with around := state.around }) :=
  if_pos h

theorem run_inside_of_not_opens {machine : Machine} {surrounding : Surrounding} {state : State}
    (h : machine.opens (surrounding :: state.around) = false) (x : Step α) :
    (inside machine surrounding x).run state = (.error (.fault .stackUsedUp), state) :=
  if_neg (Bool.eq_false_iff.1 h)

/-- What is done inside of a partial that can be opened. -/
theorem run_entered_of_opens {machine : Machine} {surrounding : Surrounding} {state : State}
    (h : machine.opens (surrounding :: state.around) = true) (frame : Frame) (x : Step α) :
    (publishing frame (inside machine surrounding x)).run state =
      ((x.run (State.inside surrounding ⟨state.history, some frame, state.around⟩)).1,
        { (x.run (State.inside surrounding ⟨state.history, some frame, state.around⟩)).2 with
          published := state.published, around := state.around }) := by
  have hInside := @run_inside_of_opens _ machine surrounding
    ⟨state.history, some frame, state.around⟩ h x
  rw [run_publishing, hInside]

theorem run_entered_of_not_opens {machine : Machine} {surrounding : Surrounding} {state : State}
    (h : machine.opens (surrounding :: state.around) = false) (frame : Frame) (x : Step α) :
    (publishing frame (inside machine surrounding x)).run state =
      (.error (.fault .stackUsedUp), state) := by
  have hInside := @run_inside_of_not_opens _ machine surrounding
    ⟨state.history, some frame, state.around⟩ h x
  rw [run_publishing, hInside]

theorem run_tryCatch (x : Step α) (handle : Failure → Step α) (state : State) :
    (tryCatch x handle).run state =
      match x.run state with
      | (.ok a, after) => (.ok a, after)
      | (.error failure, after) => (handle failure).run after := by
  simp only [tryCatch, tryCatchThe, MonadExceptOf.tryCatch, ExceptT.tryCatch, ExceptT.run_mk]
  rcases hx : x.run state with ⟨_ | _, _⟩ <;>
  · simp only [bind, StateT.bind, (show x state = _ from hx)]
    rfl

theorem run_map (f : α → β) (x : Step α) (state : State) :
    (f <$> x).run state = ((x.run state).1.map f, (x.run state).2) := by
  rw [map_eq_pure_bind]
  rcases hx : x.run state with ⟨_ | a, after⟩
  · rw [run_bind_of_error hx]
    rfl
  · rw [run_bind_of_ok hx]
    rfl

/-- Nothing that is attempted fails. -/
theorem run_attempt (x : Step α) (state : State) :
    (attempt x).run state = (.ok (x.run state).1, (x.run state).2) := by
  rw [attempt, run_tryCatch, run_map]
  rcases x.run state with ⟨_ | a, after⟩ <;> rfl

/-- A body that is asked for first is done first. -/
theorem run_carryOut_body (body : Value → Metadata → Step String) (context : Value)
    (metadata : Metadata) (next : Except Failure String → Action α) (state : State) :
    (carryOut body (.body context metadata next)).run state =
      (carryOut body (next ((body context metadata).run state).1)).run
        ((body context metadata).run state).2 :=
  run_bind_of_ok (run_attempt _ state)

/-- A guard changes nothing but failures, which it reports. -/
theorem run_guarding (place : Place) (cause : Fault → RenderError.Cause) (x : Step α)
    (state : State) :
    (guarding place cause x).run state =
      match x.run state with
      | (.error failure, after) => (.error (reported place cause failure), after)
      | outcome => outcome := by
  rw [guarding, run_tryCatch]
  rcases x.run state with ⟨_ | a, after⟩ <;> rfl

/-- A fault for which there are words is reported. -/
theorem reported_of_raised?_none {fault : Fault} (h : fault.raised? = none) (place : Place)
    (cause : Fault → RenderError.Cause) :
    reported place cause (.fault fault) = .error (.render (.ofCause (cause fault) place)) := by
  rw [reported, h]

/-- What is raised instead of the words for a fault takes its place. -/
theorem reported_of_raised?_some {fault raised : Fault} (h : fault.raised? = some raised)
    (place : Place) (cause : Fault → RenderError.Cause) :
    reported place cause (.fault fault) = .fault raised := by
  rw [reported, h]

/-- What becomes of a fault where it is caught. -/
theorem reported_fault_cases (fault : Fault) (place : Place) (cause : Fault → RenderError.Cause) :
    (∃ raised, fault.raised? = some raised ∧
      reported place cause (.fault fault) = .fault raised) ∨
    (fault.raised? = none ∧
      reported place cause (.fault fault) = .error (.render (.ofCause (cause fault) place))) := by
  cases h : fault.raised? with
  | some raised => exact .inl ⟨raised, rfl, reported_of_raised?_some h place cause⟩
  | none => exact .inr ⟨rfl, reported_of_raised?_none h place cause⟩

/-- What is reported at two places is the same, or an error. -/
theorem reported_cases (place place' : Place) (cause : Fault → RenderError.Cause)
    (failure : Failure) :
    reported place cause failure = reported place' cause failure ∨
      ∃ error, reported place cause failure = .error error := by
  cases failure with
  | error error => exact .inl rfl
  | fault fault =>
    cases h : fault.raised? with
    | some raised =>
      rw [reported_of_raised?_some h, reported_of_raised?_some h]
      exact .inl rfl
    | none => exact .inr ⟨_, reported_of_raised?_none h place cause⟩

theorem run_guarding_eq_ok {place : Place} {cause : Fault → RenderError.Cause} {x : Step α}
    {state after : State} {a : α} :
    (guarding place cause x).run state = (.ok a, after) ↔ x.run state = (.ok a, after) := by
  rw [run_guarding]
  constructor
  · intro h
    rcases hx : x.run state with ⟨_ | b, later⟩
    · rw [hx] at h
      cases h
    · rwa [hx] at h
  · intro h
    rw [h]

theorem run_guarding_eq_error {place : Place} {cause : Fault → RenderError.Cause} {x : Step α}
    {state after : State} {failure : Failure} :
    (guarding place cause x).run state = (.error failure, after) ↔
      ∃ raised, x.run state = (.error raised, after) ∧
        failure = reported place cause raised := by
  constructor
  · intro h
    rw [run_guarding] at h
    rcases hx : x.run state with ⟨raised | a, later⟩
    · rw [hx] at h
      cases h
      exact ⟨raised, rfl, rfl⟩
    · rw [hx] at h
      cases h
  · rintro ⟨raised, hx, rfl⟩
    rw [run_guarding, hx]

/-! ### Contexts of partials -/

theorem run_contextHere (machine : Machine) (context value : Value) (state : State) :
    (contextHere machine context value).run state =
      ((innerContext? (machine.compares state.around) context value).mapError Failure.fault,
        state) := by
  have hget : (get : Step State).run state = (.ok state, state) := rfl
  rw [contextHere, run_bind_of_ok hget]
  cases innerContext? (machine.compares state.around) context value <;> rfl

theorem innerContext?_cases (compares : Nat → Bool) (context value : Value) :
    innerContext? compares context value = .error .keysTooDeep ∨
      innerContext? compares context value = .ok (innerContext context value) := by
  unfold innerContext?
  split
  · exact .inl rfl
  · exact .inr rfl

/-- Where deeper keys can be compared, there is the same context. -/
theorem innerContext?_mono {compares compares' : Nat → Bool}
    (h : ∀ depth, compares depth = true → compares' depth = true) {context value inner : Value}
    (hOk : innerContext? compares context value = .ok inner) :
    innerContext? compares' context value = .ok inner := by
  have hDeep (entries later : List (Value × Value))
      (hNot : Value.keysTooDeep compares entries later = false) :
      Value.keysTooDeep compares' entries later = false := by
    simp only [Value.keysTooDeep, List.any_eq_false] at hNot ⊢
    intro new hNew hAny
    refine hNot new hNew ?_
    rw [List.any_eq_true] at hAny ⊢
    obtain ⟨old, hOld, hSame⟩ := hAny
    simp only [Bool.and_eq_true, Bool.not_eq_true'] at hSame ⊢
    refine ⟨old, hOld, hSame.1, ?_⟩
    cases hCompares : compares (Value.keyDepth old.1 new.1) with
    | false => rfl
    | true =>
      rw [h _ hCompares] at hSame
      cases hSame.2
  unfold innerContext? at hOk ⊢
  cases hEntries : value.entries? with
  | none =>
    rw [hEntries] at hOk
    exact hOk
  | some entries =>
    rw [hEntries, Option.any_some] at hOk
    rw [Option.any_some]
    split at hOk
    · cases hOk
    · rename_i hNot
      rw [hDeep _ _ (Bool.eq_false_iff.2 hNot), if_neg Bool.false_ne_true]
      exact hOk

/-! ### Compiling -/

variable {machine : Machine} {options : Options} {source : String} {name : Option String}

theorem run_compile_of_ok (state : State) {template : Template} {after : History}
    (h : state.history.compile (machine.nesting state.around) options source name =
      .ok (template, after)) :
    (compile machine options source name).run state =
      (.ok template, { state with history := after }) := by
  have hget : (get : Step State).run state = (.ok state, state) := rfl
  rw [compile, run_bind_of_ok hget]
  simp only [h]
  rfl

theorem run_compile_of_error (state : State) {error : CompileError}
    (h : state.history.compile (machine.nesting state.around) options source name =
      .error error) :
    (compile machine options source name).run state =
      (.error (.error (.compile error)), state) := by
  have hget : (get : Step State).run state = (.ok state, state) := rfl
  rw [compile, run_bind_of_ok hget]
  simp only [h]
  rfl

theorem exists_of_run_compile {state after : State} {template : Template}
    (h : (compile machine options source name).run state = (.ok template, after)) :
    ∃ history, state.history.compile (machine.nesting state.around) options source name =
      .ok (template, history) ∧ after = { state with history } := by
  cases hc : state.history.compile (machine.nesting state.around) options source name with
  | error error =>
    rw [run_compile_of_error state hc] at h
    cases h
  | ok compiled =>
    obtain ⟨other, history⟩ := compiled
    rw [run_compile_of_ok state hc] at h
    cases h
    exact ⟨history, rfl, rfl⟩

/-! ### Looking up values and showing them -/

theorem run_lookUp (frame : Frame) (offset : Nat) (context : Value) (metadata : Metadata)
    (path : String) (state : State) :
    (lookUp frame offset context metadata path).run state =
      match Path.resolve context path metadata with
      | .ok value => (.ok value, state)
      | .error fault =>
        (.error (reported (frame.place offset) (.unresolved path) (.fault fault)), state) := by
  rw [lookUp, run_guarding]
  cases Path.resolve context path metadata with
  | ok value => rfl
  | error fault => rfl

theorem run_textOf (frame : Frame) (offset : Nat) (value : Value) (state : State) :
    (textOf frame offset value).run state =
      match value.display with
      | .ok text => (.ok text, state)
      | .error fault =>
        (.error (reported (frame.place offset) (.unprintable value.typeName) (.fault fault)),
          state) := by
  rw [textOf, run_guarding]
  cases value.display with
  | ok text => rfl
  | error fault => rfl

theorem lookUp_of_ok {context value : Value} {metadata : Metadata} {path : String}
    (h : Path.resolve context path metadata = .ok value) (frame : Frame) (offset : Nat) :
    lookUp frame offset context metadata path = pure value := by
  apply run_ext
  intro state
  rw [run_lookUp, h, run_pure]

theorem run_lookUpAll_of_ok {frame : Frame} {offset : Nat} {context : Value} {metadata : Metadata}
    {paths : List String} {values : List Value}
    (h : paths.mapM (Path.resolve context · metadata) = .ok values) (state : State) :
    (paths.mapM (lookUp frame offset context metadata)).run state = (.ok values, state) := by
  induction paths generalizing values with
  | nil =>
    cases h
    rfl
  | cons path paths ih =>
    have hRun := run_lookUp frame offset context metadata path state
    rw [List.mapM_cons] at h ⊢
    cases hr : Path.resolve context path metadata with
    | error fault =>
      rw [hr] at h
      cases h
    | ok value =>
      rw [hr] at h hRun
      cases hl : paths.mapM (Path.resolve context · metadata) with
      | error fault =>
        rw [hl] at h
        cases h
      | ok later =>
        rw [hl] at h
        cases h
        rw [run_bind_of_ok hRun, run_bind_of_ok (ih hl)]
        rfl

theorem run_lookUpAll_of_error {frame : Frame} {offset : Nat} {context : Value}
    {metadata : Metadata} {before : List String} {values : List Value} {path : String}
    {fault : Fault} (hBefore : before.mapM (Path.resolve context · metadata) = .ok values)
    (hPath : Path.resolve context path metadata = .error fault) (after : List String)
    (state : State) :
    ((before ++ path :: after).mapM (lookUp frame offset context metadata)).run state =
      (.error (reported (frame.place offset) (.unresolved path) (.fault fault)), state) := by
  have hRun := run_lookUp frame offset context metadata path state
  rw [hPath] at hRun
  rw [List.mapM_append, run_bind_of_ok (run_lookUpAll_of_ok hBefore state), List.mapM_cons]
  exact run_bind_of_error (run_bind_of_error hRun)

/-- Either all arguments can be looked up, or there is a first one that cannot be. -/
theorem resolveAll_cases (context : Value) (metadata : Metadata) (paths : List String) :
    (∃ values, paths.mapM (Path.resolve context · metadata) = .ok values) ∨
      ∃ before path after values fault, paths = before ++ path :: after ∧
        before.mapM (Path.resolve context · metadata) = .ok values ∧
        Path.resolve context path metadata = .error fault := by
  induction paths with
  | nil => exact .inl ⟨[], rfl⟩
  | cons path paths ih =>
    cases hr : Path.resolve context path metadata with
    | error fault => exact .inr ⟨[], path, paths, [], fault, rfl, rfl, hr⟩
    | ok value =>
      rcases ih with ⟨values, h⟩ | ⟨before, last, after, values, fault, rfl, hb, hf⟩
      · refine .inl ⟨value :: values, ?_⟩
        rw [List.mapM_cons, hr, h]
        rfl
      · refine .inr ⟨path :: before, last, after, value :: values, fault, rfl, ?_, hf⟩
        rw [List.mapM_cons, hr, hb]
        rfl

end Stencil.Render
