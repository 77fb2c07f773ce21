import Stencil.Proofs.Cycles
import Stencil.Proofs.Nesting
import Mathlib.Algebra.Order.BigOperators.Group.List
import Mathlib.Algebra.Order.Ring.Nat

/-!
Where there is more room. A frame is roomier than another one if every partial can be entered from
it that can be entered from the other one, and a machine is ample if it compiles every partial
wherever it is included. Nodes that are rendered to a text are rendered to the same text on an ample
machine, in a roomier frame and with any cache.
-/

namespace Stencil

/-! ### Ample machines -/

theorem Template.not_tooDeep_of_length_le {limit : Nat} {source : String}
    (h : (tokenize source).length ≤ limit) : ¬TooDeep limit source := by
  intro hDeep
  have hBeyond := Tree.nestedBeyond_of_tooDeep limit _ (Tree.fault?_eq_some_iff.2 hDeep)
  exact Nat.not_le_of_lt hBeyond.lt_length h

/-- For all that is registered there is a machine that differs only in that nothing lies too deep
for it. -/
theorem Setup.exists_ample (setup : Setup) :
    ∃ machine : Machine, machine.Suffices setup ∧ (setup.on machine).Ample := by
  let lengths := setup.partials.entries.map fun entry => (tokenize entry.2).length
  let machine : Machine := { setup.machine with nesting := fun _ => lengths.sum }
  have hAmple : (setup.on machine).Ample := ?_
  · exact ⟨machine, ⟨rfl, rfl, fun name source hFound around hDeep =>
      absurd hDeep (hAmple name source hFound around)⟩, hAmple⟩
  intro name source hFound around
  have hFound : setup.partials.find? name = some source := hFound
  obtain ⟨before, after, hEntries, -⟩ := List.lookup_eq_some_iff.1 hFound
  have hLength : (tokenize source).length ∈ lengths := by
    refine List.mem_map.2 ⟨(name, source), ?_, rfl⟩
    rw [hEntries]
    exact List.mem_append_right _ List.mem_cons_self
  exact Template.not_tooDeep_of_length_le (List.le_sum_of_mem hLength)

namespace Render

variable {α β : Type} {setup : Setup} {machine : Machine}

/-! ### What is excused -/

/-- Whatever the failure is. -/
abbrev AnyFailure : Failure → Prop := fun _ => True

/-- The failure says that a partial includes itself. -/
def TellsCycle (failure : Failure) : Prop :=
  ∃ error, failure = .error (.render error) ∧ IsCycle error

/-- The failure says that there is no stack left. -/
inductive TellsUsedUp : Failure → Prop
  | fault {fault : Fault} (h : fault = .stackUsedUp ∨ fault = .keysTooDeep) :
      TellsUsedUp (.fault fault)
  | report {error : RenderError} {fault : Fault} (h : fault = .stackUsedUp ∨ fault = .keysTooDeep)
      (hBehind : error.underlying = some fault) : TellsUsedUp (.error (.render error))

/-- The failure says that a partial includes itself, or that there is no stack left. -/
def TellsCycleOrUsedUp (failure : Failure) : Prop := TellsCycle failure ∨ TellsUsedUp failure

theorem TellsCycleOrUsedUp.report {failure : Failure} {cause : Fault → RenderError.Cause}
    (h : TellsCycleOrUsedUp failure) (hCause : ∀ fault, (cause fault).underlying? = some fault)
    (place : Place) : TellsCycleOrUsedUp (reported place cause failure) := by
  rcases h with ⟨error, rfl, hCycle⟩ | hUsedUp
  · exact .inl ⟨error, rfl, hCycle⟩
  · cases hUsedUp with
    | @fault fault hFault =>
      have hWords : fault.raised? = none := by rcases hFault with rfl | rfl <;> rfl
      rw [reported_of_raised?_none hWords]
      exact .inr (.report hFault (hCause fault))
    | report hFault hBehind => exact .inr (.report hFault hBehind)

/-- States with faithful caches, whatever is published. No more is open around the second one. -/
structure Unseen (state state' : State) : Prop where
  faithful : state.Faithful
  faithful' : state'.Faithful
  around : state'.around.Sublist state.around

theorem State.Faithful.unseen {state : State} (h : state.Faithful) : Unseen state state :=
  ⟨h, h, .refl _⟩

theorem steady_unseen : Steady Unseen where
  opened surrounding h := ⟨h.faithful, h.faithful', h.around.cons_cons surrounding⟩
  closed h h' := ⟨h'.faithful, h'.faithful', h.around⟩

/-- Where no more is open, no less can be opened and compared. -/
theorem matched_unseen {E : Failure → Prop} (hOpens : machine.opens = setup.machine.opens)
    (hCompares : machine.compares = setup.machine.compares) (hE : ∀ failure, TellsUsedUp failure →
      E failure) : Matched E Unseen setup.machine machine where
  opens {state state'} surrounding hs := by
    cases h : setup.machine.opens (surrounding :: state.around) with
    | false => exact .inr ⟨rfl, hE _ (.fault (.inl rfl))⟩
    | true =>
      rw [hOpens]
      exact .inl (setup.machine.opens_of_sublist (hs.around.cons_cons surrounding) h).symm
  compares {state state'} hs := by
    rw [hCompares]
    exact .inr ⟨fun _ => setup.machine.compares_of_sublist hs.around, hE _ (.fault (.inr rfl))⟩

/-- A blind helper that fails with its body gives the same value wherever it gives one. -/
theorem suits_anyFailure
    (hHelpers : setup.Every fun helper => helper.Blind ∧ helper.FailsWithBody) :
    Suits setup AnyFailure Unseen :=
  ⟨steady_unseen, fun _ _ _ _ _ => trivial, .inr (hHelpers.mono fun _ h => h.1),
    hHelpers.mono fun _ h => h.2⟩

/-- A blind helper that catches nothing does the same unless a cycle is reported, or there is no stack
left. -/
theorem suits_tellsCycleOrUsedUp
    (hHelpers : setup.Every fun helper => helper.Blind ∧ helper.CatchesNothing) :
    Suits setup TellsCycleOrUsedUp Unseen where
  steady := steady_unseen
  reports place _ _ hCause h := h.report hCause place
  look := .inr (hHelpers.mono fun _ h => h.1)
  passes := hHelpers.mono fun _ h => h.2.passesOn TellsCycleOrUsedUp

theorem isCycle_of_refused {frame : Frame} {name source : String} {error : RenderError}
    (h : frame.enter name source = .error error) : IsCycle error := by
  unfold Frame.enter at h
  split at h
  · cases h
    rfl
  · cases h

/-! ### Compiling on two machines -/

/-- Every partial is compiled to the same on the other machine, whatever is in the caches and
whatever is open, unless it is refused on the first one and that is an excuse. -/
def CompilesOn (setup : Setup) (machine : Machine) (E : Failure → Prop) : Prop :=
  ∀ name source, setup.partials.find? name = some source → ∀ options,
    AgreeUnless E Unseen (SameSource options options source (some name))
      (compile setup.machine options source name) (compile machine options source name)

/-- What the first machine compiles is compiled on an ample one. -/
theorem CompilesOn.of_ok {E : Failure → Prop} (h : (setup.on machine).Ample)
    (hRefused : ∀ name source, setup.partials.find? name = some source → ∀ options state state',
      Unseen state state' → ∀ error,
        state.history.compile (setup.machine.nesting state.around) options source (some name) =
          .error error →
        E (.error (.compile error)) ∨
          state'.history.compile (machine.nesting state'.around) options source (some name) =
            .error error) : CompilesOn setup machine E := by
  intro name source hFound options state state' hs
  cases hc : state.history.compile (setup.machine.nesting state.around) options source
      (some name) with
  | error error =>
    rw [run_compile_of_error _ hc]
    rcases hRefused name source hFound options state state' hs error hc with hE | hc'
    · exact .inl ⟨_, rfl, hE⟩
    · rw [run_compile_of_error _ hc']
      exact .inr ⟨.error _, hs⟩
  | ok compiled =>
    obtain ⟨template, after⟩ := compiled
    obtain ⟨nodes, hNodes, hSpec, hAfter⟩ := History.spec_of_compile_ok hs.faithful hc
    have hDeep : ¬Template.TooDeep (machine.nesting state'.around) source :=
      h name source hFound state'.around
    obtain ⟨template', after', hc', hSpec', hAfter'⟩ :=
      History.compile_of_reads hs.faithful' hNodes hDeep options (some name)
    rw [run_compile_of_ok _ hc, run_compile_of_ok _ hc']
    exact .inr ⟨.ok ⟨nodes, hNodes, hSpec, hSpec'⟩, hAfter, hAfter', hs.around⟩

theorem compilesOn_anyFailure (h : (setup.on machine).Ample) :
    CompilesOn setup machine AnyFailure :=
  .of_ok h fun _ _ _ _ _ _ _ _ _ => .inl trivial

/-- Nothing is refused for its depth on either of two ample machines. -/
theorem compilesOn_of_ample (h : setup.Ample) (h' : (setup.on machine).Ample)
    (E : Failure → Prop) : CompilesOn setup machine E := by
  refine .of_ok h' fun name source hFound options state state' hs error hc => .inr ?_
  have hError := (History.error_of_compile hs.faithful hc).1
  have hDeep : ¬Template.TooDeep (machine.nesting state'.around) source :=
    h' name source hFound state'.around
  rw [Template.compile_eq_of_not_tooDeep (h name source hFound _) hDeep] at hError
  cases hc' : state'.history.compile (machine.nesting state'.around) options source (some name) with
  | error other =>
    rw [(History.error_of_compile hs.faithful' hc').1] at hError
    cases hError
    rfl
  | ok compiled =>
    obtain ⟨nodes, hNodes, -⟩ := History.spec_of_compile_ok hs.faithful' hc'
    exact absurd (hNodes.tooDeep_of_compile hError) hDeep

/-! ### Roomier frames -/

/-- Every partial that can be entered from the first frame can be entered from the second one. These
are frames of the same source, or all errors are excused. -/
structure Roomier (E : Failure → Prop) (frame frame' : Frame) : Prop where
  place : (∀ offset, frame.place offset = frame'.place offset) ∨ ∀ error, E (.error error)
  stack : frame'.stack ⊆ frame.stack
  strict : frame.strict = frame'.strict
  noEscape : frame.noEscape = frame'.noEscape

namespace Roomier

variable {E : Failure → Prop} {frame frame' inner : Frame} {name source : String}

theorem refl (E : Failure → Prop) (frame : Frame) : Roomier E frame frame :=
  ⟨.inl fun _ => rfl, List.Subset.refl _, rfl, rfl⟩

theorem beside (h : Roomier E frame frame') : Beside E frame frame' := ⟨h.place, .inl h.strict⟩

/-- A partial that is entered from the first frame is entered from the second one. -/
theorem enter (h : Roomier E frame frame') (hEnter : frame.enter name source = .ok inner) :
    ∃ inner', frame'.enter name source = .ok inner' ∧ Roomier E inner inner' := by
  have hNew : name ∉ frame'.stack := fun hName => Frame.not_mem_of_enter hEnter (h.stack hName)
  refine ⟨_, Frame.enter_of_not_mem source hNew, ?_⟩
  rw [Frame.eq_of_enter hEnter]
  exact ⟨.inl fun _ => rfl, List.append_subset.2
    ⟨fun _ hName => List.mem_append_left _ (h.stack hName), List.subset_append_right _ _⟩,
    h.strict, h.noEscape⟩

/-- The second frame is roomier than a partial that is entered from the first one. -/
theorem inside (h : Roomier E frame frame') (hE : ∀ error, E (.error error))
    (hEnter : frame.enter name source = .ok inner) : Roomier E inner frame' := by
  rw [Frame.eq_of_enter hEnter]
  exact ⟨.inr hE, fun _ hName => List.mem_append_left _ (h.stack hName), h.strict, h.noEscape⟩

/-- The frame of a partial is roomier if the partial is not put on the stack. -/
theorem unstacked (E : Failure → Prop) (hEnter : frame.enter name source = .ok inner) :
    Roomier E inner { frame with templateName := some name, source := some source } := by
  rw [Frame.eq_of_enter hEnter]
  exact ⟨.inl fun _ => rfl, List.subset_append_left _ _, rfl, rfl⟩

/-- What a frame says about its source does not matter if all errors are excused. -/
theorem renamed (hE : ∀ error, E (.error error)) (frame : Frame)
    (templateName source : Option String) : Roomier E frame { frame with templateName, source } :=
  ⟨.inr hE, List.Subset.refl _, rfl, rfl⟩

end Roomier

/-- A partial that can be entered is compiled, whatever comes then. -/
theorem exists_enterPartial_eq {frame inner : Frame} {name source : String}
    (hEnter : frame.enter name source = .ok inner) (depth : Nat) (context : Value)
    (metadata : Metadata) :
    ∃ later, enterPartial setup depth frame name source context metadata =
      compile setup.machine
        (setup.options.merge { strict := frame.strict, noEscape := frame.noEscape }) source name >>=
      later := by
  cases depth with
  | zero => exact ⟨_, by rw [enterPartial, hEnter]⟩
  | succ depth => exact ⟨_, (enterPartial_succ ..).trans (enterOnce_of_entered hEnter ..)⟩

theorem enterPartial_zero_of_entered {frame inner : Frame} {name source : String}
    (hEnter : frame.enter name source = .ok inner) (context : Value) (metadata : Metadata) :
    enterPartial setup 0 frame name source context metadata =
      compile setup.machine
        (setup.options.merge { strict := frame.strict, noEscape := frame.noEscape }) source name >>=
      fun _ => stop (.ofCause (.partialCycle name frame.stack)
        { templateName := frame.templateName }) := by
  rw [enterPartial, hEnter]

theorem agree_publishing_unseen {E : Failure → Prop} {R : α → β → Prop} {inner inner' : Frame}
    {x : Step α} {y : Step β} (h : AgreeUnless E Unseen R x y) :
    AgreeUnless E Unseen R (publishing inner x) (publishing inner' y) := by
  intro state state' hs
  rw [run_publishing, run_publishing]
  exact (h { state with published := some inner } { state' with published := some inner' }
    ⟨hs.faithful, hs.faithful', hs.around⟩).imp id
    fun ⟨hr, ht⟩ => ⟨hr, ht.faithful, ht.faithful', ht.around⟩

section

variable {E : Failure → Prop} {depth depth' : Nat} {frame frame' : Frame}
  (hCompiles : CompilesOn setup machine E) (hSuits : Suits setup E Unseen)
  (hMatched : Matched E Unseen setup.machine machine)
  (hCycle : ∀ error, IsCycle error → E (.error (.render error)))
include hSuits hMatched

/-- Nodes are rendered to the same in a roomier frame if the partials are that are entered. -/
theorem agree_roomier_of_enter {enter enter' : Entry} (h : Roomier E frame frame')
    (hEnter : ∀ name source, setup.partials.find? name = some source → ∀ context metadata,
      AgreeUnless E Unseen Eq (enter frame name source context metadata)
        (enter' frame' name source context metadata)) :
    NodesAgree setup machine E Unseen Eq enter enter' frame frame' fun _ => True :=
  .of_eq h.beside hSuits hMatched h.noEscape fun _ name _ _ source context metadata hFound =>
    hEnter name source hFound context metadata

include hCompiles hCycle

/-- A partial is rendered to the same from a roomier frame, unless a cycle is reported. -/
theorem agree_enterPartial_roomier (h : Roomier E frame frame') (hDepth : depth ≤ depth')
    {name source : String} (hFound : setup.partials.find? name = some source) (context : Value)
    (metadata : Metadata) :
    AgreeUnless E Unseen Eq (enterPartial setup depth frame name source context metadata)
      (enterPartial (setup.on machine) depth' frame' name source context metadata) := by
  -- By induction on the first bound: the frames inside are roomier again, and of one source.
  induction depth generalizing depth' frame frame' name source context metadata with
  | zero =>
    cases hEnter : frame.enter name source with
    | error error =>
      rw [enterPartial_of_refused hEnter]
      exact .excused (hCycle _ (isCycle_of_refused hEnter)) _
    | ok inner =>
      obtain ⟨inner', hEnter', -⟩ := h.enter hEnter
      obtain ⟨later, hLater⟩ :=
        @exists_enterPartial_eq (setup.on machine) _ _ _ _ hEnter' depth' context metadata
      rw [enterPartial_zero_of_entered hEnter, hLater, h.strict, h.noEscape]
      have hNone : IsCycle (.ofCause (.partialCycle name frame.stack)
          { templateName := frame.templateName }) := rfl
      exact (hCompiles name source hFound _).bind fun _ _ _ => .excused (hCycle _ hNone) _
  | succ depth ih =>
    cases hEnter : frame.enter name source with
    | error error =>
      rw [enterPartial_of_refused hEnter]
      exact .excused (hCycle _ (isCycle_of_refused hEnter)) _
    | ok inner =>
      obtain ⟨deeper, rfl⟩ := Nat.exists_eq_add_of_le' (Nat.le_trans (Nat.le_add_left 1 _) hDepth)
      obtain ⟨inner', hEnter', hInner⟩ := h.enter hEnter
      rw [enterPartial_succ, enterPartial_succ, enterOnce_of_entered hEnter,
        enterOnce_of_entered hEnter', h.strict, h.noEscape]
      refine (hCompiles name source hFound _).bind fun template template' ⟨nodes, _, hs, hs'⟩ => ?_
      rw [(Template.anonymous_eq_iff.1 hs).1, (Template.anonymous_eq_iff.1 hs').1]
      refine agree_publishing_unseen (.inside steady_unseen hMatched ?_ _)
      have hNodes := agree_roomier_of_enter hSuits hMatched hInner fun name source hFound =>
        ih hInner (Nat.le_of_succ_le_succ hDepth) hFound
      exact hNodes.renderNodes nodes (fun _ _ => trivial) context metadata

theorem agree_roomier (h : Roomier E frame frame') (hDepth : depth ≤ depth') :
    NodesAgree setup machine E Unseen Eq (enterPartial setup depth)
      (enterPartial (setup.on machine) depth') frame frame' fun _ => True :=
  agree_roomier_of_enter hSuits hMatched h fun _ _ hFound =>
    agree_enterPartial_roomier hCompiles hSuits hMatched hCycle h hDepth hFound

/-- Nodes are rendered to the same in a roomier frame, unless a cycle is reported. -/
theorem agree_renderNodes_roomier (h : Roomier E frame frame') (hDepth : depth ≤ depth')
    (nodes : List Node) (context : Value) (metadata : Metadata) :
    AgreeUnless E Unseen Eq
      (renderNodes setup (enterPartial setup depth) frame nodes context metadata)
      (renderNodes (setup.on machine) (enterPartial (setup.on machine) depth') frame' nodes context
        metadata) :=
  (agree_roomier hCompiles hSuits hMatched hCycle h hDepth).renderNodes nodes (fun _ _ => trivial)
    context metadata

end

end Render

end Stencil
