import Stencil.Proofs.Cycles

/-!
The frame that helpers see. A walk carries the frame of what it renders along, and helpers look at
the one that is published. The two are the same wherever a helper is called, and stay so until it is
done, whatever the bodies come to that it asks for. What is published inside a partial is taken back
behind it.
-/

namespace Stencil

/-- The action, if it is told a frame where it looks at the one that is published. -/
def Action.told {α : Type} (given : Frame) : Action α → Action α
  | done a => done a
  | fail failure => fail failure
  | body context metadata next => body context metadata fun outcome => (next outcome).told given
  | frame next => (next (some given)).told given

namespace Render

variable {setup : Setup} {α : Type}

/-- The action, carried out from a state, still has the other one before it when the state is a
later one. -/
inductive Reaches (body : Value → Metadata → Step String) :
    Action α → State → Action α → State → Prop
  | here {action : Action α} {state : State} : Reaches body action state action state
  | body {context : Value} {metadata : Metadata} {next : Except Failure String → Action α}
      {outcome : Except Failure String} {rest : Action α} {state middle last : State}
      (hBody : (body context metadata).run state = (outcome, middle))
      (h : Reaches body (next outcome) middle rest last) :
      Reaches body (.body context metadata next) state rest last
  | frame {next : Option Frame → Action α} {rest : Action α} {state last : State}
      (h : Reaches body (next state.published) state rest last) :
      Reaches body (.frame next) state rest last

theorem Reaches.kept {body : Value → Metadata → Step String} {action rest : Action α}
    {state last : State} {I : State → Prop} (hReaches : Reaches body action state rest last)
    (hBody : ∀ context metadata, Keeps I (body context metadata)) (h : I state) : I last := by
  induction hReaches with
  | here => exact h
  | @body context metadata next outcome rest state middle last hRun hReaches ih =>
    have hMiddle := hBody context metadata state h
    rw [hRun] at hMiddle
    exact ih hMiddle
  | frame hReaches ih => exact ih h

theorem keptByCompiling_true : KeptByCompiling setup fun _ => True :=
  fun _ _ _ _ _ _ _ _ _ _ => trivial

/-- While the bodies that it asks for leave a frame published, an action does as it would if it were
told that frame. -/
theorem carryOut_told {body : Value → Metadata → Step String} {J : History → Prop} {frame : Frame}
    (hBody : ∀ context metadata, Keeps (Kept J (some frame)) (body context metadata))
    (action : Action α) {state : State} (h : Kept J (some frame) state) :
    (carryOut body (action.told frame)).run state = (carryOut body action).run state := by
  induction action generalizing state with
  | done a => rfl
  | fail failure => rfl
  | body context metadata next ih =>
    rw [Action.told, run_carryOut_body, run_carryOut_body]
    exact ih _ (hBody context metadata state h)
  | frame next ih =>
    -- Here one action looks and the other is told.
    have hLook : (carryOut body (.frame next)).run state =
        (carryOut body (next (some frame))).run state := by
      rw [← h.published]
      rfl
    rw [Action.told, hLook]
    exact ih _ h

/-- Nothing changes at a node before a helper is called there. -/
theorem Site.Performs.state_eq {site : Site} {helper : Helper} {name : String}
    {given : List Value} {children : Option (List Node)} {state : State}
    (hDone : site.Performs setup (.call helper name given children) state) : state = site.state := by
  cases hDone with
  | alone => rfl
  | block => rfl
  | @filter offset path arguments before after filter first value middle last helper hNode hFirst
      hBefore =>
    have hHead : Keeps (· = site.state) (site.first setup path arguments) :=
      keeps_head? _ _ _ _ _ _ _
    have hFilters : Keeps (· = site.state) (site.filtered setup before first) :=
      keeps_applyFilters _ _ _ _ _
    have hMiddle := hHead site.state rfl
    rw [hFirst] at hMiddle
    have hLast := hFilters middle hMiddle
    rwa [hBefore] at hLast

end Render

namespace Engine

open Render

end Engine

end Stencil
