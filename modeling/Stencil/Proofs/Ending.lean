import Stencil.Proofs.Agreement
import Mathlib.Logic.ExistsUnique

/-!
Renders end, however partials include one another. What a partial is rendered to is given by an
equation that bounds nothing: a partial is rendered in a frame of its own, and so are those that it
includes. The equation has one solution and no other, since inside every partial there is one
partial less that may still be entered. A walk with a bound that leaves room for all partials never
reaches the bound.
-/

namespace Stencil

/-- The frame of a partial that is entered. -/
theorem Frame.eq_of_enter {frame inner : Frame} {name source : String}
    (h : frame.enter name source = .ok inner) : inner = { frame with
      templateName := some name, source := some source, stack := frame.stack ++ [name] } := by
  unfold Frame.enter at h
  split at h
  · cases h
  · cases h
    rfl

/-- A partial that is being rendered already is not entered. -/
theorem Frame.not_mem_of_enter {frame inner : Frame} {name source : String}
    (h : frame.enter name source = .ok inner) : name ∉ frame.stack := by
  intro hActive
  rw [Frame.enter, if_pos hActive] at h
  cases h

/-! ### Room -/

namespace Setup

variable {setup : Setup}

/-- How many registered partials are not being rendered in the frame. -/
def room (setup : Setup) (frame : Frame) : Nat :=
  (setup.partials.names.filter fun name => name ∉ frame.stack).length

theorem room_le_size (frame : Frame) : setup.room frame ≤ setup.partials.size := by
  have hLength : setup.partials.names.length = setup.partials.size := List.length_map _
  rw [← hLength]
  exact List.length_filter_le _ _

/-- What is left inside a partial is what is left outside without that partial. -/
theorem room_of_enter {frame inner : Frame} {name source : String}
    (hEnter : frame.enter name source = .ok inner) :
    setup.room inner = ((setup.partials.names.filter fun other => other ∉ frame.stack).filter
      (· ≠ name)).length := by
  rw [room, Frame.eq_of_enter hEnter, List.filter_filter]
  exact congrArg _ (List.filter_congr fun other _ => by simp [and_comm])

theorem room_le_of_enter {frame inner : Frame} {name source : String}
    (hEnter : frame.enter name source = .ok inner) : setup.room inner ≤ setup.room frame := by
  rw [room_of_enter hEnter]
  exact List.length_filter_le _ _

/-- Inside a registered partial there is less room than around it. -/
theorem room_lt_of_enter {frame inner : Frame} {name source : String}
    (hEnter : frame.enter name source = .ok inner)
    (hFound : setup.partials.find? name = some source) : setup.room inner < setup.room frame := by
  have hLeft : name ∈ setup.partials.names.filter fun other => other ∉ frame.stack :=
    List.mem_filter.2 ⟨Table.mem_names_of_find? hFound, by simp [Frame.not_mem_of_enter hEnter]⟩
  rw [room_of_enter hEnter]
  exact List.length_filter_lt_length_iff_exists.2 ⟨name, hLeft, by simp⟩

/-- Where there is no room, every registered partial is being rendered already. -/
theorem refused_of_room_eq_zero {frame : Frame} {name source : String}
    (hRoom : setup.room frame = 0) (hFound : setup.partials.find? name = some source) :
    ∃ error, frame.enter name source = .error error := by
  cases hEnter : frame.enter name source with
  | error error => exact ⟨error, rfl⟩
  | ok inner =>
    have hLess := room_lt_of_enter hEnter hFound
    omega

end Setup

namespace Render

variable {setup : Setup} {α : Type}

/-! ### Equal walks -/

/-- Parts that agree in every state are the same. -/
theorem eq_of_agree {x y : Step α} (h : Agree Eq Eq x y) : x = y :=
  run_ext fun _ => Prod.ext (h.of_start rfl).1.eq (h.of_start rfl).2

theorem agree_self (x : Step α) : Agree Eq Eq x x := by
  intro state state' hs
  subst hs
  exact .inr ⟨.of_eq rfl, rfl⟩

/-- Two ways of entering partials do the same in a frame. -/
def SameIn (setup : Setup) (enter enter' : Entry) (frame : Frame) : Prop :=
  ∀ name source, setup.partials.find? name = some source → ∀ context metadata,
    enter frame name source context metadata = enter' frame name source context metadata

theorem renderNodes_congr {enter enter' : Entry} {frame : Frame}
    (h : SameIn setup enter enter' frame) (nodes : List Node) (context : Value)
    (metadata : Metadata) :
    renderNodes setup enter frame nodes context metadata =
      renderNodes setup enter' frame nodes context metadata := by
  have hSuits : Suits setup (fun _ => False) Eq := .of_look steady_eq (.inl (agree_self _))
  have hNodes : NodesAgree setup setup.machine (fun _ => False) Eq Eq enter enter' frame frame
      fun _ => True := by
    refine .of_eq (.refl _ _) hSuits (.of_around (congrArg State.around) _) rfl ?_
    intro offset name expression _ source inner more hFound
    rw [h name source hFound inner more]
    exact agree_self _
  exact eq_of_agree (hNodes.renderNodes nodes (fun _ _ => trivial) context metadata)

/-! ### Without a bound -/

/-- Enter a partial once. How those are entered that it includes is left open. -/
def enterOnce (setup : Setup) (enter : Entry) : Entry
  | frame, name, source, context, metadata =>
    match frame.enter name source with
    | .error error => stop error
    | .ok inner => do
      let options := setup.options.merge { strict := frame.strict, noEscape := frame.noEscape }
      let template ← compile setup.machine options source name
      publishing inner (inside setup.machine (.inclusion name)
        (renderNodes setup enter inner template.nodes context metadata))

/-- Partials are entered one inside the other, and nothing bounds how many. -/
def Unbounded (setup : Setup) (enter : Entry) : Prop :=
  ∀ frame name source context metadata,
    enter frame name source context metadata =
      enterOnce setup enter frame name source context metadata

theorem enterOnce_of_refused {frame : Frame} {name source : String} {error : RenderError}
    (h : frame.enter name source = .error error) (enter : Entry) (context : Value)
    (metadata : Metadata) :
    enterOnce setup enter frame name source context metadata = stop error := by
  rw [enterOnce, h]

theorem enterOnce_of_entered {frame inner : Frame} {name source : String}
    (h : frame.enter name source = .ok inner) (enter : Entry) (context : Value)
    (metadata : Metadata) :
    enterOnce setup enter frame name source context metadata =
      compile setup.machine
          (setup.options.merge { strict := frame.strict, noEscape := frame.noEscape }) source
          name >>= fun template =>
        publishing inner (inside setup.machine (.inclusion name)
          (renderNodes setup enter inner template.nodes context metadata)) := by
  rw [enterOnce, h]

theorem enterPartial_of_refused {frame : Frame} {name source : String} {error : RenderError}
    (h : frame.enter name source = .error error) (depth : Nat) (context : Value)
    (metadata : Metadata) :
    enterPartial setup depth frame name source context metadata = stop error := by
  rw [enterPartial, h]

theorem enterPartial_succ (depth : Nat) (frame : Frame) (name source : String) (context : Value)
    (metadata : Metadata) :
    enterPartial setup (depth + 1) frame name source context metadata =
      enterOnce setup (enterPartial setup depth) frame name source context metadata := by
  cases hEnter : frame.enter name source with
  | error error => rw [enterPartial_of_refused hEnter, enterOnce_of_refused hEnter]
  | ok inner => simp only [enterPartial, enterOnce, hEnter]

/-- It is enough to know how partials are entered inside the new frame. -/
theorem enterOnce_congr {enter enter' : Entry} {frame : Frame} {name source : String}
    (h : ∀ inner, frame.enter name source = .ok inner → SameIn setup enter enter' inner)
    (context : Value) (metadata : Metadata) :
    enterOnce setup enter frame name source context metadata =
      enterOnce setup enter' frame name source context metadata := by
  cases hEnter : frame.enter name source with
  | error error => rw [enterOnce_of_refused hEnter, enterOnce_of_refused hEnter]
  | ok inner => simp only [enterOnce, hEnter, renderNodes_congr (h inner hEnter)]

/-- Bounds that leave room for all partials that are left come to the same. -/
theorem sameIn_of_room_le {depth depth' : Nat} {frame : Frame} (h : setup.room frame ≤ depth)
    (h' : setup.room frame ≤ depth') :
    SameIn setup (enterPartial setup depth) (enterPartial setup depth') frame := by
  -- By induction on the bound, which goes down with the room from each frame to the next.
  induction depth generalizing depth' frame with
  | zero =>
    intro name source hFound context metadata
    obtain ⟨error, hEnter⟩ := Setup.refused_of_room_eq_zero (Nat.le_zero.1 h) hFound
    rw [enterPartial_of_refused hEnter, enterPartial_of_refused hEnter]
  | succ depth ih =>
    intro name source hFound context metadata
    cases depth' with
    | zero =>
      obtain ⟨error, hEnter⟩ := Setup.refused_of_room_eq_zero (Nat.le_zero.1 h') hFound
      rw [enterPartial_of_refused hEnter, enterPartial_of_refused hEnter]
    | succ depth' =>
      rw [enterPartial_succ, enterPartial_succ]
      refine enterOnce_congr (fun inner hEnter => ?_) context metadata
      have hLess := Setup.room_lt_of_enter hEnter hFound
      exact ih (by omega) (by omega)

/-- Where there is room for all partials that are left, a bound makes no difference. -/
theorem Unbounded.sameIn_enterPartial {enter : Entry} (h : Unbounded setup enter) {depth : Nat}
    {frame : Frame} (hDepth : setup.room frame ≤ depth) :
    SameIn setup enter (enterPartial setup depth) frame := by
  induction depth generalizing frame with
  | zero =>
    intro name source hFound context metadata
    obtain ⟨error, hEnter⟩ := Setup.refused_of_room_eq_zero (Nat.le_zero.1 hDepth) hFound
    rw [h, enterOnce_of_refused hEnter, enterPartial_of_refused hEnter]
  | succ depth ih =>
    intro name source hFound context metadata
    rw [h, enterPartial_succ]
    refine enterOnce_congr (fun inner hEnter => ih ?_) context metadata
    have hLess := Setup.room_lt_of_enter hEnter hFound
    omega

/-- Enter a partial with as much room as there is. -/
def enterFreely (setup : Setup) : Entry
  | frame, name, source, context, metadata =>
    enterPartial setup (setup.room frame + 1) frame name source context metadata

theorem unbounded_enterFreely (setup : Setup) : Unbounded setup (enterFreely setup) := by
  intro frame name source context metadata
  rw [enterFreely, enterPartial_succ]
  refine enterOnce_congr (fun inner hEnter => ?_) context metadata
  intro other within hFound context metadata
  have hRoom : setup.room inner ≤ setup.room frame := Setup.room_le_of_enter hEnter
  exact sameIn_of_room_le hRoom (Nat.le_succ _) other within hFound context metadata

/-- What partials are rendered to is well defined without any bound. -/
theorem existsUnique_unbounded (setup : Setup) : ∃! enter, Unbounded setup enter := by
  refine ⟨enterFreely setup, unbounded_enterFreely setup, fun enter h => ?_⟩
  funext frame name source context metadata
  rw [h, unbounded_enterFreely setup]
  refine enterOnce_congr (fun inner _ => ?_) context metadata
  intro other within hFound context metadata
  rw [h.sameIn_enterPartial (Nat.le_refl _) other within hFound,
    (unbounded_enterFreely setup).sameIn_enterPartial (Nat.le_refl _) other within hFound]

/-- A render needs no bound. -/
theorem Unbounded.render_eq {enter : Entry} (h : Unbounded setup enter) (template : Template)
    (context : Value) (named : List (String × Value)) :
    render setup template context named =
      publishing (topFrame template) (renderNodes setup enter (topFrame template) template.nodes
        (topContext context named) []) := by
  have hSame := renderNodes_congr (h.sameIn_enterPartial (Setup.room_le_size (topFrame template)))
    template.nodes (topContext context named) []
  rw [render, hSame]

end Render

end Stencil
