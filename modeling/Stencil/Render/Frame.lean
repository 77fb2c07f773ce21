import Stencil.Diagnostic.Error

/-!
Frames: the template or partial that is being rendered, and how. A frame is entered for every
partial inside the one around it, and never twice for the same partial.
-/

namespace Stencil

/-- What is being rendered: its name and source, the options, and the partials around it. -/
structure Frame where
  templateName : Option String := none
  source : Option String := none
  strict : Bool := false
  noEscape : Bool := false
  /-- The partials that are being rendered, the outermost first. -/
  stack : List String := []
  deriving DecidableEq, Repr

namespace Frame

def place (frame : Frame) (offset : Nat) : Place :=
  ⟨frame.source, some offset, frame.templateName⟩

/-- The frame of a partial inside this one. A partial that is being rendered already is refused. -/
def enter (frame : Frame) (name source : String) : Except RenderError Frame :=
  if name ∈ frame.stack then
    .error (.ofCause (.partialCycle name frame.stack) { templateName := frame.templateName })
  else
    .ok { frame with
      templateName := some name, source := some source, stack := frame.stack ++ [name] }

theorem enter_of_not_mem {frame : Frame} {name : String} (source : String)
    (h : name ∉ frame.stack) :
    frame.enter name source = .ok { frame with
      templateName := some name, source := some source, stack := frame.stack ++ [name] } := by
  simp [enter, h]

/-- Entering partials never brings a name onto the stack twice. -/
theorem nodup_of_enter {frame inner : Frame} {name source : String}
    (h : frame.enter name source = .ok inner) (hn : frame.stack.Nodup) : inner.stack.Nodup := by
  unfold enter at h
  split at h
  · cases h
  · rename_i hm
    cases h
    simp only [List.nodup_append, List.nodup_cons, List.not_mem_nil, not_false_eq_true,
      List.nodup_nil, and_self, true_and, hn]
    intro a ha b hb hab
    rw [List.mem_singleton.1 hb] at hab
    exact hm (hab ▸ ha)

end Frame

end Stencil
