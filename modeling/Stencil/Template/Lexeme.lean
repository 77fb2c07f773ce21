import Stencil.Template.Scan

/-!
Template text cut into lexemes, and the tokens among them. Every lexeme is a stretch of the source
and together they are the whole of it; a lexeme without a kind is a comment and gives no token.
-/

namespace Stencil

/-- A stretch of the source and what it says. A comment says nothing. -/
structure Lexeme where
  kind : Option Token.Kind
  text : List Char
  deriving DecidableEq, Repr

namespace Lexeme

open Scan

/-- The order in which the shapes are tried. -/
def priority : List Shape := [.opening, .closing, .inclusion, .comment, .output, .text]

/-- The first of the shapes that recognises the front of a text. -/
def firstMatch (order : List Shape) (cs : List Char) : Option Match :=
  order.findSome? fun shape => shape.match? cs

theorem firstMatch_append {order : List Shape} {cs : List Char} {m : Match}
    (h : firstMatch order cs = some m) : m.taken ++ m.rest = cs ∧ m.taken ≠ [] := by
  obtain ⟨shape, _, hs⟩ := List.exists_of_findSome?_eq_some h
  exact Shape.match?_append hs

theorem firstMatch_length {order : List Shape} {cs : List Char} {m : Match}
    (h : firstMatch order cs = some m) : m.rest.length < cs.length := by
  obtain ⟨shape, _, hs⟩ := List.exists_of_findSome?_eq_some h
  exact Shape.match?_length hs

/-- The lexemes of a text when the shapes are tried in the given order. A character at which no
shape is recognised is a lexeme of plain text by itself. -/
def ofCharsIn (order : List Shape) (cs : List Char) : List Lexeme :=
  match cs with
  | [] => []
  | c :: cs =>
    match _h : firstMatch order (c :: cs) with
    | some m => ⟨m.kind, m.taken⟩ :: ofCharsIn order m.rest
    | none => ⟨some .text, [c]⟩ :: ofCharsIn order cs
termination_by cs.length
decreasing_by
  · exact firstMatch_length _h
  · simp

def ofChars (cs : List Char) : List Lexeme := ofCharsIn priority cs

/-- The tokens among the lexemes, the first of which starts at the given offset. -/
def tokensFrom (offset : Nat) : List Lexeme → List Token
  | [] => []
  | lexeme :: later =>
    let tokens := tokensFrom (offset + lexeme.text.length) later
    match lexeme.kind with
    | some kind => ⟨kind, String.ofList lexeme.text, offset⟩ :: tokens
    | none => tokens

theorem flatMap_text_ofCharsIn (order : List Shape) (cs : List Char) :
    (ofCharsIn order cs).flatMap text = cs := by
  fun_induction ofCharsIn order cs with
  | case1 => rfl
  | case2 c cs m h ih => simp [ih, (firstMatch_append h).1]
  | case3 c cs h ih => simp [ih]

theorem text_ne_nil_of_mem {order : List Shape} {cs : List Char} {lexeme : Lexeme}
    (h : lexeme ∈ ofCharsIn order cs) : lexeme.text ≠ [] := by
  fun_induction ofCharsIn order cs with
  | case1 => cases h
  | case2 c cs m hm ih =>
    rcases List.mem_cons.1 h with rfl | h
    · exact (firstMatch_append hm).2
    · exact ih h
  | case3 c cs hm ih =>
    rcases List.mem_cons.1 h with rfl | h
    · simp
    · exact ih h

end Lexeme

/-- The tokens of template text. No text is refused: what is no tag is plain text. -/
def tokenize (source : String) : List Token := Lexeme.tokensFrom 0 (Lexeme.ofChars source.toList)

end Stencil
