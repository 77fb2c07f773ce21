import Stencil.Proofs.Scanning
import Stencil.Template.Print
import Mathlib.Data.List.Basic

/-!
The order in which the shapes of template text are tried. Two braces and the first character behind
them that is no blank tell what can stand at a place, with one exception: a comment may be read as
an output tag as well. So the order matters for these two and for no others, and every order that
tries comments before output tags gives the same tokens.
-/

namespace Stencil

open Text Scan

namespace Scan

/-! ### What can stand at a place -/

/-- The first character behind two opening braces that is no blank. -/
def lead : List Char → Option Char
  | '{' :: '{' :: cs => (cs.dropWhile isBlank).head?
  | _ => none

/-- What the lead tells about the shape at a place. It does not tell comments from output tags. -/
def Shape.ofLead : Option Char → Shape
  | none => .text
  | some c =>
    if c = '#' then .opening
    else if c = '/' then .closing
    else if c = '>' then .inclusion
    else .output

/-- The shape, or that of an output tag in place of a comment. -/
def Shape.withoutComment : Shape → Shape
  | .comment => .output
  | shape => shape

theorem lead_of_openTag {mark : Char} {cs : List Char} {found : List Char × List Char}
    (h : openTag mark cs = some found) : lead cs = some mark := by
  unfold openTag at h
  split at h
  · split at h
    · rename_i hDrop
      split at h
      · rename_i hMark
        simp [lead, hDrop, hMark]
      · cases h
    · cases h
  · cases h

theorem lead_of_comment {cs : List Char} {m : Match} (h : comment cs = some m) :
    lead cs = some '!' := by
  have hMark : isBlank '!' = false := by decide
  unfold comment at h
  split at h
  · simp [lead, hMark]
  · cases h

theorem lead_of_outputTag {cs : List Char} {m : Match} (h : outputTag cs = some m) :
    ∃ c, lead cs = some c ∧ startsExpression c = true := by
  unfold outputTag at h
  split at h
  · split at h
    · rename_i c body hDrop
      split at h
      · rename_i hStarts
        exact ⟨c, by simp [lead, hDrop], hStarts⟩
      · cases h
    · cases h
  · cases h

/-- Plain text stands everywhere but at two opening braces. -/
theorem plain_eq_none_iff {cs : List Char} : plain cs = none ↔ cs = [] ∨ ['{', '{'] <+: cs := by
  cases cs with
  | nil => simp [plain, textRun]
  | cons c cs =>
    unfold plain textRun
    by_cases hOpen : c = '{' ∧ cs.head? = some '{'
    · obtain ⟨rfl, hHead⟩ := hOpen
      obtain ⟨later, rfl⟩ := List.head?_eq_some_iff.1 hHead
      simp
    · have hNot : ¬ ['{', '{'] <+: c :: cs := by
        rintro ⟨later, hSame⟩
        cases hSame
        exact hOpen ⟨rfl, rfl⟩
      simp [hOpen, hNot]

theorem lead_of_plain {cs : List Char} {m : Match} (h : plain cs = some m) : lead cs = none := by
  unfold lead
  split
  · rename_i later
    have hNone : plain ('{' :: '{' :: later) = none := plain_eq_none_iff.2 (.inr ⟨later, rfl⟩)
    rw [hNone] at h
    cases h
  · rfl

theorem Shape.ofLead_lead {shape : Shape} {cs : List Char} {m : Match}
    (h : shape.match? cs = some m) : ofLead (lead cs) = shape.withoutComment := by
  cases shape with
  | opening | closing | inclusion =>
    obtain ⟨found, hFront, -⟩ := Option.bind_eq_some_iff.1 h
    rw [lead_of_openTag hFront]
    rfl
  | comment =>
    rw [lead_of_comment h]
    rfl
  | output =>
    obtain ⟨c, hLead, hStarts⟩ := lead_of_outputTag h
    simp only [startsExpression, Bool.and_eq_true, decide_eq_true_eq] at hStarts
    obtain ⟨⟨⟨hOpening, hClosing⟩, hInclusion⟩, -⟩ := hStarts
    simp [hLead, ofLead, withoutComment, hOpening, hClosing, hInclusion]
  | text =>
    rw [lead_of_plain h]
    rfl

theorem Shape.withoutComment_eq_iff {shape other : Shape} :
    shape.withoutComment = other.withoutComment ↔
      shape = other ∨ (shape = .comment ∧ other = .output) ∨
        (shape = .output ∧ other = .comment) := by
  cases shape <;> cases other <;> simp [withoutComment]

/-- At most one shape is recognised in front of a text, but for comments and output tags. -/
theorem Shape.eq_of_match? {shape other : Shape} {cs : List Char} (h : shape.match? cs ≠ none)
    (hOther : other.match? cs ≠ none) :
    shape = other ∨ (shape = .comment ∧ other = .output) ∨
      (shape = .output ∧ other = .comment) := by
  obtain ⟨m, hMatch⟩ := Option.ne_none_iff_exists'.1 h
  obtain ⟨m', hMatch'⟩ := Option.ne_none_iff_exists'.1 hOther
  rw [← withoutComment_eq_iff, ← ofLead_lead hMatch, ← ofLead_lead hMatch']

/-- The shape is recognised in the source at the position. -/
def Shape.StandsAt (shape : Shape) (source : String) (position : Nat) : Prop :=
  shape.match? (source.toList.drop position) ≠ none

instance (shape : Shape) (source : String) (position : Nat) :
    Decidable (shape.StandsAt source position) :=
  inferInstanceAs (Decidable (shape.match? _ ≠ none))

end Scan

/-! ### Orders -/

namespace Lexeme

variable {order order' : List Shape} {cs : List Char} {m : Match}

theorem mem_priority (shape : Shape) : shape ∈ priority := by
  cases shape <;> simp [priority]

/-- What is found in front of a text is of a shape that no other recognised one precedes. -/
theorem exists_shape_of_firstMatch (h : firstMatch order cs = some m) :
    ∃ shape, shape.match? cs = some m ∧
      ∀ other : Shape, other.match? cs ≠ none → order.idxOf shape ≤ order.idxOf other := by
  obtain ⟨before, shape, after, hOrder, hMatch, hNone⟩ := List.findSome?_eq_some_iff.1 h
  -- Nothing in front of the shape that is found is recognised, so all recognised ones are behind.
  have hBehind (other : Shape) (hOther : other.match? cs ≠ none) :
      order.idxOf other = before.length + (shape :: after).idxOf other := by
    have hNotBefore : other ∉ before := fun hMem => hOther (hNone other hMem)
    rw [hOrder, List.idxOf_append_of_notMem hNotBefore]
  refine ⟨shape, hMatch, fun other hOther => ?_⟩
  have hShape := hBehind shape (by simp [hMatch])
  rw [List.idxOf_cons_self] at hShape
  rw [hShape, hBehind other hOther]
  omega

theorem firstMatch_eq_some_iff (hAll : ∀ shape, shape ∈ order) :
    firstMatch order cs = some m ↔ ∃ shape, shape.match? cs = some m ∧
      ∀ other : Shape, other.match? cs ≠ none → order.idxOf shape ≤ order.idxOf other := by
  constructor
  · exact exists_shape_of_firstMatch
  · rintro ⟨shape, hMatch, hLeast⟩
    cases hFound : firstMatch order cs with
    | none =>
      have hNone := List.findSome?_eq_none_iff.1 hFound shape (hAll shape)
      rw [hMatch] at hNone
      cases hNone
    | some found =>
      obtain ⟨other, hOther, hOtherLeast⟩ := exists_shape_of_firstMatch hFound
      have hSame : order.idxOf shape = order.idxOf other :=
        Nat.le_antisymm (hLeast other (by simp [hOther])) (hOtherLeast shape (by simp [hMatch]))
      obtain rfl := (List.idxOf_inj (hAll shape)).1 hSame
      rw [← hOther, hMatch]

/-- If comments come before output tags, it is enough to know that no comment is recognised where an
output tag is. -/
theorem precedes_iff (hComment : order.idxOf .comment < order.idxOf .output) {shape : Shape}
    (hShape : shape.match? cs ≠ none) :
    (∀ other : Shape, other.match? cs ≠ none → order.idxOf shape ≤ order.idxOf other) ↔
      (shape = .output → Shape.comment.match? cs = none) := by
  constructor
  · rintro h rfl
    by_contra hNot
    have := h .comment hNot
    omega
  · intro h other hOther
    obtain rfl | ⟨rfl, rfl⟩ | ⟨rfl, rfl⟩ := Shape.eq_of_match? hShape hOther
    · apply Nat.le_refl
    · omega
    · exact absurd (h rfl) hOther

/-- Orders of all shapes in which comments come before output tags find the same. -/
theorem firstMatch_congr (hAll : ∀ shape, shape ∈ order) (hAll' : ∀ shape, shape ∈ order')
    (hComment : order.idxOf .comment < order.idxOf .output)
    (hComment' : order'.idxOf .comment < order'.idxOf .output) (cs : List Char) :
    firstMatch order cs = firstMatch order' cs := by
  ext m
  rw [firstMatch_eq_some_iff hAll, firstMatch_eq_some_iff hAll']
  apply exists_congr
  intro shape
  apply and_congr_right
  intro hMatch
  have hShape : shape.match? cs ≠ none := by simp [hMatch]
  rw [precedes_iff hComment hShape, precedes_iff hComment' hShape]

/-- The lexemes depend on nothing but what is found in front of each rest of the text. -/
theorem ofCharsIn_congr (h : ∀ cs, firstMatch order cs = firstMatch order' cs) (cs : List Char) :
    ofCharsIn order cs = ofCharsIn order' cs := by
  fun_induction ofCharsIn order cs with
  | case1 => rw [ofCharsIn]
  | case2 c cs m hMatch ih =>
    rw [h] at hMatch
    rw [ih, ofCharsIn_of_firstMatch hMatch]
  | case3 c cs hNone ih =>
    rw [h] at hNone
    rw [ih, ofCharsIn_of_firstMatch_eq_none hNone]

end Lexeme

open Lexeme

/-- The tokens of template text when the shapes are tried in the given order. -/
def tokenizeIn (order : List Shape) (source : String) : List Token :=
  tokensFrom 0 (ofCharsIn order source.toList)

/-- A comment without text is an output tag if output tags are tried first. -/
theorem tokenizeIn_ne_tokenize {order : List Shape} (hAll : ∀ shape, shape ∈ order)
    (hOutput : order.idxOf .output ≤ order.idxOf .comment) :
    tokenizeIn order (Node.tag "!----") ≠ tokenize (Node.tag "!----") := by
  have hKind : (Shape.output.match? (Node.tag "!----").toList).map Match.kind =
      some (some (.output "!----")) := by decide +kernel
  obtain ⟨m, hMatch, hKind⟩ := Option.map_eq_some_iff.1 hKind
  have hFirst : firstMatch order (Node.tag "!----").toList = some m := by
    have hShape : Shape.output.match? (Node.tag "!----").toList ≠ none := by simp [hMatch]
    refine (firstMatch_eq_some_iff hAll).2 ⟨.output, hMatch, fun other hOther => ?_⟩
    obtain rfl | ⟨hComment, -⟩ | ⟨-, rfl⟩ := Shape.eq_of_match? hShape hOther
    · apply Nat.le_refl
    · cases hComment
    · exact hOutput
  have hNothing : tokenize (Node.tag "!----") = [] := by decide +kernel
  rw [tokenizeIn, ofCharsIn_of_firstMatch hFirst, hNothing]
  simp [tokensFrom, hKind]

/-- At every position of a source at most one shape is recognised, but for comments and output tags,
which may both be. So among the orders of all shapes those and only those give the same tokens for
every source that try comments before output tags. Plain text is recognised at no two opening
braces. -/
theorem priority_matters_once :
    (∀ (source : String) (position : Nat) (shape other : Shape),
      shape.StandsAt source position → other.StandsAt source position →
        shape = other ∨ (shape = .comment ∧ other = .output) ∨
          (shape = .output ∧ other = .comment)) ∧
      (∃ source position, Shape.comment.StandsAt source position ∧
        Shape.output.StandsAt source position) ∧
      (∀ order : List Shape, order.Perm priority →
        (order.idxOf .comment < order.idxOf .output ↔
          ∀ source, tokenizeIn order source = tokenize source)) ∧
      ∀ (source : String) (position : Nat), ['{', '{'] <+: source.toList.drop position →
        ¬ Shape.text.StandsAt source position := by
  refine ⟨fun source position shape other h hOther => Shape.eq_of_match? h hOther,
    ⟨Node.tag "!----", 0, by decide +kernel, by decide +kernel⟩, fun order hPerm => ?_,
    fun source position hBraces hStands => hStands (plain_eq_none_iff.2 (.inr hBraces))⟩
  have hAll (shape : Shape) : shape ∈ order := hPerm.mem_iff.2 (mem_priority shape)
  constructor
  · intro hComment source
    have hFirst : priority.idxOf .comment < priority.idxOf .output := by decide
    rw [tokenizeIn, ofCharsIn_congr (firstMatch_congr hAll mem_priority hComment hFirst)]
    rfl
  · intro hSame
    by_contra hNot
    exact tokenizeIn_ne_tokenize hAll (Nat.le_of_not_lt hNot) (hSame _)

/-- The shapes from the last one to the first, but with comments before output tags. -/
theorem priority_matters_once_reversed :
    let order : List Shape := [.text, .comment, .output, .inclusion, .closing, .opening]
    let source := "a" ++ Node.tag "!--b--" ++ Node.tag "b"
    (Shape.comment.StandsAt source 1 ∧ Shape.output.StandsAt source 1) ∧
      order.Perm priority ∧ order.idxOf .comment < order.idxOf .output ∧
      tokenizeIn order source = tokenize source ∧
      ['{', '{'] <+: source.toList.drop 1 ∧ ¬ Shape.text.StandsAt source 1 := by
  intro order source
  obtain ⟨hOnly, -, hOrders, hText⟩ := priority_matters_once
  have hComment : Shape.comment.StandsAt source 1 := by
    unfold Shape.StandsAt
    decide +kernel
  have hOutput : Shape.output.StandsAt source 1 := by
    unfold Shape.StandsAt
    decide +kernel
  have hPerm : order.Perm priority := by decide
  have hFirst : order.idxOf .comment < order.idxOf .output := by decide
  have hBraces : ['{', '{'] <+: source.toList.drop 1 := by decide +kernel
  exact ⟨⟨hComment, hOutput⟩, hPerm, hFirst, (hOrders order hPerm).1 hFirst source, hBraces,
    hText source 1 hBraces⟩

end Stencil
