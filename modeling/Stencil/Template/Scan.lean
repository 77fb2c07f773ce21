import Stencil.Text.Blank
import Stencil.Text.Word
import Stencil.Template.Token

/-!
The shapes that template text is made of: four kinds of tag, comments, and plain text. Each shape
is a function from a text to the stretch that it recognises at the front of it, with what follows.
A shape that recognises something takes at least one character, and what it takes and what it
leaves are together the text it was given.
-/

namespace Stencil.Scan

open Text

/-- A stretch recognised at the front of a text. Comments have no kind. -/
structure Match where
  kind : Option Token.Kind
  taken : List Char
  rest : List Char

/-- Two opening braces, blanks, and a mark: the front of a tag. -/
def openTag (mark : Char) : List Char → Option (List Char × List Char)
  | '{' :: '{' :: cs =>
    match cs.dropWhile isBlank with
    | c :: rest =>
      if c = mark then some ('{' :: '{' :: (cs.takeWhile isBlank ++ [c]), rest) else none
    | [] => none
  | _ => none

def name (cs : List Char) : Option (List Char × List Char) :=
  match cs.takeWhile isWord with
  | [] => none
  | word => some (word, cs.dropWhile isWord)

def closeTag (cs : List Char) : Option (List Char × List Char) :=
  match cs.dropWhile isBlank with
  | '}' :: '}' :: rest => some (cs.takeWhile isBlank ++ ['}', '}'], rest)
  | _ => none

/-- What a tag holds behind its name: the arguments, if there are any, the characters taken up to
and with the closing braces, and the rest. -/
structure Tail where
  arguments : Option (List Char)
  taken : List Char
  rest : List Char

/-- The shortest non-empty run within one line that the end of a tag follows. -/
def shortestArgument : List Char → Option Tail
  | [] => none
  | c :: cs =>
    if c = '\n' then none
    else match closeTag cs with
      | some (taken, rest) => some ⟨some [c], c :: taken, rest⟩
      | none => (shortestArgument cs).map fun tail =>
          ⟨tail.arguments.map (c :: ·), c :: tail.taken, tail.rest⟩

/-- Arguments behind some of the given blanks. As many blanks as possible stand before the
arguments; fewer do only if no arguments follow otherwise. -/
def argumentAfter : List Char → List Char → Option Tail
  | [], _ => none
  | c :: blanks, body =>
    match argumentAfter blanks body with
    | some tail => some { tail with taken := c :: tail.taken }
    | none => (shortestArgument (blanks ++ body)).map fun tail =>
        { tail with taken := c :: tail.taken }

/-- The rest of a tag behind its name. Arguments are looked for first, and may reach over closing
braces; only if there are none does the tag end at once. -/
def tagTail (cs : List Char) : Option Tail :=
  match argumentAfter (cs.takeWhile isBlank) (cs.dropWhile isBlank) with
  | some tail => some tail
  | none => (closeTag cs).map fun (taken, rest) => ⟨none, taken, rest⟩

def openingTag (cs : List Char) : Option Match := do
  let (front, cs) ← openTag '#' cs
  let (word, cs) ← name cs
  let tail ← tagTail cs
  return ⟨some (.opening (String.ofList word) (tail.arguments.map String.ofList)),
    front ++ (word ++ tail.taken), tail.rest⟩

def closingTag (cs : List Char) : Option Match := do
  let (front, cs) ← openTag '/' cs
  let (word, cs) ← name cs
  let (back, rest) ← closeTag cs
  return ⟨some (.closing (String.ofList word)), front ++ (word ++ back), rest⟩

def inclusionTag (cs : List Char) : Option Match := do
  let (front, cs) ← openTag '>' cs
  let (word, after) ← name (cs.dropWhile isBlank)
  let tail ← tagTail after
  return ⟨some (.inclusion (String.ofList word) (tail.arguments.map String.ofList)),
    front ++ (cs.takeWhile isBlank ++ (word ++ tail.taken)), tail.rest⟩

/-- The text up to and with the first end of a comment. -/
def commentTail : List Char → Option (List Char × List Char)
  | '-' :: '-' :: '}' :: '}' :: rest => some (['-', '-', '}', '}'], rest)
  | c :: cs => (commentTail cs).map fun (taken, rest) => (c :: taken, rest)
  | [] => none

/-- A comment: from its opening to the first ending that follows. -/
def comment : List Char → Option Match
  | '{' :: '{' :: '!' :: '-' :: '-' :: cs =>
    (commentTail cs).map fun (taken, rest) =>
      ⟨none, '{' :: '{' :: '!' :: '-' :: '-' :: taken, rest⟩
  | _ => none

/-- Whether an expression may start with the character. -/
def startsExpression (c : Char) : Bool := c ≠ '#' && c ≠ '/' && c ≠ '>' && !isBlank c

/-- The shortest run without closing braces that the end of a tag follows: the run, what is taken
with the end of the tag, and the rest. -/
def shortestExpression (cs : List Char) : Option (List Char × List Char × List Char) :=
  match closeTag cs with
  | some (taken, rest) => some ([], taken, rest)
  | none =>
    match cs with
    | [] => none
    | c :: cs =>
      if c = '}' then none
      else (shortestExpression cs).map fun (run, taken, rest) => (c :: run, c :: taken, rest)

/-- An output tag: any expression in braces that is no other tag. Its first character may be a
closing brace, the others may not. -/
def outputTag : List Char → Option Match
  | '{' :: '{' :: cs =>
    match cs.dropWhile isBlank with
    | c :: body =>
      if startsExpression c then
        (shortestExpression body).map fun (run, taken, rest) =>
          ⟨some (.output (String.ofList (c :: run))),
            '{' :: '{' :: (cs.takeWhile isBlank ++ c :: taken), rest⟩
      else none
    | [] => none
  | _ => none

/-- The text up to the next two opening braces, and what follows. -/
def textRun : List Char → List Char × List Char
  | [] => ([], [])
  | c :: cs =>
    if c = '{' ∧ cs.head? = some '{' then ([], c :: cs)
    else
      let (run, rest) := textRun cs
      (c :: run, rest)

/-- Plain text: a non-empty run without two opening braces. -/
def plain (cs : List Char) : Option Match :=
  match textRun cs with
  | ([], _) => none
  | (run, rest) => some ⟨some .text, run, rest⟩

/-- The shapes that a stretch of template text can have. -/
inductive Shape where
  | opening
  | closing
  | inclusion
  | comment
  | output
  | text
  deriving DecidableEq, Repr

/-- The stretch of the given shape at the front of a text. -/
def Shape.match? : Shape → List Char → Option Match
  | .opening => openingTag
  | .closing => closingTag
  | .inclusion => inclusionTag
  | .comment => Scan.comment
  | .output => outputTag
  | .text => plain

/-! ### What is taken and what is left -/

theorem openTag_append {mark : Char} {cs taken rest : List Char}
    (h : openTag mark cs = some (taken, rest)) : taken ++ rest = cs ∧ taken ≠ [] := by
  unfold openTag at h
  split at h
  · rename_i cs
    split at h
    · rename_i c body hd
      split at h
      · simp only [Option.some.injEq, Prod.mk.injEq] at h
        obtain ⟨rfl, rfl⟩ := h
        refine ⟨?_, by simp⟩
        have := List.takeWhile_append_dropWhile (p := isBlank) (l := cs)
        simp_all
      · cases h
    · cases h
  · cases h

theorem name_append {cs taken rest : List Char} (h : name cs = some (taken, rest)) :
    taken ++ rest = cs := by
  unfold name at h
  split at h
  · cases h
  · simp only [Option.some.injEq, Prod.mk.injEq] at h
    obtain ⟨rfl, rfl⟩ := h
    exact List.takeWhile_append_dropWhile

theorem closeTag_append {cs taken rest : List Char} (h : closeTag cs = some (taken, rest)) :
    taken ++ rest = cs := by
  unfold closeTag at h
  split at h
  · rename_i body hd
    simp only [Option.some.injEq, Prod.mk.injEq] at h
    obtain ⟨rfl, rfl⟩ := h
    have := List.takeWhile_append_dropWhile (p := isBlank) (l := cs)
    simp_all
  · cases h

theorem shortestArgument_append {cs : List Char} {tail : Tail}
    (h : shortestArgument cs = some tail) : tail.taken ++ tail.rest = cs := by
  induction cs generalizing tail with
  | nil => cases h
  | cons c cs ih =>
    unfold shortestArgument at h
    split at h
    · cases h
    · split at h
      · rename_i taken rest hc
        cases h
        simp [closeTag_append hc]
      · simp only [Option.map_eq_some_iff] at h
        obtain ⟨inner, hi, rfl⟩ := h
        simp [ih hi]

theorem argumentAfter_append {blanks body : List Char} {tail : Tail}
    (h : argumentAfter blanks body = some tail) : tail.taken ++ tail.rest = blanks ++ body := by
  induction blanks generalizing tail with
  | nil => cases h
  | cons c blanks ih =>
    unfold argumentAfter at h
    split at h
    · rename_i inner hi
      cases h
      simp [ih hi]
    · simp only [Option.map_eq_some_iff] at h
      obtain ⟨inner, hi, rfl⟩ := h
      simp [shortestArgument_append hi]

theorem tagTail_append {cs : List Char} {tail : Tail} (h : tagTail cs = some tail) :
    tail.taken ++ tail.rest = cs := by
  unfold tagTail at h
  split at h
  · rename_i inner hi
    cases h
    rw [argumentAfter_append hi, List.takeWhile_append_dropWhile]
  · simp only [Option.map_eq_some_iff] at h
    obtain ⟨⟨taken, rest⟩, hc, rfl⟩ := h
    exact closeTag_append hc

theorem commentTail_append {cs taken rest : List Char}
    (h : commentTail cs = some (taken, rest)) : taken ++ rest = cs := by
  fun_induction commentTail cs generalizing taken rest with
  | case1 rest =>
    cases h
    rfl
  | case2 c cs _ ih =>
    simp only [Option.map_eq_some_iff, Prod.exists] at h
    obtain ⟨t, r, hi, he⟩ := h
    simp only [Prod.mk.injEq] at he
    obtain ⟨rfl, rfl⟩ := he
    simp [ih hi]
  | case3 => cases h

theorem shortestExpression_append {cs run taken rest : List Char}
    (h : shortestExpression cs = some (run, taken, rest)) : taken ++ rest = cs := by
  induction cs generalizing run taken rest with
  | nil =>
    unfold shortestExpression at h
    split at h
    · rename_i hc
      cases h
      exact closeTag_append hc
    · cases h
  | cons c cs ih =>
    unfold shortestExpression at h
    split at h
    · rename_i hc
      cases h
      exact closeTag_append hc
    · simp only at h
      split at h
      · cases h
      · simp only [Option.map_eq_some_iff, Prod.exists] at h
        obtain ⟨r, t, e, hi, he⟩ := h
        simp only [Prod.mk.injEq] at he
        obtain ⟨rfl, rfl, rfl⟩ := he
        simp [ih hi]

theorem textRun_append (cs : List Char) : (textRun cs).1 ++ (textRun cs).2 = cs := by
  induction cs with
  | nil => rfl
  | cons c cs ih =>
    unfold textRun
    split
    · rfl
    · simp [ih]

/-- A shape takes at least one character, and loses none. -/
theorem Shape.match?_append {shape : Shape} {cs : List Char} {m : Match}
    (h : shape.match? cs = some m) : m.taken ++ m.rest = cs ∧ m.taken ≠ [] := by
  cases shape with
  | opening =>
    simp only [Shape.match?, openingTag, Option.bind_eq_bind, Option.bind_eq_some_iff,
      Prod.exists, Option.pure_def, Option.some.injEq] at h
    obtain ⟨front, cs1, h1, word, cs2, h2, tail, h3, rfl⟩ := h
    have := openTag_append h1
    simp_all [tagTail_append h3, name_append h2]
  | closing =>
    simp only [Shape.match?, closingTag, Option.bind_eq_bind, Option.bind_eq_some_iff,
      Prod.exists, Option.pure_def, Option.some.injEq] at h
    obtain ⟨front, cs1, h1, word, cs2, h2, back, rest, h3, rfl⟩ := h
    have := openTag_append h1
    simp_all [closeTag_append h3, name_append h2]
  | inclusion =>
    simp only [Shape.match?, inclusionTag, Option.bind_eq_bind, Option.bind_eq_some_iff,
      Prod.exists, Option.pure_def, Option.some.injEq] at h
    obtain ⟨front, cs1, h1, word, cs2, h2, tail, h3, rfl⟩ := h
    have := openTag_append h1
    simp_all [tagTail_append h3, name_append h2]
  | comment =>
    simp only [Shape.match?, Scan.comment] at h
    split at h
    · simp only [Option.map_eq_some_iff, Prod.exists] at h
      obtain ⟨taken, rest, hc, rfl⟩ := h
      simp [commentTail_append hc]
    · cases h
  | output =>
    simp only [Shape.match?, outputTag] at h
    split at h
    · rename_i cs
      split at h
      · rename_i c body hd
        split at h
        · simp only [Option.map_eq_some_iff, Prod.exists] at h
          obtain ⟨run, taken, rest, he, rfl⟩ := h
          have := List.takeWhile_append_dropWhile (p := isBlank) (l := cs)
          simp_all [shortestExpression_append he]
        · cases h
      · cases h
    · cases h
  | text =>
    simp only [Shape.match?, plain] at h
    have hrun := textRun_append cs
    split at h
    · cases h
    · rename_i run rest hne heq
      cases h
      rw [heq] at hrun
      exact ⟨hrun, hne⟩

theorem Shape.match?_length {shape : Shape} {cs : List Char} {m : Match}
    (h : shape.match? cs = some m) : m.rest.length < cs.length := by
  obtain ⟨rfl, hne⟩ := Shape.match?_append h
  have := List.length_pos_iff.2 hne
  simp
  omega

end Stencil.Scan
