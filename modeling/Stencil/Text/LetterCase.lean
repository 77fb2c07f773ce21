import Stencil.Text.CaseTable

/-!
Texts in upper and in lower case. A character may become several, and the lower case of the letter
sigma has a form of its own at the end of a word.
-/

namespace Stencil.Text

/-- The counterpart that the first fitting run gives a code point. -/
def caseImage? (runs : List CaseRun) (n : Nat) : Option Nat := runs.findSome? (·.image? n)

def upperChar (c : Char) : List Char :=
  if c.toNat < 128 then [c.toUpper]
  else match caseImage? upperRuns c.toNat with
    | some n => [Char.ofNat n]
    | none => ((upperExpansions.lookup c.toNat).map (·.map Char.ofNat)).getD [c]

def lowerChar (c : Char) : List Char :=
  if c.toNat < 128 then [c.toLower]
  else if c = 'İ' then ['i', '\u0307']
  else match caseImage? lowerRuns c.toNat with
    | some n => [Char.ofNat n]
    | none => [c]

/-- Whether the first character that is not passed over has a case. -/
def meetsCased (cs : List Char) : Bool :=
  match cs.dropWhile fun c => within c.toNat caseIgnorableBounds with
  | c :: _ => within c.toNat casedBounds
  | [] => false

/-- The lower case of characters, given those before them, the nearest first. A capital sigma behind
a letter and not before one becomes a final sigma. -/
def lowerFrom (before : List Char) : List Char → List Char
  | [] => []
  | c :: cs =>
    let lowered :=
      if c = 'Σ' then (if meetsCased before && !meetsCased cs then ['ς'] else ['σ'])
      else lowerChar c
    lowered ++ lowerFrom (c :: before) cs

def upper (s : String) : String := String.ofList (s.toList.flatMap upperChar)

def lower (s : String) : String := String.ofList (lowerFrom [] s.toList)

/-- The text with its first character in upper case and all others in lower case. -/
def capitalize (s : String) : String :=
  match s.toList with
  | [] => ""
  | c :: cs => String.ofList (upperChar c ++ lowerFrom [] cs)

end Stencil.Text
