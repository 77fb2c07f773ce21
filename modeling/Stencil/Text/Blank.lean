/-!
Blank characters, and the two ways a text is cut at them: its ends are trimmed, or it falls into
words. Words are never empty and hold no blank.
-/

namespace Stencil.Text

/-- A blank separates words: the characters of Unicode 14 with the property of white space, and the
four separators of ASCII. -/
def isBlank (c : Char) : Bool :=
  let n := c.toNat
  (9 ≤ n && n ≤ 13) || (28 ≤ n && n ≤ 32) || n == 0x85 || n == 0xa0 || n == 0x1680 ||
    (0x2000 ≤ n && n ≤ 0x200a) || n == 0x2028 || n == 0x2029 || n == 0x202f || n == 0x205f ||
    n == 0x3000

def trimFront (cs : List Char) : List Char := cs.dropWhile isBlank

def trimChars (cs : List Char) : List Char := (trimFront (trimFront cs).reverse).reverse

def trim (s : String) : String := String.ofList (trimChars s.toList)

/-- One step from the right: the word that is being spelled, and the words after it. -/
def wordStep (c : Char) : List Char × List (List Char) → List Char × List (List Char)
  | (word, later) =>
    if isBlank c then ([], if word.isEmpty then later else word :: later) else (c :: word, later)

def wordChars (cs : List Char) : List (List Char) :=
  match cs.foldr wordStep ([], []) with
  | ([], later) => later
  | (word, later) => word :: later

def words (s : String) : List String := (wordChars s.toList).map String.ofList

/-- The pieces between the occurrences of a separator: the first, and those after it. -/
def cutChars (separator : Char) : List Char → List Char × List (List Char)
  | [] => ([], [])
  | c :: cs =>
    let (first, later) := cutChars separator cs
    if c = separator then ([], first :: later) else (c :: first, later)

/-- The pieces between the occurrences of a separator. There is always one more piece than there
are separators. -/
def cut (separator : Char) (s : String) : List String :=
  let (first, later) := cutChars separator s.toList
  (first :: later).map String.ofList

@[simp] theorem isBlank_space : isBlank ' ' = true := by decide

end Stencil.Text
