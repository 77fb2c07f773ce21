/-!
Text made safe for markup: the five characters that mean something there are written as entities.
Reading the entities from left to right gives the text back, so no two texts are written alike.
-/

namespace Stencil.Text.Html

/-- The entity of a character that means something in markup, and any other character itself. -/
def encodeChar (c : Char) : List Char :=
  if c = '&' then "&amp;".toList
  else if c = '<' then "&lt;".toList
  else if c = '>' then "&gt;".toList
  else if c = '"' then "&quot;".toList
  else if c = '\'' then "&#39;".toList
  else [c]

/-- A text with entities in place of the five characters. -/
def escape (s : String) : String := String.ofList (s.toList.flatMap encodeChar)

/-- The characters with the five entities read as what they stand for. Whatever is no entity is
left as it is. -/
def decodeChars : List Char → List Char
  | '&' :: 'a' :: 'm' :: 'p' :: ';' :: cs => '&' :: decodeChars cs
  | '&' :: 'l' :: 't' :: ';' :: cs => '<' :: decodeChars cs
  | '&' :: 'g' :: 't' :: ';' :: cs => '>' :: decodeChars cs
  | '&' :: 'q' :: 'u' :: 'o' :: 't' :: ';' :: cs => '"' :: decodeChars cs
  | '&' :: '#' :: '3' :: '9' :: ';' :: cs => '\'' :: decodeChars cs
  | c :: cs => c :: decodeChars cs
  | [] => []

/-- A text with characters in place of the five entities. -/
def unescape (s : String) : String := String.ofList (decodeChars s.toList)

theorem escape_append (s t : String) : escape (s ++ t) = escape s ++ escape t := by
  simp [escape, List.flatMap_append]

/-- A character that starts no entity stands for itself. -/
theorem decodeChars_cons {c : Char} (h : c ≠ '&') (cs : List Char) :
    decodeChars (c :: cs) = c :: decodeChars cs := by
  rw [decodeChars] <;> simp [h]

/-- What a character is written as is read back as that character, whatever follows. -/
theorem decodeChars_encodeChar (c : Char) (cs : List Char) :
    decodeChars (encodeChar c ++ cs) = c :: decodeChars cs := by
  by_cases h1 : c = '&'
  · subst h1
    rfl
  by_cases h2 : c = '<'
  · subst h2
    rfl
  by_cases h3 : c = '>'
  · subst h3
    rfl
  by_cases h4 : c = '"'
  · subst h4
    rfl
  by_cases h5 : c = '\''
  · subst h5
    rfl
  have hc : encodeChar c = [c] := by simp [encodeChar, h1, h2, h3, h4, h5]
  rw [hc, List.singleton_append, decodeChars_cons h1]

theorem decodeChars_flatMap (cs : List Char) : decodeChars (cs.flatMap encodeChar) = cs := by
  induction cs with
  | nil => rfl
  | cons c cs ih => rw [List.flatMap_cons, decodeChars_encodeChar, ih]

theorem unescape_escape (s : String) : unescape (escape s) = s := by
  simp [unescape, escape, decodeChars_flatMap]

end Stencil.Text.Html
