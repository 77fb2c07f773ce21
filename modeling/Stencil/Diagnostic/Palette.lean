/-!
Colours of diagnostics. A text is painted by writing the codes of its styles before it and the code
that ends all styles behind it; a plain terminal gets the text alone.
-/

namespace Stencil

/-- What a terminal can do to a text. -/
inductive Style where
  | red | green | yellow | blue | magenta | cyan | white | gray | reset | bold | dim | brightRed
  deriving DecidableEq, Repr

namespace Style

/-- The sequence of characters that switches the style on. -/
def code : Style → String
  | red => "\x1b[31m"
  | green => "\x1b[32m"
  | yellow => "\x1b[33m"
  | blue => "\x1b[34m"
  | magenta => "\x1b[35m"
  | cyan => "\x1b[36m"
  | white => "\x1b[37m"
  | gray => "\x1b[90m"
  | reset => "\x1b[0m"
  | bold => "\x1b[1m"
  | dim => "\x1b[2m"
  | brightRed => "\x1b[91m"

def colour? : String → Option Style
  | "red" => some red
  | "green" => some green
  | "yellow" => some yellow
  | "blue" => some blue
  | "magenta" => some magenta
  | "cyan" => some cyan
  | "white" => some white
  | "gray" => some gray
  | "reset" => some reset
  | _ => none

def ofName? : String → Option Style
  | "bold" => some bold
  | "dim" => some dim
  | "bright_red" => some brightRed
  | name => colour? name

end Style

namespace Palette

def paint (coloured : Bool) (styles : List Style) (text : String) : String :=
  if coloured && !styles.isEmpty then
    String.join (styles.map Style.code) ++ text ++ Style.reset.code
  else text

@[simp] theorem paint_plain (styles : List Style) (text : String) :
    paint false styles text = text := rfl

def errorCode (coloured : Bool) (text : String) : String :=
  paint coloured [.brightRed, .bold] text

def place (coloured : Bool) (text : String) : String := paint coloured [.cyan] text

def lineNumber (coloured : Bool) (text : String) : String := paint coloured [.yellow] text

def wrongLine (coloured : Bool) (text : String) : String := paint coloured [.brightRed] text

def surroundings (coloured : Bool) (text : String) : String := paint coloured [.dim] text

/-- A message behind the code of the error, if there is one. -/
def header (coloured : Bool) (code : Option String) (message : String) : String :=
  match code with
  | none => message
  | some code => if code = "" then message else errorCode coloured code ++ ": " ++ message

/-- Whether diagnostics are coloured, given two settings and whether a terminal shows them. The
first setting that is not empty decides: one forces colours, the other forbids them. -/
def wanted (force forbid : Option String) (terminal : Bool) : Bool :=
  if force.getD "" ≠ "" then true else if forbid.getD "" ≠ "" then false else terminal

/-! ### Removing colours -/

/-- Whether a character lies between two others, both included. -/
def between (low c high : Char) : Bool := low ≤ c && c ≤ high

/-- The rest behind the escape sequence whose first character, the escape, was just read. -/
def sequenceRest : List Char → Option (List Char)
  | [] => none
  | c :: cs =>
    if c = '[' then
      match (cs.dropWhile (between '0' · '?')).dropWhile (between ' ' · '/') with
      | final :: rest => if between '@' final '~' then some rest else none
      | [] => none
    else if between '@' c 'Z' || between '\\' c '_' then some cs
    else none

theorem length_dropWhile_le {α : Type} (p : α → Bool) (xs : List α) :
    (xs.dropWhile p).length ≤ xs.length :=
  (List.dropWhile_sublist p).length_le

theorem sequenceRest_length {cs rest : List Char} (h : sequenceRest cs = some rest) :
    rest.length < cs.length := by
  unfold sequenceRest at h
  split at h
  · cases h
  · rename_i c cs
    split at h
    · split at h
      · rename_i final body hd
        split at h
        · cases h
          have h1 := length_dropWhile_le (between '0' · '?') cs
          have h2 := length_dropWhile_le (between ' ' · '/')
            (cs.dropWhile (between '0' · '?'))
          rw [hd] at h2
          simp only [List.length_cons] at *
          omega
        · cases h
      · cases h
    · split at h
      · cases h
        simp
      · cases h

/-- The characters without the escape sequences among them. -/
def strippedChars (cs : List Char) : List Char :=
  match cs with
  | [] => []
  | c :: cs =>
    if c = '\x1b' then
      match _h : sequenceRest cs with
      | some rest => strippedChars rest
      | none => c :: strippedChars cs
    else c :: strippedChars cs
termination_by cs.length
decreasing_by
  all_goals simp
  have := sequenceRest_length _h
  omega

def stripped (text : String) : String := String.ofList (strippedChars text.toList)

end Palette

end Stencil
