import Stencil.Text.Quoted

/-!
Faults: what goes wrong inside a helper or a piece of data, before the engine has said where in a
template it happened. A fault is its cause; its kind and its message are read off the cause.
-/

namespace Stencil

/-- The broad kind of a fault, which messages name. -/
inductive Fault.Kind where
  | value | key | index | runtime | type | member | zeroDivision | overflow | memory | recursion
  | /-- A kind that only data or helpers know. -/
    other (name : String)
  deriving DecidableEq, Repr

/-- What went wrong. -/
inductive Fault where
  | /-- Data or a helper says so itself, in its own words. -/
    reported (kind : Fault.Kind) (words : String)
  | /-- Data or a helper says so, and raises another fault instead of the words for it. -/
    unspeakable (kind : Fault.Kind) (raised : Fault)
  | /-- A helper that takes `least` to `most` arguments was given more. -/
    tooManyArguments (helper : String) (least most given : Nat)
  | /-- A helper was not given the arguments with these names. -/
    missingArguments (helper : String) (names : List String)
  | /-- A block helper was given nothing at all. -/
    noArguments
  | /-- Something other than the options of a block stands where a block helper expects them. -/
    noMember (type member : String)
  | notCallable (type : String)
  | /-- A count is asked for and something else is given. -/
    notACount (type : String)
  | /-- A length is asked for of something that has none. -/
    notSized (type : String)
  | /-- A value of this type stands where the key of a map is expected. -/
    unfitKey (type : String)
  | unsupportedOperands (operator left right : String)
  | /-- The text is no whole number. -/
    invalidInteger (text : String)
  | /-- The text has more digits than a whole number is read from. -/
    tooManyDigitsToRead (digits : Nat)
  | /-- The whole number has more digits than are written. -/
    tooManyDigitsToWrite
  | integerTooLargeForFloat
  | quotientTooLargeForFloat
  | /-- A length that no sequence can have. -/
    lengthTooLarge
  | /-- A length for which there is no memory. -/
    outOfMemory
  | precisionTooLarge
  | /-- A number of decimals that is no machine word. -/
    tooManyDecimals
  | /-- The first of no arguments. -/
    outOfRange
  | /-- There is no stack left to open a block or a partial. -/
    stackUsedUp
  | /-- There is no stack left to compare keys that lie so deep inside one another. -/
    keysTooDeep
  deriving DecidableEq, Repr

namespace Fault

def Kind.name : Kind → String
  | value => "ValueError"
  | key => "KeyError"
  | index => "IndexError"
  | runtime => "RuntimeError"
  | type => "TypeError"
  | member => "AttributeError"
  | zeroDivision => "ZeroDivisionError"
  | overflow => "OverflowError"
  | memory => "MemoryError"
  | recursion => "RecursionError"
  | other name => name

def kind : Fault → Kind
  | reported kind _ | unspeakable kind _ => kind
  | tooManyArguments .. | missingArguments .. | notCallable _ | notACount _
  | notSized _ | unfitKey _ | unsupportedOperands .. => .type
  | noMember .. => .member
  | noArguments | invalidInteger _ | tooManyDigitsToRead _ | tooManyDigitsToWrite
  | precisionTooLarge | tooManyDecimals => .value
  | integerTooLargeForFloat | quotientTooLargeForFloat | lengthTooLarge => .overflow
  | outOfMemory => .memory
  | outOfRange => .index
  | stackUsedUp | keysTooDeep => .recursion

/-- What the words for a fault raise, if there are none. -/
def raised? : Fault → Option Fault
  | unspeakable _ raised => some raised
  | _ => none

/-- The greatest number of digits of a whole number that is read from text or written as text. -/
def digitLimit : Nat := 4300

def excerpt (s : String) : String := String.ofList (s.toList.take 200)

def quotedNames : List String → String
  | [] => ""
  | [name] => "'" ++ name ++ "'"
  | [first, last] => "'" ++ first ++ "' and '" ++ last ++ "'"
  | name :: names => "'" ++ name ++ "', " ++ quotedNames names

/-- A count of arguments that were given, as the subject of a sentence. -/
def givenPhrase (given : Nat) : String :=
  toString given ++ (if given = 1 then " was given" else " were given")

def arguments (n : Nat) : String := if n = 1 then "argument" else "arguments"

/-- The words for a fault, as far as there are any. A missing key is shown in quotes. -/
def message : Fault → String
  | reported .key words => Text.Quoted.encode words
  | reported _ words => words
  | unspeakable .. => ""
  | tooManyArguments helper least most given =>
    let takes :=
      if least = most then toString most ++ " positional " ++ arguments most
      else "from " ++ toString least ++ " to " ++ toString most ++ " positional arguments"
    helper ++ "() takes " ++ takes ++ " but " ++ givenPhrase given
  | missingArguments helper names =>
    helper ++ "() missing " ++ toString names.length ++ " required positional " ++
      arguments names.length ++ ": " ++ quotedNames names
  | noArguments => "not enough values to unpack (expected at least 1, got 0)"
  | noMember type member => "'" ++ type ++ "' object has no attribute '" ++ member ++ "'"
  | notCallable type => "'" ++ type ++ "' object is not callable"
  | notACount type => "'" ++ type ++ "' object cannot be interpreted as an integer"
  | notSized type => "object of type '" ++ type ++ "' has no len()"
  | unfitKey type => "unhashable type: '" ++ type ++ "'"
  | unsupportedOperands operator left right =>
    "unsupported operand type(s) for " ++ operator ++ ": '" ++ left ++ "' and '" ++ right ++ "'"
  | invalidInteger text =>
    "invalid literal for int() with base 10: " ++ excerpt (Text.Quoted.encode text)
  | tooManyDigitsToRead digits =>
    "Exceeds the limit (" ++ toString digitLimit ++
      " digits) for integer string conversion: value has " ++ toString digits ++
      " digits; use sys.set_int_max_str_digits() to increase the limit"
  | tooManyDigitsToWrite =>
    "Exceeds the limit (" ++ toString digitLimit ++
      " digits) for integer string conversion; use sys.set_int_max_str_digits() to increase " ++
      "the limit"
  | integerTooLargeForFloat => "int too large to convert to float"
  | quotientTooLargeForFloat => "integer division result too large for a float"
  | outOfMemory => ""
  | lengthTooLarge => "cannot fit 'int' into an index-sized integer"
  | precisionTooLarge => "precision too big"
  | tooManyDecimals => "Too many decimal digits in format string"
  | outOfRange => "tuple index out of range"
  | stackUsedUp => "maximum recursion depth exceeded"
  | keysTooDeep => "maximum recursion depth exceeded in comparison"

end Fault

end Stencil
