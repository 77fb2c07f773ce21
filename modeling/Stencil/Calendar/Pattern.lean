import Stencil.Calendar.Date

/-!
Patterns for moments. Runs of certain letters stand for a part of the moment, a doubled letter for
two digits at least; every other character stands for itself.
-/

namespace Stencil.Calendar.Pattern

/-- A part of a moment that a pattern can show. -/
inductive Part where
  | year | century | month | day | hour | minute | second
  deriving DecidableEq, Repr

/-- A piece of a pattern: a character that stands for itself, or a part of the moment. -/
inductive Piece where
  | character (c : Char)
  | part (part : Part) (width : Nat)
  deriving DecidableEq, Repr

/-- The pieces of a pattern. A longer run of letters is taken before a shorter one. -/
def pieces : List Char → List Piece
  | 'Y' :: 'Y' :: 'Y' :: 'Y' :: cs => .part .year 1 :: pieces cs
  | 'Y' :: 'Y' :: cs => .part .century 1 :: pieces cs
  | 'M' :: 'M' :: cs => .part .month 2 :: pieces cs
  | 'M' :: cs => .part .month 1 :: pieces cs
  | 'D' :: 'D' :: cs => .part .day 2 :: pieces cs
  | 'D' :: cs => .part .day 1 :: pieces cs
  | 'H' :: 'H' :: cs => .part .hour 2 :: pieces cs
  | 'H' :: cs => .part .hour 1 :: pieces cs
  | 'm' :: 'm' :: cs => .part .minute 2 :: pieces cs
  | 'm' :: cs => .part .minute 1 :: pieces cs
  | 's' :: 's' :: cs => .part .second 2 :: pieces cs
  | 's' :: cs => .part .second 1 :: pieces cs
  | c :: cs => .character c :: pieces cs
  | [] => []

/-- The text of a part of a moment. The year in its century is its two last digits. -/
def Part.text (date : Date) (clock : Clock) (width : Nat) : Part → String
  | year => Text.padded width date.year
  | century =>
    let digits := (toString date.year).toList
    String.ofList (digits.drop (digits.length - 2))
  | month => Text.padded width date.month
  | day => Text.padded width date.day
  | hour => Text.padded width clock.hour
  | minute => Text.padded width clock.minute
  | second => Text.padded width clock.second

def Piece.text (date : Date) (clock : Clock) : Piece → String
  | .character c => String.singleton c
  | .part shown width => shown.text date clock width

def format (pattern : String) (date : Date) (clock : Clock) : String :=
  String.join ((pieces pattern.toList).map (Piece.text date clock))

/-- The pattern for a day that is used where no other is given. -/
def standard : String := "YYYY-MM-DD"

end Stencil.Calendar.Pattern
