import Mathlib.Data.List.TakeWhile
import Stencil.Proofs.JsonGrammar

/-!
A JSON text is read in one way only. What is spelled at the front of some characters is known as
soon as what may follow it is: the first character tells the kind of a value, a number goes on as
long as it can, a string ends at its quote, and a row at its bracket.
-/

namespace Stencil.Json

variable {p : Char → Bool} {a b x y cs ds rest tail : List Char}

/-- What follows does not begin with such a character. -/
def Stops (p : Char → Bool) (rest : List Char) : Prop := ∀ c ∈ rest.head?, p c = false

theorem stops_nil (p : Char → Bool) : Stops p [] := nofun

theorem stops_cons {c : Char} (h : p c = false) (cs : List Char) : Stops p (c :: cs) := by
  rintro d ⟨⟩
  exact h

theorem takeWhile_of_stops (ha : ∀ c ∈ a, p c = true) (hx : Stops p x) :
    (a ++ x).takeWhile p = a := by
  rw [List.takeWhile_append_of_pos ha]
  cases x with
  | nil => simp
  | cons c x => simp [hx c rfl]

/-- A run of characters is as long as it can be. -/
theorem run_unique (ha : ∀ c ∈ a, p c = true) (hb : ∀ c ∈ b, p c = true) (hx : Stops p x)
    (hy : Stops p y) (hSame : a ++ x = b ++ y) : a = b ∧ x = y := by
  have hRun := congrArg (List.takeWhile p) hSame
  rw [takeWhile_of_stops ha hx, takeWhile_of_stops hb hy] at hRun
  exact ⟨hRun, List.append_cancel_left (hRun ▸ hSame)⟩

/-! ### Numbers -/

def isSign (c : Char) : Bool := c == '-' || c == '+'

def isPoint (c : Char) : Bool := c == '.'

/-- A character that numbers consist of. -/
def isNumeral (c : Char) : Bool :=
  (c.isDigit || isSign c) || (isPoint c || (c == 'e' || c == 'E'))

theorem Stops.mono {q : Char → Bool} (h : Stops q x) (hAll : ∀ c, p c = true → q c = true) :
    Stops p x := by
  intro c hHead
  rw [Bool.eq_false_iff]
  intro hYes
  exact Bool.eq_false_iff.1 (h c hHead) (hAll c hYes)

theorem Digits.unique (ha : Digits a) (hb : Digits b) (hx : Stops Char.isDigit x)
    (hy : Stops Char.isDigit y) (hSame : a ++ x = b ++ y) : a = b ∧ x = y :=
  run_unique ha.isDigit hb.isDigit hx hy hSame

theorem Digits.stops (h : Digits a) (hp : ∀ c, c.isDigit = true → p c = false) (x : List Char) :
    Stops p (a ++ x) := by
  obtain ⟨c, cs, rfl⟩ := List.exists_cons_of_ne_nil h.ne_nil
  exact stops_cons (hp c (h.isDigit c List.mem_cons_self)) _

theorem Fraction.stops (h : Fraction ds a) (hPoint : p '.' = false) (hx : Stops p x) :
    Stops p (a ++ x) := by
  cases h with
  | none => exact hx
  | point h => exact stops_cons hPoint _

theorem Exponent.stops {exponent : Int} (h : Exponent exponent a)
    (hMarks : ['e', 'E'].all (fun c => !p c) = true) (hx : Stops p x) : Stops p (a ++ x) := by
  cases h with
  | none => exact hx
  | marked hMark hSign h =>
    have hNot := List.all_eq_true.1 hMarks _ hMark
    exact stops_cons (by simpa using hNot) _

theorem Fraction.unique {fraction other : List Char} (h : Fraction fraction a)
    (h' : Fraction other b) (hPoint : Stops isPoint x) (hDigit : Stops Char.isDigit x)
    (hPoint' : Stops isPoint y) (hDigit' : Stops Char.isDigit y) (hSame : a ++ x = b ++ y) :
    fraction = other ∧ a = b ∧ x = y := by
  cases h with
  | none =>
    cases h' with
    | none => exact ⟨rfl, rfl, hSame⟩
    | point h' =>
      rw [List.nil_append] at hSame
      rw [hSame] at hPoint
      exact absurd (hPoint '.' rfl) (by decide)
  | point h =>
    cases h' with
    | none =>
      rw [List.nil_append] at hSame
      rw [← hSame] at hPoint'
      have hStop := hPoint' '.' rfl
      exact absurd hStop (by decide)
    | point h' =>
      obtain ⟨hRun, hRest⟩ := h.unique h' hDigit hDigit' (List.cons.inj hSame).2
      exact ⟨hRun, congrArg _ hRun, hRest⟩

/-- A sign before digits. -/
theorem sign_unique {sign other : List Char} (hSign : ∀ c ∈ sign, isSign c = true)
    (hOther : ∀ c ∈ other, isSign c = true) (ha : Digits a) (hb : Digits b)
    (hSame : sign ++ (a ++ x) = other ++ (b ++ y)) : sign = other ∧ a ++ x = b ++ y := by
  have hDigit (c : Char) (h : c.isDigit = true) : isSign c = false := by
    rw [Bool.eq_false_iff]
    intro hSign
    rcases Bool.or_eq_true_iff.1 hSign with hMark | hMark
    · rw [beq_iff_eq.1 hMark] at h
      exact absurd h (by decide)
    · rw [beq_iff_eq.1 hMark] at h
      exact absurd h (by decide)
  exact run_unique hSign hOther (ha.stops hDigit x) (hb.stops hDigit y) hSame

theorem isNumeral_of_isDigit (c : Char) (h : c.isDigit = true) : isNumeral c = true := by
  rw [isNumeral, h]
  rfl

theorem Exponent.unique {exponent other : Int} (h : Exponent exponent a) (h' : Exponent other b)
    (hx : Stops isNumeral x) (hy : Stops isNumeral y) (hSame : a ++ x = b ++ y) :
    exponent = other ∧ a = b ∧ x = y := by
  have hMarks : ['e', 'E'].all isNumeral = true := by decide
  have hSigns : [[], ['+'], ['-']].all (·.all isSign) = true := by decide
  have hRun {sign : List Char} (h : sign ∈ [[], ['+'], ['-']]) : ∀ c ∈ sign, isSign c = true :=
    List.all_eq_true.1 (List.all_eq_true.1 hSigns sign h)
  cases h with
  | none =>
    cases h' with
    | none => exact ⟨rfl, rfl, hSame⟩
    | @marked mark sign digits hMark hSign h' =>
      have hStop := hx mark (by rw [show x = _ from hSame]; rfl)
      rw [List.all_eq_true.1 hMarks mark hMark] at hStop
      cases hStop
  | @marked mark sign digits hMark hSign h =>
    cases h' with
    | none =>
      have hStop := hy mark (by rw [show y = _ from hSame.symm]; rfl)
      rw [List.all_eq_true.1 hMarks mark hMark] at hStop
      cases hStop
    | @marked mark' sign' digits' hMark' hSign' h' =>
      obtain ⟨rfl, hTail⟩ := List.cons.inj hSame
      have hBehind : sign ++ (digits ++ x) = sign' ++ (digits' ++ y) := by
        simpa using hTail
      obtain ⟨rfl, hDigits⟩ := sign_unique (hRun hSign) (hRun hSign') h h' hBehind
      obtain ⟨rfl, rfl⟩ := h.unique h' (hx.mono isNumeral_of_isDigit)
        (hy.mono isNumeral_of_isDigit) hDigits
      exact ⟨rfl, rfl, rfl⟩

/-- The parts that a number consists of. -/
theorem IsNumber.exists_parts {x : Number} (h : IsNumber x cs) :
    ∃ negative digits fraction behind mark exponent, Whole digits ∧ Fraction fraction behind ∧
      Exponent exponent mark ∧
      cs = (Binary64.signText negative).toList ++ (digits ++ (behind ++ mark)) ∧
      x = if behind ++ mark = [] then
          .int (Binary64.signed negative (Nat.ofDigitChars 10 digits 0))
        else .float (.ofDecimal negative (Nat.ofDigitChars 10 (digits ++ fraction) 0)
          (exponent - fraction.length)) := by
  cases h with
  | whole negative h => exact ⟨negative, _, [], [], [], 0, h, .none, .none, by simp, by simp⟩
  | decimal negative h hFraction hExponent hSome =>
    exact ⟨negative, _, _, _, _, _, h, hFraction, hExponent, rfl, by rw [if_neg hSome]⟩

/-- A number goes on as long as it can. -/
theorem IsNumber.unique {x y : Number} (h : IsNumber x a) (h' : IsNumber y b)
    (hRest : Stops isNumeral rest) (hTail : Stops isNumeral tail)
    (hSame : a ++ rest = b ++ tail) : x = y ∧ a = b := by
  obtain ⟨negative, digits, fraction, behind, mark, exponent, hWhole, hFraction, hExponent, rfl,
    hx⟩ := h.exists_parts
  obtain ⟨negative', digits', fraction', behind', mark', exponent', hWhole', hFraction', hExponent',
    rfl, hy⟩ := h'.exists_parts
  have hSign (negative : Bool) : ∀ c ∈ (Binary64.signText negative).toList, isSign c = true := by
    cases negative <;> simp [Binary64.signText, isSign]
  have hPoint (c : Char) (h : isPoint c = true) : isNumeral c = true := by simp [isNumeral, h]
  have hStops {mark rest : List Char} {exponent : Int} (hExponent : Exponent exponent mark)
      (hRest : Stops isNumeral rest) :
      Stops isPoint (mark ++ rest) ∧ Stops Char.isDigit (mark ++ rest) :=
    ⟨hExponent.stops (by decide) (hRest.mono hPoint),
      hExponent.stops (by decide) (hRest.mono isNumeral_of_isDigit)⟩
  obtain ⟨hStop, hDigit⟩ := hStops hExponent hRest
  obtain ⟨hStop', hDigit'⟩ := hStops hExponent' hTail
  simp only [List.append_assoc] at hSame
  obtain ⟨hSigns, hUnsigned⟩ := sign_unique (hSign negative) (hSign negative') hWhole.toDigits
    hWhole'.toDigits hSame
  obtain ⟨rfl, hBehind⟩ := hWhole.toDigits.unique hWhole'.toDigits
    (hFraction.stops (by decide) hDigit) (hFraction'.stops (by decide) hDigit') hUnsigned
  obtain ⟨rfl, rfl, hMark⟩ := hFraction.unique hFraction' hStop hDigit hStop' hDigit' hBehind
  obtain ⟨rfl, rfl, -⟩ := hExponent.unique hExponent' hRest hTail hMark
  have hNegative : negative = negative' := by
    cases negative <;> cases negative' <;> first | rfl | cases hSigns
  subst hNegative
  exact ⟨hx.trans hy.symm, rfl⟩

/-! ### Strings -/

theorem unit_unique {m n : Nat} (h : unit? a = some m) (h' : unit? b = some n)
    (hSame : a ++ x = b ++ y) : m = n ∧ a = b ∧ x = y := by
  have hLength {ds : List Char} {n : Nat} (h : unit? ds = some n) : ds.length = 4 := by
    unfold unit? at h
    split at h
    · rename_i hDigits
      exact hDigits.1
    · cases h
  obtain ⟨rfl, hRest⟩ := List.append_inj hSame ((hLength h).trans (hLength h').symm)
  rw [h] at h'
  exact ⟨Option.some.inj h', rfl, hRest⟩

/-- No character is the first unit of a pair. -/
theorem toNat_ne_high (c : Char) {high : Nat} (h : high < 0x400) : c.toNat ≠ 0xD800 + high := by
  intro hSame
  rcases c.valid with hBelow | hAbove
  · have hLess : c.toNat < 0xD800 := hBelow
    omega
  · have hMore : 0xDFFF < c.toNat := hAbove.1
    omega

/-- What follows a backslash tells the character that is escaped. -/
theorem IsChar.unique {c d : Char} (h : IsChar c a) (h' : IsChar d b) (hSame : a ++ x = b ++ y) :
    c = d ∧ a = b ∧ x = y := by
  cases h with
  | plain hControl hQuote hSlash =>
    cases h' with
    | plain hControl' hQuote' hSlash' =>
      obtain ⟨rfl, hRest⟩ := List.cons.inj hSame
      exact ⟨rfl, rfl, hRest⟩
    | _ => exact absurd (List.cons.inj hSame).1 hSlash
  | @short letter c h =>
    cases h' with
    | plain hControl' hQuote' hSlash' => exact absurd (List.cons.inj hSame).1.symm hSlash'
    | short h' =>
      obtain ⟨rfl, hRest⟩ := List.cons.inj (List.cons.inj hSame).2
      rw [h] at h'
      exact ⟨Option.some.inj h', rfl, hRest⟩
    | _ =>
      rw [(List.cons.inj (List.cons.inj hSame).2).1] at h
      cases h
  | @unit c digits h =>
    cases h' with
    | plain hControl' hQuote' hSlash' => exact absurd (List.cons.inj hSame).1.symm hSlash'
    | short h' =>
      rw [← (List.cons.inj (List.cons.inj hSame).2).1] at h'
      cases h'
    | unit h' =>
      obtain ⟨hCode, rfl, hRest⟩ := unit_unique h h' (List.cons.inj (List.cons.inj hSame).2).2
      exact ⟨Char.toNat_inj.1 hCode, rfl, hRest⟩
    | @pair d first second high low hFirst hHigh hSecond hLow h' =>
      have hUnits := (List.cons.inj (List.cons.inj hSame).2).2
      rw [List.append_eq, List.append_eq, List.append_assoc] at hUnits
      exact absurd (unit_unique h hFirst hUnits).1 (toNat_ne_high c hHigh)
  | pair hFirst hHigh hSecond hLow h =>
    cases h' with
    | plain hControl' hQuote' hSlash' => exact absurd (List.cons.inj hSame).1.symm hSlash'
    | short h' =>
      rw [← (List.cons.inj (List.cons.inj hSame).2).1] at h'
      cases h'
    | unit h' =>
      have hUnits := (List.cons.inj (List.cons.inj hSame).2).2
      rw [List.append_eq, List.append_eq, List.append_assoc] at hUnits
      exact absurd (unit_unique hFirst h' hUnits).1.symm (toNat_ne_high d hHigh)
    | @pair d first' second' high' low' hFirst' hHigh' hSecond' hLow' h' =>
      have hUnits := (List.cons.inj (List.cons.inj hSame).2).2
      rw [List.append_eq, List.append_eq, List.append_assoc, List.append_assoc] at hUnits
      obtain ⟨hHighs, rfl, hBehind⟩ := unit_unique hFirst hFirst' hUnits
      obtain ⟨hLows, rfl, hRest⟩ := unit_unique hSecond hSecond'
        (List.cons.inj (List.cons.inj hBehind).2).2
      exact ⟨Char.toNat_inj.1 (by omega), rfl, hRest⟩

theorem IsChar.stops {c : Char} (h : IsChar c a) (x : List Char) : Stops (· == '"') (a ++ x) := by
  cases h with
  | plain hControl hQuote hSlash => exact stops_cons (by simpa using hQuote) _
  | _ => exact stops_cons rfl _

/-- A string ends at the first quote that is not escaped. -/
theorem Chars.unique {s t : List Char} (h : Chars s a) (h' : Chars t b)
    (hSame : a ++ '"' :: x = b ++ '"' :: y) : s = t ∧ a = b ∧ x = y := by
  induction h generalizing t b with
  | nil =>
    cases h' with
    | nil => exact ⟨rfl, rfl, (List.cons.inj hSame).2⟩
    | @cons d t spelling later hChar hLater =>
      have hStops := hChar.stops (later ++ '"' :: y)
      rw [← List.append_assoc, ← hSame] at hStops
      exact absurd (hStops '"' rfl) (by decide)
  | @cons c s spelling later hChar hLater ih =>
    cases h' with
    | nil =>
      have hStops := hChar.stops (later ++ '"' :: x)
      rw [← List.append_assoc, hSame] at hStops
      exact absurd (hStops '"' rfl) (by decide)
    | cons hChar' hLater' =>
      rw [List.append_assoc, List.append_assoc] at hSame
      obtain ⟨rfl, rfl, hRest⟩ := hChar.unique hChar' hSame
      obtain ⟨rfl, rfl, hEnd⟩ := ih hLater' hRest
      exact ⟨rfl, rfl, hEnd⟩

theorem IsString.unique {s t : String} (h : IsString s a) (h' : IsString t b)
    (hSame : a ++ x = b ++ y) : s = t ∧ a = b ∧ x = y := by
  obtain ⟨inside, hInside, rfl⟩ := h
  obtain ⟨inside', hInside', rfl⟩ := h'
  have hBehind := (List.cons.inj hSame).2
  rw [List.append_eq, List.append_eq, List.append_assoc, List.append_assoc] at hBehind
  obtain ⟨hText, rfl, hRest⟩ := hInside.unique hInside' hBehind
  exact ⟨String.toList_inj.1 hText, rfl, hRest⟩

/-! ### Values -/

/-- The kinds of values that the first character tells. -/
inductive Kind where
  | null | yes | no | number | text | array | object

def Data.kind : Data → Kind
  | null => .null
  | bool b => if b then .yes else .no
  | number _ => .number
  | text _ => .text
  | array _ => .array
  | object _ => .object

/-- The kind of value that a character begins. -/
def kindFrom (c : Char) : Kind :=
  if c = 'n' then .null
  else if c = 't' then .yes
  else if c = 'f' then .no
  else if c = '"' then .text
  else if c = '[' then .array
  else if c = '\x7b' then .object
  else .number

/-- A mark that closes a row. -/
def isClosing (c : Char) : Bool := c == ']' || c == '\x7d'

/-- A mark behind an item of a row. -/
def isMark (c : Char) : Bool := c == ',' || isClosing c

/-- A character that may follow a value. -/
def isBoundary (c : Char) : Bool := isSpace c || isMark c

variable {part other : Part} {data : Data}

theorem IsNumber.exists_first {number : Number} (h : IsNumber number a) :
    ∃ c tail, a = c :: tail ∧ (c.isDigit = true ∨ c = '-') := by
  obtain ⟨negative, digits, fraction, behind, mark, exponent, hWhole, -, -, rfl, -⟩ :=
    h.exists_parts
  cases negative with
  | true => exact ⟨'-', _, rfl, .inr rfl⟩
  | false =>
    obtain ⟨c, tail, rfl⟩ := List.exists_cons_of_ne_nil hWhole.ne_nil
    exact ⟨c, _, rfl, .inl (hWhole.isDigit c List.mem_cons_self)⟩

/-- What begins a number begins nothing else. -/
theorem number_first {c : Char} (h : c.isDigit = true ∨ c = '-') :
    kindFrom c = .number ∧ isBoundary c = false := by
  rcases h with hDigit | rfl
  · have hOther (d : Char) (hd : d.isDigit = false) : c ≠ d := by
      rintro rfl
      rw [hDigit] at hd
      cases hd
    constructor
    · simp [kindFrom, hOther 'n' rfl, hOther 't' rfl, hOther 'f' rfl, hOther '"' rfl,
        hOther '[' rfl, hOther '\x7b' rfl]
    · simp [isBoundary, isSpace, isMark, isClosing, hOther ' ' rfl, hOther '\t' rfl,
        hOther '\n' rfl, hOther '\r' rfl, hOther ',' rfl, hOther ']' rfl, hOther '\x7d' rfl]
  · exact ⟨rfl, rfl⟩

/-- The first character of a value tells its kind, and it may not follow a value. -/
theorem Spells.exists_first (h : Spells IsNumber (.value data) a) :
    ∃ c tail, a = c :: tail ∧ kindFrom c = data.kind ∧ isBoundary c = false := by
  cases h with
  | number h =>
    obtain ⟨c, tail, rfl, hFirst⟩ := h.exists_first
    exact ⟨c, tail, rfl, number_first hFirst⟩
  | text h =>
    obtain ⟨inside, -, rfl⟩ := h
    exact ⟨_, _, rfl, rfl, rfl⟩
  | _ => exact ⟨_, _, rfl, rfl, rfl⟩

/-- Values that begin with the same character are of the same kind. -/
theorem Spells.kind_eq {data' : Data} (h : Spells IsNumber (.value data) a)
    (h' : Spells IsNumber (.value data') b) (hSame : a ++ x = b ++ y) : data.kind = data'.kind := by
  obtain ⟨c, tail, rfl, hKind, -⟩ := h.exists_first
  obtain ⟨c', tail', rfl, hKind', -⟩ := h'.exists_first
  rw [← hKind, ← hKind', (List.cons.inj hSame).1]

/-- What the items of a row are. -/
inductive Role where
  | value | member

inductive HasRole : Role → Part → Prop
  | value (data : Data) : HasRole .value (.value data)
  | member (key : String) (data : Data) : HasRole .member (.member key data)

/-- Parts that are told apart: two values, two members, or two rows of either. -/
inductive Comparable : Part → Part → Prop
  | item {role : Role} {part other : Part} (h : HasRole role part) (h' : HasRole role other) :
      Comparable part other
  | row {role : Role} {parts others : List Part} (h : ∀ part ∈ parts, HasRole role part)
      (h' : ∀ other ∈ others, HasRole role other) : Comparable (.row parts) (.row others)

variable {role : Role}

/-- Of such a character there is one at the front. -/
def Begins (p : Char → Bool) (rest : List Char) : Prop := ∃ c tail, rest = c :: tail ∧ p c = true

/-- What may follow a part: a row is closed, and a value ends at a boundary. -/
def Follows : Part → List Char → Prop
  | .row _, rest => Begins isClosing rest
  | _, rest => rest = [] ∨ Begins isBoundary rest

theorem Begins.mono {q : Char → Bool} (h : Begins p x) (hAll : ∀ c, p c = true → q c = true) :
    Begins q x := by
  obtain ⟨c, tail, rfl, hHead⟩ := h
  exact ⟨c, tail, rfl, hAll c hHead⟩

theorem Begins.not_stops (h : Begins p x) : ¬Stops p x := by
  obtain ⟨c, tail, rfl, hHead⟩ := h
  intro hStops
  exact Bool.eq_false_iff.1 (hStops c rfl) hHead

theorem isMark_of_isClosing (c : Char) (h : isClosing c = true) : isMark c = true := by
  rw [isMark, h, Bool.or_true]

theorem isBoundary_of_isSpace (c : Char) (h : isSpace c = true) : isBoundary c = true := by
  rw [isBoundary, h, Bool.true_or]

theorem isBoundary_of_isMark (c : Char) (h : isMark c = true) : isBoundary c = true := by
  rw [isBoundary, h, Bool.or_true]

theorem isSpace_of_isMark (c : Char) (h : isMark c = true) : isSpace c = false := by
  simp only [isMark, isClosing, Bool.or_eq_true, beq_iff_eq] at h
  rcases h with rfl | rfl | rfl <;> rfl

theorem isNumeral_of_isBoundary (c : Char) (h : isBoundary c = true) : isNumeral c = false := by
  simp only [isBoundary, isSpace, isMark, isClosing, Bool.or_eq_true, beq_iff_eq] at h
  rcases h with (((rfl | rfl) | rfl) | rfl) | rfl | rfl | rfl <;> rfl

theorem Begins.stops {q : Char → Bool} (h : Begins p x) (hNone : ∀ c, p c = true → q c = false) :
    Stops q x := by
  obtain ⟨c, tail, rfl, hHead⟩ := h
  exact stops_cons (hNone c hHead) tail

theorem Follows.stops (h : Follows (.value data) x) : Stops isNumeral x := by
  rcases h with rfl | hBoundary
  · exact stops_nil _
  · exact hBoundary.stops isNumeral_of_isBoundary

/-- Blanks may stand between a value and a mark. -/
theorem Blanks.begins (h : Blanks a) (hx : Begins isMark x) : Begins isBoundary (a ++ x) := by
  cases a with
  | nil => exact hx.mono isBoundary_of_isMark
  | cons c a => exact ⟨c, a ++ x, rfl, isBoundary_of_isSpace c (h c List.mem_cons_self)⟩

/-- A value or a member begins with a character that may not follow one. -/
theorem Spells.stops (h : Spells IsNumber part a) (hRole : HasRole role part) (x : List Char) :
    Stops isBoundary (a ++ x) := by
  cases hRole with
  | value =>
    obtain ⟨c, tail, rfl, -, hFirst⟩ := h.exists_first
    exact stops_cons hFirst _
  | member =>
    cases h with
    | member hKey hBefore hBehind h =>
      obtain ⟨inside, -, rfl⟩ := hKey
      exact stops_cons rfl _

theorem Blanks.unique (ha : Blanks a) (hb : Blanks b) (hx : Stops isSpace x)
    (hy : Stops isSpace y) (hSame : a ++ x = b ++ y) : a = b ∧ x = y :=
  run_unique ha hb hx hy hSame

/-- The blanks before two items are told from them. -/
theorem Blanks.unique_before {ds : List Char} {role' : Role} (ha : Blanks a) (hb : Blanks b)
    (h : Spells IsNumber part cs) (hRole : HasRole role part) (h' : Spells IsNumber other ds)
    (hRole' : HasRole role' other) (hSame : a ++ (cs ++ x) = b ++ (ds ++ y)) :
    a = b ∧ cs ++ x = ds ++ y :=
  ha.unique hb ((h.stops hRole x).mono isBoundary_of_isSpace)
    ((h'.stops hRole' y).mono isBoundary_of_isSpace) hSame

/-- What is spelled here is told from whatever else may be spelled in its place. -/
def Definite (part : Part) (a : List Char) : Prop :=
  ∀ ⦃other : Part⦄ ⦃b x y : List Char⦄, Spells IsNumber other b → Comparable part other →
    Follows part x → Follows other y → a ++ x = b ++ y → part = other ∧ a = b ∧ x = y

theorem HasRole.follows (h : HasRole role part) (hx : Begins isBoundary x) : Follows part x := by
  cases h <;> exact .inr hx

/-- An item of a row is told from another, with the blanks on either side. -/
theorem Definite.item {before behind before' behind' : List Char} (h : Definite part a)
    (hPart : Spells IsNumber part a) (hRole : HasRole role part) (hOther : Spells IsNumber other b)
    (hRole' : HasRole role other) (hBefore : Blanks before) (hBehind : Blanks behind)
    (hBefore' : Blanks before') (hBehind' : Blanks behind') (hx : Begins isMark x)
    (hy : Begins isMark y)
    (hSame : before ++ (a ++ (behind ++ x)) = before' ++ (b ++ (behind' ++ y))) :
    part = other ∧ before = before' ∧ a = b ∧ behind = behind' ∧ x = y := by
  obtain ⟨rfl, hItem⟩ := hBefore.unique_before hBefore' hPart hRole hOther hRole' hSame
  obtain ⟨rfl, rfl, hRest⟩ := h hOther (.item hRole hRole') (hRole.follows (hBehind.begins hx))
    (hRole'.follows (hBehind'.begins hy)) hItem
  obtain ⟨rfl, rfl⟩ := hBehind.unique hBehind' (hx.stops isSpace_of_isMark)
    (hy.stops isSpace_of_isMark) hRest
  exact ⟨rfl, rfl, rfl, rfl, rfl⟩

/-- A row without items is told from one that has some. -/
theorem blanks_ne_item (ha : Blanks a) (hx : Begins isClosing x) (hb : Blanks b)
    (h : Spells IsNumber part cs) (hRole : HasRole role part) : a ++ x ≠ b ++ (cs ++ y) := by
  intro hSame
  have hMark := hx.mono isMark_of_isClosing
  have hStops := h.stops hRole y
  obtain ⟨-, rfl⟩ := ha.unique hb (hMark.stops isSpace_of_isMark)
    (hStops.mono isBoundary_of_isSpace) hSame
  exact (hMark.mono isBoundary_of_isMark).not_stops hStops

/-- A comma closes no row. -/
theorem comma_not_closing : ¬Begins isClosing (',' :: x) := by
  rintro ⟨c, tail, hSame, hClosing⟩
  rw [← (List.cons.inj hSame).1] at hClosing
  exact absurd hClosing (by decide)

theorem comma_begins (x : List Char) : Begins isMark (',' :: x) := ⟨',', x, rfl, rfl⟩

theorem comparable_values (items others : List Data) :
    Comparable (.row (items.map .value)) (.row (others.map .value)) := by
  have hRole (items : List Data) : ∀ part ∈ items.map Part.value, HasRole .value part := by
    intro part hMem
    obtain ⟨data, -, rfl⟩ := List.mem_map.1 hMem
    exact .value data
  exact .row (hRole items) (hRole others)

theorem comparable_members (members others : List (String × Data)) :
    Comparable (.row (Part.members members)) (.row (Part.members others)) := by
  have hRole (members : List (String × Data)) :
      ∀ part ∈ Part.members members, HasRole .member part := by
    intro part hMem
    obtain ⟨⟨key, data⟩, -, rfl⟩ := List.mem_map.1 hMem
    exact .member key data
  exact .row (hRole members) (hRole others)

/-- What stands between the brackets of an array or an object is told from what else may stand
there. -/
theorem Definite.inside {parts others : List Part} {opening closing : Char}
    (h : Definite (.row parts) a) (hOther : Spells IsNumber (.row others) b)
    (hRows : Comparable (.row parts) (.row others)) (hClosing : isClosing closing = true)
    (hSame : opening :: (a ++ [closing]) ++ x = opening :: (b ++ [closing]) ++ y) :
    parts = others ∧ a = b ∧ x = y := by
  have hInside : a ++ closing :: x = b ++ closing :: y := by simpa using hSame
  obtain ⟨hRow, rfl, hRest⟩ := h hOther hRows ⟨closing, x, rfl, hClosing⟩
    ⟨closing, y, rfl, hClosing⟩ hInside
  exact ⟨Part.row.inj hRow, rfl, (List.cons.inj hRest).2⟩

/-- A value need only be told from the values of its kind. -/
theorem Spells.definite_value (h : Spells IsNumber (.value data) a)
    (hKind : ∀ {data' : Data} {b x y : List Char}, Spells IsNumber (.value data') b →
      data.kind = data'.kind → Stops isNumeral x → Stops isNumeral y → a ++ x = b ++ y →
      data = data' ∧ a = b ∧ x = y) : Definite (.value data) a := by
  intro other b x y h' hComparable hx hy hSame
  cases hComparable with
  | item hRole hRole' =>
    cases hRole with
    | value data =>
      cases hRole' with
      | value data' =>
        obtain ⟨hData, hSpelling, hRest⟩ := hKind h' (h.kind_eq h' hSame) hx.stops hy.stops hSame
        exact ⟨congrArg _ hData, hSpelling, hRest⟩

/-- A row need only be told from the rows whose items have the same role. -/
theorem definite_row {parts : List Part}
    (hRow : ∀ {role : Role} {others : List Part} {b x y : List Char},
      Spells IsNumber (.row others) b → (∀ part ∈ parts, HasRole role part) →
      (∀ other ∈ others, HasRole role other) → Begins isClosing x → Begins isClosing y →
      a ++ x = b ++ y → parts = others ∧ a = b ∧ x = y) : Definite (.row parts) a := by
  intro other b x y h' hComparable hx hy hSame
  cases hComparable with
  | item hRole hRole' => cases hRole
  | row hParts hOthers =>
    obtain ⟨hItems, hSpelling, hRest⟩ := hRow h' hParts hOthers hx hy hSame
    exact ⟨congrArg _ hItems, hSpelling, hRest⟩

/-- A member is told by its key, and then by its value. -/
theorem Definite.member {key : String} {name before behind : List Char}
    (h : Definite (.value data) a) (hValue : Spells IsNumber (.value data) a)
    (hKey : IsString key name) (hBefore : Blanks before) (hBehind : Blanks behind) :
    Definite (.member key data) (name ++ (before ++ ':' :: (behind ++ a))) := by
  intro other b x y h' hComparable hx hy hSame
  cases hComparable with
  | item hRole hRole' =>
    cases hRole with
    | member =>
      cases hRole' with
      | member key' data' =>
        cases h' with
        | member hKey' hBefore' hBehind' h' =>
          simp only [List.append_assoc, List.cons_append] at hSame
          obtain ⟨rfl, rfl, hColon⟩ := hKey.unique hKey' hSame
          obtain ⟨rfl, hBack⟩ := hBefore.unique hBefore' (stops_cons rfl _) (stops_cons rfl _)
            hColon
          obtain ⟨rfl, hRest⟩ := hBehind.unique_before hBehind' hValue (.value data) h'
            (.value data') (List.cons.inj hBack).2
          obtain ⟨hData, rfl, rfl⟩ := h h' (.item (.value data) (.value data')) hx hy hRest
          cases hData
          exact ⟨rfl, rfl, rfl⟩

/-- Blanks are a row without items. -/
theorem Blanks.definite (h : Blanks a) : Definite (.row []) a := by
  refine definite_row fun h' hParts hOthers hx hy hSame => ?_
  cases h' with
  | empty h' =>
    obtain ⟨rfl, rfl⟩ := h.unique h' ((hx.mono isMark_of_isClosing).stops isSpace_of_isMark)
      ((hy.mono isMark_of_isClosing).stops isSpace_of_isMark) hSame
    exact ⟨rfl, rfl, rfl⟩
  | last hBefore h' hBehind =>
    simp only [List.append_assoc] at hSame
    exact absurd hSame (blanks_ne_item h hx hBefore h' (hOthers _ List.mem_cons_self))
  | more hBefore h' hBehind hLater =>
    simp only [List.append_assoc] at hSame
    exact absurd hSame (blanks_ne_item h hx hBefore h' (hOthers _ List.mem_cons_self))

/-- Behind the last item of a row there is no comma. -/
theorem Definite.last {before behind : List Char} (h : Definite part a)
    (hPart : Spells IsNumber part a) (hBefore : Blanks before) (hBehind : Blanks behind) :
    Definite (.row [part]) (before ++ (a ++ behind)) := by
  refine definite_row fun h' hParts hOthers hx hy hSame => ?_
  have hRole := hParts _ List.mem_cons_self
  cases h' with
  | empty h' =>
    simp only [List.append_assoc] at hSame
    exact absurd hSame.symm (blanks_ne_item h' hy hBefore hPart hRole)
  | last hBefore' h' hBehind' =>
    simp only [List.append_assoc] at hSame
    obtain ⟨rfl, rfl, rfl, rfl, rfl⟩ := h.item hPart hRole h' (hOthers _ List.mem_cons_self)
      hBefore hBehind hBefore' hBehind' (hx.mono isMark_of_isClosing)
      (hy.mono isMark_of_isClosing) hSame
    exact ⟨rfl, rfl, rfl⟩
  | more hBefore' h' hBehind' hLater =>
    simp only [List.append_assoc, List.cons_append] at hSame
    obtain ⟨-, -, -, -, rfl⟩ := h.item hPart hRole h' (hOthers _ List.mem_cons_self) hBefore
      hBehind hBefore' hBehind' (hx.mono isMark_of_isClosing) (comma_begins _) hSame
    exact absurd hx comma_not_closing

/-- Behind the other items of a row there is a comma, and the rest of the row behind that. -/
theorem Definite.more {next : Part} {later : List Part} {before behind : List Char}
    (h : Definite part a) (hPart : Spells IsNumber part a) (hBefore : Blanks before)
    (hBehind : Blanks behind) (hLater : Definite (.row (next :: later)) rest) :
    Definite (.row (part :: next :: later)) (before ++ (a ++ (behind ++ ',' :: rest))) := by
  refine definite_row fun h' hParts hOthers hx hy hSame => ?_
  obtain ⟨hRole, hParts'⟩ := List.forall_mem_cons.1 hParts
  cases h' with
  | empty h' =>
    simp only [List.append_assoc] at hSame
    exact absurd hSame.symm (blanks_ne_item h' hy hBefore hPart hRole)
  | last hBefore' h' hBehind' =>
    simp only [List.append_assoc, List.cons_append] at hSame
    obtain ⟨-, -, -, -, rfl⟩ := h.item hPart hRole h' (hOthers _ List.mem_cons_self) hBefore
      hBehind hBefore' hBehind' (comma_begins _) (hy.mono isMark_of_isClosing) hSame
    exact absurd hy comma_not_closing
  | more hBefore' h' hBehind' hLater' =>
    obtain ⟨hRole', hOthers'⟩ := List.forall_mem_cons.1 hOthers
    simp only [List.append_assoc, List.cons_append] at hSame
    obtain ⟨rfl, rfl, rfl, rfl, hRest⟩ := h.item hPart hRole h' hRole' hBefore hBehind hBefore'
      hBehind' (comma_begins _) (comma_begins _) hSame
    obtain ⟨hRow, rfl, rfl⟩ := hLater hLater' (.row hParts' hOthers') hx hy
      (List.cons.inj hRest).2
    cases hRow
    exact ⟨rfl, rfl, rfl⟩

/-- Whatever is spelled is told from what else may be spelled in its place. -/
theorem Spells.definite (h : Spells IsNumber part a) : Definite part a := by
  induction h with
  | null =>
    refine definite_value .null fun h' hKind _ _ hSame => ?_
    cases h' with
    | null => exact ⟨rfl, rfl, List.append_cancel_left hSame⟩
    | _ => cases hKind
  | yes =>
    refine definite_value .yes fun h' hKind _ _ hSame => ?_
    cases h' with
    | yes => exact ⟨rfl, rfl, List.append_cancel_left hSame⟩
    | _ => cases hKind
  | no =>
    refine definite_value .no fun h' hKind _ _ hSame => ?_
    cases h' with
    | no => exact ⟨rfl, rfl, List.append_cancel_left hSame⟩
    | _ => cases hKind
  | number h =>
    refine definite_value (.number h) fun h' hKind hx hy hSame => ?_
    cases h' with
    | number h' =>
      obtain ⟨rfl, rfl⟩ := h.unique h' hx hy hSame
      exact ⟨rfl, rfl, List.append_cancel_left hSame⟩
    | _ => cases hKind
  | text h =>
    refine definite_value (.text h) fun h' hKind _ _ hSame => ?_
    cases h' with
    | text h' =>
      obtain ⟨rfl, rfl, rfl⟩ := h.unique h' hSame
      exact ⟨rfl, rfl, rfl⟩
    | _ => cases hKind
  | array h ih =>
    refine definite_value (.array h) fun h' hKind _ _ hSame => ?_
    cases h' with
    | array h' =>
      obtain ⟨hItems, rfl, hRest⟩ := ih.inside h' (comparable_values _ _) rfl hSame
      obtain rfl := (List.map_inj_right fun _ _ h => Part.value.inj h).1 hItems
      exact ⟨rfl, rfl, hRest⟩
    | _ => cases hKind
  | object h ih =>
    refine definite_value (.object h) fun h' hKind _ _ hSame => ?_
    cases h' with
    | object h' =>
      obtain ⟨hMembers, rfl, hRest⟩ := ih.inside h' (comparable_members _ _) rfl hSame
      obtain rfl := (List.map_inj_right fun _ _ h => Prod.ext_iff.2 (Part.member.inj h)).1 hMembers
      exact ⟨rfl, rfl, hRest⟩
    | _ => cases hKind
  | member hKey hBefore hBehind h ih => exact ih.member h hKey hBefore hBehind
  | empty h => exact h.definite
  | last hBefore h hBehind ih => exact ih.last h hBefore hBehind
  | more hBefore h hBehind hLater ih ihLater => exact ih.more h hBefore hBehind ihLater

/-- A text denotes one value at most. -/
theorem Denotes.unique {t : String} {data other : Data} (h : Denotes t data)
    (h' : Denotes t other) : data = other := by
  obtain ⟨before, cs, behind, hBefore, hSpells, hBehind, hText⟩ := h
  obtain ⟨before', ds, behind', hBefore', hSpells', hBehind', hText'⟩ := h'
  have hFollows {blanks : List Char} (h : Blanks blanks) :
      blanks = [] ∨ Begins isBoundary blanks := by
    cases blanks with
    | nil => exact .inl rfl
    | cons c tail =>
      exact .inr ⟨c, tail, rfl, isBoundary_of_isSpace c (h c List.mem_cons_self)⟩
  obtain ⟨-, hValue⟩ := hBefore.unique_before hBefore' hSpells (.value data) hSpells' (.value other)
    (hText.symm.trans hText')
  obtain ⟨hData, -, -⟩ := hSpells.definite hSpells' (.item (.value data) (.value other))
    (hFollows hBehind) (hFollows hBehind') hValue
  exact Part.value.inj hData

end Stencil.Json
