import Stencil.Number.Decimal
import Stencil.Number.Numeral
import Stencil.Text.Hex
import Stencil.Proofs.Words

/-!
The grammar of JSON, as RFC 8259 has it: which characters spell which data. Outside of strings only
digits, signs, brackets, blanks and the letters of three names can stand, so whatever else is found
there is no JSON.
-/

namespace Stencil.Json

/-- What a JSON text denotes. The members of an object keep their order. -/
inductive Data where
  | null
  | bool (b : Bool)
  | number (x : Number)
  | text (s : String)
  | array (items : List Data)
  | object (members : List (String × Data))

/-- A blank, which may stand before and behind every value and every mark. -/
def isSpace (c : Char) : Bool := c == ' ' || c == '\t' || c == '\n' || c == '\r'

def Blanks (cs : List Char) : Prop := ∀ c ∈ cs, isSpace c = true

theorem Blanks.nil : Blanks [] := nofun

/-! ### Numbers -/

/-- One digit or more. -/
structure Digits (cs : List Char) : Prop where
  ne_nil : cs ≠ []
  isDigit : ∀ c ∈ cs, c.isDigit = true

/-- The digits of a whole number. No zero stands before another digit. -/
structure Whole (cs : List Char) : Prop extends Digits cs where
  eq_zero : cs.head? = some '0' → cs = ['0']

/-- A point with the digits behind it, or nothing. -/
inductive Fraction : List Char → List Char → Prop
  | none : Fraction [] []
  | point {digits : List Char} (h : Digits digits) : Fraction digits ('.' :: digits)

/-- An exponent behind its mark, or nothing. -/
inductive Exponent : Int → List Char → Prop
  | none : Exponent 0 []
  | marked {mark : Char} {sign digits : List Char} (hMark : mark ∈ ['e', 'E'])
      (hSign : sign ∈ [[], ['+'], ['-']]) (h : Digits digits) :
      Exponent (Binary64.signed (sign = ['-']) (Nat.ofDigitChars 10 digits 0))
        (mark :: (sign ++ digits))

/-- A number without fraction and exponent is whole; any other is the floating point number that its
decimal is read as. -/
inductive IsNumber : Number → List Char → Prop
  | whole (negative : Bool) {digits : List Char} (h : Whole digits) :
      IsNumber (.int (Binary64.signed negative (Nat.ofDigitChars 10 digits 0)))
        ((Binary64.signText negative).toList ++ digits)
  | decimal (negative : Bool) {digits fraction behind mark : List Char} {exponent : Int}
      (h : Whole digits) (hFraction : Fraction fraction behind) (hExponent : Exponent exponent mark)
      (hSome : behind ++ mark ≠ []) :
      IsNumber
        (.float (.ofDecimal negative (Nat.ofDigitChars 10 (digits ++ fraction) 0)
          (exponent - fraction.length)))
        ((Binary64.signText negative).toList ++ (digits ++ (behind ++ mark)))

theorem IsNumber.ne_nil {x : Number} {cs : List Char} (h : IsNumber x cs) : cs ≠ [] := by
  cases h with
  | whole negative h => exact List.append_ne_nil_of_right_ne_nil _ h.ne_nil
  | decimal negative h hFraction hExponent hSome =>
    exact List.append_ne_nil_of_right_ne_nil _ (List.append_ne_nil_of_left_ne_nil h.ne_nil _)

/-! ### Strings -/

/-- The character that a letter behind a backslash stands for. -/
def shortEscape? : Char → Option Char
  | '"' => some '"'
  | '\\' => some '\\'
  | '/' => some '/'
  | 'b' => some '\x08'
  | 'f' => some '\x0c'
  | 'n' => some '\n'
  | 'r' => some '\r'
  | 't' => some '\t'
  | _ => none

/-- The number that four hexadecimal digits write. -/
def unit? (digits : List Char) : Option Nat :=
  if digits.length = 4 ∧ digits.all (fun c => (Text.hexValue? c).isSome) = true then
    some (digits.foldl (fun n c => 16 * n + (Text.hexValue? c).getD 0) 0)
  else none

/-- How a character is spelled within a string. One beyond the first 65536 may be escaped as a pair
of units. -/
inductive IsChar : Char → List Char → Prop
  | plain {c : Char} (hControl : 32 ≤ c.toNat) (hQuote : c ≠ '"') (hSlash : c ≠ '\\') : IsChar c [c]
  | short {letter c : Char} (h : shortEscape? letter = some c) : IsChar c ['\\', letter]
  | unit {c : Char} {digits : List Char} (h : unit? digits = some c.toNat) :
      IsChar c ('\\' :: 'u' :: digits)
  | pair {c : Char} {first second : List Char} {high low : Nat}
      (hFirst : unit? first = some (0xD800 + high)) (hHigh : high < 0x400)
      (hSecond : unit? second = some (0xDC00 + low)) (hLow : low < 0x400)
      (h : c.toNat = 0x10000 + 0x400 * high + low) :
      IsChar c ('\\' :: 'u' :: (first ++ '\\' :: 'u' :: second))

/-- What is spelled between the quotes of a string. -/
inductive Chars : List Char → List Char → Prop
  | nil : Chars [] []
  | cons {c : Char} {cs spelling later : List Char} (h : IsChar c spelling)
      (hLater : Chars cs later) : Chars (c :: cs) (spelling ++ later)

def IsString (s : String) (cs : List Char) : Prop :=
  ∃ inside, Chars s.toList inside ∧ cs = '"' :: (inside ++ ['"'])

/-! ### Values -/

/-- What is spelled: a value, a member of an object, or a row of such with commas between them. -/
inductive Part where
  | value (data : Data)
  | member (key : String) (data : Data)
  | row (parts : List Part)

/-- The members of an object. -/
def Part.members (members : List (String × Data)) : List Part :=
  members.map fun (key, data) => .member key data

/-- The characters that spell a part, where numbers are spelled in the given way. -/
inductive Spells (numeral : Number → List Char → Prop) : Part → List Char → Prop
  | null : Spells numeral (.value .null) ['n', 'u', 'l', 'l']
  | yes : Spells numeral (.value (.bool true)) ['t', 'r', 'u', 'e']
  | no : Spells numeral (.value (.bool false)) ['f', 'a', 'l', 's', 'e']
  | number {x : Number} {cs : List Char} (h : numeral x cs) :
      Spells numeral (.value (.number x)) cs
  | text {s : String} {cs : List Char} (h : IsString s cs) : Spells numeral (.value (.text s)) cs
  | array {items : List Data} {cs : List Char}
      (h : Spells numeral (.row (items.map .value)) cs) :
      Spells numeral (.value (.array items)) ('[' :: (cs ++ [']']))
  | object {members : List (String × Data)} {cs : List Char}
      (h : Spells numeral (.row (Part.members members)) cs) :
      Spells numeral (.value (.object members)) ('\x7b' :: (cs ++ ['\x7d']))
  | member {key : String} {data : Data} {name before behind cs : List Char}
      (hKey : IsString key name) (hBefore : Blanks before) (hBehind : Blanks behind)
      (h : Spells numeral (.value data) cs) :
      Spells numeral (.member key data) (name ++ (before ++ ':' :: (behind ++ cs)))
  | empty {blanks : List Char} (h : Blanks blanks) : Spells numeral (.row []) blanks
  | last {part : Part} {before cs behind : List Char} (hBefore : Blanks before)
      (h : Spells numeral part cs) (hBehind : Blanks behind) :
      Spells numeral (.row [part]) (before ++ (cs ++ behind))
  | more {part next : Part} {later : List Part} {before cs behind rest : List Char}
      (hBefore : Blanks before) (h : Spells numeral part cs) (hBehind : Blanks behind)
      (hLater : Spells numeral (.row (next :: later)) rest) :
      Spells numeral (.row (part :: next :: later)) (before ++ (cs ++ (behind ++ ',' :: rest)))

/-- The text is JSON and denotes the data. -/
def Denotes (t : String) (data : Data) : Prop :=
  ∃ before cs behind, Blanks before ∧ Spells IsNumber (.value data) cs ∧ Blanks behind ∧
    t.toList = before ++ (cs ++ behind)

/-- Some number in the part has a property. -/
inductive Part.Has (property : Number → Prop) : Part → Prop
  | number {x : Number} (h : property x) : Has property (.value (.number x))
  | array {items : List Data} (h : Has property (.row (items.map .value))) :
      Has property (.value (.array items))
  | object {members : List (String × Data)} (h : Has property (.row (Part.members members))) :
      Has property (.value (.object members))
  | member {key : String} {data : Data} (h : Has property (.value data)) :
      Has property (.member key data)
  | row {parts : List Part} {part : Part} (hMem : part ∈ parts) (h : Has property part) :
      Has property (.row parts)

namespace Part

variable {part : Part} {parts : List Part} {data : Data} {property : Number → Prop}

@[simp] theorem not_has_null : ¬(value .null).Has property := nofun

@[simp] theorem not_has_bool (b : Bool) : ¬(value (.bool b)).Has property := nofun

@[simp] theorem not_has_text (s : String) : ¬(value (.text s)).Has property := nofun

@[simp] theorem has_number {x : Number} : (value (.number x)).Has property ↔ property x :=
  ⟨fun | .number h => h, .number⟩

theorem has_array {items : List Data} :
    (value (.array items)).Has property ↔ (row (items.map .value)).Has property :=
  ⟨fun | .array h => h, .array⟩

theorem has_object {entries : List (String × Data)} :
    (value (.object entries)).Has property ↔ (row (members entries)).Has property :=
  ⟨fun | .object h => h, .object⟩

theorem has_member {key : String} : (member key data).Has property ↔ (value data).Has property :=
  ⟨fun | .member h => h, .member⟩

@[simp] theorem not_has_row_nil : ¬(row []).Has property := fun | .row hMem _ => nomatch hMem

theorem has_row_cons : (row (part :: parts)).Has property ↔
    part.Has property ∨ (row parts).Has property := by
  constructor
  · intro h
    cases h with
    | row hMem h =>
      rcases List.mem_cons.1 hMem with rfl | hMem
      · exact .inl h
      · exact .inr (.row hMem h)
  · intro h
    rcases h with h | h
    · exact .row List.mem_cons_self h
    · cases h with
      | row hMem h => exact .row (List.mem_cons_of_mem part hMem) h

theorem not_has_false : ¬part.Has fun _ => False := by
  intro h
  induction h with
  | number h => exact h
  | array h ih => exact ih
  | object h ih => exact ih
  | member h ih => exact ih
  | row hMem h ih => exact ih

end Part

/-- What is spelled in one way is spelled in another, if that is so for those of its numbers that do
not have a property. -/
theorem Spells.mono {part : Part} {cs : List Char} {numeral other : Number → List Char → Prop}
    {property : Number → Prop} (hMono : ∀ x cs, numeral x cs → ¬property x → other x cs)
    (h : Spells numeral part cs) (hNone : ¬part.Has property) : Spells other part cs := by
  induction h with
  | null => exact .null
  | yes => exact .yes
  | no => exact .no
  | number h => exact .number (hMono _ _ h (hNone ∘ Part.has_number.2))
  | text h => exact .text h
  | array h ih => exact .array (ih (hNone ∘ Part.has_array.2))
  | object h ih => exact .object (ih (hNone ∘ Part.has_object.2))
  | member hKey hBefore hBehind h ih =>
    exact .member hKey hBefore hBehind (ih (hNone ∘ Part.has_member.2))
  | empty h => exact .empty h
  | last hBefore h hBehind ih =>
    exact .last hBefore (ih fun hHas => hNone (Part.has_row_cons.2 (.inl hHas))) hBehind
  | more hBefore h hBehind hLater ih ihLater =>
    exact .more hBefore (ih fun hHas => hNone (Part.has_row_cons.2 (.inl hHas))) hBehind
      (ihLater fun hHas => hNone (Part.has_row_cons.2 (.inr hHas)))

/-! ### What stands outside of strings -/

/-- Where a character stands: between strings, within one, or behind a backslash there. -/
inductive Place where
  | between | within | escaped

/-- The characters that stand outside of strings. -/
def outside : Place → List Char → List Char
  | _, [] => []
  | .between, c :: cs => if c = '"' then outside .within cs else c :: outside .between cs
  | .within, c :: cs =>
    outside (if c = '"' then .between else if c = '\\' then .escaped else .within) cs
  | .escaped, _ :: cs => outside .within cs

/-- Of these characters, those at the front stand outside of strings, whatever follows. -/
def Outside (cs front : List Char) : Prop :=
  ∀ rest, outside .between (cs ++ rest) = front ++ outside .between rest

variable {part : Part} {s : String} {x : Number} {cs ds digits front later : List Char}
  {numeral : Number → List Char → Prop} {property : Number → Prop}

theorem Outside.append (h : Outside cs front) (hLater : Outside ds later) :
    Outside (cs ++ ds) (front ++ later) := by
  intro rest
  rw [List.append_assoc, h, hLater, List.append_assoc]

theorem Outside.outside_eq (h : Outside cs front) : outside .between cs = front := by
  simpa [outside] using h []

theorem outside_self (h : '"' ∉ cs) : Outside cs cs := by
  intro rest
  induction cs with
  | nil => rfl
  | cons c cs ih =>
    rw [List.mem_cons, not_or] at h
    rw [List.cons_append, outside, if_neg (Ne.symm h.1), ih h.2, List.cons_append]

/-- What is neither a quote nor a backslash leads on within a string. -/
theorem outside_within (h : ∀ c ∈ cs, c ≠ '"' ∧ c ≠ '\\') (rest : List Char) :
    outside .within (cs ++ rest) = outside .within rest := by
  induction cs with
  | nil => rfl
  | cons c cs ih =>
    obtain ⟨hQuote, hSlash⟩ := h c List.mem_cons_self
    rw [List.cons_append, outside, if_neg hQuote, if_neg hSlash]
    exact ih fun d hd => h d (List.mem_cons_of_mem c hd)

theorem ne_quote_of_unit {n : Nat} (h : unit? digits = some n) :
    ∀ c ∈ digits, c ≠ '"' ∧ c ≠ '\\' := by
  intro c hMem
  unfold unit? at h
  split at h
  · rename_i hDigits
    have hHex := List.all_eq_true.1 hDigits.2 c hMem
    constructor
    · rintro rfl
      exact absurd hHex (by decide)
    · rintro rfl
      exact absurd hHex (by decide)
  · cases h

/-- No spelling of a character ends a string. -/
theorem IsChar.outside {c : Char} (h : IsChar c cs) (rest : List Char) :
    Json.outside .within (cs ++ rest) = Json.outside .within rest := by
  cases h with
  | plain hControl hQuote hSlash =>
    rw [List.singleton_append, Json.outside, if_neg hQuote, if_neg hSlash]
  | short h => rfl
  | unit h => exact outside_within (ne_quote_of_unit h) rest
  | pair hFirst hHigh hSecond hLow h =>
    show Json.outside .within (_ ++ _ :: _ :: _ ++ _) = _
    rw [List.append_assoc, outside_within (ne_quote_of_unit hFirst)]
    exact outside_within (ne_quote_of_unit hSecond) rest

/-- A string ends with the quote behind its characters. -/
theorem Chars.outside {chars : List Char} (h : Chars chars cs) (rest : List Char) :
    Json.outside .within (cs ++ '"' :: rest) = Json.outside .between rest := by
  induction h with
  | nil => rfl
  | cons h hLater ih => rw [List.append_assoc, h.outside, ih]

theorem IsString.outside (h : IsString s cs) : Outside cs [] := by
  obtain ⟨inside, hInside, rfl⟩ := h
  intro rest
  show Json.outside .within (_ ++ _ ++ _) = _
  rw [List.append_assoc]
  exact hInside.outside rest

/-! ### Letters that are foreign to JSON -/

/-- A letter that only the names of what is no finite number hold. -/
def isForeign (c : Char) : Bool := c == 'N' || c == 'I'

/-- The character is neither foreign nor the quote of a string. -/
def isPlain (c : Char) : Bool := c != '"' && !isForeign c

/-- Foreign letters stand outside of strings, exactly if there is this reason. -/
def ForeignIf (reason : Prop) (cs : List Char) : Prop :=
  ∃ front, Outside cs front ∧ (front.any isForeign = true ↔ reason)

variable {reason other : Prop}

namespace ForeignIf

theorem congr (h : ForeignIf reason cs) (hSame : reason ↔ other) : ForeignIf other cs := by
  rwa [propext hSame] at h

theorem append (h : ForeignIf reason cs) (hLater : ForeignIf other ds) :
    ForeignIf (reason ∨ other) (cs ++ ds) := by
  obtain ⟨front, hFront, hForeign⟩ := h
  obtain ⟨later, hBehind, hOther⟩ := hLater
  refine ⟨_, hFront.append hBehind, ?_⟩
  rw [List.any_append, Bool.or_eq_true, hForeign, hOther]

theorem of_plain (h : cs.all isPlain = true) : ForeignIf False cs := by
  have hPlain (c : Char) (hMem : c ∈ cs) : c ≠ '"' ∧ isForeign c = false := by
    simpa [isPlain] using List.all_eq_true.1 h c hMem
  refine ⟨cs, outside_self fun hMem => (hPlain _ hMem).1 rfl, iff_of_false ?_ not_false⟩
  rw [Bool.not_eq_true, List.any_eq_false]
  exact fun c hMem => Bool.not_eq_true _ ▸ (hPlain c hMem).2

theorem append_plain (h : ForeignIf reason cs) (hLater : ForeignIf False ds) :
    ForeignIf reason (cs ++ ds) := (h.append hLater).congr (iff_of_eq (or_false _))

theorem plain_append (h : ForeignIf reason ds) (hFront : ForeignIf False cs) :
    ForeignIf reason (cs ++ ds) := (hFront.append h).congr (iff_of_eq (false_or _))

theorem cons {c : Char} (hPlain : isPlain c = true) (h : ForeignIf reason cs) :
    ForeignIf reason (c :: cs) := by
  have hMark : [c].all isPlain = true := by rw [List.all_cons, hPlain, List.all_nil, Bool.and_self]
  exact h.plain_append (of_plain hMark)

end ForeignIf

theorem isPlain_of_isSpace {c : Char} (h : isSpace c = true) : isPlain c = true := by
  unfold isSpace at h
  simp only [Bool.or_eq_true, beq_iff_eq] at h
  rcases h with ((rfl | rfl) | rfl) | rfl <;> decide

theorem Blanks.foreignIf (h : Blanks cs) : ForeignIf False cs :=
  .of_plain (List.all_eq_true.2 fun c hMem => isPlain_of_isSpace (h c hMem))

theorem IsString.foreignIf (h : IsString s cs) : ForeignIf False cs :=
  ⟨[], h.outside, iff_of_false (by decide) not_false⟩

/-- Foreign letters stand outside of strings exactly if some number is spelled with them. -/
theorem Spells.foreignIf (hNumeral : ∀ x cs, numeral x cs → ForeignIf (property x) cs)
    (h : Spells numeral part cs) : ForeignIf (part.Has property) cs := by
  induction h with
  | null => exact (ForeignIf.of_plain (by decide)).congr (by simp)
  | yes => exact (ForeignIf.of_plain (by decide)).congr (by simp)
  | no => exact (ForeignIf.of_plain (by decide)).congr (by simp)
  | number h => exact (hNumeral _ _ h).congr Part.has_number.symm
  | text h => exact h.foreignIf.congr (by simp)
  | array h ih =>
    exact ((ih.append_plain (.of_plain (by decide))).cons (by decide)).congr Part.has_array.symm
  | object h ih =>
    exact ((ih.append_plain (.of_plain (by decide))).cons (by decide)).congr Part.has_object.symm
  | member hKey hBefore hBehind h ih =>
    have hColon := (ih.plain_append hBehind.foreignIf).cons (c := ':') (by decide)
    exact ((hColon.plain_append hBefore.foreignIf).plain_append hKey.foreignIf).congr
      Part.has_member.symm
  | empty h => exact h.foreignIf.congr (iff_of_false not_false Part.not_has_row_nil)
  | last hBefore h hBehind ih =>
    refine ((ih.append_plain hBehind.foreignIf).plain_append hBefore.foreignIf).congr ?_
    rw [Part.has_row_cons, or_iff_left Part.not_has_row_nil]
  | more hBefore h hBehind hLater ih ihLater =>
    have hComma := ihLater.cons (c := ',') (by decide)
    exact ((ih.append (hComma.plain_append hBehind.foreignIf)).plain_append
      hBefore.foreignIf).congr Part.has_row_cons.symm

theorem isPlain_of_isDigit {c : Char} (h : c.isDigit = true) : isPlain c = true := by
  have hOther (d : Char) (hd : d.isDigit = false) : c ≠ d := by
    rintro rfl
    rw [h] at hd
    cases hd
  simp [isPlain, isForeign, hOther '"' (by decide), hOther 'N' (by decide),
    hOther 'I' (by decide)]

theorem Digits.foreignIf (h : Digits digits) : ForeignIf False digits :=
  .of_plain (List.all_eq_true.2 fun c hMem => isPlain_of_isDigit (h.isDigit c hMem))

theorem Fraction.foreignIf (h : Fraction digits cs) : ForeignIf False cs := by
  cases h with
  | none => exact .of_plain rfl
  | point h => exact h.foreignIf.cons (by decide)

theorem Exponent.foreignIf {exponent : Int} (h : Exponent exponent cs) : ForeignIf False cs := by
  cases h with
  | none => exact .of_plain rfl
  | @marked mark sign digits hMark hSign h =>
    have hMarks : ['e', 'E'].all isPlain = true := by decide
    have hSigns : [[], ['+'], ['-']].all (·.all isPlain) = true := by decide
    have hSigned := h.foreignIf.plain_append (.of_plain (List.all_eq_true.1 hSigns sign hSign))
    exact hSigned.cons (List.all_eq_true.1 hMarks mark hMark)

/-- No number of JSON is spelled with foreign letters. -/
theorem IsNumber.foreignIf (h : IsNumber x cs) : ForeignIf False cs := by
  have hSign (negative : Bool) : ForeignIf False (Binary64.signText negative).toList := by
    cases negative <;> exact .of_plain (by decide)
  cases h with
  | whole negative h => exact h.foreignIf.plain_append (hSign negative)
  | decimal negative h hFraction hExponent hSome =>
    have hBehind := hExponent.foreignIf.plain_append hFraction.foreignIf
    exact (hBehind.plain_append h.foreignIf).plain_append (hSign negative)

/-- Outside of the strings of a JSON text no foreign letters stand. -/
theorem Denotes.foreignIf {t : String} {data : Data} (h : Denotes t data) :
    ForeignIf False t.toList := by
  obtain ⟨before, cs, behind, hBefore, hSpells, hBehind, hText⟩ := h
  have hData : ForeignIf ((Part.value data).Has fun _ => False) cs :=
    hSpells.foreignIf fun x cs h => h.foreignIf
  have hNone := hData.congr (iff_of_false Part.not_has_false not_false)
  rw [hText]
  exact (hNone.append_plain hBehind.foreignIf).plain_append hBefore.foreignIf

/-- A text with a foreign letter outside of its strings is not empty, and no JSON. -/
theorem ForeignIf.not_denotes {t : String} (h : ForeignIf True t.toList) (data : Data) :
    ¬Denotes t data := by
  intro hDenotes
  obtain ⟨front, hFront, hForeign⟩ := h
  obtain ⟨other, hOther, hNone⟩ := hDenotes.foreignIf
  rw [← hFront.outside_eq, hOther.outside_eq, hNone] at hForeign
  exact hForeign.2 trivial

end Stencil.Json
