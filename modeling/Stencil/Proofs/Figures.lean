import Stencil.Engine.Basic
import Stencil.Template.Print
import Stencil.Proofs.Calculations
import Stencil.Proofs.PlainData
import Stencil.Proofs.Running
import Stencil.Proofs.Words

/-!
Whole numbers written in figures. Text with no more digits than are read as a whole number stands
for exactly that number; with more digits it stands for a floating point number instead. So a
calculation gives the same with the text of a number as with the number itself, wherever the two
come from, as long as there are not too many digits.
-/

namespace Stencil

/-- A whole number in figures: blanks, a sign, decimal digits, and blanks. -/
structure Figures where
  before : List Char
  /-- Whether the sign is a minus, if there is a sign. -/
  minus : Option Bool
  digits : List Char
  behind : List Char
  blank_before : ∀ c ∈ before, Text.isBlank c = true
  some_digits : digits ≠ []
  only_digits : ∀ c ∈ digits, c.isDigit = true
  blank_behind : ∀ c ∈ behind, Text.isBlank c = true

namespace Figures

variable (figures : Figures)

def signChars : List Char :=
  match figures.minus with
  | none => []
  | some true => ['-']
  | some false => ['+']

/-- The sign and the digits. -/
def inner : List Char := figures.signChars ++ figures.digits

def text : String := .ofList (figures.before ++ figures.inner ++ figures.behind)

def negative : Bool := figures.minus.getD false

/-- The number that the digits write. -/
def size : Nat := Nat.ofDigitChars 10 figures.digits 0

/-- The number that the text denotes. -/
def value : Int := Binary64.signed figures.negative figures.size

end Figures

/-! ### Digits -/

namespace Text

theorem digitValue?_of_isDigit {c : Char} (h : c.isDigit = true) :
    digitValue? c = some (c.toNat - 48) := by
  have hBounds := toNat_of_isDigit h
  unfold digitValue?
  dsimp only
  rw [if_pos (by omega), if_pos hBounds]

theorem digitValues?_of_digits {cs : List Char} (h : ∀ c ∈ cs, c.isDigit = true) :
    digitValues? cs = some (cs.map fun c => c.toNat - 48) := by
  induction cs with
  | nil => rfl
  | cons c cs ih =>
    have hLater := ih fun d hd => h d (List.mem_cons_of_mem c hd)
    rw [digitValues?, List.mapM_cons, digitValue?_of_isDigit (h c List.mem_cons_self)]
    rw [digitValues?] at hLater
    rw [hLater]
    rfl

theorem ofDigits_map (cs : List Char) :
    ofDigits (cs.map fun c => c.toNat - 48) = Nat.ofDigitChars 10 cs 0 := by
  rw [ofDigits, List.foldl_map, Nat.ofDigitChars_eq_foldl]
  rfl

end Text

namespace Numeral

variable {cs : List Char}

/-- Without underscores, a run of digits is read digit by digit. -/
theorem digitRun_of_not_mem (h : '_' ∉ cs) (hSome : cs ≠ []) :
    digitRun cs = Text.digitValues? cs := by
  fun_induction digitRun cs with
  | case1 => exact absurd rfl hSome
  | case2 c => cases hValue : Text.digitValue? c <;> simp [Text.digitValues?, hValue]
  | case3 c cs ih => simp at h
  | case4 c cs hLast hNext ih =>
    have hLater := ih (List.not_mem_of_not_mem_cons h) hLast
    simp [Text.digitValues?, hLater] at hLater ⊢

theorem not_mem_of_digits {c : Char} (h : ∀ d ∈ cs, d.isDigit = true) (hc : c.isDigit = false) :
    c ∉ cs := fun hMem => by simp [h c hMem] at hc

theorem inDigitRun_of_isDigit {c : Char} (h : c.isDigit = true) : inDigitRun c = true := by
  simp [inDigitRun, Text.digitValue?_of_isDigit h]

theorem sign_of_ne (hMinus : cs.head? ≠ some '-') (hPlus : cs.head? ≠ some '+') :
    sign cs = (false, cs) := by
  unfold sign
  split <;> simp_all

theorem asciiDigits_of_ascii (h : ∀ c ∈ cs, c.toNat < 128) : asciiDigits cs = cs := by
  induction cs with
  | nil => rfl
  | cons c cs ih =>
    have hLater := ih fun d hd => h d (List.mem_cons_of_mem c hd)
    have hFirst : c.toNat < 128 := h c List.mem_cons_self
    rw [asciiDigits] at hLater ⊢
    rw [List.map_cons, hLater, List.cons.injEq]
    refine ⟨?_, rfl⟩
    unfold Text.digitValue?
    dsimp only
    rw [if_pos hFirst]
    by_cases hDigit : 48 ≤ c.toNat ∧ c.toNat ≤ 57
    · rw [if_pos hDigit]
      show Char.ofNat (48 + (c.toNat - 48)) = c
      rw [Nat.add_sub_cancel' hDigit.1, Char.ofNat_toNat]
    · rw [if_neg hDigit]

theorem withoutUnderscores_of_not_mem (h : '_' ∉ cs) : withoutUnderscores cs = some cs := by
  fun_induction withoutUnderscores cs with
  | case1 => rfl
  | case2 cs => simp at h
  | case3 c d cs hDigits ih => simp at h
  | case4 c d cs hDigits => simp at h
  | case5 c cs hFirst hNext ih =>
    rw [ih (List.not_mem_of_not_mem_cons h)]
    rfl

theorem toLower_of_isDigit {c : Char} (h : c.isDigit = true) : c.toLower = c := by
  have hBounds := Text.toNat_of_isDigit h
  unfold Char.toLower
  rw [dif_neg]
  intro hUpper
  have := UInt32.le_iff_toNat_le.1 hUpper.1
  simp at this
  omega

theorem ofQuotient_zero (negative : Bool) :
    Binary64.ofQuotient negative (0 * Binary64.one) 1 = .finite negative .none := by
  apply Binary64.ofQuotient_eq_finite
  rw [Nat.zero_mul]
  exact Binary64.roundQuanta_of_fits Binary64.Quanta.none.fits

/-- Without an exponent the digits write a whole number. -/
theorem ofDecimal_zero (negative : Bool) (n : Nat) :
    Binary64.ofDecimal negative n 0 = .ofQuotient negative (n * Binary64.one) 1 := by
  unfold Binary64.ofDecimal
  dsimp only
  by_cases hZero : n = 0
  · rw [if_pos hZero, hZero, ofQuotient_zero]
  · rw [if_neg hZero, if_neg (by decide), if_neg (by omega), if_pos (le_refl _)]
    simp

theorem decimal?_of_digits (negative : Bool) (hSome : cs ≠ [])
    (h : ∀ c ∈ cs, c.isDigit = true) :
    decimal? negative cs =
      some (.ofQuotient negative (Nat.ofDigitChars 10 cs 0 * Binary64.one) 1) := by
  have hFront : cs.takeWhile Char.isDigit = cs := List.takeWhile_eq_self_iff.2 h
  have hRest : cs.dropWhile Char.isDigit = [] := List.dropWhile_eq_nil_iff.2 h
  unfold decimal?
  simp [hFront, hRest, hSome, Text.digitValues?_of_digits h, Text.ofDigits_map, ofDecimal_zero]

/-- Digits are no name of a number. -/
theorem ofList_toLower_ne (hSome : cs ≠ []) (h : ∀ c ∈ cs, c.isDigit = true) {name : String}
    (hName : name.toList.head?.any Char.isDigit = false) :
    String.ofList (cs.map Char.toLower) ≠ name := by
  rintro rfl
  obtain ⟨c, cs, rfl⟩ := List.exists_cons_of_ne_nil hSome
  have hDigit : c.isDigit = true := h c List.mem_cons_self
  simp [toLower_of_isDigit hDigit, hDigit] at hName

end Numeral

namespace Figures

open Numeral

variable (figures : Figures)

theorem sign_inner : sign figures.inner = (figures.negative, figures.digits) := by
  have hHead (c : Char) (hc : c.isDigit = false) : figures.digits.head? ≠ some c := fun hHead =>
    not_mem_of_digits figures.only_digits hc (List.mem_of_mem_head? hHead)
  unfold inner signChars negative
  match figures.minus with
  | none => exact sign_of_ne (hHead '-' (by decide)) (hHead '+' (by decide))
  | some true => rfl
  | some false => rfl

theorem mem_inner {c : Char} (h : c ∈ figures.inner) : c.isDigit = true ∨ c = '-' ∨ c = '+' := by
  unfold inner signChars at h
  rcases List.mem_append.1 h with hSign | hDigit
  · match hMinus : figures.minus with
    | none => simp [hMinus] at hSign
    | some true => simp_all
    | some false => simp_all
  · exact .inl (figures.only_digits c hDigit)

theorem bare_inner : Text.Bare figures.inner := by
  refine ⟨List.append_ne_nil_of_right_ne_nil _ figures.some_digits, fun c hc => ?_⟩
  rcases figures.mem_inner hc with hDigit | rfl | rfl
  · exact Text.isBlank_of_isDigit hDigit
  · decide
  · decide

theorem trim_text : Text.trim figures.text = .ofList figures.inner := by
  rw [Text.trim, text, String.toList_ofList,
    Text.trimChars_blanks figures.bare_inner figures.blank_before figures.blank_behind]

theorem int?_inner :
    int? (.ofList figures.inner) =
      if Fault.digitLimit < figures.digits.length then
        .error (.tooManyDigitsToRead figures.digits.length)
      else .ok figures.value := by
  have hAll : ∀ c ∈ figures.digits, inDigitRun c = true :=
    fun c hc => inDigitRun_of_isDigit (figures.only_digits c hc)
  have hRun : digitRun figures.digits = some (figures.digits.map fun c => c.toNat - 48) := by
    rw [digitRun_of_not_mem (not_mem_of_digits figures.only_digits (by decide))
      figures.some_digits, Text.digitValues?_of_digits figures.only_digits]
  unfold int?
  rw [String.toList_ofList, sign_inner]
  simp only [List.takeWhile_eq_self_iff.2 hAll, List.dropWhile_eq_nil_iff.2 hAll, hRun,
    List.length_map, Text.ofDigits_map]
  rfl

theorem float?_inner :
    float? (.ofList figures.inner) =
      some (.ofQuotient figures.negative (figures.size * Binary64.one) 1) := by
  have hUnderscore : '_' ∉ figures.inner := by
    intro hMem
    rcases figures.mem_inner hMem with hDigit | hMinus | hPlus
    · exact absurd hDigit (by decide)
    · exact absurd hMinus (by decide)
    · exact absurd hPlus (by decide)
  have hAscii : ∀ c ∈ figures.inner, c.toNat < 128 := by
    intro c hc
    rcases figures.mem_inner hc with hDigit | rfl | rfl
    · exact (Text.toNat_of_isDigit hDigit).2.trans_lt (by decide)
    · decide
    · decide
  have hName {name : String} (h : name.toList.head?.any Char.isDigit = false) :=
    ofList_toLower_ne figures.some_digits figures.only_digits h
  unfold float?
  rw [String.toList_ofList, asciiDigits_of_ascii hAscii, withoutUnderscores_of_not_mem hUnderscore]
  simp only [Option.bind_eq_bind, Option.bind_some, sign_inner]
  split
  · rename_i hNan
    exact absurd hNan (hName (by decide))
  · rename_i hInf
    exact absurd hInf (hName (by decide))
  · rename_i hInfinity
    exact absurd hInfinity (hName (by decide))
  · exact decimal?_of_digits figures.negative figures.some_digits figures.only_digits

/-- With too many digits the text stands for a floating point number. -/
theorem number?_text :
    number? figures.text = some
      (if figures.digits.length ≤ Fault.digitLimit then .int figures.value
        else .float (.ofQuotient figures.negative (figures.size * Binary64.one) 1)) := by
  unfold number?
  dsimp only
  rw [trim_text, int?_inner]
  by_cases hMany : Fault.digitLimit < figures.digits.length
  · rw [if_pos hMany, if_neg (Nat.not_le.2 hMany)]
    simp only [float?_inner]
    rfl
  · rw [if_neg hMany, if_pos (Nat.le_of_not_lt hMany)]

end Figures

/-! ### Calculating with the text of a number -/

namespace Calculation

open Binary64

variable {calculation : Calculation} {a b c : Value}

/-- Values that stand for the same number, or for none, are the same for a calculation. -/
theorem act_congr (calculation : Calculation) (a : Value) (h : b.toNumber? = c.toNumber?) :
    calculation.helper.act [a, b] = calculation.helper.act [a, c] := by
  rw [act_helper, act_helper, h]

/-- Zero and a floating point number make a floating point number, unless they are divided. -/
theorem onNumbers_zero (hNot : calculation ≠ divide) (x : Binary64) :
    ∃ y, calculation.onNumbers (.int 0) (.float x) = .ok (.float y) := by
  obtain ⟨zero, hZero⟩ := (overflowsIf_toFloat (.int 0)).exists_ok_iff.2
    (by decide +kernel : ¬ wholeBound ≤ (0 : Int).natAbs)
  have hCombine (onInts : Int → Int → Int) (onFloats : Binary64 → Binary64 → Binary64) :
      Number.combine onInts onFloats (.int 0) (.float x) = .ok (.float (onFloats zero x)) := by
    simp only [Number.combine, hZero]
    rfl
  cases calculation with
  | add => exact ⟨zero + x, hCombine (· + ·) (· + ·)⟩
  | subtract => exact ⟨zero - x, hCombine (· - ·) (· - ·)⟩
  | multiply => exact ⟨zero * x, hCombine (· * ·) (· * ·)⟩
  | divide => exact absurd rfl hNot

/-- With zero, a floating point number does not do what a whole number does. -/
theorem act_zero_ne (hNot : calculation ≠ divide) {x : Binary64} {n : Int}
    (hb : b.toNumber? = some (.float x)) (hc : c.toNumber? = some (.int n)) :
    calculation.helper.act [.int 0, b] ≠ calculation.helper.act [.int 0, c] := by
  obtain ⟨y, hFloat⟩ := onNumbers_zero hNot x
  obtain ⟨onInts, hInts⟩ : ∃ onInts, calculation.onInts? = some onInts := by
    cases calculation with
    | add | subtract | multiply => exact ⟨_, rfl⟩
    | divide => exact absurd rfl hNot
  rw [act_of_numbers calculation rfl hb, act_of_numbers calculation rfl hc, hFloat,
    onNumbers_of_ints hInts]
  intro hSame
  injection hSame with hSame
  cases hSame

/-- What is refused as a floating point number is refused in other words as a whole one, or is
not refused. -/
theorem act_divide_ne {x : Binary64} {m n : Int} (hLarge : wholeBound ≤ m.natAbs)
    (hx : (Number.float x).isZero = false) (hn : n ≠ 0) (hb : b.toNumber? = some (.float x))
    (hc : c.toNumber? = some (.int n)) :
    divide.helper.act [.int m, b] ≠ divide.helper.act [.int m, c] := by
  have hFloat : divide.onNumbers (.int m) (.float x) = .error .integerTooLargeForFloat := by
    refine (divide_of_not_isZero (.int m) hx).trans ?_
    simp only [Number.quotient, toFloat_of_le hLarge]
    rfl
  have hInt : divide.onNumbers (.int m) (.int n) =
      Number.float <$> (ofIntQuotient? m n).elim (.error .quotientTooLargeForFloat) .ok :=
    divide_of_not_isZero (.int m) (by simpa [Number.isZero] using hn)
  rw [act_of_numbers divide rfl hb, act_of_numbers divide rfl hc, hFloat, hInt]
  intro hSame
  cases hQuotient : ofIntQuotient? m n with
  | none =>
    rw [hQuotient] at hSame
    injection hSame with hSame
    injection hSame with hSame
    cases hSame
  | some y =>
    rw [hQuotient] at hSame
    injection hSame

theorem isZero_ofQuotient (negative : Bool) (n : Nat) :
    (ofQuotient negative (n * one) 1).isZero = decide (n = 0) := by
  by_cases hZero : n = 0
  · rw [hZero, Numeral.ofQuotient_zero]
    rfl
  · obtain ⟨m, hRound, hNear⟩ := exists_roundQuanta_mul_one n
    have hSome : roundQuanta (n * one) 1 ≠ 0 := by
      rw [hRound]
      exact (Nat.mul_pos (Nat.pos_of_ne_zero (hNear.ne_zero hZero)) Binary64.one_pos).ne'
    rw [decide_eq_false hZero]
    unfold ofQuotient
    dsimp only
    split
    · exact beq_false_of_ne hSome
    · rfl

/-- A calculation gives the same with the text of a number as with the number itself exactly if the
text does not have too many digits, except that nothing is ever divided by zero. -/
theorem act_text_eq_iff (calculation : Calculation) (figures : Figures) :
    (∀ a, calculation.helper.act [a, .text figures.text] =
        calculation.helper.act [a, .int figures.value]) ↔
      figures.digits.length ≤ Fault.digitLimit ∨ calculation = divide ∧ figures.value = 0 := by
  have hText : (Value.text figures.text).toNumber? = _ := figures.number?_text
  have hSize : figures.value = 0 ↔ figures.size = 0 := by
    rw [← Int.natAbs_eq_zero, Figures.value, natAbs_signed]
  by_cases hFew : figures.digits.length ≤ Fault.digitLimit
  · rw [if_pos hFew] at hText
    exact ⟨fun _ => .inl hFew, fun _ a => act_congr calculation a hText⟩
  rw [if_neg hFew] at hText
  constructor
  · intro hSame
    by_contra hNot
    obtain ⟨-, hOther⟩ := not_or.1 hNot
    by_cases hDivide : calculation = divide
    · subst hDivide
      have hSome : figures.value ≠ 0 := fun hZero => hOther ⟨rfl, hZero⟩
      have hFloat : Number.isZero (.float (ofQuotient figures.negative (figures.size * one) 1)) =
          false := by
        rw [Number.isZero, isZero_ofQuotient, decide_eq_false fun hZero => hSome (hSize.2 hZero)]
      obtain ⟨m, hLarge⟩ : ∃ m : Int, wholeBound ≤ m.natAbs :=
        ⟨wholeBound, (Int.natAbs_natCast wholeBound).ge⟩
      exact act_divide_ne hLarge hFloat hSome hText rfl (hSame (.int m))
    · exact act_zero_ne hDivide hText rfl (hSame (.int 0))
  · rintro (hFew' | ⟨rfl, hZero⟩) a
    · exact absurd hFew' hFew
    · have hFloat : Number.isZero (.float (ofQuotient figures.negative (figures.size * one) 1)) =
          true := by
        rw [Number.isZero, isZero_ofQuotient, decide_eq_true (hSize.1 hZero)]
      rw [act_divide_of_isZero a hText hFloat, act_divide_of_isZero a rfl (by simp [hZero,
        Number.isZero])]

end Calculation

/-! ### Filters and calls -/

namespace Render

variable {setup : Setup} {frame : Frame} {offset : Nat} {context : Value} {metadata : Metadata}

theorem helper?_of_find? {name : String} {helper : Helper}
    (h : setup.helpers.find? name = some helper) :
    helper? setup frame offset name = pure (some helper) := by
  unfold helper?
  rw [h]

/-- An inline helper that cannot tell the text of an argument from a value gives the same as a
filter with that text behind a path, and as a call with both paths, one of which leads to the
value. -/
theorem renderOutput_filter_eq_call {helper : Helper} {name path other text : String} {b : Value}
    (hHelper : setup.helpers.find? name = some helper) (hKind : helper.isBlock = false)
    (hOther : Path.resolve context other metadata = .ok b)
    (hSame : ∀ a, helper.act [a, .text text] = helper.act [a, b]) (place : Nat)
    (later : List Filter) :
    renderOutput setup frame offset path [] (⟨place, name, [text]⟩ :: later) context metadata =
      renderOutput setup frame offset name [path, other] later context metadata := by
  have hCall (a : Value) :
      callInline frame offset helper name [a, .text text] =
        callInline frame offset helper name [a, b] := by
    simp only [callInline, hKind, call, hSame]
  simp [renderOutput, head?, applyFilters, helper?_of_find? hHelper, lookUp_of_ok hOther, hCall]

end Render

theorem Calculation.isBlock_helper (calculation : Calculation) :
    calculation.helper.isBlock = false := by
  cases calculation <;> rfl

namespace Figures

/-- The text of a whole number stands for exactly that number if and only if it does not have too
many digits. Then a calculation gives the same with the text as with the number itself, and so does
a filter with that text as a call with a path to the number; with more digits it stands for a
floating point number, which no calculation takes for the whole one, except that nothing is ever
divided by zero. -/
theorem agree_iff (figures : Figures) (calculation : Calculation) :
    let short := figures.digits.length ≤ Fault.digitLimit
    let same := short ∨ calculation = .divide ∧ figures.value = 0
    ((Value.text figures.text).toNumber? = some (.int figures.value) ↔ short) ∧
      (¬ short → ∃ x, (Value.text figures.text).toNumber? = some (.float x)) ∧
      ((∀ a, calculation.helper.act [a, .text figures.text] =
          calculation.helper.act [a, .int figures.value]) ↔ same) ∧
      (same → ∀ (setup : Setup) (frame : Frame) (offset place : Nat) (name path other : String)
          (context : Value) (metadata : Metadata) (later : List Filter),
        setup.helpers.find? name = some calculation.helper →
        Path.resolve context other metadata = .ok (.int figures.value) →
        Render.renderOutput setup frame offset path [] (⟨place, name, [figures.text]⟩ :: later)
            context metadata =
          Render.renderOutput setup frame offset name [path, other] later context metadata) := by
  intro short same
  have hText : (Value.text figures.text).toNumber? = _ := figures.number?_text
  have hSame := calculation.act_text_eq_iff figures
  refine ⟨⟨fun hInt => ?_, fun hShort => ?_⟩, fun hLong => ?_, hSame, ?_⟩
  · by_contra hLong
    rw [hText, if_neg hLong] at hInt
    cases hInt
  · rw [hText, if_pos hShort]
  · exact ⟨_, by rw [hText, if_neg hLong]⟩
  · intro h setup frame offset place name path other context metadata later hHelper hOther
    exact Render.renderOutput_filter_eq_call hHelper calculation.isBlock_helper hOther (hSame.2 h)
      place later

/-- The figures of ten. -/
def ten : Figures where
  before := []
  minus := none
  digits := ['1', '0']
  behind := []
  blank_before := by simp
  some_digits := by simp
  only_digits := by simp
  blank_behind := by simp

/-- Ten added by a filter and by a call. -/
theorem agree_iff_ten :
    let engine := Engine.new .small {}
    let context : Value := .map [(.text "n", .int 5), (.text "m", .int 10)]
    engine.setup.helpers.find? "add" = some Calculation.add.helper ∧
      Path.resolve context "m" [] = .ok (.int ten.value) ∧
      Render.renderOutput engine.setup {} 0 "n" [] [⟨0, "add", [ten.text]⟩] context [] =
        Render.renderOutput engine.setup {} 0 "add" ["n", "m"] [] context [] ∧
      (engine.render (Node.tag "n | add 10") context {}).1.toOption = some "15" := by
  intro engine context
  have hHelper : engine.setup.helpers.find? "add" = some Calculation.add.helper := rfl
  have hOther : Path.resolve context "m" [] = .ok (.int ten.value) := rfl
  have hShort : ten.digits.length ≤ Fault.digitLimit := by decide
  exact ⟨hHelper, hOther, (agree_iff ten .add).2.2.2 (.inl hShort) engine.setup {} 0 0 "add" "n" "m"
    context [] [] hHelper hOther, by decide +kernel⟩

/-- The figures of one, with zeros in front. -/
def one (zeros : Nat) : Figures where
  before := []
  minus := none
  digits := List.replicate zeros '0' ++ ['1']
  behind := []
  blank_before := by simp
  some_digits := List.append_ne_nil_of_right_ne_nil _ (List.cons_ne_nil _ _)
  only_digits := by
    intro c hc
    rcases List.mem_append.1 hc with hZero | hOne
    · rw [List.eq_of_mem_replicate hZero]
      rfl
    · rw [List.mem_singleton.1 hOne]
      rfl
  blank_behind := by simp

theorem size_one (zeros : Nat) : (one zeros).size = 1 := by
  show Nat.ofDigitChars 10 (List.replicate zeros '0' ++ ['1']) 0 = 1
  rw [Nat.ofDigitChars_append, Nat.ofDigitChars_replicate_zero, Nat.mul_zero]
  rfl

theorem length_digits_one (zeros : Nat) : (one zeros).digits.length = zeros + 1 := by
  simp [one]

/-- With too many zeros in front, one becomes a floating point number. -/
theorem one_is_float :
    (one 4300).value = 1 ∧
      (Value.text (one 4300).text).toNumber? = some (.float (.ofWhole 1)) := by
  have hLong : ¬ (one 4300).digits.length ≤ Fault.digitLimit := by
    rw [length_digits_one]
    decide
  constructor
  · rw [value, size_one]
    rfl
  · refine (one 4300).number?_text.trans ?_
    rw [if_neg hLong, size_one]
    decide +kernel

end Figures

end Stencil
