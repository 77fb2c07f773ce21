import Mathlib.Algebra.Group.Nat.Defs
import Mathlib.Data.List.Basic
import Mathlib.Data.List.TakeWhile
import Stencil.Helper.Format
import Stencil.Proofs.Words

/-!
Dates that are written and read again. A day of a year with four digits, and a time to the second,
are written as ISO 8601 has them, and are read back as they were. A year before the year 1000 is
written with fewer digits than are read, so nothing is read back from it.
-/

namespace Stencil

/-! ### Numbers filled up with zeros -/

namespace Text

variable {width n : Nat}

theorem toList_padded (width n : Nat) :
    (padded width n).toList =
      List.replicate (width - (Nat.toDigits 10 n).length) '0' ++ Nat.toDigits 10 n := by
  simp [padded, zeroRun, Nat.toString_eq_repr, Nat.toList_repr, ← String.length_toList]

theorem isDigit_of_mem_padded {c : Char} (h : c ∈ (padded width n).toList) : c.isDigit = true := by
  rw [toList_padded] at h
  rcases List.mem_append.1 h with hZero | hDigit
  · rw [List.eq_of_mem_replicate hZero]
    rfl
  · exact Nat.isDigit_of_mem_toDigits (by decide) (by decide) hDigit

theorem length_padded (hWidth : 0 < width) (h : n < 10 ^ width) :
    (padded width n).toList.length = width := by
  have hLess : (Nat.toDigits 10 n).length ≤ width :=
    (Nat.length_toDigits_le_iff (by decide) hWidth).2 h
  rw [toList_padded, List.length_append, List.length_replicate]
  omega

theorem ofDigitChars_padded (width n : Nat) :
    Nat.ofDigitChars 10 (padded width n).toList 0 = n := by
  rw [toList_padded, Nat.ofDigitChars_append, Nat.ofDigitChars_replicate_zero, Nat.mul_zero,
    Nat.ofDigitChars_ten_toDigits]

end Text

namespace Calendar.Iso

variable {width n : Nat}

/-- A number filled up with zeros is read back. -/
theorem digits?_padded (hWidth : 0 < width) (h : n < 10 ^ width) (rest : List Char) :
    digits? width ((Text.padded width n).toList ++ rest) = some (n, rest) := by
  have hLength := Text.length_padded hWidth h
  have hFront : ((Text.padded width n).toList ++ rest).take width = (Text.padded width n).toList :=
    List.take_left' hLength
  have hDigits : (Text.padded width n).toList.all Char.isDigit = true :=
    List.all_eq_true.2 fun c hc => Text.isDigit_of_mem_padded hc
  unfold digits?
  dsimp only
  rw [hFront, if_pos ⟨hLength, hDigits⟩, List.drop_left' hLength]
  exact congrArg (fun m => some (m, rest)) (Text.ofDigitChars_padded width n)

theorem digits?_eq_none {cs : List Char} {c : Char} (h : c ∈ cs.take width)
    (hc : c.isDigit = false) : digits? width cs = none := by
  refine if_neg fun ⟨_, hAll⟩ => ?_
  rw [List.all_eq_true.1 hAll c h] at hc
  cases hc

end Calendar.Iso

/-! ### What is written -/

theorem Date.toList_toText (date : Date) :
    date.toText.toList = (Text.padded 4 date.year).toList ++
      '-' :: ((Text.padded 2 date.month).toList ++ '-' :: (Text.padded 2 date.day).toList) := by
  simp [toText]

theorem Calendar.daysInMonth_le (year month : Nat) : daysInMonth year month ≤ 31 := by
  have hLengths : ∀ length ∈ monthLengths year, length ≤ 31 := by
    simp only [monthLengths, List.forall_mem_cons]
    split <;> simp
  rw [daysInMonth, List.getD_eq_getElem?_getD]
  cases hLength : (monthLengths year)[month - 1]? with
  | none => exact Nat.zero_le 31
  | some length => exact hLengths length (List.mem_of_getElem? hLength)

theorem Date.bounds (date : Date) :
    date.year < 10 ^ 4 ∧ date.month < 10 ^ 2 ∧ date.day < 10 ^ 2 := by
  have h := date.inCalendar
  have hLength := Calendar.daysInMonth_le date.year date.month
  simp only [Calendar.hasDay, Bool.and_eq_true, decide_eq_true_eq] at h
  omega

theorem Date.length_toText (date : Date) : date.toText.toList.length = 10 := by
  obtain ⟨hYear, hMonth, hDay⟩ := date.bounds
  rw [date.toList_toText]
  simp only [List.length_append, List.length_cons, Text.length_padded (by decide) hYear,
    Text.length_padded (by decide) hMonth, Text.length_padded (by decide) hDay]

namespace Clock

theorem toList_toText {clock : Clock} (h : clock.microsecond = 0) :
    clock.toText.toList = (Text.padded 2 clock.hour).toList ++ ':' ::
      ((Text.padded 2 clock.minute).toList ++ ':' :: (Text.padded 2 clock.second).toList) := by
  simp [toText, h]

theorem of?_self (clock : Clock) :
    of? clock.hour clock.minute clock.second clock.microsecond = some clock := by
  simp [of?, clock.inDay]

theorem bounds (clock : Clock) :
    clock.hour < 10 ^ 2 ∧ clock.minute < 10 ^ 2 ∧ clock.second < 10 ^ 2 := by
  have h := clock.inDay
  simp only [Calendar.hasTime, Bool.and_eq_true, decide_eq_true_eq] at h
  omega

/-- The time without its fraction of a second. -/
def toSecond (clock : Clock) : Clock where
  hour := clock.hour
  minute := clock.minute
  second := clock.second
  microsecond := 0
  inDay := by
    have h := clock.inDay
    simp only [Calendar.hasTime, Bool.and_eq_true, decide_eq_true_eq] at h ⊢
    exact ⟨h.1, h.2.1, by decide⟩

end Clock

namespace Calendar

/-- How much of a moment is written: the day, or the day and the time to the second. -/
inductive Precision where
  | day | second
  deriving DecidableEq, Repr

namespace Precision

def pattern : Precision → String
  | day => Pattern.standard
  | second => "YYYY-MM-DDTHH:mm:ss"

/-- The time that is left of a time: midnight if only the day is written. -/
def clock : Precision → Clock → Clock
  | day, _ => .midnight
  | second, clock => clock.toSecond

/-- What is left of a day and a time, as ISO 8601 has it. -/
def isoText (precision : Precision) (date : Date) (clock : Clock) : String :=
  match precision with
  | day => date.toText
  | second => Moment.toText "T" ⟨date, clock.toSecond, none⟩

/-- What is written behind the day. -/
def behindDay (precision : Precision) (clock : Clock) : List Char :=
  match precision with
  | day => []
  | second => 'T' :: clock.toSecond.toText.toList

/-- What is written behind the year. -/
def behindYear (precision : Precision) (date : Date) (clock : Clock) : List Char :=
  '-' :: ((Text.padded 2 date.month).toList ++ '-' :: ((Text.padded 2 date.day).toList ++
    precision.behindDay clock))

theorem toList_isoText (precision : Precision) (date : Date) (clock : Clock) :
    (precision.isoText date clock).toList = date.toText.toList ++ precision.behindDay clock := by
  cases precision <;> simp [isoText, behindDay, Moment.toText]

theorem isoText_clock (precision : Precision) (date : Date) (clock : Clock) :
    precision.isoText date (precision.clock clock) = precision.isoText date clock := by
  cases precision <;> rfl

theorem toList_format (precision : Precision) (date : Date) (clock : Clock) :
    (Pattern.format precision.pattern date clock).toList =
      (Text.padded 1 date.year).toList ++ precision.behindYear date clock := by
  cases precision with
  | day =>
    have hPieces : Pattern.pieces day.pattern.toList =
        [.part .year 1, .character '-', .part .month 2, .character '-', .part .day 2] := by
      decide
    simp [Pattern.format, hPieces, Pattern.Piece.text, Pattern.Part.text, behindYear, behindDay,
      String.join]
  | second =>
    have hPieces : Pattern.pieces second.pattern.toList =
        [.part .year 1, .character '-', .part .month 2, .character '-', .part .day 2,
          .character 'T', .part .hour 2, .character ':', .part .minute 2, .character ':',
          .part .second 2] := by
      decide
    simp [Pattern.format, hPieces, Pattern.Piece.text, Pattern.Part.text, behindYear, behindDay,
      Clock.toList_toText, Clock.toSecond, String.join]

/-- A year with four digits is written as it is in ISO 8601. -/
theorem format_eq_isoText (precision : Precision) {date : Date} (hYear : 1000 ≤ date.year)
    (clock : Clock) :
    Pattern.format precision.pattern date clock = precision.isoText date clock := by
  have hDigits : 4 ≤ (toString date.year).length := by
    have h : ¬ (Nat.toDigits 10 date.year).length ≤ 3 := by
      rw [Nat.length_toDigits_le_iff (by decide) (by decide)]
      omega
    rw [Nat.toString_eq_repr, ← String.length_toList, Nat.toList_repr]
    omega
  have hWidth : Text.padded 1 date.year = Text.padded 4 date.year := by
    rw [Text.padded_eq_self hDigits, Text.padded_eq_self (by omega)]
  apply String.toList_inj.1
  rw [toList_format, toList_isoText, Date.toList_toText, hWidth, behindYear]
  simp only [List.append_assoc, List.cons_append]

/-- A year with fewer digits has the hyphen behind it among the first four characters. -/
theorem hyphen_mem_take_format (precision : Precision) {date : Date} (hYear : date.year < 1000)
    (clock : Clock) :
    '-' ∈ (Pattern.format precision.pattern date clock).toList.take 4 := by
  have hLength : (Text.padded 1 date.year).toList.length ≤ 3 := by
    have h : (Nat.toDigits 10 date.year).length ≤ 3 := by
      rw [Nat.length_toDigits_le_iff (by decide) (by decide)]
      exact hYear
    rw [Text.toList_padded, List.length_append, List.length_replicate]
    omega
  rw [toList_format, behindYear, List.mem_take_iff_getElem]
  refine ⟨(Text.padded 1 date.year).toList.length, ?_, ?_⟩
  · rw [List.length_append, List.length_cons]
    omega
  · simp

end Precision

/-! ### Marks -/

namespace Iso

/-- The characters that a day and a time to the second are written with. -/
def isMark (c : Char) : Bool := c.isDigit || (c == '-' || (c == ':' || c == 'T'))

theorem mark_cases {c : Char} (h : isMark c = true) :
    c.isDigit = true ∨ c = '-' ∨ c = ':' ∨ c = 'T' := by
  simpa only [isMark, Bool.or_eq_true, beq_iff_eq] using h

theorem isBlank_of_isMark {c : Char} (h : isMark c = true) : Text.isBlank c = false := by
  obtain hDigit | rfl | rfl | rfl := mark_cases h
  · exact Text.isBlank_of_isDigit hDigit
  all_goals decide

theorem toNat_lt_of_isMark {c : Char} (h : isMark c = true) : c.toNat < 128 := by
  obtain hDigit | rfl | rfl | rfl := mark_cases h
  · exact (Text.toNat_of_isDigit hDigit).2.trans_lt (by decide)
  all_goals decide

theorem ne_zulu_of_isMark {c : Char} (h : isMark c = true) : c ≠ 'Z' := by
  rintro rfl
  cases h

theorem isMark_of_mem_padded (width n : Nat) :
    ∀ c ∈ (Text.padded width n).toList, isMark c = true := by
  intro c hc
  rw [isMark, Text.isDigit_of_mem_padded hc, Bool.true_or]

theorem isMark_of_mem_toText {clock : Clock} (h : clock.microsecond = 0) :
    ∀ c ∈ clock.toText.toList, isMark c = true := by
  rw [Clock.toList_toText h]
  simp only [List.forall_mem_append, List.forall_mem_cons]
  exact ⟨isMark_of_mem_padded 2 clock.hour, by decide, isMark_of_mem_padded 2 clock.minute,
    by decide, isMark_of_mem_padded 2 clock.second⟩

theorem isMark_of_mem_behindDay (precision : Precision) (clock : Clock) :
    ∀ c ∈ precision.behindDay clock, isMark c = true := by
  cases precision with
  | day => exact fun _ h => nomatch h
  | second => exact List.forall_mem_cons.2 ⟨by decide, isMark_of_mem_toText rfl⟩

theorem isMark_of_mem_isoText (precision : Precision) (date : Date) (clock : Clock) :
    ∀ c ∈ (precision.isoText date clock).toList, isMark c = true := by
  rw [Precision.toList_isoText, date.toList_toText]
  simp only [List.forall_mem_append, List.forall_mem_cons]
  exact ⟨⟨isMark_of_mem_padded 4 date.year, by decide, isMark_of_mem_padded 2 date.month,
    by decide, isMark_of_mem_padded 2 date.day⟩, isMark_of_mem_behindDay precision clock⟩

theorem isMark_of_mem_format (precision : Precision) (date : Date) (clock : Clock) :
    ∀ c ∈ (Pattern.format precision.pattern date clock).toList, isMark c = true := by
  rw [Precision.toList_format, Precision.behindYear]
  simp only [List.forall_mem_append, List.forall_mem_cons]
  exact ⟨isMark_of_mem_padded 1 date.year, by decide, isMark_of_mem_padded 2 date.month,
    by decide, isMark_of_mem_padded 2 date.day, isMark_of_mem_behindDay precision clock⟩

/-! ### What is read -/

theorem withoutZulu_of_marks {cs : List Char} (h : ∀ c ∈ cs, isMark c = true) :
    withoutZulu cs = cs := by
  induction cs with
  | nil => rfl
  | cons c cs ih =>
    have hc : c ≠ 'Z' := ne_zulu_of_isMark (h c List.mem_cons_self)
    have hcs : withoutZulu cs = cs := ih fun d hd => h d (List.mem_cons_of_mem c hd)
    rw [withoutZulu, List.flatMap_cons, if_neg hc]
    exact congrArg (c :: ·) hcs

/-- Marks are read as they stand. -/
theorem withoutZulu_trimChars {cs : List Char} (h : ∀ c ∈ cs, isMark c = true) (hSome : cs ≠ []) :
    withoutZulu (Text.trimChars cs) = cs := by
  have hBare : Text.Bare cs := ⟨hSome, fun c hc => isBlank_of_isMark (h c hc)⟩
  rw [Text.trimChars_of_bare hBare, withoutZulu_of_marks h]

/-- A date takes up seven characters at least. -/
theorem exists_splitDate (cs : List Char) : ∃ k, 7 ≤ k ∧ splitDate cs = cs.splitAt k := by
  unfold splitDate
  split
  · split
    · exact ⟨8, by decide, rfl⟩
    · exact ⟨10, by decide, rfl⟩
  · exact ⟨10, by decide, rfl⟩
  · exact ⟨8, by decide, rfl⟩
  · exact ⟨7, by decide, rfl⟩
  · exact ⟨10, by decide, rfl⟩
  · split
    · exact ⟨8, by decide, rfl⟩
    · exact ⟨7, by decide, rfl⟩
  · exact ⟨8, by decide, rfl⟩

theorem take_splitDate (cs : List Char) : (splitDate cs).1.take 4 = cs.take 4 := by
  obtain ⟨k, hk, hSplit⟩ := exists_splitDate cs
  rw [hSplit, List.splitAt_eq, List.take_take, Nat.min_eq_left (by omega)]

theorem date?_eq_none {cs : List Char} {c : Char} (h : c ∈ cs.take 4) (hc : c.isDigit = false) :
    date? cs = none := by
  rw [date?, digits?_eq_none h hc]
  rfl

/-- Nothing is read from marks unless they start with a year of four digits. -/
theorem moment?_eq_none {text : String} (hMarks : ∀ c ∈ text.toList, isMark c = true)
    (h : '-' ∈ text.toList.take 4) : moment? text = none := by
  have hSome : text.toList ≠ [] := List.ne_nil_of_mem (List.mem_of_mem_take h)
  have hDate : date? (splitDate text.toList).1 = none :=
    date?_eq_none (c := '-') (by rwa [take_splitDate]) (by decide)
  rw [moment?, withoutZulu_trimChars hMarks hSome]
  simp [hDate]

/-- A date by months with hyphens takes up ten characters. -/
theorem splitDate_hyphens {year month day : List Char} (hYear : year.length = 4)
    (hMonth : month.length = 2) (hDigit : ∀ c ∈ month, c.isDigit = true) (hDay : day.length = 2)
    (rest : List Char) :
    splitDate (year ++ '-' :: (month ++ '-' :: day) ++ rest) =
      (year ++ '-' :: (month ++ '-' :: day), rest) := by
  obtain ⟨a, b, c, d, rfl⟩ := List.length_eq_four.1 hYear
  obtain ⟨m, n, rfl⟩ := List.length_eq_two.1 hMonth
  obtain ⟨p, q, rfl⟩ := List.length_eq_two.1 hDay
  have hm : m ≠ 'W' := by
    rintro rfl
    exact absurd (hDigit 'W' List.mem_cons_self) (by decide)
  show splitDate (a :: b :: c :: d :: '-' :: m :: n :: '-' :: p :: q :: rest) = _
  unfold splitDate
  split
  case h_5 =>
    rw [List.splitAt_eq]
    rfl
  case h_7 hNoHyphen _ => exact absurd rfl (hNoHyphen a b c d _)
  all_goals simp_all

theorem date?_hyphens {cs behind later rest : List Char} {year month day : Nat}
    (hYear : digits? 4 cs = some (year, '-' :: behind))
    (hMonth : digits? 2 behind = some (month, '-' :: later))
    (hDay : digits? 2 later = some (day, rest)) : date? cs = Date.of? year month day := by
  have hWeek : ∀ weeks, behind ≠ 'W' :: weeks := by
    rintro weeks rfl
    rw [digits?_eq_none (c := 'W') (by simp) (by decide)] at hMonth
    cases hMonth
  simp only [date?, hyphen?, hYear, Option.bind_eq_bind, Option.bind_some, List.head?_cons,
    decide_true, if_true, List.tail_cons]
  simp [hMonth, hDay]

theorem splitDate_toText (date : Date) (rest : List Char) :
    splitDate (date.toText.toList ++ rest) = (date.toText.toList, rest) := by
  obtain ⟨hYear, hMonth, hDay⟩ := date.bounds
  rw [date.toList_toText]
  exact splitDate_hyphens (Text.length_padded (by decide) hYear)
    (Text.length_padded (by decide) hMonth) (fun c => Text.isDigit_of_mem_padded)
    (Text.length_padded (by decide) hDay) rest

/-- A day is read back. -/
theorem date?_toText (date : Date) : date? date.toText.toList = some date := by
  obtain ⟨hYear, hMonth, hDay⟩ := date.bounds
  rw [date.toList_toText, ← date.of?_self]
  have hRest := digits?_padded (by decide) hDay []
  rw [List.append_nil] at hRest
  exact date?_hyphens (digits?_padded (by decide) hYear _) (digits?_padded (by decide) hMonth _)
    hRest

/-- A number of a time with a colon behind it. -/
theorem timeFrom?_colon {colons : Option Bool} (hColons : colons.getD true = true)
    (known : List Nat) (missing : Nat) {n : Nat} (h : n < 10 ^ 2) {later : List Char}
    (hLater : later ≠ []) :
    timeFrom? colons known (missing + 1) ((Text.padded 2 n).toList ++ ':' :: later) =
      timeFrom? (some true) (known ++ [n]) missing later := by
  obtain ⟨c, later, rfl⟩ := List.exists_cons_of_ne_nil hLater
  rw [timeFrom?, digits?_padded (by decide) h]
  simp [hColons]

theorem timeFrom?_end (colons : Option Bool) (known : List Nat) (missing : Nat) {n : Nat}
    (h : n < 10 ^ 2) :
    let known' := known ++ [n]
    timeFrom? colons known (missing + 1) (Text.padded 2 n).toList =
      some ⟨known'.getD 0 0, known'.getD 1 0, known'.getD 2 0, 0, true⟩ := by
  intro known'
  have hDigits := digits?_padded (by decide) h []
  rw [List.append_nil] at hDigits
  rw [timeFrom?, hDigits]
  rfl

theorem time?_toText {clock : Clock} (h : clock.microsecond = 0) :
    time? clock.toText.toList = some ⟨clock.hour, clock.minute, clock.second, 0, true⟩ := by
  obtain ⟨hHour, hMinute, hSecond⟩ := clock.bounds
  have hLater : (Text.padded 2 clock.second).toList ≠ [] := by
    rw [← List.length_pos_iff, Text.length_padded (by decide) hSecond]
    decide
  rw [Clock.toList_toText h, time?, timeFrom?_colon rfl [] 2 hHour (by simp),
    timeFrom?_colon rfl _ 1 hMinute hLater, timeFrom?_end _ _ 0 hSecond]
  rfl

/-- A time of whole seconds is read back. -/
theorem clock?_toText {clock : Clock} (h : clock.microsecond = 0) :
    clock? clock.toText.toList = some clock := by
  have hDigits (n : Nat) :
      ∀ c ∈ (Text.padded 2 n).toList, (!decide (c = '+' ∨ c = '-')) = true := by
    intro c hc
    rw [Bool.not_eq_true', decide_eq_false_iff_not]
    rintro (rfl | rfl) <;> exact absurd (Text.isDigit_of_mem_padded hc) (by decide)
  have hSign : ∀ c ∈ clock.toText.toList, (!decide (c = '+' ∨ c = '-')) = true := by
    rw [Clock.toList_toText h]
    simp only [List.forall_mem_append, List.forall_mem_cons]
    exact ⟨hDigits clock.hour, by decide, hDigits clock.minute, by decide, hDigits clock.second⟩
  unfold clock?
  dsimp only
  rw [List.takeWhile_eq_self_iff.2 hSign, List.dropWhile_eq_nil_iff.2 hSign, time?_toText h]
  show Clock.of? clock.hour clock.minute clock.second 0 = some clock
  rw [← h, Clock.of?_self]

/-- A moment is read back up to what is left of it. -/
theorem moment?_isoText (precision : Precision) (date : Date) (clock : Clock) :
    moment? (precision.isoText date clock) = some (date, precision.clock clock) := by
  have hMarks := isMark_of_mem_isoText precision date clock
  have hLength : ¬ (precision.isoText date clock).toList.length < 7 := by
    rw [Precision.toList_isoText, List.length_append, date.length_toText]
    omega
  have hSome : (precision.isoText date clock).toList ≠ [] := by
    intro hNil
    rw [hNil] at hLength
    exact hLength (by decide)
  rw [moment?, withoutZulu_trimChars hMarks hSome]
  dsimp only
  rw [if_neg hLength, Precision.toList_isoText, splitDate_toText]
  dsimp only
  rw [date?_toText]
  cases precision with
  | day => rfl
  | second =>
    have hWhole : clock.toSecond.microsecond = 0 := rfl
    have hUnits : Text.units clock.toSecond.toText.toList = clock.toSecond.toText.toList :=
      Text.units_of_ascii fun c hc => toNat_lt_of_isMark (isMark_of_mem_toText hWhole c hc)
    simp [Precision.behindDay, Precision.clock, hUnits, clock?_toText hWhole]

end Iso

end Calendar

namespace Helper

open Calendar

variable {machine : Machine} {value : Value} {date : Date} {clock : Clock} {form : Option Value}
  {precision : Precision}

theorem moment?_text (s : String) : moment? machine (.text s) = Iso.moment? s := rfl

theorem act_formatDate (hMoment : moment? machine value = some (date, clock))
    (hForm : pattern (form.getD .null) = precision.pattern) :
    (formatDate machine).act (value :: form.toList) =
      .done (.text (Pattern.format precision.pattern date clock)) := by
  rw [formatDate, act_binary, hMoment, ← hForm]
  rfl

theorem act_formatDate_of_none (hMoment : moment? machine value = none) :
    (formatDate machine).act (value :: form.toList) = .done (.text "") := by
  rw [formatDate, act_binary, hMoment]
  rfl

/-- A text with a year of four digits is written as it stands. -/
theorem act_formatDate_isoText (hYear : 1000 ≤ date.year)
    (hForm : pattern (form.getD .null) = precision.pattern) :
    (formatDate machine).act (.text (precision.isoText date clock) :: form.toList) =
      .done (.text (precision.isoText date clock)) := by
  have hMoment : moment? machine (.text (precision.isoText date clock)) =
      some (date, precision.clock clock) := Iso.moment?_isoText precision date clock
  rw [act_formatDate hMoment hForm, precision.format_eq_isoText hYear, precision.isoText_clock]

/-- A date is written, read and written again as it was exactly if its year has four digits. Then
the text is that of ISO 8601 and stands for the same day, and for the same second of it if the time
is written. Otherwise nothing is read from the text. -/
theorem formatDate_again_iff (hMoment : moment? machine value = some (date, clock))
    (hForm : pattern (form.getD .null) = precision.pattern) :
    ∃ written, (formatDate machine).act (value :: form.toList) = .done (.text written) ∧
      ((formatDate machine).act (.text written :: form.toList) = .done (.text written) ↔
        1000 ≤ date.year) ∧
      (1000 ≤ date.year → written = precision.isoText date clock ∧
        moment? machine (.text written) = some (date, precision.clock clock)) ∧
      (date.year < 1000 → moment? machine (.text written) = none ∧
        (formatDate machine).act (.text written :: form.toList) = .done (.text "")) := by
  refine ⟨_, act_formatDate hMoment hForm, ?_⟩
  by_cases hYear : 1000 ≤ date.year
  · have hAgain : (formatDate machine).act (.text (precision.isoText date clock) :: form.toList) = _ :=
      act_formatDate_isoText hYear hForm
    rw [precision.format_eq_isoText hYear]
    exact ⟨iff_of_true hAgain hYear,
      fun _ => ⟨rfl, Iso.moment?_isoText precision date clock⟩, fun h => absurd hYear (by omega)⟩
  · have hEarly : date.year < 1000 := Nat.lt_of_not_le hYear
    have hHyphen := precision.hyphen_mem_take_format hEarly clock
    have hNone : moment? machine (.text (Pattern.format precision.pattern date clock)) = none := by
      rw [moment?_text]
      exact Iso.moment?_eq_none (Iso.isMark_of_mem_format precision date clock) hHyphen
    have hAgain : (formatDate machine).act (_ :: form.toList) = _ := act_formatDate_of_none hNone
    refine ⟨iff_of_false (fun h => ?_) hYear, fun h => absurd h hYear, fun _ => ⟨hNone, hAgain⟩⟩
    rw [hAgain] at h
    injection h with hText
    injection hText with hEmpty
    rw [← hEmpty] at hHyphen
    cases hHyphen

def leapDay : Date := ⟨2024, 2, 29, by decide⟩

def morning : Clock := ⟨9, 5, 1, 250000, by decide⟩

/-- The fraction of a second is not written. -/
theorem formatDate_again_iff_morning :
    moment? .small (.moment ⟨leapDay, morning, none⟩) = some (leapDay, morning) ∧
      pattern (.text "YYYY-MM-DDTHH:mm:ss") = Precision.second.pattern ∧
      (formatDate .small).act [.text "2024-02-29T09:05:01", .text "YYYY-MM-DDTHH:mm:ss"] =
        .done (.text "2024-02-29T09:05:01") ∧
      moment? .small (.text "2024-02-29T09:05:01") = some (leapDay, morning.toSecond) := by
  obtain ⟨written, -, hAgain, hRead, -⟩ :=
    @formatDate_again_iff .small (.moment ⟨leapDay, morning, none⟩) leapDay morning
      (some (.text "YYYY-MM-DDTHH:mm:ss")) .second rfl rfl
  obtain ⟨hText, hMoment⟩ := hRead (by decide)
  have hIso : Precision.second.isoText leapDay morning = "2024-02-29T09:05:01" := by decide
  rw [hText, hIso] at hAgain hMoment
  exact ⟨rfl, rfl, hAgain.2 (by decide), hMoment⟩

def earlyDay : Date := ⟨999, 1, 2, by decide⟩

/-- A day of the year before the year 1000 is written, but not read. -/
theorem formatDate_not_again :
    (formatDate .small).act [.date earlyDay] = .done (.text "999-01-02") ∧
      (formatDate .small).act [.text "999-01-02"] = .done (.text "") :=
  ⟨rfl, rfl⟩

end Helper

end Stencil
