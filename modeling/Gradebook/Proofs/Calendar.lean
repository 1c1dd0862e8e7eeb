/-
# Gradebook.Proofs.Calendar — dates and written instants read back

The calendar repeats after an era of 400 years, 146097 days. Years start in March here
(`yearStart`, `monthStart`), so that only the last day of a year can be a leap day.
`dateOfDays_spec` says that the date of a day exists and is that day.

The text of an instant is read as that instant (`ofText?_text`) if the calendar covers it
(`Representable`): its year is one of the calendar's, and a leap second stands at the end of
a minute. The reader gives no other instants (`representable_of_ofText?`).
-/
import Gradebook.Instant.Reading
import Gradebook.Proofs.Numerals

namespace Gradebook.Instant

set_option autoImplicit false

/-! ## Days and dates -/

/-- The days of an era before one of its years. -/
def yearStart (year : Nat) : Nat := 365 * year + year / 4 - year / 100

/-- The year of a day of an era. -/
def yearOf (day : Nat) : Nat := (day - day / 1460 + day / 36524 - day / 146096) / 365

theorem yearOf_mono {m n : Nat} (h : m ≤ n) (era : n < 146097) : yearOf m ≤ yearOf n := by
  have fours : m - m / 1460 ≤ n - n / 1460 := by omega
  have hundreds : m / 36524 - m / 146096 ≤ n / 36524 - n / 146096 := by omega
  unfold yearOf
  omega

/-- The first day of a year, and the last day before it. -/
theorem yearOf_bounds : ∀ year < 400, yearOf (yearStart year) = year ∧
    (year ≠ 0 → yearOf (yearStart year - 1) = year - 1) := by decide +kernel

/-- A year has 365 days or, if the next year has a leap day, 366. -/
theorem yearStart_succ (year : Nat) : yearStart (year + 1) ≤ yearStart year + 365 ∨
    yearStart (year + 1) = yearStart year + 366 ∧ (year + 1) % 4 = 0 ∧ (year + 1) % 100 ≠ 0 := by
  unfold yearStart
  omega

section Era

variable {day : Nat} (era : day < 146097)
include era

theorem yearOf_lt : yearOf day < 400 := by
  unfold yearOf
  omega

theorem yearStart_yearOf_le : yearStart (yearOf day) ≤ day := by
  refine Nat.le_of_not_lt fun early => ?_
  have nonzero : yearOf day ≠ 0 := fun zero => by
    rw [zero] at early
    exact absurd early (Nat.not_lt_zero _)
  have last := (yearOf_bounds _ (yearOf_lt era)).2 nonzero
  have start : yearStart (yearOf day) ≤ 146097 := by
    have := yearOf_lt era
    unfold yearStart
    omega
  have before : yearOf day ≤ yearOf (yearStart (yearOf day) - 1) :=
    yearOf_mono (by omega) (by omega)
  omega

theorem lt_yearStart (h : yearOf day ≠ 399) : day < yearStart (yearOf day + 1) := by
  refine Nat.lt_of_not_le fun late => ?_
  have next := (yearOf_bounds (yearOf day + 1) (by have := yearOf_lt era; omega)).1
  have := yearOf_mono late era
  omega

/-- A day is one of the 366 days of its year, the last one only before a leap day's year. -/
theorem day_of_year : day - yearStart (yearOf day) < 366 ∧
    (day - yearStart (yearOf day) = 365 → (yearOf day + 1) % 4 = 0 ∧
      ((yearOf day + 1) % 100 ≠ 0 ∨ (yearOf day + 1) % 400 = 0)) := by
  by_cases last : yearOf day = 399
  · rw [last]
    exact ⟨by unfold yearStart; omega, fun _ => by decide⟩
  · have before := lt_yearStart era last
    rcases yearStart_succ (yearOf day) with short | ⟨long, fourth, hundredth⟩
    · exact ⟨by omega, fun _ => by omega⟩
    · exact ⟨by omega, fun _ => ⟨fourth, .inl hundredth⟩⟩

end Era

/-- The month, counted from March, of a day of a year. -/
def monthOf (day : Nat) : Nat := (5 * day + 2) / 153

def monthStart (month : Nat) : Nat := (153 * month + 2) / 5

/-- The calendar's number of a month counted from March. -/
def calendarMonth (month : Nat) : Nat := if month < 10 then month + 3 else month - 9

/-- The calendar's year of a month of a year that starts in March. -/
def calendarYear (year : Int) (month : Nat) : Int :=
  if calendarMonth month ≤ 2 then year + 1 else year

/-- No month begins after its days or ends before them; February can be long in any year
here. -/
theorem monthOf_spec : ∀ day < 366, monthOf day ≤ 11 ∧ monthStart (monthOf day) ≤ day ∧
    (monthOf day ≠ 11 →
      day - monthStart (monthOf day) + 1 ≤ daysInMonth 1 (calendarMonth (monthOf day))) ∧
    (monthOf day = 11 → day - monthStart 11 + 1 ≤ if day = 365 then 29 else 28) := by
  decide +kernel

theorem dateOfDays_eq {days era : Int} {day : Nat} (inside : day < 146097)
    (h : days + 719468 = era * 146097 + day) :
    dateOfDays days =
      (calendarYear ((yearOf day : Int) + era * 400) (monthOf (day - yearStart (yearOf day))),
        calendarMonth (monthOf (day - yearStart (yearOf day))),
        day - yearStart (yearOf day) -
          monthStart (monthOf (day - yearStart (yearOf day))) + 1) := by
  have eras : (days + 719468).fdiv 146097 = era := by
    rw [Int.fdiv_eq_ediv_of_nonneg _ (by decide)]
    omega
  have days : (days + 719468 - era * 146097).toNat = day := by omega
  simp only [dateOfDays, eras, days]
  rfl

theorem daysOfDate_eq {era : Int} {year month : Nat} (inside : year < 400) (months : month ≤ 11)
    (day : Nat) :
    daysOfDate (calendarYear ((year : Int) + era * 400) month) (calendarMonth month) (day + 1) =
      era * 146097 + (yearStart year + (monthStart month + day) : Nat) - 719468 := by
  have years : (if calendarMonth month ≤ 2 then calendarYear ((year : Int) + era * 400) month - 1
      else calendarYear ((year : Int) + era * 400) month) = (year : Int) + era * 400 := by
    unfold calendarYear
    split <;> omega
  have eras : ((year : Int) + era * 400).fdiv 400 = era := by
    rw [Int.fdiv_eq_ediv_of_nonneg _ (by decide)]
    omega
  have shifted : (calendarMonth month + 9) % 12 = month := by
    unfold calendarMonth
    split <;> omega
  simp only [daysOfDate, years, eras, shifted, yearStart, monthStart]
  omega

theorem isLeapYear_of {year : Nat} (era : Int) (fourth : (year + 1) % 4 = 0)
    (hundredth : (year + 1) % 100 ≠ 0 ∨ (year + 1) % 400 = 0) :
    isLeapYear ((year : Int) + era * 400 + 1) = true := by
  simp only [isLeapYear, Bool.and_eq_true, Bool.or_eq_true, decide_eq_true_eq]
  omega

/-- Only February has not the same length every year. -/
theorem daysInMonth_eq (year : Int) {month : Nat} (h : month ≠ 2) :
    daysInMonth year month = daysInMonth 1 month := by
  unfold daysInMonth
  split <;> first | rfl | exact absurd rfl h

/-- **The date of a day exists, and lies as many days after 1970-01-01 as the day.** -/
theorem dateOfDays_spec (days : Int) : ∃ year month day, dateOfDays days = (year, month, day) ∧
    1 ≤ month ∧ month ≤ 12 ∧ 1 ≤ day ∧ day ≤ daysInMonth year month ∧
    daysOfDate year month day = days := by
  obtain ⟨era, n, inside, total⟩ : ∃ (era : Int) (n : Nat), n < 146097 ∧
      days + 719468 = era * 146097 + n :=
    ⟨(days + 719468) / 146097, ((days + 719468) % 146097).toNat, by omega, by omega⟩
  obtain ⟨within, leap⟩ := day_of_year inside
  obtain ⟨months, begun, others, february⟩ := monthOf_spec _ within
  have started := yearStart_yearOf_le inside
  refine ⟨_, _, _, dateOfDays_eq inside total, ?_, ?_, Nat.le_add_left .., ?_, ?_⟩
  · unfold calendarMonth
    split <;> omega
  · unfold calendarMonth
    split <;> omega
  · by_cases last : monthOf (n - yearStart (yearOf n)) = 11
    · have short := february last
      rw [last]
      refine Nat.le_trans short ?_
      show _ ≤ if isLeapYear ((yearOf n : Int) + era * 400 + 1) then 29 else 28
      split
      · next long =>
        obtain ⟨fourth, hundredth⟩ := leap long
        exact Nat.le_of_eq (if_pos (isLeapYear_of era fourth hundredth)).symm
      · split <;> omega
    · rw [daysInMonth_eq]
      · exact others last
      · unfold calendarMonth
        split <;> omega
  · rw [daysOfDate_eq (yearOf_lt inside) months]
    omega

/-! ## Parts of a written instant -/

open Gradebook.Decimal
open Gradebook.Text (isBlank dropBlanks)

theorem isBlank_digit {c : Char} (digit : c.isDigit = true) : isBlank c = false := by
  have range : 48 ≤ c.toNat ∧ c.toNat ≤ 57 := by
    simp only [Char.isDigit, Bool.and_eq_true, decide_eq_true_eq] at digit
    exact digit
  simp only [isBlank, Bool.or_eq_false_iff, Bool.and_eq_false_iff, beq_eq_false_iff_ne,
    decide_eq_false_iff_not]
  omega

theorem dropBlanks_cons {c : Char} (h : isBlank c = false) (rest : List Char) :
    dropBlanks (c :: rest) = c :: rest := by simp [dropBlanks, h]

theorem dropBlanks_digits {digits : List Char} (h : Digits digits) (some : digits ≠ [])
    (rest : List Char) : dropBlanks (digits ++ rest) = digits ++ rest := by
  obtain ⟨c, cs, rfl⟩ := List.exists_cons_of_ne_nil some
  exact dropBlanks_cons (isBlank_digit (h c List.mem_cons_self)) _

/-- A number that fills its width is read whole. -/
theorem number?_padded {width n : Nat} (wide : 0 < width) (h : n < Nat.pow 10 width)
    (rest : List Char) :
    number? width ((paddedText width n).toList ++ rest) = some (n, rest) := by
  have digits := digits_paddedText width n
  have long := length_paddedText wide h
  have value := numberOf_paddedText width n
  generalize (paddedText width n).toList = text at digits long value
  have some : text ≠ [] := by
    rintro rfl
    exact absurd long (Nat.ne_of_lt wide)
  have taken : (text ++ rest).take width = text := by rw [← long, List.take_left]
  have dropped : (text ++ rest).drop text.length = rest := List.drop_left
  have all : text.takeWhile Char.isDigit = text := by
    have := takeWhile_digits digits pastDigits_nil
    rwa [List.append_nil] at this
  simp [number?, dropBlanks_digits digits some, taken, dropped, all, some, value]

theorem mark?_cons {mark : Char} (h : isBlank mark = false) (rest : List Char) :
    mark? mark (mark :: rest) = some rest := by
  simp [mark?, dropBlanks_cons h]

theorem signedYear?_digits {digits rest : List Char} (h : Digits digits) (some : digits ≠ [])
    (past : PastDigits rest) :
    year?.signedYear? (digits ++ rest) = Option.some (numberOf digits, rest) := by
  simp [year?.signedYear?, takeWhile_digits h past, some]

theorem year?_minus (rest : List Char) :
    year? ('-' :: rest) = (year?.signedYear? rest).map fun r => (-(r.1 : Int), r.2) := by
  unfold year?
  rw [dropBlanks_cons rfl]
  rfl

theorem year?_plus (rest : List Char) :
    year? ('+' :: rest) = (year?.signedYear? rest).map fun r => ((r.1 : Int), r.2) := by
  unfold year?
  rw [dropBlanks_cons rfl]
  rfl

theorem year?_digit {c : Char} (digit : c.isDigit = true) (rest : List Char) :
    year? (c :: rest) = (number? 4 (c :: rest)).map fun r => ((r.1 : Int), r.2) := by
  unfold year?
  rw [dropBlanks_cons (isBlank_digit digit)]
  split
  case h_3 => rfl
  all_goals
    next same =>
      cases same
      exact absurd digit (by decide)

/-- A written year is read as itself. -/
theorem year?_text (year : Int) (rest : List Char) :
    year? ((yearText year).toList ++ '-' :: rest) = some (year, '-' :: rest) := by
  have digits (n : Nat) := digits_paddedText 4 n
  have nonempty (n : Nat) : (paddedText 4 n).toList ≠ [] := fun none => by
    have := le_length_paddedText 4 n
    rw [none] at this
    exact absurd this (by decide)
  unfold yearText
  split
  · next plain =>
    have short : year.toNat < 10000 := by omega
    have read : number? 4 ((paddedText 4 year.toNat).toList ++ '-' :: rest) =
        some (year.toNat, '-' :: rest) := number?_padded (by decide) short _
    obtain ⟨c, cs, leading⟩ := List.exists_cons_of_ne_nil (nonempty year.toNat)
    have digit : c.isDigit = true := digits year.toNat c (leading ▸ List.mem_cons_self)
    rw [leading, List.cons_append] at read
    rw [leading, List.cons_append, year?_digit digit, read, Option.map_some,
      Int.toNat_of_nonneg plain.1]
  · have past : PastDigits ('-' :: rest) := pastDigits_cons rfl
    have read (n : Nat) := signedYear?_digits (digits n) (nonempty n) past
    have minus : "-".toList = ['-'] := rfl
    have plus : "+".toList = ['+'] := rfl
    split
    · next negative =>
      rw [String.toList_append, minus, List.append_assoc, List.singleton_append, year?_minus, read,
        numberOf_paddedText, Option.map_some]
      have : -(year.natAbs : Int) = year := by omega
      rw [this]
    · rw [String.toList_append, plus, List.append_assoc, List.singleton_append, year?_plus, read,
        numberOf_paddedText, Option.map_some]
      have : (year.natAbs : Int) = year := by omega
      rw [this]

theorem fraction?_padded {width n : Nat} (wide : 0 < width) (narrow : width ≤ 9)
    (h : n < Nat.pow 10 width) {rest : List Char} (past : PastDigits rest) :
    fraction? ('.' :: ((paddedText width n).toList ++ rest)) =
      some (n * Nat.pow 10 (9 - width), rest) := by
  have digits := digits_paddedText width n
  have long := length_paddedText wide h
  have value := numberOf_paddedText width n
  generalize (paddedText width n).toList = text at digits long value
  have some : text ≠ [] := by
    rintro rfl
    exact absurd long (Nat.ne_of_lt wide)
  have all : text.take 9 = text := List.take_of_length_le (by omega)
  simp [fraction?, takeWhile_digits digits past, all, long, some, value]

/-- A fraction is less than a second. -/
theorem fraction?_lt {text rest : List Char} {nanoseconds : Nat}
    (h : fraction? text = some (nanoseconds, rest)) : nanoseconds < 1000000000 := by
  unfold fraction? at h
  split at h
  · next text =>
    simp only [Option.ite_none_left_eq_some, Option.some.injEq, Prod.mk.injEq] at h
    obtain ⟨-, rfl, -⟩ := h
    generalize kept : (text.takeWhile Char.isDigit).take 9 = digits
    have all : Digits digits := fun c member => by
      rw [← kept] at member
      exact List.all_eq_true.1 List.all_takeWhile c (List.mem_of_mem_take member)
    have short : digits.length ≤ 9 := by
      rw [← kept]
      exact List.length_take_le ..
    calc numberOf digits * Nat.pow 10 (9 - digits.length)
      _ < 10 ^ digits.length * 10 ^ (9 - digits.length) :=
          Nat.mul_lt_mul_of_pos_right (numberOf_lt all) (Nat.pow_pos (by decide))
      _ = 1000000000 := by rw [← Nat.pow_add, Nat.add_sub_cancel' short]
  · cases h
    decide

/-- An offset is a whole number of minutes. -/
theorem offset?_minutes {text rest : List Char} {offset : Int}
    (h : offset? text = some (offset, rest)) : offset % 60 = 0 := by
  unfold offset? at h
  split at h
  · split at h
    · cases h
      decide
    split at h
    · cases h
      decide
    split at h
    · simp only [Option.bind_eq_bind, Option.bind_eq_some_iff, Option.some.injEq,
        Prod.mk.injEq] at h
      obtain ⟨⟨hours, _⟩, -, ⟨minutes, _⟩, -, rfl, -⟩ := h
      split <;> omega
    · cases h
  · cases h

/-- A written fraction is read as its nanoseconds. -/
theorem fraction?_text {nanoseconds : Nat} (h : nanoseconds < 1000000000) (rest : List Char) :
    fraction? ((fractionText nanoseconds).toList ++ 'Z' :: rest) =
      some (nanoseconds, 'Z' :: rest) := by
  have past : PastDigits ('Z' :: rest) := pastDigits_cons rfl
  have point (s : String) : ("." ++ s).toList = '.' :: s.toList := by simp
  unfold fractionText
  split
  · next none =>
    subst none
    rfl
  split
  · have short : nanoseconds / 1000000 < 1000 := by omega
    have exact : nanoseconds / 1000000 * Nat.pow 10 (9 - 3) = nanoseconds := by
      show _ * 1000000 = _
      omega
    rw [point, List.cons_append, fraction?_padded (by decide) (by decide) short past, exact]
  split
  · have short : nanoseconds / 1000 < 1000000 := by omega
    have exact : nanoseconds / 1000 * Nat.pow 10 (9 - 6) = nanoseconds := by
      show _ * 1000 = _
      omega
    rw [point, List.cons_append, fraction?_padded (by decide) (by decide) short past, exact]
  · have exact : nanoseconds * Nat.pow 10 (9 - 9) = nanoseconds := Nat.mul_one _
    rw [point, List.cons_append, fraction?_padded (by decide) (by decide) h past, exact]

/-! ## Instants -/

/-- The instants the calendar covers. A leap second is the last of its minute. -/
structure Representable (t : Instant) : Prop where
  least : leastYear ≤ (dateOfDays (t.seconds.fdiv 86400)).1
  greatest : (dateOfDays (t.seconds.fdiv 86400)).1 ≤ greatestYear
  nanoseconds : t.nanoseconds < 2000000000
  leap : 1000000000 ≤ t.nanoseconds → t.seconds % 60 = 59

instance (t : Instant) : Decidable t.Representable :=
  decidable_of_iff (leastYear ≤ (dateOfDays (t.seconds.fdiv 86400)).1 ∧
      (dateOfDays (t.seconds.fdiv 86400)).1 ≤ greatestYear ∧ t.nanoseconds < 2000000000 ∧
      (1000000000 ≤ t.nanoseconds → t.seconds % 60 = 59))
    ⟨fun ⟨a, b, c, d⟩ => ⟨a, b, c, d⟩, fun ⟨a, b, c, d⟩ => ⟨a, b, c, d⟩⟩

theorem lt_of_isDate {year : Int} {month day : Nat} (h : isDate year month day = true) :
    month < 100 ∧ day < 100 := by
  simp only [isDate, Bool.and_eq_true, decide_eq_true_eq] at h
  have short : daysInMonth year month < 100 := by
    unfold daysInMonth
    repeat' split
    all_goals decide
  omega

/-- A text that is made of parts is read part by part. -/
theorem ofText?_of_parts {s : String} {year : Int} {month day hour minute second n : Nat}
    {t : Instant}
    (text : s.toList = (yearText year).toList ++ '-' :: ((paddedText 2 month).toList ++
      '-' :: ((paddedText 2 day).toList ++ 'T' :: ((paddedText 2 hour).toList ++
      ':' :: ((paddedText 2 minute).toList ++ ':' :: ((paddedText 2 second).toList ++
      ((fractionText n).toList ++ ['Z'])))))))
    (date : isDate year month day = true) (hours : hour ≤ 23) (minutes : minute ≤ 59)
    (seconds : second ≤ 60) (fraction : n < 1000000000)
    (whole : ofParts year month day hour minute (if second = 60 then 59 else second)
      (if second = 60 then n + 1000000000 else n) = t)
    (least : leastYear ≤ (dateOfDays (t.seconds.fdiv 86400)).1)
    (greatest : (dateOfDays (t.seconds.fdiv 86400)).1 ≤ greatestYear) : ofText? s = some t := by
  obtain ⟨months, days⟩ := lt_of_isDate date
  have two {k : Nat} (h : k < 100) (rest : List Char) :
      number? 2 ((paddedText 2 k).toList ++ rest) = some (k, rest) :=
    number?_padded (by decide) h rest
  have hyphen (rest : List Char) : mark? '-' ('-' :: rest) = some rest := mark?_cons rfl rest
  have colon (rest : List Char) : mark? ':' (':' :: rest) = some rest := mark?_cons rfl rest
  have valid : (!isDate year month day || decide (23 < hour) || decide (59 < minute) ||
      decide (60 < second)) = false := by
    simp only [date, Bool.not_true, Bool.false_or, Bool.or_eq_false_iff, decide_eq_false_iff_not]
    omega
  rw [ofText?, text]
  refine Option.bind_eq_some_iff.2 ⟨_, year?_text year _, ?_⟩
  refine Option.bind_eq_some_iff.2 ⟨_, hyphen _, ?_⟩
  refine Option.bind_eq_some_iff.2 ⟨_, two months _, ?_⟩
  refine Option.bind_eq_some_iff.2 ⟨_, hyphen _, ?_⟩
  refine Option.bind_eq_some_iff.2 ⟨_, two days _, ?_⟩
  refine Option.bind_eq_some_iff.2 ⟨_, rfl, ?_⟩
  refine Option.bind_eq_some_iff.2 ⟨_, two (by omega) _, ?_⟩
  refine Option.bind_eq_some_iff.2 ⟨_, colon _, ?_⟩
  refine Option.bind_eq_some_iff.2 ⟨_, two (by omega) _, ?_⟩
  refine Option.bind_eq_some_iff.2 ⟨_, colon _, ?_⟩
  refine Option.bind_eq_some_iff.2 ⟨_, two (by omega) _, ?_⟩
  refine Option.bind_eq_some_iff.2 ⟨_, fraction?_text fraction [], ?_⟩
  refine Option.bind_eq_some_iff.2 ⟨(0, []), rfl, ?_⟩
  have empty : (!(dropBlanks []).isEmpty) = false := rfl
  have near : ¬86400 ≤ Int.natAbs 0 := by decide
  simp only [empty, valid, whole, near, Int.sub_zero, least, greatest, and_self, if_true,
    Bool.false_eq_true, if_false]

/-- **The text of an instant is read as that instant.** -/
theorem ofText?_text {t : Instant} (h : t.Representable) : ofText? t.text = some t := by
  obtain ⟨least, greatest, nanoseconds, leap⟩ := h
  obtain ⟨year, month, day, date, first, last, started, ended, same⟩ :=
    dateOfDays_spec (t.seconds.fdiv 86400)
  obtain ⟨n, below, seconds⟩ : ∃ n : Nat, n < 86400 ∧
      t.seconds = t.seconds.fdiv 86400 * 86400 + n := by
    rw [Int.fdiv_eq_ediv_of_nonneg _ (by decide)]
    exact ⟨(t.seconds % 86400).toNat, by omega, by omega⟩
  have ofDay : (t.seconds - t.seconds.fdiv 86400 * 86400).toNat = n := by omega
  -- A leap second shows as second 60, and second 60 is read as a leap second.
  obtain ⟨second, shown, minute, plain, fraction⟩ : ∃ second,
      (n % 60 + if 1000000000 ≤ t.nanoseconds then 1 else 0) = second ∧ second ≤ 60 ∧
      (if second = 60 then 59 else second) = n % 60 ∧
      (if second = 60 then t.nanoseconds % 1000000000 + 1000000000
        else t.nanoseconds % 1000000000) = t.nanoseconds := by
    refine ⟨_, rfl, ?_⟩
    split
    · next late =>
      have last := leap late
      rw [if_pos (by omega), if_pos (by omega)]
      omega
    · rw [if_neg (by omega), if_neg (by omega)]
      omega
  have existing : isDate year month day = true := by
    simp only [isDate, Bool.and_eq_true, decide_eq_true_eq]
    rw [date] at least greatest
    exact ⟨⟨⟨⟨⟨least, greatest⟩, first⟩, last⟩, started⟩, ended⟩
  have whole : ofParts year month day (n / 3600) (n / 60 % 60) (n % 60) t.nanoseconds = t := by
    have : ((n / 3600 * 3600 + n / 60 % 60 * 60 + n % 60 : Nat) : Int) = n := by omega
    rw [ofParts, same, this, ← seconds]
  have text : t.text.toList = (yearText year).toList ++ '-' :: ((paddedText 2 month).toList ++
      '-' :: ((paddedText 2 day).toList ++ 'T' :: ((paddedText 2 (n / 3600)).toList ++
      ':' :: ((paddedText 2 (n / 60 % 60)).toList ++ ':' :: ((paddedText 2 second).toList ++
      ((fractionText (t.nanoseconds % 1000000000)).toList ++ ['Z'])))))) := by
    simp [Instant.text, textWithZone, date, ofDay, shown]
  refine ofText?_of_parts text existing (by omega) (by omega) minute (by omega) ?_ least greatest
  rw [plain, fraction, whole]

/-- **A text that is read gives an instant of the calendar.** -/
theorem representable_of_ofText? {s : String} {t : Instant} (h : ofText? s = some t) :
    t.Representable := by
  rw [ofText?] at h
  obtain ⟨⟨year, _⟩, -, h⟩ := Option.bind_eq_some_iff.1 h
  obtain ⟨_, -, h⟩ := Option.bind_eq_some_iff.1 h
  obtain ⟨⟨month, _⟩, -, h⟩ := Option.bind_eq_some_iff.1 h
  obtain ⟨_, -, h⟩ := Option.bind_eq_some_iff.1 h
  obtain ⟨⟨day, _⟩, -, h⟩ := Option.bind_eq_some_iff.1 h
  obtain ⟨_, -, h⟩ := Option.bind_eq_some_iff.1 h
  obtain ⟨⟨hour, _⟩, -, h⟩ := Option.bind_eq_some_iff.1 h
  obtain ⟨_, -, h⟩ := Option.bind_eq_some_iff.1 h
  obtain ⟨⟨minute, _⟩, -, h⟩ := Option.bind_eq_some_iff.1 h
  obtain ⟨_, -, h⟩ := Option.bind_eq_some_iff.1 h
  obtain ⟨⟨second, _⟩, -, h⟩ := Option.bind_eq_some_iff.1 h
  obtain ⟨⟨nanoseconds, _⟩, fraction, h⟩ := Option.bind_eq_some_iff.1 h
  obtain ⟨⟨offset, _⟩, zone, h⟩ := Option.bind_eq_some_iff.1 h
  have fraction := fraction?_lt fraction
  have zone := offset?_minutes zone
  simp only [Option.ite_none_left_eq_some, Option.ite_none_right_eq_some, Option.some.injEq] at h
  obtain ⟨-, parts, -, covered, rfl⟩ := h
  simp only [Bool.or_eq_true, not_or, decide_eq_true_eq] at parts
  refine ⟨covered.1, covered.2, ?_, ?_⟩
  · simp only [ofParts]
    split <;> omega
  · simp only [ofParts]
    split <;> omega

end Gradebook.Instant
