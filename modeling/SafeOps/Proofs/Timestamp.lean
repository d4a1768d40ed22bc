import Mathlib.Tactic.Ring
import SafeOps.Proofs.Quantity
import SafeOps.Timestamp

/-!
# `SafeOps.Proofs.Timestamp`: moments, counted on the calendar and read out of texts

A moment is a number of seconds since the start of 1970. Its date is found by going from one day
to the next (`dateAfter`), and `days_dateAfter` says that the days of a date, which are computed,
count the steps.

`Denotes` are the texts of a moment: its date and its time of day in decimal digits, a fraction
that is zero, if any, and a mark for the standard time. The reader takes each part off the front
and goes on with what follows, so the lemmas about the parts have any text behind them.
`read_of_denotes` puts them together: each of these texts is read as the moment.
-/

set_option autoImplicit false

namespace SafeOps.Timestamp

/-! ### Days -/

namespace Date

/-- The days of the month a date is in. -/
def monthLength (d : Date) : Nat :=
  (monthLengths d.year).getD (d.month - 1) 0

/-- The day after a date. -/
def next (d : Date) : Date :=
  if d.day < d.monthLength then { d with day := d.day + 1 }
  else if d.month < 12 then ⟨d.year, d.month + 1, 1⟩
  else ⟨d.year + 1, 1, 1⟩

/-- A date exists if its month is one of the twelve and its day is one of the month. -/
theorem exists_iff {d : Date} :
    d.exists = true ↔
      (1 ≤ d.month ∧ d.month ≤ 12) ∧ 1 ≤ d.day ∧ d.day ≤ d.monthLength := by
  obtain ⟨year, month, day⟩ := d
  cases month with
  | zero => simp [Date.exists]
  | succ month =>
    have hlength : (monthLengths year).length = 12 := rfl
    by_cases hmonth : month < 12
    · have hsome : (monthLengths year)[month]? = some ((monthLengths year).getD month 0) := by
        rw [List.getD_eq_getElem?_getD, List.getElem?_eq_getElem (hlength ▸ hmonth)]
        rfl
      have hbounds : 1 ≤ month + 1 ∧ month + 1 ≤ 12 := by omega
      simp only [Date.exists, hsome, monthLength, Nat.add_sub_cancel, Bool.and_eq_true,
        decide_eq_true_iff, hbounds, true_and, and_self]
    · have hnone : (monthLengths year)[month]? = none :=
        List.getElem?_eq_none (by omega)
      have hbounds : ¬ month + 1 ≤ 12 := by omega
      simp [Date.exists, hnone, hbounds]

theorem monthLength_bounds {d : Date} (h : 1 ≤ d.month ∧ d.month ≤ 12) :
    1 ≤ d.monthLength ∧ d.monthLength ≤ 31 := by
  have hall : ∀ leap : Bool, ∀ month < 12,
      1 ≤ [31, if leap then 29 else 28, 31, 30, 31, 30, 31, 31, 30, 31, 30, 31].getD month 0
        ∧ [31, if leap then 29 else 28, 31, 30, 31, 30, 31, 31, 30, 31, 30, 31].getD month 0
          ≤ 31 := by decide
  exact hall (isLeap d.year) (d.month - 1) (by omega)

theorem exists_next {d : Date} (h : d.exists = true) : d.next.exists = true := by
  obtain ⟨⟨hmonth, hmonth'⟩, hday, hday'⟩ := exists_iff.mp h
  unfold next
  split
  · rename_i hlt
    exact exists_iff.mpr ⟨⟨hmonth, hmonth'⟩, Nat.le_add_left 1 d.day, hlt⟩
  · split
    · rename_i hlt
      have hbounds : 1 ≤ d.month + 1 ∧ d.month + 1 ≤ 12 := by omega
      exact exists_iff.mpr ⟨hbounds, Nat.le_refl 1, (monthLength_bounds hbounds).1⟩
    · have hbounds : 1 ≤ 1 ∧ 1 ≤ 12 := by omega
      exact exists_iff.mpr ⟨hbounds, Nat.le_refl 1, (monthLength_bounds hbounds).1⟩

end Date

/-- A year is a leap year by the three rules of the calendar. -/
theorem isLeap_iff {year : Nat} :
    isLeap year = true ↔ year % 4 = 0 ∧ (year % 100 ≠ 0 ∨ year % 400 = 0) := by
  simp [isLeap]

theorem daysToYear_succ (year : Nat) :
    daysToYear (year + 1) = daysToYear year + (if isLeap year then 366 else 365) := by
  have hfour : (year + 1 + 3) / 4 = (year + 3) / 4 + (if year % 4 = 0 then 1 else 0) := by
    split <;> omega
  have hcentury : (year + 1 + 99) / 100
      = (year + 99) / 100 + (if year % 100 = 0 then 1 else 0) := by
    split <;> omega
  have hcycle : (year + 1 + 399) / 400
      = (year + 399) / 400 + (if year % 400 = 0 then 1 else 0) := by
    split <;> omega
  have hroom : (year + 99) / 100 ≤ year * 365 + (year + 3) / 4 := by omega
  -- There are four kinds of years: plain ones, every fourth, every hundredth, every 400th.
  have hkinds : (year % 4 ≠ 0 ∧ year % 100 ≠ 0 ∧ year % 400 ≠ 0)
      ∨ (year % 4 = 0 ∧ year % 100 ≠ 0 ∧ year % 400 ≠ 0)
      ∨ (year % 4 = 0 ∧ year % 100 = 0 ∧ year % 400 ≠ 0)
      ∨ (year % 4 = 0 ∧ year % 100 = 0 ∧ year % 400 = 0) := by omega
  rw [daysToYear, daysToYear, hfour, hcentury, hcycle]
  simp only [isLeap_iff]
  rcases hkinds with ⟨h4, h100, h400⟩ | ⟨h4, h100, h400⟩ | ⟨h4, h100, h400⟩ | ⟨h4, h100, h400⟩
  · rw [if_neg h4, if_neg h100, if_neg h400, if_neg (fun h => h4 h.1)]
    omega
  · rw [if_pos h4, if_neg h100, if_neg h400, if_pos ⟨h4, Or.inl h100⟩]
    omega
  · rw [if_pos h4, if_pos h100, if_neg h400, if_neg (fun h => h.2.elim (fun h => h h100) h400)]
    omega
  · rw [if_pos h4, if_pos h100, if_pos h400, if_pos ⟨h4, Or.inr h400⟩]
    omega

/-- The days of a year up to the end of a month are those before it and its own. -/
theorem foldl_take_succ (year : Nat) {month : Nat} (h : month < 12) :
    ((monthLengths year).take (month + 1)).foldl (· + ·) 0
      = ((monthLengths year).take month).foldl (· + ·) 0 + (monthLengths year).getD month 0 := by
  have hlt : month < (monthLengths year).length := h
  rw [List.take_succ_eq_append_getElem hlt, List.foldl_append, List.getD_eq_getElem?_getD,
    List.getElem?_eq_getElem hlt]
  rfl

/-- The days of all months are those of the year. -/
theorem foldl_take_twelve (year : Nat) :
    ((monthLengths year).take (11 + 1)).foldl (· + ·) 0 = if isLeap year then 366 else 365 := by
  unfold monthLengths
  cases isLeap year with
  | true => rfl
  | false => rfl

/-- From one day to the next the days count on by one. -/
theorem days_next {d : Date} (h : d.exists = true) : d.next.days = d.days + 1 := by
  obtain ⟨⟨hmonth, hmonth'⟩, hday, hday'⟩ := Date.exists_iff.mp h
  obtain ⟨year, _ | month, day⟩ := d
  · exact absurd hmonth (Nat.not_succ_le_zero 0)
  · have hlt : month < 12 := hmonth'
    have hmonthEnd := foldl_take_succ year hlt
    have hlength : day ≤ (monthLengths year).getD month 0 := hday'
    have hdays : ∀ day, Date.days ⟨year, month + 1, day⟩ = daysToYear year
        + ((monthLengths year).take month).foldl (· + ·) 0 + (day - 1) := fun _ => rfl
    have hpos : 1 ≤ day := hday
    rw [Date.next, hdays]
    split
    · show daysToYear year + ((monthLengths year).take month).foldl (· + ·) 0 + (day + 1 - 1) = _
      omega
    · rename_i hlast
      have hlast : ¬ day < (monthLengths year).getD month 0 := hlast
      split
      · show daysToYear year + ((monthLengths year).take (month + 1)).foldl (· + ·) 0 + 0 = _
        omega
      · rename_i hdecember
        -- The last day of a year: all its months are over.
        obtain rfl : month = 11 := by
          have hle : ¬ month + 1 < 12 := hdecember
          omega
        have hyearEnd := foldl_take_twelve year
        show daysToYear (year + 1) + 0 + 0 = _
        rw [daysToYear_succ]
        omega

/-- The date so many days after the start of 1970. -/
def dateAfter : Nat → Date
  | 0 => ⟨1970, 1, 1⟩
  | days + 1 => (dateAfter days).next

theorem exists_dateAfter (days : Nat) : (dateAfter days).exists = true := by
  induction days with
  | zero => rfl
  | succ days ih => exact Date.exists_next ih

/-- The days of a date are the steps that lead to it. -/
theorem days_dateAfter (days : Nat) : (dateAfter days).days = epochDays + days := by
  induction days with
  | zero => rfl
  | succ days ih =>
    rw [dateAfter, days_next (exists_dateAfter days), ih, Nat.add_assoc]

example : dateAfter 789 = ⟨1972, 2, 29⟩ := by decide +kernel

/-! ### Texts -/

/-- The last decimal digits of a number, so many of them. -/
def padDigits : Nat → Nat → List Char
  | 0, _ => []
  | count + 1, n => Nat.digitChar (n / Nat.pow 10 count % 10) :: padDigits count n

/-- A number in so many decimal digits. -/
def pad (count n : Nat) : String :=
  String.ofList (padDigits count n)

/-- A date, as in `2024-09-10`. -/
def Date.text (d : Date) : String :=
  pad 4 d.year ++ "-" ++ pad 2 d.month ++ "-" ++ pad 2 d.day

/-- The time of a day that is so many seconds old, as in `09:31:12`. -/
def clockText (seconds : Nat) : String :=
  pad 2 (seconds / 3600) ++ ":" ++ pad 2 (seconds / 60 % 60) ++ ":" ++ pad 2 (seconds % 60)

/-- The texts of a moment in standard time: its date, its time of day, a fraction of zero if
any, and a mark for the standard time. -/
def Denotes (text : String) (moment : Nat) : Prop :=
  ∃ separator ∈ ["T", "t"], ∃ fraction, ∃ zone ∈ ["Z", "z", "+00:00", "-00:00"],
    (fraction = "" ∨ ∃ zeros, fraction = "." ++ pad (zeros + 1) 0)
      ∧ text = (dateAfter (moment / 86400)).text ++ separator ++ clockText (moment % 86400)
          ++ fraction ++ zone

/-! ### Reading -/

theorem exists_digit_of_mem_padDigits {count n : Nat} {c : Char} (h : c ∈ padDigits count n) :
    ∃ d, d < 10 ∧ c = Nat.digitChar d := by
  induction count with
  | zero => cases h
  | succ count ih =>
    rcases List.mem_cons.mp h with rfl | h
    · exact ⟨_, Nat.mod_lt _ (by decide), rfl⟩
    · exact ih h

theorem ofText_pad (count n : Nat) :
    Bytes.ofText (pad count n) = (padDigits count n).map asciiByte := by
  refine Bytes.ofText_ofList_of_ascii fun c hc => ?_
  obtain ⟨d, hd, rfl⟩ := exists_digit_of_mem_padDigits hc
  exact Quantity.toNat_digitChar_lt (by omega)

theorem length_ofText_pad (count n : Nat) : (Bytes.ofText (pad count n)).length = count := by
  rw [ofText_pad, List.length_map]
  induction count with
  | zero => rfl
  | succ count ih => rw [padDigits, List.length_cons, ih]

theorem digit?_digitChar {d : Nat} (h : d < 10) :
    digit? (asciiByte (Nat.digitChar d)) = some d :=
  Quantity.digit?_digitChar (by decide) h

/-- The digits of a number are read as its last digits say, behind what was read already. -/
theorem readNumber_padDigits (count n value : Nat) (rest : Bytes) :
    readNumber count value ((padDigits count n).map asciiByte ++ rest)
      = .ok (value * Nat.pow 10 count + n % Nat.pow 10 count, rest) := by
  induction count generalizing value with
  | zero =>
    show Except.ok (value, rest) = .ok (value * 1 + n % 1, rest)
    rw [Nat.mul_one, Nat.mod_one, Nat.add_zero]
  | succ count ih =>
    have hdigit := digit?_digitChar (Nat.mod_lt (n / Nat.pow 10 count) (show 0 < 10 by decide))
    -- What was read before moves up by one digit, and the digits behind are left to `ih`.
    have hvalue : (value * 10 + n / Nat.pow 10 count % 10) * Nat.pow 10 count
        + n % Nat.pow 10 count = value * Nat.pow 10 (count + 1) + n % Nat.pow 10 (count + 1) := by
      show _ = value * (Nat.pow 10 count * 10) + n % (Nat.pow 10 count * 10)
      rw [Nat.mod_mul]
      ring
    show readNumber (count + 1) value (asciiByte (Nat.digitChar (n / Nat.pow 10 count % 10))
      :: ((padDigits count n).map asciiByte ++ rest)) = _
    rw [readNumber, hdigit]
    show readNumber count (value * 10 + n / Nat.pow 10 count % 10) _ = _
    rw [ih, hvalue]

/-- A number that has so many digits is read from a text that starts with it. -/
theorem readNumber_pad {count n : Nat} (h : n < Nat.pow 10 count) (rest : Bytes) :
    readNumber count 0 (Bytes.ofText (pad count n) ++ rest) = .ok (n, rest) := by
  rw [ofText_pad, readNumber_padDigits, Nat.mod_eq_of_lt h, Nat.zero_mul, Nat.zero_add]

/-- A date is read from a text that starts with it. -/
theorem readDate_text {d : Date} (hexists : d.exists = true) (hyear : d.year ≤ 9999)
    (rest : Bytes) : readDate (Bytes.ofText d.text ++ rest) = .ok (d, rest) := by
  obtain ⟨hmonth, -, hday⟩ := Date.exists_iff.mp hexists
  have hlength := Date.monthLength_bounds hmonth
  have hyear' : d.year < Nat.pow 10 4 := Nat.lt_succ_of_le hyear
  have hmonth' : d.month < Nat.pow 10 2 := by
    show d.month < 100
    omega
  have hday' : d.day < Nat.pow 10 2 := by
    show d.day < 100
    omega
  have hdash : ∀ rest, readMark [45] (Bytes.ofText "-" ++ rest) = .ok rest := fun _ => rfl
  simp only [readDate, Date.text, Bytes.ofText_append, List.append_assoc, readNumber_pad hyear',
    readNumber_pad hmonth', readNumber_pad hday', hdash, bind, Except.bind]
  rw [if_pos hexists]

/-- A time of day is read from a text that starts with it, up to what may be a fraction. -/
theorem readTime_clockText {seconds : Nat} (h : seconds < 86400) {fraction rest : Bytes}
    (hfraction : skipFraction fraction = .ok rest) :
    readTime (Bytes.ofText (clockText seconds) ++ fraction) = .ok (seconds, rest) := by
  have hhour : seconds / 3600 < Nat.pow 10 2 := by
    show seconds / 3600 < 100
    omega
  have hminute : seconds / 60 % 60 < Nat.pow 10 2 := by
    show seconds / 60 % 60 < 100
    omega
  have hsecond : seconds % 60 < Nat.pow 10 2 := by
    show seconds % 60 < 100
    omega
  have hcolon : ∀ rest, readMark [58] (Bytes.ofText ":" ++ rest) = .ok rest := fun _ => rfl
  have hbounds : ¬ (23 < seconds / 3600 ∨ 59 < seconds / 60 % 60 ∨ 60 < seconds % 60) := by
    omega
  have hsum : seconds / 3600 * 3600 + seconds / 60 % 60 * 60 + min (seconds % 60) 59
      = seconds := by
    omega
  simp only [readTime, clockText, Bytes.ofText_append, List.append_assoc, readNumber_pad hhour,
    readNumber_pad hminute, readNumber_pad hsecond, hcolon, hfraction, bind, Except.bind]
  rw [if_neg hbounds, hsum]

/-- A mark for the standard time is no digit and no point, and means no distance from it. -/
theorem readZone_standard {zone : String} (h : zone ∈ ["Z", "z", "+00:00", "-00:00"]) :
    readZone (Bytes.ofText zone) = .ok (0, [])
      ∧ ∃ b rest, Bytes.ofText zone = b :: rest ∧ b ≠ 46 ∧ digit? b = none := by
  simp only [List.mem_cons, List.not_mem_nil, or_false] at h
  rcases h with rfl | rfl | rfl | rfl
  · exact ⟨rfl, 90, [], rfl, by decide, by decide⟩
  · exact ⟨rfl, 122, [], rfl, by decide, by decide⟩
  · exact ⟨rfl, 43, _, rfl, by decide, by decide⟩
  · exact ⟨by decide +kernel, 45, _, rfl, by decide, by decide⟩

theorem isSome_digit?_of_mem {count n : Nat} {b : UInt8}
    (h : b ∈ (padDigits count n).map asciiByte) : (digit? b).isSome = true := by
  obtain ⟨c, hc, rfl⟩ := List.mem_map.mp h
  obtain ⟨d, hd, rfl⟩ := exists_digit_of_mem_padDigits hc
  rw [digit?_digitChar hd]
  rfl

/-- A fraction ends where the mark for the standard time starts. -/
theorem skipFraction_standard {fraction zone : String}
    (hfraction : fraction = "" ∨ ∃ zeros, fraction = "." ++ pad (zeros + 1) 0)
    (hzone : zone ∈ ["Z", "z", "+00:00", "-00:00"]) :
    skipFraction (Bytes.ofText fraction ++ Bytes.ofText zone) = .ok (Bytes.ofText zone) := by
  obtain ⟨-, b, rest, hbytes, hpoint, hdigit⟩ := readZone_standard hzone
  rw [hbytes]
  rcases hfraction with rfl | ⟨zeros, rfl⟩
  · show skipFraction (b :: rest) = _
    unfold skipFraction
    split
    · rename_i heq
      exact absurd (List.cons.inj heq).1 hpoint
    · rfl
  · have hend : ¬ (digit? b).isSome = true := by
      rw [hdigit]
      exact Bool.false_ne_true
    have hdrop : ((padDigits (zeros + 1) 0).map asciiByte ++ b :: rest).dropWhile
        (fun b => (digit? b).isSome) = b :: rest := by
      rw [List.dropWhile_append_of_pos fun _ h => isSome_digit?_of_mem h]
      exact List.dropWhile_cons_of_neg hend
    have hfirst : (digit? (asciiByte (Nat.digitChar (0 / Nat.pow 10 zeros % 10)))).isSome = true := by
      rw [digit?_digitChar (Nat.mod_lt _ (by decide))]
      rfl
    rw [Bytes.ofText_append, ofText_pad, List.append_assoc]
    show skipFraction (46 :: asciiByte (Nat.digitChar (0 / Nat.pow 10 zeros % 10))
      :: ((padDigits zeros 0).map asciiByte ++ b :: rest)) = _
    rw [skipFraction, if_pos hfirst]
    exact congrArg Except.ok hdrop

/-- Each text of a moment is read as the moment, if the year has four digits. -/
theorem read_of_denotes {text : String} {moment : Nat} (h : Denotes text moment)
    (hyear : (dateAfter (moment / 86400)).year ≤ 9999) : read text = .ok moment := by
  obtain ⟨separator, hseparator, fraction, zone, hzone, hfraction, rfl⟩ := h
  have hdate := readDate_text (exists_dateAfter (moment / 86400)) hyear
  have htime := readTime_clockText (Nat.mod_lt moment (show 0 < 86400 by decide))
    (skipFraction_standard hfraction hzone)
  have hmark : ∀ rest, readMark [84, 116, 32] (Bytes.ofText separator ++ rest) = .ok rest := by
    simp only [List.mem_cons, List.not_mem_nil, or_false] at hseparator
    rcases hseparator with rfl | rfl
    · exact fun _ => rfl
    · exact fun _ => rfl
  obtain ⟨hzone', -⟩ := readZone_standard hzone
  have hlength : 19 ≤ (Bytes.ofText ((dateAfter (moment / 86400)).text ++ separator
      ++ clockText (moment % 86400) ++ fraction ++ zone)).length := by
    have hdash : (Bytes.ofText "-").length = 1 := rfl
    have hcolon : (Bytes.ofText ":").length = 1 := rfl
    have hseparator : (Bytes.ofText separator).length = 1 := by
      simp only [List.mem_cons, List.not_mem_nil, or_false] at hseparator
      rcases hseparator with rfl | rfl
      · rfl
      · rfl
    simp only [Date.text, clockText, Bytes.ofText_append, List.length_append, length_ofText_pad,
      hdash, hcolon, hseparator]
    omega
  have hdays : ((dateAfter (moment / 86400)).days : Int) - epochDays = (moment / 86400 : Nat) := by
    rw [days_dateAfter]
    omega
  rw [read, readBytes, if_neg (Nat.not_lt.mpr hlength)]
  simp only [Bytes.ofText_append, List.append_assoc, hdate, hmark, htime, hzone', bind, Except.bind]
  have hnear : ¬ ((0 : Int) ≤ -dayLength ∨ dayLength ≤ 0) := by decide
  have hmoment : ((moment / 86400 : Nat) : Int) * dayLength + (moment % 86400 : Nat) - 0
      = moment := by
    rw [dayLength]
    omega
  rw [hdays, if_neg hnear, hmoment]
  rfl

end SafeOps.Timestamp
