import Mathlib.Tactic.IntervalCases
import Relational.Calendar
import Relational.Proofs.Decimal
import Relational.Proofs.Failure

/-!
# Moments read back

A moment of the calendar is written in a fixed layout, and reads back from its text as it was. Of the readings of
each field the first is the right one, so reading never has to try another.
-/

namespace Relational

/-- A moment of the calendar. Its year has four digits, as reading asks. -/
structure Timestamp.Valid (t : Timestamp) : Prop where
  year : 1000 ≤ t.date.year ∧ t.date.year ≤ 9999
  month : 1 ≤ t.date.month ∧ t.date.month ≤ 12
  day : 1 ≤ t.date.day ∧ t.date.day ≤ Calendar.monthLength t.date.year t.date.month
  hour : t.time.hour < 24
  minute : t.time.minute < 60
  second : t.time.second < 60

namespace Calendar

open Decimal Text

/-! ## Digits -/

theorem digitValue?_digitChar (n : Nat) : digitValue? (digitChar n) = some (n % 10) := by
  have hlt : n % 10 < 10 := Nat.mod_lt n (by decide)
  rw [digitChar]
  generalize n % 10 = d at hlt
  revert d
  decide

theorem isBlank_digitChar (n : Nat) : isBlank (digitChar n) = false :=
  digitChar_induction (fun c => isBlank c = false) (by decide) n

theorem toList_paddedText {n : Nat} (h : n < 100) : (paddedText 2 n).toList = paddedDigits 2 n := by
  rw [paddedText, if_pos (show n < tenTo 2 from h), String.toList_ofList]

theorem natDigits_year {y : Nat} (h : 1000 ≤ y ∧ y ≤ 9999) :
    natDigits y = [digitChar (y / 10 / 10 / 10), digitChar (y / 10 / 10), digitChar (y / 10), digitChar y] := by
  rw [natDigits_of_le (by omega), natDigits_of_le (by omega), natDigits_of_le (by omega), natDigits_of_lt (by omega)]
  rfl

/-! ## First readings -/

/-- The first reading of a piece. -/
def Reads (p : Piece) (cs : List Char) (value : Option Nat) (rest : List Char) : Prop :=
  (p.readings cs).head? = some (value, rest)

theorem reads_year {y : Nat} (h : 1000 ≤ y ∧ y ≤ 9999) (rest : List Char) :
    Reads .year (natDigits y ++ rest) (some y) rest := by
  have hvalue : 1000 * (y / 10 / 10 / 10 % 10) + 100 * (y / 10 / 10 % 10) + 10 * (y / 10 % 10) + y % 10 = y := by
    omega
  simp [Reads, Piece.readings, natDigits_year h, yearReadings, digitValue?_digitChar, hvalue]

theorem reads_month {m : Nat} (h : 1 ≤ m ∧ m ≤ 12) (rest : List Char) :
    Reads .month (paddedDigits 2 m ++ rest) (some m) rest := by
  obtain ⟨hlow, hhigh⟩ := h
  interval_cases m <;> rfl

theorem reads_day {d : Nat} (h : 1 ≤ d ∧ d ≤ 31) (rest : List Char) :
    Reads .day (paddedDigits 2 d ++ rest) (some d) rest := by
  obtain ⟨hlow, hhigh⟩ := h
  interval_cases d <;> rfl

theorem reads_hour {h : Nat} (hh : h < 24) (rest : List Char) :
    Reads .hour (paddedDigits 2 h ++ rest) (some h) rest := by
  interval_cases h <;> rfl

theorem reads_minute {m : Nat} (h : m < 60) (rest : List Char) :
    Reads .minute (paddedDigits 2 m ++ rest) (some m) rest := by
  interval_cases m <;> rfl

theorem reads_second {s : Nat} (h : s < 60) (rest : List Char) :
    Reads .second (paddedDigits 2 s ++ rest) (some s) rest := by
  interval_cases s <;> rfl

theorem reads_mark (c : Char) (rest : List Char) : Reads (.mark c) (c :: rest) none rest := by
  simp [Reads, Piece.readings]

/-- A gap ends where a number starts. -/
theorem reads_gap (n : Nat) (rest : List Char) :
    Reads .gap (' ' :: (paddedDigits 2 n ++ rest)) none (paddedDigits 2 n ++ rest) := by
  have hblank : isBlank ' ' = true := by decide
  simp [Reads, Piece.readings, hblank, paddedDigits, isBlank_digitChar]

/-- If the first reading of each field leads to the end, no other is tried. -/
theorem readFields_cons {p : Piece} {ps : List Piece} {cs rest left : List Char} {value : Option Nat}
    {values : List Nat} (h : Reads p cs value rest) (hrest : readFields ps rest = some (values, left)) :
    readFields (p :: ps) cs = some (value.toList ++ values, left) := by
  obtain ⟨more, hmore⟩ := List.head?_eq_some_iff.1 h
  rw [readFields, hmore, List.findSome?_cons]
  simp only [hrest, Option.map_some]

end Calendar

open Calendar Decimal

theorem Calendar.monthLength_le (year month : Nat) : monthLength year month ≤ 31 := by
  unfold monthLength
  repeat' split
  all_goals decide

theorem Timestamp.Valid.day_le {t : Timestamp} (h : t.Valid) : t.date.day ≤ 31 :=
  h.day.2.trans (monthLength_le _ _)

/-- The text of a moment, piece by piece as in the layout. -/
theorem Timestamp.Valid.toList_text {t : Timestamp} (h : t.Valid) : t.text.toList
    = natDigits t.date.year ++ '-' :: (paddedDigits 2 t.date.month ++ '-' :: (paddedDigits 2 t.date.day
      ++ ' ' :: (paddedDigits 2 t.time.hour ++ ':' :: (paddedDigits 2 t.time.minute
      ++ ':' :: (paddedDigits 2 t.time.second ++ []))))) := by
  have hmonth : t.date.month < 100 := by have hle := h.month.2; omega
  have hday : t.date.day < 100 := by have hle := h.day_le; omega
  have hhour : t.time.hour < 100 := by have hlt := h.hour; omega
  have hminute : t.time.minute < 100 := by have hlt := h.minute; omega
  have hsecond : t.time.second < 100 := by have hlt := h.second; omega
  have hdash : "-".toList = ['-'] := rfl
  have hcolon : ":".toList = [':'] := rfl
  have hspace : " ".toList = [' '] := rfl
  simp only [Timestamp.text, Date.text, TimeOfDay.text, String.toList_append, natText, String.toList_ofList,
    toList_paddedText hmonth, toList_paddedText hday, toList_paddedText hhour, toList_paddedText hminute,
    toList_paddedText hsecond, hdash, hcolon, hspace, List.append_assoc, List.cons_append, List.nil_append,
    List.append_nil]

/-- A moment reads back from its text. -/
theorem Timestamp.Valid.read_text {t : Timestamp} (h : t.Valid) : Timestamp.read t.text = .ok t := by
  have htext := h.toList_text
  have hday' : 1 ≤ t.date.day ∧ t.date.day ≤ 31 := ⟨h.day.1, h.day_le⟩
  obtain ⟨⟨year, month, day⟩, ⟨hour, minute, second⟩⟩ := t
  obtain ⟨hyear, hmonth, hday, hhour, hminute, hsecond⟩ := h
  dsimp only at hyear hmonth hday hhour hminute hsecond htext hday'
  have hfields : readFields timestampLayout (Timestamp.text ⟨⟨year, month, day⟩, ⟨hour, minute, second⟩⟩).toList
      = some ([year, month, day, hour, minute, second], []) := by
    rw [htext]
    exact readFields_cons (reads_year hyear _) <| readFields_cons (reads_mark _ _) <|
      readFields_cons (reads_month hmonth _) <| readFields_cons (reads_mark _ _) <|
      readFields_cons (reads_day hday' _) <| readFields_cons (reads_gap _ _) <|
      readFields_cons (reads_hour hhour _) <| readFields_cons (reads_mark _ _) <|
      readFields_cons (reads_minute hminute _) <| readFields_cons (reads_mark _ _) <|
      readFields_cons (reads_second hsecond _) rfl
  -- what was read is checked once more against the calendar
  have hdate : date? year month day = .ok ⟨year, month, day⟩ := by
    rw [date?, if_neg (by omega), if_neg (by omega)]
  have htime : time? hour minute second = .ok ⟨hour, minute, second⟩ := by
    rw [time?, if_neg (by omega)]
  rw [Timestamp.read, readLayout, hfields]
  simp only [ok_bind, hdate, htime]
  rfl

end Relational
