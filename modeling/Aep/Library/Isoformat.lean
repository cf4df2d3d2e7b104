import Aep.Library.Text
import Mathlib.Data.Nat.Basic
import Mathlib.Logic.Basic
import Mathlib.Algebra.Group.Nat.Defs

namespace Timestamp

def microsecondsPerDay : Nat := 86400000000

/-- The first microsecond after the year 9999, counted from the start of the year 1. -/
def limit : Nat := 3652059 * microsecondsPerDay

def pad (width : Nat) (number : Nat) : String :=
  let digits := toString number
  String.ofList (List.replicate (width - digits.length) '0') ++ digits

/-- Year, month and day of a number of days from the start of the year 1, by eras of 400 years from March on. -/
def civil (days : Nat) : Nat × Nat × Nat :=
  let shifted := days + 306
  let ofEra := shifted % 146097
  let yearOfEra := (ofEra - ofEra / 1460 + ofEra / 36524 - ofEra / 146096) / 365
  let ofYear := ofEra - (365 * yearOfEra + yearOfEra / 4 - yearOfEra / 100)
  let fromMarch := (5 * ofYear + 2) / 153
  let month := if fromMarch < 10 then fromMarch + 3 else fromMarch - 9
  let year := yearOfEra + shifted / 146097 * 400
  (if month ≤ 2 then year + 1 else year, month, ofYear - (153 * fromMarch + 2) / 5 + 1)

def isoMilliseconds (microseconds : Nat) : String :=
  let (year, month, day) := civil (microseconds / microsecondsPerDay)
  let ofDay := microseconds % microsecondsPerDay / 1000
  pad 4 year ++ "-" ++ pad 2 month ++ "-" ++ pad 2 day ++ "T" ++ pad 2 (ofDay / 3600000) ++ ":" ++
    pad 2 (ofDay / 60000 % 60) ++ ":" ++ pad 2 (ofDay / 1000 % 60) ++ "." ++ pad 3 (ofDay % 1000) ++ "Z"

example : civil 0 = (1, 1, 1) ∧ civil (limit / microsecondsPerDay - 1) = (9999, 12, 31) := by decide

def digit (number : Nat) : Char := Char.ofNat (48 + number % 10)

def digitValue (letter : Char) : Option Nat :=
  if '0' ≤ letter ∧ letter ≤ '9' then some (letter.toNat - 48) else none

def digits : Nat → Nat → List Char
  | 0, _ => []
  | width + 1, number => digits width (number / 10) ++ [digit number]

def readDigits : Nat → List Char → Option (Nat × List Char)
  | 0, text => some (0, text)
  | _ + 1, [] => none
  | width + 1, letter :: text => do
    let value ← digitValue letter
    let (rest, left) ← readDigits width text
    pure (value * 10 ^ width + rest, left)

@[simp] theorem digitValue_digit (number : Nat) : digitValue (digit number) = some (number % 10) := by
  have each : ∀ last : Fin 10, digitValue (Char.ofNat (48 + last.val)) = some last.val := by decide
  exact each ⟨number % 10, Nat.mod_lt _ (by decide)⟩

theorem digits_cons (width number : Nat) :
    digits (width + 1) number = digit (number / 10 ^ width) :: digits width number := by
  induction width generalizing number with
  | zero => simp [digits]
  | succ width ih =>
    rw [digits, ih, digits, Nat.div_div_eq_div_mul, ← Nat.pow_succ']
    rfl

theorem readDigits_digits (width number : Nat) (text : List Char) :
    readDigits width (digits width number ++ text) = some (number % 10 ^ width, text) := by
  induction width with
  | zero => simp [readDigits, digits, Nat.mod_one]
  | succ width ih =>
    rw [digits_cons, List.cons_append, readDigits, digitValue_digit, ih]
    simp only [Option.pure_def, Option.bind_eq_bind, Option.bind_some, Option.some.injEq, Prod.mk.injEq, and_true]
    rw [Nat.pow_succ, Nat.mod_mul, Nat.mul_comm, Nat.add_comm]

theorem digitValue_of_mem {width number : Nat} {letter : Char} (member : letter ∈ digits width number) :
    digitValue letter ≠ none := by
  induction width generalizing number with
  | zero => cases member
  | succ width ih =>
    rcases List.mem_append.mp member with earlier | last
    · exact ih earlier
    · rw [List.mem_singleton.mp last, digitValue_digit]
      simp

def readLetter (letter : Char) : List Char → Option (List Char)
  | [] => none
  | first :: text => if first = letter then some text else none

/-- The days from the start of the year 1 to a date, the inverse of the civil calendar. -/
def ordinal (year month day : Nat) : Nat :=
  let march := if month ≤ 2 then year - 1 else year
  let fromMarch := if month ≤ 2 then month + 9 else month - 3
  march / 400 * 146097 + (365 * (march % 400) + march % 400 / 4 - march % 400 / 100) +
    (153 * fromMarch + 2) / 5 + day - 307

theorem exists_parts (day : Nat) (within : day < 146097) : ∃ century cycle year rest,
    day = 36524 * century + 1461 * cycle + 365 * year + rest ∧ century ≤ 3 ∧ cycle ≤ 24 ∧ year ≤ 3 ∧
      rest ≤ 365 ∧ (rest = 365 → year = 3 ∧ (cycle = 24 → century = 3)) := by
  refine ⟨min (day / 36524) 3, (day - 36524 * min (day / 36524) 3) / 1461,
    min ((day - 36524 * min (day / 36524) 3) % 1461 / 365) 3,
    (day - 36524 * min (day / 36524) 3) % 1461 -
      365 * min ((day - 36524 * min (day / 36524) 3) % 1461 / 365) 3, ?_⟩
  omega

theorem yearOfEra_parts {day century cycle year rest : Nat}
    (parts : day = 36524 * century + 1461 * cycle + 365 * year + rest) (centuries : century ≤ 3)
    (cycles : cycle ≤ 24) (years : year ≤ 3) (rests : rest ≤ 365)
    (leap : rest = 365 → year = 3 ∧ (cycle = 24 → century = 3)) :
    (day - day / 1460 + day / 36524 - day / 146096) / 365 = 100 * century + 4 * cycle + year := by
  by_cases last : day = 146096
  · rw [last]
    omega
  have ofEra : day / 146096 = 0 := by omega
  have ofCentury : day / 36524 = century := by omega
  rw [ofEra, ofCentury]
  by_cases carry : 1460 ≤ 24 * century + cycle + 365 * year + rest
  · have ofCycle : day / 1460 = 25 * century + cycle + 1 := by omega
    rw [ofCycle]
    omega
  · have ofCycle : day / 1460 = 25 * century + cycle := by omega
    rw [ofCycle]
    omega

theorem ordinal_civil (days : Nat) : ordinal (civil days).1 (civil days).2.1 (civil days).2.2 = days := by
  obtain ⟨century, cycle, year, rest, parts, centuries, cycles, years, rests, leap⟩ :=
    exists_parts ((days + 306) % 146097) (Nat.mod_lt _ (by decide))
  have ofEra := yearOfEra_parts parts centuries cycles years rests leap
  obtain ⟨count, counted⟩ : ∃ count, count = 100 * century + 4 * cycle + year := ⟨_, rfl⟩
  have quarters : count / 4 = 25 * century + cycle := by omega
  have hundreds : count / 100 = century := by omega
  have within : (count + (days + 306) / 146097 * 400) % 400 = count := by omega
  have eras : (count + (days + 306) / 146097 * 400) / 400 = (days + 306) / 146097 := by omega
  have before : (days + 306) % 146097 - (365 * count + (25 * century + cycle) - century) = rest := by omega
  unfold ordinal civil
  simp only [ofEra, ← counted, quarters, hundreds, before]
  obtain ⟨month, monthly⟩ : ∃ month, month = (5 * rest + 2) / 153 := ⟨_, rfl⟩
  rw [← monthly]
  by_cases spring : month < 10
  · have later : ¬month + 3 ≤ 2 := by omega
    simp only [spring, ↓reduceIte, later, within, eras, quarters, hundreds]
    omega
  · have early : month - 9 ≤ 2 := by omega
    simp only [spring, ↓reduceIte, early, Nat.add_sub_cancel, within, eras, quarters, hundreds]
    omega

theorem civil_bounds {days : Nat} (within : days < limit / microsecondsPerDay) :
    1 ≤ (civil days).1 ∧ (civil days).1 < 10000 ∧ (civil days).2.1 < 100 ∧ (civil days).2.2 < 100 := by
  have small : days < 3652059 := within
  obtain ⟨century, cycle, year, rest, parts, centuries, cycles, years, rests, leap⟩ :=
    exists_parts ((days + 306) % 146097) (Nat.mod_lt _ (by decide))
  have ofEra := yearOfEra_parts parts centuries cycles years rests leap
  obtain ⟨count, counted⟩ : ∃ count, count = 100 * century + 4 * cycle + year := ⟨_, rfl⟩
  have quarters : count / 4 = 25 * century + cycle := by omega
  have hundreds : count / 100 = century := by omega
  have before : (days + 306) % 146097 - (365 * count + (25 * century + cycle) - century) = rest := by omega
  unfold civil
  simp only [ofEra, ← counted, quarters, hundreds, before]
  obtain ⟨month, monthly⟩ : ∃ month, month = (5 * rest + 2) / 153 := ⟨_, rfl⟩
  rw [← monthly]
  by_cases spring : month < 10
  · have later : ¬month + 3 ≤ 2 := by omega
    simp only [spring, ↓reduceIte, later]
    omega
  · have early : month - 9 ≤ 2 := by omega
    simp only [spring, ↓reduceIte, early]
    omega

def dateText (days : Nat) : List Char :=
  let (year, month, day) := civil days
  digits 4 year ++ '-' :: (digits 2 month ++ '-' :: digits 2 day)

def clockText (ofDay : Nat) : List Char :=
  digits 2 (ofDay / 3600000000) ++ ':' :: (digits 2 (ofDay / 60000000 % 60) ++
    ':' :: (digits 2 (ofDay / 1000000 % 60) ++
      if ofDay % 1000000 = 0 then [] else '.' :: digits 6 (ofDay % 1000000)))

def isoText (microseconds : Nat) : List Char :=
  dateText (microseconds / microsecondsPerDay) ++ 'T' :: clockText (microseconds % microsecondsPerDay)

def readDate (text : List Char) : Option (Nat × List Char) := do
  let (year, text) ← readDigits 4 text
  let text ← readLetter '-' text
  let (month, text) ← readDigits 2 text
  let text ← readLetter '-' text
  let (day, text) ← readDigits 2 text
  if civil (ordinal year month day) = (year, month, day) then pure (ordinal year month day, text) else none

def readFraction (text : List Char) : Option (Nat × List Char) :=
  if text.head? = some '.' then readDigits 6 text.tail else some (0, text)

def readClock (text : List Char) : Option (Nat × List Char) := do
  let (hour, text) ← readDigits 2 text
  let text ← readLetter ':' text
  let (minute, text) ← readDigits 2 text
  let text ← readLetter ':' text
  let (second, text) ← readDigits 2 text
  let (fraction, text) ← readFraction text
  if hour < 24 ∧ minute < 60 ∧ second < 60 then
    pure (((hour * 60 + minute) * 60 + second) * 1000000 + fraction, text)
  else none

def readOffset (text : List Char) : Option Int := do
  let (hours, text) ← readDigits 2 text
  let text ← readLetter ':' text
  let (minutes, text) ← readDigits 2 text
  if hours < 24 ∧ minutes < 60 ∧ text = [] then pure ((hours * 60 + minutes) * 60000000 : Nat) else none

def readZone : List Char → Option Int
  | '+' :: text => readOffset text
  | '-' :: text => (readOffset text).map Neg.neg
  | _ => none

/-- The local microseconds and the offset from UTC of a text in the form that `isoformat` writes. -/
def fromisoformat (text : List Char) : Option (Nat × Int) := do
  let (days, text) ← readDate text
  let text ← readLetter 'T' text
  let (ofDay, text) ← readClock text
  let offset ← readZone text
  pure (days * microsecondsPerDay + ofDay, offset)

theorem not_mem_digits {letter : Char} (other : digitValue letter = none) (width number : Nat) :
    letter ∉ digits width number := fun member => digitValue_of_mem member other

theorem not_mem_isoText {letter : Char} (other : digitValue letter = none)
    (marks : letter ∉ ['-', 'T', ':', '.']) (microseconds : Nat) : letter ∉ isoText microseconds := by
  have noDigit := not_mem_digits other
  simp only [List.mem_cons, List.not_mem_nil, or_false, not_or] at marks
  have noFraction : ∀ fraction : Nat, letter ∉ if fraction = 0 then [] else '.' :: digits 6 fraction := by
    intro fraction
    split <;> simp [noDigit, marks]
  simp [isoText, dateText, clockText, noDigit, marks, noFraction]

theorem readDate_dateText {days : Nat} (within : days < limit / microsecondsPerDay) (text : List Char) :
    readDate (dateText days ++ text) = some (days, text) := by
  obtain ⟨-, years, months, inMonth⟩ := civil_bounds within
  have back := ordinal_civil days
  unfold readDate dateText
  rcases date : civil days with ⟨year, month, day⟩
  rw [date] at years months inMonth back
  simp only at years months inMonth back
  simp [List.append_assoc, readDigits_digits, readLetter, Nat.mod_eq_of_lt years, Nat.mod_eq_of_lt months,
    Nat.mod_eq_of_lt inMonth, back, date]

theorem readFraction_text {fraction : Nat} (within : fraction < 1000000) {text : List Char}
    (other : text.head? ≠ some '.') :
    readFraction ((if fraction = 0 then [] else '.' :: digits 6 fraction) ++ text) = some (fraction, text) := by
  by_cases none : fraction = 0
  · simp [none, readFraction, other]
  · simp [none, readFraction, readDigits_digits, Nat.mod_eq_of_lt within]

theorem readClock_clockText {ofDay : Nat} (within : ofDay < microsecondsPerDay) {text : List Char}
    (other : text.head? ≠ some '.') : readClock (clockText ofDay ++ text) = some (ofDay, text) := by
  have short : ofDay < 86400000000 := within
  have hours : ofDay / 3600000000 < 24 := by omega
  have minutes : ofDay / 60000000 % 60 < 60 := Nat.mod_lt _ (by decide)
  have seconds : ofDay / 1000000 % 60 < 60 := Nat.mod_lt _ (by decide)
  have fraction := readFraction_text (Nat.mod_lt ofDay (show 0 < 1000000 by decide)) other
  have hour : ofDay / 3600000000 % 10 ^ 2 = ofDay / 3600000000 := Nat.mod_eq_of_lt (by omega)
  have minute : ofDay / 60000000 % 60 % 10 ^ 2 = ofDay / 60000000 % 60 := Nat.mod_eq_of_lt (by omega)
  have second : ofDay / 1000000 % 60 % 10 ^ 2 = ofDay / 1000000 % 60 := Nat.mod_eq_of_lt (by omega)
  have total : ((ofDay / 3600000000 * 60 + ofDay / 60000000 % 60) * 60 + ofDay / 1000000 % 60) * 1000000 +
      ofDay % 1000000 = ofDay := by omega
  unfold readClock clockText
  simp only [List.append_assoc, List.cons_append, readDigits_digits, readLetter, ↓reduceIte, hour, minute,
    second, fraction, Option.bind_eq_bind, Option.bind_some, hours, minutes, seconds, and_self,
    total, Option.pure_def]

theorem fromisoformat_isoText {microseconds : Nat} (within : microseconds < limit) :
    fromisoformat (isoText microseconds ++ ['+', '0', '0', ':', '0', '0']) = some (microseconds, 0) := by
  have days : microseconds / microsecondsPerDay < limit / microsecondsPerDay := by
    unfold limit microsecondsPerDay at *
    omega
  have ofDay : microseconds % microsecondsPerDay < microsecondsPerDay := Nat.mod_lt _ (by decide)
  have whole : microseconds / microsecondsPerDay * microsecondsPerDay + microseconds % microsecondsPerDay =
      microseconds := by
    rw [Nat.mul_comm]
    exact Nat.div_add_mod _ _
  have zone : readZone ['+', '0', '0', ':', '0', '0'] = some 0 := by decide
  have clock : readClock (clockText (microseconds % microsecondsPerDay) ++ ['+', '0', '0', ':', '0', '0']) =
      some (microseconds % microsecondsPerDay, ['+', '0', '0', ':', '0', '0']) :=
    readClock_clockText ofDay (by simp)
  unfold fromisoformat isoText
  rw [List.append_assoc, List.cons_append, readDate_dateText days]
  simp only [Option.bind_eq_bind, Option.bind_some, readLetter, ↓reduceIte, clock, zone, Option.pure_def, whole]

end Timestamp
