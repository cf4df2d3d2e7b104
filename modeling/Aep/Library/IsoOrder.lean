import Aep.Library.Isoformat

namespace Timestamp

def secondText (seconds : Nat) : List Char :=
  dateText (seconds / 86400) ++ 'T' :: (digits 2 (seconds / 3600 % 24) ++ ':' :: (digits 2 (seconds / 60 % 60) ++
    ':' :: digits 2 (seconds % 60)))

def fractionText (fraction : Nat) : List Char := if fraction = 0 then [] else '.' :: digits 6 fraction

theorem isoText_eq (microseconds : Nat) :
    isoText microseconds = secondText (microseconds / 1000000) ++ fractionText (microseconds % 1000000) := by
  have days : microseconds / microsecondsPerDay = microseconds / 1000000 / 86400 := by
    unfold microsecondsPerDay
    omega
  have hours : microseconds % microsecondsPerDay / 3600000000 = microseconds / 1000000 / 3600 % 24 := by
    unfold microsecondsPerDay
    omega
  have minutes : microseconds % microsecondsPerDay / 60000000 % 60 = microseconds / 1000000 / 60 % 60 := by
    unfold microsecondsPerDay
    omega
  have seconds : microseconds % microsecondsPerDay / 1000000 % 60 = microseconds / 1000000 % 60 := by
    unfold microsecondsPerDay
    omega
  have fraction : microseconds % microsecondsPerDay % 1000000 = microseconds % 1000000 := by
    unfold microsecondsPerDay
    omega
  simp only [isoText, clockText, secondText, fractionText, days, hours, minutes, seconds, fraction, List.append_assoc,
    List.cons_append]

section Digits

theorem digit_lt {first second : Nat} (less : first % 10 < second % 10) : digit first < digit second := by
  have each : ∀ smaller larger : Fin 10, smaller < larger →
      Char.ofNat (48 + smaller.val) < Char.ofNat (48 + larger.val) := by decide
  exact each ⟨first % 10, Nat.mod_lt _ (by decide)⟩ ⟨second % 10, Nat.mod_lt _ (by decide)⟩ less

theorem digit_congr {first second : Nat} (same : first % 10 = second % 10) : digit first = digit second := by
  unfold digit
  rw [same]

theorem digits_lt {width first second : Nat} (less : first % 10 ^ width < second % 10 ^ width) (left right : List Char) :
    digits width first ++ left < digits width second ++ right := by
  induction width with
  | zero =>
    rw [Nat.pow_zero, Nat.mod_one, Nat.mod_one] at less
    cases less
  | succ width ih =>
    rw [Nat.pow_succ, Nat.mod_mul, Nat.mod_mul] at less
    rw [digits_cons, digits_cons, List.cons_append, List.cons_append, List.cons_lt_cons_iff]
    have small : first % 10 ^ width < 10 ^ width := Nat.mod_lt _ (Nat.pow_pos (by decide))
    have large : second % 10 ^ width < 10 ^ width := Nat.mod_lt _ (Nat.pow_pos (by decide))
    rcases Nat.lt_trichotomy (first / 10 ^ width % 10) (second / 10 ^ width % 10) with front | same | behind
    · exact .inl (digit_lt front)
    · rw [same] at less
      exact .inr ⟨digit_congr same, ih (by omega)⟩
    · have carried : 10 ^ width * (second / 10 ^ width % 10 + 1) ≤ 10 ^ width * (first / 10 ^ width % 10) :=
        Nat.mul_le_mul_left _ behind
      rw [Nat.mul_add, Nat.mul_one] at carried
      omega

theorem append_cons_lt {letter : Char} {left right : List Char} (less : left < right) (front : List Char) :
    front ++ letter :: left < front ++ letter :: right :=
  List.append_left_lt (List.cons_lt_cons_iff.mpr (.inr ⟨rfl, less⟩))

end Digits

section Calendar

def beforeMarch (year : Nat) : Nat := 365 * year + year / 4 - year / 100 + year / 400

theorem beforeMarch_mono {first second : Nat} (before : first ≤ second) : beforeMarch first ≤ beforeMarch second := by
  have quarters : first / 4 ≤ second / 4 := Nat.div_le_div_right before
  have eras : first / 400 ≤ second / 400 := Nat.div_le_div_right before
  have hundreds : second / 100 ≤ first / 100 + (second - first) := by omega
  unfold beforeMarch
  omega

theorem beforeMarch_parts (era century cycle year : Nat) (centuries : century ≤ 3) (cycles : cycle ≤ 24)
    (years : year ≤ 3) : beforeMarch (100 * century + 4 * cycle + year + era * 400) =
      146097 * era + 36524 * century + 1461 * cycle + 365 * year := by
  have quarters : (100 * century + 4 * cycle + year + era * 400) / 4 = 100 * era + 25 * century + cycle := by omega
  have hundreds : (100 * century + 4 * cycle + year + era * 400) / 100 = 4 * era + century := by omega
  have eras : (100 * century + 4 * cycle + year + era * 400) / 400 = era := by omega
  unfold beforeMarch
  rw [quarters, hundreds, eras]
  omega

theorem beforeMarch_next {era century cycle year rest : Nat} (centuries : century ≤ 3) (cycles : cycle ≤ 24)
    (years : year ≤ 3) (rests : rest ≤ 365) (leap : rest = 365 → year = 3 ∧ (cycle = 24 → century = 3)) :
    beforeMarch (100 * century + 4 * cycle + year + era * 400) + rest <
      beforeMarch (100 * century + 4 * cycle + year + era * 400 + 1) := by
  rw [beforeMarch_parts era century cycle year centuries cycles years]
  by_cases inCycle : year < 3
  · have next := beforeMarch_parts era century cycle (year + 1) centuries cycles (by omega)
    rw [show 100 * century + 4 * cycle + (year + 1) + era * 400 =
      100 * century + 4 * cycle + year + era * 400 + 1 by omega] at next
    omega
  by_cases inCentury : cycle < 24
  · have next := beforeMarch_parts era century (cycle + 1) 0 centuries (by omega) (by omega)
    rw [show 100 * century + 4 * (cycle + 1) + 0 + era * 400 =
      100 * century + 4 * cycle + year + era * 400 + 1 by omega] at next
    omega
  by_cases inEra : century < 3
  · have next := beforeMarch_parts era (century + 1) 0 0 (by omega) (by omega) (by omega)
    rw [show 100 * (century + 1) + 4 * 0 + 0 + era * 400 =
      100 * century + 4 * cycle + year + era * 400 + 1 by omega] at next
    omega
  · have next := beforeMarch_parts (era + 1) 0 0 0 (by omega) (by omega) (by omega)
    rw [show 100 * 0 + 4 * 0 + 0 + (era + 1) * 400 =
      100 * century + 4 * cycle + year + era * 400 + 1 by omega] at next
    omega

def fromMarch (year rest : Nat) : Nat × Nat × Nat :=
  let month := (5 * rest + 2) / 153
  (if month < 10 then year else year + 1, if month < 10 then month + 3 else month - 9, rest - (153 * month + 2) / 5 + 1)

theorem exists_march (days : Nat) : ∃ year rest, civil days = fromMarch year rest ∧
    days + 306 = beforeMarch year + rest ∧ rest ≤ 365 ∧ beforeMarch year + rest < beforeMarch (year + 1) := by
  obtain ⟨century, cycle, year, rest, parts, centuries, cycles, years, rests, leap⟩ :=
    exists_parts ((days + 306) % 146097) (Nat.mod_lt _ (by decide))
  have ofEra := yearOfEra_parts parts centuries cycles years rests leap
  obtain ⟨count, counted⟩ : ∃ count, count = 100 * century + 4 * cycle + year := ⟨_, rfl⟩
  obtain ⟨era, eras⟩ : ∃ era, era = (days + 306) / 146097 := ⟨_, rfl⟩
  have quarters : count / 4 = 25 * century + cycle := by omega
  have hundreds : count / 100 = century := by omega
  have before : (days + 306) % 146097 - (365 * count + (25 * century + cycle) - century) = rest := by omega
  have ofYear := beforeMarch_parts era century cycle year centuries cycles years
  have nextYear := @beforeMarch_next era _ _ _ _ centuries cycles years rests leap
  rw [← counted] at ofYear nextYear
  refine ⟨count + era * 400, rest, ?_, ?_, rests, nextYear⟩
  rotate_left
  · have whole := Nat.div_add_mod (days + 306) 146097
    rw [← eras] at whole
    omega
  unfold civil fromMarch
  simp only [ofEra, ← counted, quarters, hundreds, before, ← eras]
  by_cases spring : (5 * rest + 2) / 153 < 10
  · have later : ¬(5 * rest + 2) / 153 + 3 ≤ 2 := by omega
    simp only [spring, ↓reduceIte, later]
  · have early : (5 * rest + 2) / 153 - 9 ≤ 2 := by omega
    simp only [spring, ↓reduceIte, early]

def DateBefore (first second : Nat × Nat × Nat) : Prop :=
  first.1 < second.1 ∨ first.1 = second.1 ∧ (first.2.1 < second.2.1 ∨ first.2.1 = second.2.1 ∧ first.2.2 < second.2.2)

theorem fromMarch_before {year later rest past : Nat} (small : rest ≤ 365)
    (before : year < later ∨ year = later ∧ rest < past) : DateBefore (fromMarch year rest) (fromMarch later past) := by
  unfold DateBefore fromMarch
  obtain ⟨month, monthly⟩ : ∃ month, month = (5 * rest + 2) / 153 := ⟨_, rfl⟩
  obtain ⟨next, nextly⟩ : ∃ next, next = (5 * past + 2) / 153 := ⟨_, rfl⟩
  simp only [← monthly, ← nextly]
  by_cases spring : month < 10 <;> by_cases laterSpring : next < 10 <;>
    simp only [spring, laterSpring, ↓reduceIte] <;> omega

theorem civil_before {first second : Nat} (less : first < second) : DateBefore (civil first) (civil second) := by
  obtain ⟨year, rest, date, days, small, -⟩ := exists_march first
  obtain ⟨later, past, laterDate, laterDays, -, next⟩ := exists_march second
  rw [date, laterDate]
  refine fromMarch_before small ?_
  rcases Nat.lt_trichotomy year later with before | same | after
  · exact .inl before
  · exact .inr ⟨same, by rw [same] at days; omega⟩
  · have passed := beforeMarch_mono (show later + 1 ≤ year from after)
    omega

theorem dateText_lt {first second : Nat} (less : first < second) (within : second < limit / microsecondsPerDay)
    (left right : List Char) : dateText first ++ left < dateText second ++ right := by
  have early : first < limit / microsecondsPerDay := Nat.lt_trans less within
  obtain ⟨-, years, months, days⟩ := civil_bounds early
  obtain ⟨-, laterYears, laterMonths, laterDays⟩ := civil_bounds within
  have before := civil_before less
  unfold DateBefore at before
  unfold dateText
  rcases date : civil first with ⟨year, month, day⟩
  rcases laterDate : civil second with ⟨later, next, past⟩
  rw [date] at years months days before
  rw [laterDate] at laterYears laterMonths laterDays before
  simp only at years months days laterYears laterMonths laterDays before
  simp only [List.append_assoc, List.cons_append]
  rcases before with years | ⟨rfl, months | ⟨rfl, days⟩⟩
  · exact digits_lt (by omega) _ _
  · exact append_cons_lt (digits_lt (by omega) _ _) _
  · exact append_cons_lt (append_cons_lt (digits_lt (by omega) _ _) _) _

end Calendar

theorem secondText_lt {first second : Nat} (less : first < second) (within : second < limit / 1000000)
    (left right : List Char) : secondText first ++ left < secondText second ++ right := by
  have inYears : second / 86400 < limit / microsecondsPerDay := by
    unfold limit microsecondsPerDay at *
    omega
  simp only [secondText, List.append_assoc, List.cons_append]
  by_cases days : first / 86400 = second / 86400
  · rw [days]
    refine append_cons_lt ?_ _
    by_cases hours : first / 3600 % 24 = second / 3600 % 24
    · rw [hours]
      refine append_cons_lt ?_ _
      by_cases minutes : first / 60 % 60 = second / 60 % 60
      · rw [minutes]
        exact append_cons_lt (digits_lt (by omega) _ _) _
      · exact digits_lt (by omega) _ _
    · exact digits_lt (by omega) _ _
  · exact dateText_lt (by omega) inYears _ _

theorem append_lt_iff (front : List Char) {left right : List Char} : front ++ left < front ++ right ↔ left < right := by
  induction front with
  | nil => rfl
  | cons letter front ih => rw [List.cons_append, List.cons_append, List.cons_lt_cons_self, ih]

def Skewed (first second : Nat) : Prop :=
  first / 1000000 = second / 1000000 ∧ (first % 1000000 = 0 ↔ second % 1000000 ≠ 0)

instance (first second : Nat) : Decidable (Skewed first second) := inferInstanceAs (Decidable (_ ∧ _))

theorem fractionText_lt_iff {first second : Nat} (small : first < 1000000) (large : second < 1000000) :
    fractionText first ++ ['Z'] < fractionText second ++ ['Z'] ↔
      if first = 0 ↔ second ≠ 0 then second < first else first < second := by
  unfold fractionText
  by_cases whole : first = 0 <;> by_cases other : second = 0
  · simp [whole, other]
  · have mark : ¬['Z'] < '.' :: (digits 6 second ++ ['Z']) := by
      rw [List.cons_lt_cons_iff]
      rintro (order | ⟨same, -⟩)
      · exact absurd order (by decide)
      · exact absurd same (by decide)
    simp [whole, other, mark]
  · have mark : '.' :: (digits 6 first ++ ['Z']) < ['Z'] := List.cons_lt_cons_iff.mpr (.inl (by decide))
    simp only [whole, other, ↓reduceIte, List.cons_append, mark, ne_eq, not_true_eq_false, true_iff, List.nil_append]
    omega
  · simp only [whole, other, ↓reduceIte, List.cons_append, List.cons_lt_cons_self, ne_eq, not_false_eq_true, iff_true]
    rcases Nat.lt_trichotomy first second with before | rfl | after
    · exact iff_of_true (digits_lt (by omega) _ _) before
    · exact iff_of_false (List.lt_irrefl _) (Nat.lt_irrefl _)
    · exact iff_of_false (List.lt_asymm (digits_lt (by omega) _ _)) (by omega)

theorem isoText_lt_iff {first second : Nat} (early : first < limit) (late : second < limit) :
    isoText first ++ ['Z'] < isoText second ++ ['Z'] ↔ if Skewed first second then second < first else first < second := by
  have within {instant : Nat} (bounded : instant < limit) : instant / 1000000 < limit / 1000000 := by
    unfold limit microsecondsPerDay at *
    omega
  rw [isoText_eq, isoText_eq, List.append_assoc, List.append_assoc]
  rcases Nat.lt_trichotomy (first / 1000000) (second / 1000000) with before | same | after
  · rw [if_neg fun skewed => absurd skewed.1 (Nat.ne_of_lt before)]
    exact iff_of_true (secondText_lt before (within late) _ _) (by omega)
  · have fractions : Skewed first second ↔ (first % 1000000 = 0 ↔ second % 1000000 ≠ 0) := and_iff_right same
    rw [same, append_lt_iff, fractionText_lt_iff (Nat.mod_lt _ (by decide)) (Nat.mod_lt _ (by decide))]
    by_cases skewed : Skewed first second
    · rw [if_pos skewed, if_pos (fractions.mp skewed)]
      omega
    · rw [if_neg skewed, if_neg (mt fractions.mpr skewed)]
      omega
  · rw [if_neg fun skewed => absurd skewed.1 (Nat.ne_of_gt after)]
    exact iff_of_false (List.lt_asymm (secondText_lt after (within early) _ _)) (by omega)

end Timestamp
