import Mathlib.Data.List.Basic
import Mathlib.Algebra.GroupWithZero.Nat

abbrev Text := List Char

instance Text.lawful : LawfulBEq Text := inferInstance

namespace Text

/-- `str.isspace`, which is also what `\s` matches in a pattern. -/
def isSpace (char : Char) : Bool :=
  let code := char.toNat
  (9 ≤ code && code ≤ 13) || (28 ≤ code && code ≤ 32) || code = 0x85 || code = 0xa0 || code = 0x1680 ||
    (0x2000 ≤ code && code ≤ 0x200a) || code = 0x2028 || code = 0x2029 || code = 0x202f || code = 0x205f ||
    code = 0x3000

/-- The characters that a pattern of ASCII letters takes for one another when it ignores case. -/
def fold (char : Char) : Char :=
  if char.toNat = 0x130 || char.toNat = 0x131 then 'i'
  else if char.toNat = 0x17f then 's'
  else if char.toNat = 0x212a then 'k'
  else char.toLower

def utf8Length (text : Text) : Nat := (text.map Char.utf8Size).sum

def rstrip (drops : Char → Bool) (text : Text) : Text := (text.reverse.dropWhile drops).reverse

def strip (text : Text) : Text := rstrip isSpace (text.dropWhile isSpace)

/-- `text.split()`. -/
def words : Text → List Text
  | [] => []
  | char :: rest =>
    if isSpace char then words rest
    else
      match rest, words rest with
      | next :: _, word :: others => if isSpace next then [char] :: word :: others else (char :: word) :: others
      | _, others => [char] :: others

/-- `needle in text`. -/
def contains (needle : Text) : Text → Bool
  | [] => needle.isEmpty
  | char :: rest => needle.isPrefixOf (char :: rest) || contains needle rest

/-- The offsets at which `text.find(needle, start + 1)` finds one occurrence after the other. -/
def positions (needle text : Text) : List Nat :=
  (List.range (text.length + 1)).filter fun offset => needle.isPrefixOf (text.drop offset)

/-- The offsets at which `re.finditer` finds a text that is not empty. It goes on behind each occurrence. -/
def scanFrom (needle : Text) : (offset skip : Nat) → Text → List Nat
  | _, _, [] => []
  | offset, skip + 1, _ :: rest => scanFrom needle (offset + 1) skip rest
  | offset, 0, char :: rest =>
    if needle.isPrefixOf (char :: rest) then offset :: scanFrom needle (offset + 1) (needle.length - 1) rest
    else scanFrom needle (offset + 1) 0 rest

theorem mem_positions {needle text : Text} {offset : Nat} :
    offset ∈ positions needle text ↔ offset ≤ List.length text ∧ needle <+: List.drop offset text := by
  simp only [positions, List.mem_filter, List.mem_range, List.isPrefixOf_iff_prefix, Nat.lt_succ_iff]

def after? (needle : Text) : Text → Option Text
  | [] => if needle.isEmpty then some [] else none
  | char :: rest => if needle.isPrefixOf (char :: rest) then some ((char :: rest).drop needle.length) else after? needle rest

/-- Every occurrence of a text, from the left, gives way to another. The count skips what was matched. -/
def replaceFrom (wanted new : List Char) : Nat → List Char → List Char
  | _, [] => []
  | skip + 1, _ :: text => replaceFrom wanted new skip text
  | 0, letter :: text =>
    if wanted.isPrefixOf (letter :: text) then new ++ replaceFrom wanted new (wanted.length - 1) text
    else letter :: replaceFrom wanted new 0 text

def replace (wanted new text : List Char) : List Char := replaceFrom wanted new 0 text

theorem replaceFrom_length (wanted new text : List Char) : replaceFrom wanted new text.length text = [] := by
  induction text with
  | nil => rfl
  | cons letter text ih => exact ih

theorem replace_suffix {first : Char} {rest new front : List Char} (absent : first ∉ front) :
    replace (first :: rest) new (front ++ first :: rest) = front ++ new := by
  unfold replace
  induction front with
  | nil =>
    have here : (first :: rest).isPrefixOf (first :: rest) := List.isPrefixOf_iff_prefix.mpr (List.prefix_refl _)
    simp only [List.nil_append, replaceFrom, here, ↓reduceIte, List.length_cons, Nat.add_sub_cancel,
      replaceFrom_length, List.append_nil]
  | cons letter front ih =>
    have other : first ≠ letter := fun same => absent (same ▸ List.mem_cons_self)
    have nowhere : ¬(first :: rest).isPrefixOf (letter :: (front ++ first :: rest)) := by
      simp [List.isPrefixOf, other]
    simp only [List.cons_append, replaceFrom, nowhere, ih (fun later => absent (List.mem_cons_of_mem _ later)),
      Bool.false_eq_true, ↓reduceIte]

section Strip

variable {drops : Char → Bool} {text : Text}

def Trimmed (drops : Char → Bool) (text : Text) : Prop :=
  (∀ char ∈ text.head?, drops char = false) ∧ ∀ char ∈ text.getLast?, drops char = false

theorem trimmed_of_ends (front : text.head?.all (!drops ·) = true) (back : text.getLast?.all (!drops ·) = true) :
    Trimmed drops text := by
  simp only [Option.all_eq_true, Bool.not_eq_true'] at front back
  exact ⟨front, back⟩

theorem dropWhile_of_head (kept : ∀ char ∈ text.head?, drops char = false) : text.dropWhile drops = text := by
  cases text with
  | nil => rfl
  | cons char rest => exact List.dropWhile_cons_of_neg (by simp [kept char rfl])

theorem strip_of_trimmed (trimmed : Trimmed drops text) : rstrip drops (text.dropWhile drops) = text := by
  rw [dropWhile_of_head trimmed.1, rstrip, dropWhile_of_head, List.reverse_reverse]
  rw [List.head?_reverse]
  exact trimmed.2

theorem length_rstrip : (rstrip drops text).length ≤ text.length := by
  have dropped := (List.dropWhile_suffix drops (l := text.reverse)).length_le
  simpa [rstrip] using dropped

theorem length_strip : (rstrip drops (text.dropWhile drops)).length ≤ text.length :=
  Nat.le_trans length_rstrip (List.dropWhile_suffix drops).length_le

theorem trimmed_of_length (same : text.length ≤ (rstrip drops (text.dropWhile drops)).length) :
    Trimmed drops text := by
  have front : text.dropWhile drops = text :=
    (List.dropWhile_suffix drops).eq_of_length_le (Nat.le_trans same length_rstrip)
  rw [front] at same
  have back : text.reverse.dropWhile drops = text.reverse :=
    (List.dropWhile_suffix drops).eq_of_length_le (by simpa [rstrip] using same)
  have head (list : Text) (kept : list.dropWhile drops = list) : ∀ char ∈ list.head?, drops char = false := by
    intro char first
    cases list with
    | nil => cases first
    | cons other rest =>
      obtain rfl := Option.some.inj first
      by_contra dropped
      rw [List.dropWhile_cons_of_pos (by simpa using dropped)] at kept
      have shorter := (List.dropWhile_suffix drops (l := rest)).length_le
      rw [kept, List.length_cons] at shorter
      omega
  refine ⟨head text front, ?_⟩
  have last := head text.reverse back
  rwa [List.head?_reverse] at last

end Strip

end Text

namespace Text

/-- `text.split("\n")`. -/
def lines (text : Text) : List Text := text.splitOn '\n'

def StartsLine (front : Text) : Prop := front = [] ∨ front.getLast? = some '\n'

def EndsLine (back : Text) : Prop := back = [] ∨ back.head? = some '\n'

instance (front : Text) : Decidable (StartsLine front) := by unfold StartsLine; infer_instance

instance (back : Text) : Decidable (EndsLine back) := by unfold EndsLine; infer_instance

theorem lines_append_feed (front back : Text) : lines (front ++ '\n' :: back) = lines front ++ lines back :=
  List.splitOn_append_cons_self front back

def joined (parts : List Text) : Text := ['\n'].intercalate parts

theorem joined_lines (text : Text) : joined (lines text) = text := List.intercalate_splitOn '\n'

theorem joined_append {front back : List Text} (first : front ≠ []) (second : back ≠ []) :
    joined (front ++ back) = joined front ++ '\n' :: joined back := by
  induction front with
  | nil => exact absurd rfl first
  | cons line rest ih =>
    cases rest with
    | nil =>
      obtain ⟨next, others, rfl⟩ := List.exists_cons_of_ne_nil second
      simp [joined, List.intercalate]
    | cons next others =>
      have tail := ih (by simp)
      have step (more : List Text) (some : more ≠ []) : joined (line :: more) = line ++ '\n' :: joined more := by
        obtain ⟨head, remaining, rfl⟩ := List.exists_cons_of_ne_nil some
        simp [joined, List.intercalate]
      rw [List.cons_append, step _ (by simp), step _ (by simp), tail, List.append_assoc]
      rfl

theorem lines_ne_nil (text : Text) : lines text ≠ [] := List.splitOn_ne_nil '\n' text

theorem lines_infix_iff {part text : Text} :
    lines part <:+: lines text ↔ ∃ front back, text = front ++ part ++ back ∧ StartsLine front ∧ EndsLine back := by
  constructor
  · rintro ⟨before, after, same⟩
    have whole := joined_lines text
    rw [← same] at whole
    by_cases first : before = []
    · by_cases last : after = []
      · subst first last
        refine ⟨[], [], ?_, Or.inl rfl, Or.inl rfl⟩
        simpa [joined_lines] using whole.symm
      · subst first
        rw [List.nil_append, joined_append (lines_ne_nil part) last, joined_lines] at whole
        exact ⟨[], '\n' :: joined after, by simpa using whole.symm, Or.inl rfl, Or.inr rfl⟩
    · rw [List.append_assoc, joined_append first (by simp [lines_ne_nil])] at whole
      by_cases last : after = []
      · subst last
        rw [List.append_nil, joined_lines] at whole
        exact ⟨joined before ++ ['\n'], [], by simpa using whole.symm, Or.inr (by simp), Or.inl rfl⟩
      · rw [joined_append (lines_ne_nil part) last, joined_lines] at whole
        exact ⟨joined before ++ ['\n'], '\n' :: joined after, by simpa using whole.symm, Or.inr (by simp), Or.inr rfl⟩
  · rintro ⟨front, back, rfl, starts, ends⟩
    have behind : ∃ after, lines (part ++ back) = lines part ++ after := by
      rcases ends with rfl | feed
      · exact ⟨[], by simp⟩
      · cases back with
        | nil => cases feed
        | cons char rest =>
          cases feed
          exact ⟨lines rest, lines_append_feed part rest⟩
    obtain ⟨after, behind⟩ := behind
    rcases starts with rfl | feed
    · exact ⟨[], after, by simpa using behind.symm⟩
    · obtain ⟨start, rfl⟩ : ∃ start, front = start ++ ['\n'] := List.getLast?_eq_some_iff.mp feed
      refine ⟨lines start, after, ?_⟩
      have split : start ++ ['\n'] ++ part ++ back = start ++ '\n' :: (part ++ back) := by simp
      rw [split, lines_append_feed, behind, List.append_assoc]

end Text
