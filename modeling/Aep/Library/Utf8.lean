import Aep.Library.Text

/-! Texts as bytes. A decoder that reads them in chunks keeps the beginning of a character for the next chunk. -/
namespace Utf8

def encode (text : Text) : List UInt8 := text.flatMap String.utf8EncodeChar

def decodeChar? (bytes : List UInt8) : Option Char := bytes.toByteArray.utf8DecodeChar? 0

def secondByte (lead second : Nat) : Bool :=
  (if lead = 0xe0 then 0xa0 else if lead = 0xf0 then 0x90 else 0x80) ≤ second &&
    second ≤ if lead = 0xed then 0x9f else if lead = 0xf4 then 0x8f else 0xbf

def beginsChar (bytes : List UInt8) : Bool :=
  match bytes.map UInt8.toNat with
  | [lead] => 0xc2 ≤ lead && lead ≤ 0xf4
  | [lead, second] => 0xe0 ≤ lead && lead ≤ 0xf4 && secondByte lead second
  | [lead, second, third] => 0xf0 ≤ lead && lead ≤ 0xf4 && secondByte lead second && 0x80 ≤ third && third ≤ 0xbf
  | _ => false

def decodeFrom : (fuel : Nat) → List UInt8 → Option (Text × List UInt8)
  | _, [] => some ([], [])
  | 0, _ => none
  | fuel + 1, bytes =>
    match decodeChar? bytes with
    | some char => (decodeFrom fuel (bytes.drop char.utf8Size)).map fun (text, rest) => (char :: text, rest)
    | none => if beginsChar bytes then some ([], bytes) else none

def decode (bytes : List UInt8) : Option (Text × List UInt8) := decodeFrom bytes.length bytes

@[simp] theorem encode_nil : encode [] = [] := rfl

@[simp] theorem encode_cons (char : Char) (text : Text) : encode (char :: text) = String.utf8EncodeChar char ++ encode text :=
  rfl

@[simp] theorem encode_append (first second : Text) : encode (first ++ second) = encode first ++ encode second :=
  List.flatMap_append

theorem encodeChar_ne_nil (char : Char) : String.utf8EncodeChar char ≠ [] := by
  intro empty
  have size := String.length_utf8EncodeChar char
  rw [empty] at size
  exact absurd size (Nat.ne_of_lt char.utf8Size_pos)

theorem encode_eq_nil {text : Text} : encode text = [] ↔ text = [] := by
  cases text with
  | nil => simp
  | cons char rest => simp [encodeChar_ne_nil]

theorem decodeChar?_encodeChar (char : Char) (rest : List UInt8) :
    decodeChar? (String.utf8EncodeChar char ++ rest) = some char := by
  rw [decodeChar?, List.toByteArray_append]
  exact ByteArray.utf8DecodeChar?_utf8EncodeChar_append

theorem decodeChar?_begun {char : Char} {bytes : List UInt8} (begins : bytes <+: String.utf8EncodeChar char)
    (shorter : bytes ≠ String.utf8EncodeChar char) : decodeChar? bytes = none := by
  cases found : decodeChar? bytes with
  | none => rfl
  | some other =>
    obtain ⟨more, split⟩ := ByteArray.exists_of_utf8DecodeChar?_eq_some found
    have bytesEq : bytes = String.utf8EncodeChar other ++ more.data.toList := by
      have listed := congrArg (fun array : ByteArray => array.data.toList) split
      simpa using listed
    obtain ⟨rest, whole⟩ := begins
    have same : some other = some char := by
      rw [← decodeChar?_encodeChar char [], List.append_nil, ← whole, bytesEq, List.append_assoc, decodeChar?_encodeChar]
    cases same
    have length := congrArg List.length whole
    rw [bytesEq] at length
    simp only [List.length_append] at length
    have none : more.data.toList = [] := List.eq_nil_of_length_eq_zero (by omega)
    rw [none, List.append_nil] at bytesEq
    exact absurd bytesEq shorter

theorem zero_mem_encodeChar {char : Char} (member : 0 ∈ String.utf8EncodeChar char) : char = '\x00' := by
  have nonzero {value : Nat} (least : 0 < value) (less : value < 256) : (0 : UInt8) ≠ UInt8.ofNat value := by
    intro same
    have numbers := congrArg UInt8.toNat same
    rw [UInt8.toNat_ofNat_of_lt' less] at numbers
    exact absurd numbers (Nat.ne_of_lt least)
  have valid : char.val.toNat < 0xd800 ∨ (0xdfff < char.val.toNat ∧ char.val.toNat < 0x110000) := char.valid
  by_contra other
  have least : 0 < char.val.toNat := by
    rcases Nat.eq_zero_or_pos char.val.toNat with zero | some
    · exact absurd (Char.ext (UInt32.toNat_inj.mp zero)) other
    · exact some
  unfold String.utf8EncodeChar at member
  dsimp only at member
  generalize char.val.toNat = value at member valid least
  split at member
  · exact nonzero least (by omega) (List.mem_singleton.mp member)
  · split at member
    · simp only [List.mem_cons, List.not_mem_nil, or_false] at member
      rcases member with same | same
      · exact nonzero (by omega) (by omega) same
      · exact nonzero (by omega) (by omega) same
    · split at member
      · simp only [List.mem_cons, List.not_mem_nil, or_false] at member
        rcases member with same | same | same
        · exact nonzero (by omega) (by omega) same
        · exact nonzero (by omega) (by omega) same
        · exact nonzero (by omega) (by omega) same
      · simp only [List.mem_cons, List.not_mem_nil, or_false] at member
        rcases member with same | same | same | same
        · exact nonzero (by omega) (by omega) same
        · exact nonzero (by omega) (by omega) same
        · exact nonzero (by omega) (by omega) same
        · exact nonzero (by omega) (by omega) same

theorem zero_mem_encode {text : Text} (member : 0 ∈ encode text) : '\x00' ∈ text := by
  obtain ⟨char, inside, zero⟩ := List.mem_flatMap.mp member
  exact zero_mem_encodeChar zero ▸ inside

theorem encodeChar_cases (char : Char) :
    (String.utf8EncodeChar char).length = 1 ∨
      (∃ lead second, (String.utf8EncodeChar char).map UInt8.toNat = [lead, second] ∧ 0xc2 ≤ lead ∧ lead ≤ 0xdf) ∨
      (∃ lead second third, (String.utf8EncodeChar char).map UInt8.toNat = [lead, second, third] ∧ 0xe0 ≤ lead ∧
        lead ≤ 0xef ∧ secondByte lead second = true) ∨
      ∃ lead second third fourth, (String.utf8EncodeChar char).map UInt8.toNat = [lead, second, third, fourth] ∧
        0xf0 ≤ lead ∧ lead ≤ 0xf4 ∧ secondByte lead second = true ∧ 0x80 ≤ third ∧ third ≤ 0xbf := by
  have valid : char.val.toNat < 0xd800 ∨ (0xdfff < char.val.toNat ∧ char.val.toNat < 0x110000) := char.valid
  have small {value : Nat} (less : value < 256) : (UInt8.ofNat value).toNat = value := UInt8.toNat_ofNat_of_lt' less
  unfold String.utf8EncodeChar
  dsimp only
  generalize char.val.toNat = value at valid
  split
  · exact .inl rfl
  · split
    · refine .inr (.inl ⟨_, _, rfl, ?_, ?_⟩)
      · rw [small (by omega)]
        omega
      · rw [small (by omega)]
        omega
    · split
      · refine .inr (.inr (.inl ⟨_, _, _, rfl, ?_, ?_, ?_⟩))
        · rw [small (by omega)]
          omega
        · rw [small (by omega)]
          omega
        · rw [small (by omega), small (by omega), secondByte, Bool.and_eq_true, decide_eq_true_eq, decide_eq_true_eq]
          constructor
          · split
            · omega
            · split <;> omega
          · split
            · omega
            · split <;> omega
      · refine .inr (.inr (.inr ⟨_, _, _, _, rfl, ?_, ?_, ?_, ?_, ?_⟩))
        · rw [small (by omega)]
          omega
        · rw [small (by omega)]
          omega
        · rw [small (by omega), small (by omega), secondByte, Bool.and_eq_true, decide_eq_true_eq, decide_eq_true_eq]
          constructor
          · split
            · omega
            · split <;> omega
          · split
            · omega
            · split <;> omega
        · rw [small (by omega)]
          omega
        · rw [small (by omega)]
          omega

theorem beginsChar_begun {char : Char} {bytes : List UInt8} (begins : bytes <+: String.utf8EncodeChar char)
    (shorter : bytes ≠ String.utf8EncodeChar char) (some : bytes ≠ []) : beginsChar bytes = true := by
  have fewer : bytes.length < (String.utf8EncodeChar char).length := by
    rcases Nat.lt_or_ge bytes.length (String.utf8EncodeChar char).length with less | least
    · exact less
    · exact absurd (begins.eq_of_length_le least) shorter
  have least : 0 < bytes.length := List.length_pos_iff.mpr some
  have numbers : bytes.map UInt8.toNat = ((String.utf8EncodeChar char).map UInt8.toNat).take bytes.length := by
    rw [← List.map_take, ← List.prefix_iff_eq_take.mp begins]
  rcases encodeChar_cases char with one | ⟨lead, second, two, low, high⟩ | ⟨lead, second, third, three, low, high, follows⟩ |
    ⟨lead, second, third, fourth, four, low, high, follows, thirdLow, thirdHigh⟩
  · omega
  · have size := congrArg List.length two
    rw [List.length_map] at size
    have count : bytes.length = 1 := by
      simp only [List.length_cons, List.length_nil] at size
      omega
    rw [two, count] at numbers
    simp only [beginsChar, numbers, List.take_succ_cons, List.take_zero]
    simp only [Bool.and_eq_true, decide_eq_true_eq]
    omega
  · have size := congrArg List.length three
    rw [List.length_map] at size
    simp only [List.length_cons, List.length_nil] at size
    have count : bytes.length = 1 ∨ bytes.length = 2 := by omega
    rcases count with count | count
    · rw [three, count] at numbers
      simp only [beginsChar, numbers, List.take_succ_cons, List.take_zero]
      simp only [Bool.and_eq_true, decide_eq_true_eq]
      omega
    · rw [three, count] at numbers
      simp only [beginsChar, numbers, List.take_succ_cons, List.take_zero]
      simp only [Bool.and_eq_true, decide_eq_true_eq, follows, and_true]
      omega
  · have size := congrArg List.length four
    rw [List.length_map] at size
    simp only [List.length_cons, List.length_nil] at size
    have count : bytes.length = 1 ∨ bytes.length = 2 ∨ bytes.length = 3 := by omega
    rcases count with count | count | count
    · rw [four, count] at numbers
      simp only [beginsChar, numbers, List.take_succ_cons, List.take_zero]
      simp only [Bool.and_eq_true, decide_eq_true_eq]
      omega
    · rw [four, count] at numbers
      simp only [beginsChar, numbers, List.take_succ_cons, List.take_zero]
      simp only [Bool.and_eq_true, decide_eq_true_eq, follows, and_true]
      omega
    · rw [four, count] at numbers
      simp only [beginsChar, numbers, List.take_succ_cons, List.take_zero]
      simp only [Bool.and_eq_true, decide_eq_true_eq, follows, and_true]
      omega

def Begun (bytes : List UInt8) (text : Text) : Prop :=
  bytes = [] ∨ ∃ char rest, text = char :: rest ∧ bytes <+: String.utf8EncodeChar char ∧ bytes ≠ String.utf8EncodeChar char

theorem Begun.head {bytes : List UInt8} {text : Text} (begun : Begun bytes text) (some : bytes ≠ []) {char : Char}
    (head : text.head? = Option.some char) : 1 < char.utf8Size := by
  rcases begun with rfl | ⟨first, rest, rfl, begins, shorter⟩
  · exact absurd rfl some
  · cases head
    have least := List.length_pos_iff.mpr some
    rcases Nat.lt_or_ge bytes.length (String.utf8EncodeChar char).length with less | all
    · rw [String.length_utf8EncodeChar] at less
      omega
    · exact absurd (begins.eq_of_length_le all) shorter

theorem Begun.empty {bytes : List UInt8} {text : Text} (begun : Begun bytes text) (whole : bytes = encode text) : text = [] := by
  rcases begun with rfl | ⟨char, rest, rfl, begins, shorter⟩
  · exact encode_eq_nil.mp whole.symm
  · have least := begins.length_le
    rw [whole, encode_cons, List.length_append] at least
    have none : encode rest = [] := List.eq_nil_of_length_eq_zero (by omega)
    rw [encode_cons, none, List.append_nil] at whole
    exact absurd whole shorter

theorem decodeFrom_encode {text rest : Text} {bytes : List UInt8} (begun : Begun bytes rest) :
    ∀ fuel, (encode text ++ bytes).length ≤ fuel → decodeFrom fuel (encode text ++ bytes) = some (text, bytes) := by
  induction text with
  | nil =>
    intro fuel enough
    rw [encode_nil, List.nil_append] at enough ⊢
    rcases begun with rfl | ⟨char, rest, rfl, begins, shorter⟩
    · cases fuel <;> rfl
    · cases bytes with
      | nil => cases fuel <;> rfl
      | cons byte more =>
        cases fuel with
        | zero => cases enough
        | succ fuel =>
          rw [decodeFrom, decodeChar?_begun begins shorter]
          · simp only
            rw [if_pos (beginsChar_begun begins shorter (by simp))]
          · simp
  | cons char text ih =>
    intro fuel enough
    have size : 0 < (String.utf8EncodeChar char).length := List.length_pos_iff.mpr (encodeChar_ne_nil char)
    rw [encode_cons, List.append_assoc] at enough ⊢
    rw [List.length_append] at enough
    cases fuel with
    | zero => omega
    | succ fuel =>
      have later := ih fuel (by omega)
      have read : decodeChar? (String.utf8EncodeChar char ++ (encode text ++ bytes)) = some char :=
        decodeChar?_encodeChar char _
      have dropped : (String.utf8EncodeChar char ++ (encode text ++ bytes)).drop char.utf8Size = encode text ++ bytes := by
        rw [← String.length_utf8EncodeChar char, List.drop_left]
      rw [decodeFrom, read]
      · simp only
        rw [dropped, later]
        rfl
      · simp

theorem decode_encode {text rest : Text} {bytes : List UInt8} (begun : Begun bytes rest) :
    decode (encode text ++ bytes) = some (text, bytes) :=
  decodeFrom_encode begun _ (Nat.le_refl _)

theorem cut_encode {text : Text} {bytes : List UInt8} (begins : bytes <+: encode text) :
    ∃ first second more, text = first ++ second ∧ bytes = encode first ++ more ∧ Begun more second := by
  induction text generalizing bytes with
  | nil =>
    rw [encode_nil, List.prefix_nil] at begins
    exact ⟨[], [], [], rfl, begins, .inl rfl⟩
  | cons char rest ih =>
    have whole : String.utf8EncodeChar char <+: encode (char :: rest) := List.prefix_append _ _
    rcases List.prefix_or_prefix_of_prefix whole begins with longer | shorter
    · obtain ⟨later, rfl⟩ := longer
      rw [encode_cons, List.prefix_append_right_inj] at begins
      obtain ⟨first, second, more, rfl, rfl, begun⟩ := ih begins
      exact ⟨char :: first, second, more, rfl, by simp, begun⟩
    · by_cases complete : bytes = String.utf8EncodeChar char
      · exact ⟨[char], rest, [], rfl, by simpa using complete, .inl rfl⟩
      · exact ⟨[], char :: rest, bytes, rfl, rfl, .inr ⟨char, rest, rfl, shorter, complete⟩⟩

end Utf8
