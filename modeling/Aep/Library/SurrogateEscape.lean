import Aep.Library.Utf8

/-! Bytes as characters, where a byte that is no part of a character stands for itself. -/

/-- A character, or a byte that a decoder keeps as a lone surrogate. -/
inductive EscapedChar where
  | char (value : Char)
  | byte (value : UInt8)
  deriving DecidableEq

abbrev EscapedText := List EscapedChar

namespace EscapedChar

def encode : EscapedChar → List UInt8
  | .char value => String.utf8EncodeChar value
  | .byte value => [value]

def codePoint : EscapedChar → Nat
  | .char value => value.toNat
  | .byte value => 0xdc00 + value.toNat

def char? : EscapedChar → Option Char
  | .char value => some value
  | .byte _ => none

end EscapedChar

namespace SurrogateEscape

def encode (text : EscapedText) : List UInt8 := text.flatMap EscapedChar.encode

def decodeFrom : (fuel : Nat) → List UInt8 → EscapedText
  | _, [] => []
  | 0, _ => []
  | fuel + 1, byte :: rest =>
    match Utf8.decodeChar? (byte :: rest) with
    | some char => .char char :: decodeFrom fuel ((byte :: rest).drop char.utf8Size)
    | none => .byte byte :: decodeFrom fuel rest

def decode (bytes : List UInt8) : EscapedText := decodeFrom bytes.length bytes

def strict? (bytes : List UInt8) : Option Text := (decode bytes).mapM EscapedChar.char?

theorem decodeChar?_split {bytes : List UInt8} {char : Char} (found : Utf8.decodeChar? bytes = some char) :
    bytes = String.utf8EncodeChar char ++ bytes.drop char.utf8Size := by
  obtain ⟨more, split⟩ := ByteArray.exists_of_utf8DecodeChar?_eq_some found
  have listed := congrArg (fun array : ByteArray => array.data.toList) split
  have whole : bytes = String.utf8EncodeChar char ++ more.data.toList := by simpa using listed
  have dropped : bytes.drop char.utf8Size = more.data.toList := by
    rw [whole, ← String.length_utf8EncodeChar char, List.drop_left]
  rw [dropped, ← whole]

theorem encode_decodeFrom (fuel : Nat) (bytes : List UInt8) (enough : bytes.length ≤ fuel) :
    encode (decodeFrom fuel bytes) = bytes := by
  induction fuel generalizing bytes with
  | zero =>
    rw [List.eq_nil_of_length_eq_zero (Nat.le_zero.mp enough)]
    rfl
  | succ fuel ih =>
    cases bytes with
    | nil => rfl
    | cons byte rest =>
      rw [decodeFrom]
      cases found : Utf8.decodeChar? (byte :: rest) with
      | none =>
        have later := ih rest (by simpa using enough)
        simpa [encode, EscapedChar.encode] using later
      | some char =>
        have size := char.utf8Size_pos
        have later := ih ((byte :: rest).drop char.utf8Size) (by rw [List.length_drop]; omega)
        have whole := decodeChar?_split found
        rw [← later] at whole
        simpa [encode, EscapedChar.encode] using whole.symm

@[simp] theorem encode_decode (bytes : List UInt8) : encode (decode bytes) = bytes :=
  encode_decodeFrom bytes.length bytes (Nat.le_refl _)

theorem decode_injective {left right : List UInt8} (same : decode left = decode right) : left = right := by
  rw [← encode_decode left, same, encode_decode]

theorem decode_cons {char : Char} {byte : UInt8} (single : String.utf8EncodeChar char = [byte]) (rest : List UInt8) :
    decode (byte :: rest) = .char char :: decode rest := by
  have read := Utf8.decodeChar?_encodeChar char rest
  have size := String.length_utf8EncodeChar char
  rw [single, List.singleton_append] at read
  rw [single, List.length_singleton] at size
  rw [decode, List.length_cons, decodeFrom, read]
  simp only [← size, List.drop_succ_cons, List.drop_zero, decode]

theorem decodeFrom_encode (text : Text) : ∀ fuel, (Utf8.encode text).length ≤ fuel →
    decodeFrom fuel (Utf8.encode text) = text.map .char := by
  induction text with
  | nil =>
    intro fuel enough
    cases fuel <;> rfl
  | cons char rest ih =>
    intro fuel enough
    have size : 0 < (String.utf8EncodeChar char).length := List.length_pos_iff.mpr (Utf8.encodeChar_ne_nil char)
    rw [Utf8.encode_cons, List.length_append] at enough
    cases fuel with
    | zero => omega
    | succ fuel =>
      have later := ih fuel (by omega)
      have read := Utf8.decodeChar?_encodeChar char (Utf8.encode rest)
      have dropped : (String.utf8EncodeChar char ++ Utf8.encode rest).drop char.utf8Size = Utf8.encode rest := by
        rw [← String.length_utf8EncodeChar char, List.drop_left]
      rw [Utf8.encode_cons]
      cases bytes : String.utf8EncodeChar char ++ Utf8.encode rest with
      | nil => simp [Utf8.encodeChar_ne_nil] at bytes
      | cons byte more =>
        rw [decodeFrom, ← bytes, read]
        simp only [dropped, later, List.map_cons]

theorem strict?_eq_some {bytes : List UInt8} {text : Text} : strict? bytes = some text ↔ bytes = Utf8.encode text := by
  have chars {escaped : EscapedText} {text : Text} : escaped.mapM EscapedChar.char? = some text ↔ escaped = text.map .char := by
    induction escaped generalizing text with
    | nil => cases text <;> simp
    | cons first rest ih =>
      cases text with
      | nil => simp [Option.bind_eq_some_iff]
      | cons char text =>
        cases first with
        | char value =>
          simp only [EscapedChar.char?, List.mapM_cons, Option.pure_def, Option.bind_eq_bind, Option.bind_some,
            Option.bind_eq_some_iff, ih, Option.some.injEq, List.cons.injEq, List.map_cons, EscapedChar.char.injEq]
          constructor
          · rintro ⟨more, whole, same, rfl⟩
            exact ⟨same, whole⟩
          · rintro ⟨same, whole⟩
            exact ⟨text, whole, same, rfl⟩
        | byte value => simp [EscapedChar.char?]
  constructor
  · intro read
    have decoded := encode_decode bytes
    rw [chars.mp read] at decoded
    rw [← decoded]
    simp only [encode, Utf8.encode, List.flatMap_map]
    rfl
  · rintro rfl
    exact chars.mpr (decodeFrom_encode text _ (Nat.le_refl _))

end SurrogateEscape
