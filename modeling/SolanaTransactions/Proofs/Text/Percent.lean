/-
Module: SolanaTransactions.Proofs.Text.Percent
Purpose: Percent-encoded text is read as that text and holds no separator of the query syntax.
Main exports:
  Percent.decode?_encode, Percent.notMem_encode, Percent.decodeText?, Percent.decodeText?_encodeText
-/
import SolanaTransactions.Text.Percent

namespace SolanaTransactions.Percent

/-! ### One byte -/

theorem hexValue?_hexDigit {number : Nat} (small : number < 16) :
    hexValue? (hexDigit number) = some number := by
  have every : ∀ digit : Fin 16, hexValue? (hexDigit digit) = some digit.val := by decide
  exact every ⟨number, small⟩

theorem isUnreserved_hexDigit {number : Nat} (small : number < 16) :
    isUnreserved (UInt8.ofNat (hexDigit number).toNat) = true := by
  have every : ∀ digit : Fin 16, isUnreserved (UInt8.ofNat (hexDigit digit).toNat) = true := by
    decide
  exact every ⟨number, small⟩

theorem toNat_ofNat_byte (byte : UInt8) : (Char.ofNat byte.toNat).toNat = byte.toNat := by
  have valid : byte.toNat.isValidChar := Or.inl (Nat.lt_trans byte.toNat_lt (by decide))
  rw [Char.ofNat, dif_pos valid]
  rfl

/-- The written form of a byte is read as that byte, whatever follows it. -/
theorem decode?_encodeByte_append (byte : UInt8) (rest : List Char) :
    decode? (encodeByte byte ++ rest) = (decode? rest).map (byte :: ·) := by
  have small : byte.toNat < 256 := byte.toNat_lt
  by_cases plain : isUnreserved byte = true
  · have itself : encodeByte byte ++ rest = Char.ofNat byte.toNat :: rest := by
      simp [encodeByte, plain]
    -- The percent sign is no unreserved character, so the escape does not apply.
    have noEscape : Char.ofNat byte.toNat ≠ '%' := by
      intro escape
      have code : byte.toNat = 37 := by
        rw [← toNat_ofNat_byte, escape]
        rfl
      simp [isUnreserved, code] at plain
    rw [itself, decode?.eq_3 _ _ (fun _ _ _ escape _ => noEscape escape), toNat_ofNat_byte]
    simp [small, plain]
  · have escaped : encodeByte byte ++ rest =
        '%' :: hexDigit (byte.toNat / 16) :: hexDigit (byte.toNat % 16) :: rest := by
      simp [encodeByte, plain]
    have whole : UInt8.ofNat (16 * (byte.toNat / 16) + byte.toNat % 16) = byte := by
      rw [Nat.div_add_mod, UInt8.ofNat_toNat]
    rw [escaped, decode?, hexValue?_hexDigit (by omega), hexValue?_hexDigit (by omega)]
    simp only [Option.bind_eq_bind, Option.bind_some, whole]
    cases decode? rest <;> rfl

theorem mem_encodeByte {byte : UInt8} {character : Char} (member : character ∈ encodeByte byte) :
    character = '%' ∨ isUnreserved (UInt8.ofNat character.toNat) = true := by
  have small : byte.toNat < 256 := byte.toNat_lt
  by_cases plain : isUnreserved byte = true
  · obtain rfl : character = Char.ofNat byte.toNat := by
      simpa [encodeByte, plain] using member
    right
    rw [toNat_ofNat_byte, UInt8.ofNat_toNat]
    exact plain
  · simp only [encodeByte, plain, Bool.false_eq_true, if_false, List.mem_cons, List.not_mem_nil,
      or_false] at member
    rcases member with rfl | rfl | rfl
    · exact Or.inl rfl
    · exact Or.inr (isUnreserved_hexDigit (by omega))
    · exact Or.inr (isUnreserved_hexDigit (by omega))

/-! ### Byte strings and texts -/

/-- The written form of a byte string is read as that byte string. -/
theorem decode?_encode (bytes : Bytes) : decode? (encode bytes) = some bytes := by
  induction bytes with
  | nil => rfl
  | cons byte rest ih =>
      rw [encode, List.flatMap_cons, decode?_encodeByte_append]
      rw [encode] at ih
      rw [ih, Option.map_some]

/-- Only unreserved characters and the percent sign are written. -/
theorem notMem_encode {character : Char} (notEscape : character ≠ '%')
    (reserved : isUnreserved (UInt8.ofNat character.toNat) = false) (bytes : Bytes) :
    character ∉ encode bytes := by
  intro member
  obtain ⟨byte, _, written⟩ := List.mem_flatMap.1 member
  rcases mem_encodeByte written with escape | unreserved
  · exact notEscape escape
  · simp [reserved] at unreserved

/-- The text that a written form stands for, byte by byte in UTF-8. -/
def decodeText? (written : List Char) : Option String := do
  let bytes ← decode? written
  String.fromUTF8? ⟨bytes.toArray⟩

/-- The written form of a text is read as that text. -/
theorem decodeText?_encodeText (text : String) :
    decodeText? (encodeText text).toList = some text := by
  have valid : text.toUTF8.IsValidUTF8 := text.isValidUTF8
  rw [decodeText?, encodeText, String.toList_ofList, decode?_encode]
  simp only [Option.bind_eq_bind, Option.bind_some, utf8]
  exact dif_pos valid

theorem encodeText_injective {text other : String} (same : encodeText text = encodeText other) :
    text = other := by
  have read := decodeText?_encodeText text
  rw [same, decodeText?_encodeText] at read
  exact (Option.some.inj read).symm

end SolanaTransactions.Percent
