/-
Module: SolanaTransactions.Proofs.LookupTable.AccountData
Purpose: The addresses in the account data of a table, and how an extension appends to them.
Main exports:
  LookupTable.decodeAddresses_append, LookupTable.flatMap_toBytes_decodeAddresses,
  LookupTable.decodeAddresses_append_of_aligned, LookupTable.decode_extendInstruction
-/
import SolanaTransactions.LookupTable.Program
import SolanaTransactions.Proofs.Message.WireLength

namespace SolanaTransactions

/-!
An address takes 32 bytes, and decoding reads one complete address after the
other.  Aligned data therefore is the bytes of its addresses, so what stands behind
it is read as if it stood alone.  The data of an extension is a tag, a count and
the same bytes of addresses.
-/

namespace LookupTable

/-! ### Reading -/

/-- As many addresses are read as there is room for. -/
theorem length_decodeAddresses (data : Bytes) :
    (decodeAddresses data).length = data.length / 32 := by
  fun_induction decodeAddresses data with
  | case1 data short => simp [Nat.div_eq_of_lt short]
  | case2 data long ih =>
      rw [List.length_cons, ih, List.length_drop]
      omega

/-- An address that is read is the 32 bytes at its place. -/
theorem toBytes_of_getElem?_decodeAddresses {data : Bytes} {position : Nat} {address : Key}
    (found : (decodeAddresses data)[position]? = some address) :
    address.toBytes = (data.drop (32 * position)).take 32 := by
  fun_induction decodeAddresses data generalizing position with
  | case1 => simp at found
  | case2 data long ih =>
      cases position with
      | zero =>
          obtain rfl : Key.ofBytes (data.take 32) = address := by simpa using found
          apply Key.toBytes_ofBytes
          simp [Nat.le_of_not_lt long]
      | succ position =>
          rw [List.getElem?_cons_succ] at found
          rw [ih found, List.drop_drop]
          congr 2
          omega

/-- Keys written one after the other are read back, whatever follows them. -/
theorem decodeAddresses_append (addresses : List Key) (rest : Bytes) :
    decodeAddresses (addresses.flatMap Key.toBytes ++ rest) = addresses ++ decodeAddresses rest := by
  induction addresses with
  | nil => rfl
  | cons first others ih =>
      have long : ¬((first :: others).flatMap Key.toBytes ++ rest).length < 32 := by
        simp
      rw [decodeAddresses, if_neg long, List.flatMap_cons, List.append_assoc,
        List.take_left' first.length_toBytes, List.drop_left' first.length_toBytes,
        Key.ofBytes_toBytes, ih, List.cons_append]

theorem decodeAddresses_flatMap_toBytes (addresses : List Key) :
    decodeAddresses (addresses.flatMap Key.toBytes) = addresses := by
  have whole := decodeAddresses_append addresses []
  rw [List.append_nil] at whole
  rw [whole, decodeAddresses, if_pos (by decide), List.append_nil]

/-- Data without a partial address is the bytes of its addresses. -/
theorem flatMap_toBytes_decodeAddresses {data : Bytes} (aligned : 32 ∣ data.length) :
    (decodeAddresses data).flatMap Key.toBytes = data := by
  fun_induction decodeAddresses data with
  | case1 data short =>
      have empty : data.length = 0 := Nat.eq_zero_of_dvd_of_lt aligned short
      simp [List.length_eq_zero_iff.1 empty]
  | case2 data long ih =>
      have first : (data.take 32).length = 32 := by simp [Nat.le_of_not_lt long]
      have rest : 32 ∣ (data.drop 32).length := by
        rw [List.length_drop]
        omega
      rw [List.flatMap_cons, ih rest, Key.toBytes_ofBytes first, List.take_append_drop]

theorem decodeAddresses_append_of_aligned {data : Bytes} (aligned : 32 ∣ data.length)
    (rest : Bytes) :
    decodeAddresses (data ++ rest) = decodeAddresses data ++ decodeAddresses rest := by
  have whole := decodeAddresses_append (decodeAddresses data) rest
  rw [flatMap_toBytes_decodeAddresses aligned] at whole
  exact whole

/-! ### Extending -/

theorem drop_extendData (addresses : List Key) :
    (extendData addresses).drop 12 = addresses.flatMap Key.toBytes := by
  rw [extendData]
  exact List.drop_left' (by simp)

theorem ofLittleEndian_extendData {addresses : List Key} (small : addresses.length < wordLimit) :
    Bytes.ofLittleEndian (((extendData addresses).drop 4).take 8) = addresses.length := by
  rw [extendData, List.append_assoc, List.drop_left' (by simp), List.take_left' (by simp),
    Bytes.ofLittleEndian_littleEndian]
  exact Nat.mod_eq_of_lt small

theorem length_extendData (addresses : List Key) :
    (extendData addresses).length = 12 + 32 * addresses.length := by
  rw [extendData, List.length_append, List.length_append, Bytes.length_littleEndian,
    Bytes.length_littleEndian, Bytes.length_flatMap_of_width Key.length_toBytes]

/-- What an extension carries behind its count is read as its addresses, behind those of the table. -/
theorem decode_append_extendData {data : Bytes} (header : 56 ≤ data.length)
    (aligned : 32 ∣ data.length - 56) (key : Key) (addresses : List Key) :
    decode key (data ++ (extendData addresses).drop 12) =
      ⟨key, (decode key data).addresses ++ addresses⟩ := by
  have behind : 32 ∣ (data.drop headerSize).length := by
    rw [List.length_drop]
    exact aligned
  have splits : (data ++ addresses.flatMap Key.toBytes).drop headerSize =
      data.drop headerSize ++ addresses.flatMap Key.toBytes := List.drop_append_of_le_length header
  rw [decode, decode, drop_extendData, splits, decodeAddresses_append_of_aligned behind,
    decodeAddresses_flatMap_toBytes]

/-- A table has as many addresses as its data has room for behind the header, each of them the 32 bytes
at its place.  The address part of an extension, appended to data without a partial address, adds its
addresses behind those of the table, and its count tells how many. -/
theorem decode_extendInstruction :
    (∀ (key : Key) (data : Bytes),
      (decode key data).key = key ∧
        (decode key data).addresses.length = (data.length - 56) / 32 ∧
        ∀ position < (data.length - 56) / 32, ∃ address,
          (decode key data).addresses[position]? = some address ∧
            address.toBytes = (data.drop (56 + 32 * position)).take 32) ∧
    ∀ (key table authority : Key) (payer : Option Key) (data : Bytes) (addresses : List Key),
      56 ≤ data.length → 32 ∣ data.length - 56 → addresses.length < 2 ^ 64 →
      let extension := (extendInstruction table authority payer addresses).data
      decode key (data ++ extension.drop 12) = ⟨key, (decode key data).addresses ++ addresses⟩ ∧
        Bytes.ofLittleEndian ((extension.drop 4).take 8) = addresses.length := by
  constructor
  · intro key data
    have count : (decode key data).addresses.length = (data.length - 56) / 32 := by
      rw [decode, length_decodeAddresses, List.length_drop, headerSize]
    refine ⟨rfl, count, fun position inside => ?_⟩
    rw [← count] at inside
    refine ⟨_, List.getElem?_eq_getElem inside, ?_⟩
    have slice := toBytes_of_getElem?_decodeAddresses (List.getElem?_eq_getElem inside)
    rw [List.drop_drop] at slice
    exact slice
  · intro key table authority payer data addresses header aligned small
    exact ⟨decode_append_extendData header aligned key addresses, ofLittleEndian_extendData small⟩

/-- A table of one address is extended by two, without a payer. -/
theorem decode_extendInstruction_one :
    let data : Bytes := List.replicate 56 1 ++ (Key.ofNat 5).toBytes
    let addresses := [Key.ofNat 3, Key.ofNat 4]
    (56 ≤ data.length ∧ 32 ∣ data.length - 56 ∧ addresses.length < 2 ^ 64) ∧
      decode (Key.ofNat 90) (data ++
          (extendInstruction (Key.ofNat 90) (Key.ofNat 2) none addresses).data.drop 12) =
        ⟨Key.ofNat 90, [Key.ofNat 5, Key.ofNat 3, Key.ofNat 4]⟩ := by
  intro data addresses
  have header : 56 ≤ data.length := by decide
  have aligned : 32 ∣ data.length - 56 := by decide
  have small : addresses.length < 2 ^ 64 := by decide
  have extended := (decode_extendInstruction.2 (Key.ofNat 90) (Key.ofNat 90) (Key.ofNat 2) none data
    addresses header aligned small).1
  have before : (decode (Key.ofNat 90) data).addresses = [Key.ofNat 5] :=
    decodeAddresses_flatMap_toBytes [Key.ofNat 5]
  rw [before] at extended
  exact ⟨⟨header, aligned, small⟩, extended⟩

end LookupTable

end SolanaTransactions
