/-
Module: SolanaTransactions.Proofs.LookupTable.Covering
Purpose: What extends a table can always be packed, and carries every address once and in order.
Main exports:
  flatten_chunksOf, packProduced_extensionJob, extensionPacking_fits, exists_batches_of_extension,
  extension_covers_addresses
-/
import SolanaTransactions.Proofs.LookupTable.AccountData
import SolanaTransactions.Proofs.LookupTable.Outliving
import SolanaTransactions.Proofs.Packing.Refusal

namespace SolanaTransactions

/-!
A full piece of addresses makes an instruction of 660 bytes, and a transaction
around it has three signers and six keys at the most, however the keys of the
table, the authority and the payer coincide.  So every instruction fits alone,
and the packer never refuses one.
-/

/-! ### Pieces of a list -/

section Pieces

variable {α : Type} {size : Nat}

/-- The pieces of a list, one after the other, are the list. -/
theorem flatten_chunksOf (positive : 0 < size) (elements : List α) :
    (chunksOf size elements).flatten = elements := by
  fun_induction chunksOf size elements with
  | case1 elements none =>
      have empty := none.resolve_left (Nat.ne_of_gt positive)
      exact (List.isEmpty_iff.1 empty).symm
  | case2 elements _ ih =>
      rw [List.flatten_cons, ih, List.take_append_drop]

/-- No piece is empty, and none is longer than asked for. -/
theorem length_of_mem_chunksOf {elements piece : List α} (member : piece ∈ chunksOf size elements) :
    1 ≤ piece.length ∧ piece.length ≤ size := by
  fun_induction chunksOf size elements with
  | case1 => contradiction
  | case2 elements some ih =>
      rcases List.mem_cons.1 member with rfl | later
      · simp only [not_or, List.isEmpty_iff] at some
        obtain ⟨positive, nonempty⟩ := some
        have length := List.length_pos_iff.2 nonempty
        rw [List.length_take]
        omega
      · exact ih later

end Pieces

/-! ### The instructions of an extension -/

section Extension

variable {ε : Type}

variable (table : Key) (authority payer : Signer ε) (addresses : List Key)

/-- The job of extending a table. -/
def extensionJob : DynamicJob ε :=
  ⟨payer, (chunksOf extensionChunk addresses).map (extensionProducer table authority payer), [],
    [], [], defaultMaxInstructions⟩

/-- The call that appends some addresses to a table. -/
def extensionCall (piece : List Key) : Authorized (Signer ε) :=
  ⟨LookupTable.extendInstruction table authority.key (some payer.key) piece,
    [payer, payer, authority]⟩

/-- The calls that append addresses to a table, one for each piece of them. -/
def extensionCalls : List (Authorized (Signer ε)) :=
  (chunksOf extensionChunk addresses).map (extensionCall table authority payer)

/-- Packing for a payer, without tables and without anything around the batches. -/
def extensionPacking : PackingJob (Signer ε) :=
  ⟨payer.key, [], [], [], defaultMaxInstructions⟩

/-- Producing the calls of an extension asks for nothing. -/
theorem packProduced_extensionJob :
    packProduced (extensionJob table authority payer addresses) =
      pure ((extensionPacking payer).pack (extensionCalls table authority payer addresses)) := by
  have each : (extensionJob table authority payer addresses).producers.map
      (fun producer => producer payer) = ((chunksOf extensionChunk addresses).map fun piece =>
        [extensionCall table authority payer piece]).map pure := by
    rw [extensionJob, List.map_map, List.map_map]
    rfl
  have made : Producer.resolve (extensionJob table authority payer addresses).producers payer =
      pure (extensionCalls table authority payer addresses) := by
    rw [Producer.resolve, each, Client.gather_pure, pure_bind, ← List.flatMap_def,
      ← List.map_eq_flatMap]
    rfl
  rw [packProduced]
  show Producer.resolve (extensionJob table authority payer addresses).producers payer >>= _ = _
  rw [made, pure_bind]
  rfl

/-- The call for a piece is within the limits alone, whatever keys coincide. -/
theorem extensionPacking_fits {piece : List Key} (short : piece.length ≤ extensionChunk) :
    (extensionPacking payer).Fits [extensionCall table authority payer piece] := by
  let draft : Draft := ⟨payer.key, [LookupTable.extendInstruction table authority.key
    (some payer.key) piece]⟩
  have keys : draft.keys.size ≤ 6 := KeySet.size_ofList_le _
  have signers : (draft.keys.toList.filter draft.signs).length ≤ 3 := by
    rw [← toList_signerKeys]
    exact KeySet.size_ofList_le _
  have body : bodySize draft.instructions ≤ 8 + (12 + 32 * piece.length) := by
    have data := compactLength_le_two (12 + 32 * piece.length)
    have accounts : compactLength 4 = 1 := rfl
    simp only [draft, bodySize, instructionSize, LookupTable.extendInstruction,
      LookupTable.length_extendData, List.cons_append, List.nil_append, List.length_cons,
      List.length_nil]
    push_cast
    rw [accounts]
    omega
  have keyCount := compactLength_le_two draft.keys.size
  have signerCount := compactLength_le_two (draft.keys.toList.filter draft.signs).length
  have instructionCount := compactLength_le_two draft.instructions.length
  have estimated : (extensionPacking payer).estimate [extensionCall table authority payer piece] =
      estimateSize draft.instructions draft.payer [] := rfl
  simp only [extensionChunk] at short
  constructor
  · rw [estimated, Draft.estimateSize_nil]
    simp only [maxTransactionSize]
    omega
  · rw [estimated, Draft.estimateSize_nil]
    simp only [maxUniqueKeys]
    omega

theorem extensionPacking_opens (stream : List (Authorized (Signer ε))) :
    (extensionPacking payer).Opens stream where
  toFits := by
    have short : ([] : List Key).length ≤ extensionChunk := Nat.zero_le _
    exact PackingJob.Fits.of_sublist rfl (List.nil_sublist _)
      (extensionPacking_fits payer.key payer payer short)
  room := fun _ => by
    show (0 : Int) + 1 ≤ defaultMaxInstructions
    decide

/-- Packing an extension gives batches that hold its calls in order, and nothing else. -/
theorem exists_batches_of_extension :
    ∃ batches, (extensionPacking payer).pack (extensionCalls table authority payer addresses) =
        .ok batches ∧
      (batches.map (·.instructions)).flatten = extensionCalls table authority payer addresses := by
  have alone : ∀ call ∈ extensionCalls table authority payer addresses,
      (extensionPacking payer).Fits [call] := by
    intro call member
    obtain ⟨piece, inPieces, rfl⟩ := List.mem_map.1 member
    exact extensionPacking_fits table authority payer (length_of_mem_chunksOf inPieces).2
  obtain ⟨batches, packed⟩ :=
    PackingJob.exists_pack_of_fits (extensionPacking_opens payer _) alone
  obtain ⟨_, bodies, filling, rfl⟩ := PackingJob.pack_eq_ok_iff.1 packed
  refine ⟨_, packed, ?_⟩
  have whole : bodies.flatten = extensionCalls table authority payer addresses :=
    filling.flatten_eq
  have bare : (bodies.map (extensionPacking payer).batch).map (·.instructions) = bodies := by
    rw [List.map_map]
    exact List.map_id'' (fun body => List.append_nil body) bodies
  rw [bare, whole]

/-- The bytes behind the counts of the calls of an extension are those of its addresses. -/
theorem flatMap_payload_extensionCalls :
    (extensionCalls table authority payer addresses).flatMap
        (fun call => call.instruction.data.drop 12) = addresses.flatMap Key.toBytes := by
  have payload : ∀ piece : List Key, (extensionCall table authority payer
      piece).instruction.data.drop 12 = piece.flatMap Key.toBytes := LookupTable.drop_extendData
  have pieces : (chunksOf extensionChunk addresses).flatten = addresses :=
    flatten_chunksOf (by decide) addresses
  rw [extensionCalls, List.flatMap_map]
  simp only [payload]
  conv_rhs => rw [← pieces, List.flatten_eq_flatMap, List.flatMap_assoc]
  rfl

/-! ### Building and extending -/

variable (scheme : SignatureScheme) (network : Network ε) (options : TableOptions) (patience : Nat)

/-- Building an extension is signing what its batches compile to. -/
theorem buildExtension_eq {batches : List (Batch (Signer ε))}
    (packed : (extensionPacking payer).pack (extensionCalls table authority payer addresses) =
      .ok batches) :
    buildExtension scheme network table authority payer addresses options =
      buildAndSign scheme network payer (batches.map (·.plan
        (.latest (some (Commitment.firstGiven [options.submission.commitment]))))) >>= fun signed =>
        pure (.ok signed) := by
  show buildDynamic scheme network _ (extensionJob table authority payer addresses) = _
  rw [buildDynamic, packProduced_extensionJob, packed, pure_bind]
  rfl

/-- An extension that returns tells that it is too large, or concludes with the receipts of what it has
built. -/
theorem of_extendTable {result : Except String Key}
    (yields : (extendTable scheme network table authority payer addresses options
      patience).Yields (.ok result)) :
    result = .error ("Address lookup tables can only hold up to " ++ toString lookupTableCapacity ++
        " addresses") ∨
      ∃ receipts, (concludeExtension network table options patience receipts).Yields (.ok result) := by
  by_cases fits : addresses.length ≤ lookupTableCapacity
  · obtain ⟨batches, packed, _⟩ := exists_batches_of_extension table authority payer addresses
    rw [extendTable_eq _ _ _ _ _ _ _ _ fits, buildExtension_eq table authority payer addresses
      scheme network options packed] at yields
    obtain ⟨outcome, builds, later⟩ := yields.of_bind_ok
    obtain ⟨built, _, returned⟩ := builds.of_bind_ok
    obtain rfl := Except.ok.inj returned.of_pure
    obtain ⟨receipts, _, concludes⟩ := later.of_bind_ok
    exact Or.inr ⟨receipts, concludes⟩
  · rw [extendTable, if_pos (Nat.not_le.1 fits)] at yields
    exact Or.inl (Except.ok.inj yields.of_pure)

/-- The texts of the errors that an extension returns do not begin like that of a failure to build. -/
theorem extendTable_ne_failedToBuild (world : World ε) (message : String) :
    ((extendTable scheme network table authority payer addresses options patience).runFrom
      world).1 ≠ .ok (.error ("Failed to build dynamic transactions: " ++ message)) := by
  intro failed
  rcases of_extendTable table authority payer addresses scheme network options patience
    ⟨world, failed⟩ with large | ⟨receipts, concludes⟩
  · have first := congrArg (fun text : String => text.toList[0]?) (Except.error.inj large)
    simp at first
  · rcases of_concludeExtension network table options patience concludes with
      ⟨error, _, told⟩ | ⟨_, returned⟩
    · -- The eleventh letter is that of "build" or of "extend".
      have eleventh := congrArg (fun text : String => text.toList[10]?) (Except.error.inj told)
      simp at eleventh
    · contradiction

/-- Packing the instructions of an extension never fails, for any coincidence of the keys.  Each of them
carries between 1 and 20 addresses behind their count, and the addresses of all of them, behind the
header of a table, are read back as the list. -/
theorem extension_covers_addresses :
    (∃ batches,
      (∀ world, (packProduced ⟨payer, (chunksOf extensionChunk addresses).map
          (extensionProducer table authority payer), [], [], [],
          defaultMaxInstructions⟩).runFrom world = (.ok (.ok batches), world)) ∧
      (∀ batch ∈ batches, ∀ call ∈ batch.instructions, ∃ piece,
        call.instruction =
          LookupTable.extendInstruction table authority.key (some payer.key) piece ∧
        1 ≤ piece.length ∧ piece.length ≤ 20 ∧
        Bytes.ofLittleEndian ((call.instruction.data.drop 4).take 8) = piece.length ∧
        LookupTable.decodeAddresses (call.instruction.data.drop 12) = piece) ∧
      ∀ (key : Key) (header : Bytes), header.length = LookupTable.headerSize →
        LookupTable.decode key (header ++ (batches.map (·.instructions)).flatten.flatMap
          fun call => call.instruction.data.drop 12) = ⟨key, addresses⟩) ∧
    ∀ scheme network options patience world message,
      ((extendTable scheme network table authority payer addresses options patience).runFrom
        world).1 ≠ .ok (.error ("Failed to build dynamic transactions: " ++ message)) := by
  obtain ⟨batches, packed, calls⟩ := exists_batches_of_extension table authority payer addresses
  refine ⟨⟨batches, fun world => ?packs, fun batch member call inBatch => ?carries,
    fun key header length => ?covers⟩, fun scheme network options patience world message => ?never⟩
  case packs =>
    have known := packProduced_extensionJob table authority payer addresses
    rw [packed] at known
    exact congrArg (·.runFrom world) known
  case carries =>
    have inCalls : call ∈ extensionCalls table authority payer addresses := by
      rw [← calls]
      exact List.mem_flatten.2 ⟨_, List.mem_map_of_mem member, inBatch⟩
    obtain ⟨piece, inPieces, rfl⟩ := List.mem_map.1 inCalls
    obtain ⟨some, short⟩ := length_of_mem_chunksOf inPieces
    refine ⟨piece, rfl, some, short, ?_, ?_⟩
    · exact LookupTable.ofLittleEndian_extendData (Nat.lt_of_le_of_lt short (by decide))
    · exact (congrArg _ (LookupTable.drop_extendData piece)).trans
        (LookupTable.decodeAddresses_flatMap_toBytes piece)
  case covers =>
    rw [calls, flatMap_payload_extensionCalls, LookupTable.decode, List.drop_left' length,
      LookupTable.decodeAddresses_flatMap_toBytes]
  case never =>
    exact extendTable_ne_failedToBuild table authority payer addresses scheme network options
      patience world message

end Extension

/-- Forty addresses behind a blank header, carried by the instructions that extend a table of an
authority that pays itself. -/
theorem extension_covers_addresses_forty :
    (List.replicate 56 (0 : UInt8)).length = LookupTable.headerSize ∧
      ∃ batches : List (Batch (Signer Script)),
        LookupTable.decode (Key.ofNat 90) (List.replicate 56 0 ++
          (batches.map (·.instructions)).flatten.flatMap fun call =>
            call.instruction.data.drop 12) =
          ⟨Key.ofNat 90, (List.range 40).map fun number => Key.ofNat (1000 + number)⟩ := by
  have header : (List.replicate 56 (0 : UInt8)).length = LookupTable.headerSize := by decide
  obtain ⟨batches, _, _, covers⟩ := (extension_covers_addresses (Key.ofNat 90)
    (.near .lenient "payer" 1) (.near .lenient "payer" 1)
    ((List.range 40).map fun number => Key.ofNat (1000 + number))).1
  exact ⟨header, batches, covers (Key.ofNat 90) (List.replicate 56 0) header⟩

end SolanaTransactions
