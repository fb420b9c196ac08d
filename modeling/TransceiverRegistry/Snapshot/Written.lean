import TransceiverRegistry.Snapshot.Frames

/-!
# The bytes of a written file

Where the parser finds the parts that `save_snapshot_impl` wrote. The records are documents, so what
is read of them without giving up are the records themselves.
-/

namespace TransceiverRegistry

open Lib

/-- A number is found where it was written (source `append_u16`, `append_u32`, `append_u64`). -/
lemma readNumber_written {file front rest : Bytes} {count offset n : Nat}
    (parts : file = front ++ (littleEndian count n ++ rest)) (place : front.length = offset) :
    readNumber count file offset = n % 256 ^ count := by
  rw [readNumber, parts, ← place, List.drop_left', List.take_left', ofLittleEndian_littleEndian_mod]
  · simp
  · rfl

/-- A record of an encoded value is a document (source `encode_document`). -/
lemma isDocument_of_canonical {kind : UInt8} {v : Value} (canonical : v.Canonical)
    (known : 1 ≤ kind ∧ kind ≤ 7) : (⟨kind, encodeDocument v⟩ : Record).IsDocument ∧
      1 ≤ (⟨kind, encodeDocument v⟩ : Record).kind ∧ (⟨kind, encodeDocument v⟩ : Record).kind ≤ 7 :=
  ⟨⟨v, canonical, rfl⟩, known⟩

/-- The payload of a record is shorter than the record stream (source `append_record`). -/
lemma payload_length_le {records : List Record} {record : Record} (member : record ∈ records) :
    record.payload.length ≤ (frames records).length := by
  obtain ⟨front, back, rfl⟩ := List.append_of_mem member
  rw [frames, List.flatMap_append, List.flatMap_cons, List.length_append, List.length_append,
    Record.length_frame, Record.body, List.length_cons]
  omega

variable [StdSort] {s : State} {includeHistory : Bool}

/-- The parts of a written file (source `save_snapshot_impl`). -/
lemma snapshotFile_eq : snapshotFile s includeHistory =
    kSnapshotMagic ++ (littleEndian 2 kSnapshotFormatVersion ++ (littleEndian 2 0 ++
      (littleEndian 4 0 ++ (littleEndian 8 (encodeStateRecords s includeHistory).length ++
        (littleEndian 8 s.generation.toNat ++ (encodeStateRecords s includeHistory ++
          (kRecordTrailerMagic ++ (littleEndian 8 s.nextSequence.toNat ++
            littleEndian 4 (crc32c (encodeStateRecords s includeHistory) 0).toNat)))))))) := by
  simp only [snapshotFile, fileHeader, fileTrailer, List.append_assoc]

/-- The length of a written file (source `save_snapshot_impl`). -/
lemma length_snapshotFile : (snapshotFile s includeHistory).length =
    kHeaderBytes + (encodeStateRecords s includeHistory).length + kTrailerBytes := by
  have magic : kSnapshotMagic.length = 8 := by decide
  have trailer : kRecordTrailerMagic.length = 8 := by decide
  simp only [snapshotFile_eq, List.length_append, length_littleEndian, magic, trailer, kHeaderBytes,
    kTrailerBytes]
  omega

/-- What is written after the header (source `save_snapshot_impl`). -/
lemma drop_snapshotFile : (snapshotFile s includeHistory).drop kHeaderBytes =
    encodeStateRecords s includeHistory ++
      fileTrailer s.nextSequence (encodeStateRecords s includeHistory) := by
  have length : (fileHeader (encodeStateRecords s includeHistory).length s.generation).length =
      kHeaderBytes := by
    have magic : kSnapshotMagic.length = 8 := by decide
    simp only [fileHeader, List.length_append, length_littleEndian, magic, kHeaderBytes]
  simp only [snapshotFile, List.append_assoc]
  exact List.drop_left' length

/-- The constant fields of a written file (source `save_snapshot_impl`). -/
lemma constants_snapshotFile :
    (snapshotFile s includeHistory).take kSnapshotMagic.length = kSnapshotMagic ∧
      readNumber 2 (snapshotFile s includeHistory) 8 = kSnapshotFormatVersion ∧
      readNumber 2 (snapshotFile s includeHistory) 10 = 0 ∧
      readNumber 4 (snapshotFile s includeHistory) 12 = 0 := by
  have parts := @snapshotFile_eq _ s includeHistory
  refine ⟨by rw [parts, List.take_left' rfl], ?_, ?_, ?_⟩
  · exact readNumber_written parts rfl
  · rw [← List.append_assoc] at parts
    exact readNumber_written parts rfl
  · rw [← List.append_assoc, ← List.append_assoc] at parts
    exact readNumber_written parts rfl

/-- The length that is written in the header (source `save_snapshot_impl`). -/
lemma recordBytes_snapshotFile : readNumber 8 (snapshotFile s includeHistory) 16 =
    (encodeStateRecords s includeHistory).length % 256 ^ 8 := by
  have parts := @snapshotFile_eq _ s includeHistory
  rw [← List.append_assoc, ← List.append_assoc, ← List.append_assoc] at parts
  exact readNumber_written parts rfl

/-- The generation that is written in the header (source `save_snapshot_impl`). -/
lemma declaredGeneration_snapshotFile :
    declaredGeneration (snapshotFile s includeHistory) = s.generation := by
  have parts := @snapshotFile_eq _ s includeHistory
  rw [← List.append_assoc, ← List.append_assoc, ← List.append_assoc, ← List.append_assoc] at parts
  have small : s.generation.toNat < 256 ^ 8 := s.generation.toNat_lt
  rw [declaredGeneration, readNumber_written parts (by simp; rfl), Nat.mod_eq_of_lt small,
    UInt64.ofNat_toNat]

/-- What follows the records (source `save_snapshot_impl`). -/
lemma drop_records_snapshotFile : (snapshotFile s includeHistory).drop
      (kHeaderBytes + (encodeStateRecords s includeHistory).length) =
    fileTrailer s.nextSequence (encodeStateRecords s includeHistory) := by
  rw [← List.drop_drop, drop_snapshotFile, List.drop_left' rfl]

/-- The checksum that is written at the end (source `save_snapshot_impl`). -/
lemma checksum_snapshotFile : readNumber 4 (snapshotFile s includeHistory)
      ((snapshotFile s includeHistory).length - 4) =
    (crc32c (encodeStateRecords s includeHistory) 0).toNat := by
  have parts : snapshotFile s includeHistory =
      (fileHeader (encodeStateRecords s includeHistory).length s.generation ++
        encodeStateRecords s includeHistory ++ kRecordTrailerMagic ++
          littleEndian 8 s.nextSequence.toNat) ++
      (littleEndian 4 (crc32c (encodeStateRecords s includeHistory) 0).toNat ++ []) := by
    simp only [snapshotFile, fileTrailer, List.append_assoc, List.append_nil]
  have place := congrArg List.length parts
  rw [List.append_nil, List.length_append, length_littleEndian] at place
  rw [readNumber_written parts (by omega)]
  exact Nat.mod_eq_of_lt (UInt32.toNat_lt _)

/-- The header of a written file is in order when the file is not too long
(source `save_snapshot_impl`). -/
lemma headerOk_snapshotFile
    (fits : (encodeStateRecords s includeHistory).length ≤ kMaxSnapshotBytes - kHeaderBytes) :
    HeaderOk (snapshotFile s includeHistory) := by
  obtain ⟨magic, version, flags, reserved⟩ := @constants_snapshotFile _ s includeHistory
  refine ⟨?_, magic, version, flags, reserved, ?_⟩
  · rw [length_snapshotFile]
    omega
  · rw [recordBytes_snapshotFile]
    exact (Nat.mod_le _ _).trans fits

/-- The records of a state are documents of the known kinds (source `encode_state_records`). -/
lemma stateRecords_documents {record : Record} (member : record ∈ stateRecords s includeHistory) :
    record.IsDocument ∧ 1 ≤ record.kind ∧ record.kind ≤ 7 := by
  simp only [stateRecords, List.mem_append, List.mem_cons, List.not_mem_nil, or_false,
    List.mem_map] at member
  obtain ((((((rfl | ⟨source, _, rfl⟩) | ⟨record, _, rfl⟩) | ⟨port, _, rfl⟩) |
    ⟨attachment, _, rfl⟩) | ⟨threshold, _, rfl⟩) | ⟨rule, _, rfl⟩) := member
  · exact isDocument_of_canonical (canonical_encodeStateHeader s) (by decide)
  · exact isDocument_of_canonical (canonical_encodeSource source) (by decide)
  · exact isDocument_of_canonical (canonical_encodeModule includeHistory record) (by decide)
  · exact isDocument_of_canonical (canonical_encodePort port) (by decide)
  · exact isDocument_of_canonical (LawfulCodec.canonical attachment) (by decide)
  · exact isDocument_of_canonical (canonical_encodeThreshold threshold) (by decide)
  · exact isDocument_of_canonical (LawfulCodec.canonical rule) (by decide)

/-- The records of a state can be told from their payloads (source `encode_state_records`). -/
lemma documents_stateRecords (small : (snapshotFile s includeHistory).length < 2 ^ 64) :
    Documents (stateRecords s includeHistory) := by
  intro record member
  have shorter := payload_length_le member
  rw [length_snapshotFile, encodeStateRecords] at small
  exact ⟨(stateRecords_documents member).1, by omega⟩

end TransceiverRegistry
