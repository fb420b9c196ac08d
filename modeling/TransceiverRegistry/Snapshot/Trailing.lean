import TransceiverRegistry.Snapshot.Rebuilt

/-!
# Bytes after a snapshot

The parser finds the records and the magic of the trailer from the length in the header, and the
checksum from the end of the file. Bytes after a written file move the second place only: they are
accepted when the last four of them repeat the checksum.
-/

namespace TransceiverRegistry

open Lib

/-- The last four bytes of a file, where the parser reads the checksum (source `crc_offset`). -/
def lastFour (file : Bytes) : Bytes := file.drop (file.length - 4)

section Definitions

variable [StdSort]

/-- Everything is in order that the parser checks without giving up, but for the checksum at the end
of the file (source `parse_snapshot`). -/
structure InOrder (options : LoadOptions) (file : Bytes) : Prop where
  header : HeaderOk file
  whole : kHeaderBytes + readNumber 8 file 16 + kTrailerBytes ≤ file.length
  trailer : (file.drop (kHeaderBytes + readNumber 8 file 16)).take kRecordTrailerMagic.length =
    kRecordTrailerMagic
  records : ∃ q, readRecords options (declaredGeneration file) (recordPart file).length
    (recordPart file) (parsedHeader file) [] = .ok (q, recordPart file)

end Definitions

variable {options : LoadOptions} {file more : Bytes}

/-- The checksum is read from the last four bytes (source `crc_offset`). -/
lemma readNumber_lastFour : readNumber 4 file (file.length - 4) = ofLittleEndian (lastFour file) := by
  have short : (lastFour file).length ≤ 4 := by
    rw [lastFour, List.length_drop]
    omega
  rw [readNumber, ← lastFour, List.take_of_length_le short]

/-- The last four bytes of a file of at least four. -/
lemma length_lastFour (long : 4 ≤ file.length) : (lastFour file).length = 4 := by
  rw [lastFour, List.length_drop]
  omega

/-- The header is the same with more bytes behind it (source `parse_snapshot`). -/
lemma HeaderOk.append_iff (long : kHeaderBytes + kTrailerBytes ≤ file.length) :
    HeaderOk (file ++ more) ↔ HeaderOk file := by
  have header : 32 ≤ file.length := Nat.le_trans (by decide) long
  have magic : (file ++ more).take kSnapshotMagic.length = file.take kSnapshotMagic.length :=
    List.take_append_of_le_length (Nat.le_trans (by decide) header)
  have version : readNumber 2 (file ++ more) 8 = readNumber 2 file 8 :=
    readNumber_append (by omega)
  have flags : readNumber 2 (file ++ more) 10 = readNumber 2 file 10 :=
    readNumber_append (by omega)
  have reserved : readNumber 4 (file ++ more) 12 = readNumber 4 file 12 :=
    readNumber_append (by omega)
  have declared : readNumber 8 (file ++ more) 16 = readNumber 8 file 16 :=
    readNumber_append (by omega)
  constructor
  · intro ok
    exact ⟨long, magic ▸ ok.magic, version ▸ ok.version, flags ▸ ok.flags,
      reserved ▸ ok.reserved, declared ▸ ok.bounded⟩
  · intro ok
    refine ⟨?_, magic ▸ ok.magic, version ▸ ok.version, flags ▸ ok.flags,
      reserved ▸ ok.reserved, declared ▸ ok.bounded⟩
    rw [List.length_append]
    exact Nat.le_add_right_of_le long

section Parse

variable [StdSort] {s : State} {includeHistory : Bool}

/-- Without recovery a file is read when it is in order up to its checksum, and the checksum is that
of its records (source `parse_snapshot`). -/
lemma exists_parseSnapshot_iff (strict : options.allowTailRecovery = false) :
    (∃ p, parseSnapshot file options = .ok p) ↔
      InOrder options file ∧ (crc32c (recordPart file) 0).toNat = ofLittleEndian (lastFour file) := by
  rw [← readNumber_lastFour]
  constructor
  · rintro ⟨p, parsed⟩
    obtain ⟨header, whole, trailer, checked, q, reads, _⟩ :=
      (parseSnapshot_intact (parseSnapshot_strict strict parsed)).1 parsed
    exact ⟨⟨header, whole, trailer, q, reads⟩, checked⟩
  · rintro ⟨⟨header, whole, trailer, q, reads⟩, checked⟩
    have intact := readRecords_strict strict reads rfl
    exact ⟨_, (parseSnapshot_intact (p := { q with contentDigest := sha256 (recordPart file) })
      intact).2 ⟨header, whole, trailer, checked, q, reads, rfl⟩⟩

/-- More bytes behind a file that holds what its header declares change nothing but its checksum
(source `parse_snapshot`). -/
lemma InOrder.append_iff
    (whole : kHeaderBytes + readNumber 8 file 16 + kTrailerBytes ≤ file.length) :
    (InOrder options (file ++ more) ↔ InOrder options file) ∧
      recordPart (file ++ more) = recordPart file := by
  have bytes : kHeaderBytes = 32 := rfl
  have declared : readNumber 8 (file ++ more) 16 = readNumber 8 file 16 :=
    readNumber_append (by omega)
  have generation : declaredGeneration (file ++ more) = declaredGeneration file := by
    rw [declaredGeneration, declaredGeneration, readNumber_append (by omega)]
  have start : parsedHeader (file ++ more) = parsedHeader file := by
    rw [parsedHeader, parsedHeader, generation]
  have part : recordPart (file ++ more) = recordPart file := by
    rw [recordPart, recordPart, declared, List.drop_append_of_le_length (by omega),
      List.take_append_of_le_length (by rw [List.length_drop]; omega)]
  have trailer : ((file ++ more).drop (kHeaderBytes + readNumber 8 file 16)).take
        kRecordTrailerMagic.length =
      (file.drop (kHeaderBytes + readNumber 8 file 16)).take kRecordTrailerMagic.length := by
    have magic : kRecordTrailerMagic.length ≤ kTrailerBytes := by decide
    rw [List.drop_append_of_le_length (by omega),
      List.take_append_of_le_length (by rw [List.length_drop]; omega)]
  have ok : HeaderOk (file ++ more) ↔ HeaderOk file := HeaderOk.append_iff (by omega)
  refine ⟨⟨fun h => ?_, fun h => ?_⟩, part⟩
  · have magic := h.trailer
    have reads := h.records
    rw [declared, trailer] at magic
    rw [generation, part, start] at reads
    exact ⟨ok.1 h.header, whole, magic, reads⟩
  · refine ⟨ok.2 h.header, ?_, ?_, ?_⟩
    · rw [declared, List.length_append]
      omega
    · rw [declared, trailer]
      exact h.trailer
    · rw [generation, part, start]
      exact h.records

/-- A file of fewer than 2^64 bytes holds the records that its header declares
(source `save_snapshot_impl`). -/
lemma written_whole (small : (snapshotFile s includeHistory).length < 2 ^ 64) :
    kHeaderBytes + readNumber 8 (snapshotFile s includeHistory) 16 + kTrailerBytes ≤
        (snapshotFile s includeHistory).length ∧
      (crc32c (recordPart (snapshotFile s includeHistory)) 0).toNat =
        ofLittleEndian (lastFour (snapshotFile s includeHistory)) := by
  have length := @length_snapshotFile _ s includeHistory
  have declared : readNumber 8 (snapshotFile s includeHistory) 16 =
      (encodeStateRecords s includeHistory).length := by
    rw [recordBytes_snapshotFile]
    exact Nat.mod_eq_of_lt (show _ < 2 ^ 64 by omega)
  have part : recordPart (snapshotFile s includeHistory) = encodeStateRecords s includeHistory := by
    rw [recordPart, declared, drop_snapshotFile, List.take_left' rfl]
  refine ⟨by omega, ?_⟩
  rw [part, ← readNumber_lastFour, checksum_snapshotFile]

/-- Without recovery, bytes after a written file are refused exactly when the file itself is refused
or the last four bytes are no longer its checksum (source `parse_snapshot`, `crc_offset`). -/
theorem trailing_bytes_refused_iff (strict : options.allowTailRecovery = false)
    (small : (snapshotFile s includeHistory).length < 2 ^ 64) :
    (∃ e, parseSnapshot (snapshotFile s includeHistory ++ more) options = .error e) ↔
      (∃ e, parseSnapshot (snapshotFile s includeHistory) options = .error e) ∨
        lastFour (snapshotFile s includeHistory ++ more) ≠
          lastFour (snapshotFile s includeHistory) := by
  have refused (f : Bytes) : (∃ e, parseSnapshot f options = .error e) ↔
      ¬ ∃ p, parseSnapshot f options = .ok p := by
    cases parseSnapshot f options <;> simp
  obtain ⟨whole, checked⟩ := written_whole small
  obtain ⟨readable, part⟩ : (InOrder options (_ ++ more) ↔ _) ∧ _ := InOrder.append_iff whole
  have long : 4 ≤ (snapshotFile s includeHistory).length := by
    rw [length_snapshotFile, kTrailerBytes]
    omega
  rw [refused, refused, exists_parseSnapshot_iff strict, exists_parseSnapshot_iff strict, readable,
    part, checked]
  have same : ofLittleEndian (lastFour (snapshotFile s includeHistory)) =
        ofLittleEndian (lastFour (snapshotFile s includeHistory ++ more)) ↔
      lastFour (snapshotFile s includeHistory ++ more) =
        lastFour (snapshotFile s includeHistory) := by
    constructor
    · intro equal
      refine (ofLittleEndian_inj ?_ equal).symm
      rw [length_lastFour long, length_lastFour (by rw [List.length_append]; omega)]
    · intro equal
      rw [equal]
  rw [same]
  simp only [and_true, not_and_or]

end Parse

/-- A file is read without recovery. -/
def strictly : LoadOptions where
  allowTailRecovery := false

set_option maxRecDepth 20000 in
/-- The file of a new registry is refused when a byte follows it. -/
theorem trailing_bytes_refused_iff_zero :
    ∃ e, parseSnapshot (snapshotFile .initial true ++ [0]) strictly = .error e :=
  (trailing_bytes_refused_iff rfl (by decide +kernel)).2 (.inr (by decide +kernel))

set_option maxRecDepth 20000 in
/-- The file of a new registry is read when its checksum is repeated after it
(source `parse_snapshot`, `crc_offset`). -/
theorem repeated_checksum_accepted :
    ¬ ∀ (options : LoadOptions) (s : State) (includeHistory : Bool) (more : Bytes),
      options.allowTailRecovery = false → more ≠ [] →
      ∃ e, parseSnapshot (snapshotFile s includeHistory ++ more) options = .error e := by
  intro h
  obtain ⟨e, refused⟩ := h strictly .initial true (lastFour (snapshotFile .initial true)) rfl
    (by decide +kernel)
  have read : (parseSnapshot (snapshotFile .initial true ++ lastFour (snapshotFile .initial true))
      strictly).toOption.isSome = true := by decide +kernel
  rw [refused] at read
  cases read

end TransceiverRegistry
