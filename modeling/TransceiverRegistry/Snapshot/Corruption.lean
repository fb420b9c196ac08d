import TransceiverRegistry.Snapshot.Written

/-!
# A damaged byte

A file with one changed byte is refused, or it is read as the state that was written, unless the
byte belongs to the generation in the header: nothing checks these eight bytes.
-/

namespace TransceiverRegistry

open Lib

section Bytes

variable {file : Bytes} {i offset count : Nat} {byte : UInt8}

/-- A changed byte is not seen from outside of its place. -/
lemma window_set_of_outside (outside : i < offset ∨ offset + count ≤ i) :
    ((file.set i byte).drop offset).take count = (file.drop offset).take count := by
  obtain before | after := outside
  · rw [List.drop_set_of_lt before]
  · rw [List.drop_set, if_neg (by omega), List.take_set, List.set_eq_of_length_le]
    rw [List.length_take]
    omega

/-- A changed byte is seen from around its place. -/
lemma window_set_ne (place : i < file.length) (ne : byte ≠ file[i]) (low : offset ≤ i)
    (high : i < offset + count) :
    ((file.set i byte).drop offset).take count ≠ (file.drop offset).take count := by
  intro same
  have here := congrArg (fun l : Bytes => l[i - offset]?) same
  simp only [List.getElem?_take, List.getElem?_drop, if_pos (show i - offset < count by omega),
    Nat.add_sub_cancel' low, List.getElem?_set_self place, List.getElem?_eq_getElem place,
    Option.some.injEq] at here
  exact ne here

/-- A number without the changed byte stays (source `read_u16`, `read_u32`, `read_u64`). -/
lemma readNumber_set_of_outside (outside : i < offset ∨ offset + count ≤ i) :
    readNumber count (file.set i byte) offset = readNumber count file offset := by
  rw [readNumber, readNumber, window_set_of_outside outside]

/-- A number with the changed byte changes (source `read_u16`, `read_u32`, `read_u64`). -/
lemma readNumber_set_ne (place : i < file.length) (ne : byte ≠ file[i]) (low : offset ≤ i)
    (high : i < offset + count) :
    readNumber count (file.set i byte) offset ≠ readNumber count file offset := by
  intro same
  refine window_set_ne place ne low high (ofLittleEndian_inj ?_ same)
  simp only [List.length_take, List.length_drop, List.length_set]

end Bytes

/-- Two files that differ in nothing that is checked or read into a record. -/
structure SameParts (file file' : Bytes) : Prop where
  length : file'.length = file.length
  header : HeaderOk file' ↔ HeaderOk file
  declared : readNumber 8 file' 16 = readNumber 8 file 16
  records : recordPart file' = recordPart file
  trailer : (file'.drop (kHeaderBytes + readNumber 8 file 16)).take kRecordTrailerMagic.length =
    (file.drop (kHeaderBytes + readNumber 8 file 16)).take kRecordTrailerMagic.length
  checksum : readNumber 4 file' (file.length - 4) = readNumber 4 file (file.length - 4)

/-- A byte of the generation in the header, or of the sequence number in the trailer
(source `parse_snapshot`). -/
def UncheckedAt (file : Bytes) (i : Nat) : Prop :=
  24 ≤ i ∧ i < kHeaderBytes ∨ kHeaderBytes + readNumber 8 file 16 + 8 ≤ i ∧ i + 4 < file.length

/-- A changed byte that nothing checks (source `parse_snapshot`). -/
lemma UncheckedAt.sameParts {file : Bytes} {i : Nat} (unchecked : UncheckedAt file i)
    (long : kHeaderBytes + kTrailerBytes ≤ file.length) (byte : UInt8) :
    SameParts file (file.set i byte) := by
  have magicLength : kSnapshotMagic.length = 8 := by decide
  have trailerLength : kRecordTrailerMagic.length = 8 := by decide
  have late : 24 ≤ i := by
    obtain ⟨late, _⟩ | ⟨late, _⟩ := unchecked
    · exact late
    · simp only [kHeaderBytes] at late
      omega
  have number {count offset : Nat} (before : offset + count ≤ 24) :
      readNumber count (file.set i byte) offset = readNumber count file offset :=
    readNumber_set_of_outside (.inr (by omega))
  have declared : readNumber 8 (file.set i byte) 16 = readNumber 8 file 16 := number (by decide)
  refine ⟨List.length_set, ?_, declared, ?_, ?_, ?_⟩
  · have magic : (file.set i byte).take kSnapshotMagic.length =
        file.take kSnapshotMagic.length := by
      rw [List.take_set, List.set_eq_of_length_le]
      rw [List.length_take]
      omega
    constructor
    · rintro ⟨long, first, version, flags, reserved, bounded⟩
      rw [List.length_set] at long
      rw [magic] at first
      rw [number (by decide)] at version flags reserved bounded
      exact ⟨long, first, version, flags, reserved, bounded⟩
    · rintro ⟨long, first, version, flags, reserved, bounded⟩
      have same : (file.set i byte).length = file.length := List.length_set
      rw [← same] at long
      rw [← magic] at first
      rw [← number (by decide)] at version flags reserved bounded
      exact ⟨long, first, version, flags, reserved, bounded⟩
  · rw [recordPart, recordPart, declared]
    refine window_set_of_outside ?_
    obtain ⟨_, early⟩ | ⟨behind, _⟩ := unchecked
    · exact .inl early
    · exact .inr (by omega)
  · refine window_set_of_outside ?_
    obtain ⟨_, early⟩ | ⟨behind, _⟩ := unchecked
    · exact .inl (by omega)
    · exact .inr (by omega)
  · refine readNumber_set_of_outside ?_
    obtain ⟨_, early⟩ | ⟨_, inner⟩ := unchecked
    · simp only [kHeaderBytes, kTrailerBytes] at early long
      exact .inl (by omega)
    · exact .inl (by omega)

/-- A changed byte of the generation changes it (source `parse_snapshot`). -/
lemma declaredGeneration_set_ne {file : Bytes} {i : Nat} {byte : UInt8} (place : i < file.length) (ne : byte ≠ file[i]) (low : 24 ≤ i)
    (high : i < kHeaderBytes) :
    declaredGeneration (file.set i byte) ≠ declaredGeneration file := by
  have range (file : Bytes) : readNumber 8 file 24 < 256 ^ 8 := by
    refine (ofLittleEndian_lt _).trans_le (Nat.pow_le_pow_right (by decide) ?_)
    rw [List.length_take]
    exact Nat.min_le_left _ _
  intro same
  have same := congrArg UInt64.toNat same
  rw [declaredGeneration, declaredGeneration, UInt64.toNat_ofNat_of_lt' (range _),
    UInt64.toNat_ofNat_of_lt' (range _)] at same
  exact readNumber_set_ne place ne low high same

/-- The fifth byte of a frame is the kind of its record, which the fifth byte of the trailer is not
(source `kRecordTrailerMagic`). -/
lemma frame_ne_trailer {record : Record} (known : record.kind ≤ 7) (rest : Bytes) :
    (record.frame ++ rest).take kRecordTrailerMagic.length ≠ kRecordTrailerMagic := by
  intro same
  have fifth := congrArg (fun l : Bytes => (l.drop 4).head?) same
  have magic : (kRecordTrailerMagic.drop 4).head? = some 69 := by decide
  have length : kRecordTrailerMagic.length - 4 = 4 := by decide
  rw [magic, List.drop_take, record.drop_frame, length, Record.body, List.cons_append,
    List.take_succ_cons, List.head?_cons, Option.some.injEq] at fifth
  rw [fifth] at known
  exact absurd known (by decide)

section Damage

variable [StdSort] {options : LoadOptions} {s : State} {includeHistory : Bool} {file : Bytes}
  {p : ParsedSnapshot} {i : Nat} {byte : UInt8}

/-- A changed byte before the length of the records is refused
(source `parse_snapshot`, the checks before the loop). -/
lemma HeaderOk.place (place : i < (snapshotFile s includeHistory).length)
    (ne : byte ≠ (snapshotFile s includeHistory)[i])
    (header : HeaderOk ((snapshotFile s includeHistory).set i byte)) : 16 ≤ i := by
  obtain ⟨magic, version, flags, reserved⟩ := @constants_snapshotFile _ s includeHistory
  have magicLength : kSnapshotMagic.length = 8 := by decide
  by_contra low
  by_cases inMagic : i < 8
  · have changed : (((snapshotFile s includeHistory).set i byte).drop 0).take 8 ≠
        ((snapshotFile s includeHistory).drop 0).take 8 :=
      window_set_ne place ne (Nat.zero_le i) (by omega)
    rw [List.drop_zero, List.drop_zero, ← magicLength, magic, header.magic] at changed
    exact changed rfl
  by_cases inVersion : i < 10
  · exact readNumber_set_ne place ne (by omega) (by omega) (header.version.trans version.symm)
  by_cases inFlags : i < 12
  · exact readNumber_set_ne place ne (by omega) (by omega) (header.flags.trans flags.symm)
  · exact readNumber_set_ne place ne (by omega) (by omega) (header.reserved.trans reserved.symm)

/-- A file that is read to its end declares the length of its records: after fewer of them comes a
frame instead of the trailer (source `parse_snapshot`). -/
lemma declared_length (small : (snapshotFile s includeHistory).length < 2 ^ 64)
    (length : file.length = (snapshotFile s includeHistory).length)
    (body : file.drop kHeaderBytes = (snapshotFile s includeHistory).drop kHeaderBytes)
    (h : parseSnapshot file options = .ok p) (intact : p.tailRecovered = false) :
    readNumber 8 file 16 = (encodeStateRecords s includeHistory).length := by
  obtain ⟨_, whole, magic, _, q, reads, rfl⟩ := (parseSnapshot_intact intact).1 h
  change q.tailRecovered = false at intact
  rw [length, length_snapshotFile] at whole
  have fits : readNumber 8 file 16 ≤ (encodeStateRecords s includeHistory).length := by omega
  have front : recordPart file = (encodeStateRecords s includeHistory).take (readNumber 8 file 16) := by
    rw [recordPart, body, drop_snapshotFile, List.take_append_of_le_length fits]
  rw [front] at reads
  obtain ⟨records, back, all, some, left, _⟩ := readRecords_front
    (documents_stateRecords small) le_rfl (List.take_append_drop _ _).symm reads intact
  replace left : (encodeStateRecords s includeHistory).drop (readNumber 8 file 16) = frames back :=
    left
  rw [← List.drop_drop, body, drop_snapshotFile, List.drop_append_of_le_length fits, left] at magic
  cases back with
  | nil =>
    have none := List.drop_eq_nil_iff.1 left
    omega
  | cons record back =>
    have member : record ∈ stateRecords s includeHistory := by
      rw [all]
      exact List.mem_append_right _ List.mem_cons_self
    rw [frames, List.flatMap_cons, List.append_assoc] at magic
    exact absurd magic (frame_ne_trailer (stateRecords_documents member).2.2 _)

section Generation

variable {generation generation' : Generation}

/-- A state with another generation. -/
def State.atGeneration (s : State) (generation : Generation) : State := { s with generation }

/-- What was parsed, with another generation. -/
def ParsedSnapshot.atGeneration (p : ParsedSnapshot) (generation : Generation) : ParsedSnapshot :=
  { p with state := p.state.atGeneration generation }

/-- The generation decides nothing about a record (source `parse_snapshot`, the switch). -/
lemma applyRecord_atGeneration {kind : UInt8} {document : Value} :
    applyRecord generation' kind document (s.atGeneration generation') =
      (applyRecord generation kind document s).map (State.atGeneration · generation') := by
  unfold applyRecord
  split_ifs
  · cases decodeStateHeader document <;> rfl
  · cases decodeSource document <;> rfl
  · cases decodeModule document with
    | error => rfl
    | ok record =>
      have modules : (s.atGeneration generation').modules = s.modules := rfl
      simp only [ok_bind, modules]
      generalize refuseIf (s.modules.contains record.uid = true) _ = check
      cases check <;> rfl
  · cases decodePort document <;> rfl
  · cases (decode document : Result AttachmentRecord) <;> rfl
  · cases decodeThreshold document <;> rfl
  · cases (decode document : Result CompatRuleRecord) <;> rfl
  · rfl

/-- The generation decides nothing about the records (source `parse_snapshot`, the loop). -/
lemma readRecords_atGeneration (generation : Generation) {rounds : Nat} {bytes accepted : Bytes} {parsed : ParsedSnapshot} :
    readRecords options generation' rounds bytes (parsed.atGeneration generation') accepted =
      (readRecords options generation rounds bytes parsed accepted).map
        fun r => (r.1.atGeneration generation', r.2) := by
  induction rounds generalizing bytes parsed accepted with
  | zero => rfl
  | succ rounds ih =>
    rw [readRecords, readRecords]
    split
    · rfl
    split
    · rw [recoverTail, recoverTail]
      cases options.allowTailRecovery <;> rfl
    · rename_i record framed rest _
      rw [readRecord, readRecord]
      cases readDocument options.limits record.payload with
      | error => rfl
      | ok document =>
        simp only [ok_bind]
        have same := @applyRecord_atGeneration _ parsed.state generation generation' record.kind
          document
        change (applyRecord generation' record.kind document
          (parsed.state.atGeneration generation') >>= _) = _
        rw [same]
        cases applyRecord generation record.kind document parsed.state with
        | error => rfl
        | ok state =>
          change readRecords _ _ rounds rest (({ parsed with
            state, records := parsed.records + 1 } : ParsedSnapshot).atGeneration generation') _ =
            Except.map _ (readRecords _ _ rounds rest { parsed with
              state, records := parsed.records + 1 } _)
          exact ih

end Generation

/-- What is read of a file does not depend on bytes that are neither checked nor read into a record,
up to the generation (source `parse_snapshot`). -/
lemma SameParts.parse {file' : Bytes} {p' : ParsedSnapshot} (same : SameParts file file')
    (strict : options.allowTailRecovery = false) :
    parseSnapshot file' options = .ok p' ↔ ∃ p, parseSnapshot file options = .ok p ∧
      p' = p.atGeneration (declaredGeneration file') := by
  have start : parsedHeader file' = (parsedHeader file).atGeneration (declaredGeneration file') := rfl
  constructor
  · intro h
    have intact := parseSnapshot_strict strict h
    obtain ⟨header, whole, magic, checked, q', reads, rfl⟩ := (parseSnapshot_intact intact).1 h
    change q'.tailRecovered = false at intact
    rw [same.declared, same.length] at whole
    rw [same.declared, same.trailer] at magic
    rw [same.length, same.records, same.checksum] at checked
    rw [start, readRecords_atGeneration (declaredGeneration file), same.records] at reads
    cases read : readRecords options (declaredGeneration file) (recordPart file).length
        (recordPart file) (parsedHeader file) [] with
    | error =>
      rw [read] at reads
      cases reads
    | ok r =>
      rw [read] at reads
      obtain ⟨q, accepted⟩ := r
      obtain ⟨e, all⟩ := Prod.mk.inj (Except.ok.inj reads)
      change accepted = _ at all
      subst e all
      have intact' : ({ q with contentDigest := sha256 (recordPart file) } :
        ParsedSnapshot).tailRecovered = false := intact
      have parsed := (parseSnapshot_intact intact').2
        ⟨same.header.1 header, whole, magic, checked, q, read, rfl⟩
      exact ⟨_, parsed, by rw [same.records]; rfl⟩
  · rintro ⟨p, h, rfl⟩
    have intact := parseSnapshot_strict strict h
    have intact' : (p.atGeneration (declaredGeneration file')).tailRecovered = false := intact
    obtain ⟨header, whole, magic, checked, q, read, rfl⟩ := (parseSnapshot_intact intact).1 h
    refine (parseSnapshot_intact intact').2 ⟨same.header.2 header, ?_, ?_, ?_,
      q.atGeneration (declaredGeneration file'), ?_, by rw [same.records]; rfl⟩
    · rwa [same.declared, same.length]
    · rwa [same.declared, same.trailer]
    · rwa [same.length, same.records, same.checksum]
    · rw [start, readRecords_atGeneration (declaredGeneration file), same.records, read]
      rfl

/-- The state of a file has the generation of its header (source `parse_snapshot`). -/
lemma parse_generation (strict : options.allowTailRecovery = false)
    (h : parseSnapshot file options = .ok p) : p.atGeneration (declaredGeneration file) = p := by
  have same : SameParts file file := ⟨rfl, Iff.rfl, rfl, rfl, rfl, rfl⟩
  obtain ⟨q, _, rfl⟩ := (same.parse strict).1 h
  rfl

/-- A damaged file is refused, or it is read as the state that the file is read as. -/
def DamageShows (options : LoadOptions) (file damaged : Bytes) : Prop :=
  ∀ p', parseSnapshot damaged options = .ok p' →
    ∃ p, parseSnapshot file options = .ok p ∧ p'.state = p.state

/-- A changed byte shows unless it is one of the generation in the header of a file that is accepted
(source `parse_snapshot`). A file is a vector of bytes, so its length fits in 64 bits. -/
theorem damage_shows_iff (strict : options.allowTailRecovery = false)
    (small : (snapshotFile s includeHistory).length < 2 ^ 64)
    (place : i < (snapshotFile s includeHistory).length)
    (ne : byte ≠ (snapshotFile s includeHistory)[i]) :
    DamageShows options (snapshotFile s includeHistory)
        ((snapshotFile s includeHistory).set i byte) ↔
      (24 ≤ i → i < kHeaderBytes → ∀ p, parseSnapshot (snapshotFile s includeHistory) options ≠
        .ok p) := by
  have length := @length_snapshotFile _ s includeHistory
  have long : kHeaderBytes + kTrailerBytes ≤ (snapshotFile s includeHistory).length := by omega
  constructor
  · intro shows low high p h
    have same := UncheckedAt.sameParts (.inl ⟨low, high⟩) long byte
    obtain ⟨q, h', state⟩ := shows _ ((same.parse strict).2 ⟨p, h, rfl⟩)
    obtain rfl := Except.ok.inj (h.symm.trans h')
    have before := congrArg (fun p => p.state.generation) (parse_generation strict h)
    have after := congrArg State.generation state
    exact declaredGeneration_set_ne place ne low high (after.trans before.symm)
  intro unread p' h
  have intact := parseSnapshot_strict strict h
  obtain ⟨header, _, magic, checked, _⟩ := (parseSnapshot_intact intact).1 h
  have declared := @recordBytes_snapshotFile _ s includeHistory
  rw [Nat.mod_eq_of_lt (by omega)] at declared
  have trailer := congrArg (List.take kRecordTrailerMagic.length)
    (@drop_records_snapshotFile _ s includeHistory)
  rw [fileTrailer, List.append_assoc, List.take_left' rfl] at trailer
  have trailerLength : kRecordTrailerMagic.length = 8 := by decide
  have late := header.place place ne
  have headerBytes : kHeaderBytes = 32 := rfl
  have trailerBytes : kTrailerBytes = 20 := rfl
  by_cases inLength : i < 24
  · -- the length of the records
    have body : ((snapshotFile s includeHistory).set i byte).drop kHeaderBytes =
        (snapshotFile s includeHistory).drop kHeaderBytes :=
      List.drop_set_of_lt (inLength.trans (by decide))
    have declared' := declared_length small List.length_set body h intact
    exact absurd (declared'.trans declared.symm) (readNumber_set_ne place ne late (by omega))
  by_cases inGeneration : i < kHeaderBytes
  · -- the generation
    have same := UncheckedAt.sameParts (.inl ⟨by omega, inGeneration⟩) long byte
    obtain ⟨p, h, _⟩ := (same.parse strict).1 h
    exact absurd h (unread (by omega) inGeneration p)
  have declared' : readNumber 8 ((snapshotFile s includeHistory).set i byte) 16 =
      (encodeStateRecords s includeHistory).length :=
    (readNumber_set_of_outside (.inr (by omega))).trans declared
  rw [declared'] at magic
  rw [List.length_set] at checked
  by_cases inRecords : i < kHeaderBytes + (encodeStateRecords s includeHistory).length
  · -- the records
    exfalso
    have part : recordPart ((snapshotFile s includeHistory).set i byte) =
        (encodeStateRecords s includeHistory).set (i - kHeaderBytes) byte := by
      rw [recordPart, declared', List.drop_set, if_neg inGeneration, drop_snapshotFile,
        List.set_append_left _ _ (by omega), List.take_left' List.length_set]
    rw [part, readNumber_set_of_outside (.inl (by omega)), checksum_snapshotFile,
      UInt32.toNat_inj] at checked
    refine crc32c_set_ne (by omega) (fun same => ne (same.trans ?_)) 0 checked
    have here := congrArg (fun l : Bytes => l[i - kHeaderBytes]?)
      (@drop_snapshotFile _ s includeHistory)
    simp only [List.getElem?_drop, Nat.add_sub_cancel' (Nat.not_lt.1 inGeneration),
      List.getElem?_append_left (show i - kHeaderBytes < (encodeStateRecords s includeHistory).length
        by omega)] at here
    rw [List.getElem?_eq_getElem place, List.getElem?_eq_getElem (by omega)] at here
    exact (Option.some.inj here).symm
  by_cases inMagic : i < kHeaderBytes + (encodeStateRecords s includeHistory).length + 8
  · -- the mark of the trailer
    refine absurd (magic.trans trailer.symm) (window_set_ne place ne (by omega) (by omega))
  by_cases inSequence : i + 4 < (snapshotFile s includeHistory).length
  · -- the sequence number in the trailer
    have same := UncheckedAt.sameParts (.inr ⟨by omega, inSequence⟩) long byte
    obtain ⟨p, parsed, rfl⟩ := (same.parse strict).1 h
    have generation : declaredGeneration ((snapshotFile s includeHistory).set i byte) =
        declaredGeneration (snapshotFile s includeHistory) :=
      congrArg UInt64.ofNat (readNumber_set_of_outside (.inr (by omega)))
    have unchanged := parse_generation strict parsed
    rw [← generation] at unchanged
    exact ⟨p, parsed, congrArg ParsedSnapshot.state unchanged⟩
  · -- the checksum of the records
    exfalso
    have part : recordPart ((snapshotFile s includeHistory).set i byte) =
        encodeStateRecords s includeHistory := by
      rw [recordPart, declared', window_set_of_outside (.inr (by omega)), drop_snapshotFile,
        List.take_left' rfl]
    rw [part, ← checksum_snapshotFile] at checked
    exact readNumber_set_ne place ne (by omega) (by omega) checked.symm

end Damage

/-- A changed first byte of the file of an empty registry shows. -/
theorem damage_shows_magic : DamageShows { allowTailRecovery := false }
    (snapshotFile .initial true) ((snapshotFile .initial true).set 0 0) :=
  (damage_shows_iff rfl (by decide +kernel) (by decide +kernel) (by decide +kernel)).2
    fun late => absurd late (by decide)

set_option maxRecDepth 20000 in
/-- The first byte of the generation in the file of an empty registry is changed from 0 to 7. -/
theorem damage_hides : ¬ DamageShows { allowTailRecovery := false }
    (snapshotFile .initial true) ((snapshotFile .initial true).set 24 7) := by
  have before : (parseSnapshot (snapshotFile .initial true) { allowTailRecovery := false }).toOption.map
      (fun p => p.state.generation) = some 0 := by decide +kernel
  have after : (parseSnapshot ((snapshotFile .initial true).set 24 7)
      { allowTailRecovery := false }).toOption.map (fun p => p.state.generation) = some 7 := by
    decide +kernel
  intro shows
  cases damaged : parseSnapshot ((snapshotFile .initial true).set 24 7)
      { allowTailRecovery := false } with
  | error =>
    rw [damaged] at after
    cases after
  | ok p' =>
    obtain ⟨p, intact, same⟩ := shows p' damaged
    rw [damaged] at after
    rw [intact] at before
    have seven : p'.state.generation = 7 := Option.some.inj after
    have zero : p.state.generation = 0 := Option.some.inj before
    rw [same, zero] at seven
    exact absurd seven (by decide)

end TransceiverRegistry
