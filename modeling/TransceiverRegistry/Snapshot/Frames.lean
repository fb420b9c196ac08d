import TransceiverRegistry.Snapshot.File
import TransceiverRegistry.Snapshot.RecordLaws

/-!
# Reading the frames of a file

What the parser takes from a front part of a written record stream are the records themselves. A
frame of 2^32 bytes or more is written with a truncated length; the bytes under that length are then
a front part of a document, which the reader refuses.
-/

namespace TransceiverRegistry

open Lib

/-- The payload of a record is what was written for a canonical value. -/
def Record.IsDocument (record : Record) : Prop :=
  ∃ v : Value, v.Canonical ∧ record.payload = encodeDocument v

section Frames

variable {bytes rest framed tail : Bytes} {record read : Record}

/-- A number at an offset of the front is the same when more bytes follow. -/
lemma readNumber_append {count offset : Nat} (inside : offset + count ≤ bytes.length) :
    readNumber count (bytes ++ tail) offset = readNumber count bytes offset := by
  rw [readNumber, readNumber, List.drop_append_of_le_length (by omega),
    List.take_append_of_le_length (by rw [List.length_drop]; omega)]

/-- The parts of a frame (source `parse_snapshot`, the head of the loop). -/
lemma nextRecord_eq_record : nextRecord bytes = .record read framed rest ↔
    ∃ bodyLength, readNumber 4 bytes 0 = bodyLength ∧ 0 < bodyLength ∧
      bodyLength ≤ kMaxRecordBytes ∧ 4 + bodyLength + 4 ≤ bytes.length ∧
      (crc32c ((bytes.drop 4).take bodyLength) 0).toNat = readNumber 4 bytes (4 + bodyLength) ∧
      read = ⟨((bytes.drop 4).take bodyLength).headD 0, ((bytes.drop 4).take bodyLength).tail⟩ ∧
      framed = bytes.take (4 + bodyLength + 4) ∧ rest = bytes.drop (4 + bodyLength + 4) := by
  simp only [exists_eq_left']
  rw [nextRecord]
  split
  · rename_i short
    constructor
    · rintro ⟨⟩
    · rintro ⟨_, _, _, _⟩
      omega
  dsimp only
  split
  · constructor
    · rintro ⟨⟩
    · rintro ⟨_, _, _⟩
      omega
  split
  · constructor
    · rintro ⟨⟩
    · rintro ⟨_, _, _, _⟩
      omega
  split
  · constructor
    · rintro ⟨⟩
    · rintro ⟨_, _, _, same, _⟩
      contradiction
  · simp only [Framing.record.injEq, @eq_comm _ _ read, @eq_comm _ _ framed, @eq_comm _ _ rest]
    constructor
    · rintro ⟨r, f, b⟩
      exact ⟨by omega, by omega, by omega, by omega, r, f, b⟩
    · rintro ⟨_, _, _, _, r, f, b⟩
      exact ⟨r, f, b⟩

/-- A frame is read the same when more bytes follow (source `parse_snapshot`, the head of the
loop). -/
lemma nextRecord_append (tail : Bytes) (h : nextRecord bytes = .record read framed rest) :
    nextRecord (bytes ++ tail) = .record read framed (rest ++ tail) := by
  obtain ⟨bodyLength, length, positive, small, enough, checked, rfl, rfl, rfl⟩ :=
    nextRecord_eq_record.1 h
  have body : ((bytes ++ tail).drop 4).take bodyLength = (bytes.drop 4).take bodyLength := by
    rw [List.drop_append_of_le_length (by omega),
      List.take_append_of_le_length (by rw [List.length_drop]; omega)]
  refine nextRecord_eq_record.2 ⟨bodyLength, ?_, positive, small, ?_, ?_, ?_, ?_, ?_⟩
  · rwa [readNumber_append (by omega)]
  · rw [List.length_append]
    omega
  · rwa [body, readNumber_append enough]
  · rw [body]
  · rw [List.take_append_of_le_length enough]
  · rw [List.drop_append_of_le_length enough]

/-- A frame and what follows it are all of the bytes. -/
lemma nextRecord_parts (h : nextRecord bytes = .record read framed rest) :
    bytes = framed ++ rest := by
  obtain ⟨_, _, _, _, _, _, _, rfl, rfl⟩ := nextRecord_eq_record.1 h
  exact (List.take_append_drop _ _).symm

/-- The length of a frame (source `append_record`). -/
lemma Record.length_frame (record : Record) : record.frame.length = record.body.length + 8 := by
  simp only [frame, List.length_append, length_littleEndian]
  omega

/-- The first frame of a record stream (source `append_record`). -/
lemma frames_cons (record : Record) (records : List Record) :
    frames (record :: records) = record.frame ++ frames records := rfl

/-- What follows the length of a frame (source `append_record`). -/
lemma Record.drop_frame (record : Record) (rest : Bytes) : (record.frame ++ rest).drop 4 =
    record.body ++ (littleEndian 4 (crc32c record.body 0).toNat ++ rest) := by
  rw [frame, List.append_assoc, List.append_assoc, List.drop_append_of_le_length (by simp),
    List.drop_eq_nil_of_le (by simp), List.nil_append]

/-- The length that a frame starts with (source `append_record`). -/
lemma Record.readNumber_frame (record : Record) (rest : Bytes) :
    readNumber 4 (record.frame ++ rest) 0 = record.body.length % 256 ^ 4 := by
  rw [readNumber, List.drop_zero, frame, List.append_assoc, List.append_assoc,
    List.take_append_of_le_length (by simp), List.take_of_length_le (by simp),
    ofLittleEndian_littleEndian_mod]

/-- Only a whole document is read from the frame of a document: of a truncated length a front part
would be left (source `parse_snapshot`, the head of the loop). -/
lemma nextRecord_frame_accepted {lim : CanonicalLimits} {v : Value} {rest' : Bytes}
    (document : record.IsDocument) (small : record.payload.length < 2 ^ 64)
    (h : nextRecord (record.frame ++ rest) = .record read framed rest')
    (accepted : readDocument lim read.payload = .ok v) :
    read = record ∧ framed = record.frame ∧ rest' = rest := by
  have parts := nextRecord_parts h
  obtain ⟨bodyLength, length, positive, _, _, _, rfl, rfl, rfl⟩ := nextRecord_eq_record.1 h
  rw [record.readNumber_frame] at length
  rw [record.drop_frame] at accepted ⊢
  by_cases whole : record.body.length < 256 ^ 4
  · rw [Nat.mod_eq_of_lt whole] at length
    have frame : record.frame.length = 4 + bodyLength + 4 := by
      rw [record.length_frame]
      omega
    rw [List.take_append_of_le_length length.ge, List.take_of_length_le length.le,
      List.take_append_of_le_length frame.ge, List.take_of_length_le frame.le,
      List.drop_append_of_le_length frame.ge, List.drop_eq_nil_of_le frame.le]
    exact ⟨rfl, rfl, rfl⟩
  · exfalso
    have below := Nat.mod_lt record.body.length (show 0 < 256 ^ 4 by decide)
    have body : record.body.length = record.payload.length + 1 := rfl
    obtain ⟨count, rfl⟩ := Nat.exists_eq_add_one.2 positive
    rw [List.take_append_of_le_length (by omega), Record.body, List.take_succ_cons,
      List.tail_cons] at accepted
    obtain ⟨written, canonical, payload⟩ := document
    have succeeded : (CanonicalWriter.new.writeValue written).failed = false := by
      by_contra failed
      rw [payload, encodeDocument, if_pos (by simpa using failed)] at body
      simp only [List.length_nil] at body
      omega
    rw [encodeDocument, if_neg (by simp [succeeded])] at payload
    rw [payload] at small body accepted
    have front := (readDocument_accepted_front canonical succeeded small
      (List.take_append_drop count _).symm accepted).1
    rw [List.drop_eq_nil_iff] at front
    omega

end Frames

section Records

variable {options : LoadOptions} {generation : Generation}

/-- The rest of a file is given up when recovery is allowed
(source `parse_snapshot`, the branches on `allow_tail_recovery`). -/
lemma recoverTail_eq_ok {parsed p : ParsedSnapshot} {dropped : Nat} {message note : String} :
    recoverTail options parsed dropped message note = .ok p ↔ options.allowTailRecovery = true ∧
      p = { parsed with tailRecovered := true, droppedBytes := dropped, note := text note } := by
  rw [recoverTail, refuseIf_bind_eq_ok, Bool.not_eq_false, Except.ok.injEq, @eq_comm _ _ p]

/-- What is given up is marked as recovered (source `parse_snapshot`, `tail_recovered`). -/
lemma recoverTail_recovered {parsed p : ParsedSnapshot} {dropped : Nat} {message note : String}
    (h : recoverTail options parsed dropped message note = .ok p) : p.tailRecovered = true := by
  obtain ⟨_, rfl⟩ := recoverTail_eq_ok.1 h
  rfl

/-- Nothing of an intact file is given up after its records
(source `parse_snapshot`, after the loop). -/
lemma checkTrailer_intact {file accepted : Bytes} {recordEnd : Nat} {q q' : ParsedSnapshot}
    (intact : q'.tailRecovered = false) :
    checkTrailer options file recordEnd q accepted = .ok q' ↔ q' = q ∧
      recordEnd + kTrailerBytes ≤ file.length ∧
      (file.drop recordEnd).take kRecordTrailerMagic.length = kRecordTrailerMagic ∧
      (crc32c accepted 0).toNat = readNumber 4 file (file.length - 4) := by
  rw [checkTrailer]
  split
  · rename_i recovered
    constructor
    · rintro ⟨⟩
      cases recovered.symm.trans intact
    · rintro ⟨rfl, _⟩
      cases recovered.symm.trans intact
  split
  · constructor
    · intro h
      rw [recoverTail_recovered h] at intact
      cases intact
    · rintro ⟨_, enough, _⟩
      omega
  rename_i whole
  split
  · rename_i damaged
    constructor
    · intro h
      rw [recoverTail_recovered h] at intact
      cases intact
    · rintro ⟨_, _, magic, _⟩
      exact absurd magic damaged
  rename_i magic
  rw [refuseIf_bind_eq_ok, not_not, Except.ok.injEq, @eq_comm _ q]
  constructor
  · rintro ⟨checked, rfl⟩
    exact ⟨rfl, Nat.not_lt.1 whole, not_not.1 magic, checked⟩
  · rintro ⟨rfl, _, _, checked⟩
    exact ⟨checked, rfl⟩

/-- The records of a snapshot can be told from their payloads (source `encode_document`). -/
def Documents (records : List Record) : Prop :=
  ∀ record ∈ records, record.IsDocument ∧ record.payload.length < 2 ^ 64

variable [StdSort]

/-- Read records into a state, up to the first one that fails
(source `parse_snapshot`, the loop without the frames). -/
def readAll (options : LoadOptions) (generation : Generation) (records : List Record) (s : State) :
    Result State :=
  records.foldlM (fun s record => readRecord options generation record s) s

/-- The loop reads a front part of the records of a stream, and gives up on the rest when it does
not start with a frame (source `parse_snapshot`, the loop). -/
lemma readRecords_stops {records : List Record} (documents : Documents records) {rounds : Nat}
    {bytes tail accepted accepted' : Bytes} {parsed p : ParsedSnapshot}
    (enough : bytes.length ≤ rounds) (parts : frames records = bytes ++ tail)
    (h : readRecords options generation rounds bytes parsed accepted = .ok (p, accepted')) :
    ∃ front back rest state, records = front ++ back ∧ bytes = frames front ++ rest ∧
      frames back = rest ++ tail ∧ accepted' = accepted ++ frames front ∧
      readAll options generation front parsed.state = .ok state ∧
      ((rest = [] ∧ p = { parsed with state, records := parsed.records + front.length }) ∨
        ∃ message note, nextRecord rest = .torn message note ∧
          recoverTail options { parsed with state, records := parsed.records + front.length }
            rest.length message note = .ok p) := by
  induction rounds generalizing bytes parsed accepted records with
  | zero =>
    obtain rfl := List.eq_nil_of_length_eq_zero (Nat.le_zero.1 enough)
    cases h
    exact ⟨[], records, [], _, rfl, rfl, parts, (List.append_nil _).symm, rfl, .inl ⟨rfl, rfl⟩⟩
  | succ rounds ih =>
    rw [readRecords] at h
    split at h
    · rename_i done
      subst done
      cases h
      exact ⟨[], records, [], _, rfl, rfl, parts, (List.append_nil _).symm, rfl, .inl ⟨rfl, rfl⟩⟩
    rename_i more
    split at h
    · rename_i message note torn
      obtain ⟨recovered, given, e⟩ := bind_eq_ok.1 h
      cases e
      exact ⟨[], records, bytes, _, rfl, rfl, parts, (List.append_nil _).symm, rfl,
        .inr ⟨message, note, torn, given⟩⟩
    rename_i read framed rest taken
    obtain ⟨state, reads, h⟩ := bind_eq_ok.1 h
    obtain ⟨document, accept, _⟩ := bind_eq_ok.1 reads
    cases records with
    | nil => exact absurd (List.append_eq_nil_iff.1 parts.symm).1 more
    | cons record records =>
      have whole := nextRecord_append tail taken
      rw [← parts, frames_cons] at whole
      obtain ⟨isDocument, small⟩ := documents record List.mem_cons_self
      obtain ⟨rfl, rfl, rest⟩ := nextRecord_frame_accepted isDocument small whole accept
      have split := nextRecord_parts taken
      have shorter := congrArg List.length split
      rw [List.length_append, Record.length_frame] at shorter
      obtain ⟨front, back, left, last, rfl, rfl, behind, rfl, all, stops⟩ := ih
        (fun r member => documents r (List.mem_cons_of_mem _ member)) (by omega) rest.symm h
      refine ⟨_ :: front, back, left, last, rfl, ?_, behind, ?_, ?_, ?_⟩
      · rw [split, frames_cons, List.append_assoc]
      · rw [List.append_assoc, frames_cons]
      · rw [readAll, List.foldlM_cons]
        exact bind_eq_ok.2 ⟨state, reads, all⟩
      · rw [List.length_cons, Nat.add_comm front.length, ← Nat.add_assoc]
        exact stops

/-- What is read of a front part of a record stream, without giving up, are the records in it
(source `parse_snapshot`, the loop). -/
lemma readRecords_front {records : List Record} (documents : Documents records) {rounds : Nat}
    {bytes tail accepted accepted' : Bytes} {parsed p : ParsedSnapshot}
    (enough : bytes.length ≤ rounds) (parts : frames records = bytes ++ tail)
    (h : readRecords options generation rounds bytes parsed accepted = .ok (p, accepted'))
    (intact : p.tailRecovered = false) :
    ∃ front back, records = front ++ back ∧ bytes = frames front ∧ tail = frames back ∧
      accepted' = accepted ++ bytes ∧
      readAll options generation front parsed.state = .ok p.state ∧
      p = { parsed with state := p.state, records := parsed.records + front.length } := by
  obtain ⟨front, back, rest, state, rfl, rfl, behind, rfl, all, ⟨rfl, rfl⟩ | ⟨_, _, _, given⟩⟩ :=
    readRecords_stops documents enough parts h
  · refine ⟨front, back, rfl, List.append_nil _, behind.symm, ?_, all, rfl⟩
    rw [List.append_nil]
  · rw [recoverTail_recovered given] at intact
    cases intact
/-- The checks of a file before its records (source `parse_snapshot`). -/
structure HeaderOk (file : Bytes) : Prop where
  long : kHeaderBytes + kTrailerBytes ≤ file.length
  magic : file.take kSnapshotMagic.length = kSnapshotMagic
  version : readNumber 2 file 8 = kSnapshotFormatVersion
  flags : readNumber 2 file 10 = 0
  reserved : readNumber 4 file 12 = 0
  bounded : readNumber 8 file 16 ≤ kMaxSnapshotBytes - kHeaderBytes

/-- The bytes of a file that its header declares to be records (source `parse_snapshot`). -/
def recordPart (file : Bytes) : Bytes := (file.drop kHeaderBytes).take (readNumber 8 file 16)

/-- The generation in the header of a file (source `parse_snapshot`). -/
def declaredGeneration (file : Bytes) : Generation := UInt64.ofNat (readNumber 8 file 24)

/-- What is parsed before the records (source `parse_snapshot`). -/
def parsedHeader (file : Bytes) : ParsedSnapshot :=
  { state := { State.initial with generation := declaredGeneration file } }

/-- The records are read after the checks of the header (source `parse_snapshot`). -/
lemma parseSnapshot_eq_ok {file : Bytes} {p : ParsedSnapshot} :
    parseSnapshot file options = .ok p ↔ HeaderOk file ∧
      (if file.length < kHeaderBytes + readNumber 8 file 16 then
        recoverTail options {} (file.length - kHeaderBytes) "snapshot is truncated"
          "the snapshot payload is shorter than its header declares" = .ok p
      else ∃ q accepted, readRecords options (declaredGeneration file) (recordPart file).length
          (recordPart file) (parsedHeader file) [] = .ok (q, accepted) ∧
        ∃ q', checkTrailer options file (kHeaderBytes + readNumber 8 file 16) q accepted = .ok q' ∧
        p = { q' with contentDigest := sha256 accepted }) := by
  unfold parseSnapshot
  simp only [refuseIf_bind_eq_ok, not_or, not_not, Nat.not_lt]
  constructor
  · rintro ⟨long, magic, version, ⟨flags, reserved⟩, bounded, h⟩
    refine ⟨⟨long, magic, version, flags, reserved, bounded⟩, ?_⟩
    rw [version] at h
    split at h
    · rename_i short
      rw [if_pos short]
      exact h
    · rename_i whole
      rw [if_neg whole]
      obtain ⟨⟨q, accepted⟩, reads, q', checks, e⟩ := by simpa only [bind_eq_ok] using h
      cases e
      exact ⟨q, accepted, reads, q', checks, rfl⟩
  · rintro ⟨⟨long, magic, version, flags, reserved, bounded⟩, h⟩
    refine ⟨long, magic, version, ⟨flags, reserved⟩, bounded, ?_⟩
    rw [version]
    split at h
    · rename_i short
      rw [if_pos short]
      exact h
    · rename_i whole
      rw [if_neg whole]
      obtain ⟨q, accepted, reads, q', checks, rfl⟩ := h
      simp only [bind_eq_ok]
      exact ⟨(q, accepted), reads, q', checks, rfl⟩

/-- Everything that is read without giving up is accepted (source `parse_snapshot`, `accepted`). -/
lemma readRecords_accepted {rounds : Nat} {bytes accepted accepted' : Bytes}
    {parsed p : ParsedSnapshot} (enough : bytes.length ≤ rounds)
    (h : readRecords options generation rounds bytes parsed accepted = .ok (p, accepted'))
    (intact : p.tailRecovered = false) : accepted' = accepted ++ bytes := by
  induction rounds generalizing bytes parsed accepted with
  | zero =>
    obtain rfl := List.eq_nil_of_length_eq_zero (Nat.le_zero.1 enough)
    cases h
    exact (List.append_nil _).symm
  | succ rounds ih =>
    rw [readRecords] at h
    split at h
    · rename_i done
      subst done
      cases h
      exact (List.append_nil _).symm
    split at h
    · obtain ⟨recovered, torn, e⟩ := bind_eq_ok.1 h
      cases e
      rw [recoverTail_recovered torn] at intact
      cases intact
    rename_i read framed rest taken
    obtain ⟨state, _, h⟩ := bind_eq_ok.1 h
    have parts := nextRecord_parts taken
    have shorter : rest.length < bytes.length := by
      obtain ⟨_, _, _, _, enough, _, _, _, rfl⟩ := nextRecord_eq_record.1 taken
      rw [List.length_drop]
      omega
    rw [ih (by omega) h, List.append_assoc, ← parts]

/-- Without recovery nothing is given up in the loop (source `parse_snapshot`, the loop). -/
lemma readRecords_strict (strict : options.allowTailRecovery = false) {rounds : Nat}
    {bytes accepted accepted' : Bytes} {parsed p : ParsedSnapshot}
    (h : readRecords options generation rounds bytes parsed accepted = .ok (p, accepted'))
    (intact : parsed.tailRecovered = false) : p.tailRecovered = false := by
  induction rounds generalizing bytes parsed accepted with
  | zero =>
    cases h
    exact intact
  | succ rounds ih =>
    rw [readRecords] at h
    split at h
    · cases h
      exact intact
    split at h
    · obtain ⟨recovered, torn, _⟩ := bind_eq_ok.1 h
      rw [(recoverTail_eq_ok.1 torn).1] at strict
      cases strict
    · obtain ⟨state, _, h⟩ := bind_eq_ok.1 h
      exact ih h intact

/-- Without recovery a file is read to its end (source `parse_snapshot`). -/
lemma parseSnapshot_strict (strict : options.allowTailRecovery = false) {file : Bytes}
    {p : ParsedSnapshot} (h : parseSnapshot file options = .ok p) : p.tailRecovered = false := by
  obtain ⟨_, h⟩ := parseSnapshot_eq_ok.1 h
  split at h
  · rw [(recoverTail_eq_ok.1 h).1] at strict
    cases strict
  obtain ⟨q, accepted, reads, q', checks, rfl⟩ := h
  have intact := readRecords_strict strict reads rfl
  rw [checkTrailer, intact, if_neg Bool.false_ne_true] at checks
  split at checks
  · rw [(recoverTail_eq_ok.1 checks).1] at strict
    cases strict
  split at checks
  · rw [(recoverTail_eq_ok.1 checks).1] at strict
    cases strict
  · obtain ⟨_, e⟩ := refuseIf_bind_eq_ok.1 checks
    cases e
    exact intact

/-- A file that is read to its end (source `parse_snapshot`). -/
lemma parseSnapshot_intact {file : Bytes} {p : ParsedSnapshot} (intact : p.tailRecovered = false) :
    parseSnapshot file options = .ok p ↔ HeaderOk file ∧
      kHeaderBytes + readNumber 8 file 16 + kTrailerBytes ≤ file.length ∧
      (file.drop (kHeaderBytes + readNumber 8 file 16)).take kRecordTrailerMagic.length =
        kRecordTrailerMagic ∧
      (crc32c (recordPart file) 0).toNat = readNumber 4 file (file.length - 4) ∧
      ∃ q, readRecords options (declaredGeneration file) (recordPart file).length
          (recordPart file) (parsedHeader file) [] = .ok (q, recordPart file) ∧
        p = { q with contentDigest := sha256 (recordPart file) } := by
  rw [parseSnapshot_eq_ok]
  refine and_congr_right fun _ => ?_
  split
  · rename_i short
    constructor
    · intro h
      rw [recoverTail_recovered h] at intact
      cases intact
    · rintro ⟨_, _⟩
      omega
  constructor
  · rintro ⟨q, accepted, reads, q', checks, rfl⟩
    change q'.tailRecovered = false at intact
    obtain ⟨rfl, whole, magic, checked⟩ := (checkTrailer_intact intact).1 checks
    have all := readRecords_accepted le_rfl reads intact
    rw [List.nil_append] at all
    subst all
    exact ⟨whole, magic, checked, q', reads, rfl⟩
  · rintro ⟨whole, magic, checked, q, reads, rfl⟩
    change q.tailRecovered = false at intact
    exact ⟨q, _, reads, q, (checkTrailer_intact intact).2 ⟨rfl, whole, magic, checked⟩, rfl⟩

end Records

end TransceiverRegistry
