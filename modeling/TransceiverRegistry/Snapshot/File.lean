import TransceiverRegistry.Snapshot.Records

/-!
# The snapshot file

Port of the file layer of `snapshot.cpp`: a header, one checked frame for each record, and a
trailer. The loop of the parser runs over the bytes of the record part that are left, so a position
of the source is a suffix here.
-/

namespace TransceiverRegistry

open Lib

/-- The kinds of records (source `kRecordHeader` and the constants after it). -/
def kRecordHeader : UInt8 := 1
def kRecordSource : UInt8 := 2
def kRecordModule : UInt8 := 3
def kRecordPort : UInt8 := 4
def kRecordAttachment : UInt8 := 5
def kRecordThreshold : UInt8 := 6
def kRecordRule : UInt8 := 7

/-- Largest accepted record (source `kMaxRecordBytes`). -/
def kMaxRecordBytes : Nat := 16 * 2 ^ 20

/-- Largest accepted file (source `kMaxSnapshotBytes`). -/
def kMaxSnapshotBytes : Nat := 256 * 2 ^ 20

/-- The first bytes of a snapshot (source `kSnapshotMagic`). -/
def kSnapshotMagic : Bytes := text "TRXRSNAP"

/-- The first bytes of the trailer (source `kRecordTrailerMagic`). -/
def kRecordTrailerMagic : Bytes := text "TRXREOF1"

/-- The version of the file format (source `kSnapshotFormatVersion`). -/
def kSnapshotFormatVersion : Nat := 1

/-- The length of the header (source `kHeaderBytes`). -/
def kHeaderBytes : Nat := 32

/-- The length of the trailer (source `sizeof(kRecordTrailerMagic) + 12`). -/
def kTrailerBytes : Nat := 20

/-- The number in `count` bytes at an offset (source `read_u16`, `read_u32`, `read_u64`). -/
def readNumber (count : Nat) (file : Bytes) (offset : Nat) : Nat :=
  ofLittleEndian ((file.drop offset).take count)

/-- The bytes of a document, none when it has no canonical form (source `encode_document`). -/
def encodeDocument (document : Value) : Bytes :=
  let writer := CanonicalWriter.new.writeValue document
  if writer.failed then [] else writer.bytes

/-- A record to be written (source `Record`). -/
structure Record where
  kind : UInt8
  payload : Bytes

/-- The bytes the checksum of a record covers (source `append_record`, `body`). -/
def Record.body (record : Record) : Bytes := record.kind :: record.payload

/-- A framed record: length, kind, payload and checksum (source `append_record`). -/
def Record.frame (record : Record) : Bytes :=
  littleEndian 4 record.body.length ++ record.body ++
    littleEndian 4 (crc32c record.body 0).toNat

section Save

variable [StdSort]

/-- The records of a state, in the order they are written (source `encode_state_records`). -/
def stateRecords (s : State) (includeHistory : Bool) : List Record :=
  let sources := StdSort.sort (fun lhs rhs => decide (lhs.id < rhs.id)) s.sources.values
  let modules := StdSort.sort (fun lhs rhs => decide (lhs.uid < rhs.uid)) s.modules.values
  let ports := StdSort.sort (fun lhs rhs => (compareBytes lhs.key.str rhs.key.str).isLT)
    s.ports.values
  let attachments := StdSort.sort (fun lhs rhs => (compareBytes lhs.slot.str rhs.slot.str).isLT)
    s.attachments.values
  let thresholds := s.thresholds.filter fun record => includeHistory || record.live
  let rules := StdSort.sort (fun lhs rhs => decide (lhs.id < rhs.id)) s.rules.values
  [⟨kRecordHeader, encodeDocument (encodeStateHeader s)⟩] ++
    sources.map (fun source => ⟨kRecordSource, encodeDocument (encodeSource source)⟩) ++
    modules.map (fun record =>
      ⟨kRecordModule, encodeDocument (encodeModule includeHistory record)⟩) ++
    ports.map (fun record => ⟨kRecordPort, encodeDocument (encodePort record)⟩) ++
    attachments.map (fun record => ⟨kRecordAttachment, encodeDocument (encode record)⟩) ++
    thresholds.map (fun record => ⟨kRecordThreshold, encodeDocument (encodeThreshold record)⟩) ++
    rules.map (fun record => ⟨kRecordRule, encodeDocument (encode record)⟩)

/-- The framed records (source `append_record`). -/
def frames (records : List Record) : Bytes := records.flatMap Record.frame

/-- The canonical record stream of a state (source `encode_state_records`). -/
def encodeStateRecords (s : State) (includeHistory : Bool) : Bytes :=
  frames (stateRecords s includeHistory)

/-- The header of a file (source `save_snapshot_impl`). -/
def fileHeader (recordBytes : Nat) (generation : Generation) : Bytes :=
  kSnapshotMagic ++ littleEndian 2 kSnapshotFormatVersion ++ littleEndian 2 0 ++ littleEndian 4 0 ++
    littleEndian 8 recordBytes ++ littleEndian 8 generation.toNat

/-- The trailer of a file (source `save_snapshot_impl`). -/
def fileTrailer (nextSequence : Sequence) (records : Bytes) : Bytes :=
  kRecordTrailerMagic ++ littleEndian 8 nextSequence.toNat ++
    littleEndian 4 (crc32c records 0).toNat

/-- The file of a state (source `save_snapshot_impl`). -/
def snapshotFile (s : State) (includeHistory : Bool) : Bytes :=
  let records := encodeStateRecords s includeHistory
  fileHeader records.length s.generation ++ records ++ fileTrailer s.nextSequence records

end Save

/-- How a file is loaded (source `LoadOptions`). -/
structure LoadOptions where
  allowTailRecovery : Bool := true
  requireSupportedVersion : Bool := true
  limits : CanonicalLimits := .snapshot

/-- What a file holds (source `ParsedSnapshot`). -/
structure ParsedSnapshot where
  state : State := .initial
  tailRecovered : Bool := false
  droppedBytes : Nat := 0
  note : Bytes := []
  contentDigest : Digest := .zero
  formatVersion : Nat := kSnapshotFormatVersion
  records : Nat := 0

/-- What starts at a position of the record part (source `parse_snapshot`, the head of the loop). -/
inductive Framing where
  | torn (message note : String)
  | record (record : Record) (framed rest : Bytes)

/-- Check the frame at the front of the bytes that are left
(source `parse_snapshot`, the head of the loop). -/
def nextRecord (bytes : Bytes) : Framing :=
  if bytes.length < 4 then
    .torn "snapshot record framing is truncated" "a partial record header ends the snapshot payload"
  else
    let bodyLength := readNumber 4 bytes 0
    if bodyLength = 0 ∨ kMaxRecordBytes < bodyLength then
      .torn "snapshot record length is out of range"
        "a record length is out of range; the rest of the payload was dropped"
    else if bytes.length < 4 + bodyLength + 4 then
      .torn "snapshot record is truncated"
        "the final record is incomplete; it and everything after it were dropped"
    else
      let body := (bytes.drop 4).take bodyLength
      if (crc32c body 0).toNat ≠ readNumber 4 bytes (4 + bodyLength) then
        .torn "snapshot record failed its integrity check"
          "a record failed its integrity check; it and everything after it were dropped"
      else
        .record ⟨body.headD 0, body.tail⟩ (bytes.take (4 + bodyLength + 4))
          (bytes.drop (4 + bodyLength + 4))

/-- Give up on what is left of a file, or recover what was read before it
(source `parse_snapshot`, the branches on `allow_tail_recovery`). -/
def recoverTail (options : LoadOptions) (parsed : ParsedSnapshot) (dropped : Nat)
    (message note : String) : Result ParsedSnapshot := do
  refuseIf (options.allowTailRecovery = false) (makeError .corrupt message)
  .ok { parsed with tailRecovered := true, droppedBytes := dropped, note := text note }

section Parse

variable [StdSort]

/-- Add a record to a state (source `parse_snapshot`, the switch). -/
def applyRecord (generation : Generation) (kind : UInt8) (document : Value) (s : State) :
    Result State :=
  if kind = kRecordHeader then do
    let header ← decodeStateHeader document
    .ok { header with generation }
  else if kind = kRecordSource then do
    let source ← decodeSource document
    .ok { s with sourceIdByName := s.sourceIdByName.insert source.name source.id
                 sources := s.sources.insert source.id source }
  else if kind = kRecordModule then do
    let record ← decodeModule document
    refuseIf (s.modules.contains record.uid = true)
      (makeError .malformed "snapshot declares the same module twice")
    .ok { s with moduleUidByKey := s.moduleUidByKey.insert record.key.str record.uid
                 modules := s.modules.insert record.uid record }
  else if kind = kRecordPort then do
    let port ← decodePort document
    .ok { s with ports := s.ports.insert port.key.str port }
  else if kind = kRecordAttachment then do
    let attachment : AttachmentRecord ← decode document
    .ok { s with attachments := s.attachments.insert attachment.slot.str attachment }
  else if kind = kRecordThreshold then do
    let threshold ← decodeThreshold document
    .ok { s with thresholds := s.thresholds ++ [threshold] }
  else if kind = kRecordRule then do
    let rule : CompatRuleRecord ← decode document
    .ok { s with rules := s.rules.insert rule.id rule }
  else .error (makeError .malformed "snapshot contains an unknown record kind")

/-- Read one record into a state (source `parse_snapshot`, the end of the loop body). -/
def readRecord (options : LoadOptions) (generation : Generation) (record : Record) (s : State) :
    Result State := do
  let document ← readDocument options.limits record.payload
  applyRecord generation record.kind document s

/-- Read the records of the bytes that are left, into the state parsed so far; `accepted` holds the
frames read before them. Every record takes bytes, so the length of the bytes bounds the number of
rounds (source `parse_snapshot`, the loop). -/
def readRecords (options : LoadOptions) (generation : Generation) :
    (rounds : Nat) → Bytes → ParsedSnapshot → (accepted : Bytes) → Result (ParsedSnapshot × Bytes)
  | 0, _, parsed, accepted => .ok (parsed, accepted)
  | rounds + 1, bytes, parsed, accepted =>
    if bytes = [] then .ok (parsed, accepted)
    else match nextRecord bytes with
      | .torn message note => do
        let parsed ← recoverTail options parsed bytes.length message note
        .ok (parsed, accepted)
      | .record record framed rest => do
        let state ← readRecord options generation record parsed.state
        readRecords options generation rounds rest
          { parsed with state, records := parsed.records + 1 } (accepted ++ framed)

/-- Check what follows the records (source `parse_snapshot`, after the loop). -/
def checkTrailer (options : LoadOptions) (file : Bytes) (recordEnd : Nat) (parsed : ParsedSnapshot)
    (accepted : Bytes) : Result ParsedSnapshot :=
  if parsed.tailRecovered then .ok parsed
  else if file.length < recordEnd + kTrailerBytes then
    recoverTail options parsed (file.length - recordEnd) "snapshot trailer is missing"
      "the snapshot trailer is incomplete"
  else if (file.drop recordEnd).take kRecordTrailerMagic.length ≠ kRecordTrailerMagic then
    recoverTail options parsed (file.length - recordEnd) "snapshot trailer magic does not match"
      "the snapshot trailer is damaged"
  else do
    refuseIf ((crc32c accepted 0).toNat ≠ readNumber 4 file (file.length - 4))
      (makeError .corrupt "snapshot payload failed its integrity check")
    .ok parsed

/-- Read a file (source `parse_snapshot`). -/
def parseSnapshot (file : Bytes) (options : LoadOptions) : Result ParsedSnapshot := do
  refuseIf (file.length < kHeaderBytes + kTrailerBytes)
    (makeError .corrupt "snapshot is too short to contain a header")
  refuseIf (file.take kSnapshotMagic.length ≠ kSnapshotMagic)
    (makeError .corrupt "snapshot magic does not match")
  let version := readNumber 2 file 8
  refuseIf (version ≠ kSnapshotFormatVersion)
    ⟨if options.requireSupportedVersion then .unsupported else .corrupt,
      text "snapshot format version " ++ decimal version ++ text " is not supported"⟩
  refuseIf (readNumber 2 file 10 ≠ 0 ∨ readNumber 4 file 12 ≠ 0)
    (makeError .malformed "snapshot header flags and reserved fields must be zero")
  let recordBytes := readNumber 8 file 16
  refuseIf (kMaxSnapshotBytes - kHeaderBytes < recordBytes)
    (makeError .corrupt "snapshot declares an impossible record length")
  let parsed : ParsedSnapshot := { formatVersion := version }
  if file.length < kHeaderBytes + recordBytes then
    recoverTail options parsed (file.length - kHeaderBytes) "snapshot is truncated"
      "the snapshot payload is shorter than its header declares"
  else do
    let generation : Generation := UInt64.ofNat (readNumber 8 file 24)
    let bytes := (file.drop kHeaderBytes).take recordBytes
    let (parsed, accepted) ← readRecords options generation bytes.length bytes
      { parsed with state := { State.initial with generation } } []
    let parsed ← checkTrailer options file (kHeaderBytes + recordBytes) parsed accepted
    .ok { parsed with contentDigest := sha256 accepted }

end Parse

end TransceiverRegistry
