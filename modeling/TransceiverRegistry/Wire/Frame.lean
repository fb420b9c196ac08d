import TransceiverRegistry.Canonical.Documents
import TransceiverRegistry.Core.Digest
import TransceiverRegistry.Lib.LittleEndian

/-!
# Frames

Port of the frame codec of `wire.cpp`: a header of sixteen bytes, a canonical document and a checksum.
The decoder accepts what the encoder makes of a document within the limits and nothing else.
-/

namespace TransceiverRegistry

open Lib

/-- The kinds of frames (source `MessageType`). -/
inductive MessageType where
  | hello | helloAck | request | response | failure | ping | pong | shutdown
deriving DecidableEq

/-- The number of a kind in a header (source `MessageType`). -/
def MessageType.number : MessageType → UInt16
  | .hello => 1
  | .helloAck => 2
  | .request => 3
  | .response => 4
  | .failure => 5
  | .ping => 6
  | .pong => 7
  | .shutdown => 8

/-- The first bytes of a frame (source `kFrameMagic`). -/
def kFrameMagic : Bytes := text "TRXF"

/-- The version of the protocol (source `kWireProtocolVersion`). -/
def kWireProtocolVersion : UInt16 := 1

/-- The reserved field of a header (source `kReservedFlags`). -/
def kReservedFlags : UInt16 := 0

/-- The length of a header (source `kFrameHeaderBytes`). -/
def kFrameHeaderBytes : Nat := 16

/-- The length of the checksum (source `kFrameTrailerBytes`). -/
def kFrameTrailerBytes : Nat := 4

/-- Bounds on a frame (source `FrameLimits`). -/
structure FrameLimits where
  maxBodyBytes : UInt32 := 1048576

/-- What a header says (source `FrameHeader`). -/
structure FrameHeader where
  version : UInt16
  type : MessageType
  flags : UInt16
  bodyLength : UInt32

/-- A decoded frame (source `Frame`). -/
structure Frame where
  type : MessageType
  flags : UInt16
  body : Value

/-- Two bytes at an offset (source `read_u16`). -/
def readU16 (data : Bytes) (offset : Nat) : UInt16 :=
  UInt16.ofNat (ofLittleEndian ((data.drop offset).take 2))

/-- Four bytes at an offset (source `read_u32`). -/
def readU32 (data : Bytes) (offset : Nat) : UInt32 :=
  UInt32.ofNat (ofLittleEndian ((data.drop offset).take 4))

/-- The kind with a number (source `parse_frame_header`, the switch). -/
def messageTypeOf (number : UInt16) : Result MessageType :=
  match number with
  | 1 => .ok .hello
  | 2 => .ok .helloAck
  | 3 => .ok .request
  | 4 => .ok .response
  | 5 => .ok .failure
  | 6 => .ok .ping
  | 7 => .ok .pong
  | 8 => .ok .shutdown
  | _ => .error (makeError .malformed "unknown frame message type")

/-- Check a header (source `parse_frame_header`). -/
def parseFrameHeader (header : Bytes) (limits : FrameLimits) : Result FrameHeader := do
  refuseIf (header.take 4 ≠ kFrameMagic) (makeError .malformed "frame magic does not match")
  let version := readU16 header 4
  refuseIf (version ≠ kWireProtocolVersion)
    (makeError .malformed "unsupported wire protocol version")
  let type ← messageTypeOf (readU16 header 6)
  let flags := readU16 header 8
  refuseIf (readU16 header 10 ≠ kReservedFlags)
    (makeError .malformed "frame reserved field must be zero")
  let bodyLength := readU32 header 12
  refuseIf (limits.maxBodyBytes < bodyLength)
    (makeError .capacityExceeded "frame body exceeds the configured limit")
  refuseIf (bodyLength = 0)
    (makeError .malformed "a frame body must carry a canonical document")
  .ok { version, type, flags, bodyLength }

/-- The header of a frame (source `encode_frame`, the first calls). -/
def frameHeader (type : MessageType) (flags : UInt16) (bodyLength : Nat) : Bytes :=
  kFrameMagic ++ (littleEndian 2 kWireProtocolVersion.toNat ++ (littleEndian 2 type.number.toNat ++
    (littleEndian 2 flags.toNat ++ (littleEndian 2 kReservedFlags.toNat ++
      littleEndian 4 bodyLength))))

/-- A frame (source `encode_frame`). -/
def encodeFrame (type : MessageType) (flags : UInt16) (body : Bytes) : Bytes :=
  let frame := frameHeader type flags body.length ++ body
  frame ++ littleEndian 4 (crc32c frame 0).toNat

/-- Check a frame and read its document (source `decode_frame`). -/
def decodeFrame (frameBytes : Bytes) (limits : FrameLimits) (documentLimits : CanonicalLimits) :
    Result Frame := do
  refuseIf (frameBytes.length < kFrameHeaderBytes + kFrameTrailerBytes)
    (makeError .corrupt "frame is shorter than its header and checksum")
  let header ← parseFrameHeader (frameBytes.take kFrameHeaderBytes) limits
  refuseIf (frameBytes.length ≠
      kFrameHeaderBytes + header.bodyLength.toNat + kFrameTrailerBytes)
    (makeError .corrupt "frame length does not match its declared body length")
  let checksummed := frameBytes.take (frameBytes.length - kFrameTrailerBytes)
  refuseIf (crc32c checksummed 0 ≠ readU32 frameBytes (frameBytes.length - kFrameTrailerBytes))
    (makeError .corrupt "frame failed its integrity check")
  let body ← readDocument documentLimits
    ((frameBytes.drop kFrameHeaderBytes).take header.bodyLength.toNat)
  .ok { type := header.type, flags := header.flags, body }

section Read

variable {l p q : Bytes} {data : Bytes} {offset n : Nat}

/-- The parts of a list at a place. -/
lemma eq_append_iff (length : p.length = n) : l = p ++ q ↔ l.take n = p ∧ l.drop n = q := by
  subst length
  constructor
  · rintro rfl
    exact ⟨List.take_left, List.drop_left⟩
  · rintro ⟨front, back⟩
    rw [← List.take_append_drop p.length l, front, back]

/-- A window of some bytes. -/
lemma length_window (inside : offset + n ≤ data.length) : ((data.drop offset).take n).length = n := by
  rw [List.length_take, List.length_drop]
  omega

/-- Two bytes are read as a number when they are its bytes (source `read_u16`, `append_u16`). -/
lemma readU16_eq_iff (inside : offset + 2 ≤ data.length) {v : UInt16} :
    readU16 data offset = v ↔ (data.drop offset).take 2 = littleEndian 2 v.toNat := by
  have length := length_window inside
  have fits := ofLittleEndian_lt ((data.drop offset).take 2)
  have bytes := ofLittleEndian_eq_iff (l := (data.drop offset).take 2) (v := v.toNat)
    (by rw [length]; exact v.toNat_lt)
  rw [length] at fits bytes
  rw [← bytes, readU16, ← UInt16.toNat_inj, UInt16.toNat_ofNat']
  omega

/-- Four bytes are read as a number when they are its bytes (source `read_u32`, `append_u32`). -/
lemma readU32_eq_iff (inside : offset + 4 ≤ data.length) {v : UInt32} :
    readU32 data offset = v ↔ (data.drop offset).take 4 = littleEndian 4 v.toNat := by
  have length := length_window inside
  have fits := ofLittleEndian_lt ((data.drop offset).take 4)
  have bytes := ofLittleEndian_eq_iff (l := (data.drop offset).take 4) (v := v.toNat)
    (by rw [length]; exact v.toNat_lt)
  rw [length] at fits bytes
  rw [← bytes, readU32, ← UInt32.toNat_inj, UInt32.toNat_ofNat']
  omega

/-- The numbers of the kinds (source `parse_frame_header`, the switch). -/
lemma messageTypeOf_eq_ok {number : UInt16} {type : MessageType} :
    messageTypeOf number = .ok type ↔ number = type.number := by
  constructor
  · intro known
    unfold messageTypeOf at known
    split at known <;> cases known <;> rfl
  · rintro rfl
    cases type <;> rfl

/-- A header is parsed as what it was made of (source `parse_frame_header`, `encode_frame`). -/
lemma parseFrameHeader_eq_ok {header : Bytes} (length : header.length = 16) {limits : FrameLimits}
    {parsed : FrameHeader} : parseFrameHeader header limits = .ok parsed ↔
      header = frameHeader parsed.type parsed.flags parsed.bodyLength.toNat ∧
        parsed.version = kWireProtocolVersion ∧ parsed.bodyLength ≤ limits.maxBodyBytes ∧
        parsed.bodyLength ≠ 0 := by
  have whole : (header.drop 12).take 4 = header.drop 12 :=
    List.take_of_length_le (by rw [List.length_drop]; omega)
  rw [frameHeader, eq_append_iff (n := 4) rfl, eq_append_iff (n := 2) length_littleEndian,
    eq_append_iff (n := 2) length_littleEndian, eq_append_iff (n := 2) length_littleEndian,
    eq_append_iff (n := 2) length_littleEndian]
  simp only [List.drop_drop, Nat.reduceAdd]
  rw [← whole, ← readU16_eq_iff (by omega), ← readU16_eq_iff (by omega), ← readU16_eq_iff (by omega),
    ← readU16_eq_iff (by omega), ← readU32_eq_iff (by omega)]
  simp only [parseFrameHeader, bind_eq_ok, refuseIf_eq_ok, exists_const, messageTypeOf_eq_ok,
    ne_eq, not_not, UInt32.not_lt]
  constructor
  · rintro ⟨magic, version, type, kind, reserved, small, some, parts⟩
    cases parts
    exact ⟨⟨magic, version, kind, rfl, reserved, rfl⟩, version, small, some⟩
  · rintro ⟨⟨magic, version, kind, flags, reserved, bodyLength⟩, numbered, small, some⟩
    rw [flags, bodyLength, version, ← numbered]
    exact ⟨magic, rfl, parsed.type, kind, reserved, small, some, rfl⟩

end Read

section Frame

variable {type : MessageType} {flags : UInt16} {body bytes : Bytes}

/-- The length of a header (source `kFrameHeaderBytes`). -/
lemma length_frameHeader (type : MessageType) (flags : UInt16) (bodyLength : Nat) :
    (frameHeader type flags bodyLength).length = 16 := by
  simp only [frameHeader, List.length_append, length_littleEndian]
  rfl

/-- Bytes are a frame when their parts are those of the frame (source `encode_frame`). -/
lemma eq_encodeFrame_iff : bytes = encodeFrame type flags body ↔
    bytes.length = 16 + body.length + 4 ∧ bytes.take 16 = frameHeader type flags body.length ∧
      (bytes.drop 16).take body.length = body ∧
      (bytes.drop (16 + body.length)).take 4 =
        littleEndian 4 (crc32c (bytes.take (16 + body.length)) 0).toNat := by
  have front : (frameHeader type flags body.length ++ body).length = 16 + body.length := by
    rw [List.length_append, length_frameHeader]
  rw [encodeFrame, eq_append_iff front]
  constructor
  · rintro ⟨checked, rest⟩
    have length := congrArg List.length rest
    rw [List.length_drop, length_littleEndian] at length
    rw [List.take_add] at checked
    obtain ⟨header, document⟩ := List.append_inj checked (by
      rw [length_frameHeader, List.length_take]
      omega)
    refine ⟨by omega, header, document, ?_⟩
    rw [List.take_add, checked, rest, List.take_of_length_le (by rw [length_littleEndian])]
  · rintro ⟨length, header, document, rest⟩
    have checked : bytes.take (16 + body.length) = frameHeader type flags body.length ++ body := by
      rw [List.take_add, header, document]
    refine ⟨checked, ?_⟩
    rw [← checked, ← rest, List.take_of_length_le (by rw [List.length_drop]; omega)]

/-- The checks a decoded frame passed (source `decode_frame`). -/
lemma decodeFrame_eq_ok {limits : FrameLimits} {documentLimits : CanonicalLimits} {frame : Frame} :
    decodeFrame bytes limits documentLimits = .ok frame ↔
      ∃ n : UInt32, bytes.length = 16 + n.toNat + 4 ∧
        bytes.take 16 = frameHeader frame.type frame.flags n.toNat ∧
        n ≤ limits.maxBodyBytes ∧ n ≠ 0 ∧
        (bytes.drop (16 + n.toNat)).take 4 =
          littleEndian 4 (crc32c (bytes.take (16 + n.toNat)) 0).toNat ∧
        readDocument documentLimits ((bytes.drop 16).take n.toNat) = .ok frame.body := by
  have ends (n : UInt32) (length : bytes.length = 16 + n.toNat + 4) :
      bytes.length - 4 = 16 + n.toNat := by omega
  simp only [decodeFrame, bind_eq_ok, refuseIf_eq_ok, exists_const, not_not, not_lt,
    Except.ok.injEq, ne_eq]
  constructor
  · rintro ⟨long, header, parsed, length, checked, document, read, rfl⟩
    change bytes.length = 16 + _ + 4 at length
    have front : (bytes.take 16).length = 16 := by
      rw [List.length_take]
      omega
    obtain ⟨headed, -, small, some⟩ := (parseFrameHeader_eq_ok front).1 parsed
    change crc32c (bytes.take (bytes.length - 4)) 0 = readU32 bytes (bytes.length - 4) at checked
    rw [ends _ length] at checked
    exact ⟨_, length, headed, small, some, (readU32_eq_iff (by omega)).1 checked.symm, read⟩
  · rintro ⟨n, length, headed, small, some, checked, read⟩
    have front : (bytes.take 16).length = 16 := by
      rw [List.length_take]
      omega
    refine ⟨?_, ⟨kWireProtocolVersion, frame.type, frame.flags, n⟩,
      (parseFrameHeader_eq_ok front).2 ⟨headed, rfl, small, some⟩, length, ?_, frame.body, read, rfl⟩
    · change 16 + 4 ≤ bytes.length
      omega
    · change crc32c (bytes.take (bytes.length - 4)) 0 = readU32 bytes (bytes.length - 4)
      rw [ends n length]
      exact ((readU32_eq_iff (by omega)).2 checked).symm

/-- The decoder accepts a frame exactly when its bytes are what the encoder makes of the canonical
form of its document, the length of that form is within the limit and not zero, and the document is
within the limits of documents (source `decode_frame`, `encode_frame`). -/
theorem frame_accepted_iff (bytes : Bytes) (limits : FrameLimits) (documentLimits : CanonicalLimits)
    (type : MessageType) (flags : UInt16) (body : Value) :
    decodeFrame bytes limits documentLimits = .ok ⟨type, flags, body⟩ ↔
      bytes = encodeFrame type flags (CanonicalWriter.new.writeValue body).bytes ∧
        1 ≤ (CanonicalWriter.new.writeValue body).bytes.length ∧
        (CanonicalWriter.new.writeValue body).bytes.length ≤ limits.maxBodyBytes.toNat ∧
        body.InLimits documentLimits := by
  rw [decodeFrame_eq_ok, eq_encodeFrame_iff]
  constructor
  · rintro ⟨n, length, headed, small, some, checked, read⟩
    obtain ⟨fits, written⟩ := readDocument_eq_ok_iff.1 read
    have size : (CanonicalWriter.new.writeValue body).bytes.length = n.toNat := by
      rw [written]
      exact length_window (by omega)
    have positive : n.toNat ≠ 0 := fun zero => some (UInt32.toNat_inj.1 zero)
    rw [size]
    refine ⟨⟨length, headed, ?_, checked⟩, by omega, UInt32.le_iff_toNat_le.1 small, fits⟩
    rw [written]
  · rintro ⟨⟨length, headed, document, checked⟩, some, small, fits⟩
    have bound := limits.maxBodyBytes.toNat_lt
    have size : (UInt32.ofNat (CanonicalWriter.new.writeValue body).bytes.length).toNat =
        (CanonicalWriter.new.writeValue body).bytes.length := by
      rw [UInt32.toNat_ofNat']
      exact Nat.mod_eq_of_lt (by omega)
    refine ⟨UInt32.ofNat (CanonicalWriter.new.writeValue body).bytes.length, ?_⟩
    rw [size, UInt32.le_iff_toNat_le, size, ne_eq, ← UInt32.toNat_inj, size]
    refine ⟨length, headed, small, fun zero => ?_, checked, ?_⟩
    · rw [zero] at some
      cases some
    · rw [document]
      exact readDocument_writeValue fits.within fits.height fits.nodes fits.document

end Frame

end TransceiverRegistry
