import TransceiverRegistry.Canonical.Delimited
import TransceiverRegistry.Lib.Scanner
import TransceiverRegistry.Wire.Reading
import TransceiverRegistry.Wire.Response

/-!
# Streams of frames

The frames of a stream do not depend on the pieces it comes in: `read_frame` of `wire.cpp` cuts the
next frame off the bytes of the stream. What `write_frame` sends is one such frame, whatever follows.
-/

namespace TransceiverRegistry

open Lib CanonicalWriter

/-- The next frame of a stream, or the error it is refused with, and what follows; none while bytes
are missing (source `read_frame`). -/
def nextFrame (limits : FrameLimits) (documentLimits : CanonicalLimits) (stream : Bytes) :
    Option (Result Frame × Bytes) :=
  if stream.length < kFrameHeaderBytes then none
  else match parseFrameHeader (stream.take kFrameHeaderBytes) limits with
    | .error e => some (.error e, stream.drop kFrameHeaderBytes)
    | .ok header =>
      let total := kFrameHeaderBytes + header.bodyLength.toNat + kFrameTrailerBytes
      if stream.length < total then none
      else some (decodeFrame (stream.take total) limits documentLimits, stream.drop total)

section Next

variable {limits : FrameLimits} {documentLimits : CanonicalLimits} {stream rest : Bytes}
  {item : Result Frame}

/-- A frame is cut off when its bytes are there: its header alone when that is refused, and else the
header, the body and the checksum (source `read_frame`). -/
lemma nextFrame_eq_some : nextFrame limits documentLimits stream = some (item, rest) ↔
    kFrameHeaderBytes ≤ stream.length ∧
      ((∃ e, parseFrameHeader (stream.take kFrameHeaderBytes) limits = .error e ∧
          item = .error e ∧ rest = stream.drop kFrameHeaderBytes) ∨
        ∃ header, parseFrameHeader (stream.take kFrameHeaderBytes) limits = .ok header ∧
          kFrameHeaderBytes + header.bodyLength.toNat + kFrameTrailerBytes ≤ stream.length ∧
          item = decodeFrame (stream.take
            (kFrameHeaderBytes + header.bodyLength.toNat + kFrameTrailerBytes)) limits
              documentLimits ∧
          rest = stream.drop
            (kFrameHeaderBytes + header.bodyLength.toNat + kFrameTrailerBytes)) := by
  unfold nextFrame
  split
  · rename_i short
    simp [Nat.not_le.2 short]
  rename_i long
  rw [and_iff_right (Nat.not_lt.1 long)]
  cases parseFrameHeader (stream.take kFrameHeaderBytes) limits with
  | error e => simp [eq_comm]
  | ok header =>
    dsimp only
    split
    · rename_i short
      simp [Nat.not_le.2 short]
    · rename_i long
      simp [Nat.not_lt.1 long, eq_comm]

/-- A frame has at least one byte (source `kFrameHeaderBytes`). -/
lemma nextFrame_shrinks (cut : nextFrame limits documentLimits stream = some (item, rest)) :
    rest.length < stream.length := by
  have header : kFrameHeaderBytes = 16 := rfl
  obtain ⟨long, ⟨_, _, _, rfl⟩ | ⟨_, _, _, _, rfl⟩⟩ := nextFrame_eq_some.1 cut <;>
    rw [List.length_drop] <;> omega

/-- What follows a frame does not change it (source `read_frame`). -/
lemma nextFrame_stable (more : Bytes)
    (cut : nextFrame limits documentLimits stream = some (item, rest)) :
    nextFrame limits documentLimits (stream ++ more) = some (item, rest ++ more) := by
  obtain ⟨long, parts⟩ := nextFrame_eq_some.1 cut
  have front : (stream ++ more).take kFrameHeaderBytes = stream.take kFrameHeaderBytes :=
    List.take_append_of_le_length long
  rw [nextFrame_eq_some, front, List.length_append]
  refine ⟨by omega, ?_⟩
  obtain ⟨e, refused, rfl, rfl⟩ | ⟨header, accepted, enough, rfl, rfl⟩ := parts
  · exact .inl ⟨e, refused, rfl, (List.drop_append_of_le_length long).symm⟩
  · refine .inr ⟨header, accepted, by omega, ?_, (List.drop_append_of_le_length enough).symm⟩
    rw [List.take_append_of_le_length enough]

end Next

/-- The frames of a stream under some limits (source `read_frame`). -/
def frameScanner (limits : FrameLimits) (documentLimits : CanonicalLimits) :
    Scanner UInt8 (Result Frame) where
  next := nextFrame limits documentLimits
  shrinks := nextFrame_shrinks
  stable := nextFrame_stable

/-- An empty stream waits for more. -/
lemma frameScanner_nil {limits : FrameLimits} {documentLimits : CanonicalLimits} :
    (frameScanner limits documentLimits).next [] = none := rfl

section Read

variable {limits : FrameLimits} {documentLimits : CanonicalLimits} {socket : Socket} {rest : Bytes}
  {item : Result Frame}

/-- However the stream is cut into pieces, the next frame of it is read and no more
(source `read_frame`). -/
lemma Socket.Orderly.readFrame (orderly : socket.Orderly)
    (cut : nextFrame limits documentLimits socket.stream = some (item, rest)) :
    ∃ socket', TransceiverRegistry.readFrame limits documentLimits socket = (item, socket') ∧
      socket'.stream = rest := by
  obtain ⟨long, parts⟩ := nextFrame_eq_some.1 cut
  obtain ⟨socket₁, headed, left, orderly₁⟩ := orderly.receive_empty closedInHeader long
  obtain ⟨e, refused, rfl, rfl⟩ | ⟨header, accepted, enough, rfl, rfl⟩ := parts
  · refine ⟨socket₁, ?_, left⟩
    rw [TransceiverRegistry.readFrame, headed]
    dsimp only
    rw [refused]
  · have remaining : header.bodyLength.toNat + kFrameTrailerBytes ≤ socket₁.stream.length := by
      rw [left, List.length_drop]
      omega
    obtain ⟨socket₂, filled, left₂, -⟩ := orderly₁.receive_empty closedInBody remaining
    refine ⟨socket₂, ?_, ?_⟩
    · rw [TransceiverRegistry.readFrame, headed]
      dsimp only
      rw [accepted]
      dsimp only
      rw [filled]
      dsimp only
      rw [left, ← List.take_add, Nat.add_assoc]
    · rw [left₂, left, List.drop_drop, Nat.add_assoc]

/-- A stream that ends before a buffer is filled is received to its end (source `read_frame`, the two
loops). -/
lemma Socket.Orderly.receive_short (orderly : socket.Orderly) (closed : Bytes → Error)
    {size : Nat} {filled : Bytes} (short : filled.length + socket.stream.length < size) :
    ∃ e socket', socket.receive closed size filled = (.error e, socket') ∧
      socket'.stream = [] := by
  induction left : socket.stream.length using Nat.strong_induction_on
    generalizing socket filled with
  | _ m ih =>
    have wanted : 0 < size - filled.length := by omega
    obtain ⟨count, some, received⟩ := orderly.recvSome wanted
    have length : (socket.stream.take count).length = min count socket.stream.length :=
      List.length_take
    have remains : (socket.took count).stream.length = socket.stream.length - count :=
      List.length_drop
    rw [Socket.receive, if_pos (by omega), received]
    dsimp only
    split
    · rename_i none
      rw [none, List.length_nil] at length
      refine ⟨closed filled, socket.took count, rfl, List.eq_nil_of_length_eq_zero ?_⟩
      omega
    · rename_i more
      have more := List.length_pos_iff.2 more
      refine ih _ ?_ (orderly.took count) ?_ rfl
      · omega
      · rw [List.length_append]
        omega

/-- A stream that ends before its next frame does is read to its end and refused
(source `read_frame`). -/
lemma Socket.Orderly.readFrame_waiting (orderly : socket.Orderly)
    (waits : nextFrame limits documentLimits socket.stream = none) :
    ∃ e socket', TransceiverRegistry.readFrame limits documentLimits socket = (.error e, socket') ∧
      socket'.stream = [] := by
  unfold nextFrame at waits
  split at waits
  · rename_i short
    have short : ([] : Bytes).length + socket.stream.length < kFrameHeaderBytes := by
      rwa [List.length_nil, Nat.zero_add]
    obtain ⟨e, socket', refused, ends⟩ := orderly.receive_short closedInHeader short
    refine ⟨e, socket', ?_, ends⟩
    rw [TransceiverRegistry.readFrame, refused]
  rename_i long
  obtain ⟨socket₁, headed, left, orderly₁⟩ :=
    orderly.receive_empty closedInHeader (Nat.not_lt.1 long)
  cases parsed : parseFrameHeader (socket.stream.take kFrameHeaderBytes) limits with
  | error e =>
    rw [parsed] at waits
    cases waits
  | ok header =>
    rw [parsed] at waits
    dsimp only at waits
    split at waits
    swap
    · cases waits
    rename_i short
    have short : ([] : Bytes).length + socket₁.stream.length <
        header.bodyLength.toNat + kFrameTrailerBytes := by
      rw [List.length_nil, left, List.length_drop]
      omega
    obtain ⟨e, socket', refused, ends⟩ := orderly₁.receive_short closedInBody short
    refine ⟨e, socket', ?_, ends⟩
    rw [TransceiverRegistry.readFrame, headed]
    dsimp only
    rw [parsed]
    dsimp only
    rw [refused]

/-- What a reader leaves of a stream: what follows the next frame, or nothing when the stream ends before
the frame does (source `read_frame`). -/
lemma Socket.Orderly.readFrame_left (orderly : socket.Orderly) :
    (TransceiverRegistry.readFrame limits documentLimits socket).2.stream =
      match nextFrame limits documentLimits socket.stream with
      | some (_, rest) => rest
      | none => [] := by
  cases cut : nextFrame limits documentLimits socket.stream with
  | none =>
    obtain ⟨e, socket', refused, nothing⟩ := orderly.readFrame_waiting cut
    rw [refused]
    exact nothing
  | some next =>
    obtain ⟨socket', read, left⟩ := orderly.readFrame cut
    rw [read]
    exact left

end Read

section Write

variable {type : MessageType} {flags : UInt16} {body : Value} {limits limits' : FrameLimits}
  {documentLimits : CanonicalLimits} {bytes : Bytes}

/-- A value that has a canonical form has at least one byte (source
`CanonicalWriter::write_value`). -/
lemma writeValue_ne_nil {v : Value} (written : (new.writeValue v).failed = false) :
    (new.writeValue v).bytes ≠ [] := by
  have first (b : UInt8) (w : CanonicalWriter) :
      ((new.append [b]).andThen w).bytes ≠ [] := by
    simp [andThen, append, new]
  cases v with
  | null | boolean | integer | unsigned | binary =>
    simp [writeValue, nullValue, boolean, integer, unsignedInteger, binary, append, new]
  | real value =>
    simp only [writeValue, real] at written ⊢
    split at written
    · cases written
    · rename_i number
      rw [if_neg number]
      simp [append, new]
  | text value =>
    simp only [writeValue, CanonicalWriter.text] at written ⊢
    split at written
    · rename_i valid
      rw [if_pos valid]
      simp [append, new]
    · cases written
  | array elements =>
    rw [writeValue, beginArray, writeElements_eq]
    simp [andThen, append, new]
  | members ms =>
    rw [writeValue, beginObject, writeMembers_eq]
    simp [andThen, append, new]

/-- What is sent for a document is one frame of the stream, whatever follows it (source `write_frame`,
`read_frame`). -/
lemma whole_writeFrame (written : writeFrame type flags body limits = .ok bytes)
    (wider : limits.maxBodyBytes ≤ limits'.maxBodyBytes) :
    (frameScanner limits' documentLimits).Whole bytes
      (decodeFrame bytes limits' documentLimits) := by
  intro more
  obtain ⟨canonical, small, rfl⟩ := writeFrame_eq_ok.1 written
  have wider := UInt32.le_iff_toNat_le.1 wider
  have bound := limits.maxBodyBytes.toNat_lt
  have header : kFrameHeaderBytes = 16 := rfl
  obtain ⟨length, headed, -, -⟩ :=
    eq_encodeFrame_iff.1 (Eq.refl (encodeFrame type flags (new.writeValue body).bytes))
  have size : (UInt32.ofNat (new.writeValue body).bytes.length).toNat =
      (new.writeValue body).bytes.length := by
    rw [UInt32.toNat_ofNat']
    exact Nat.mod_eq_of_lt (by omega)
  have some : UInt32.ofNat (new.writeValue body).bytes.length ≠ 0 := fun zero => by
    have none := congrArg UInt32.toNat zero
    rw [size] at none
    exact writeValue_ne_nil canonical (List.length_eq_zero_iff.1 none)
  have accepted : parseFrameHeader
      ((encodeFrame type flags (new.writeValue body).bytes).take kFrameHeaderBytes) limits' =
        .ok ⟨kWireProtocolVersion, type, flags,
          UInt32.ofNat (new.writeValue body).bytes.length⟩ := by
    refine (parseFrameHeader_eq_ok (by
      rw [List.length_take, length]
      exact Nat.min_eq_left (by rw [header]; omega))).2
      ⟨?_, rfl, ?_, some⟩
    · rw [size]
      exact headed
    · rw [UInt32.le_iff_toNat_le, size]
      omega
  have total : kFrameHeaderBytes +
      (UInt32.ofNat (new.writeValue body).bytes.length).toNat + kFrameTrailerBytes =
        (encodeFrame type flags (new.writeValue body).bytes).length := by
    rw [size, length]
    rfl
  have front : ((encodeFrame type flags (new.writeValue body).bytes) ++ more).take
      kFrameHeaderBytes =
        (encodeFrame type flags (new.writeValue body).bytes).take kFrameHeaderBytes :=
    List.take_append_of_le_length (by rw [← total]; omega)
  have long : kFrameHeaderBytes ≤
      (encodeFrame type flags (new.writeValue body).bytes ++ more).length := by
    rw [List.length_append, ← total]
    omega
  refine nextFrame_eq_some.2 ⟨long, .inr ⟨_, front ▸ accepted, ?_, ?_, ?_⟩⟩
  · rw [total, List.length_append]
    omega
  · rw [total, List.take_left]
  · rw [total, List.drop_left]

/-- What is sent for a document is decoded as that document or refused (source `write_frame`,
`decode_frame`). -/
lemma eq_of_decodeFrame {frame : Frame} (written : writeFrame type flags body limits = .ok bytes)
    (decoded : decodeFrame bytes limits documentLimits = .ok frame) : frame = ⟨type, flags, body⟩ := by
  obtain ⟨canonical, small, rfl⟩ := writeFrame_eq_ok.1 written
  obtain ⟨kind, bits, read⟩ := (decodeFrame_encodeFrame small).1 decoded
  have bound := limits.maxBodyBytes.toNat_lt
  have rewritten := readDocument_inv read
  have same : (new.writeValue frame.body).bytes = (new.writeValue body).bytes := by
    rw [rewritten]
  have fine : (new.writeValue frame.body).failed = false := by
    rw [rewritten]
  obtain ⟨_, _, document⟩ := frame
  have document := writeValue_inj fine canonical (by rw [same]; omega) same
  dsimp only at kind bits document
  rw [kind, bits, document]

end Write

end TransceiverRegistry
