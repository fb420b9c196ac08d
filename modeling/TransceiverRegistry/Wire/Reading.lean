import TransceiverRegistry.Wire.Frame

/-!
# Reading frames from a stream

Port of `read_frame` of `wire.cpp`. A socket delivers the bytes that the peer sent in pieces of any
size up to what a call asks for. However the stream is cut, a frame is read to its last byte and no
further.
-/

namespace TransceiverRegistry

open Lib

/-- What a call of `recv_some` does: deliver a piece, of at most so many bytes, or fail. -/
inductive Delivery where
  | piece (count : Nat)
  | failure (error : Error)

/-- A connected socket (source `net::Socket`): the bytes that the peer sent before it closed the
connection and that were not received yet, and what the next calls of `recv_some` do. -/
structure Socket where
  stream : Bytes
  deliveries : Nat → Delivery

/-- A call took some bytes from a socket. -/
def Socket.took (socket : Socket) (count : Nat) : Socket where
  stream := socket.stream.drop count
  deliveries n := socket.deliveries (n + 1)

/-- Receive between one byte and `size` bytes, or nothing when the peer closed the connection
(source `Socket::recv_some`). -/
def Socket.recvSome (socket : Socket) (size : Nat) : Result Bytes × Socket :=
  if size = 0 then
    (.error (makeError .invalidArgument "recv_some() failed: the receive buffer is empty"), socket)
  else match socket.deliveries 0 with
    | .failure error => (.error error, socket.took 0)
    | .piece count =>
      let count := max 1 (min count size)
      (.ok (socket.stream.take count), socket.took count)

/-- Receive until the buffer holds `size` bytes; `closed` is the error when the peer closes the
connection first (source `read_frame`, the two loops). -/
def Socket.receive (closed : (filled : Bytes) → Error) (size : Nat) (socket : Socket)
    (filled : Bytes) : Result Bytes × Socket :=
  if filled.length < size then
    match socket.recvSome (size - filled.length) with
    | (.error e, socket) => (.error e, socket)
    | (.ok received, socket) =>
      if received = [] then (.error (closed filled), socket)
      else receive closed size socket (filled ++ received)
  else (.ok filled, socket)
termination_by size - filled.length
decreasing_by
  rename_i some
  have := List.length_pos_iff.2 some
  rw [List.length_append]
  omega

/-- The peer closed the connection in a header (source `read_frame`, the first loop). -/
def closedInHeader (filled : Bytes) : Error :=
  makeError .ioError (if filled = [] then "the peer closed the connection"
    else "the peer closed the connection mid-frame")

/-- The peer closed the connection in a body (source `read_frame`, the second loop). -/
def closedInBody (_ : Bytes) : Error :=
  makeError .corrupt "the peer closed the connection mid-frame"

/-- Read one frame (source `read_frame`). -/
def readFrame (limits : FrameLimits) (documentLimits : CanonicalLimits) (socket : Socket) :
    Result Frame × Socket :=
  match socket.receive closedInHeader kFrameHeaderBytes [] with
  | (.error e, socket) => (.error e, socket)
  | (.ok header, socket) =>
    match parseFrameHeader header limits with
    | .error e => (.error e, socket)
    | .ok parsed =>
      let remaining := parsed.bodyLength.toNat + kFrameTrailerBytes
      match socket.receive closedInBody remaining [] with
      | (.error e, socket) => (.error e, socket)
      | (.ok received, socket) => (decodeFrame (header ++ received) limits documentLimits, socket)

/-- No call of `recv_some` fails. -/
def Socket.Orderly (socket : Socket) : Prop := ∀ n, ∃ count, socket.deliveries n = .piece count

variable {socket : Socket} {closed : Bytes → Error} {size : Nat} {filled : Bytes}

/-- A socket stays orderly. -/
lemma Socket.Orderly.took (orderly : socket.Orderly) (count : Nat) : (socket.took count).Orderly :=
  fun n => orderly (n + 1)

/-- What a call received was taken from the stream (source `Socket::recv_some`). -/
lemma Socket.recvSome_eq_ok {received : Bytes} {socket' : Socket}
    (h : socket.recvSome size = (.ok received, socket')) :
    ∃ count, count ≤ size ∧ received = socket.stream.take count ∧ socket' = socket.took count := by
  rw [Socket.recvSome] at h
  split at h
  · cases h
  split at h
  · cases h
  · cases h
    exact ⟨_, by omega, rfl, rfl⟩

/-- A piece has at least one byte while the peer sends, and no more than the call asked for
(source `Socket::recv_some`). -/
lemma Socket.Orderly.recvSome (orderly : socket.Orderly) (some : 0 < size) :
    ∃ count, 0 < count ∧
      socket.recvSome size = (.ok (socket.stream.take count), socket.took count) := by
  obtain ⟨count, delivered⟩ := orderly 0
  refine ⟨max 1 (min count size), by omega, ?_⟩
  rw [Socket.recvSome, if_neg (Nat.ne_of_gt some), delivered]

/-- However the stream is cut, what is received is the next bytes of it, and the rest stays
(source `read_frame`, the two loops). -/
lemma Socket.receive_eq_ok {received : Bytes} {socket' : Socket} (less : filled.length ≤ size)
    (h : socket.receive closed size filled = (.ok received, socket')) :
    size ≤ filled.length + socket.stream.length ∧
      received = filled ++ socket.stream.take (size - filled.length) ∧
      socket'.stream = socket.stream.drop (size - filled.length) := by
  induction left : size - filled.length using Nat.strong_induction_on generalizing socket filled with
  | _ m ih =>
    rw [Socket.receive] at h
    by_cases more : filled.length < size
    swap
    · rw [if_neg more] at h
      cases h
      have none : m = 0 := by omega
      rw [none, List.take_zero, List.append_nil, List.drop_zero]
      exact ⟨by omega, rfl, rfl⟩
    rw [if_pos more] at h
    cases call : socket.recvSome (size - filled.length) with
    | mk result socket₁ =>
      rw [call] at h
      cases result with
      | error e => cases h
      | ok piece =>
        obtain ⟨count, fits, rfl, rfl⟩ := Socket.recvSome_eq_ok call
        dsimp only at h
        split at h
        · cases h
        · rename_i some
          have delivered := List.length_pos_iff.2 some
          have grown : (filled ++ socket.stream.take count).length =
              filled.length + (socket.stream.take count).length := List.length_append
          have length : (socket.stream.take count).length = min count socket.stream.length :=
            List.length_take
          have remains : (socket.took count).stream.length = socket.stream.length - count :=
            List.length_drop
          obtain ⟨enough, bytes, rest⟩ :=
            ih (m - (socket.stream.take count).length) (by omega) (by omega) h (by omega)
          have parts : count + (m - (socket.stream.take count).length) = m := by omega
          refine ⟨by omega, ?_, ?_⟩
          · rw [bytes, List.append_assoc, Socket.took, ← List.take_add, parts]
          · rw [rest, Socket.took, List.drop_drop, parts]

/-- A buffer is filled from a stream that is long enough (source `read_frame`, the two loops). -/
lemma Socket.Orderly.receive (orderly : socket.Orderly)
    (long : size ≤ filled.length + socket.stream.length) :
    ∃ received socket', socket.receive closed size filled = (.ok received, socket') ∧
      socket'.Orderly := by
  induction left : size - filled.length using Nat.strong_induction_on generalizing socket filled with
  | _ m ih =>
    rw [Socket.receive]
    by_cases more : filled.length < size
    · obtain ⟨count, some, received⟩ := orderly.recvSome (Nat.sub_pos_of_lt more)
      have length : (socket.stream.take count).length = min count socket.stream.length :=
        List.length_take
      have remains : (socket.took count).stream.length = socket.stream.length - count :=
        List.length_drop
      have grown : (filled ++ socket.stream.take count).length =
          filled.length + (socket.stream.take count).length := List.length_append
      have delivered : socket.stream.take count ≠ [] := List.ne_nil_of_length_pos (by omega)
      rw [if_pos more, received]
      dsimp only
      rw [if_neg delivered]
      exact ih (m - (socket.stream.take count).length) (by omega) (orderly.took count) (by omega)
        (by omega)
    · rw [if_neg more]
      exact ⟨filled, socket, rfl, orderly⟩

/-- What an empty buffer is filled with (source `read_frame`, the two loops). -/
lemma Socket.receive_empty_eq_ok {received : Bytes} {socket' : Socket}
    (h : socket.receive closed size [] = (.ok received, socket')) :
    size ≤ socket.stream.length ∧ received = socket.stream.take size ∧
      socket'.stream = socket.stream.drop size := by
  obtain ⟨long, bytes, rest⟩ := Socket.receive_eq_ok (Nat.zero_le size) h
  rw [List.length_nil, Nat.zero_add] at long
  exact ⟨long, bytes, rest⟩

/-- An empty buffer is filled from a stream that is long enough (source `read_frame`, the two
loops). -/
lemma Socket.Orderly.receive_empty (orderly : socket.Orderly) (closed : Bytes → Error)
    (long : size ≤ socket.stream.length) :
    ∃ socket', socket.receive closed size [] = (.ok (socket.stream.take size), socket') ∧
      socket'.stream = socket.stream.drop size ∧ socket'.Orderly := by
  obtain ⟨received, socket', h, orderly'⟩ : ∃ received socket',
      socket.receive closed size [] = (.ok received, socket') ∧ socket'.Orderly :=
    orderly.receive (Nat.le_add_left_of_le long)
  obtain ⟨-, rfl, rest⟩ := Socket.receive_empty_eq_ok h
  exact ⟨socket', h, rest, orderly'⟩

/-- A frame whose header is accepted is read to its last byte and decoded, however the stream is cut
into pieces, and a stream that ends inside the frame is refused (source `read_frame`). -/
theorem readFrame_any_cut (limits : FrameLimits) (documentLimits : CanonicalLimits) (frame : Bytes)
    (header : FrameHeader)
    (accepted : parseFrameHeader (frame.take kFrameHeaderBytes) limits = .ok header)
    (whole : frame.length = kFrameHeaderBytes + header.bodyLength.toNat + kFrameTrailerBytes) :
    (∀ (socket : Socket) (next : Bytes), socket.Orderly → socket.stream = frame ++ next →
      ∃ socket', readFrame limits documentLimits socket =
          (decodeFrame frame limits documentLimits, socket') ∧ socket'.stream = next) ∧
    (∀ (socket : Socket) (n : Nat), n < frame.length → socket.stream = frame.take n →
      ∃ e socket', readFrame limits documentLimits socket = (.error e, socket')) := by
  constructor
  · intro socket next orderly stream
    have length : socket.stream.length = frame.length + next.length := by
      rw [stream, List.length_append]
    obtain ⟨socket₁, headed, rest, orderly₁⟩ :=
      orderly.receive_empty closedInHeader (show kFrameHeaderBytes ≤ _ by omega)
    have left : socket₁.stream.length = socket.stream.length - kFrameHeaderBytes := by
      rw [rest, List.length_drop]
    obtain ⟨socket₂, filled, rest', -⟩ := orderly₁.receive_empty closedInBody
      (show header.bodyLength.toNat + kFrameTrailerBytes ≤ _ by omega)
    have front : socket.stream.take kFrameHeaderBytes = frame.take kFrameHeaderBytes := by
      rw [stream, List.take_append_of_le_length (by omega)]
    have all : socket.stream.take kFrameHeaderBytes ++
        socket₁.stream.take (header.bodyLength.toNat + kFrameTrailerBytes) = frame := by
      rw [rest, ← List.take_add, ← Nat.add_assoc, ← whole, stream, List.take_left]
    refine ⟨socket₂, ?_, ?_⟩
    · rw [readFrame, headed]
      dsimp only
      rw [front, accepted]
      dsimp only
      rw [filled]
      dsimp only
      rw [← front, all]
    · rw [rest', rest, List.drop_drop, ← Nat.add_assoc, ← whole, stream, List.drop_left]
  · intro socket n inside stream
    have length : socket.stream.length = n := by
      rw [stream, List.length_take]
      omega
    rw [readFrame]
    cases headed : socket.receive closedInHeader kFrameHeaderBytes [] with
    | mk result socket₁ =>
      cases result with
      | error e => exact ⟨e, socket₁, rfl⟩
      | ok first =>
        obtain ⟨long, rfl, rest⟩ := Socket.receive_empty_eq_ok headed
        have front : socket.stream.take kFrameHeaderBytes = frame.take kFrameHeaderBytes := by
          rw [stream, List.take_take, Nat.min_eq_left (by omega)]
        have left : socket₁.stream.length = n - kFrameHeaderBytes := by
          rw [rest, List.length_drop, length]
        dsimp only
        rw [front, accepted]
        dsimp only
        cases filled : socket₁.receive closedInBody
            (header.bodyLength.toNat + kFrameTrailerBytes) [] with
        | mk result socket₂ =>
          cases result with
          | error e => exact ⟨e, socket₂, rfl⟩
          | ok received =>
            have enough := (Socket.receive_empty_eq_ok filled).1
            omega

/-- A ping with an empty document. -/
def ping : Bytes := encodeFrame .ping 0 (CanonicalWriter.new.writeValue .null).bytes

/-- A ping before another frame is read byte by byte, and half a ping is refused. -/
theorem readFrame_any_cut_ping :
    (∃ socket', readFrame {} .request ⟨ping ++ kFrameMagic, fun _ => .piece 1⟩ =
      (decodeFrame ping {} .request, socket') ∧ socket'.stream = kFrameMagic) ∧
    ∃ e socket', readFrame {} .request ⟨ping.take 9, fun _ => .piece 1⟩ = (.error e, socket') := by
  have read := readFrame_any_cut {} .request ping ⟨1, .ping, 0, 1⟩ rfl rfl
  exact ⟨read.1 ⟨ping ++ kFrameMagic, fun _ => .piece 1⟩ kFrameMagic (fun _ => ⟨1, rfl⟩) rfl,
    read.2 ⟨ping.take 9, fun _ => .piece 1⟩ 9 (by decide) rfl⟩

end TransceiverRegistry
