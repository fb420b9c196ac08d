import TransceiverRegistry.Wire.Stream
import Mathlib.Logic.Function.Basic

/-!
# Serving connections

Port of `Server::serve_connection` of `wire.cpp`, for any number of connections whose rounds interleave
with each other and with the calls of the program that holds the registry. Every round reads the clock
anew, and the counters of refusals and of queries move between the rounds. However the bytes arrive, each
connection has the frames of its stream served one after the other, and the registry takes the steps of
these frames only.
-/

namespace TransceiverRegistry

open Lib

/-- The settings of a connection (source `ServerOptions`). -/
structure ServerOptions where
  maxRequestsPerConnection : UInt32 := 100000
  frameLimits : FrameLimits := {}
  documentLimits : CanonicalLimits := .request

/-- What is the same for all requests. -/
structure Setup where
  config : RegistryConfig
  /-- Render a decision (source `explain_decision` of `compatibility.cpp`). -/
  explainDecision : CompatDecision → Bytes

/-- What a request reads besides the registry: the clock, the counters, and how a snapshot that it
saves ends. -/
structure Readings where
  clock : Clock
  refusals : UInt64
  queries : UInt64
  saved : Result Unit

/-- What a request with these readings is answered with. -/
def Setup.service (setup : Setup) (readings : Readings) : Service where
  config := setup.config
  clock := readings.clock
  refusals := readings.refusals
  queries := readings.queries
  save _ _ := readings.saved
  explainDecision := setup.explainDecision

/-- The answer to a frame, if there is one, and whether the connection goes on. -/
structure Reaction where
  answer : Option (MessageType × Value)
  goesOn : Bool

/-- The bytes that are sent for an answer (source `write_frame`). -/
def Reaction.bytes (reaction : Reaction) (limits : FrameLimits) : Result Bytes :=
  match reaction.answer with
  | none => .ok []
  | some (type, body) => writeFrame type 0 body limits

/-- A connection that is served (source `Server::Connection`). -/
structure Connection where
  /-- The bytes that arrived and were not read. -/
  incoming : Bytes := []
  /-- The peer sends no more. -/
  ended : Bool := false
  /-- The bytes that were sent and that the peer did not receive. -/
  outgoing : Bytes := []
  served : UInt32 := 0
  closed : Bool := false

/-- A registry and the connections it is served over (source `Server`). -/
structure Hub where
  registry : State
  connections : Nat → Connection
  /-- What was refused (source `RegistryImpl::refusals`). -/
  refusals : UInt64 := 0
  /-- What was asked (source `RegistryImpl::queries`). -/
  queries : UInt64 := 0

/-- What happens to a hub. -/
inductive Hub.Action where
  /-- Bytes of the peer arrive. -/
  | arrive (i : Nat) (bytes : Bytes)
  /-- The peer closes its end. -/
  | finish (i : Nat)
  /-- A round of a worker under a clock, in which a snapshot that is saved ends so; `recv_some`
  delivers pieces of the sizes `cuts`, and when `send_all` fails only some bytes were `sent`. -/
  | serve (i : Nat) (clock : Clock) (saved : Result Unit) (cuts : Nat → Nat) (sent : Option Nat)
  /-- A refusal is counted, of a request or of the program (source `refusals.fetch_add`). -/
  | refuse
  /-- A query is counted, of a request or of the program (source `queries.fetch_add`). -/
  | query
  /-- The connection is closed, by `Server::stop` or because it fails. -/
  | drop (i : Nat)
  /-- The peer receives bytes. -/
  | take (i : Nat) (count : Nat)
  /-- The program calls the registry. -/
  | call (call : Call)

/-- What is written down of a run of a hub. -/
inductive WireEvent where
  | arrived (i : Nat) (bytes : Bytes)
  | handled (i : Nat) (frame : Frame) (readings : Readings) (sent : Bytes)
  | taken (i : Nat) (bytes : Bytes)
  | called (call : Call)

/-- What is handed to a worker: a frame, with what it is answered with and the state it meets. -/
structure Met where
  service : Service
  frame : Frame
  state : State

/-- A hub before the first connection. -/
def Hub.fresh (start : State) : Hub where
  registry := start
  connections _ := {}

/-- What a round reads besides the registry. -/
def Hub.readings (w : Hub) (clock : Clock) (saved : Result Unit) : Readings where
  clock
  refusals := w.refusals
  queries := w.queries
  saved

/-- Another connection at a place. -/
def Hub.setConnection (w : Hub) (i : Nat) (c : Connection) : Hub :=
  { w with connections := Function.update w.connections i c }

section Serve

variable [StdSort] (setup : Setup) (service : Service) (options : ServerOptions)

/-- Answer a frame (source `serve_connection`, after `read_frame`). -/
def serveFrame (s : State) (frame : Frame) : Reaction × State :=
  match frame.type with
  | .shutdown => (⟨none, false⟩, s)
  | .request | .ping | .hello =>
    let (outcome, s') := dispatch service s frame.body
    -- Only a successful ping is acknowledged as a pong.
    let type :=
      if frame.type = .ping ∧ outcome.type = .response then .pong else outcome.type
    (⟨some (type, outcome.body), true⟩, s')
  | _ => (⟨some (.failure, makeFailure 0 (makeError .malformed
      "the server only accepts requests")), false⟩, s)

/-- One round of a worker, which is done when it gives nothing; it waits while the bytes of a frame
are missing (source `serve_connection`, the loop). -/
def Connection.serve (cuts : Nat → Nat) (sent : Option Nat) (c : Connection) (s : State) :
    Option (Connection × State) :=
  if c.closed then none
  else if options.maxRequestsPerConnection ≤ c.served then some ({ c with closed := true }, s)
  else if (nextFrame options.frameLimits options.documentLimits c.incoming).isNone ∧
      c.ended = false then none
  else match readFrame options.frameLimits options.documentLimits
      ⟨c.incoming, fun n => .piece (cuts n)⟩ with
    | (.error _, socket) => some ({ c with incoming := socket.stream, closed := true }, s)
    | (.ok frame, socket) =>
      let (reaction, s') := serveFrame service s frame
      match reaction.bytes options.frameLimits with
      | .error _ => some ({ c with incoming := socket.stream, closed := true }, s')
      | .ok bytes =>
        match sent with
        | some n => some ({ c with
            incoming := socket.stream, outgoing := c.outgoing ++ bytes.take n, closed := true }, s')
        | none => some ({ c with
            incoming := socket.stream
            outgoing := c.outgoing ++ bytes
            served := if reaction.goesOn then c.served + 1 else c.served
            closed := !reaction.goesOn }, s')

/-- The frame that the next round of a worker reads. -/
def Connection.reads (c : Connection) : Option Frame :=
  if c.closed ∨ options.maxRequestsPerConnection ≤ c.served then none
  else match nextFrame options.frameLimits options.documentLimits c.incoming with
    | some (.ok frame, _) => some frame
    | _ => none

/-- The steps of a hub (source `Server`). -/
def Hub.step (w : Hub) : Hub.Action → Option Hub
  | .arrive i bytes =>
    let c := w.connections i
    if c.closed ∨ c.ended then none
    else some (w.setConnection i { c with incoming := c.incoming ++ bytes })
  | .finish i => some (w.setConnection i { w.connections i with ended := true })
  | .serve i clock saved cuts sent =>
    -- `dispatch` reads the clock anew for every request, and the counters as they stand.
    let service := setup.service (w.readings clock saved)
    ((w.connections i).serve service options cuts sent w.registry).map
      fun served => { w.setConnection i served.1 with registry := served.2 }
  | .refuse => some { w with refusals := w.refusals + 1 }
  | .query => some { w with queries := w.queries + 1 }
  | .drop i => some (w.setConnection i { w.connections i with closed := true })
  | .take i count =>
    some (w.setConnection i { w.connections i with
      outgoing := (w.connections i).outgoing.drop count })
  -- A call that fails leaves the registry; what it counts is a step of its own.
  | .call call => (TransceiverRegistry.step setup.config w.registry call).map
      fun s => { w with registry := s }

/-- What is written down of a step. -/
def Hub.notes (w : Hub) (action : Hub.Action) (w' : Hub) : List WireEvent :=
  match action with
  | .arrive i bytes => [.arrived i bytes]
  | .serve i clock saved _ _ =>
    match (w.connections i).reads options with
    | none => []
    | some frame => [.handled i frame (w.readings clock saved)
        ((w'.connections i).outgoing.drop (w.connections i).outgoing.length)]
  | .take i count => [.taken i ((w.connections i).outgoing.take count)]
  | .call call => [.called call]
  | .finish _ | .drop _ | .refuse | .query => []

/-- The state after an event. -/
def WireEvent.replay (s : State) : WireEvent → State
  | .handled _ frame readings _ => (serveFrame (setup.service readings) s frame).2
  | .called call => (TransceiverRegistry.step setup.config s call).getD s
  | _ => s

/-- What an event hands to a worker of a connection, with the state it meets. -/
def WireEvent.met (i : Nat) (s : State) : WireEvent → List Met
  | .handled j frame readings _ => if j = i then [⟨setup.service readings, frame, s⟩] else []
  | _ => []

/-- The frames that are handled on a connection, each with the state it meets, when the events happen
one after the other from a state. -/
def metOn (i : Nat) (s : State) : List WireEvent → List Met
  | [] => []
  | event :: later => event.met setup i s ++ metOn i (event.replay setup s) later

/-- The bytes of the answer to a frame (source `serve_connection`, `write_frame`). -/
def answerBytes (met : Met) : Bytes :=
  ((serveFrame met.service met.state met.frame).1.bytes options.frameLimits).toOption.getD []

/-- The bytes of the answers to what is handled on a connection. -/
def answersOn (i : Nat) (s : State) (h : List WireEvent) : Bytes :=
  (metOn setup i s h).flatMap (answerBytes options)

end Serve

section Read

/-- The bytes that arrived on a connection. -/
def WireEvent.arrivedOn (i : Nat) : WireEvent → Bytes
  | .arrived j bytes => if j = i then bytes else []
  | _ => []

/-- The frames that were handled on a connection. -/
def WireEvent.handledOn (i : Nat) : WireEvent → List Frame
  | .handled j frame _ _ => if j = i then [frame] else []
  | _ => []

/-- The bytes that were sent on a connection. -/
def WireEvent.sentOn (i : Nat) : WireEvent → Bytes
  | .handled j _ _ sent => if j = i then sent else []
  | _ => []

/-- The bytes that the peer received on a connection. -/
def WireEvent.takenOn (i : Nat) : WireEvent → Bytes
  | .taken j bytes => if j = i then bytes else []
  | _ => []

end Read

/-- The history of a connection: the frames handled are those of the bytes that arrived, in order and
each once; what was sent are their answers in order, all of them while the connection is open; the peer
received a front part of that. -/
structure ServedOn [StdSort] (setup : Setup) (options : ServerOptions) (start : State)
    (h : List WireEvent) (i : Nat) (c : Connection) : Prop where
  reads : ∃ left, (frameScanner options.frameLimits options.documentLimits).Takes
    (h.flatMap (WireEvent.arrivedOn i)) ((h.flatMap (WireEvent.handledOn i)).map .ok) left ∧
      (c.closed = false → left = c.incoming)
  answers : h.flatMap (WireEvent.sentOn i) <+: answersOn setup options i start h
  answered : c.closed = false →
    h.flatMap (WireEvent.sentOn i) = answersOn setup options i start h
  received : h.flatMap (WireEvent.sentOn i) = h.flatMap (WireEvent.takenOn i) ++ c.outgoing
  bounded : (h.flatMap (WireEvent.handledOn i)).length ≤ options.maxRequestsPerConnection.toNat
  served : c.closed = false → (h.flatMap (WireEvent.handledOn i)).length = c.served.toNat

/-- The history of a hub: the registry is where the events lead one after the other, and every
connection was served in order. -/
structure ServedInOrder [StdSort] (setup : Setup) (options : ServerOptions) (start : State)
    (w : Hub × List WireEvent) : Prop where
  registry : w.1.registry = w.2.foldl (WireEvent.replay setup) start
  reached : Run (step setup.config) Unguarded start w.1.registry
  connection : ∀ i, ServedOn setup options start w.2 i (w.1.connections i)

section Serve

variable [StdSort] {setup : Setup} {service : Service} {options : ServerOptions}
  {readings : Readings} {c c' : Connection} {s s' : State} {clock : Clock} {saved : Result Unit}
  {cuts : Nat → Nat} {sent : Option Nat}

/-- What a round of a worker does: it closes the connection, or it takes the next frame off the stream
and answers it (source `serve_connection`, the loop). -/
lemma Connection.serve_cases (taken : c.serve service options cuts sent s = some (c', s')) :
    c.closed = false ∧
    ((c.reads options = none ∧ s' = s ∧ c'.outgoing = c.outgoing ∧ c'.closed = true) ∨
      ∃ frame rest bytes, c.reads options = some frame ∧
        nextFrame options.frameLimits options.documentLimits c.incoming =
          some (.ok frame, rest) ∧
        c.served < options.maxRequestsPerConnection ∧
        s' = (serveFrame service s frame).2 ∧ c'.outgoing = c.outgoing ++ bytes ∧
        bytes <+: answerBytes options ⟨service, frame, s⟩ ∧
        (c'.closed = false → c'.incoming = rest ∧ c'.served = c.served + 1 ∧
          bytes = answerBytes options ⟨service, frame, s⟩)) := by
  unfold Connection.serve at taken
  split at taken
  · cases taken
  rename_i isOpen
  refine ⟨Bool.not_eq_true _ ▸ isOpen, ?_⟩
  split at taken
  · rename_i full
    cases taken
    exact .inl ⟨if_pos (.inr full), rfl, rfl, rfl⟩
  rename_i room
  have reads : c.reads options =
      match nextFrame options.frameLimits options.documentLimits c.incoming with
      | some (.ok frame, _) => some frame
      | _ => none := if_neg (not_or.2 ⟨isOpen, room⟩)
  split at taken
  · cases taken
  have orderly : Socket.Orderly ⟨c.incoming, fun n => .piece (cuts n)⟩ := fun n => ⟨cuts n, rfl⟩
  cases cut : nextFrame options.frameLimits options.documentLimits c.incoming with
  | none =>
    obtain ⟨e, socket, refused, -⟩ := orderly.readFrame_waiting cut
    rw [refused] at taken
    cases taken
    rw [cut] at reads
    exact .inl ⟨reads, rfl, rfl, rfl⟩
  | some next =>
    obtain ⟨item, rest⟩ := next
    obtain ⟨socket, read, left⟩ := orderly.readFrame cut
    rw [read] at taken
    rw [cut] at reads
    cases item with
    | error e =>
      cases taken
      exact .inl ⟨reads, rfl, rfl, rfl⟩
    | ok frame =>
      refine .inr ⟨frame, rest, ?_⟩
      dsimp only at taken
      unfold answerBytes
      cases sends : (serveFrame service s frame).1.bytes options.frameLimits with
      | error e =>
        rw [sends] at taken
        cases taken
        exact ⟨[], reads, rfl, UInt32.not_le.1 room, rfl, (List.append_nil _).symm,
          List.nil_prefix, nofun⟩
      | ok bytes =>
        rw [sends] at taken
        cases sent with
        | some n =>
          cases taken
          exact ⟨bytes.take n, reads, rfl, UInt32.not_le.1 room, rfl, rfl, List.take_prefix n bytes,
            nofun⟩
        | none =>
          cases taken
          refine ⟨bytes, reads, rfl, UInt32.not_le.1 room, rfl, rfl, List.prefix_rfl, ?_⟩
          intro stays
          have goesOn : (serveFrame service s frame).1.goesOn = true := by
            simpa using stays
          exact ⟨left, if_pos goesOn, rfl⟩

omit [StdSort] in
/-- A round that reads no frame is not written down. -/
lemma Hub.notes_idle {w w' : Hub} {i : Nat} (idle : (w.connections i).reads options = none) :
    Hub.notes options w (.serve i clock saved cuts sent) w' = [] := by
  rw [Hub.notes, idle]

omit [StdSort] in
/-- What is written down of a round that reads a frame. -/
lemma Hub.notes_serve {w : Hub} {i : Nat} {frame : Frame} {bytes : Bytes}
    (read : (w.connections i).reads options = some frame)
    (outgoing : c'.outgoing = (w.connections i).outgoing ++ bytes) :
    Hub.notes options w (.serve i clock saved cuts sent) { w.setConnection i c' with registry := s' } =
      [.handled i frame (w.readings clock saved) bytes] := by
  rw [Hub.notes, read]
  simp only [Hub.setConnection, Function.update_self, outgoing, List.drop_left]

/-- What a worker reads and carries out is a step of the registry, or leaves it as it is (source
`serve_connection`). -/
lemma run_serveFrame {start : State} (reached : Run (step setup.config) Unguarded start s)
    (frame : Frame) :
    Run (step setup.config) Unguarded start (serveFrame (setup.service readings) s frame).2 := by
  have dispatched : Run (step setup.config) Unguarded start
      (dispatch (setup.service readings) s frame.body).2 :=
    @run_dispatch s _ (setup.service readings) start reached frame.body
  unfold serveFrame
  split
  · exact reached
  · exact dispatched
  · exact dispatched
  · exact dispatched
  · exact reached

/-- What is handled in a longer history. -/
lemma metOn_append {i : Nat} {h h' : List WireEvent} :
    metOn setup i s (h ++ h') =
      metOn setup i s h ++ metOn setup i (h.foldl (WireEvent.replay setup) s) h' := by
  induction h generalizing s with
  | nil => rfl
  | cons event h ih =>
    rw [List.cons_append, metOn, metOn, ih, List.append_assoc]
    rfl

/-- The frames that are handled, without the states they meet. -/
lemma metOn_frames {i : Nat} {h : List WireEvent} :
    (metOn setup i s h).map Met.frame = h.flatMap (WireEvent.handledOn i) := by
  induction h generalizing s with
  | nil => rfl
  | cons event h ih =>
    rw [metOn, List.map_append, ih, List.flatMap_cons]
    cases event with
    | handled j frame readings sent =>
      simp only [WireEvent.met, WireEvent.handledOn]
      split <;> rfl
    | _ => rfl

/-- A frame meets the state that the events before it led to. -/
lemma exists_of_mem_metOn {i : Nat} {h : List WireEvent} {met : Met}
    (member : met ∈ metOn setup i s h) :
    ∃ before readings sent later, h = before ++ .handled i met.frame readings sent :: later ∧
      met.service = setup.service readings ∧
      met.state = before.foldl (WireEvent.replay setup) s := by
  induction h generalizing s with
  | nil => cases member
  | cons event h ih =>
    rw [metOn, List.mem_append] at member
    rcases member with here | later
    · cases event with
      | handled j frame readings sent =>
        simp only [WireEvent.met] at here
        split at here
        · rename_i same
          subst same
          rw [List.mem_singleton.1 here]
          exact ⟨[], readings, sent, h, rfl, rfl, rfl⟩
        · cases here
      | _ => cases here
    · obtain ⟨before, readings, sent, rest, rfl, service, state⟩ := ih later
      exact ⟨event :: before, readings, sent, rest, rfl, service, state⟩

end Serve

section History

variable [StdSort] {setup : Setup} {options : ServerOptions} {start : State}
  {h : List WireEvent} {i : Nat} {c c' : Connection}

/-- The history of a connection does not change with what happens elsewhere. -/
lemma ServedOn.elsewhere (served : ServedOn setup options start h i c) {event : WireEvent}
    (arrived : event.arrivedOn i = []) (handled : event.handledOn i = [])
    (taken : event.takenOn i = []) : ServedOn setup options start (h ++ [event]) i c := by
  have sent : event.sentOn i = [] := by
    cases event with
    | handled j frame readings sent =>
      simp only [WireEvent.handledOn, WireEvent.sentOn] at handled ⊢
      split at handled
      · cases handled
      · rename_i other
        exact if_neg other
    | _ => rfl
  have met (s : State) : event.met setup i s = [] := by
    cases event with
    | handled j frame readings sent =>
      simp only [WireEvent.handledOn, WireEvent.met] at handled ⊢
      split at handled
      · cases handled
      · rename_i other
        exact if_neg other
    | _ => rfl
  refine ⟨?_, ?_, ?_, ?_, ?_, ?_⟩ <;>
    simp only [List.flatMap_append, List.flatMap_singleton, answersOn, metOn_append, metOn, arrived,
      handled, taken, sent, met, List.append_nil]
  · exact served.reads
  · exact served.answers
  · exact served.answered
  · exact served.received
  · exact served.bounded
  · exact served.served

/-- A connection that is closed, or whose peer has ended, has the same history. -/
lemma ServedOn.close (served : ServedOn setup options start h i c)
    (outgoing : c'.outgoing = c.outgoing)
    (same : c'.closed = false → c.closed = false ∧ c'.incoming = c.incoming ∧
      c'.served = c.served) : ServedOn setup options start h i c' := by
  obtain ⟨left, takes, whole⟩ := served.reads
  refine ⟨⟨left, takes, fun isOpen => ?_⟩, served.answers, fun isOpen => ?_, ?_, served.bounded,
    fun isOpen => ?_⟩
  · obtain ⟨before, incoming, -⟩ := same isOpen
    rw [incoming, whole before]
  · exact served.answered (same isOpen).1
  · rw [outgoing, served.received]
  · obtain ⟨before, -, count⟩ := same isOpen
    rw [count, served.served before]

/-- More bytes arrive. -/
lemma ServedOn.arrive (served : ServedOn setup options start h i c) (isOpen : c.closed = false)
    (bytes : Bytes) : ServedOn setup options start (h ++ [.arrived i bytes]) i
      { c with incoming := c.incoming ++ bytes } := by
  obtain ⟨left, takes, whole⟩ := served.reads
  refine ⟨⟨left ++ bytes, ?_, fun _ => ?_⟩, ?_, ?_, ?_, ?_, ?_⟩ <;>
    simp only [List.flatMap_append, List.flatMap_singleton, answersOn, metOn_append, metOn,
      WireEvent.arrivedOn, WireEvent.handledOn, WireEvent.sentOn, WireEvent.takenOn,
      WireEvent.met, if_true, List.append_nil]
  · exact takes.grow bytes
  · rw [whole isOpen]
  · exact served.answers
  · exact fun _ => served.answered isOpen
  · exact served.received
  · exact served.bounded
  · exact fun _ => served.served isOpen

/-- The peer receives bytes. -/
lemma ServedOn.take (served : ServedOn setup options start h i c) (count : Nat) :
    ServedOn setup options start (h ++ [.taken i (c.outgoing.take count)]) i
      { c with outgoing := c.outgoing.drop count } := by
  refine ⟨?_, ?_, ?_, ?_, ?_, ?_⟩ <;>
    simp only [List.flatMap_append, List.flatMap_singleton, answersOn, metOn_append, metOn,
      WireEvent.arrivedOn, WireEvent.handledOn, WireEvent.sentOn, WireEvent.takenOn,
      WireEvent.met, if_true, List.append_nil]
  · exact served.reads
  · exact served.answers
  · exact served.answered
  · rw [List.append_assoc, List.take_append_drop]
    exact served.received
  · exact served.bounded
  · exact served.served

/-- A frame is read, carried out and answered. -/
lemma ServedOn.handle (served : ServedOn setup options start h i c) (isOpen : c.closed = false)
    {frame : Frame} {readings : Readings} {rest bytes : Bytes} {s : State}
    (now : s = h.foldl (WireEvent.replay setup) start)
    (cut : nextFrame options.frameLimits options.documentLimits c.incoming =
      some (.ok frame, rest))
    (room : c.served < options.maxRequestsPerConnection)
    (outgoing : c'.outgoing = c.outgoing ++ bytes)
    (front : bytes <+: answerBytes options ⟨setup.service readings, frame, s⟩)
    (stays : c'.closed = false → c'.incoming = rest ∧ c'.served = c.served + 1 ∧
      bytes = answerBytes options ⟨setup.service readings, frame, s⟩) :
    ServedOn setup options start (h ++ [.handled i frame readings bytes]) i c' := by
  obtain ⟨left, takes, whole⟩ := served.reads
  obtain rfl := whole isOpen
  have below := UInt32.lt_iff_toNat_lt.1 room
  have limit := options.maxRequestsPerConnection.toNat_lt
  have count := served.served isOpen
  refine ⟨⟨rest, ?_, fun still => (stays still).1.symm⟩, ?_, fun still => ?_, ?_, ?_,
    fun still => ?_⟩ <;>
    simp only [List.flatMap_append, List.flatMap_singleton, answersOn, metOn_append, metOn,
      WireEvent.arrivedOn, WireEvent.handledOn, WireEvent.sentOn, WireEvent.takenOn,
      WireEvent.met, if_true, List.append_nil, List.map_append, List.length_append,
      List.length_singleton, ← now]
  · exact takes.next cut
  · rw [served.answered isOpen]
    exact (List.prefix_append_right_inj _).2 front
  · rw [served.answered isOpen, (stays still).2.2]
    rfl
  · rw [served.received, outgoing, List.append_assoc]
  · omega
  · rw [(stays still).2.1, UInt32.toNat_add, count]
    exact (Nat.mod_eq_of_lt (by simp; omega)).symm

/-- One more event in the history of a hub that changes one connection. -/
lemma ServedInOrder.note {w : Hub × List WireEvent} (served : ServedInOrder setup options start w)
    {event : WireEvent} (registry : State)
    (replayed : registry = event.replay setup w.1.registry)
    (reached : Run (step setup.config) Unguarded start registry)
    (here : ServedOn setup options start (w.2 ++ [event]) i c')
    (arrived : ∀ j ≠ i, event.arrivedOn j = []) (handled : ∀ j ≠ i, event.handledOn j = [])
    (taken : ∀ j ≠ i, event.takenOn j = []) :
    ServedInOrder setup options start
      ({ w.1.setConnection i c' with registry }, w.2 ++ [event]) := by
  refine ⟨?_, reached, fun j => ?_⟩
  · rw [List.foldl_append, ← served.registry, replayed]
    rfl
  · show ServedOn setup options start _ j (Function.update w.1.connections i c' j)
    rcases eq_or_ne j i with rfl | other
    · rw [Function.update_self]
      exact here
    · rw [Function.update_of_ne other]
      exact (served.connection j).elsewhere (arrived j other) (handled j other) (taken j other)

/-- A change of one connection that is not written down. -/
lemma ServedInOrder.quiet {w : Hub × List WireEvent}
    (served : ServedInOrder setup options start w)
    (here : ServedOn setup options start w.2 i c') :
    ServedInOrder setup options start (w.1.setConnection i c', w.2) := by
  refine ⟨served.registry, served.reached, fun j => ?_⟩
  show ServedOn setup options start _ j (Function.update w.1.connections i c' j)
  rcases eq_or_ne j i with rfl | other
  · rw [Function.update_self]
    exact here
  · rw [Function.update_of_ne other]
    exact served.connection j

/-- A hub that has no connection yet has served all of them. -/
lemma ServedInOrder.fresh : ServedInOrder setup options start (Hub.fresh start, []) where
  registry := rfl
  reached := .start
  connection _ := {
    reads := ⟨[], .nothing [], fun _ => rfl⟩
    answers := List.prefix_rfl
    answered _ := rfl
    received := rfl
    bounded := Nat.zero_le _
    served _ := rfl }

/-- Every step keeps the connections served in order (source `serve_connection`). -/
lemma ServedInOrder.step {w w' : Hub × List WireEvent} {action : Hub.Action}
    (served : ServedInOrder setup options start w)
    (taken : withHistory (Hub.step setup options) (Hub.notes options) w action = some w') :
    ServedInOrder setup options start w' := by
  obtain ⟨hub, h⟩ := w
  obtain ⟨hub', h'⟩ := w'
  obtain ⟨moved, noted⟩ := withHistory_eq_some.1 taken
  clear taken
  dsimp only at moved noted
  subst noted
  cases action with
  | arrive i bytes =>
    rw [Hub.step] at moved
    split at moved
    · cases moved
    rename_i isOpen
    cases moved
    have isOpen : (hub.connections i).closed = false := by simpa using (not_or.1 isOpen).1
    exact served.note hub.registry rfl served.reached ((served.connection i).arrive isOpen bytes)
      (fun j other => if_neg other.symm) (fun _ _ => rfl) fun _ _ => rfl
  | finish i =>
    cases moved
    rw [Hub.notes, List.append_nil]
    exact served.quiet ((served.connection i).close rfl fun isOpen => ⟨isOpen, rfl, rfl⟩)
  | drop i =>
    cases moved
    rw [Hub.notes, List.append_nil]
    exact served.quiet ((served.connection i).close rfl nofun)
  | take i count =>
    cases moved
    exact served.note hub.registry rfl served.reached ((served.connection i).take count)
      (fun _ _ => rfl) (fun _ _ => rfl) fun j other => if_neg other.symm
  | call call =>
    obtain ⟨s, committed, rfl⟩ := Option.map_eq_some_iff.1 moved
    have replayed : s = WireEvent.replay setup hub.registry (.called call) := by
      rw [WireEvent.replay, committed]
      rfl
    refine ⟨?_, served.reached.next trivial committed, fun j => ?_⟩
    · rw [Hub.notes, List.foldl_append, ← served.registry]
      exact replayed
    · exact (served.connection j).elsewhere rfl rfl rfl
  | refuse | query =>
    cases moved
    rw [Hub.notes, List.append_nil]
    exact ⟨served.registry, served.reached, served.connection⟩
  | serve i clock saved cuts sent =>
    obtain ⟨⟨c', s'⟩, round, rfl⟩ := Option.map_eq_some_iff.1 moved
    obtain ⟨isOpen, ⟨idle, rfl, outgoing, closed⟩ |
      ⟨frame, rest, bytes, read, cut, room, rfl, outgoing, front, stays⟩⟩ :=
        Connection.serve_cases round
    · rw [Hub.notes_idle idle, List.append_nil]
      exact served.quiet ((served.connection i).close outgoing fun stays => by
        rw [closed] at stays
        cases stays)
    · rw [Hub.notes_serve read outgoing]
      exact served.note _ rfl (run_serveFrame served.reached frame)
        ((served.connection i).handle isOpen served.registry cut room outgoing front stays)
        (fun _ _ => rfl) (fun j other => if_neg other.symm) fun _ _ => rfl

end History

/-- However the bytes of any number of connections arrive and their rounds interleave, and whatever each
round reads besides the registry, the registry is where the events lead one after the other, by steps of
its own. On each connection the frames handled are the first ones of its stream, at most so many as are
allowed, and the bytes sent are their answers from the states and the readings they met, in order; while
the connection is open no answer is missing, and when its worker waits, every frame that arrived was
handled (source `Server::serve_connection`). -/
theorem connections_served_in_order [StdSort] {setup : Setup} {options : ServerOptions}
    {start : State} {w : Hub × List WireEvent}
    (run : Run (withHistory (Hub.step setup options) (Hub.notes options)) Unguarded
      (Hub.fresh start, []) w) :
    w.1.registry = w.2.foldl (WireEvent.replay setup) start ∧
      Run (step setup.config) Unguarded start w.1.registry ∧
      ∀ i,
        (w.2.flatMap (WireEvent.handledOn i)).map .ok <+:
          (frameScanner options.frameLimits options.documentLimits).items
            (w.2.flatMap (WireEvent.arrivedOn i)) ∧
        (w.2.flatMap (WireEvent.handledOn i)).length ≤ options.maxRequestsPerConnection.toNat ∧
        w.2.flatMap (WireEvent.takenOn i) <+: w.2.flatMap (WireEvent.sentOn i) ∧
        w.2.flatMap (WireEvent.sentOn i) <+: answersOn setup options i start w.2 ∧
        ((w.1.connections i).closed = false →
          w.2.flatMap (WireEvent.sentOn i) = answersOn setup options i start w.2) ∧
        ((w.1.connections i).closed = false →
          nextFrame options.frameLimits options.documentLimits (w.1.connections i).incoming = none →
          (w.2.flatMap (WireEvent.handledOn i)).map .ok =
            (frameScanner options.frameLimits options.documentLimits).items
              (w.2.flatMap (WireEvent.arrivedOn i))) := by
  have served := run.invariant (ServedInOrder setup options start) .fresh
    fun _ _ _ served _ taken => served.step taken
  refine ⟨served.registry, served.reached, fun i => ?_⟩
  obtain ⟨⟨left, takes, whole⟩, answers, answered, received, bounded, -⟩ := served.connection i
  refine ⟨takes.prefix_items, bounded, ?_, answers, answered, fun isOpen waits => takes.all ?_⟩
  · rw [received]
    exact List.prefix_append _ _
  · rw [whole isOpen]
    exact waits

/-- The settings of the servers below. -/
def benchSetup : Setup := ⟨{}, fun _ => []⟩

/-- The frame of a ping. -/
def pingFrame : Bytes :=
  encodeFrame .ping 0 (CanonicalWriter.new.writeValue (requestFor "ping" [])).bytes

/-- Two pings that arrive together, in pieces of seven bytes, are answered one after the other, while
time passes and a query is counted. -/
theorem connections_served_in_order_pings :
    ∃ w, Run (withHistory (Hub.step benchSetup {}) (Hub.notes {})) Unguarded
        (Hub.fresh State.initial, []) w ∧
      (w.2.flatMap (WireEvent.handledOn 0)).length = 2 ∧
      w.2.flatMap (WireEvent.sentOn 0) = answersOn benchSetup {} 0 State.initial w.2 := by
  have served : (runActions (withHistory (Hub.step benchSetup {}) (Hub.notes {}))
      [.arrive 0 (pingFrame ++ pingFrame), .serve 0 (clockAt 1) (.ok ()) (fun _ => 7) none, .query,
        .serve 0 (clockAt 2) (.ok ()) (fun _ => 7) none]
      (Hub.fresh State.initial, [])).any (fun w => !(w.1.connections 0).closed &&
        (w.2.flatMap (WireEvent.handledOn 0)).length = 2) = true := by
    decide +kernel
  obtain ⟨w, run, shows⟩ := Run.exists_ofActions served
  simp only [Bool.and_eq_true, Bool.not_eq_true', decide_eq_true_eq] at shows
  obtain ⟨_, _, connection⟩ := connections_served_in_order run
  obtain ⟨_, _, _, _, answered, _⟩ := connection 0
  exact ⟨w, run, shows.2, answered shows.1⟩

end TransceiverRegistry
