import TransceiverRegistry.Wire.Calls

/-!
# Calls take effect one after the other

The calls that clients make of a server over `wire.cpp` behave as if each happened at one moment. Every
request that is carried out was sent and is carried out once, and an answered call has the result that
its request had where it was carried out, between the beginning and the end of the call. Requests are
told apart by their numbers, so no client may run out of them.
-/

namespace TransceiverRegistry

open Lib

/-- What must have happened before an event of a server and its clients: a number is given out once, a
frame that is handled was sent by its client and was not handled before, and a call ends once, when it is
answered with the result of its request at the moment it was handled, under what was read then. -/
def Net.cause [StdSort] (setup : Setup) (start : State) (before : List NetEvent) :
    NetEvent → Prop
  | .begun i id _ _ => id ∉ (before.flatMap (NetEvent.begunOn i)).map Prod.fst
  | .hub (.handled i frame _ _) =>
    frame ∈ (before.flatMap (NetEvent.begunOn i)).map requestFrame ∧
      frame ∉ (hubEvents before).flatMap (WireEvent.handledOn i)
  | .finished i id ending =>
    id ∉ before.flatMap (NetEvent.endedOn i) ∧
      ∀ result, ending = .answered result → ∃ op params readings earlier sent later,
        before = earlier ++
          .hub (.handled i ⟨.request, 0, callRequest id op params⟩ readings sent) :: later ∧
        result = resultSeen (setup.service readings)
          ((hubEvents earlier).foldl (WireEvent.replay setup) start) (callRequest id op params)
  | _ => True

/-- How the history of a client, its connection and what it waits for hang together. -/
structure Link (options : ServerOptions) (asked : List (UInt64 × Bytes × Value))
    (arrived sent : Bytes) (ended : List UInt64) (c : Connection) (client : Client) : Prop where
  writable : ∀ a ∈ asked, ∃ bytes,
    writeFrame .request 0 (requestOf a) options.frameLimits = .ok bytes
  front : arrived <+: asked.flatMap (requestBytes options)
  whole : c.closed = false → arrived = asked.flatMap (requestBytes options)
  numbers : (asked.map Prod.fst).Pairwise (· < ·)
  below : ∀ id ∈ asked.map Prod.fst ++ ended, id < client.nextRequestId
  positive : client.nextRequestId ≠ 0
  waits : ∀ id, client.waiting = some id → id ≠ 0 ∧ id < client.nextRequestId ∧ id ∉ ended
  told : (∃ items, (frameScanner options.frameLimits .request).Takes sent items c.outgoing) ∨
    (c.outgoing = [] ∧ c.closed = true)

/-- The history of the client with a number and its connection. -/
def LinkOn (options : ServerOptions) (h : List NetEvent) (i : Nat) (c : Connection)
    (client : Client) : Prop :=
  Link options (h.flatMap (NetEvent.begunOn i)) ((hubEvents h).flatMap (WireEvent.arrivedOn i))
    ((hubEvents h).flatMap (WireEvent.sentOn i)) (h.flatMap (NetEvent.endedOn i)) c client

section Link

variable {options : ServerOptions} {asked : List (UInt64 × Bytes × Value)} {arrived sent : Bytes}
  {ended : List UInt64} {c c' : Connection} {client : Client} {op : Bytes} {params : Value}

/-- The next number is above every number that was given out. -/
lemma Link.fresh_asked (link : Link options asked arrived sent ended c client) :
    client.nextRequestId ∉ asked.map Prod.fst := by
  intro member
  exact absurd (link.below _ (List.mem_append_left _ member)) (UInt64.lt_irrefl _)

/-- The next number is that of no call that ended. -/
lemma Link.fresh_ended (link : Link options asked arrived sent ended c client) :
    client.nextRequestId ∉ ended := by
  intro member
  exact absurd (link.below _ (List.mem_append_right _ member)) (UInt64.lt_irrefl _)

/-- A request is sent, or a front part of it before the connection fails (source `Client::exchange`). -/
lemma Link.ask (link : Link options asked arrived sent ended c client) (c' : Connection)
    (isOpen : c.closed = false) (room : client.nextRequestId ≠ 0xFFFFFFFFFFFFFFFF)
    {bytes front : Bytes}
    (written : writeFrame .request 0 (callRequest client.nextRequestId op params)
      options.frameLimits = .ok bytes)
    (part : front <+: bytes) (all : c'.closed = false → front = bytes)
    (outgoing : c'.outgoing = c.outgoing) {ended' : List UInt64} {waiting : Option UInt64}
    (ends : ∀ id ∈ ended', id ∈ ended ∨ id = client.nextRequestId ∧ waiting = none)
    (waits : ∀ id, waiting = some id → id = client.nextRequestId) :
    Link options (asked ++ [(client.nextRequestId, op, params)]) (arrived ++ front) sent ended' c'
      ⟨client.nextRequestId + 1, waiting⟩ := by
  have up := lt_next room
  have bytes_eq : requestBytes options (client.nextRequestId, op, params) = bytes :=
    requestBytes_eq written
  have whole := link.whole isOpen
  constructor
  case writable =>
    intro a member
    rcases List.mem_append.1 member with old | new
    · exact link.writable a old
    · rw [List.mem_singleton.1 new]
      exact ⟨bytes, written⟩
  case front =>
    rw [List.flatMap_append, List.flatMap_singleton, bytes_eq, whole]
    exact (List.prefix_append_right_inj _).2 part
  case whole =>
    intro still
    rw [List.flatMap_append, List.flatMap_singleton, bytes_eq, whole, all still]
  case numbers =>
    rw [List.map_append, List.pairwise_append]
    refine ⟨link.numbers, List.pairwise_singleton _ _, fun id member id' last => ?_⟩
    rw [List.mem_singleton.1 last]
    exact link.below id (List.mem_append_left _ member)
  case below =>
    intro id member
    rw [List.map_append, List.mem_append, List.mem_append] at member
    rcases member with (old | new) | past
    · exact UInt64.lt_trans (link.below id (List.mem_append_left _ old)) up
    · rw [List.mem_singleton.1 new]
      exact up
    · rcases ends id past with old | ⟨rfl, -⟩
      · exact UInt64.lt_trans (link.below id (List.mem_append_right _ old)) up
      · exact up
  case positive =>
    intro zero
    have up : client.nextRequestId < 0 := zero ▸ up
    exact absurd up (UInt64.not_lt.2 UInt64.zero_le)
  case waits =>
    intro id waited
    obtain rfl := waits id waited
    refine ⟨link.positive, up, fun past => ?_⟩
    rcases ends _ past with old | ⟨-, gone⟩
    · exact link.fresh_ended old
    · rw [gone] at waited
      cases waited
  case told =>
    rcases link.told with ⟨items, takes⟩ | ⟨-, closed⟩
    · exact .inl ⟨items, outgoing ▸ takes⟩
    · rw [isOpen] at closed
      cases closed

/-- A call uses a number up and sends nothing (source `Client::exchange`). -/
lemma Link.skip (link : Link options asked arrived sent ended c client)
    (room : client.nextRequestId ≠ 0xFFFFFFFFFFFFFFFF) :
    Link options asked arrived sent (ended ++ [client.nextRequestId]) c
      ⟨client.nextRequestId + 1, none⟩ := by
  have up := lt_next room
  refine { link with below := fun id member => ?_, positive := fun zero => ?_, waits := nofun }
  · rw [← List.append_assoc, List.mem_append] at member
    rcases member with old | new
    · exact UInt64.lt_trans (link.below id old) up
    · rw [List.mem_singleton.1 new]
      exact up
  · have up : client.nextRequestId < 0 := zero ▸ up
    exact absurd up (UInt64.not_lt.2 UInt64.zero_le)

/-- A client ends the call under way (source `Client::exchange`). -/
lemma Link.finish (link : Link options asked arrived sent ended c client) (c' : Connection)
    {id : UInt64} (waiting : client.waiting = some id) (closed : c'.closed = c.closed)
    (told : (∃ items, (frameScanner options.frameLimits .request).Takes sent items c'.outgoing) ∨
      (c'.outgoing = [] ∧ c'.closed = true)) :
    Link options asked arrived sent (ended ++ [id]) c' { client with waiting := none } := by
  refine { link with
    whole := fun isOpen => link.whole (closed ▸ isOpen), below := fun other member => ?_,
    waits := nofun, told }
  rw [← List.append_assoc, List.mem_append] at member
  rcases member with old | new
  · exact link.below other old
  · rw [List.mem_singleton.1 new]
    exact (link.waits id waiting).2.1

/-- The server sends bytes, or closes the connection (source `serve_connection`). -/
lemma Link.serve (link : Link options asked arrived sent ended c client) (c' : Connection)
    (bytes : Bytes) (isOpen : c'.closed = false → c.closed = false)
    (outgoing : c'.outgoing = c.outgoing ++ bytes)
    (active : c.closed = false ∨ bytes = []) :
    Link options asked arrived (sent ++ bytes) ended c' client := by
  refine { link with whole := fun still => link.whole (isOpen still), told := ?_ }
  rw [outgoing]
  rcases link.told with ⟨items, takes⟩ | ⟨none, closed⟩
  · exact .inl ⟨items, takes.grow bytes⟩
  · rcases active with active | rfl
    · rw [active] at closed
      cases closed
    · refine .inr ⟨by rw [none, List.append_nil], ?_⟩
      cases still : c'.closed with
      | true => rfl
      | false =>
        rw [isOpen still] at closed
        cases closed

end Link

/-- What holds in every state of a run of a server and its clients. -/
structure Linked [StdSort] (setup : Setup) (options : ServerOptions) (start : State)
    (w : Net × List NetEvent) : Prop where
  served : ServedInOrder setup options start (w.1.hub, hubEvents w.2)
  link : ∀ i, LinkOn options w.2 i (w.1.hub.connections i) (w.1.clients i)
  caused : Caused (Net.cause setup start) w.2

/-- An event is not about the client with a number. -/
structure NetEvent.Elsewhere (i : Nat) (e : NetEvent) : Prop where
  begun : e.begunOn i = []
  ended : e.endedOn i = []
  hub : ∀ event, e.hub? = some event → event.arrivedOn i = [] ∧ event.sentOn i = []

section Linked

variable {h new : List NetEvent} {e : NetEvent} {i : Nat} {c c' : Connection} {client client' : Client}
  {options : ServerOptions}

/-- The events of the server in a longer run. -/
@[simp]
lemma hubEvents_append : hubEvents (h ++ new) = hubEvents h ++ hubEvents new :=
  List.filterMap_append

@[simp]
lemma hubEvents_nil : hubEvents [] = [] := rfl

@[simp]
lemma hubEvents_hub {event : WireEvent} : hubEvents (.hub event :: h) = event :: hubEvents h := rfl

@[simp]
lemma hubEvents_begun {id : UInt64} {op : Bytes} {params : Value} :
    hubEvents (.begun i id op params :: h) = hubEvents h := rfl

@[simp]
lemma hubEvents_finished {id : UInt64} {ending : Ending} :
    hubEvents (.finished i id ending :: h) = hubEvents h := rfl

/-- A call of another client. -/
lemma elsewhere_begun {j : Nat} (other : j ≠ i) (id : UInt64) (op : Bytes) (params : Value) :
    NetEvent.Elsewhere j (.begun i id op params) where
  begun := if_neg other.symm
  ended := rfl
  hub _ shown := by cases shown

/-- The end of a call of another client. -/
lemma elsewhere_finished {j : Nat} (other : j ≠ i) (id : UInt64) (ending : Ending) :
    NetEvent.Elsewhere j (.finished i id ending) where
  begun := rfl
  ended := if_neg other.symm
  hub _ shown := by cases shown

/-- An event of the server on another connection. -/
lemma elsewhere_hub {event : WireEvent} (arrived : event.arrivedOn i = [])
    (sent : event.sentOn i = []) : NetEvent.Elsewhere i (.hub event) where
  begun := rfl
  ended := rfl
  hub _ shown := by
    cases shown
    exact ⟨arrived, sent⟩

/-- The history of a client does not change with what happens elsewhere. -/
lemma LinkOn.elsewhere (link : LinkOn options h i c client) (other : ∀ e ∈ new, e.Elsewhere i) :
    LinkOn options (h ++ new) i c client := by
  have begun : new.flatMap (NetEvent.begunOn i) = [] :=
    List.flatMap_eq_nil_iff.2 fun e member => (other e member).begun
  have ended : new.flatMap (NetEvent.endedOn i) = [] :=
    List.flatMap_eq_nil_iff.2 fun e member => (other e member).ended
  have hub (event : WireEvent) (member : event ∈ hubEvents new) :
      event.arrivedOn i = [] ∧ event.sentOn i = [] := by
    obtain ⟨e, member, shown⟩ := List.mem_filterMap.1 member
    exact (other e member).hub event shown
  have arrived : (hubEvents new).flatMap (WireEvent.arrivedOn i) = [] :=
    List.flatMap_eq_nil_iff.2 fun event member => (hub event member).1
  have sent : (hubEvents new).flatMap (WireEvent.sentOn i) = [] :=
    List.flatMap_eq_nil_iff.2 fun event member => (hub event member).2
  simpa only [LinkOn, hubEvents_append, List.flatMap_append, begun, ended, arrived, sent,
    List.append_nil] using link

/-- An event of the server has its place in the run (source `Server`). -/
lemma exists_of_hubEvents {before later : List WireEvent} {event : WireEvent}
    (split : hubEvents h = before ++ event :: later) :
    ∃ earlier after, h = earlier ++ .hub event :: after ∧ hubEvents earlier = before := by
  obtain ⟨front, rest, rfl, e₁, e₂⟩ := List.filterMap_eq_append_iff.1 split
  obtain ⟨skipped, found, after, rfl, nothing, shown, -⟩ := List.filterMap_eq_cons_iff.1 e₂
  have found_eq : found = .hub event := by
    cases found with
    | hub event' =>
      cases shown
      rfl
    | begun | finished => cases shown
  subst found_eq
  refine ⟨front ++ skipped, after, (List.append_assoc _ _ _).symm, ?_⟩
  have none : hubEvents skipped = [] := List.filterMap_eq_nil_iff.2 nothing
  rw [hubEvents_append, none, List.append_nil]
  exact e₁

variable [StdSort] {setup : Setup} {start : State} {w : Net × List NetEvent}

/-- One client and its connection move. -/
lemma Linked.move (linked : Linked setup options start w) {hub : Hub}
    (served : ServedInOrder setup options start (hub, hubEvents (w.2 ++ new)))
    (connections : ∀ j ≠ i, hub.connections j = w.1.hub.connections j)
    (other : ∀ j ≠ i, ∀ e ∈ new, e.Elsewhere j)
    (here : LinkOn options (w.2 ++ new) i (hub.connections i) client')
    (caused : Caused (Net.cause setup start) (w.2 ++ new)) :
    Linked setup options start (⟨hub, Function.update w.1.clients i client'⟩, w.2 ++ new) := by
  refine ⟨served, fun j => ?_, caused⟩
  show LinkOn options _ j (hub.connections j) (Function.update w.1.clients i client' j)
  rcases eq_or_ne j i with rfl | elsewhere
  · rw [Function.update_self]
    exact here
  · rw [Function.update_of_ne elsewhere, connections j elsewhere]
    exact (linked.link j).elsewhere (other j elsewhere)

/-- What a connection is handed are the frames of the calls that its client sent
(source `Client::call`, `serve_connection`). -/
lemma Linked.frames (linked : Linked setup options start w) (i : Nat) :
    (hubEvents w.2).flatMap (WireEvent.handledOn i) <+:
      (w.2.flatMap (NetEvent.begunOn i)).map requestFrame := by
  obtain ⟨left, takes, -⟩ := (linked.served.connection i).reads
  exact prefix_requests takes (linked.link i).writable (linked.link i).front

/-- The next frame that a connection is handed is that of a call whose turn had not come
(source `Client::call`, `serve_connection`). -/
lemma Linked.next_frame (linked : Linked setup options start w) {frame : Frame} {rest : Bytes}
    (isOpen : (w.1.hub.connections i).closed = false)
    (cut : nextFrame options.frameLimits options.documentLimits
      (w.1.hub.connections i).incoming = some (.ok frame, rest)) :
    frame ∈ (w.2.flatMap (NetEvent.begunOn i)).map requestFrame ∧
      frame ∉ (hubEvents w.2).flatMap (WireEvent.handledOn i) := by
  obtain ⟨left, takes, whole⟩ := (linked.served.connection i).reads
  obtain rfl := whole isOpen
  have link := linked.link i
  have takes := takes.next cut
  rw [← List.map_singleton, ← List.map_append] at takes
  have front := prefix_requests takes link.writable link.front
  have distinct : ((w.2.flatMap (NetEvent.begunOn i)).map requestFrame).Nodup := by
    refine List.pairwise_map.2 ((List.pairwise_map.1 link.numbers).imp fun {a b} below same => ?_)
    have documents := congrArg Frame.body same
    rw [callRequest_id documents] at below
    exact absurd below (UInt64.lt_irrefl _)
  refine ⟨front.subset (List.mem_append_right _ (List.mem_singleton.2 rfl)), fun again => ?_⟩
  have once := distinct.sublist front.sublist
  exact (List.nodup_append.1 once).2.2 frame again frame (List.mem_singleton.2 rfl) rfl

/-- A call that is answered has the result of its request where it was carried out
(source `Client::call`). -/
lemma Linked.answer (linked : Linked setup options start w) {id : UInt64} {cuts : Nat → Nat}
    {result : Except CallError Value} (waiting : (w.1.clients i).waiting = some id)
    (answered : endingOf id (readFrame options.frameLimits .request
      ⟨(w.1.hub.connections i).outgoing, fun n => .piece (cuts n)⟩).1 = .answered result) :
    ∃ op params readings earlier sent later,
      w.2 = earlier ++
        .hub (.handled i ⟨.request, 0, callRequest id op params⟩ readings sent) :: later ∧
      result = resultSeen (setup.service readings)
        ((hubEvents earlier).foldl (WireEvent.replay setup) start) (callRequest id op params) := by
  have link := linked.link i
  have served := linked.served.connection i
  have orderly : Socket.Orderly
      ⟨(w.1.hub.connections i).outgoing, fun n => .piece (cuts n)⟩ := fun n => ⟨cuts n, rfl⟩
  cases cut : nextFrame options.frameLimits .request (w.1.hub.connections i).outgoing with
  | none =>
    obtain ⟨e, socket, refused, -⟩ := orderly.readFrame_waiting cut
    rw [refused] at answered
    cases answered
  | some next =>
    obtain ⟨item, rest⟩ := next
    obtain ⟨socket, read, -⟩ := orderly.readFrame cut
    rw [read] at answered
    rcases link.told with ⟨items, takes⟩ | ⟨none, -⟩
    swap
    · rw [none] at cut
      cases cut
    have requests (met : Met) (member : met ∈ metOn setup i start (hubEvents w.2)) :
        ∃ asked, met.frame = requestFrame asked := by
      have handled : met.frame ∈ (hubEvents w.2).flatMap (WireEvent.handledOn i) := by
        have frames : (metOn setup i start (hubEvents w.2)).map Met.frame = _ := metOn_frames
        rw [← frames]
        exact List.mem_map_of_mem member
      obtain ⟨asked, -, same⟩ := List.mem_map.1 ((linked.frames i).subset handled)
      exact ⟨asked, same.symm⟩
    obtain ⟨⟨service, frame, s⟩, member, whole, rfl⟩ := (takes.next cut).mem_written
      (answerBytes options) (fun met =>
        decodeFrame (answerBytes options met) options.frameLimits .request)
      (by
        rintro ⟨service, frame, s⟩ member
        obtain ⟨asked, rfl⟩ := requests _ member
        rcases @answerBytes_request _ service options s (requestOf asked) with
          missing | ⟨whole, -⟩
        · exact .inl missing
        · exact .inr whole)
      served.answers frameScanner_nil (List.mem_append_right _ (List.mem_singleton.2 rfl))
    obtain ⟨⟨id', op, params⟩, rfl⟩ := requests _ member
    rcases @answerBytes_request _ service options s (requestOf (id', op, params)) with
      missing | ⟨-, decoded⟩
    · have nothing := whole []
      rw [show answerBytes options ⟨service, requestFrame (id', op, params), s⟩ = [] from missing,
        List.append_nil, frameScanner_nil] at nothing
      cases nothing
    obtain ⟨rfl, same⟩ := endingOf_answer (link.waits id waiting).1 decoded answered
    obtain ⟨before, readings, sent, later, cause, rfl, state⟩ := exists_of_mem_metOn member
    obtain ⟨earlier, after, place, rfl⟩ := exists_of_hubEvents cause
    exact ⟨op, params, readings, earlier, sent, after, place, state ▸ same⟩

/-- A hub that is served in order, where bytes arrive on a connection that may close after them. -/
lemma Linked.arrives (linked : Linked setup options start w) {bytes : Bytes}
    (isOpen : (w.1.hub.connections i).closed = false)
    (incoming : c'.closed = false → c'.incoming = (w.1.hub.connections i).incoming ++ bytes)
    (outgoing : c'.outgoing = (w.1.hub.connections i).outgoing)
    (served : c'.served = (w.1.hub.connections i).served) :
    ServedInOrder setup options start
      (w.1.hub.setConnection i c', hubEvents w.2 ++ [.arrived i bytes]) :=
  linked.served.note w.1.hub.registry rfl linked.served.reached
    (((linked.served.connection i).arrive isOpen bytes).close outgoing
      fun still => ⟨isOpen, incoming still, served⟩)
    (fun _ other => if_neg other.symm) (fun _ _ => rfl) fun _ _ => rfl

/-- A lost call ends as soon as its number has not ended a call. -/
lemma cause_lost {before : List NetEvent} {id : UInt64}
    (once : id ∉ before.flatMap (NetEvent.endedOn i)) (error : CallError) :
    Net.cause setup start before (.finished i id (.lost error)) :=
  ⟨once, fun _ lost => by cases lost⟩

/-- Bytes are received without a cause. -/
lemma cause_taken {before : List NetEvent} (i : Nat) (bytes : Bytes) :
    Net.cause setup start before (.hub (.taken i bytes)) := trivial

/-- Bytes arrive without a cause. -/
lemma cause_arrived {before : List NetEvent} (i : Nat) (bytes : Bytes) :
    Net.cause setup start before (.hub (.arrived i bytes)) := trivial

/-- A client begins a call (source `Client::call`). -/
lemma Linked.begin (linked : Linked setup options start w) {op : Bytes} {params : Value}
    {failure : Option (Nat × Error)} {net : Net}
    (room : (w.1.clients i).nextRequestId ≠ 0xFFFFFFFFFFFFFFFF)
    (moved : w.1.begin options i op params failure = some net) :
    Linked setup options start
      (net, w.2 ++ Net.notes options w.1 (.begin i op params failure) net) := by
  rw [Net.begin] at moved
  dsimp only at moved
  split at moved
  · cases moved
  rename_i ready
  have isOpen : (w.1.hub.connections i).closed = false := by simpa using (not_or.1 ready).2
  have link := linked.link i
  have begun : Net.cause setup start w.2
      (.begun i (w.1.clients i).nextRequestId op params) := link.fresh_asked
  rw [Net.notes]
  cases written : writeFrame .request 0
      (callRequest (w.1.clients i).nextRequestId op params) options.frameLimits with
  | error e =>
    rw [written] at moved
    cases moved
    have lost : Net.cause setup start w.2
        (.finished i (w.1.clients i).nextRequestId (.lost e.reported)) :=
      cause_lost link.fresh_ended _
    refine linked.move ?_ (fun _ _ => rfl) ?_ ?_ (linked.caused.concat lost)
    · rw [hubEvents_append, hubEvents_finished, hubEvents_nil, List.append_nil]
      exact linked.served
    · intro j other e member
      rw [List.mem_singleton.1 member]
      exact elsewhere_finished other _ _
    · simpa [LinkOn, NetEvent.begunOn, NetEvent.endedOn] using link.skip room
  | ok bytes =>
    rw [written] at moved
    have once := linked.caused.concat begun
    cases failure with
    | none =>
      cases moved
      have caused := once.concat (cause_arrived i bytes)
      rw [List.append_assoc] at caused
      refine linked.move ?_ (fun j other => Function.update_of_ne other _ _) ?_ ?_ caused
      · rw [hubEvents_append]
        exact linked.arrives isOpen (fun _ => rfl) rfl rfl
      · intro j other e member
        rcases List.mem_cons.1 member with rfl | member
        · exact elsewhere_begun other _ _ _
        · rw [List.mem_singleton.1 member]
          exact elsewhere_hub (if_neg other.symm) rfl
      · have asked := link.ask { w.1.hub.connections i with
            incoming := (w.1.hub.connections i).incoming ++ bytes } isOpen room written
          List.prefix_rfl (fun _ => rfl) rfl (fun _ => .inl) fun _ same => (Option.some.inj same).symm
        simpa [LinkOn, NetEvent.begunOn, NetEvent.endedOn, Hub.setConnection, WireEvent.arrivedOn,
          WireEvent.sentOn] using asked
    | some part =>
      obtain ⟨n, e⟩ := part
      cases moved
      have arrived := once.concat (cause_arrived i (bytes.take n))
      have past : (w.1.clients i).nextRequestId ∉
          (w.2 ++ [NetEvent.begun i (w.1.clients i).nextRequestId op params] ++
            [NetEvent.hub (.arrived i (bytes.take n))]).flatMap (NetEvent.endedOn i) := by
        simpa [NetEvent.endedOn] using link.fresh_ended
      have caused := arrived.concat (cause_lost past e.reported)
      rw [List.append_assoc, List.append_assoc] at caused
      refine linked.move ?_ (fun j other => Function.update_of_ne other _ _) ?_ ?_ caused
      · rw [hubEvents_append]
        exact linked.arrives isOpen (fun isOpen => by cases isOpen) rfl rfl
      · intro j other e member
        rcases List.mem_cons.1 member with rfl | member
        · exact elsewhere_begun other _ _ _
        rcases List.mem_cons.1 member with rfl | member
        · exact elsewhere_hub (if_neg other.symm) rfl
        · rw [List.mem_singleton.1 member]
          exact elsewhere_finished other _ _
      · have ends (id : UInt64) (member : id ∈ w.2.flatMap (NetEvent.endedOn i) ++
            [(w.1.clients i).nextRequestId]) : id ∈ w.2.flatMap (NetEvent.endedOn i) ∨
              id = (w.1.clients i).nextRequestId ∧ (none : Option UInt64) = none := by
          rcases List.mem_append.1 member with old | new
          · exact .inl old
          · exact .inr ⟨List.mem_singleton.1 new, rfl⟩
        have asked := link.ask { w.1.hub.connections i with
            incoming := (w.1.hub.connections i).incoming ++ bytes.take n, closed := true } isOpen
          room written (List.take_prefix n bytes) (fun isOpen => by cases isOpen) rfl ends
          (fun _ none => by cases none)
        simpa [LinkOn, NetEvent.begunOn, NetEvent.endedOn, Hub.setConnection, WireEvent.arrivedOn,
          WireEvent.sentOn] using asked

/-- A client calls over a closed connection, or gives its call up, and its call is lost
(source `Client::exchange`). -/
lemma Linked.lose (linked : Linked setup options start w) {id : UInt64} {error : CallError}
    (past : id ∉ w.2.flatMap (NetEvent.endedOn i))
    (link : Link options (w.2.flatMap (NetEvent.begunOn i))
      ((hubEvents w.2).flatMap (WireEvent.arrivedOn i))
      ((hubEvents w.2).flatMap (WireEvent.sentOn i)) (w.2.flatMap (NetEvent.endedOn i) ++ [id])
      (w.1.hub.connections i) client') :
    Linked setup options start ({ w.1 with clients := Function.update w.1.clients i client' },
      w.2 ++ [.finished i id (.lost error)]) := by
  refine linked.move ?_ (fun _ _ => rfl) ?_ ?_ (linked.caused.concat (cause_lost past error))
  · rw [hubEvents_append, hubEvents_finished, hubEvents_nil, List.append_nil]
    exact linked.served
  · intro j other e member
    rw [List.mem_singleton.1 member]
    exact elsewhere_finished other _ _
  · simpa [LinkOn, NetEvent.begunOn, NetEvent.endedOn] using link

/-- A client reads the next frame and ends its call (source `Client::call`). -/
lemma Linked.receive (linked : Linked setup options start w) {cuts : Nat → Nat} {net : Net}
    (moved : w.1.receive options i cuts = some net) :
    Linked setup options start (net, w.2 ++ Net.notes options w.1 (.receive i cuts) net) := by
  rw [Net.receive] at moved
  split at moved
  · cases moved
  rename_i ready
  obtain ⟨waits, more⟩ := not_or.1 ready
  cases moved
  have link := linked.link i
  obtain ⟨id, waiting⟩ := Option.ne_none_iff_exists'.1 (mt Option.isNone_iff_eq_none.2 waits)
  have orderly : Socket.Orderly
      ⟨(w.1.hub.connections i).outgoing, fun n => .piece (cuts n)⟩ := fun n => ⟨cuts n, rfl⟩
  set left := (readFrame options.frameLimits .request
    ⟨(w.1.hub.connections i).outgoing, fun n => .piece (cuts n)⟩).2.stream with left_eq
  rw [orderly.readFrame_left] at left_eq
  have rest : left <:+ (w.1.hub.connections i).outgoing := by
    cases cut : nextFrame options.frameLimits .request (w.1.hub.connections i).outgoing with
    | none =>
      rw [left_eq, cut]
      exact List.nil_suffix
    | some next =>
      rw [left_eq, cut]
      show next.2 <:+ _
      obtain ⟨-, ⟨_, _, _, same⟩ | ⟨_, _, _, _, same⟩⟩ := nextFrame_eq_some.1 cut <;>
        rw [same] <;> exact List.drop_suffix _ _
  have told : (∃ items, (frameScanner options.frameLimits .request).Takes
      ((hubEvents w.2).flatMap (WireEvent.sentOn i)) items left) ∨
        (left = [] ∧ (w.1.hub.connections i).closed = true) := by
    cases cut : nextFrame options.frameLimits .request (w.1.hub.connections i).outgoing with
    | none =>
      rw [cut, Option.isNone_none, and_iff_right rfl, Bool.not_eq_false] at more
      exact .inr ⟨by rw [left_eq, cut], more⟩
    | some next =>
      rw [left_eq, cut]
      rcases link.told with ⟨items, takes⟩ | ⟨none, -⟩
      · exact .inl ⟨_, takes.next cut⟩
      · rw [none] at cut
        cases cut
  set count := (w.1.hub.connections i).outgoing.length - left.length
  set ending := endingOf id (readFrame options.frameLimits .request
    ⟨(w.1.hub.connections i).outgoing, fun n => .piece (cuts n)⟩).1
  have ends : Net.cause setup start
      (w.2 ++ [NetEvent.hub (.taken i ((w.1.hub.connections i).outgoing.take count))])
      (.finished i id ending) := by
    refine ⟨by simpa [NetEvent.endedOn] using (link.waits id waiting).2.2, fun result same => ?_⟩
    obtain ⟨op, params, readings, earlier, sent, later, place, seen⟩ := linked.answer waiting same
    refine ⟨op, params, readings, earlier, sent, later ++ [.hub (.taken i
      ((w.1.hub.connections i).outgoing.take count))], ?_, seen⟩
    rw [place, List.append_assoc, List.cons_append]
  have caused := (linked.caused.concat (cause_taken i _)).concat ends
  rw [List.append_assoc] at caused
  have notes : Net.notes options w.1 (.receive i cuts)
      ⟨w.1.hub.setConnection i { w.1.hub.connections i with outgoing := left },
        Function.update w.1.clients i { w.1.clients i with waiting := none }⟩ =
      [.hub (.taken i ((w.1.hub.connections i).outgoing.take count)), .finished i id ending] := by
    rw [Net.notes]
    simp only [Hub.setConnection, Function.update_self, waiting]
    rfl
  rw [notes]
  refine linked.move ?_ (fun j other => Function.update_of_ne other _ _) ?_ ?_ caused
  · rw [hubEvents_append, hubEvents_hub, hubEvents_finished, hubEvents_nil]
    refine linked.served.note w.1.hub.registry rfl linked.served.reached ?_ (fun _ _ => rfl)
      (fun _ _ => rfl) fun _ other => if_neg other.symm
    have taken := (linked.served.connection i).take count
    rwa [← List.suffix_iff_eq_drop.1 rest] at taken
  · intro j other e member
    rcases List.mem_cons.1 member with rfl | member
    · exact elsewhere_hub rfl rfl
    · rw [List.mem_singleton.1 member]
      exact elsewhere_finished other _ _
  · have ended := link.finish { w.1.hub.connections i with outgoing := left } waiting rfl told
    simpa [LinkOn, NetEvent.begunOn, NetEvent.endedOn, Hub.setConnection, WireEvent.arrivedOn,
      WireEvent.sentOn] using ended

/-- A connection moves, and its client waits (source `Server`). -/
lemma Linked.turn (linked : Linked setup options start w) (i : Nat) {hub : Hub}
    (served : ServedInOrder setup options start (hub, hubEvents (w.2 ++ new)))
    (connections : ∀ j ≠ i, hub.connections j = w.1.hub.connections j)
    (other : ∀ j ≠ i, ∀ e ∈ new, e.Elsewhere j)
    (here : LinkOn options (w.2 ++ new) i (hub.connections i) (w.1.clients i))
    (caused : Caused (Net.cause setup start) (w.2 ++ new)) :
    Linked setup options start ({ w.1 with hub }, w.2 ++ new) := by
  have moved := linked.move served connections other here caused
  rwa [Function.update_eq_self] at moved

/-- A worker takes its next round (source `serve_connection`). -/
lemma Linked.serve (linked : Linked setup options start w) {clock : Clock} {saved : Result Unit}
    {cuts : Nat → Nat} {sent : Option Nat} {net : Net}
    (moved : Net.step setup options w.1 (.serve i clock saved cuts sent) = some net) :
    Linked setup options start
      (net, w.2 ++ Net.notes options w.1 (.serve i clock saved cuts sent) net) := by
  obtain ⟨hub, taken, rfl⟩ := Option.map_eq_some_iff.1 moved
  have served : ServedInOrder setup options start
      (hub, hubEvents w.2 ++ Hub.notes options w.1.hub (.serve i clock saved cuts sent) hub) :=
    linked.served.step (withHistory_eq_some.2 ⟨taken, rfl⟩)
  obtain ⟨⟨c, s⟩, round, rfl⟩ := Option.map_eq_some_iff.1 taken
  have link := linked.link i
  have elsewhere (j : Nat) (other : j ≠ i) :
      (w.1.hub.setConnection i c).connections j = w.1.hub.connections j :=
    Function.update_of_ne other _ _
  rw [Net.notes]
  obtain ⟨isOpen, ⟨idle, -, outgoing, closed⟩ |
    ⟨frame, rest, bytes, read, cut, -, -, outgoing, -, stays⟩⟩ := Connection.serve_cases round
  · rw [Hub.notes_idle idle] at served ⊢
    refine linked.turn i ?_ elsewhere (fun _ _ _ none => by cases none) ?_ ?_
    · rwa [List.map_nil, List.append_nil, ← List.append_nil (hubEvents w.2)]
    · have shut (still : c.closed = false) : (w.1.hub.connections i).closed = false := isOpen
      have quiet := link.serve c [] shut (by rw [outgoing, List.append_nil]) (.inr rfl)
      simpa [LinkOn, Hub.setConnection] using quiet
    · rw [List.map_nil, List.append_nil]
      exact linked.caused
  · rw [Hub.notes_serve read outgoing] at served ⊢
    have caused : Net.cause setup start w.2
        (.hub (.handled i frame (w.1.hub.readings clock saved) bytes)) :=
      linked.next_frame isOpen cut
    refine linked.turn i ?_ elsewhere ?_ ?_ (linked.caused.concat caused)
    · rw [hubEvents_append]
      exact served
    · intro j other e member
      rw [List.mem_singleton.1 member]
      exact elsewhere_hub rfl (if_neg other.symm)
    · have told := link.serve c bytes (fun _ => isOpen) outgoing (.inl isOpen)
      simpa [LinkOn, NetEvent.begunOn, NetEvent.endedOn, Hub.setConnection, WireEvent.arrivedOn,
        WireEvent.sentOn] using told

/-- A connection is closed (source `Server::stop`). -/
lemma Linked.drop (linked : Linked setup options start w) :
    Linked setup options start ({ w.1 with
      hub := w.1.hub.setConnection i { w.1.hub.connections i with closed := true } }, w.2) := by
  set shut : Connection := { w.1.hub.connections i with closed := true }
  have isOpen (still : shut.closed = false) : (w.1.hub.connections i).closed = false := by
    cases still
  have served : ServedInOrder setup options start
      (w.1.hub.setConnection i shut, hubEvents w.2) := linked.served.quiet
    ((linked.served.connection i).close rfl fun still => by cases still)
  have dropped := (linked.link i).serve shut [] isOpen (List.append_nil _).symm (.inr rfl)
  rw [← List.append_nil w.2] at served dropped ⊢
  refine linked.turn i served (fun j other => Function.update_of_ne other _ _)
    (fun _ _ _ none => by cases none) ?_ ?_
  · simpa [LinkOn, Hub.setConnection] using dropped
  · rw [List.append_nil]
    exact linked.caused

/-- The program calls the registry (source `Registry`). -/
lemma Linked.call (linked : Linked setup options start w) {call : Call} {net : Net}
    (moved : Net.step setup options w.1 (.call call) = some net) :
    Linked setup options start (net, w.2 ++ [.hub (.called call)]) := by
  obtain ⟨hub, taken, rfl⟩ := Option.map_eq_some_iff.1 moved
  have served : ServedInOrder setup options start
      (hub, hubEvents w.2 ++ Hub.notes options w.1.hub (.call call) hub) :=
    linked.served.step (withHistory_eq_some.2 ⟨taken, rfl⟩)
  obtain ⟨s, committed, rfl⟩ := Option.map_eq_some_iff.1 taken
  refine ⟨?_, fun j => ?_, linked.caused.concat trivial⟩
  · rw [hubEvents_append]
    exact served
  · refine (linked.link j).elsewhere fun e member => ?_
    rw [List.mem_singleton.1 member]
    exact elsewhere_hub rfl rfl

/-- Every step keeps the calls linked (source `Client::call`, `serve_connection`). -/
lemma Linked.step (linked : Linked setup options start w) {w' : Net × List NetEvent}
    {action : Net.Action} (room : Net.numbered w action = true)
    (taken : withHistory (Net.step setup options) (Net.notes options) w action = some w') :
    Linked setup options start w' := by
  obtain ⟨net', h'⟩ := w'
  obtain ⟨moved, noted⟩ := withHistory_eq_some.1 taken
  clear taken
  dsimp only at moved noted
  subst noted
  cases action with
  | begin i op params failure => exact linked.begin (of_decide_eq_true room) moved
  | fail i error =>
    rw [Net.step] at moved
    split at moved
    · cases moved
    · cases moved
      exact linked.lose (linked.link i).fresh_ended ((linked.link i).skip (of_decide_eq_true room))
  | receive i cuts => exact linked.receive moved
  | giveUp i error =>
    rw [Net.step] at moved
    split at moved
    · cases moved
    rename_i waits
    cases moved
    obtain ⟨id, waiting⟩ := Option.ne_none_iff_exists'.1 (mt Option.isNone_iff_eq_none.2 waits)
    have link := linked.link i
    rw [Net.notes]
    simp only [waiting]
    exact linked.lose (link.waits id waiting).2.2
      (link.finish (w.1.hub.connections i) waiting rfl link.told)
  | serve i clock saved cuts sent => exact linked.serve moved
  | refuse | query =>
    cases moved
    rw [Net.notes, List.append_nil]
    exact ⟨⟨linked.served.registry, linked.served.reached, linked.served.connection⟩,
      linked.link, linked.caused⟩
  | drop i =>
    cases moved
    rw [Net.notes, List.append_nil]
    exact linked.drop
  | call call => exact linked.call moved

/-- In every state of a run the calls are linked (source `Client::call`, `serve_connection`). -/
lemma linked_of_run
    (run : Run (withHistory (Net.step setup options) (Net.notes options))
      (fun w action => Net.numbered w action = true) (Net.fresh start, []) w) :
    Linked setup options start w := by
  have fresh : Linked setup options start (Net.fresh start, []) := {
    served := .fresh
    link _ := {
      writable := fun _ member => by cases member
      front := List.prefix_rfl
      whole _ := rfl
      numbers := .nil
      below := fun _ member => by cases member
      positive := fun zero => by cases (congrArg UInt64.toNat zero)
      waits := fun _ none => by cases none
      told := .inl ⟨[], .nothing []⟩ }
    caused := .nil }
  exact run.invariant (Linked setup options start) fresh
    fun _ _ _ linked room taken => linked.step room taken

end Linked

/-- A call of the first client is answered with a result. -/
def endsAnswered : NetEvent → Bool
  | .finished i _ (.answered result) => i = 0 && result.isOk
  | _ => false

/-- What ends a call so. -/
lemma of_endsAnswered {event : NetEvent} (ends : endsAnswered event = true) :
    ∃ id result, event = .finished 0 id (.answered (.ok result)) := by
  cases event with
  | finished i id ending =>
    cases ending with
    | answered result =>
      obtain ⟨first, ok⟩ := Bool.and_eq_true_iff.1 ends
      obtain rfl := of_decide_eq_true first
      cases result with
      | ok value => exact ⟨id, value, rfl⟩
      | error e => cases ok
    | lost => cases ends
  | hub | begun => cases ends

end TransceiverRegistry
