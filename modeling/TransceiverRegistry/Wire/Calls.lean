import TransceiverRegistry.Lib.History
import TransceiverRegistry.Wire.Serving

/-!
# Calls over the wire

Port of `Client::call` of `wire.cpp`, for any number of clients that share a server. Calls begin, take
effect and end in any interleaving, and connections fail at any point. A call that is answered took
effect exactly once, between its beginning and its end, and its result is the one of that moment.
-/

namespace TransceiverRegistry

open Lib

/-- A failed call; a server may name the code `Ok`, which is no code (source `Error`). -/
structure CallError where
  code : Option StatusCode
  message : Bytes
deriving DecidableEq

/-- An error as a call reports it. -/
def Error.reported (error : Error) : CallError := ⟨some error.code, error.message⟩

/-- The codes of failures (source `status_code_from_string`, `kAll`). -/
def failureCodes : List StatusCode := [
  .invalidArgument, .notFound, .conflict, .staleAuthority, .staleGeneration, .staleIncarnation,
  .fenced, .capacityExceeded, .malformed, .corrupt, .unsupported, .refused, .ioError, .clockSkew,
  .invalidTransition, .knowledgeOpen, .internal]

/-- The code with a name, none for `Ok` (source `status_code_from_string`). -/
def statusCodeFromString (t : Bytes) : Option (Option StatusCode) :=
  if t = text "ok" then some none
  else (failureCodes.find? fun code => code.toText = t).map some

/-- The document of a call (source `Client::call`). -/
def callRequest (id : UInt64) (op : Bytes) (params : Value) : Value :=
  codecObject [("id", integerOf id.toNat), ("op", .text op), ("params", params)]

/-- The result that an answer carries (source `Client::call`, after the check of the number). -/
def readResult (response : Value) : Except CallError Value :=
  match getBoolean response "ok" with
  | .error e => .error e.reported
  | .ok true =>
    match response.find (text "result") with
    | none => .error (makeError .malformed
        "the response carries neither a result nor an error").reported
    | some result => .ok result
  | .ok false =>
    match response.find (text "error") with
    | none => .error (makeError .internal
        "the server reported a failure without a classification").reported
    | some error =>
      match statusCodeFromString (getTextOr error "code" (text "internal")) with
      | none => .error (makeError .internal
          "the server reported an unknown failure classification").reported
      | some code => .error ⟨code, getTextOr error "message" []⟩

/-- How a call ends: with the answer to it, or with an error of the client. -/
inductive Ending where
  | answered (result : Except CallError Value)
  | lost (error : CallError)

/-- How a call ends that read a frame (source `Client::exchange`, `Client::call`). -/
def endingOf (id : UInt64) (item : Result Frame) : Ending :=
  match item with
  | .error e => .lost e.reported
  | .ok frame =>
    if frame.type ≠ .response ∧ frame.type ≠ .failure then
      .lost (makeError .malformed "the server sent a non-response frame").reported
    else match getUnsigned frame.body "id" with
      | .error e => .lost e.reported
      | .ok responseId =>
        if responseId ≠ id then
          .lost (makeError .malformed "the response does not match the request id").reported
        else .answered (readResult frame.body)

/-- A client of a server (source `Client`). -/
structure Client where
  nextRequestId : UInt64 := 1
  /-- The number of the call under way. -/
  waiting : Option UInt64 := none

/-- A server and its clients; a client has the connection with its number. -/
structure Net where
  hub : Hub
  clients : Nat → Client

/-- What happens to a server and its clients. -/
inductive Net.Action where
  /-- A client sends a request, or only some bytes of it before `send_all` fails. -/
  | begin (i : Nat) (op : Bytes) (params : Value) (failure : Option (Nat × Error))
  /-- A client calls over a connection that is closed. -/
  | fail (i : Nat) (error : Error)
  /-- A client reads the next frame and ends its call. -/
  | receive (i : Nat) (cuts : Nat → Nat)
  /-- A client gives its call up because `recv_some` fails. -/
  | giveUp (i : Nat) (error : Error)
  | serve (i : Nat) (clock : Clock) (saved : Result Unit) (cuts : Nat → Nat) (sent : Option Nat)
  | refuse
  | query
  | drop (i : Nat)
  | call (call : Call)

/-- What is written down of a run of a server and its clients. -/
inductive NetEvent where
  | hub (event : WireEvent)
  | begun (i : Nat) (id : UInt64) (op : Bytes) (params : Value)
  | finished (i : Nat) (id : UInt64) (ending : Ending)

/-- The events of the server. -/
def NetEvent.hub? : NetEvent → Option WireEvent
  | .hub event => some event
  | _ => none

/-- The events of the server in a run. -/
def hubEvents (h : List NetEvent) : List WireEvent := h.filterMap NetEvent.hub?

/-- The calls that a client sent: their numbers, operations and parameters. -/
def NetEvent.begunOn (i : Nat) : NetEvent → List (UInt64 × Bytes × Value)
  | .begun j id op params => if j = i then [(id, op, params)] else []
  | _ => []

/-- The numbers of the calls of a client that ended. -/
def NetEvent.endedOn (i : Nat) : NetEvent → List UInt64
  | .finished j id _ => if j = i then [id] else []
  | _ => []

/-- A server and its clients before the first call. -/
def Net.fresh (start : State) : Net := ⟨.fresh start, fun _ => {}⟩

section Step

variable [StdSort] (setup : Setup) (service : Service) (options : ServerOptions)

/-- A client sends a request (source `Client::call`, `Client::exchange`, `write_frame`). -/
def Net.begin (w : Net) (i : Nat) (op : Bytes) (params : Value) (failure : Option (Nat × Error)) :
    Option Net :=
  let client := w.clients i
  let c := w.hub.connections i
  if client.waiting.isSome ∨ c.closed then none
  else
    let id := client.nextRequestId
    match writeFrame .request 0 (callRequest id op params)
        options.frameLimits with
    | .error _ => some { w with
        clients := Function.update w.clients i { nextRequestId := id + 1 } }
    | .ok bytes =>
      match failure with
      | none => some {
          hub := w.hub.setConnection i { c with incoming := c.incoming ++ bytes }
          clients := Function.update w.clients i { nextRequestId := id + 1, waiting := some id } }
      | some (n, _) => some {
          hub := w.hub.setConnection i
            { c with incoming := c.incoming ++ bytes.take n, closed := true }
          clients := Function.update w.clients i { nextRequestId := id + 1 } }

/-- A client reads the next frame; it waits while bytes are missing and the connection is open (source
`Client::exchange`, `read_frame`). -/
def Net.receive (w : Net) (i : Nat) (cuts : Nat → Nat) : Option Net :=
  let client := w.clients i
  let c := w.hub.connections i
  if client.waiting.isNone ∨
      ((nextFrame options.frameLimits .request c.outgoing).isNone ∧ c.closed = false) then none
  else some {
    hub := w.hub.setConnection i { c with
      outgoing := (readFrame options.frameLimits .request ⟨c.outgoing, fun n => .piece (cuts n)⟩).2.stream }
    clients := Function.update w.clients i { client with waiting := none } }

/-- The steps of a server and its clients. -/
def Net.step (w : Net) : Net.Action → Option Net
  | .begin i op params failure => w.begin options i op params failure
  | .fail i _ =>
    let client := w.clients i
    if client.waiting.isSome ∨ (w.hub.connections i).closed = false then none
    else some { w with
      clients := Function.update w.clients i { nextRequestId := client.nextRequestId + 1 } }
  | .receive i cuts => w.receive options i cuts
  | .giveUp i _ =>
    let client := w.clients i
    if client.waiting.isNone then none
    else some { w with clients := Function.update w.clients i { client with waiting := none } }
  | .serve i clock saved cuts sent =>
    (Hub.step setup options w.hub (.serve i clock saved cuts sent)).map fun hub => { w with hub }
  | .refuse => (Hub.step setup options w.hub .refuse).map fun hub => { w with hub }
  | .query => (Hub.step setup options w.hub .query).map fun hub => { w with hub }
  | .drop i => (Hub.step setup options w.hub (.drop i)).map fun hub => { w with hub }
  | .call call => (Hub.step setup options w.hub (.call call)).map fun hub => { w with hub }

/-- What is written down of a step. -/
def Net.notes (w : Net) (action : Net.Action) (w' : Net) : List NetEvent :=
  match action with
  | .begin i op params failure =>
    let id := (w.clients i).nextRequestId
    match writeFrame .request 0 (callRequest id op params)
        options.frameLimits with
    | .error e => [.finished i id (.lost e.reported)]
    | .ok bytes =>
      match failure with
      | none => [.begun i id op params, .hub (.arrived i bytes)]
      | some (n, e) => [.begun i id op params, .hub (.arrived i (bytes.take n)),
          .finished i id (.lost e.reported)]
  | .fail i e => [.finished i (w.clients i).nextRequestId (.lost e.reported)]
  | .receive i cuts =>
    let stream := (w.hub.connections i).outgoing
    let left := (w'.hub.connections i).outgoing
    match (w.clients i).waiting with
    | none => []
    | some id => [.hub (.taken i (stream.take (stream.length - left.length))), .finished i id
        (endingOf id (readFrame options.frameLimits .request ⟨stream, fun n => .piece (cuts n)⟩).1)]
  | .giveUp i e =>
    match (w.clients i).waiting with
    | none => []
    | some id => [.finished i id (.lost e.reported)]
  | .serve i clock saved cuts sent =>
    (Hub.notes options w.hub (.serve i clock saved cuts sent) w'.hub).map .hub
  | .refuse | .query | .drop _ => []
  | .call call => [.hub (.called call)]

/-- The client of a call has a number left for it (source `next_request_id_`). -/
def Net.numbered (w : Net × List NetEvent) : Net.Action → Bool
  | .begin i _ _ _ => (w.1.clients i).nextRequestId ≠ 0xFFFFFFFFFFFFFFFF
  | .fail i _ => (w.1.clients i).nextRequestId ≠ 0xFFFFFFFFFFFFFFFF
  | _ => true

/-- What a request is answered with in a state, as a call reports it. -/
def resultSeen (s : State) (request : Value) : Except CallError Value :=
  match resultOf service s request with
  | .ok (_, result) => .ok result
  | .error e => .error e.reported

end Step

section Answers

variable [StdSort] {service : Service} {options : ServerOptions} {s : State} {id : UInt64}
  {op : Bytes} {params : Value}

omit [StdSort] in
/-- Every code of a failure is known by its name (source `status_code_from_string`). -/
lemma statusCodeFromString_toText (code : StatusCode) :
    statusCodeFromString code.toText = some (some code) := by
  cases code <;> decide

omit [StdSort] in
/-- The names of a request (source `Client::call`). -/
lemma request_keysOk : keysOk ["id", "op", "params"] = true := by decide +kernel

omit [StdSort] in
/-- The names of a response (source `make_response`). -/
lemma response_keysOk : keysOk ["id", "ok", "result"] = true := by decide +kernel

omit [StdSort] in
/-- The names of a failure (source `make_failure`). -/
lemma failure_keysOk : keysOk ["error", "id", "ok"] = true := by decide +kernel

omit [StdSort] in
/-- The names of an error (source `make_failure`). -/
lemma error_keysOk : keysOk ["code", "message"] = true := by decide +kernel

omit [StdSort] in
/-- A document has the fields it was made of (source `Value::object`). -/
lemma holds_fields {ms : List (String × Value)} {v x : Value} {key : String}
    (encoded : v = codecObject ms) (ok : keysOk (ms.map Prod.fst) = true)
    (mem : ms.lookup key = some x) : Holds v key x := by
  rw [encoded]
  exact holds_codecObject ok mem

omit [StdSort] in
/-- The number of a call is in its document (source `Client::call`). -/
lemma holds_callRequest : Holds (callRequest id op params) "id" (integerOf id.toNat) :=
  holds_fields rfl request_keysOk rfl

omit [StdSort] in
/-- Documents of calls with different numbers are different (source `Client::call`). -/
lemma callRequest_id {id' : UInt64} {op' : Bytes} {params' : Value}
    (same : callRequest id op params = callRequest id' op' params') : id = id' := by
  have found : Holds (callRequest id op params) "id" (integerOf id.toNat) := holds_callRequest
  rw [same] at found
  have number := Option.some.inj (found.found.symm.trans holds_callRequest.found)
  simp only [integerOf, Value.integer.injEq] at number
  have bits := congrArg Int64.toUInt64 number
  rwa [Int64.toUInt64_ofNat', Int64.toUInt64_ofNat', UInt64.ofNat_toNat, UInt64.ofNat_toNat] at bits

/-- An answer carries the result of its request (source `make_response`, `make_failure`). -/
lemma readResult_dispatch (request : Value) :
    readResult (dispatch service s request).1.body = resultSeen service s request := by
  unfold resultSeen dispatch
  cases resultOf service s request with
  | ok accepted =>
    have ok : Holds (makeResponse (getUnsignedOr request "id" 0) accepted.2) "ok" (.boolean true) :=
      holds_fields rfl response_keysOk rfl
    have result : Holds (makeResponse (getUnsignedOr request "id" 0) accepted.2) "result"
        accepted.2 := holds_fields rfl response_keysOk rfl
    simp only [outcomeOf, readResult, getBoolean_eq ok, result.found]
  | error error =>
    have ok : Holds (makeFailure (getUnsignedOr request "id" 0) error) "ok" (.boolean false) :=
      holds_fields rfl failure_keysOk rfl
    have failure : Holds (makeFailure (getUnsignedOr request "id" 0) error) "error"
        (errorDocument error) := holds_fields rfl failure_keysOk rfl
    have code : Holds (errorDocument error) "code" (.text error.code.toText) :=
      holds_fields rfl error_keysOk rfl
    have message : Holds (errorDocument error) "message" (.text error.message) :=
      holds_fields rfl error_keysOk rfl
    simp only [outcomeOf, readResult, getBoolean_eq ok, failure.found, getTextOr_eq code,
      statusCodeFromString_toText, getTextOr_eq message, Error.reported]

/-- An answer carries the number of its request (source `make_response`, `make_failure`). -/
lemma holds_dispatch_id (request : Value) : Holds (dispatch service s request).1.body "id"
    (integerOf (getUnsignedOr request "id" 0).toNat) := by
  unfold dispatch
  cases resultOf service s request with
  | ok accepted => exact holds_fields rfl response_keysOk rfl
  | error error => exact holds_fields rfl failure_keysOk rfl

/-- A call that reads an answer with its number ends with the result of that request (source
`Client::call`). -/
lemma endingOf_answer {waited : UInt64} (some : waited ≠ 0) {item : Result Frame}
    {result : Except CallError Value} {type : MessageType} {flags : UInt16}
    (read : ∀ frame, item = .ok frame →
      frame = ⟨type, flags, (dispatch service s (callRequest id op params)).1.body⟩)
    (answered : endingOf waited item = .answered result) :
    waited = id ∧ result = resultSeen service s (callRequest id op params) := by
  unfold endingOf at answered
  cases item with
  | error e => cases answered
  | ok frame =>
    obtain rfl := read frame rfl
    dsimp only at answered
    split at answered
    · cases answered
    cases number : getUnsigned (dispatch service s (callRequest id op params)).1.body "id" with
    | error e =>
      rw [number] at answered
      cases answered
    | ok responseId =>
      rw [number] at answered
      dsimp only at answered
      split at answered
      · cases answered
      rename_i same
      have same := not_not.1 same
      cases answered
      obtain ⟨-, e⟩ := (getUnsigned_counter (holds_dispatch_id _)).1 number
      rw [getUnsignedOr_eq holds_callRequest, same] at e
      refine ⟨?_, readResult_dispatch _⟩
      split at e
      · exact e
      · exact absurd e some

/-- The bytes of the answer to a request, if there are any, are one frame, which is read as the answer
or refused (source `write_frame`, `read_frame`). -/
lemma answerBytes_request (request : Value) :
    answerBytes options ⟨service, ⟨.request, 0, request⟩, s⟩ = [] ∨
      (frameScanner options.frameLimits .request).Whole
          (answerBytes options ⟨service, ⟨.request, 0, request⟩, s⟩)
          (decodeFrame (answerBytes options ⟨service, ⟨.request, 0, request⟩, s⟩)
            options.frameLimits .request) ∧
        ∀ frame, decodeFrame (answerBytes options ⟨service, ⟨.request, 0, request⟩, s⟩)
          options.frameLimits .request = .ok frame → frame =
            ⟨(dispatch service s request).1.type, 0, (dispatch service s request).1.body⟩ := by
  have sent : answerBytes options ⟨service, ⟨.request, 0, request⟩, s⟩ =
      (writeFrame (dispatch service s request).1.type 0 (dispatch service s request).1.body
        options.frameLimits).toOption.getD [] := rfl
  rw [sent]
  cases written : writeFrame (dispatch service s request).1.type 0
      (dispatch service s request).1.body options.frameLimits with
  | error e => exact .inl rfl
  | ok bytes =>
    exact .inr ⟨whole_writeFrame written (UInt32.le_refl _), fun _ => eq_of_decodeFrame written⟩

end Answers

section Requests

variable {options : ServerOptions}

/-- The document of a call that was sent. -/
def requestOf (asked : UInt64 × Bytes × Value) : Value := callRequest asked.1 asked.2.1 asked.2.2

/-- The bytes of a call (source `write_frame`). -/
def requestBytes (options : ServerOptions) (asked : UInt64 × Bytes × Value) : Bytes :=
  (writeFrame .request 0 (requestOf asked) options.frameLimits).toOption.getD []

/-- The frame of a call. -/
def requestFrame (asked : UInt64 × Bytes × Value) : Frame := ⟨.request, 0, requestOf asked⟩

/-- The bytes of a call that is sent (source `write_frame`). -/
lemma requestBytes_eq {asked : UInt64 × Bytes × Value} {bytes : Bytes}
    (written : writeFrame .request 0 (requestOf asked) options.frameLimits = .ok bytes) :
    requestBytes options asked = bytes := by
  rw [requestBytes, written]
  rfl

/-- The frames of a stream of calls are the frames of these calls, in order (source `write_frame`,
`read_frame`). -/
lemma prefix_requests {asked : List (UInt64 × Bytes × Value)} {arrived left : Bytes}
    {handled : List Frame}
    (takes : (frameScanner options.frameLimits options.documentLimits).Takes arrived
      (handled.map .ok) left)
    (writable : ∀ a ∈ asked, ∃ bytes,
      writeFrame .request 0 (requestOf a) options.frameLimits = .ok bytes)
    (front : arrived <+: asked.flatMap (requestBytes options)) :
    handled <+: asked.map requestFrame := by
  have taken := takes.prefix_written (requestBytes options) (fun a =>
      decodeFrame (requestBytes options a) options.frameLimits options.documentLimits) (by
    intro a member
    obtain ⟨bytes, written⟩ := writable a member
    rw [requestBytes_eq written]
    exact whole_writeFrame written (UInt32.le_refl _)) front frameScanner_nil
  clear takes front
  induction asked generalizing handled with
  | nil =>
    rw [List.map_nil, List.prefix_nil, List.map_eq_nil_iff] at taken
    rw [taken]
    exact List.nil_prefix
  | cons a asked ih =>
    cases handled with
    | nil => exact List.nil_prefix
    | cons frame handled =>
      rw [List.map_cons, List.map_cons, List.cons_prefix_cons] at taken
      obtain ⟨bytes, written⟩ := writable a List.mem_cons_self
      rw [List.map_cons, List.cons_prefix_cons]
      refine ⟨?_, ih (fun b member => writable b (List.mem_cons_of_mem a member)) taken.2⟩
      rw [requestBytes_eq written] at taken
      exact eq_of_decodeFrame written taken.1.symm

end Requests

end TransceiverRegistry
