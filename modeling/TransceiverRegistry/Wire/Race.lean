import TransceiverRegistry.Wire.Linear

/-!
# Calls that race

A client that writes under the generation it read is fenced by `RegistryImpl::mutate`. Over the wire
this makes its write conditional on the registry it read: whatever other clients and the program do, a
fenced call succeeds only in the state with its generation, and of all fenced calls with one generation
at most one succeeds. Neither the request numbers nor the generation may wrap.
-/

namespace TransceiverRegistry

open Lib

/-- A call mutates the registry only at a generation (source `RegistryImpl::mutate`). -/
structure FencedAt [StdSort] (generation : Generation) (op : Bytes) (params : Value) : Prop where
  named : generation ≠ 0
  mutates : (mutationReader op).isSome = true
  policy : readPolicyParam params = .ok .requireGeneration
  compared : comparedGeneration op params = generation

instance [StdSort] {generation : Generation} {op : Bytes} {params : Value} :
    Decidable (FencedAt generation op params) :=
  decidable_of_iff (generation ≠ 0 ∧ (mutationReader op).isSome = true ∧
      readPolicyParam params = .ok .requireGeneration ∧ comparedGeneration op params = generation)
    ⟨fun ⟨named, mutates, policy, compared⟩ => ⟨named, mutates, policy, compared⟩,
      fun ⟨named, mutates, policy, compared⟩ => ⟨named, mutates, policy, compared⟩⟩

section Requests

variable {id : UInt64} {op : Bytes} {params : Value}

/-- The parameters of a call (source `params_of`). -/
lemma paramsOf_callRequest : paramsOf (callRequest id op params) = params := by
  have found : Holds (callRequest id op params) "params" params := holds_fields rfl request_keysOk rfl
  rw [paramsOf, found.found, Option.getD_some]

/-- The operation of a call is one of those that a request may name (source `dispatch`). -/
lemma requestOp_callRequest {name : Bytes} (named : requestOp (callRequest id op params) = .ok name) :
    op = name := by
  have found : Holds (callRequest id op params) "op" (.text op) := holds_fields rfl request_keysOk rfl
  rw [requestOp, getText_eq found, ok_bind, refuseIf_bind_eq_ok] at named
  exact Except.ok.inj named.2

variable [StdSort] {service : Service} {s : State} {result : Value} {g : Generation}

/-- A fenced call that succeeds meets the generation it names, and the next one follows
(source `RegistryImpl::mutate`). -/
lemma generation_of_fenced (fenced : FencedAt g op params)
    (seen : resultSeen service s (callRequest id op params) = .ok result) :
    s.generation = g ∧ (dispatch service s (callRequest id op params)).2.generation = g + 1 := by
  unfold resultSeen at seen
  unfold dispatch
  cases outcome : resultOf service s (callRequest id op params) with
  | error e =>
    rw [outcome] at seen
    cases seen
  | ok accepted =>
    obtain ⟨s', value⟩ := accepted
    obtain ⟨_, _, carried⟩ := bind_eq_ok.1 outcome
    obtain ⟨name, named, _⟩ := bind_eq_ok.1 carried
    obtain rfl := requestOp_callRequest named
    obtain ⟨read, mutates⟩ := Option.isSome_iff_exists.1 fenced.mutates
    have policy : readPolicyParam (paramsOf (callRequest id op params)) = .ok .requireGeneration := by
      rw [paramsOf_callRequest]
      exact fenced.policy
    have current := ((resultOf_eq_ok_iff named mutates policy).1 ⟨_, outcome⟩).1
    rw [paramsOf_callRequest, fenced.compared] at current
    have same : s.generation = g := by
      by_contra other
      exact current ⟨fenced.named, fun e => other e.symm⟩
    obtain ⟨operation, _, done⟩ := (resultOf_mutation named mutates).1 outcome
    obtain ⟨_, next, _, rfl⟩ := step_eq_some (perform_step done)
    exact ⟨same, congrArg (· + 1) same⟩

end Requests

section Advance

variable [StdSort] {setup : Setup} {service : Service} {options : ServerOptions} {start s : State}

/-- A state comes before another one in the order of the generations. -/
def Older (s s' : State) : Prop := s.generation < s'.generation

/-- Every event of a run leaves the registry as it is or leads to a later generation. -/
def Advancing (setup : Setup) (start : State) : List WireEvent → WireEvent → Prop :=
  Ratchet (WireEvent.replay setup) Older start

/-- What a worker reads leaves the registry as it is or leads to a later generation
(source `serve_connection`). -/
lemma older_of_serveFrame (room : s.generation ≠ 0xFFFFFFFFFFFFFFFF) (frame : Frame) :
    (serveFrame service s frame).2 = s ∨ Older s (serveFrame service s frame).2 := by
  have dispatched : (dispatch service s frame.body).2 = s ∨
      Older s (dispatch service s frame.body).2 := by
    obtain same | ⟨operation, taken⟩ := dispatch_step service s frame.body
    · exact .inl same
    · exact .inr (generation_lt_of_step room taken)
  unfold serveFrame
  split
  · exact .inl rfl
  · exact dispatched
  · exact dispatched
  · exact dispatched
  · exact .inl rfl

/-- What is written down of a step leaves the registry as it is or leads to a later generation. -/
lemma replay_eq_or (room : s.generation ≠ 0xFFFFFFFFFFFFFFFF) (event : WireEvent) :
    event.replay setup s = s ∨ Older s (event.replay setup s) := by
  cases event with
  | handled i frame readings sent => exact older_of_serveFrame room frame
  | called call =>
    rw [WireEvent.replay]
    cases taken : step setup.config s call with
    | none => exact .inl rfl
    | some s' => exact .inr (generation_lt_of_step room taken)
  | arrived | taken => exact .inl rfl

omit [StdSort] in
/-- A step writes at most one event of the server down. -/
lemma hubEvents_notes {net net' : Net} {action : Net.Action} :
    hubEvents (Net.notes options net action net') = [] ∨
      ∃ event, hubEvents (Net.notes options net action net') = [event] := by
  cases action with
  | begin i op params failure =>
    rw [Net.notes]
    cases writeFrame .request 0 (callRequest (net.clients i).nextRequestId op params)
      options.frameLimits with
    | error e => exact .inl rfl
    | ok bytes =>
      cases failure with
      | none => exact .inr ⟨_, rfl⟩
      | some part => exact .inr ⟨_, rfl⟩
  | fail i error => exact .inl rfl
  | receive i cuts =>
    rw [Net.notes]
    cases (net.clients i).waiting with
    | none => exact .inl rfl
    | some id => exact .inr ⟨_, rfl⟩
  | giveUp i error =>
    rw [Net.notes]
    cases (net.clients i).waiting with
    | none => exact .inl rfl
    | some id => exact .inl rfl
  | serve i clock saved cuts sent =>
    rw [Net.notes, Hub.notes]
    cases (net.hub.connections i).reads options with
    | none => exact .inl rfl
    | some frame => exact .inr ⟨_, rfl⟩
  | refuse | query | drop => exact .inl rfl
  | call call => exact .inr ⟨_, rfl⟩

/-- The calls of a run are linked and its generations go up while there is a next one. -/
lemma advancing_of_run {w : Net × List NetEvent}
    (run : Run (withHistory (Net.step setup options) (Net.notes options))
      (fun w action => Net.numbered w action = true ∧
        w.1.hub.registry.generation ≠ 0xFFFFFFFFFFFFFFFF) (Net.fresh start, []) w) :
    Linked setup options start w ∧ Caused (Advancing setup start) (hubEvents w.2) := by
  induction run with
  | start => exact ⟨linked_of_run .start, .nil⟩
  | @next w action w' _ ok taken ih =>
    obtain ⟨linked, advancing⟩ := ih
    obtain ⟨numbered, room⟩ := ok
    refine ⟨linked.step numbered taken, ?_⟩
    rw [(withHistory_eq_some.1 taken).2, hubEvents_append]
    rcases hubEvents_notes with none | ⟨event, one⟩
    · rw [none, List.append_nil]
      exact advancing
    · rw [one]
      refine advancing.concat ?_
      rw [Advancing, Ratchet, ← linked.served.registry]
      exact replay_eq_or room event

/-- Between two points of a run the registry stays as it is or a later generation follows. -/
lemma eq_or_older {h before : List WireEvent} (advancing : Caused (Advancing setup start) h)
    (longer : before <+: h) :
    before.foldl (WireEvent.replay setup) start = h.foldl (WireEvent.replay setup) start ∨
      Older (before.foldl (WireEvent.replay setup) start)
        (h.foldl (WireEvent.replay setup) start) :=
  advancing.foldl_eq_or (fun _ _ _ => UInt64.lt_trans) longer

end Advance

section Race

variable [StdSort] {setup : Setup} {options : ServerOptions} {start : State} {g : Generation}
  {w : Net × List NetEvent}

/-- Where a call that succeeded was carried out: before it ended, its request met a state that it
succeeds in (source `Client::call`). -/
lemma Linked.carried_before (linked : Linked setup options start w) {i : Nat} {id : UInt64}
    {op : Bytes} {params value : Value} (begun : .begun i id op params ∈ w.2)
    {front back : List NetEvent} (split : w.2 = front ++ .finished i id (.answered (.ok value)) :: back) :
    ∃ earlier readings sent later,
      front = earlier ++ .hub (.handled i (requestFrame (id, op, params)) readings sent) :: later ∧
      resultSeen (setup.service readings) ((hubEvents earlier).foldl (WireEvent.replay setup) start)
        (callRequest id op params) = .ok value := by
  obtain ⟨-, answered⟩ := linked.caused _ _ _ split
  obtain ⟨op', params', readings, earlier, sent, later, place, seen⟩ := answered _ rfl
  have whole : w.2 = earlier ++
      .hub (.handled i ⟨.request, 0, callRequest id op' params'⟩ readings sent) ::
      (later ++ .finished i id (.answered (.ok value)) :: back) := by
    rw [split, place, List.append_assoc, List.cons_append]
  obtain ⟨asked, -⟩ := linked.caused _ _ _ whole
  obtain ⟨a, mem, same⟩ := List.mem_map.1 asked
  have number : a.1 = id := callRequest_id (congrArg Frame.body same)
  have mem : a ∈ w.2.flatMap (NetEvent.begunOn i) := by
    rw [whole, List.flatMap_append]
    exact List.mem_append_left _ mem
  have mine : (id, op, params) ∈ w.2.flatMap (NetEvent.begunOn i) :=
    List.mem_flatMap.2 ⟨_, begun, by rw [NetEvent.begunOn, if_pos rfl, List.mem_singleton]⟩
  have distinct : ((w.2.flatMap (NetEvent.begunOn i)).map Prod.fst).Nodup :=
    (linked.link i).numbers.imp fun below => UInt64.ne_of_lt below
  obtain rfl := List.inj_on_of_nodup_map distinct mem mine number
  have same : callRequest id op' params' = callRequest id op params :=
    (congrArg Frame.body same).symm
  rw [same] at seen place
  exact ⟨earlier, readings, sent, later, place, seen.symm⟩

/-- Where a call that succeeded was carried out, among the events of the server. -/
lemma Linked.carried (linked : Linked setup options start w) {i : Nat} {id : UInt64} {op : Bytes}
    {params value : Value} (begun : .begun i id op params ∈ w.2)
    (ended : .finished i id (.answered (.ok value)) ∈ w.2) :
    ∃ before readings sent later,
      hubEvents w.2 = before ++ .handled i (requestFrame (id, op, params)) readings sent :: later ∧
      resultSeen (setup.service readings) (before.foldl (WireEvent.replay setup) start)
        (callRequest id op params) = .ok value := by
  obtain ⟨front, back, split⟩ := List.append_of_mem ended
  obtain ⟨earlier, readings, sent, later, place, seen⟩ := linked.carried_before begun split
  refine ⟨hubEvents earlier, readings, sent,
    hubEvents (later ++ .finished i id (.answered (.ok value)) :: back), ?_, seen⟩
  rw [split, place, List.append_assoc, List.cons_append, hubEvents_append, hubEvents_hub]

/-- A fenced call that succeeded met the generation it names, and whatever was handled after it met a
later one (source `RegistryImpl::mutate`). -/
lemma Linked.won (linked : Linked setup options start w)
    (advancing : Caused (Advancing setup start) (hubEvents w.2)) {i : Nat} {id : UInt64} {op : Bytes}
    {params value : Value} (fenced : FencedAt g op params) (begun : .begun i id op params ∈ w.2)
    (ended : .finished i id (.answered (.ok value)) ∈ w.2) :
    ∃ before readings sent later,
      hubEvents w.2 = before ++ .handled i (requestFrame (id, op, params)) readings sent :: later ∧
      (before.foldl (WireEvent.replay setup) start).generation = g ∧
      ∀ point, before ++ [.handled i (requestFrame (id, op, params)) readings sent] <+: point →
        point <+: hubEvents w.2 → g < (point.foldl (WireEvent.replay setup) start).generation := by
  obtain ⟨before, readings, sent, later, place, seen⟩ := linked.carried begun ended
  obtain ⟨met, left⟩ := generation_of_fenced fenced seen
  refine ⟨before, readings, sent, later, place, met, fun point after within => ?_⟩
  have next : ((before ++ [WireEvent.handled i (requestFrame (id, op, params)) readings sent]).foldl
      (WireEvent.replay setup) start).generation = g + 1 := by
    rw [List.foldl_append]
    exact left
  have up : g < g + 1 := by
    rcases advancing _ _ _ place with same | older
    · have same : g + 1 = g := left.symm.trans ((congrArg State.generation same).trans met)
      have counts : (g.toNat + 1) % 2 ^ 64 = g.toNat := congrArg UInt64.toNat same
      have bound := g.toNat_lt
      omega
    · have older : (before.foldl (WireEvent.replay setup) start).generation <
          (dispatch (setup.service readings) (before.foldl (WireEvent.replay setup) start)
            (callRequest id op params)).2.generation := older
      rwa [met, left] at older
  obtain ⟨rest, whole⟩ := within
  rw [← whole] at advancing
  rcases eq_or_older advancing.front after with same | older
  · rw [← same, next]
    exact up
  · exact UInt64.lt_trans (next ▸ up) older

end Race

/-- Put the module `A` into a slot at the second generation. -/
def attachIn (slot : String) : Value := codecObject
  [("authority", encode host), ("module", encode (⟨1, 1, 2, bayA⟩ : ModuleHandle)),
    ("slot", .text (text slot))]

/-- The first call of a client is fenced by the second generation. -/
def beginsRace (i : Nat) : NetEvent → Bool
  | .begun j id op params => j = i ∧ id = 1 ∧ FencedAt 2 op params
  | _ => false

/-- The first call of a client is answered, with success or else. -/
def endsRace (i : Nat) (success : Bool) : NetEvent → Bool
  | .finished j id (.answered result) => j = i ∧ id = 1 ∧ result.isOk = success
  | _ => false

/-- What was found to begin. -/
lemma exists_of_beginsRace {h : List NetEvent} {i : Nat} (found : h.any (beginsRace i) = true) :
    ∃ op params, FencedAt 2 op params ∧ .begun i 1 op params ∈ h := by
  obtain ⟨event, member, begins⟩ := List.any_eq_true.1 found
  cases event with
  | begun j id op params =>
    obtain ⟨rfl, rfl, fenced⟩ := of_decide_eq_true begins
    exact ⟨op, params, fenced, member⟩
  | hub | finished => cases begins

/-- What was found to end. -/
lemma exists_of_endsRace {h : List NetEvent} {i : Nat} {success : Bool}
    (found : h.any (endsRace i success) = true) :
    ∃ result : Except CallError Value, result.isOk = success ∧
      .finished i 1 (.answered result) ∈ h := by
  obtain ⟨event, member, ends⟩ := List.any_eq_true.1 found
  cases event with
  | finished j id ending =>
    cases ending with
    | answered result =>
      obtain ⟨rfl, rfl, ok⟩ := of_decide_eq_true ends
      exact ⟨result, ok, member⟩
    | lost => cases ends
  | hub | begun => cases ends

/-- A run in which two clients race. -/
structure Race (w : Net × List NetEvent) : Prop where
  run : Run (withHistory (Net.step benchSetup {}) (Net.notes {}))
    (fun w action => Net.numbered w action = true ∧
      w.1.hub.registry.generation ≠ 0xFFFFFFFFFFFFFFFF) (Net.fresh State.initial, []) w
  second : ∃ op params, FencedAt 2 op params ∧ .begun 1 1 op params ∈ w.2
  first : ∃ op params, FencedAt 2 op params ∧ .begun 0 1 op params ∈ w.2
  won : ∃ value, .finished 1 1 (.answered (.ok value)) ∈ w.2
  lost : ∃ result, .finished 0 1 (.answered result) ∈ w.2

set_option maxRecDepth 20000 in
/-- Two clients put one module into different slots under one generation, and both are answered. -/
lemma exists_race : ∃ w, Race w := by
  have raced : (runGuarded (withHistory (Net.step benchSetup {}) (Net.notes {}))
      (fun w action => decide (Net.numbered w action = true ∧
        w.1.hub.registry.generation ≠ 0xFFFFFFFFFFFFFFFF))
      [.call registerHost, .call (registerBay bayA .ensureCurrent),
        .begin 0 (text "attachment.attach") (attachIn "sa") none,
        .begin 1 (text "attachment.attach") (attachIn "sb") none,
        .serve 1 (clockAt 1) (.ok ()) (fun _ => 100) none,
        .serve 0 (clockAt 2) (.ok ()) (fun _ => 100) none, .receive 0 (fun _ => 100),
        .receive 1 (fun _ => 100)] (Net.fresh State.initial, [])).any
      (fun w => w.2.any (beginsRace 1) && w.2.any (beginsRace 0) && w.2.any (endsRace 1 true) &&
        w.2.any (endsRace 0 false)) = true := by
    decide +kernel
  obtain ⟨w, guarded, shows⟩ := Run.exists_ofGuarded raced
  simp only [Bool.and_eq_true] at shows
  obtain ⟨⟨⟨second, first⟩, won⟩, lost⟩ := shows
  obtain ⟨result, ok, won⟩ := exists_of_endsRace won
  obtain ⟨answer, -, lost⟩ := exists_of_endsRace lost
  refine ⟨w, {
    run := guarded.mono fun _ _ ok => of_decide_eq_true ok
    second := exists_of_beginsRace second
    first := exists_of_beginsRace first
    won := ?_
    lost := ⟨answer, lost⟩ }⟩
  cases result with
  | ok value => exact ⟨value, won⟩
  | error e => cases ok

end TransceiverRegistry
