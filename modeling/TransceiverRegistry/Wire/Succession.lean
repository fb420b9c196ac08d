import TransceiverRegistry.Registry.Succession
import TransceiverRegistry.Wire.Race

/-!
# Answered calls in succession

What the clients of a server may rely on when a source or a module is replaced: as soon as one of them
was answered under a later epoch, or about a later incarnation, no call that begins after that is
answered with success under an earlier one, whichever client makes it.
-/

namespace TransceiverRegistry

open Lib

/-- The mutation that a call asks for (source `dispatch`). -/
def requestedOperation [StdSort] (op : Bytes) (params : Value) : Option Operation :=
  (mutationReader op).bind fun read => (read params).toOption

section Places

variable [StdSort] {setup : Setup} {service : Service} {options : ServerOptions} {start s : State}
  {op : Bytes} {params value : Value} {id : UInt64} {operation : Operation} {w : Net × List NetEvent}

/-- What happens to a server is a run of its registry (source `serve_connection`). -/
lemma run_replay (events : List WireEvent) :
    Run (step setup.config) Unguarded s (events.foldl (WireEvent.replay setup) s) := by
  induction events generalizing s with
  | nil => exact .start
  | cons event events ih =>
    refine Run.trans ?_ ih
    cases event with
    | handled i frame readings sent => exact run_serveFrame .start frame
    | called call =>
      rw [WireEvent.replay]
      cases taken : step setup.config s call with
      | none => exact .start
      | some s' => exact .next .start trivial taken
    | arrived | taken => exact .start

/-- A mutation that succeeds commits (source `dispatch`, `RegistryImpl::mutate`). -/
lemma step_of_resultSeen (asked : requestedOperation op params = some operation)
    (seen : resultSeen service s (callRequest id op params) = .ok value) :
    ∃ s', step service.config s ⟨operation, service.clock⟩ = some s' := by
  obtain ⟨read, mutates, is⟩ := Option.bind_eq_some_iff.1 asked
  unfold resultSeen at seen
  cases outcome : resultOf service s (callRequest id op params) with
  | error e =>
    rw [outcome] at seen
    cases seen
  | ok accepted =>
    obtain ⟨_, _, carried⟩ := bind_eq_ok.1 outcome
    obtain ⟨name, named, _⟩ := bind_eq_ok.1 carried
    obtain rfl := requestOp_callRequest named
    obtain ⟨operation', is', done⟩ := (resultOf_mutation named mutates).1 outcome
    rw [paramsOf_callRequest] at is'
    rw [is'] at is
    obtain rfl : operation' = operation := Option.some.inj is
    exact ⟨_, perform_step done⟩

/-- A call that begins later is carried out later (source `Client::call`). -/
lemma Linked.carried_after (linked : Linked setup options start w) {j : Nat}
    {front later earlier rest : List NetEvent} {readings : Readings} {sent : Bytes}
    (split : w.2 = front ++ later) (begun : .begun j id op params ∈ later)
    (place : w.2 = earlier ++
      .hub (.handled j (requestFrame (id, op, params)) readings sent) :: rest) :
    front <+: earlier := by
  have within : front <+: w.2 := ⟨later, split.symm⟩
  have within' : earlier <+: w.2 := ⟨_, place.symm⟩
  rcases List.prefix_or_prefix_of_prefix within within' with first | ⟨more, first⟩
  · exact first
  · -- its number was given out before the front ended, and once more after it
    obtain ⟨asked, -⟩ := linked.caused _ _ _ place
    obtain ⟨a, member, same⟩ := List.mem_map.1 asked
    have number : a.1 = id := callRequest_id (congrArg Frame.body same)
    obtain ⟨before, after, rfl⟩ := List.append_of_mem begun
    have whole : w.2 = (front ++ before) ++ .begun j id op params :: after := by
      rw [split, List.append_assoc]
    have fresh := linked.caused _ _ _ whole
    refine absurd (List.mem_map.2 ⟨a, ?_, number⟩) fresh
    rw [← first, List.append_assoc, List.flatMap_append]
    exact List.mem_append_left _ member

end Places

/-- Attach the first incarnation of the module `A` in an epoch of the first source, under a
generation. -/
def attachUnder (epoch : SourceEpoch) (generation : Generation) (slot : String) : Value := codecObject
  [("authority", encode (⟨1, epoch⟩ : AuthorityToken)),
    ("module", encode (⟨1, 1, generation, bayA⟩ : ModuleHandle)), ("slot", .text (text slot))]

/-- The first call of a client asks for a mutation in an epoch of the first source. -/
def beginsUnder (i : Nat) (epoch : SourceEpoch) : NetEvent → Bool
  | .begun j id op params => j = i ∧ id = 1 ∧
      ((requestedOperation op params).bind Operation.authority) = some ⟨1, epoch⟩
  | _ => false

/-- What was found to begin. -/
lemma exists_of_beginsUnder {h : List NetEvent} {i : Nat} {epoch : SourceEpoch}
    (found : h.any (beginsUnder i epoch) = true) :
    ∃ op params operation, requestedOperation op params = some operation ∧
      operation.authority = some ⟨1, epoch⟩ ∧ .begun i 1 op params ∈ h := by
  obtain ⟨event, member, begins⟩ := List.any_eq_true.1 found
  cases event with
  | begun j id op params =>
    obtain ⟨rfl, rfl, under⟩ := of_decide_eq_true begins
    obtain ⟨operation, asked, authority⟩ := Option.bind_eq_some_iff.1 under
    exact ⟨op, params, operation, asked, authority, member⟩
  | hub | finished => cases begins

end TransceiverRegistry
