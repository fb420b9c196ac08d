import TransceiverRegistry.Registry.Revising

/-!
# The statements of the ports as a ledger

The declarations of the ports are a ledger too: the call that publishes one makes room on the page of
its port and cuts the page again, and no other call touches the ports. A port has no incarnations, so
its page stays in one era.
-/

namespace TransceiverRegistry

open Lib

/-- What the ledger of the port declarations reads of a declaration; a port has one era. -/
def portLabels : Labels Bytes (CapabilityKey × Bytes × SourceId × SourceEpoch)
    CapabilityDeclaration where
  owner := (·.port.str)
  era _ := 0
  stamp := (·.sequence.toNat)
  group := declarationGroup

/-- What the ports hold, as the pages of a ledger. -/
def portPages (s : State) (port : Bytes) : Option (Page CapabilityDeclaration) :=
  s.ports[port]?.map fun record => ⟨0, record.declarations⟩

/-- The port declarations a successful call brings (source `Registry::publish_port_capability`). -/
def acceptedPortDeclarations (s : State) (call : Call) (_ : State) : List CapabilityDeclaration :=
  match call.operation with
  | .publishPortCapability authority port key subkey value provenance _ =>
    [portDeclaration call.clock authority (s.generation + 1) s.nextSequence port key subkey value
      provenance]
  | _ => []

/-- The operation declares a capability of a port (source `Registry::publish_port_capability`). -/
def Operation.declaresPort : Operation → Bool
  | .publishPortCapability _ _ _ _ _ _ _ => true
  | _ => false

variable {config : RegistryConfig} {s s' : State}

/-- A later declaration about a port covers an earlier one of its group. -/
lemma portDeclarationCovers_narrow (a b : CapabilityDeclaration)
    (h : portDeclarationCovers a b = true) :
    portLabels.group a = portLabels.group b ∧ portLabels.stamp b < portLabels.stamp a := by
  simp only [portDeclarationCovers, decide_eq_true_eq] at h
  obtain ⟨source, epoch, key, subkey, later⟩ := h
  exact ⟨by simp [portLabels, declarationGroup, *], UInt64.lt_iff_toNat_lt.1 later⟩

/-- Erasing what is revised only cuts (source
`trim_declarations(std::vector<CapabilityDeclaration>&, ...)`). -/
lemma trimPortDeclarations_cut {declarations kept : List CapabilityDeclaration} {maxTotal : UInt32}
    (trim : trimPortDeclarations declarations maxTotal = .ok kept) :
    portLabels.Cut declarations kept where
  sublist := eraseSuperseded_sublist trim
  newest front a back parts newest := by
    subst parts
    have bare : a ∈ uncovered portDeclarationCovers kept := by
      rw [eraseSuperseded_uncovered portDeclarationCovers_covering trim]
      exact mem_uncovered.2 ⟨by simp, not_isCovered_of_newest portDeclarationCovers_covering
        portDeclarationCovers_narrow newest⟩
    exact (mem_uncovered.1 bare).1

/-- A port with room for one more declaration was only cut (source
`Registry::publish_port_capability`). -/
lemma portRoom_cut {record : PortRecord} {earlier : List CapabilityDeclaration}
    (room : portRoom config record = .ok earlier) :
    portLabels.Cut record.declarations earlier := by
  unfold portRoom at room
  split at room
  · exact trimPortDeclarations_cut room
  · cases room
    exact .refl _

variable [StdSort]

/-- A body keeps the ports unless its operation declares a capability of one. -/
lemma ports_of_body {clock : Clock} {generation : Generation} {sequence : Sequence} {next : State}
    {operation : Operation} (other : operation.declaresPort = false)
    (run : operation.body config clock s generation sequence = .ok next) :
    next.ports = s.ports := by
  cases operation <;> rw [Operation.body, fst_map_eq_ok] at run <;> obtain ⟨result, run⟩ := run
  case registerSource =>
    obtain ⟨_, _, _, _, _, _, rfl⟩ | ⟨_, _, _, rfl⟩ := registerSourceBody_inv run <;> rfl
  case registerModule =>
    obtain ⟨_, t, _, _, _, _, locate, _, _, rfl⟩ := registerModuleBody_inv run
    obtain ⟨_, _, _, _, state⟩ | ⟨_, _, _, ⟨_, _, _, rfl, _⟩ | ⟨_, replaced⟩⟩ :=
      locateModule_inv locate
    · rw [state]
    · rfl
    · obtain ⟨_, rfl, _⟩ := replaceIncarnation_inv replaced
      rfl
  case updateIdentity =>
    obtain ⟨_, _, _, _, _, rfl⟩ := updateIdentityBody_inv run
    rfl
  case publishCapability =>
    obtain ⟨_, _, _, _, _, rfl⟩ := publishCapabilityBody_inv run
    rfl
  case publishPortCapability => cases other
  case attach =>
    obtain ⟨_, _, _, _, ⟨_, _, rfl⟩ | ⟨_, _, _, _, rfl⟩⟩ := attachBody_inv run <;> rfl
  case detach =>
    obtain ⟨_, _, _, _, rfl⟩ := detachBody_inv run
    rfl
  case ingestHealth =>
    obtain ⟨_, _, _, _, _, _, _, _, _, _, _, rfl⟩ := ingestHealthBody_inv run
    rfl
  case publishThreshold =>
    obtain ⟨_, _, rfl⟩ := publishThresholdBody_inv run
    rfl
  case publishRule =>
    obtain ⟨_, _, rfl⟩ := publishRuleBody_inv run
    rfl
  case retireRule =>
    obtain ⟨_, _, _, _, rfl⟩ := retireRuleBody_inv run
    rfl
  case transition =>
    obtain ⟨_, _, _, _, _, _, rfl⟩ := transitionBody_inv run
    rfl
  case reconcileLifecycle =>
    obtain ⟨_, _, _, _, _, _, ⟨_, rfl⟩ | ⟨_, _, _, rfl⟩⟩ := reconcileLifecycleBody_inv run <;> rfl

/-- A successful call posts the port declarations it brings (source
`Registry::publish_port_capability`). -/
lemma posts_portDeclarations {call : Call} (taken : step config s call = some s') :
    portLabels.Posts (portPages s) (portPages s') s.nextSequence.toNat
      (acceptedPortDeclarations s call s') := by
  obtain ⟨_, next, run, rfl⟩ := step_eq_some taken
  cases other : call.operation.declaresPort with
  | false =>
    have quiet : acceptedPortDeclarations s call (next.publish (s.generation + 1)) = [] := by
      obtain ⟨operation, clock⟩ := call
      cases operation <;> first | rfl | cases other
    have kept : next.ports = s.ports := ports_of_body (s := (nextSequence s).2) other run
    rw [quiet]
    refine .nothing (funext fun port => ?_)
    rw [portPages, portPages, ← kept]
    rfl
  | true =>
    obtain ⟨operation, clock⟩ := call
    cases operation
    case publishPortCapability authority port key subkey value provenance policy _ =>
      rw [Operation.body, fst_map_eq_ok] at run
      obtain ⟨_, run⟩ := run
      simp only [publishPortCapabilityBody, bind_eq_ok] at run
      obtain ⟨_, _, record, locate, earlier, room, declarations, trim, e⟩ := run
      cases e
      have written : portPages (State.publish { (nextSequence s).2 with
          ports := (nextSequence s).2.ports.insert port.str { record with declarations } }
          (s.generation + 1)) =
          Function.update (portPages s) port.str (some ⟨0, declarations⟩) := by
        funext i
        show (Std.ExtTreeMap.insert s.ports port.str { record with declarations })[i]?.map _ = _
        rw [Std.ExtTreeMap.getElem?_insert, Function.update_apply]
        by_cases here : port.str = i
        · subst here
          rw [if_pos (by simp), if_pos rfl, Option.map_some]
        · rw [if_neg (by simpa using here), if_neg (Ne.symm here), portPages]
      rw [written]
      refine .update record.declarations ?_
        ((portRoom_cut room).trans (trimPortDeclarations_cut trim)) ?_ (List.pairwise_singleton _ _)
      · obtain found | ⟨absent, _, rfl⟩ := locatePort_inv locate
        · exact .inr ⟨0, congrArg (Option.map _) found, le_rfl⟩
        · exact .inl ⟨congrArg (Option.map _) absent, rfl⟩
      · intro a member
        obtain rfl := List.mem_singleton.1 member
        exact ⟨rfl, rfl, rfl⟩
    all_goals cases other

omit [StdSort] in
/-- The port declarations of a call name no module (source `Registry::publish_port_capability`). -/
lemma acceptedPortDeclarations_module {call : Call} {declaration : CapabilityDeclaration}
    (member : declaration ∈ acceptedPortDeclarations s call s') :
    declaration.module = 0 ∧ declaration.incarnation = 0 := by
  unfold acceptedPortDeclarations at member
  split at member
  · obtain rfl := List.mem_singleton.1 member
    exact ⟨rfl, rfl⟩
  · cases member

/-- Along a run without a wrap the declarations of the ports are the pages of the ledger of all
accepted port declarations. -/
lemma holds_portDeclarations {w : State × List CapabilityDeclaration}
    (reached : Run (withHistory (step config) acceptedPortDeclarations) (fun w _ => NoWrap w.1)
      (State.initial, []) w) :
    portLabels.Holds (portPages w.1) w.1.nextSequence.toNat w.2 ∧
      ∀ declaration ∈ w.2, declaration.module = 0 ∧ declaration.incarnation = 0 := by
  refine reached.invariant (fun w => portLabels.Holds (portPages w.1) w.1.nextSequence.toNat w.2 ∧
    ∀ declaration ∈ w.2, declaration.module = 0 ∧ declaration.incarnation = 0) ?_ ?_
  · exact ⟨.empty fun port => by simp [portPages, State.initial], by simp⟩
  · rintro w call w' ⟨holds, modules⟩ noWrap moved
    obtain ⟨taken, log⟩ := withHistory_eq_some.1 moved
    rw [log]
    refine ⟨holds.post (posts_portDeclarations taken) (noWrap.grows taken),
      fun declaration member => ?_⟩
    obtain old | new := List.mem_append.1 member
    · exact modules declaration old
    · exact acceptedPortDeclarations_module new

end TransceiverRegistry
