import TransceiverRegistry.Registry.Inversion

/-!
# What the operations leave alone

The counters and the thresholds belong to one operation each, or to none: the bodies of the other
operations do not change them.
-/

namespace TransceiverRegistry

open Lib

/-- The operation ingests a sample (source `Registry::ingest_health`). -/
def Operation.ingests : Operation → Bool
  | .ingestHealth _ _ _ _ => true
  | _ => false

/-- The operation publishes a threshold (source `Registry::publish_threshold`). -/
def Operation.setsPolicy : Operation → Bool
  | .publishThreshold _ _ _ => true
  | _ => false

/-- What a body keeps of the state, up to the business of its operation. -/
structure Framed (operation : Operation) (s next : State) : Prop where
  nextSequence : next.nextSequence = s.nextSequence
  droppedSamples : operation.ingests = false → next.droppedSamples = s.droppedSamples
  thresholds : operation.setsPolicy = false → next.thresholds = s.thresholds

variable [StdSort] {config : RegistryConfig} {clock : Clock} {s next : State}
  {generation : Generation} {sequence : Sequence}

/-- A body keeps what is not the business of its operation. -/
lemma framed_of_body {operation : Operation}
    (run : operation.body config clock s generation sequence = .ok next) :
    Framed operation s next := by
  cases operation <;> rw [Operation.body, fst_map_eq_ok] at run <;> obtain ⟨result, run⟩ := run
  case registerSource =>
    obtain ⟨_, _, _, _, _, _, rfl⟩ | ⟨_, _, _, rfl⟩ := registerSourceBody_inv run <;>
      exact ⟨rfl, fun _ => rfl, fun _ => rfl⟩
  case registerModule =>
    obtain ⟨_, t, _, _, _, _, locate, _, _, rfl⟩ := registerModuleBody_inv run
    have located : t.nextSequence = s.nextSequence ∧ t.droppedSamples = s.droppedSamples ∧
        t.thresholds = s.thresholds := by
      obtain ⟨_, _, _, _, state⟩ | ⟨_, _, _, ⟨_, _, _, rfl, _⟩ | ⟨_, replaced⟩⟩ :=
        locateModule_inv locate
      · rw [state]
        exact ⟨rfl, rfl, rfl⟩
      · exact ⟨rfl, rfl, rfl⟩
      · obtain ⟨_, rfl, _⟩ := replaceIncarnation_inv replaced
        exact ⟨rfl, rfl, rfl⟩
    exact ⟨located.1, fun _ => located.2.1, fun _ => located.2.2⟩
  case updateIdentity =>
    obtain ⟨_, _, _, _, _, rfl⟩ := updateIdentityBody_inv run
    exact ⟨rfl, fun _ => rfl, fun _ => rfl⟩
  case publishCapability =>
    obtain ⟨_, _, _, _, _, rfl⟩ := publishCapabilityBody_inv run
    exact ⟨rfl, fun _ => rfl, fun _ => rfl⟩
  case publishPortCapability =>
    obtain ⟨_, _, _, _, _, _, _, rfl⟩ := publishPortCapabilityBody_inv run
    exact ⟨rfl, fun _ => rfl, fun _ => rfl⟩
  case attach =>
    obtain ⟨_, _, _, _, ⟨_, _, rfl⟩ | ⟨_, _, _, _, rfl⟩⟩ := attachBody_inv run <;>
      exact ⟨rfl, fun _ => rfl, fun _ => rfl⟩
  case detach =>
    obtain ⟨_, _, _, _, rfl⟩ := detachBody_inv run
    exact ⟨rfl, fun _ => rfl, fun _ => rfl⟩
  case ingestHealth =>
    obtain ⟨_, _, _, _, _, _, _, _, _, _, _, rfl⟩ := ingestHealthBody_inv run
    exact ⟨rfl, fun other => Bool.noConfusion other, fun _ => rfl⟩
  case publishThreshold =>
    obtain ⟨_, _, rfl⟩ := publishThresholdBody_inv run
    exact ⟨rfl, fun _ => rfl, fun other => Bool.noConfusion other⟩
  case publishRule =>
    obtain ⟨_, _, rfl⟩ := publishRuleBody_inv run
    exact ⟨rfl, fun _ => rfl, fun _ => rfl⟩
  case retireRule =>
    obtain ⟨_, _, _, _, rfl⟩ := retireRuleBody_inv run
    exact ⟨rfl, fun _ => rfl, fun _ => rfl⟩
  case transition =>
    obtain ⟨_, _, _, _, _, _, rfl⟩ := transitionBody_inv run
    exact ⟨rfl, fun _ => rfl, fun _ => rfl⟩
  case reconcileLifecycle =>
    obtain ⟨_, _, _, _, _, _, ⟨_, rfl⟩ | ⟨_, _, _, rfl⟩⟩ := reconcileLifecycleBody_inv run <;>
      exact ⟨rfl, fun _ => rfl, fun _ => rfl⟩

end TransceiverRegistry
