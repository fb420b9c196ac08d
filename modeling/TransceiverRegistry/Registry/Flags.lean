import TransceiverRegistry.Registry.TableStep

/-!
# The flags of stored statements

A stored claim or declaration has a flag that says that it is live. Every statement is stored with
the flag set, and no operation clears it when the statement is revised, its source starts a new
epoch or its module is replaced.
-/

namespace TransceiverRegistry

open Lib

/-- The claims and declarations of a module carry the flag of a live one. -/
structure ModuleRecord.Flagged (record : ModuleRecord) : Prop where
  claims : ∀ claim ∈ record.claims, claim.live = true
  declarations : ∀ declaration ∈ record.declarations, declaration.live = true

/-- The claims and declarations of all modules carry the flag of a live one. -/
def FlagsSet (modules : ModuleTable) : Prop :=
  ∀ (uid : ModuleUid) record, modules[uid]? = some record → record.Flagged

section Writes

variable {record : ModuleRecord} {modules : ModuleTable}

/-- No module has a flag that is cleared before there is one. -/
lemma FlagsSet.empty : FlagsSet ∅ := by
  intro uid record found
  rw [Std.ExtTreeMap.getElem?_empty] at found
  cases found

/-- A module that is written with its flags set keeps those of all modules. -/
lemma FlagsSet.insert (flags : FlagsSet modules) {uid : ModuleUid} (flagged : record.Flagged) :
    FlagsSet (modules.insert uid record) := by
  intro uid' record' found
  obtain ⟨_, rfl⟩ | ⟨_, old⟩ := getElem?_insert_iff.1 found
  · exact flagged
  · exact flags uid' record' old

/-- Claims are added with the flag set (source `Registry::register_module`,
`Registry::update_identity`). -/
lemma claims_flagged [StdSort] {earlier added claims : List IdentityClaim}
    {maxTotal maxHistory : UInt32}
    (trim : trimClaims (earlier ++ added) maxTotal maxHistory = .ok claims)
    (before : ∀ claim ∈ earlier, claim.live = true) (new : ∀ claim ∈ added, claim.live = true) :
    ∀ claim ∈ claims, claim.live = true := by
  intro claim member
  obtain inside | inside := List.mem_append.1 ((trimClaims_sublist trim).subset member)
  · exact before claim inside
  · exact new claim inside

end Writes

section Run

variable [StdSort] {config : RegistryConfig} {clock : Clock} {s s' : State}
  {generation : Generation} {sequence : Sequence} {authority : AuthorityToken}

/-- A registration sets the flags of the claims it adds (source `Registry::register_module`). -/
lemma FlagsSet.registerModule (flags : FlagsSet s.modules) {registration : ModuleRegistration}
    {handle : ModuleHandle}
    (run : registerModuleBody config clock registration authority s generation sequence =
      .ok (s', handle)) : FlagsSet s'.modules := by
  obtain ⟨_, t, uid, located, record, claims, locate, settle, trim, rfl⟩ :=
    registerModuleBody_inv run
  have kept : FlagsSet t.modules ∧ located.Flagged := by
    obtain ⟨_, _, _, rfl, rfl⟩ | ⟨before, _, found, ⟨_, _, _, rfl, rfl⟩ | ⟨_, replaced⟩⟩ :=
      locateModule_inv locate
    · have blank : (discoveredModule authority generation sequence (clock.wallNowNs 0)
          registration.key uid).Flagged :=
        ⟨fun _ member => (List.not_mem_nil member).elim,
          fun _ member => (List.not_mem_nil member).elim⟩
      exact ⟨flags.insert blank, blank⟩
    · exact ⟨flags, flags _ _ found⟩
    · obtain ⟨_, rfl, rfl⟩ := replaceIncarnation_inv replaced
      exact ⟨flags, (flags _ _ found).claims, (flags _ _ found).declarations⟩
  have settled : record.Flagged := by
    obtain ⟨_, rfl⟩ | ⟨_, rfl⟩ := settleDiscovered_inv settle
    · exact ⟨kept.2.claims, kept.2.declarations⟩
    · exact kept.2
  refine kept.1.insert ⟨claims_flagged trim settled.claims fun claim member => ?_,
    settled.declarations⟩
  obtain ⟨_, _, rfl⟩ := List.mem_map.1 member
  rfl

/-- The body of an operation keeps the flags set. -/
lemma FlagsSet.body (flags : FlagsSet s.modules) {operation : Operation}
    (run : operation.body config clock s generation sequence = .ok s') : FlagsSet s'.modules := by
  have moves {module : ModuleHandle} {record : ModuleRecord}
      (found : s.modules[module.uid]? = some record) (event : LifecycleEvent) :
      FlagsSet (s.modules.insert module.uid (record.move config event)) :=
    flags.insert ⟨(flags _ _ found).claims, (flags _ _ found).declarations⟩
  cases operation <;> rw [Operation.body, fst_map_eq_ok] at run <;> obtain ⟨result, run⟩ := run
  case registerSource =>
    obtain ⟨_, _, _, _, _, _, rfl⟩ | ⟨_, _, _, rfl⟩ := registerSourceBody_inv run <;> exact flags
  case registerModule => exact flags.registerModule run
  case updateIdentity =>
    obtain ⟨_, record, claims, found, trim, rfl⟩ := updateIdentityBody_inv run
    refine flags.insert ⟨claims_flagged trim (flags _ _ found).claims fun claim member => ?_,
      (flags _ _ found).declarations⟩
    rw [List.mem_singleton.1 member]
    rfl
  case publishCapability =>
    obtain ⟨_, record, declarations, found, trim, rfl⟩ := publishCapabilityBody_inv run
    refine flags.insert ⟨(flags _ _ found).claims, fun declaration member => ?_⟩
    obtain old | new := List.mem_append.1 ((trimDeclarations_sublist trim).subset member)
    · exact (flags _ _ found).declarations declaration old
    · rw [List.mem_singleton.1 new]
      rfl
  case publishPortCapability =>
    obtain ⟨_, _, _, _, _, _, _, rfl⟩ := publishPortCapabilityBody_inv run
    exact flags
  case attach =>
    obtain ⟨_, record, found, _, ⟨_, _, rfl⟩ | ⟨_, _, _, _, rfl⟩⟩ := attachBody_inv run
    · exact flags
    · split
      · exact moves found _
      · exact flags.insert (flags _ _ found)
  case detach =>
    obtain ⟨_, attachment, _, _, rfl⟩ := detachBody_inv run
    split
    · rename_i record found
      split
      · exact flags.insert ⟨(flags _ _ found).claims, (flags _ _ found).declarations⟩
      · exact flags
    · exact flags
  case ingestHealth =>
    obtain ⟨_, record, _, _, found, _, _, _, _, _, _, rfl⟩ := ingestHealthBody_inv run
    exact flags.insert ⟨(flags _ _ found).claims, (flags _ _ found).declarations⟩
  case publishThreshold =>
    obtain ⟨_, _, rfl⟩ := publishThresholdBody_inv run
    exact flags
  case publishRule =>
    obtain ⟨_, _, rfl⟩ := publishRuleBody_inv run
    exact flags
  case retireRule =>
    obtain ⟨_, _, _, _, rfl⟩ := retireRuleBody_inv run
    exact flags
  case transition =>
    obtain ⟨_, record, found, _, _, _, rfl⟩ := transitionBody_inv run
    exact moves found _
  case reconcileLifecycle =>
    obtain ⟨_, record, _, found, _, _, ⟨_, rfl⟩ | ⟨_, _, _, rfl⟩⟩ := reconcileLifecycleBody_inv run
    · exact flags
    · exact moves found _

/-- A step keeps the flags set (source `RegistryImpl::mutate`). -/
lemma FlagsSet.step (flags : FlagsSet s.modules) {call : Call}
    (taken : step config s call = some s') : FlagsSet s'.modules := by
  obtain ⟨_, next, run, rfl⟩ := step_eq_some taken
  have kept : FlagsSet next.modules := FlagsSet.body (s := (nextSequence s).2) flags run
  exact kept

end Run

end TransceiverRegistry
