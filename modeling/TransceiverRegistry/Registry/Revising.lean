import TransceiverRegistry.Registry.Bounds
import TransceiverRegistry.Registry.LastWrite

/-!
# Room for a revision

A publication about a module is appended before the trim, so the statement it revises makes room
for it. A publication about a port is appended after a trim that only knows the stored statements:
at a full budget it is refused although it revises one of them.
-/

namespace TransceiverRegistry

open Lib

/-- A declaration about a port revises an earlier one (source
`trim_declarations(std::vector<CapabilityDeclaration>&, ...)`, the condition of the loop). -/
def portDeclarationCovers (other candidate : CapabilityDeclaration) : Bool :=
  other.source = candidate.source ∧ other.sourceEpoch = candidate.sourceEpoch ∧
  other.key = candidate.key ∧ other.subkey = candidate.subkey ∧
  candidate.sequence < other.sequence

/-- Later declarations cover earlier ones. -/
lemma portDeclarationCovers_covering : Covering portDeclarationCovers where
  irrefl a := by simp [portDeclarationCovers]
  trans a b c ab bc := by
    simp only [portDeclarationCovers, decide_eq_true_eq] at *
    obtain ⟨h1, h2, h3, h4, h5⟩ := ab
    obtain ⟨g1, g2, g3, g4, g5⟩ := bc
    exact ⟨h1.trans g1, h2.trans g2, h3.trans g3, h4.trans g4, UInt64.lt_trans g5 h5⟩

/-- The error of a full budget of a port (source
`trim_declarations(std::vector<CapabilityDeclaration>&, ...)`). -/
def portDeclarationsExhausted : Error :=
  makeError .capacityExceeded "port capability declaration budget is exhausted"

/-- The declarations of a port are refused exactly when those that no declaration revises exceed the
budget (source `trim_declarations(std::vector<CapabilityDeclaration>&, ...)`). -/
lemma trimPortDeclarations_eq_error {declarations : List CapabilityDeclaration} {maxTotal : UInt32}
    {e : Error} :
    trimPortDeclarations declarations maxTotal = .error e ↔ e = portDeclarationsExhausted ∧
      maxTotal.toNat < (uncovered portDeclarationCovers declarations).length :=
  eraseSuperseded_eq_error portDeclarationCovers_covering le_rfl

/-- The declarations a source epoch made about an attribute of a port. -/
def CapabilityDeclaration.statesOfPort (source : SourceId) (epoch : SourceEpoch)
    (key : CapabilityKey) (subkey : Bytes) (declaration : CapabilityDeclaration) : Bool :=
  declaration.source = source ∧ declaration.sourceEpoch = epoch ∧ declaration.key = key ∧
  declaration.subkey = subkey

/-- A publication that only a full budget can refuse (source the head of `publish_capability` and
`publish_port_capability`). -/
structure ValidPublication (s : State) (authority : AuthorityToken) (key : CapabilityKey)
    (subkey : Bytes) (value : CapabilityValue) (provenance : Provenance) : Prop where
  authority : requireAuthority s authority = .ok ()
  named : validateCapabilityKey key subkey = .ok ()
  valid : value.validateFor key = .ok ()
  evidence : provenance.Valid

/-- Some stored declaration of a port may give its place up: there is room, or one of them is
revised by another one (source `publish_port_capability`). -/
def PortRevisable (config : RegistryConfig) (record : PortRecord) : Prop :=
  record.declarations.length < config.maxDeclarationsPerPort.toNat ∨
    ∃ declaration ∈ record.declarations,
      portDeclarationIsSuperseded record.declarations declaration = true

/-- Some declaration of a module may give its place up: there is room, one of them is revised by
another one, or the next sequence number tells a declaration of the source from the new one (source
`publish_capability`). -/
def ModuleRevisable (config : RegistryConfig) (s : State) (record : ModuleRecord)
    (authority : AuthorityToken) (key : CapabilityKey) (subkey : Bytes) : Prop :=
  record.declarations.length < config.maxDeclarationsPerModule.toNat ∨
    (∃ declaration ∈ record.declarations,
      declarationIsSuperseded record.declarations declaration = true) ∨
    ∃ declaration ∈ record.declarations, declaration.states record.uid record.incarnation
      authority.source authority.epoch key subkey = true ∧ declaration.sequence ≠ s.nextSequence

variable {config : RegistryConfig} {clock : Clock} {s : State} {authority : AuthorityToken}
  {key : CapabilityKey} {subkey : Bytes} {value : CapabilityValue} {provenance : Provenance}
  {policy : MutationPolicy}

section Port

variable {port : PortKey} {record : PortRecord}

omit record in
/-- The budget a port is trimmed to before an insertion (source
`Registry::publish_port_capability`). -/
lemma portBudget_pred (positive : config.maxDeclarationsPerPort ≠ 0) :
    0 < config.maxDeclarationsPerPort.toNat ∧ (config.maxDeclarationsPerPort - 1).toNat =
      config.maxDeclarationsPerPort.toNat - 1 := by
  have one : 0 < config.maxDeclarationsPerPort.toNat :=
    Nat.pos_of_ne_zero fun zero => positive (UInt32.toNat_inj.1 zero)
  refine ⟨one, ?_⟩
  rw [UInt32.toNat_sub_of_le _ _ (by rw [UInt32.le_iff_toNat_le]; exact one), UInt32.toNat_one]

/-- The room a port makes is enough for one more declaration (source
`Registry::publish_port_capability`). -/
lemma portRoom_length_lt (positive : config.maxDeclarationsPerPort ≠ 0)
    {earlier : List CapabilityDeclaration} (room : portRoom config record = .ok earlier) :
    earlier.length < config.maxDeclarationsPerPort.toNat := by
  obtain ⟨one, pred⟩ := portBudget_pred positive
  unfold portRoom at room
  split at room
  · have fits := eraseSuperseded_length_le room
    rw [pred] at fits
    omega
  · rename_i less
    cases room
    exact Nat.not_le.1 less

/-- A port has no room exactly when its budget is full and no stored declaration is revised by
another one (source `Registry::publish_port_capability`). -/
lemma portRoom_eq_error (positive : config.maxDeclarationsPerPort ≠ 0)
    (bounded : record.declarations.length ≤ config.maxDeclarationsPerPort.toNat) {e : Error} :
    portRoom config record = .error e ↔
      e = portDeclarationsExhausted ∧ ¬ PortRevisable config record := by
  obtain ⟨one, pred⟩ := portBudget_pred positive
  have revised : (∃ declaration ∈ record.declarations,
      portDeclarationIsSuperseded record.declarations declaration = true) ↔
      record.declarations.any (isCovered portDeclarationCovers record.declarations) = true :=
    List.any_eq_true.symm
  have few : (uncovered portDeclarationCovers record.declarations).length ≤
    record.declarations.length := length_uncovered_le
  have all := @length_uncovered_eq_iff _ portDeclarationCovers record.declarations
  unfold portRoom PortRevisable
  rw [revised]
  split
  · rename_i full
    rw [trimPortDeclarations_eq_error, pred]
    refine and_congr_right fun _ => ?_
    rw [not_or, Bool.not_eq_true, ← all]
    omega
  · rename_i less
    simp [Nat.not_le.1 less]

/-- A valid publication about a known port is refused for want of room exactly when the budget of
the port is full and no stored declaration is revised by another one (source
`Registry::publish_port_capability`). -/
lemma publishPortCapability_outOfRoom (positive : config.maxDeclarationsPerPort ≠ 0)
    (bounded : record.declarations.length ≤ config.maxDeclarationsPerPort.toNat)
    (ready : ValidPublication s authority key subkey value provenance) (keyed : port.str ≠ [])
    (found : s.ports[port.str]? = some record) :
    OutOfRoom (publishPortCapability config clock authority port key subkey value provenance policy
      s) ↔ ¬ PortRevisable config record := by
  have refused (e : Error) :
      publishPortCapability config clock authority port key subkey value provenance policy s =
        .error e ↔ e = portDeclarationsExhausted ∧ ¬ PortRevisable config record := by
    have located : locatePort config clock port (nextSequence s).2 (s.generation + 1)
        (nextSequence s).1 = .ok record := by
      have found : (nextSequence s).2.ports[port.str]? = some record := found
      rw [locatePort, found]
    have authorised : requireAuthority (nextSequence s).2 authority = .ok () := ready.authority
    unfold publishPortCapability
    rw [ready.named, ok_bind, refuseIf_of_not keyed, ok_bind, ready.valid, ok_bind,
      (validateProvenance_eq_ok (u := ())).2 ready.evidence, ok_bind,
      mutate_eq_error (by simp), publishPortCapabilityBody, authorised, ok_bind, located, ok_bind,
      bind_eq_error, portRoom_eq_error positive bounded]
    refine or_iff_left ?_
    -- once there is room, the trim after the insertion finds its budget met
    rintro ⟨earlier, room, refused⟩
    have less := portRoom_length_lt positive room
    rw [bind_eq_error] at refused
    obtain refused | ⟨_, _, done⟩ := refused
    · have exceeds := (trimPortDeclarations_eq_error.1 refused).2
      have few := (@length_uncovered_le _ portDeclarationCovers _).trans_lt' exceeds
      rw [List.length_append, List.length_singleton] at few
      omega
    · cases done
  constructor
  · rintro ⟨e, h, _⟩
    exact ((refused e).1 h).2
  · intro full
    exact ⟨portDeclarationsExhausted, (refused _).2 ⟨rfl, full⟩, rfl⟩

end Port

section Module

variable {module : ModuleHandle} {record : ModuleRecord}

/-- Of two declarations of a source about an attribute, one covers the other exactly when their
sequence numbers differ (source `declaration_is_superseded`). -/
lemma declarationCovers_iff_ne {a b : CapabilityDeclaration} {uid : ModuleUid}
    {incarnation : IncarnationId} {source : SourceId} {epoch : SourceEpoch}
    (ha : a.states uid incarnation source epoch key subkey = true) :
    declarationCovers a b = true ∨ declarationCovers b a = true ↔
      b.states uid incarnation source epoch key subkey = true ∧ b.sequence ≠ a.sequence := by
  simp only [CapabilityDeclaration.states, decide_eq_true_eq] at ha
  obtain ⟨h1, h2, h3, h4, h5, h6⟩ := ha
  simp only [declarationCovers, CapabilityDeclaration.states, decide_eq_true_eq, h1, h2, h3, h4,
    h5, h6]
  constructor
  · rintro (⟨g3, g4, g5, g6, g1, g2, less⟩ | ⟨g3, g4, g5, g6, g1, g2, less⟩)
    · exact ⟨⟨g1.symm, g2.symm, g3.symm, g4.symm, g5.symm, g6.symm⟩, UInt64.ne_of_lt less⟩
    · exact ⟨⟨g1, g2, g3, g4, g5, g6⟩, (UInt64.ne_of_lt less).symm⟩
  · rintro ⟨⟨g1, g2, g3, g4, g5, g6⟩, differ⟩
    obtain less | less := UInt64.lt_or_lt_of_ne differ
    · exact .inl ⟨g3.symm, g4.symm, g5.symm, g6.symm, g1.symm, g2.symm, less⟩
    · exact .inr ⟨g3, g4, g5, g6, g1, g2, less⟩

variable [StdSort]

/-- A valid publication about a module is refused for want of room exactly when its budget is full,
no stored declaration is revised by another one, and the next sequence number is the one of every
declaration the source made about the attribute (source `Registry::publish_capability`). -/
lemma publishCapability_outOfRoom_iff (ready : Ready s authority module policy record)
    (bounded : record.declarations.length ≤ config.maxDeclarationsPerModule.toNat)
    (publication : ValidPublication s authority key subkey value provenance)
    (short : subkey.length ≤ 128) :
    OutOfRoom (publishCapability config clock authority module key subkey value provenance policy
      s) ↔ ¬ ModuleRevisable config s record authority key subkey := by
  rw [publishCapability_outOfRoom ready publication.named short publication.valid
    publication.evidence]
  let added := publishedDeclaration clock authority record key subkey value provenance s
  have own : added.states record.uid record.incarnation authority.source authority.epoch key
      subkey = true := by
    simp [added, CapabilityDeclaration.states, publishedDeclaration, moduleDeclaration]
  have revised : (∃ declaration ∈ record.declarations,
      declarationIsSuperseded record.declarations declaration = true) ↔
      record.declarations.any (isCovered declarationCovers record.declarations) = true :=
    List.any_eq_true.symm
  have related : (∃ declaration ∈ record.declarations, declaration.states record.uid
      record.incarnation authority.source authority.epoch key subkey = true ∧
        declaration.sequence ≠ s.nextSequence) ↔ ∃ declaration ∈ record.declarations,
      declarationCovers declaration added = true ∨ declarationCovers added declaration = true :=
    exists_congr fun declaration => and_congr_right fun _ =>
      (declarationCovers_iff_ne own).symm.trans Or.comm
  have few : (uncovered declarationCovers (record.declarations ++ [added])).length ≤
    (record.declarations ++ [added]).length := length_uncovered_le
  have all := @length_uncovered_eq_iff _ declarationCovers (record.declarations ++ [added])
  rw [← Bool.not_eq_true, any_isCovered_concat declarationCovers_covering] at all
  rw [List.length_append, List.length_singleton] at few all
  change _ < (uncovered declarationCovers (record.declarations ++ [added])).length ↔ _
  unfold ModuleRevisable
  rw [revised, related, not_or, ← all]
  omega

end Module

/-- In every reachable state, with budgets of at least one: a source that stated an attribute of a
port is not refused for want of room when it revises the statement exactly when there is room or
some stored declaration is revised by another one; and a source that stated an attribute of the
current incarnation of a module exactly when besides it is told from the new statement by its
sequence number (source `publish_capability`, `publish_port_capability`). -/
theorem revision_finds_room_iff [StdSort] (reached : Run (step config) Unguarded State.initial s)
    (capped : config.maxDeclarationsPerPort ≠ 0 ∧ config.maxDeclarationsPerModule ≠ 0)
    (publication : ValidPublication s authority key subkey value provenance) :
    (∀ (port : PortKey) (record : PortRecord), port.str ≠ [] →
      s.ports[port.str]? = some record →
      (∃ declaration ∈ record.declarations,
        declaration.statesOfPort authority.source authority.epoch key subkey = true) →
      (¬ OutOfRoom (publishPortCapability config clock authority port key subkey value provenance
        policy s) ↔ PortRevisable config record)) ∧
    (∀ (module : ModuleHandle) (record : ModuleRecord), subkey.length ≤ 128 →
      Ready s authority module policy record →
      (∃ declaration ∈ record.declarations, declaration.states record.uid record.incarnation
        authority.source authority.epoch key subkey = true) →
      (¬ OutOfRoom (publishCapability config clock authority module key subkey value provenance
        policy s) ↔ ModuleRevisable config s record authority key subkey)) := by
  have bounded : Bounded config s := Bounded.run reached
  constructor
  · intro port record keyed found stated
    rw [publishPortCapability_outOfRoom capped.1 (bounded.ports _ _ found) publication keyed found,
      not_not]
  · intro module record short ready stated
    have within := (bounded.modules _ _ ready.found).declarations
    rw [publishCapability_outOfRoom_iff ready within publication short, not_not]

/-- A port. -/
def portA : PortKey := TransceiverRegistry.key "pa" (by decide)

/-- Declare the number of lanes of the port in the name of the first source. -/
def declarePortLanes (lanes : Int64) : Call :=
  Operation.now (.publishPortCapability host portA .laneCount [] (.count lanes) hostEvidence
    .autoRetry)

/-- The first source stated the number of lanes of the port. -/
def showsPortLanes (s : State) : Bool :=
  sourceIsLive s 1 1 && s.ports[portA.str]?.any fun record =>
    record.declarations.any (·.statesOfPort 1 1 .laneCount [])

/-- The first source may publish a number of lanes. -/
lemma validPublication_of_live (live : sourceIsLive s 1 1 = true) (lanes : Int64)
    (valid : (CapabilityValue.count lanes).validateFor .laneCount = .ok ()) :
    ValidPublication s host .laneCount [] (.count lanes) hostEvidence where
  authority := requireAuthority_eq_ok.2 ⟨by simp [host], live⟩
  named := by decide
  valid := valid
  evidence := hostEvidence_valid

/-- With room for two declarations of a port and of a module, the source revises both. -/
theorem revision_finds_room_iff_twice : ∃ (s : State) (record : PortRecord) (module : ModuleRecord),
    s.ports[portA.str]? = some record ∧ record.declarations ≠ [] ∧
    s.modules[(1 : UInt64)]? = some module ∧ module.declarations ≠ [] ∧
    ¬ OutOfRoom (publishPortCapability { maxDeclarationsPerPort := 2 } stillClock host portA
      .laneCount [] (.count 8) hostEvidence .autoRetry s) ∧
    ¬ OutOfRoom (publishCapability { maxDeclarationsPerPort := 2 } stillClock host firstA
      .laneCount [] (.count 8) hostEvidence .autoRetry s) := by
  have stated : (runActions (step { maxDeclarationsPerPort := 2 }) [registerHost,
      registerBay bayA .ensureCurrent, declarePortLanes 4, declareLanes 4] State.initial).any
      (fun s => showsPortLanes s && s.ports[portA.str]?.any (·.declarations.length = 1) &&
        s.modules[(1 : UInt64)]?.any fun record => record.incarnation = 1 &&
          record.declarations.length = 1 && record.declarations.any
            (·.states record.uid record.incarnation 1 1 .laneCount [])) = true := by
    decide +kernel
  obtain ⟨s, reached, shows⟩ := Run.exists_ofActions stated
  simp only [showsPortLanes, Bool.and_eq_true, Option.any_eq_true, decide_eq_true_eq] at shows
  obtain ⟨⟨⟨live, record, found, own⟩, record', found', one⟩,
    module, located, ⟨current, single⟩, mine⟩ := shows
  obtain rfl : record = record' := Option.some.inj (found.symm.trans found')
  have publication := validPublication_of_live live 8 (by decide +kernel)
  obtain ⟨ofPort, ofModule⟩ := @revision_finds_room_iff _ stillClock _ _ _ _ _ _ .autoRetry _ reached
    (by decide) publication
  have ready : Ready s host firstA .autoRetry module :=
    ⟨publication.authority, located, current, fun fenced => absurd fenced.1 (by decide)⟩
  refine ⟨s, record, module, found, ?_, located, ?_, ?_, ?_⟩
  · rintro empty
    simp [empty] at one
  · rintro empty
    simp [empty] at single
  · refine (ofPort portA record (by decide) found (List.any_eq_true.1 own)).2 (.inl ?_)
    rw [one]
    decide
  · refine (ofModule firstA module (by decide) ready (List.any_eq_true.1 mine)).2 (.inl ?_)
    rw [single]
    decide

/-- With room for one declaration of a port, the source that made it cannot revise it (source
`Registry::publish_port_capability`, the trim before the insertion). -/
theorem port_revision_refused :
    ¬ ∀ (config : RegistryConfig) (clock : Clock) (s : State) (authority : AuthorityToken)
      (port : PortKey) (key : CapabilityKey) (subkey : Bytes) (value : CapabilityValue)
      (provenance : Provenance) (policy : MutationPolicy) (record : PortRecord),
      Run (step config) Unguarded State.initial s → config.maxDeclarationsPerPort ≠ 0 →
      ValidPublication s authority key subkey value provenance → port.str ≠ [] →
      s.ports[port.str]? = some record →
      (∃ declaration ∈ record.declarations,
        declaration.statesOfPort authority.source authority.epoch key subkey = true) →
      ¬ OutOfRoom (publishPortCapability config clock authority port key subkey value provenance
        policy s) := by
  intro h
  have stated : (runActions (step { maxDeclarationsPerPort := 1 }) [registerHost,
      declarePortLanes 4] State.initial).any (fun s => showsPortLanes s &&
        match publishPortCapability { maxDeclarationsPerPort := 1 } stillClock host portA
          .laneCount [] (.count 8) hostEvidence .autoRetry s with
        | .error e => e.code = .capacityExceeded
        | .ok _ => false) = true := by decide +kernel
  obtain ⟨s, reached, shows⟩ := Run.exists_ofActions stated
  simp only [showsPortLanes, Bool.and_eq_true, Option.any_eq_true] at shows
  obtain ⟨⟨live, record, found, own⟩, full⟩ := shows
  refine h { maxDeclarationsPerPort := 1 } stillClock s host portA .laneCount [] (.count 8)
    hostEvidence .autoRetry record reached (by decide)
    (validPublication_of_live live 8 (by decide +kernel)) (by decide) found
    (List.any_eq_true.1 own) ?_
  split at full
  · rename_i e refused
    exact ⟨e, refused, of_decide_eq_true full⟩
  · cases full

end TransceiverRegistry
