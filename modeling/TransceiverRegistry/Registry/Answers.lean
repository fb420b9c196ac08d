import TransceiverRegistry.Lib.Panel
import TransceiverRegistry.Registry.Fencing
import TransceiverRegistry.Registry.PortStatements

/-!
# What the answers say

For a reader the registry is simple: about every attribute a source has said something last, the sources
at their current epochs are heard, and the attribute is known when they agree. The registry stores
statements that it trims, marks, groups, sorts and compares; what it answers is what the panel of the
last words gives.
-/

namespace TransceiverRegistry

open Lib

/-- A speaker is heard: a source at its current epoch (source `source_is_live`). -/
def State.hears (s : State) (who : SourceId × SourceEpoch) : Bool := sourceIsLive s who.1 who.2

/-- What the sources said last about a field of a module incarnation. -/
def identityPanel (s : State) (log : List IdentityClaim) (uid : ModuleUid)
    (incarnation : IncarnationId) (k : IdentityField × Bytes) :
    Panel (SourceId × SourceEpoch) Bytes :=
  lastWords s.hears claimReading.author claimReading.value
    (saidAbout claimLabels IdentityClaim.subject uid incarnation.toNat k log)

/-- What the sources said last about an attribute of a module incarnation. -/
def capabilityPanel (s : State) (log : List CapabilityDeclaration) (uid : ModuleUid)
    (incarnation : IncarnationId) (k : CapabilityKey × Bytes) :
    Panel (SourceId × SourceEpoch) CapabilityValue :=
  lastWords s.hears declarationReading.author declarationReading.value
    (saidAbout declarationLabels CapabilityDeclaration.subject uid incarnation.toNat k log)

/-- What the sources said last about an attribute of a port. -/
def portPanel (s : State) (log : List CapabilityDeclaration) (port : PortKey)
    (k : CapabilityKey × Bytes) : Panel (SourceId × SourceEpoch) CapabilityValue :=
  lastWords s.hears declarationReading.author declarationReading.value
    (saidAbout portLabels CapabilityDeclaration.subject port.str 0 k log)

section Tally

variable {α β : Type} {R : Reading α β} {group : List α}
  {panel : Panel (SourceId × SourceEpoch) β}

/-- The tally of statements whose live ones list a panel answers as the panel does (source
`build_identity_consensus`, `build_capability_consensus`, the body of the loops). -/
lemma Reading.tally_answers (symm : ∀ u v, R.equal u v = true → R.equal v u = true)
    (trans : ∀ u v w, R.equal u v = true → R.equal v w = true → R.equal u w = true)
    (lists : panel.Lists R.author R.value (group.filter R.live)) :
    panel.Answers (fun u v => R.equal u v = true) (R.summary group) := by
  rw [summary]
  have sorted : panel.Lists R.author R.value (R.liveSorted group) :=
    lists.perm (stableSort_perm _ _).symm
  have compared : R.tally group =
      R.compare (R.liveSorted group) (stableSort R.bySequence (R.fencedSorted group)) := by
    rw [tally, newestPerAuthor_of_apart sorted.apart]
  have agrees : panel.Agrees (fun u v => R.equal u v = true) ↔ R.Agree (R.liveSorted group) :=
    sorted.agrees_iff symm
  obtain ⟨conflicting, hasValue⟩ := compare_spec symm trans (R.liveSorted group)
    (stableSort R.bySequence (R.fencedSorted group))
  rw [← compared] at conflicting hasValue
  refine ⟨?_, fun known => ?_, ?_⟩
  · rw [hasValue, sorted.speaks_iff, agrees]
  · obtain ⟨some, agree⟩ := hasValue.1 known
    obtain ⟨first, rest, parts⟩ := List.exists_cons_of_ne_nil some
    have value : (R.tally group).value = R.value first := by
      have verdict := tally_agreeing symm trans sorted.apart agree (v := R.value first)
        (by rw [parts]; rfl)
      rw [Tally.verdict, if_pos known] at verdict
      exact Option.some.inj verdict
    have head : first ∈ R.liveSorted group := by rw [parts]; exact List.mem_cons_self
    refine ⟨⟨R.author first, by rw [value]; exact sorted.of_mem head⟩, fun who v spoke => ?_⟩
    obtain ⟨a, member, _, rfl⟩ := sorted.exists_mem spoke
    rw [parts, List.mem_cons] at member
    rw [parts] at agree
    obtain rfl | later := member
    · exact .inl value.symm
    · exact .inr (value ▸ (List.pairwise_cons.1 agree).1 a later)
  · rw [decide_eq_true_iff, conflicting, agrees]

/-- The live ones of marked statements about an attribute. -/
lemma withKey_marked {κ : Type} [DecidableEq κ] {subject : α → κ} {live : α → Bool} {l : List α}
    (mark : Bool → α → α) (own : ∀ b a, live (mark b a) = b)
    (kept : ∀ b a, subject (mark b a) = subject a) (about judged covered : α → Bool) (k : κ) :
    (withKey subject ((l.filter about).map fun a => mark (judged a && !covered a) a) k).filter live =
      (l.filter fun a => about a = true ∧ subject a = k ∧ judged a = true ∧
        covered a = false).map (mark true) := by
  have keys : (fun a => decide (subject a = k)) ∘ mark true = fun a => decide (subject a = k) :=
    funext fun a => by rw [Function.comp_apply, kept]
  rw [withKey, List.filter_comm, filter_marked mark own, List.filter_map, keys, List.filter_filter,
    List.filter_filter]
  refine congrArg _ (List.filter_congr fun a _ => ?_)
  cases about a <;> cases judged a <;> cases covered a <;> simp

end Tally

section Pages

variable {α β ι κ ε : Type} [DecidableEq ι] [DecidableEq ε] {L : Labels ι κ α} {R : Reading α β}
  {subject : α → ε} {book : ι → Option (Page α)} {next : Nat} {log : List α} {i : ι} {page : Page α}

/-- The live ones of the marked entries of a page about an attribute list the last words about it
(source `live_claims`, `live_declarations`, `live_port_declarations`). -/
lemma marked_list (holds : L.Holds book next log) (found : book i = some page)
    (group : ∀ a b, L.group a = L.group b ↔ R.author a = R.author b ∧ subject a = subject b)
    (heard : SourceId × SourceEpoch → Bool) (mark : Bool → α → α)
    (own : ∀ b a, R.live (mark b a) = b) (same : ∀ b a, subject (mark b a) = subject a ∧
      R.author (mark b a) = R.author a ∧ R.value (mark b a) = R.value a)
    {about judged covered : α → Bool} (current : ∀ a, about a = true ↔ L.era a = page.era)
    (hears : ∀ a, judged a = heard (R.author a))
    (covers : ∀ a ∈ page.kept, L.era a = page.era → (covered a = true ↔
      ∃ b ∈ page.kept, L.group b = L.group a ∧ L.era b = page.era ∧ L.stamp a < L.stamp b))
    (k : ε) :
    (lastWords heard R.author R.value (saidAbout L subject i page.era k log)).Lists R.author
      R.value ((withKey subject
        ((page.kept.filter about).map fun a => mark (judged a && !covered a) a) k).filter R.live) := by
  have lists : (lastWords heard R.author R.value (saidAbout L subject i page.era k log)).Lists R.author
      R.value (page.kept.filter fun a => L.era a = page.era ∧ subject a = k ∧
        heard (R.author a) = true ∧ covered a = false) := holds.lists found group heard covers k
  rw [withKey_marked mark own (fun b a => (same b a).1)]
  refine Panel.Lists.map ?_ (fun a => (same true a).2.1) fun a => (same true a).2.2
  convert lists using 2
  funext a
  rw [decide_eq_decide, current, hears]

end Pages

section Modules

variable {config : RegistryConfig} {s : State} {uid : ModuleUid} {record : ModuleRecord} {next : Nat}

/-- A claim is shadowed by a newer one of its group about the same incarnation (source
`claim_shadowed`). -/
lemma claimCovers_iff {a b : IdentityClaim} : claimCovers b a = true ↔
    claimLabels.group b = claimLabels.group a ∧ claimLabels.era b = claimLabels.era a ∧
      claimLabels.stamp a < claimLabels.stamp b := by
  simp only [claimCovers, decide_eq_true_eq, claimLabels, claimGroup, Prod.mk.injEq,
    UInt32.toNat_inj, UInt64.lt_iff_toNat_lt]
  tauto

/-- A declaration of a subject is shadowed by a newer one of its group about the same incarnation
(source `declaration_shadowed`). -/
lemma declarationShadows_iff {a b : CapabilityDeclaration} (module : b.module = a.module)
    (port : b.port.str = a.port.str) :
    (declarationCovers b a = true ∧ b.port.str = a.port.str) ↔
      declarationLabels.group b = declarationLabels.group a ∧
        declarationLabels.era b = declarationLabels.era a ∧
        declarationLabels.stamp a < declarationLabels.stamp b := by
  simp only [declarationCovers, decide_eq_true_eq, declarationLabels, declarationGroup,
    Prod.mk.injEq, UInt32.toNat_inj, UInt64.lt_iff_toNat_lt]
  tauto

/-- The live claims about a field list the last words about it (source `live_claims`). -/
lemma claims_list {log : List IdentityClaim}
    (holds : claimLabels.Holds (pages (·.claims) s) next log)
    (found : s.modules[uid]? = some record) (k : IdentityField × Bytes) :
    (identityPanel s log uid record.incarnation k).Lists claimReading.author claimReading.value
      ((withKey IdentityClaim.subject (liveClaims s record record.incarnation) k).filter
        claimReading.live) := by
  refine marked_list (R := claimReading) holds (pages_eq found) (fun a b => ?_) s.hears
    (fun b claim => { claim with live := b }) (fun _ _ => rfl) (fun _ _ => ⟨rfl, rfl, rfl⟩)
    (fun a => ?_) (fun _ => rfl) (fun a _ current => ?_) k
  · simp only [claimLabels, claimGroup, claimReading, IdentityClaim.subject, Prod.mk.injEq]
    tauto
  · rw [decide_eq_true_iff]
    exact UInt32.toNat_inj.symm
  · simp only [claimShadowed, isCovered, List.any_eq_true, claimCovers_iff, current]

/-- The live declarations about an attribute list the last words about it (source
`live_declarations`). -/
lemma declarations_list {log : List CapabilityDeclaration}
    (holds : declarationLabels.Holds (pages (·.declarations) s) next log)
    (ports : ∀ declaration ∈ log, declaration.port = .none)
    (found : s.modules[uid]? = some record) (k : CapabilityKey × Bytes) :
    (capabilityPanel s log uid record.incarnation k).Lists declarationReading.author
      declarationReading.value
      ((withKey CapabilityDeclaration.subject (liveDeclarations s record record.incarnation)
        k).filter declarationReading.live) := by
  have posted {a : CapabilityDeclaration} (member : a ∈ record.declarations) :
      a.module = uid ∧ a.port = .none := by
    obtain ⟨inside, own⟩ := List.mem_filter.1 ((holds.posted uid _ (pages_eq found)).subset member)
    exact ⟨of_decide_eq_true own, ports a inside⟩
  refine marked_list (R := declarationReading) holds (pages_eq found) (fun a b => ?_) s.hears
    (fun b declaration => { declaration with live := b }) (fun _ _ => rfl)
    (fun _ _ => ⟨rfl, rfl, rfl⟩) (fun a => ?_) (fun _ => rfl) (fun a member current => ?_) k
  · simp only [declarationLabels, declarationGroup, declarationReading,
      CapabilityDeclaration.subject, Prod.mk.injEq]
    tauto
  · rw [decide_eq_true_iff]
    exact UInt32.toNat_inj.symm
  · rw [declarationShadowed, List.any_eq_true, ← current]
    refine exists_congr fun b => and_congr_right fun inside => decide_eq_true_iff.trans ?_
    exact declarationShadows_iff ((posted inside).1.trans (posted member).1.symm)
      (by rw [(posted inside).2, (posted member).2])

/-- The live declarations of a port about an attribute list the last words about it (source
`live_port_declarations`). -/
lemma portDeclarations_list {log : List CapabilityDeclaration} {port : PortKey} {record : PortRecord}
    (holds : portLabels.Holds (portPages s) next log)
    (modules : ∀ declaration ∈ log, declaration.module = 0 ∧ declaration.incarnation = 0)
    (found : s.ports[port.str]? = some record) (k : CapabilityKey × Bytes) :
    (portPanel s log port k).Lists declarationReading.author declarationReading.value
      ((withKey CapabilityDeclaration.subject (livePortDeclarations s record) k).filter
        declarationReading.live) := by
  have page : portPages s port.str = some ⟨0, record.declarations⟩ := congrArg (Option.map _) found
  have posted {a : CapabilityDeclaration} (member : a ∈ record.declarations) :
      a.port.str = port.str ∧ a.module = 0 ∧ a.incarnation = 0 := by
    obtain ⟨inside, own⟩ := List.mem_filter.1 ((holds.posted port.str _ page).subset member)
    exact ⟨of_decide_eq_true own, modules a inside⟩
  have marked : livePortDeclarations s record = (record.declarations.filter fun _ => true).map
      fun declaration => { declaration with
        live := sourceIsLive s declaration.source declaration.sourceEpoch &&
          !declarationShadowed record.declarations declaration } := by
    rw [List.filter_true, livePortDeclarations]
  rw [marked]
  refine marked_list (R := declarationReading) holds page (fun a b => ?_) s.hears
    (fun b declaration => { declaration with live := b }) (fun _ _ => rfl)
    (fun _ _ => ⟨rfl, rfl, rfl⟩) (fun _ => iff_of_true rfl rfl) (fun _ => rfl)
    (fun a member _ => ?_) k
  · simp only [portLabels, declarationGroup, declarationReading, CapabilityDeclaration.subject,
      Prod.mk.injEq]
    tauto
  · rw [declarationShadowed, List.any_eq_true]
    refine exists_congr fun b => and_congr_right fun inside => decide_eq_true_iff.trans ?_
    obtain ⟨port, module, incarnation⟩ := posted inside
    obtain ⟨port', module', incarnation'⟩ := posted member
    rw [declarationShadows_iff (module.trans module'.symm) (port.trans port'.symm)]
    simp only [declarationLabels, incarnation, incarnation', portLabels]

/-- A query finds the record of the incarnation it names (source the first checks of
`Registry::identity`). -/
lemma queriedModule_eq_ok {incarnation : IncarnationId} {replaced : String}
    (asked : queriedModule s uid incarnation replaced = .ok record) :
    s.modules[uid]? = some record ∧ record.incarnation = incarnation := by
  simp only [queriedModule, bind_eq_ok, orRefuse_eq_ok, refuseIf_eq_ok, Except.ok.injEq] at asked
  obtain ⟨_, found, _, current, rfl⟩ := asked
  exact ⟨found, of_decide_eq_true (Bool.not_eq_false _ ▸ current)⟩

/-- In every run in which the sequence counter does not wrap, of a registry that keeps at least one
claim of each source for a field, the view of the identity of a module says about every field what the
sources at their current epochs said last about it: it has a value exactly when somebody speaks and all
agree, the value is theirs, and it is conflicted exactly when two of them disagree (source
`Registry::identity`). -/
theorem identity_is_last_words [StdSort] (room : 1 ≤ config.maxClaimHistory)
    {w : State × List IdentityClaim}
    (reached : Run (withHistory (step config) acceptedClaims) (fun w _ => NoWrap w.1)
      (State.initial, []) w) {module : ModuleHandle} {view : IdentityView}
    (asked : identity w.1 module = .ok view) (field : IdentityField) (subkey : Bytes) :
    (identityPanel w.1 w.2 module.uid module.incarnation (field, subkey)).Answers (· = ·)
      (view.reads field subkey) := by
  rw [identity, bind_eq_ok] at asked
  obtain ⟨record, queried, e⟩ := asked
  cases e
  obtain ⟨found, current⟩ := queriedModule_eq_ok queried
  have listed := claims_list (holds_claims room reached).2 found (field, subkey)
  have answers := Reading.tally_answers (R := claimReading)
    (fun u v h => decide_eq_true (of_decide_eq_true h).symm)
    (fun u v w h h' => decide_eq_true ((of_decide_eq_true h).trans (of_decide_eq_true h'))) listed
  rw [IdentityView.reads, IdentityView.find, fieldReading_find?, ← current]
  simpa only [claimReading, decide_eq_true_eq] using answers

/-- A source said the serial number twice: the last word counts, and nobody objects. -/
theorem identity_is_last_words_serial : ∃ (w : State × List IdentityClaim) (view : IdentityView),
    identity w.1 firstA = .ok view ∧ view.reads .serialNumber [] = (true, text "2", false) ∧
      (identityPanel w.1 w.2 1 1 (.serialNumber, [])).Agrees (· = ·) ∧
      ∃ who, identityPanel w.1 w.2 1 1 (.serialNumber, []) who = some (text "2") := by
  have run : (runGuarded (withHistory (step {}) acceptedClaims) (fun w _ => decide (NoWrap w.1))
      [registerHost, registerBay bayA .ensureCurrent, stateSerial 1, reviseSerial]
      (State.initial, [])).any (fun w => (identity w.1 firstA).toOption.any fun view =>
        view.reads .serialNumber [] = (true, text "2", false)) = true := by decide +kernel
  obtain ⟨w, reached, shows⟩ := Run.exists_ofGuarded run
  obtain ⟨view, asked, shows⟩ := (Option.any_eq_true _ _).1 shows
  have asked := toOption_eq_some.1 asked
  have reads := of_decide_eq_true shows
  have answers := identity_is_last_words (by decide)
    (reached.mono fun _ _ h => of_decide_eq_true h) asked .serialNumber []
  rw [reads] at answers
  exact ⟨w, view, asked, reads, (answers.known.1 rfl).2, (answers.value rfl).1⟩

/-- In every run in which the sequence counter does not wrap, the views of the capabilities of a module
and of a port say about every attribute what the sources at their current epochs said last about it;
for the modules the registry must keep at least one declaration of each source for an attribute, for
the ports it need not (source `Registry::capabilities`, `Registry::port_capabilities`). -/
theorem capabilities_are_last_words [StdSort] :
    (1 ≤ config.maxClaimHistory → ∀ w : State × List CapabilityDeclaration,
      Run (withHistory (step config) acceptedDeclarations) (fun w _ => NoWrap w.1)
        (State.initial, []) w →
      ∀ module view, capabilities w.1 module = .ok view → ∀ key subkey,
        (capabilityPanel w.1 w.2 module.uid module.incarnation (key, subkey)).Answers
          (fun u v => u.equal v = true) (view.reads key subkey)) ∧
    (∀ w : State × List CapabilityDeclaration,
      Run (withHistory (step config) acceptedPortDeclarations) (fun w _ => NoWrap w.1)
        (State.initial, []) w →
      ∀ port view, portCapabilities w.1 port = .ok view → ∀ key subkey,
        (portPanel w.1 w.2 port (key, subkey)).Answers (fun u v => u.equal v = true)
          (view.reads key subkey)) := by
  constructor
  · intro room w reached module view asked key subkey
    obtain ⟨⟨_, holds⟩, ports⟩ := holds_declarations room reached
    rw [capabilities, bind_eq_ok] at asked
    obtain ⟨record, queried, e⟩ := asked
    cases e
    obtain ⟨found, current⟩ := queriedModule_eq_ok queried
    have listed := declarations_list holds ports found (key, subkey)
    rw [CapabilityView.reads, CapabilityView.find, viewOf, attributeReading_find?, ← current]
    exact Reading.tally_answers (fun _ _ => CapabilityValue.equal_symm)
      (fun _ _ _ => CapabilityValue.equal_trans) listed
  · intro w reached port view asked key subkey
    obtain ⟨holds, modules⟩ := holds_portDeclarations reached
    rw [portCapabilities, bind_eq_ok] at asked
    obtain ⟨record, found, e⟩ := asked
    cases e
    have listed := portDeclarations_list holds modules (orRefuse_eq_ok.1 found) (key, subkey)
    rw [CapabilityView.reads, CapabilityView.find, viewOf, attributeReading_find?]
    exact Reading.tally_answers (fun _ _ => CapabilityValue.equal_symm)
      (fun _ _ _ => CapabilityValue.equal_trans) listed

/-- A view has a value for the number of lanes, and its sources are not divided. -/
def CapabilityView.readsLanes (view : CapabilityView) (lanes : Int64) : Bool :=
  let (known, value, divided) := view.reads .laneCount []
  known && value.equal (.count lanes) && !divided

/-- A panel that answers a view that reads a number of lanes has a speaker who says so. -/
lemma CapabilityView.readsLanes_said {view : CapabilityView} {lanes : Int64}
    {panel : Panel (SourceId × SourceEpoch) CapabilityValue}
    (answers : panel.Answers (fun u v => u.equal v = true) (view.reads .laneCount []))
    (reads : view.readsLanes lanes = true) :
    ∃ who v, panel who = some v ∧ v.equal (.count lanes) = true := by
  simp only [readsLanes, Bool.and_eq_true] at reads
  obtain ⟨who, said⟩ := (answers.value reads.1.1).1
  exact ⟨who, _, said, reads.1.2⟩

/-- A source said twice how many lanes a module has, and a port: the last words count. -/
theorem capabilities_are_last_words_lanes :
    (∃ (w : State × List CapabilityDeclaration) (view : CapabilityView),
      capabilities w.1 firstA = .ok view ∧ view.readsLanes 8 = true ∧
        ∃ who v, capabilityPanel w.1 w.2 1 1 (.laneCount, []) who = some v ∧
          v.equal (.count 8) = true) ∧
    (∃ (w : State × List CapabilityDeclaration) (view : CapabilityView),
      portCapabilities w.1 portA = .ok view ∧ view.readsLanes 8 = true ∧
        ∃ who v, portPanel w.1 w.2 portA (.laneCount, []) who = some v ∧
          v.equal (.count 8) = true) := by
  have modules : (runGuarded (withHistory (step {}) acceptedDeclarations)
      (fun w _ => decide (NoWrap w.1)) [registerHost, registerBay bayA .ensureCurrent,
        declareLanes 4, declareLanes 8] (State.initial, [])).any
      (fun w => (capabilities w.1 firstA).toOption.any (·.readsLanes 8)) = true := by decide +kernel
  have ports : (runGuarded (withHistory (step {}) acceptedPortDeclarations)
      (fun w _ => decide (NoWrap w.1)) [registerHost, declarePortLanes 4, declarePortLanes 8]
        (State.initial, [])).any
      (fun w => (portCapabilities w.1 portA).toOption.any (·.readsLanes 8)) = true := by
    decide +kernel
  constructor
  · obtain ⟨w, reached, shows⟩ := Run.exists_ofGuarded modules
    obtain ⟨view, asked, reads⟩ := (Option.any_eq_true _ _).1 shows
    have asked := toOption_eq_some.1 asked
    have answers := capabilities_are_last_words.1 (by decide) w
      (reached.mono fun _ _ h => of_decide_eq_true h) firstA view asked .laneCount []
    exact ⟨w, view, asked, reads, CapabilityView.readsLanes_said answers reads⟩
  · obtain ⟨w, reached, shows⟩ := Run.exists_ofGuarded ports
    obtain ⟨view, asked, reads⟩ := (Option.any_eq_true _ _).1 shows
    have asked := toOption_eq_some.1 asked
    have answers := (@capabilities_are_last_words {}).2 w
      (reached.mono fun _ _ h => of_decide_eq_true h) portA view asked .laneCount []
    exact ⟨w, view, asked, reads, CapabilityView.readsLanes_said answers reads⟩

end Modules

end TransceiverRegistry
