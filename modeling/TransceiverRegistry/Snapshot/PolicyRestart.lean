import TransceiverRegistry.Registry.Evidenced
import TransceiverRegistry.Registry.Policies
import TransceiverRegistry.Registry.Revising
import TransceiverRegistry.Snapshot.Capacity
import TransceiverRegistry.Snapshot.Lineage
import TransceiverRegistry.Snapshot.Oversized

/-!
# Policies across restarts

A snapshot keeps every threshold that is in force, with or without the history, so the policy of
every series stays unambiguous over calls, saves, crashes and loads. Only a record before them that
is too long to be read makes a load lose them.
-/

namespace TransceiverRegistry

open Lib CanonicalWriter

/-- The history of a threshold has room for one record, and for so many ones at most. -/
def boundsHistory (most : UInt32) (config : RegistryConfig) : Bool :=
  1 ≤ config.maxClaimHistory ∧ config.maxClaimHistory ≤ most

/-- Every state is saved. -/
def anyState (_ : State) : Bool := true

section Steps

variable [StdSort] {most : UInt32} {config : RegistryConfig} {s : State} {includeHistory : Bool}
  {now : WallNs} {latest : LatestPolicies} {w : Lineage LatestPolicies}

/-- The thresholds that are loaded are those that were written, each as it is read back
(source `encode_threshold`, `decode_threshold`). -/
lemma reloaded_thresholds : ((s.reread includeHistory).restore now).thresholds =
    (s.thresholds.filter fun record => includeHistory || record.live).map
      ThresholdRecord.restored := rfl

omit [StdSort] in
/-- The thresholds in force are written, with or without the history, and come back in force
(source `encode_state_records`). -/
lemma policiesFor_restored {metric : HealthMetric} {lane : UInt16}
    (records : List ThresholdRecord) :
    policiesFor metric lane ((records.filter fun record => includeHistory || record.live).map
      ThresholdRecord.restored) = policiesFor metric lane records := by
  induction records with
  | nil => rfl
  | cons head rest ih =>
    rw [List.filter_cons, policiesFor_cons]
    split
    · rw [List.map_cons, policiesFor_cons, ih]
      rfl
    · rename_i retired
      rw [Bool.or_eq_true, not_or, Bool.not_eq_true, Bool.not_eq_true] at retired
      rw [ih, retired.2]
      rfl

/-- A load keeps the policy of every series (source `load_snapshot`). -/
lemma Unambiguous.reload (unambiguous : Unambiguous most.toNat s.thresholds latest) :
    Unambiguous most.toNat ((s.reread includeHistory).restore now).thresholds latest := by
  rw [reloaded_thresholds]
  constructor
  · intro metric lane
    rw [policiesFor_restored]
    exact unambiguous.current metric lane
  · intro metric lane
    rw [historyFor, List.countP_map]
    exact (List.filter_sublist.countP_le).trans (unambiguous.history metric lane)
  · intro record member
    obtain ⟨before, kept, rfl⟩ := List.mem_map.1 member
    exact unambiguous.live before (List.mem_of_mem_filter kept)

/-- In every state that operations, saves, crashes and loads of whole files reach, with room for the
history of a threshold: a series for which a threshold was published has exactly one threshold in
force, the one that was published last, and no longer history than the largest bound; and the
selection for a lane is the latest threshold for the lane if there is one, and otherwise the latest
one for the module (source `select_threshold`). -/
theorem policy_unambiguous (bounded : boundsHistory most config = true)
    (reached : Run (Lineage.step LatestPolicies.none LatestPolicies.extend)
      (fun w event => keepsLineage anyState (boundsHistory most) w event = true)
      (.fresh LatestPolicies.none config) w) (metric : HealthMetric) (lane : UInt16) :
    (∀ threshold, w.account metric lane = some threshold →
      (liveThresholds w.process.registry).filter (·.isFor metric lane) = [threshold] ∧
      historyFor metric lane w.process.registry.thresholds ≤ most.toNat) ∧
    selectThreshold (liveThresholds w.process.registry) metric lane =
      (w.account metric lane <|> w.account metric kModuleLane) := by
  have unambiguous : Unambiguous most.toNat w.process.registry.thresholds w.account := by
    refine Run.lineage (P := fun s latest => Unambiguous most.toNat s.thresholds latest) reached
      bounded .initial ?_ ?_
    · intro config s call s' latest allowed taken unambiguous
      obtain ⟨one, within⟩ := of_decide_eq_true allowed
      exact unambiguous.step one within taken
    · intro s includeHistory now latest _ unambiguous
      exact unambiguous.reload
  have inForce (lane : UInt16) : (liveThresholds w.process.registry).filter (·.isFor metric lane) =
      (w.account metric lane).toList := unambiguous.current metric lane
  refine ⟨fun threshold published => ⟨?_, unambiguous.history metric lane⟩, ?_⟩
  · rw [inForce, published]
    rfl
  · have live : ∀ t ∈ liveThresholds w.process.registry, t.live = true := by
      intro t member
      obtain ⟨record, known, rfl⟩ := List.mem_map.1 member
      exact unambiguous.live record (List.mem_of_mem_filter known)
    rw [selectThreshold_eq live, inForce, inForce]
    cases w.account metric lane <;> cases w.account metric kModuleLane <;> rfl

end Steps

set_option maxRecDepth 20000 in
/-- With room for one threshold in the history, the second one that is published after a load is the
only one, and it is selected for every lane. -/
theorem policy_unambiguous_revised :
    ∃ (w : Lineage LatestPolicies) (threshold : HealthThreshold),
      w.account .temperatureCelsius kModuleLane = some threshold ∧
      w.account .temperatureCelsius 3 = none ∧
      (liveThresholds w.process.registry).filter (·.isFor .temperatureCelsius kModuleLane) =
        [threshold] ∧
      selectThreshold (liveThresholds w.process.registry) .temperatureCelsius 3 =
        some threshold := by
  have revised : (runGuarded (Lineage.step LatestPolicies.none LatestPolicies.extend)
      (keepsLineage anyState (boundsHistory 2)) [.call registerHost, .save true,
        .crash { maxClaimHistory := 1 }, .load 0 {} stillClock, .call (publishPolicy 1),
        .call (publishPolicy 2)] (.fresh LatestPolicies.none { maxClaimHistory := 2 })).any
      (fun w => (w.account .temperatureCelsius kModuleLane).isSome &&
        (w.account .temperatureCelsius 3).isNone) = true := by decide +kernel
  obtain ⟨w, reached, shows⟩ := Run.exists_ofGuarded revised
  obtain ⟨published, other⟩ := Bool.and_eq_true_iff.1 shows
  obtain ⟨threshold, published⟩ := Option.isSome_iff_exists.1 published
  have none := Option.isNone_iff_eq_none.1 other
  have wide := (policy_unambiguous (by decide) reached .temperatureCelsius kModuleLane).1
  have selected := (policy_unambiguous (by decide) reached .temperatureCelsius 3).2
  rw [none, published] at selected
  exact ⟨w, threshold, published, none, (wide threshold published).1, selected⟩

section Lost

variable [StdSort]

/-- The document of a declaration is written around its text (source
`Codec<CapabilityDeclaration>`). -/
lemma CapabilityDeclaration.writesAround (d : CapabilityDeclaration) :
    WritesAround fun t => encode { d with value := .text t } := by
  have value : WritesAround fun t => encode (CapabilityValue.text t) :=
    WritesAround.text.field [kindMember "text"] [] "t" (by decide +kernel)
  have ordered : namesOrdered (d.fields.dropLast.map Prod.fst ++ "value" :: []) = true := by
    simp only [CapabilityDeclaration.fields, List.dropLast, List.map]
    decide +kernel
  exact value.field d.fields.dropLast [] "value" ordered

/-- The members of a port after its declarations (source `encode_port`). -/
def PortRecord.counters (port : PortRecord) : List (String × Value) := [
  ("first_generation", integerOf port.firstGeneration.toNat),
  ("first_wall_ns", .integer port.firstWallNs),
  ("key", .text port.key.str),
  ("sequence", integerOf port.sequence.toNat)]

/-- The document of a port with one declaration is written around the text of the declaration
(source `encode_port`). -/
lemma PortRecord.writesAround (port : PortRecord) (d : CapabilityDeclaration) :
    WritesAround fun t =>
      encodePort { port with declarations := [{ d with value := .text t }] } := by
  have ordered : namesOrdered ("declarations" :: port.counters.map Prod.fst) = true := by
    simp only [PortRecord.counters, List.map]
    decide +kernel
  have parts (t : Bytes) : encodePort { port with declarations := [{ d with value := .text t }] } =
      codecObject ([] ++ ("declarations", .array [encode { d with value := .text t }]) ::
        port.counters) := rfl
  simp only [parts]
  exact d.writesAround.element.field [] port.counters "declarations" ordered

end Lost

/-- Declare a text about the port in the name of the first source. -/
def declareText (t : Bytes) : Call :=
  Operation.now (.publishPortCapability host portA .vendorSpecific (text "x") (.text t) hostEvidence
    .autoRetry)

/-- The declaration of a text about the port. -/
def textDeclaration (s : State) (t : Bytes) : CapabilityDeclaration :=
  portDeclaration stillClock host (s.generation + 1) s.nextSequence portA .vendorSpecific (text "x")
    (.text t) hostEvidence

/-- The port with that text. -/
def textPort (s : State) (t : Bytes) : PortRecord :=
  ⟨portA, s.generation + 1, s.nextSequence, stillClock.wallNowNs 0, [textDeclaration s t]⟩

/-- A state with that port. -/
def withText (s : State) (t : Bytes) : State :=
  ({ (nextSequence s).2 with ports := s.ports.insert portA.str (textPort s t) } : State).publish
    (s.generation + 1)

/-- A registered source declares the text (source `Registry::publish_port_capability`). -/
lemma step_declareText {s : State} {t : Bytes} (live : sourceIsLive s 1 1 = true)
    (blank : s.ports.isEmpty = true) : step {} s (declareText t) = some (withText s t) := by
  have authorised : requireAuthority (nextSequence s).2 host = .ok () :=
    requireAuthority_eq_ok.2 ⟨by simp [host], live⟩
  have absent : (nextSequence s).2.ports[portA.str]? = none := by
    show s.ports[portA.str]? = none
    rw [Std.ExtTreeMap.isEmpty_iff.1 blank]
    exact Std.ExtTreeMap.getElem?_empty
  have few : ¬ (4096 : UInt32).toNat ≤ (nextSequence s).2.ports.size := by
    show ¬ _ ≤ s.ports.size
    rw [Std.ExtTreeMap.isEmpty_iff.1 blank]
    decide
  have located : locatePort {} stillClock portA (nextSequence s).2 (s.generation + 1)
      (nextSequence s).1 = .ok { textPort s t with declarations := [] } := by
    rw [locatePort, absent]
    exact bind_eq_ok.2 ⟨(), refuseIf_eq_ok.2 few, rfl⟩
  have body : publishPortCapabilityBody {} stillClock host portA .vendorSpecific (text "x")
      (.text t) hostEvidence (nextSequence s).2 (s.generation + 1) (nextSequence s).1 =
      .ok ({ (nextSequence s).2 with ports := s.ports.insert portA.str (textPort s t) }, ()) := by
    rw [publishPortCapabilityBody, authorised, ok_bind, located, ok_bind]
    rfl
  have run : (declareText t).run {} s = .ok (withText s t) := by
    show Prod.fst <$> publishPortCapability _ _ _ _ _ _ _ _ _ _ = _
    refine fst_map_eq_ok.2 ⟨(), ?_⟩
    have named : validateCapabilityKey .vendorSpecific (text "x") = .ok () := by decide +kernel
    have evidence := (validateProvenance_eq_ok (u := ())).2 hostEvidence_valid
    rw [publishPortCapability, named, ok_bind, refuseIf_of_not (by decide +kernel), ok_bind]
    exact bind_eq_ok.2 ⟨(), rfl, bind_eq_ok.2 ⟨(), evidence,
      mutate_eq_ok.2 ⟨by simp, _, body, rfl⟩⟩⟩
  rw [step, run]

/-- The records of a state before its ports (source `encode_state_records`). -/
def recordsBeforePorts [StdSort] (s : State) : List Record :=
  headerRecord s :: (recordsOf kRecordSource encodeSource (s.contents true).sources ++
    recordsOf kRecordModule (encodeModule true) (s.contents true).modules)

/-- The records of a state after its ports (source `encode_state_records`). -/
def recordsAfterPorts [StdSort] (s : State) : List Record :=
  recordsOf kRecordAttachment encode (s.contents true).attachments ++
    (recordsOf kRecordThreshold encodeThreshold (s.contents true).thresholds ++
      recordsOf kRecordRule encode (s.contents true).rules)

/-- The record of the port (source `encode_state_records`). -/
def textRecord [StdSort] (s : State) (t : Bytes) : Record :=
  ⟨kRecordPort, encodeDocument (encodePort (textPort s t))⟩

/-- The records of a state with one port (source `encode_state_records`). -/
lemma stateRecords_withText [StdSort] {s : State} {t : Bytes} (blank : s.ports.isEmpty = true) :
    stateRecords (withText s t) true = recordsBeforePorts (withText s []) ++
      textRecord s t :: recordsAfterPorts (withText s []) := by
  have ports : ((withText s t).contents true).ports = [textPort s t] := by
    show StdSort.sort _ (s.ports.insert portA.str (textPort s t)).values = _
    rw [Std.ExtTreeMap.isEmpty_iff.1 blank]
    exact List.perm_singleton.1 (StdSort.perm _ _)
  rw [stateRecords_eq, Contents.records, ports, recordsBeforePorts, List.cons_append,
    List.append_assoc]
  rfl

/-- The records before the port are read, without a threshold, and leave room for a long text. -/
def readsToPort (s : State) : Bool :=
  s.ports.isEmpty && (recordsBeforePorts (withText s [])).all (·.body.length ≤ kMaxRecordBytes) &&
    (readAll {} (s.generation + 1) (recordsBeforePorts (withText s []))
      { State.initial with generation := s.generation + 1 }).toOption.any (·.thresholds.isEmpty) &&
    !(new.writeValue (encodePort (textPort s []))).failed &&
    (snapshotFile (withText s []) true).length ≤ 2 ^ 20

/-- The length of the file of a state with one port (source `save_snapshot_impl`). -/
lemma length_snapshotFile_withText {s : State} {t : Bytes} (blank : s.ports.isEmpty = true) :
    (snapshotFile (withText s t) true).length +
        (encodeDocument (encodePort (textPort s []))).length =
      (snapshotFile (withText s []) true).length +
        (encodeDocument (encodePort (textPort s t))).length := by
  simp only [length_snapshotFile, encodeStateRecords, stateRecords_withText blank, frames,
    List.flatMap_append, List.flatMap_cons, List.length_append, Record.length_frame, Record.body,
    textRecord, List.length_cons]
  omega

/-- A state with a text in a port that is longer than a record can be is loaded without its
thresholds (source `parse_snapshot`, `kMaxRecordBytes`). -/
lemma exists_load_withText {s : State} {t : Bytes} (reads : readsToPort s = true)
    (valid : isValidUtf8 t = true) (long : t.length = kMaxRecordBytes) :
    ∃ s' report, loadSnapshot stillClock {} (snapshotFile (withText s t) true) .initial =
      .ok (s', report) ∧ s'.thresholds = [] := by
  simp only [readsToPort, Bool.and_eq_true, decide_eq_true_eq, Bool.not_eq_true'] at reads
  obtain ⟨⟨⟨⟨blank, small⟩, read⟩, written⟩, room⟩ := reads
  have size : t.length ≤ (encodeDocument (encodePort (textPort s t))).length ∧
      (encodeDocument (encodePort (textPort s t))).length ≤
        (encodeDocument (encodePort (textPort s []))).length + (16 + t.length) :=
    (PortRecord.writesAround (textPort s []) (textDeclaration s [])).length valid written
  have total := length_snapshotFile_withText (t := t) blank
  obtain ⟨state, run, none⟩ := exists_ok_of_any read
  have limit : kMaxRecordBytes + 2 ^ 20 + 16 ≤ kMaxSnapshotBytes := by decide
  have short : (snapshotFile (withText s t) true).length ≤ kMaxSnapshotBytes := by omega
  have big : kMaxRecordBytes < (textRecord s t).body.length := by
    show _ < (encodeDocument (encodePort (textPort s t))).length + 1
    omega
  have each : ∀ record ∈ recordsBeforePorts (withText s []), record.body.length ≤ kMaxRecordBytes :=
    fun record member => of_decide_eq_true (List.all_eq_true.1 small record member)
  obtain ⟨p, parsed, rfl, _⟩ :=
    parseSnapshot_oversized rfl short (stateRecords_withText blank) each big run
  have empty : State.initial.isEmpty = true := by decide
  exact ⟨_, _, loadSnapshot_eq_ok.2 ⟨empty, short, p, parsed, rfl, rfl⟩, List.isEmpty_iff.1 none⟩

/-- There is a text as long as the longest record (source `kMaxRecordBytes`). -/
lemma exists_long_text : ∃ t : Bytes, t.length = kMaxRecordBytes ∧ isValidUtf8 t = true := by
  generalize kMaxRecordBytes = n
  refine ⟨List.replicate n 97, List.length_replicate, isValidUtf8_of_ascii fun b member => ?_⟩
  rw [List.eq_of_mem_replicate member]
  decide

set_option maxRecDepth 20000 in
/-- A text of 16 MiB in a port makes the record of the port too long to be read, and the thresholds
that were written after it are not loaded. -/
theorem oversized_record_loses_policy :
    ¬ ∀ (config : RegistryConfig) (w : Lineage LatestPolicies), 1 ≤ config.maxClaimHistory →
      Run (Lineage.step LatestPolicies.none LatestPolicies.extend)
        (fun w event => keepsConfig config w.process event = true)
        (.fresh LatestPolicies.none config) w →
      ∀ metric lane threshold, w.account metric lane = some threshold →
        (liveThresholds w.process.registry).filter (·.isFor metric lane) = [threshold] := by
  intro unambiguous
  have published : (runGuarded (Lineage.step LatestPolicies.none LatestPolicies.extend)
      (fun w event => keepsConfig {} w.process event) [.call registerHost, .call (publishPolicy 1)]
      (.fresh LatestPolicies.none {})).any (fun w => w.process.files.isEmpty && w.saved.isEmpty &&
        w.process.config = {} && (w.account .temperatureCelsius kModuleLane).isSome &&
        sourceIsLive w.process.registry 1 1 && readsToPort w.process.registry) = true := by
    decide +kernel
  obtain ⟨w, reached, shows⟩ := Run.exists_ofGuarded published
  simp only [Bool.and_eq_true, decide_eq_true_eq, List.isEmpty_iff] at shows
  obtain ⟨⟨⟨⟨⟨files, fresh⟩, config⟩, account⟩, live⟩, reads⟩ := shows
  obtain ⟨threshold, published⟩ := Option.isSome_iff_exists.1 account
  have blank : w.process.registry.ports.isEmpty = true := by
    simp only [readsToPort, Bool.and_eq_true] at reads
    exact reads.1.1.1.1
  obtain ⟨⟨_, s, _⟩, latest, saved⟩ := w
  dsimp only at files config published live reads blank fresh
  subst files config fresh
  obtain ⟨t, length, valid⟩ := exists_long_text
  obtain ⟨s', report, load, none⟩ := exists_load_withText reads valid length
  let step := Lineage.step LatestPolicies.none LatestPolicies.extend
  have declares : step ⟨⟨{}, s, []⟩, latest, []⟩ (.call (declareText t)) =
      some ⟨⟨{}, withText s t, []⟩, latest, []⟩ :=
    Lineage.step_call (step_declareText live blank)
  have saves : step ⟨⟨{}, withText s t, []⟩, latest, []⟩ (.save true) =
      some ⟨⟨{}, withText s t, [snapshotFile (withText s t) true]⟩, latest, [latest]⟩ := rfl
  have crashes : step ⟨⟨{}, withText s t, [snapshotFile (withText s t) true]⟩, latest, [latest]⟩
      (.crash {}) =
      some ⟨⟨{}, .initial, [snapshotFile (withText s t) true]⟩, .none, [latest]⟩ := rfl
  have loads : step ⟨⟨{}, .initial, [snapshotFile (withText s t) true]⟩, .none, [latest]⟩
      (.load 0 {} stillClock) =
      some ⟨⟨{}, s', [snapshotFile (withText s t) true]⟩, latest, [latest]⟩ :=
    Lineage.step_load rfl load
  have same : keepsConfig {} ⟨{}, withText s t, [snapshotFile (withText s t) true]⟩ (.crash {}) =
      true := by
    rw [keepsConfig]
    exact decide_eq_true rfl
  have run := (((reached.next rfl declares).next rfl saves).next same crashes).next rfl loads
  have lost := unambiguous {} _ (by decide) run .temperatureCelsius kModuleLane threshold published
  have nothing : liveThresholds s' = [] := by
    rw [liveThresholds, none]
    rfl
  simp only [nothing] at lost
  cases lost

end TransceiverRegistry
