import TransceiverRegistry.Codec.Reports
import TransceiverRegistry.Snapshot.File

/-!
# Loading a snapshot

Port of `load_snapshot` of `snapshot.cpp`. The parsed state becomes the state of the registry after
three changes: latches whose evidence no longer holds are reset, attachments without a module are
dropped, and the registry starts its next incarnation.
-/

namespace TransceiverRegistry

open Lib

/-- The newest reading behind a latch (source `revalidate_evidence`, the inner loop). -/
def newestReading (s : State) (record : ModuleRecord) (latch : HealthLatchRecord) :
    Option HealthSample :=
  record.samples.foldl (fun newest sample =>
    if sample.metric ≠ latch.metric ∨ sample.lane ≠ latch.lane then newest
    else if sample.incarnation ≠ record.incarnation ∨ sample.live = false then newest
    else if sourceIsLive s sample.source sample.sourceEpoch = false then newest
    else match newest with
      | none => some sample
      | some best =>
        if best.observedAtWallNs < sample.observedAtWallNs then some sample else newest) none

/-- The evidence of a latch still describes the present (source `revalidate_evidence`). -/
def latchHolds (s : State) (now : WallNs) (record : ModuleRecord) (latch : HealthLatchRecord) :
    Bool :=
  match selectThreshold (liveThresholds s) latch.metric latch.lane,
    newestReading s record latch with
  | some threshold, some newest =>
    newest.presence = .present ∧ sampleAge now newest ≤ threshold.maxAgeNs.toInt
  | _, _ => false

/-- Reset the latches of a module whose evidence no longer holds (source `revalidate_evidence`). -/
def ModuleRecord.revalidate (s : State) (now : WallNs) (record : ModuleRecord) : ModuleRecord :=
  { record with latches := record.latches.map fun latch =>
      if latchHolds s now record latch then latch else { latch with latch := HealthLatch.new } }

/-- Reset the latches whose evidence no longer holds (source `revalidate_evidence`). -/
def revalidateEvidence (s : State) (now : WallNs) : State :=
  { s with modules := s.modules.map fun _ record => record.revalidate s now }

/-- The number of latches that are reset (source `revalidate_evidence`, `invalidated`). -/
def invalidatedEvidence (s : State) (now : WallNs) : Nat :=
  (s.modules.values.map fun record =>
    record.latches.countP fun latch => !latchHolds s now record latch).sum

/-- The attachment names a module of the state (source `load_snapshot`, the loop over the
attachments). -/
def State.keepsAttachment (s : State) (attachment : AttachmentRecord) : Bool :=
  s.modules.contains attachment.uid

/-- Drop the attachments whose module is absent (source `load_snapshot`). -/
def State.dropDangling (s : State) : State :=
  { s with attachments := s.attachments.filter fun _ a => s.keepsAttachment a }

/-- Start the next incarnation of the registry (source `load_snapshot`, the last locked block). -/
def State.reincarnate (s : State) : State :=
  { s with
    registryIncarnation :=
      if s.registryIncarnation = 0xFFFFFFFF then 1 else s.registryIncarnation + 1
    generation := s.generation + 1
    nextSequence := if s.nextSequence = 0 then 1 else s.nextSequence }

/-- The state of a registry after a load (source `load_snapshot`). -/
def State.restore (parsed : State) (now : WallNs) : State :=
  (revalidateEvidence parsed now).dropDangling.reincarnate

/-- Nothing is registered (source `load_snapshot`, the first locked block). -/
def State.isEmpty (s : State) : Bool :=
  s.modules.isEmpty && s.ports.isEmpty && s.rules.isEmpty && s.sources.isEmpty &&
    s.attachments.isEmpty && s.thresholds.isEmpty

/-- The note of a report (source `load_snapshot`, `recovery_note`). -/
def recoveryNote (note : Bytes) (droppedAttachments : Nat) : Bytes :=
  if 0 < droppedAttachments then
    (if note ≠ [] then note ++ text "; " else note) ++ text "dropped " ++
      decimal droppedAttachments ++
      text " attachment(s) whose module did not survive the recovery"
  else note

/-- A total of the report (source the counters of `LoadReport`). -/
def total (counts : List Nat) : UInt64 := UInt64.ofNat counts.sum

/-- Report a load that led to a state (source `load_snapshot`, `report`). -/
def loadReport (parsed : ParsedSnapshot) (now : WallNs) (loaded : State) : LoadReport :=
  let modules := loaded.modules.values
  let ports := loaded.ports.values
  { formatVersion := UInt16.ofNat parsed.formatVersion
    generation := loaded.generation
    registryIncarnation := loaded.registryIncarnation
    modules := UInt64.ofNat modules.length
    incarnations := total (modules.map (·.incarnationCount.toNat))
    sources := UInt64.ofNat loaded.sources.size
    ports := UInt64.ofNat ports.length
    rules := UInt64.ofNat loaded.rules.size
    thresholds := UInt64.ofNat (loaded.thresholds.countP (·.live))
    claims := total (modules.map (·.claims.length))
    declarations := total (modules.map (·.declarations.length)) +
      total (ports.map (·.declarations.length))
    samples := total (modules.map (·.samples.length))
    fencedIncarnations := UInt64.ofNat (modules.countP fun record => 1 < record.incarnationCount)
    evidenceInvalidatedOnLoad := UInt64.ofNat (invalidatedEvidence parsed.state now)
    tailRecovered := parsed.tailRecovered
    droppedTailBytes := UInt64.ofNat parsed.droppedBytes
    recoveryNote := recoveryNote parsed.note
      (parsed.state.attachments.values.countP fun a => !parsed.state.keepsAttachment a)
    contentDigest := parsed.contentDigest
    loadedAtWallNs := now }

/-- Load the bytes of a file into a registry (source `load_snapshot`; the bound on the bytes is the
one of `read_file`). -/
def loadSnapshot [StdSort] (clock : Clock) (options : LoadOptions) (file : Bytes) (s : State) :
    Result (State × LoadReport) := do
  refuseIf (s.isEmpty = false)
    (makeError .conflict "a snapshot can only be loaded into an empty registry")
  refuseIf (kMaxSnapshotBytes < file.length)
    (makeError .capacityExceeded "snapshot exceeds the maximum accepted size")
  let parsed ← parseSnapshot file options
  let now := clock.wallNowNs 0
  let loaded := parsed.state.restore now
  .ok (loaded, loadReport parsed now loaded)

variable {clock : Clock} {options : LoadOptions} {file : Bytes} {s s' : State}

/-- What a load did (source `load_snapshot`). -/
lemma loadSnapshot_eq_ok [StdSort] {report : LoadReport} :
    loadSnapshot clock options file s = .ok (s', report) ↔
      s.isEmpty = true ∧ file.length ≤ kMaxSnapshotBytes ∧
      ∃ parsed, parseSnapshot file options = .ok parsed ∧
        s' = parsed.state.restore (clock.wallNowNs 0) ∧
        report = loadReport parsed (clock.wallNowNs 0) s' := by
  rw [loadSnapshot, refuseIf_bind_eq_ok, refuseIf_bind_eq_ok, Bool.not_eq_false, Nat.not_lt]
  simp only [bind_eq_ok, Except.ok.injEq, Prod.mk.injEq]
  constructor
  · rintro ⟨empty, small, parsed, parse, rfl, rfl⟩
    exact ⟨empty, small, parsed, parse, rfl, rfl⟩
  · rintro ⟨empty, small, parsed, parse, rfl, rfl⟩
    exact ⟨empty, small, parsed, parse, rfl, rfl⟩

end TransceiverRegistry
