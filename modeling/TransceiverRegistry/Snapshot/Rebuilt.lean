import TransceiverRegistry.Canonical.Delimited
import TransceiverRegistry.Canonical.Uniqueness
import TransceiverRegistry.Lib.Tables
import TransceiverRegistry.Snapshot.Reload
import TransceiverRegistry.Snapshot.Written

/-!
# What is read of a written file

The parser gives the values of a written file back, up to a record: every list of values from its
front, the counters of the state, and under them the tables of the values. Counters from 2^63 on
come back as the fallback of their reader.
-/

namespace TransceiverRegistry

open Lib

/-- A counter as it is read back (source `get_unsigned_or`). -/
def storedCounter (fallback value : UInt64) : UInt64 :=
  if value.toNat < 2 ^ 63 then value else fallback

/-- A source as it is read back (source `decode_source`). -/
def SourceRecord.restored (source : SourceRecord) : SourceRecord :=
  { source with
    generation := storedCounter 0 source.generation
    sequence := storedCounter 0 source.sequence }

/-- A module with written lists as it is read back (source `decode_module`). -/
def ModuleRecord.restored (record : ModuleRecord) : ModuleRecord :=
  { record with
    stateGeneration := storedCounter 0 record.stateGeneration
    stateSequence := storedCounter 0 record.stateSequence
    createdGeneration := storedCounter 0 record.createdGeneration
    createdSequence := storedCounter 0 record.createdSequence
    fencedGeneration := storedCounter 0 record.fencedGeneration
    lifecycle := if record.lifecycle = [] then
      [restoredEvent record.state record.incarnation (storedCounter 0 record.stateGeneration)
        (storedCounter 0 record.stateSequence) record.createdWallNs]
      else record.lifecycle
    seriesCounts := countSeries record.samples }

/-- A port as it is read back (source `decode_port`). -/
def PortRecord.restored (record : PortRecord) : PortRecord :=
  { record with
    firstGeneration := storedCounter 0 record.firstGeneration
    sequence := storedCounter 0 record.sequence }

/-- A threshold as it is read back (source `decode_threshold`). -/
def ThresholdRecord.restored (record : ThresholdRecord) : ThresholdRecord :=
  { record with
    generation := storedCounter 0 record.generation
    sequence := storedCounter 0 record.sequence }

/-- The counters of a state as they are read back, under the generation of the file
(source `decode_state_header`). -/
def State.header (s : State) (generation : Generation) : State :=
  { State.initial with
    generation
    registryIncarnation := s.registryIncarnation
    nextModuleUid := storedCounter 1 s.nextModuleUid
    nextRuleId := storedCounter 1 s.nextRuleId
    nextSourceId := storedCounter 1 s.nextSourceId
    nextSequence := storedCounter 1 s.nextSequence
    mutations := storedCounter 0 s.mutations
    droppedSamples := storedCounter 0 s.droppedSamples
    conflictsObserved := storedCounter 0 s.conflictsObserved }

section Decoders

/-- A 32-bit number is read back (source `get_unsigned`). -/
lemma getUnsigned_narrow {v : Value} {key : String} {n : UInt32}
    (h : Holds v key (integerOf n.toNat)) : getUnsigned v key = .ok (UInt64.ofNat n.toNat) := by
  have small := n.toNat_lt
  exact getUnsigned_eq (by omega) h

/-- A 32-bit number is read back (source `get_unsigned_or`). -/
lemma getUnsignedOr_narrow {v : Value} {key : String} {n : UInt32} {fallback : UInt64}
    (h : Holds v key (integerOf n.toNat)) :
    getUnsignedOr v key fallback = UInt64.ofNat n.toNat := by
  rw [getUnsignedOr, getUnsigned_narrow h]
  rfl

/-- A field of an encoded record is found (source `codec::object`). -/
lemma holds_encoded {ms : List (String × Value)} {v : Value} (key : String) (x : Value)
    (encoded : v = codecObject ms) (ok : keysOk (ms.map Prod.fst) = true)
    (mem : ms.lookup key = some x) : Holds v key x := by
  subst encoded
  exact holds_codecObject ok mem

/-- A number of 32 bits comes back from 64 bits. -/
lemma narrow_wide (n : UInt32) : (UInt64.ofNat n.toNat).toUInt32 = n := by
  simp

/-- A source is read back (source `decode_source`). -/
lemma decodeSource_eq_ok {source read : SourceRecord}
    (h : decodeSource (encodeSource source) = .ok read) : read = source.restored := by
  have holds {k x} := holds_encoded k x (show encodeSource source = _ from rfl) source_keysOk
  simp only [decodeSource, bind_eq_ok, asObject_eq (holds (k := "id") rfl).object,
    getUnsigned_narrow (holds (k := "id") rfl), getUnsigned_narrow (holds (k := "epoch") rfl),
    getTextOr_eq (holds (k := "name") rfl), (holds (k := "descriptor") rfl).found,
    getUnsignedOr_eq (holds (k := "generation") rfl),
    getUnsignedOr_eq (holds (k := "sequence") rfl),
    getIntegerOr_eq (holds (k := "registered_wall_ns") rfl), decode_encode, narrow_wide,
    Except.ok.injEq, exists_eq_left'] at h
  obtain ⟨_, _, _, _, descriptor, ⟨_, rfl⟩, rfl⟩ := h
  rfl

/-- A key that is read back is the key that was written (source `TextKey::parse`). -/
lemma parse_str {tag : KeyTag} {key read : TextKey tag} {what : Bytes}
    (h : TextKey.parse key.str what = .ok read) : read = key := by
  obtain ⟨str, wellFormed⟩ := key
  obtain ⟨str', wellFormed'⟩ := read
  have same := (TextKey.parse_eq_ok.1 h).2
  subst same
  rfl

/-- A port is read back (source `decode_port`). -/
lemma decodePort_eq_ok [StdSort] {record read : PortRecord}
    (h : decodePort (encodePort record) = .ok read) : read = record.restored := by
  have holds {k x} := holds_encoded k x (show encodePort record = _ from rfl) port_keysOk
  simp only [decodePort, bind_eq_ok, asObject_eq (holds (k := "key") rfl).object,
    getText_eq (holds (k := "key") rfl), getArrayOr_eq (holds (k := "declarations") rfl),
    getUnsignedOr_eq (holds (k := "first_generation") rfl),
    getUnsignedOr_eq (holds (k := "sequence") rfl),
    getIntegerOr_eq (holds (k := "first_wall_ns") rfl), decodeEach_eq_ok fun _ _ => decode_encode,
    Except.ok.injEq, exists_eq_left'] at h
  obtain ⟨key, parsed, declarations, ⟨_, rfl⟩, rfl⟩ := h
  rw [parse_str parsed]
  rfl

/-- A threshold is read back (source `decode_threshold`). -/
lemma decodeThreshold_eq_ok {record read : ThresholdRecord}
    (h : decodeThreshold (encodeThreshold record) = .ok read) : read = record.restored := by
  have holds {k x} := holds_encoded k x (show encodeThreshold record = _ from rfl) threshold_keysOk
  simp only [decodeThreshold, bind_eq_ok, asObject_eq (holds (k := "threshold") rfl).object,
    (holds (k := "threshold") rfl).found, orRefuse_eq_ok, Option.some.injEq, decode_encode,
    getUnsignedOr_eq (holds (k := "generation") rfl),
    getUnsignedOr_eq (holds (k := "sequence") rfl), getBooleanOr_eq (holds (k := "live") rfl),
    Except.ok.injEq, exists_eq_left'] at h
  obtain ⟨threshold, ⟨_, rfl⟩, rfl⟩ := h
  rfl

/-- The counters of a state are read back (source `decode_state_header`). -/
lemma decodeStateHeader_eq_ok {s read : State} {generation : Generation}
    (h : decodeStateHeader (encodeStateHeader s) = .ok read) :
    { read with generation } = s.header generation := by
  have holds {k x} := holds_encoded k x (show encodeStateHeader s = _ from rfl) stateHeader_keysOk
  simp only [decodeStateHeader, bind_eq_ok,
    asObject_eq (holds (k := "generation") rfl).object,
    getUnsigned_narrow (holds (k := "registry_incarnation") rfl),
    getUnsignedOr_eq (holds (k := "generation") rfl),
    getUnsignedOr_eq (holds (k := "next_module_uid") rfl),
    getUnsignedOr_eq (holds (k := "next_rule_id") rfl),
    getUnsignedOr_eq (holds (k := "next_source_id") rfl),
    getUnsignedOr_eq (holds (k := "next_sequence") rfl),
    getUnsignedOr_eq (holds (k := "mutations") rfl),
    getUnsignedOr_eq (holds (k := "dropped_samples") rfl),
    getUnsignedOr_eq (holds (k := "conflicts_observed") rfl), narrow_wide,
    Except.ok.injEq, exists_eq_left'] at h
  obtain ⟨_, _, rfl⟩ := h
  rfl

/-- A latch record is read back (source `decode_latch_record`). -/
lemma decodeLatchRecord_eq_ok {record read : HealthLatchRecord} :
    decodeLatchRecord (encodeLatchRecord record) = .ok read ↔
      Decodes record.latch ∧ read = record := by
  have holds {k x} := holds_encoded k x (show encodeLatchRecord record = _ from rfl)
    latchRecord_keysOk
  have small := record.lane.toNat_lt
  have lane : getUnsigned (encodeLatchRecord record) "lane" =
      .ok (UInt64.ofNat record.lane.toNat) := getUnsigned_eq (by omega) (holds (k := "lane") rfl)
  have inRange : ¬ 65535 < UInt64.ofNat record.lane.toNat := by
    rw [UInt64.lt_iff_toNat_lt, UInt64.toNat_ofNat_of_lt' (by simp [UInt64.size]; omega)]
    simp
    omega
  simp only [decodeLatchRecord, bind_eq_ok, asObject_eq (holds (k := "lane") rfl).object,
    getEnum_eq (holds (k := "metric") rfl), lane, (holds (k := "latch") rfl).found, refuseIf_eq_ok,
    inRange, not_false_eq_true, orRefuse_eq_ok, Option.some.injEq, decode_encode, Except.ok.injEq,
    exists_eq_left', true_and]
  constructor
  · rintro ⟨_, latch, ⟨good, rfl⟩, rfl⟩
    exact ⟨good, by simp⟩
  · rintro ⟨good, rfl⟩
    exact ⟨(), _, ⟨good, rfl⟩, by simp⟩

/-- What of a module is written can be read back (source `decode_module`). -/
structure ModuleRecord.Decodable (includeHistory : Bool) (record : ModuleRecord) : Prop where
  key : record.key.str ≠ []
  uid : record.uid.toNat < 2 ^ 63
  named : record.uid ≠ 0
  incarnation : record.incarnation ≠ 0
  count : record.incarnationCount ≠ 0
  claims : ∀ c ∈ record.claims, (includeHistory || c.live) = true → c.CountersFit
  declarations : ∀ d ∈ record.declarations, (includeHistory || d.live) = true → d.Readable
  samples : ∀ sample ∈ record.samples, sample.Readable
  latches : ∀ latch ∈ record.latches, latch.latch.CountersFit
  lifecycle : ∀ event ∈ record.lifecycle, event.CountersFit

/-- A narrow number that is read is in range (source `decode_module`). -/
lemma narrow_inRange {n : UInt32} :
    ¬ (UInt64.ofNat n.toNat = 0 ∨ 0xFFFFFFFF < UInt64.ofNat n.toNat) ↔ n ≠ 0 := by
  have small := n.toNat_lt
  have wide : (UInt64.ofNat n.toNat).toNat = n.toNat :=
    UInt64.toNat_ofNat_of_lt' (by simp [UInt64.size]; omega)
  rw [not_or, ← UInt64.toNat_inj, UInt64.lt_iff_toNat_lt, wide, ne_eq, ← UInt32.toNat_inj]
  simp only [UInt64.toNat_ofNat, UInt32.toNat_ofNat]
  omega

/-- A key that is written can be read back when it is not empty (source `TextKey::parse`). -/
lemma parse_str_iff {tag : KeyTag} {key read : TextKey tag} {what : Bytes} :
    TextKey.parse key.str what = .ok read ↔ key.str ≠ [] ∧ read = key := by
  constructor
  · intro parsed
    obtain rfl := parse_str parsed
    exact ⟨(TextKey.parse_eq_ok.1 parsed).1.1, rfl⟩
  · rintro ⟨nonempty, rfl⟩
    exact TextKey.parse_eq_ok.2 ⟨read.isKeyText nonempty, rfl⟩

/-- The entries of a sorted list are those of the list. -/
lemma forall_mem_sort [StdSort] {α : Type} {lt : α → α → Bool} {l : List α} {P : α → Prop} :
    (∀ a ∈ StdSort.sort lt l, P a) ↔ ∀ a ∈ l, P a :=
  forall_congr' fun _ => imp_congr_left (StdSort.perm lt l).mem_iff

/-- The entries of a list that is written are those that pass the filter (source `encode_module`).
-/
lemma forall_mem_sort_filter [StdSort] {α : Type} {lt : α → α → Bool} {keep : α → Bool} {l : List α}
    {P : α → Prop} :
    (∀ a ∈ StdSort.sort lt (l.filter keep), P a) ↔ ∀ a ∈ l, keep a = true → P a := by
  rw [forall_mem_sort]
  simp only [List.mem_filter, and_imp]

/-- A module is read back when what of it is written can be (source `decode_module`). -/
lemma decodeModule_iff [StdSort] {includeHistory : Bool} {record read : ModuleRecord} :
    decodeModule (encodeModule includeHistory record) = .ok read ↔
      record.Decodable includeHistory ∧ read = (record.stored includeHistory).restored := by
  have holds {k x} := holds_encoded k x (show encodeModule includeHistory record = _ from rfl)
    (record.stored includeHistory).fields_ok
  simp only [decodeModule, bind_eq_ok, asObject_eq (holds (k := "key") rfl).object,
    getText_eq (holds (k := "key") rfl), getUnsigned_counter (holds (k := "uid") rfl),
    getUnsigned_narrow (holds (k := "incarnation") rfl), getEnum_eq (holds (k := "state") rfl),
    getUnsignedOr_eq (holds (k := "state_generation") rfl),
    getUnsignedOr_eq (holds (k := "state_sequence") rfl),
    getIntegerOr_eq (holds (k := "state_wall_ns") rfl),
    getUnsignedOr_eq (holds (k := "created_generation") rfl),
    getUnsignedOr_eq (holds (k := "created_sequence") rfl),
    getIntegerOr_eq (holds (k := "created_wall_ns") rfl),
    getUnsignedOr_eq (holds (k := "fenced_generation") rfl),
    getUnsignedOr_narrow (holds (k := "incarnation_count") rfl),
    getArrayOr_eq (holds (k := "claims") rfl), getArrayOr_eq (holds (k := "declarations") rfl),
    getArrayOr_eq (holds (k := "samples") rfl), getArrayOr_eq (holds (k := "latches") rfl),
    getArrayOr_eq (holds (k := "lifecycle") rfl), decodeEach_eq_ok fun _ _ => decode_encode,
    decodeEach_eq_ok fun _ _ => decodeLatchRecord_eq_ok, narrow_wide, refuseIf_eq_ok,
    narrow_inRange, Except.ok.injEq, exists_eq_left']
  constructor
  · rintro ⟨key, parsed, uid, ⟨small, rfl⟩, _, named, _, incarnation, _, count, claims, ⟨c, rfl⟩,
      declarations, ⟨d, rfl⟩, samples, ⟨h, rfl⟩, latches, ⟨l, rfl⟩, lifecycle, ⟨e, rfl⟩, rfl⟩
    obtain ⟨nonempty, rfl⟩ := parse_str_iff.1 parsed
    exact ⟨⟨nonempty, small, named, incarnation, count, forall_mem_sort_filter.1 c,
      forall_mem_sort_filter.1 d, forall_mem_sort.1 h, l, forall_mem_sort.1 e⟩, rfl⟩
  · rintro ⟨decodable, rfl⟩
    exact ⟨record.key, parse_str_iff.2 ⟨decodable.key, rfl⟩, record.uid, ⟨decodable.uid, rfl⟩, (),
      decodable.named, (), decodable.incarnation, (), decodable.count,
      _, ⟨forall_mem_sort_filter.2 decodable.claims, rfl⟩,
      _, ⟨forall_mem_sort_filter.2 decodable.declarations, rfl⟩,
      _, ⟨forall_mem_sort.2 decodable.samples, rfl⟩, _, ⟨decodable.latches, rfl⟩,
      _, ⟨forall_mem_sort.2 decodable.lifecycle, rfl⟩, rfl⟩

/-- A module that is read back is the one that was written (source `decode_module`). -/
lemma decodeModule_eq_ok [StdSort] {includeHistory : Bool} {record read : ModuleRecord}
    (h : decodeModule (encodeModule includeHistory record) = .ok read) :
    read = (record.stored includeHistory).restored :=
  (decodeModule_iff.1 h).2

end Decoders

section Records

variable [StdSort] {options : LoadOptions} {generation : Generation} {s s' : State}

omit [StdSort] in
/-- What is read of a document is what was written (source `encode_document`). -/
lemma readDocument_encodeDocument {limits : CanonicalLimits} {v read : Value}
    (canonical : v.Canonical) (small : (encodeDocument v).length < 2 ^ 64)
    (h : readDocument limits (encodeDocument v) = .ok read) : read = v := by
  cases failed : (CanonicalWriter.new.writeValue v).failed with
  | false =>
    rw [encodeDocument, failed, if_neg Bool.false_ne_true] at h small
    exact readDocument_accepted canonical failed small h
  | true =>
    rw [encodeDocument, failed, if_pos rfl] at h
    have written := readDocument_inv h
    obtain ⟨content, bytes⟩ := writeValue_tag (congrArg CanonicalWriter.failed written)
    rw [written] at bytes
    cases bytes

/-- A record that is read changes the state as its value says (source `parse_snapshot`). -/
lemma readRecord_written {kind : UInt8} {v : Value} (canonical : v.Canonical)
    (small : (encodeDocument v).length < 2 ^ 64)
    (h : readRecord options generation ⟨kind, encodeDocument v⟩ s = .ok s') :
    applyRecord generation kind v s = .ok s' := by
  obtain ⟨document, read, h⟩ := bind_eq_ok.1 h
  rwa [readDocument_encodeDocument canonical small read] at h

/-- The records of a list of values of one kind (source `encode_state_records`). -/
def recordsOf {α : Type} (kind : UInt8) (encode : α → Value) (l : List α) : List Record :=
  l.map fun a => ⟨kind, encodeDocument (encode a)⟩

/-- A front part of a stream that starts with the records of a list reads a front part of the list
first (source `parse_snapshot`, the loop). -/
lemma readAll_recordsOf {α : Type} {kind : UInt8} {encode : α → Value} {add : State → α → State}
    (canonical : ∀ a, (encode a).Canonical)
    (adds : ∀ a s s', applyRecord generation kind (encode a) s = .ok s' → s' = add s a)
    {l : List α} {front back : List Record}
    (small : ∀ record ∈ front, record.payload.length < 2 ^ 64)
    (start : front <+: recordsOf kind encode l ++ back)
    (h : readAll options generation front s = .ok s') :
    ∃ l' front', l' <+: l ∧ front = recordsOf kind encode l' ++ front' ∧ front' <+: back ∧
      (front' ≠ [] → l' = l) ∧ readAll options generation front' (l'.foldl add s) = .ok s' := by
  induction l generalizing front s with
  | nil => exact ⟨[], front, List.prefix_rfl, rfl, start, fun _ => rfl, h⟩
  | cons a l ih =>
    cases front with
    | nil => exact ⟨[], [], List.nil_prefix, rfl, List.nil_prefix, fun more => absurd rfl more, h⟩
    | cons record front =>
      rw [recordsOf, List.map_cons, List.cons_append, List.cons_prefix_cons] at start
      obtain ⟨rfl, start⟩ := start
      obtain ⟨t, reads, rest⟩ := bind_eq_ok.1 h
      have read := readRecord_written (canonical a) (small _ List.mem_cons_self) reads
      obtain rfl := adds a s t read
      obtain ⟨l', front', before, rfl, start', whole, rest⟩ :=
        ih (fun r member => small r (List.mem_cons_of_mem _ member)) start rest
      exact ⟨a :: l', front', List.prefix_cons_inj a |>.2 before, rfl, start',
        fun more => by rw [whole more], rest⟩

end Records

section Tables

/-- Add a source (source `parse_snapshot`, `kRecordSource`). -/
def State.addSource (s : State) (source : SourceRecord) : State :=
  { s with
    sourceIdByName := s.sourceIdByName.insert source.name source.id
    sources := s.sources.insert source.id source.restored }

/-- Add a port (source `parse_snapshot`, `kRecordPort`). -/
def State.addPort (s : State) (record : PortRecord) : State :=
  { s with ports := s.ports.insert record.key.str record.restored }

/-- Add an attachment (source `parse_snapshot`, `kRecordAttachment`). -/
def State.addAttachment (s : State) (attachment : AttachmentRecord) : State :=
  { s with attachments := s.attachments.insert attachment.slot.str attachment }

/-- Add a threshold (source `parse_snapshot`, `kRecordThreshold`). -/
def State.addThreshold (s : State) (record : ThresholdRecord) : State :=
  { s with thresholds := s.thresholds ++ [record.restored] }

/-- Add a rule (source `parse_snapshot`, `kRecordRule`). -/
def State.addRule (s : State) (record : CompatRuleRecord) : State :=
  { s with rules := s.rules.insert record.id record }

/-- Adding sources fills the tables of the sources. -/
lemma foldl_addSource (l : List SourceRecord) (s : State) :
    l.foldl State.addSource s = { s with
      sources := insertAll SourceRecord.id (l.map SourceRecord.restored) s.sources
      sourceIdByName := nameAll SourceRecord.id SourceRecord.name (l.map SourceRecord.restored)
        s.sourceIdByName } := by
  induction l generalizing s with
  | nil => rfl
  | cons a l ih => exact ih _

/-- Adding ports fills the table of the ports. -/
lemma foldl_addPort (l : List PortRecord) (s : State) :
    l.foldl State.addPort s = { s with
      ports := insertAll (fun record : PortRecord => record.key.str)
        (l.map PortRecord.restored) s.ports } := by
  induction l generalizing s with
  | nil => rfl
  | cons a l ih => exact ih _

/-- Adding attachments fills the table of the slots. -/
lemma foldl_addAttachment (l : List AttachmentRecord) (s : State) :
    l.foldl State.addAttachment s = { s with
      attachments := insertAll (fun attachment : AttachmentRecord => attachment.slot.str) l
        s.attachments } := by
  induction l generalizing s with
  | nil => rfl
  | cons a l ih => exact ih _

/-- Adding thresholds extends the list of the thresholds. -/
lemma foldl_addThreshold (l : List ThresholdRecord) (s : State) :
    l.foldl State.addThreshold s =
      { s with thresholds := s.thresholds ++ l.map ThresholdRecord.restored } := by
  induction l generalizing s with
  | nil =>
    rw [List.map_nil, List.append_nil]
    rfl
  | cons a l ih =>
    refine (ih _).trans ?_
    rw [State.addThreshold, List.append_assoc]
    rfl

/-- Adding rules fills the table of the rules. -/
lemma foldl_addRule (l : List CompatRuleRecord) (s : State) :
    l.foldl State.addRule s = { s with rules := insertAll CompatRuleRecord.id l s.rules } := by
  induction l generalizing s with
  | nil => rfl
  | cons a l ih => exact ih _

end Tables

section Contents

variable [StdSort]

/-- The values that a snapshot holds records of. -/
structure Contents where
  sources : List SourceRecord
  modules : List ModuleRecord
  ports : List PortRecord
  attachments : List AttachmentRecord
  thresholds : List ThresholdRecord
  rules : List CompatRuleRecord

/-- The values of a state in the order they are written (source `encode_state_records`). -/
def State.contents (s : State) (includeHistory : Bool) : Contents where
  sources := StdSort.sort (fun lhs rhs => decide (lhs.id < rhs.id)) s.sources.values
  modules := StdSort.sort (fun lhs rhs => decide (lhs.uid < rhs.uid)) s.modules.values
  ports := StdSort.sort (fun lhs rhs => (compareBytes lhs.key.str rhs.key.str).isLT) s.ports.values
  attachments := StdSort.sort (fun lhs rhs => (compareBytes lhs.slot.str rhs.slot.str).isLT)
    s.attachments.values
  thresholds := s.thresholds.filter fun record => includeHistory || record.live
  rules := StdSort.sort (fun lhs rhs => decide (lhs.id < rhs.id)) s.rules.values

/-- The records of these values (source `encode_state_records`). -/
def Contents.records (includeHistory : Bool) (c : Contents) : List Record :=
  recordsOf kRecordSource encodeSource c.sources ++
    (recordsOf kRecordModule (encodeModule includeHistory) c.modules ++
      (recordsOf kRecordPort encodePort c.ports ++
        (recordsOf kRecordAttachment encode c.attachments ++
          (recordsOf kRecordThreshold encodeThreshold c.thresholds ++
            recordsOf kRecordRule encode c.rules))))

/-- The tables of these values as they are read back, over a state without any
(source `parse_snapshot`, the switch). -/
def Contents.rebuild (includeHistory : Bool) (c : Contents) (s : State) : State :=
  { s with
    sources := insertAll SourceRecord.id (c.sources.map SourceRecord.restored) ∅
    sourceIdByName :=
      nameAll SourceRecord.id SourceRecord.name (c.sources.map SourceRecord.restored) ∅
    modules := insertAll ModuleRecord.uid
      (c.modules.map fun record => (record.stored includeHistory).restored) ∅
    moduleUidByKey := nameAll ModuleRecord.uid (fun record : ModuleRecord => record.key.str)
      (c.modules.map fun record => (record.stored includeHistory).restored) ∅
    ports := insertAll (fun record : PortRecord => record.key.str)
      (c.ports.map PortRecord.restored) ∅
    attachments := insertAll (fun attachment : AttachmentRecord => attachment.slot.str)
      c.attachments ∅
    thresholds := c.thresholds.map ThresholdRecord.restored
    rules := insertAll CompatRuleRecord.id c.rules ∅ }

/-- The first values of every kind; those after the sources only come when the sources are
complete. -/
structure Contents.Front (c' c : Contents) : Prop where
  sources : c'.sources <+: c.sources
  modules : c'.modules <+: c.modules
  ports : c'.ports <+: c.ports
  attachments : c'.attachments <+: c.attachments
  thresholds : c'.thresholds <+: c.thresholds
  rules : c'.rules <+: c.rules
  complete : c'.modules ≠ [] ∨ c'.ports ≠ [] → c'.sources = c.sources

section Switch

variable {generation : Generation} {s s' : State}

/-- Add a module (source `parse_snapshot`, `kRecordModule`). -/
def State.addModule (includeHistory : Bool) (s : State) (record : ModuleRecord) : State :=
  { s with
    moduleUidByKey := s.moduleUidByKey.insert record.key.str record.uid
    modules := s.modules.insert record.uid (record.stored includeHistory).restored }

/-- Adding modules fills the tables of the modules. -/
lemma foldl_addModule (includeHistory : Bool) (l : List ModuleRecord) (s : State) :
    l.foldl (State.addModule includeHistory) s = { s with
      modules := insertAll ModuleRecord.uid
        (l.map fun record => (record.stored includeHistory).restored) s.modules
      moduleUidByKey := nameAll ModuleRecord.uid (fun record : ModuleRecord => record.key.str)
        (l.map fun record => (record.stored includeHistory).restored) s.moduleUidByKey } := by
  induction l generalizing s with
  | nil => rfl
  | cons a l ih => exact ih _

/-- The record of the counters replaces the state (source `parse_snapshot`, the switch). -/
lemma applyRecord_header {saved : State}
    (h : applyRecord generation kRecordHeader (encodeStateHeader saved) s = .ok s') :
    s' = saved.header generation := by
  obtain ⟨header, read, e⟩ := bind_eq_ok.1 h
  cases e
  exact decodeStateHeader_eq_ok read

/-- The record of a source adds it (source `parse_snapshot`, the switch). -/
lemma applyRecord_source (source : SourceRecord) (s s' : State)
    (h : applyRecord generation kRecordSource (encodeSource source) s = .ok s') :
    s' = s.addSource source := by
  obtain ⟨read, decoded, e⟩ := bind_eq_ok.1 h
  cases e
  rw [decodeSource_eq_ok decoded]
  rfl

/-- The record of a module adds it (source `parse_snapshot`, the switch). -/
lemma applyRecord_module (includeHistory : Bool) (record : ModuleRecord) (s s' : State)
    (h : applyRecord generation kRecordModule (encodeModule includeHistory record) s = .ok s') :
    s' = s.addModule includeHistory record := by
  obtain ⟨read, decoded, h⟩ := bind_eq_ok.1 h
  obtain ⟨_, _, e⟩ := bind_eq_ok.1 h
  cases e
  rw [decodeModule_eq_ok decoded]
  rfl

/-- The record of a port adds it (source `parse_snapshot`, the switch). -/
lemma applyRecord_port (record : PortRecord) (s s' : State)
    (h : applyRecord generation kRecordPort (encodePort record) s = .ok s') :
    s' = s.addPort record := by
  obtain ⟨read, decoded, e⟩ := bind_eq_ok.1 h
  cases e
  rw [decodePort_eq_ok decoded]
  rfl

/-- The record of an attachment adds it (source `parse_snapshot`, the switch). -/
lemma applyRecord_attachment (attachment : AttachmentRecord) (s s' : State)
    (h : applyRecord generation kRecordAttachment (encode attachment) s = .ok s') :
    s' = s.addAttachment attachment := by
  obtain ⟨read, decoded, e⟩ := bind_eq_ok.1 h
  cases e
  rw [(decode_encode.1 decoded).2]
  rfl

/-- The record of a threshold adds it (source `parse_snapshot`, the switch). -/
lemma applyRecord_threshold (record : ThresholdRecord) (s s' : State)
    (h : applyRecord generation kRecordThreshold (encodeThreshold record) s = .ok s') :
    s' = s.addThreshold record := by
  obtain ⟨read, decoded, e⟩ := bind_eq_ok.1 h
  cases e
  rw [decodeThreshold_eq_ok decoded]
  rfl

/-- The record of a rule adds it (source `parse_snapshot`, the switch). -/
lemma applyRecord_rule (record : CompatRuleRecord) (s s' : State)
    (h : applyRecord generation kRecordRule (encode record) s = .ok s') :
    s' = s.addRule record := by
  obtain ⟨read, decoded, e⟩ := bind_eq_ok.1 h
  cases e
  rw [(decode_encode.1 decoded).2]
  rfl

/-- Adding the values one after the other fills the tables
(source `parse_snapshot`, the switch). -/
lemma Contents.rebuild_eq {includeHistory : Bool} {c : Contents} {generation : Generation} :
    c.rules.foldl State.addRule (c.thresholds.foldl State.addThreshold
      (c.attachments.foldl State.addAttachment (c.ports.foldl State.addPort
        (c.modules.foldl (State.addModule includeHistory)
          (c.sources.foldl State.addSource (s.header generation)))))) =
    c.rebuild includeHistory (s.header generation) := by
  rw [foldl_addSource, foldl_addModule, foldl_addPort, foldl_addAttachment, foldl_addThreshold,
    foldl_addRule]
  rfl

/-- The records of a state are the record of its counters and those of its values
(source `encode_state_records`). -/
lemma stateRecords_eq {includeHistory : Bool} : stateRecords s includeHistory =
    ⟨kRecordHeader, encodeDocument (encodeStateHeader s)⟩ ::
      (s.contents includeHistory).records includeHistory := by
  simp only [stateRecords, Contents.records, State.contents, recordsOf, List.append_assoc,
    List.cons_append, List.nil_append]

variable {options : LoadOptions} {includeHistory : Bool}

/-- What is read of the records of some values is a front part of the values
(source `parse_snapshot`, the loop). -/
lemma readAll_contents {c : Contents} {front : List Record} {saved : State}
    (small : ∀ record ∈ front, record.payload.length < 2 ^ 64)
    (start : front <+: c.records includeHistory)
    (h : readAll options generation front (saved.header generation) = .ok s) :
    ∃ c' : Contents, c'.Front c ∧ front = c'.records includeHistory ∧
      s = c'.rebuild includeHistory (saved.header generation) := by
  obtain ⟨sources, front, sourcesFront, rfl, start, allSources, h⟩ :=
    readAll_recordsOf canonical_encodeSource applyRecord_source small start h
  have small := fun record member => small record (List.mem_append_right _ member)
  obtain ⟨modules, front, modulesFront, rfl, start, allModules, h⟩ :=
    readAll_recordsOf (canonical_encodeModule includeHistory)
      (applyRecord_module includeHistory) small start h
  have small := fun record member => small record (List.mem_append_right _ member)
  obtain ⟨ports, front, portsFront, rfl, start, _, h⟩ :=
    readAll_recordsOf canonical_encodePort applyRecord_port small start h
  have small := fun record member => small record (List.mem_append_right _ member)
  obtain ⟨attachments, front, attachmentsFront, rfl, start, _, h⟩ :=
    readAll_recordsOf LawfulCodec.canonical applyRecord_attachment small start h
  have small := fun record member => small record (List.mem_append_right _ member)
  obtain ⟨thresholds, front, thresholdsFront, rfl, start, _, h⟩ :=
    readAll_recordsOf canonical_encodeThreshold applyRecord_threshold small start h
  have small := fun record member => small record (List.mem_append_right _ member)
  rw [← List.append_nil (recordsOf kRecordRule encode c.rules)] at start
  obtain ⟨rules, front, rulesFront, rfl, start, _, h⟩ :=
    readAll_recordsOf LawfulCodec.canonical applyRecord_rule small start h
  obtain rfl := List.prefix_nil.1 start
  cases h
  refine ⟨⟨sources, modules, ports, attachments, thresholds, rules⟩,
    ⟨sourcesFront, modulesFront, portsFront, attachmentsFront, thresholdsFront, rulesFront,
      fun more => allSources ?_⟩, ?_, ?_⟩
  · obtain more | more := more <;> simp [recordsOf, more]
  · simp only [Contents.records, List.append_nil]
  · exact Contents.rebuild_eq (c := ⟨sources, modules, ports, attachments, thresholds, rules⟩)

end Switch

end Contents

section Parse

variable [StdSort] {options : LoadOptions} {includeHistory : Bool} {saved : State}

/-- The states that are parsed from the file of a saved state. -/
inductive Rebuilt (saved : State) (includeHistory : Bool) : State → Prop where
  /-- No record is read. -/
  | blank : Rebuilt saved includeHistory { State.initial with generation := saved.generation }
  /-- The counters and the first values are read. -/
  | front {c : Contents} (front : c.Front (saved.contents includeHistory)) :
      Rebuilt saved includeHistory (c.rebuild includeHistory (saved.header saved.generation))

omit [StdSort] in
/-- Giving up keeps the state (source `parse_snapshot`, the branches on `allow_tail_recovery`). -/
lemma recoverTail_state {parsed p : ParsedSnapshot} {dropped : Nat} {message note : String}
    (h : recoverTail options parsed dropped message note = .ok p) : p.state = parsed.state := by
  obtain ⟨_, rfl⟩ := recoverTail_eq_ok.1 h
  rfl

omit [StdSort] in
/-- The trailer does not change the state (source `parse_snapshot`, after the loop). -/
lemma checkTrailer_state {file accepted : Bytes} {recordEnd : Nat} {q q' : ParsedSnapshot}
    (h : checkTrailer options file recordEnd q accepted = .ok q') : q'.state = q.state := by
  rw [checkTrailer] at h
  split at h
  · cases h
    rfl
  split at h
  · exact recoverTail_state h
  split at h
  · exact recoverTail_state h
  · obtain ⟨_, e⟩ := refuseIf_bind_eq_ok.1 h
    cases e
    rfl

/-- The length that the header of a short file declares (source `save_snapshot_impl`). -/
lemma recordBytes_of_short
    (short : (snapshotFile saved includeHistory).length ≤ kMaxSnapshotBytes) :
    readNumber 8 (snapshotFile saved includeHistory) 16 =
      (encodeStateRecords saved includeHistory).length := by
  rw [length_snapshotFile] at short
  rw [recordBytes_snapshotFile]
  refine Nat.mod_eq_of_lt (lt_of_le_of_lt (b := kMaxSnapshotBytes) (by omega) ?_)
  decide

/-- The record part of a short file is the record stream (source `save_snapshot_impl`). -/
lemma recordPart_of_short
    (short : (snapshotFile saved includeHistory).length ≤ kMaxSnapshotBytes) :
    recordPart (snapshotFile saved includeHistory) = encodeStateRecords saved includeHistory := by
  rw [recordPart, recordBytes_of_short short, drop_snapshotFile, List.take_left' rfl]

/-- What is read of the first records of a state is the state up to a record
(source `parse_snapshot`, the loop). -/
lemma readAll_stateRecords {front back : List Record} {t : State}
    (documents : Documents (stateRecords saved includeHistory))
    (parts : stateRecords saved includeHistory = front ++ back)
    (run : readAll options saved.generation front
      { State.initial with generation := saved.generation } = .ok t) :
    Rebuilt saved includeHistory t := by
  cases front with
  | nil =>
    rw [← Except.ok.inj run]
    exact .blank
  | cons record front =>
    have small : ∀ r ∈ record :: front, r.payload.length < 2 ^ 64 := fun r member => by
      refine (documents r ?_).2
      rw [parts]
      exact List.mem_append_left _ member
    rw [stateRecords_eq, List.cons_append, List.cons.injEq] at parts
    obtain ⟨rfl, parts⟩ := parts
    obtain ⟨t', header, run⟩ := bind_eq_ok.1 run
    have headerSmall := small _ List.mem_cons_self
    dsimp only at headerSmall
    have read := readRecord_written (canonical_encodeStateHeader saved) headerSmall header
    obtain rfl := applyRecord_header read
    obtain ⟨c, first, _, rfl⟩ := readAll_contents
      (fun r member => small r (List.mem_cons_of_mem _ member)) ⟨back, parts.symm⟩ run
    exact .front first

/-- What is parsed from a written file is the saved state up to a record
(source `parse_snapshot`). -/
lemma parseSnapshot_written {p : ParsedSnapshot}
    (short : (snapshotFile saved includeHistory).length ≤ kMaxSnapshotBytes)
    (h : parseSnapshot (snapshotFile saved includeHistory) options = .ok p) :
    Rebuilt saved includeHistory p.state := by
  have documents : Documents (stateRecords saved includeHistory) :=
    documents_stateRecords (lt_of_le_of_lt short (by decide))
  rw [parseSnapshot_eq_ok,
    if_neg (by rw [recordBytes_of_short short, length_snapshotFile]; omega),
    recordPart_of_short short, parsedHeader, declaredGeneration_snapshotFile] at h
  obtain ⟨_, q, accepted, reads, q', checks, rfl⟩ := h
  obtain ⟨front, back, rest, t, parts, _, _, _, run, stops⟩ :=
    readRecords_stops documents le_rfl (List.append_nil _).symm reads
  have reached : q'.state = t := by
    rw [checkTrailer_state checks]
    obtain ⟨_, rfl⟩ | ⟨_, _, _, given⟩ := stops
    · rfl
    · exact recoverTail_state given
  show Rebuilt saved includeHistory q'.state
  rw [reached]
  exact readAll_stateRecords documents parts run

/-- What a load of a written file did (source `load_snapshot`). -/
lemma loadSnapshot_written {clock : Clock} {s s' : State} {report : LoadReport}
    (h : loadSnapshot clock options (snapshotFile saved includeHistory) s = .ok (s', report)) :
    ∃ parsed, Rebuilt saved includeHistory parsed ∧ s' = parsed.restore (clock.wallNowNs 0) := by
  obtain ⟨_, short, p, parse, rfl, _⟩ := loadSnapshot_eq_ok.1 h
  exact ⟨p.state, parseSnapshot_written short parse, rfl⟩

end Parse

end TransceiverRegistry
