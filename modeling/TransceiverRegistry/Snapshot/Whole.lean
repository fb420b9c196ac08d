import TransceiverRegistry.Snapshot.Truncation

/-!
# What is read of a whole file

A load that gives up nothing reads every record of the file that was written: the tables are those of
the saved state with each record as it is read back, and the counters below 2^63 are kept.
-/

namespace TransceiverRegistry

open Lib

section Contents

variable [StdSort] {includeHistory : Bool} {c c' : Contents}

/-- The number of the values. -/
def Contents.length (c : Contents) : Nat :=
  c.sources.length + (c.modules.length + (c.ports.length + (c.attachments.length +
    (c.thresholds.length + c.rules.length))))

/-- Every value has a record (source `encode_state_records`). -/
lemma Contents.length_records : (c.records includeHistory).length = c.length := by
  simp only [records, recordsOf, List.length_append, List.length_map, Contents.length]

omit [StdSort] in
/-- The first values are all of them when they are as many. -/
lemma Contents.Front.eq_of_length (front : c'.Front c) (whole : c'.length = c.length) : c' = c := by
  have sources := front.sources.length_le
  have modules := front.modules.length_le
  have ports := front.ports.length_le
  have attachments := front.attachments.length_le
  have thresholds := front.thresholds.length_le
  have rules := front.rules.length_le
  unfold Contents.length at whole
  have all : c'.sources = c.sources ∧ c'.modules = c.modules ∧ c'.ports = c.ports ∧
      c'.attachments = c.attachments ∧ c'.thresholds = c.thresholds ∧ c'.rules = c.rules :=
    ⟨front.sources.eq_of_length (by omega), front.modules.eq_of_length (by omega),
      front.ports.eq_of_length (by omega), front.attachments.eq_of_length (by omega),
      front.thresholds.eq_of_length (by omega), front.rules.eq_of_length (by omega)⟩
  obtain ⟨_, _, _, _, _, _⟩ := c
  obtain ⟨_, _, _, _, _, _⟩ := c'
  rwa [Contents.mk.injEq]

end Contents

section Load

variable [StdSort] {options : LoadOptions} {includeHistory : Bool} {saved s s' : State}

/-- The state that the file of a state holds (source `parse_snapshot`). -/
def State.reread (s : State) (includeHistory : Bool) : State :=
  (s.contents includeHistory).rebuild includeHistory (s.header s.generation)

/-- What is parsed of a written file, when nothing of it is given up (source `parse_snapshot`). -/
lemma parseSnapshot_whole {p : ParsedSnapshot}
    (short : (snapshotFile saved includeHistory).length ≤ kMaxSnapshotBytes)
    (h : parseSnapshot (snapshotFile saved includeHistory) options = .ok p)
    (intact : p.tailRecovered = false) : p.state = saved.reread includeHistory := by
  have documents : Documents (stateRecords saved includeHistory) :=
    documents_stateRecords (Nat.lt_of_le_of_lt short (by decide))
  obtain ⟨_, _, _, _, q, reads, rfl⟩ := (parseSnapshot_intact intact).1 h
  rw [recordPart_of_short short, declaredGeneration_snapshotFile] at reads
  obtain ⟨front, back, parts, _, tail, _, run, _⟩ :=
    readRecords_front documents le_rfl (List.append_nil _).symm reads intact
  obtain rfl : back = [] := eq_nil_of_length_frames (by rw [← tail, List.length_nil])
  rw [List.append_nil] at parts
  subst parts
  rw [stateRecords_eq] at run documents
  obtain ⟨t, header, run⟩ := bind_eq_ok.1 run
  have small := fun record member => (documents record member).2
  have headerSmall := small _ List.mem_cons_self
  dsimp only at headerSmall
  have read := readRecord_written (canonical_encodeStateHeader saved) headerSmall header
  obtain rfl := applyRecord_header read
  obtain ⟨c, first, records, state⟩ := readAll_contents
    (fun record member => small record (List.mem_cons_of_mem _ member)) List.prefix_rfl run
  have all : c.length = (saved.contents includeHistory).length := by
    rw [← c.length_records, ← Contents.length_records, records]
  rw [first.eq_of_length all] at state
  exact state

/-- The state after the load of a written file of which nothing is given up
(source `load_snapshot`). -/
lemma loadSnapshot_whole {clock : Clock} {report : LoadReport}
    (h : loadSnapshot clock options (snapshotFile saved includeHistory) s = .ok (s', report))
    (intact : report.tailRecovered = false) :
    s' = (saved.reread includeHistory).restore (clock.wallNowNs 0) := by
  obtain ⟨_, short, p, parse, rfl, rfl⟩ := loadSnapshot_eq_ok.1 h
  have intact : p.tailRecovered = false := intact
  rw [parseSnapshot_whole short parse intact]

/-- The modules of a file are the modules of the state, each as it is read back
(source `parse_snapshot`, `kRecordModule`). -/
lemma State.reread_modules (keyed : Keyed ModuleRecord.uid s.modules) :
    (s.reread includeHistory).modules =
      s.modules.map fun _ record => (record.stored includeHistory).restored :=
  keyed.insertAll_map (f := fun record => (record.stored includeHistory).restored)
    (StdSort.perm _ _) fun _ => rfl

end Load

end TransceiverRegistry
