import TransceiverRegistry.Registry.Operation
import TransceiverRegistry.Snapshot.Rebuilt

/-!
# Recovering the front of a torn file

The options of a load promise the longest valid front part of a torn file. A file that was cut off in
its trailer gives that. A file that was cut off before the end of its records is shorter than its
header declares, and the parser returns an empty state without looking at the records that are whole.
-/

namespace TransceiverRegistry

open Lib

section Definitions

variable [StdSort]

/-- The file of the state is read to its end (source `read_file`, `parse_snapshot`). -/
def Loadable (options : LoadOptions) (s : State) (includeHistory : Bool) : Prop :=
  (snapshotFile s includeHistory).length ≤ kMaxSnapshotBytes ∧
    ∃ p, parseSnapshot (snapshotFile s includeHistory) options = .ok p ∧ p.tailRecovered = false

/-- The records whose frames are whole in the first `n` bytes of the file of a state, as many as
there are (source `LoadOptions::allow_tail_recovery`, the longest valid prefix). -/
structure WholeFrames (s : State) (includeHistory : Bool) (n : Nat) (front : List Record) : Prop where
  first : front <+: stateRecords s includeHistory
  whole : kHeaderBytes + (frames front).length ≤ n
  most : ∀ record, front ++ [record] <+: stateRecords s includeHistory →
    n < kHeaderBytes + (frames (front ++ [record])).length

/-- What was read of a torn file is the state built from the whole frames, and everything after them
was given up (source `LoadOptions::allow_tail_recovery`). -/
structure RecoversFront (options : LoadOptions) (s : State) (includeHistory : Bool) (n : Nat)
    (p : ParsedSnapshot) : Prop where
  recovered : p.tailRecovered = true
  built : ∃ front, WholeFrames s includeHistory n front ∧
    readAll options s.generation front .initial = .ok p.state ∧
    p.droppedBytes = n - (kHeaderBytes + (frames front).length)

end Definitions

variable {options : LoadOptions} {s : State} {includeHistory : Bool} {n : Nat} {file : Bytes}

/-- A number in the front part of a file is that of the file. -/
lemma readNumber_take {count offset : Nat} (inside : offset + count ≤ n) (short : n ≤ file.length) :
    readNumber count (file.take n) offset = readNumber count file offset := by
  have long : offset + count ≤ (file.take n).length := by
    rw [List.length_take, Nat.min_eq_left short]
    exact inside
  have whole : readNumber count (file.take n ++ file.drop n) offset
      = readNumber count (file.take n) offset := readNumber_append long
  rw [List.take_append_drop] at whole
  exact whole.symm

/-- The header of a file that is cut off after it is in order when that of the file is
(source `parse_snapshot`). -/
lemma HeaderOk.take (ok : HeaderOk file) (long : kHeaderBytes + kTrailerBytes ≤ n)
    (short : n ≤ file.length) : HeaderOk (file.take n) := by
  have header : 32 ≤ n := Nat.le_trans (by decide) long
  refine ⟨?_, ?_, ?_, ?_, ?_, ?_⟩
  · rw [List.length_take, Nat.min_eq_left short]
    exact long
  · have magic : kSnapshotMagic.length ≤ n := Nat.le_trans (by decide) header
    rw [List.take_take, Nat.min_eq_left magic]
    exact ok.magic
  · rw [readNumber_take (by omega) short]
    exact ok.version
  · rw [readNumber_take (by omega) short]
    exact ok.flags
  · rw [readNumber_take (by omega) short]
    exact ok.reserved
  · rw [readNumber_take (by omega) short]
    exact ok.bounded

/-- The frames of some first records that have no bytes are of no record. -/
lemma eq_nil_of_length_frames {records : List Record} (none : (frames records).length = 0) :
    records = [] := by
  cases records with
  | nil => rfl
  | cons record rest =>
    rw [frames_cons, List.length_append, Record.length_frame] at none
    omega

/-- The frames of one record (source `append_record`). -/
lemma frames_singleton (record : Record) : frames [record] = record.frame := by
  rw [frames_cons, frames, List.flatMap_nil, List.append_nil]

section Recovery

variable [StdSort]

/-- The first record of a state replaces what was read before it (source `parse_snapshot`, the
branch of `kRecordHeader`). -/
lemma readAll_stateRecords_congr {generation : Generation} (t t' : State) :
    readAll options generation (stateRecords s includeHistory) t =
      readAll options generation (stateRecords s includeHistory) t' := by
  rw [stateRecords_eq]
  rfl

/-- A file that is cut off is shorter, and declares the same record bytes (source
`parse_snapshot`). -/
lemma declared_take (loadable : Loadable options s includeHistory)
    (long : kHeaderBytes + kTrailerBytes ≤ n)
    (torn : n < (snapshotFile s includeHistory).length) :
    HeaderOk ((snapshotFile s includeHistory).take n) ∧
      ((snapshotFile s includeHistory).take n).length = n ∧
      readNumber 8 ((snapshotFile s includeHistory).take n) 16 =
        (encodeStateRecords s includeHistory).length := by
  obtain ⟨short, whole, parsed, intact⟩ := loadable
  have ok := ((parseSnapshot_intact intact).1 parsed).1
  have header : 32 ≤ n := Nat.le_trans (by decide) long
  refine ⟨ok.take long torn.le, ?_, ?_⟩
  · rw [List.length_take, Nat.min_eq_left torn.le]
  · rw [readNumber_take (by omega) torn.le, recordBytes_of_short short]

/-- A file that is cut off in its records is read as an empty state (source `parse_snapshot`, the
comparison with `record_bytes`). -/
lemma parseSnapshot_take_records (recovery : options.allowTailRecovery = true)
    (loadable : Loadable options s includeHistory) (long : kHeaderBytes + kTrailerBytes ≤ n)
    (cut : n < kHeaderBytes + (encodeStateRecords s includeHistory).length) :
    parseSnapshot ((snapshotFile s includeHistory).take n) options = .ok { ({} : ParsedSnapshot) with
      tailRecovered := true
      droppedBytes := n - kHeaderBytes
      note := text "the snapshot payload is shorter than its header declares" } := by
  have torn : n < (snapshotFile s includeHistory).length := by
    rw [length_snapshotFile]
    omega
  obtain ⟨ok, length, declared⟩ := declared_take loadable long torn
  rw [parseSnapshot_eq_ok, declared, length, if_pos cut]
  exact ⟨ok, recoverTail_eq_ok.2 ⟨recovery, rfl⟩⟩

/-- A file that is cut off in its trailer is read to the end of its records (source
`parse_snapshot`, after the loop). -/
lemma parseSnapshot_take_trailer (recovery : options.allowTailRecovery = true)
    (loadable : Loadable options s includeHistory) (long : kHeaderBytes + kTrailerBytes ≤ n)
    (torn : n < (snapshotFile s includeHistory).length)
    (whole : kHeaderBytes + (encodeStateRecords s includeHistory).length ≤ n) :
    ∃ p, parseSnapshot ((snapshotFile s includeHistory).take n) options = .ok p ∧
      p.tailRecovered = true ∧
      readAll options s.generation (stateRecords s includeHistory) .initial = .ok p.state ∧
      p.droppedBytes = n - (kHeaderBytes + (encodeStateRecords s includeHistory).length) := by
  obtain ⟨ok, length, declared⟩ := declared_take loadable long torn
  obtain ⟨short, _, parsed, intact⟩ := loadable
  obtain ⟨_, _, _, _, q, reads, rfl⟩ := (parseSnapshot_intact intact).1 parsed
  have intact : q.tailRecovered = false := intact
  have header : 32 ≤ n := Nat.le_trans (by decide) long
  have generation : declaredGeneration ((snapshotFile s includeHistory).take n) =
      declaredGeneration (snapshotFile s includeHistory) := by
    rw [declaredGeneration, declaredGeneration, readNumber_take (by omega) torn.le]
  have start : parsedHeader ((snapshotFile s includeHistory).take n) =
      parsedHeader (snapshotFile s includeHistory) := by
    rw [parsedHeader, parsedHeader, generation]
  have part : recordPart ((snapshotFile s includeHistory).take n) =
      encodeStateRecords s includeHistory := by
    have inside : (encodeStateRecords s includeHistory).length ≤ n - kHeaderBytes := by omega
    rw [recordPart, declared, List.drop_take, List.take_take, Nat.min_eq_left inside,
      drop_snapshotFile, List.take_left' rfl]
  rw [recordPart_of_short short] at reads
  -- the records are read as in the whole file, and then the trailer is found to be too short
  let cutOff : ParsedSnapshot := { q with
    tailRecovered := true
    droppedBytes := n - (kHeaderBytes + (encodeStateRecords s includeHistory).length)
    note := text "the snapshot trailer is incomplete" }
  have trailer : checkTrailer options ((snapshotFile s includeHistory).take n)
      (kHeaderBytes + (encodeStateRecords s includeHistory).length) q
      (encodeStateRecords s includeHistory) = .ok cutOff := by
    rw [length_snapshotFile] at torn
    rw [checkTrailer, intact, length, if_neg Bool.false_ne_true, if_pos torn]
    exact recoverTail_eq_ok.2 ⟨recovery, rfl⟩
  have all : readAll options s.generation (stateRecords s includeHistory) .initial =
      .ok q.state := by
    obtain ⟨front, back, parts, bytes, tail, _, run, _⟩ := readRecords_front
      (documents_stateRecords (Nat.lt_of_le_of_lt short (by decide))) le_rfl
      (List.append_nil _).symm reads intact
    obtain rfl : back = [] := eq_nil_of_length_frames (by rw [← tail, List.length_nil])
    rw [List.append_nil] at parts
    rw [declaredGeneration_snapshotFile, ← parts] at run
    rw [← run]
    exact readAll_stateRecords_congr _ _
  refine ⟨{ cutOff with contentDigest := sha256 (encodeStateRecords s includeHistory) },
    parseSnapshot_eq_ok.2 ⟨ok, ?_⟩, rfl, all, rfl⟩
  rw [declared, length, if_neg (Nat.not_lt.2 whole), part, start, generation]
  exact ⟨q, _, reads, cutOff, trailer, rfl⟩

/-- The first record of a state (source `encode_state_records`). -/
def headerRecord (s : State) : Record := ⟨kRecordHeader, encodeDocument (encodeStateHeader s)⟩

/-- No record of a file that is cut off before the end of its first record is whole. -/
lemma wholeFrames_nil (long : kHeaderBytes ≤ n) (cut : n < kHeaderBytes + (headerRecord s).frame.length) :
    WholeFrames s includeHistory n [] := by
  refine ⟨List.nil_prefix, long, ?_⟩
  rintro record ⟨rest, parts⟩
  rw [stateRecords_eq, List.nil_append, List.singleton_append, List.cons.injEq] at parts
  rw [parts.1, List.nil_append, frames_singleton]
  exact cut

/-- Every record of a file that is cut off in its trailer is whole. -/
lemma wholeFrames_all (whole : kHeaderBytes + (encodeStateRecords s includeHistory).length ≤ n) :
    WholeFrames s includeHistory n (stateRecords s includeHistory) := by
  refine ⟨List.prefix_rfl, whole, fun record more => ?_⟩
  have longer := more.length_le
  rw [List.length_append, List.length_singleton] at longer
  exact absurd longer (Nat.not_succ_le_self _)

/-- A file that is cut off in its records after the first one is not recovered (source
`parse_snapshot`, the comparison with `record_bytes`). -/
lemma not_recoversFront (recovery : options.allowTailRecovery = true)
    (loadable : Loadable options s includeHistory) (long : kHeaderBytes + kTrailerBytes ≤ n)
    (cut : n < kHeaderBytes + (encodeStateRecords s includeHistory).length)
    (first : kHeaderBytes + (headerRecord s).frame.length ≤ n) :
    ¬ ∃ p, parseSnapshot ((snapshotFile s includeHistory).take n) options = .ok p ∧
      RecoversFront options s includeHistory n p := by
  rintro ⟨p, parsed, _, front, ⟨_, inside, most⟩, _, dropped⟩
  rw [parseSnapshot_take_records recovery loadable long cut] at parsed
  obtain rfl := Except.ok.inj parsed
  have dropped : n - kHeaderBytes = n - (kHeaderBytes + (frames front).length) := dropped
  obtain rfl : front = [] := eq_nil_of_length_frames (by omega)
  have next := most (headerRecord s) (by
    rw [stateRecords_eq]
    exact ⟨_, rfl⟩)
  rw [List.nil_append, frames_singleton] at next
  exact Nat.not_lt.2 first next

/-- For a state that can be loaded and a file that is cut off at any length the parser looks at: the
parser recovers the state of the whole records and reports what follows them as dropped, exactly when
the file was cut off after its records, or before the end of its first record (source
`parse_snapshot`, `LoadOptions::allow_tail_recovery`). -/
theorem tail_recovery_iff (recovery : options.allowTailRecovery = true)
    (loadable : Loadable options s includeHistory) (long : kHeaderBytes + kTrailerBytes ≤ n)
    (torn : n < (snapshotFile s includeHistory).length) :
    (∃ p, parseSnapshot ((snapshotFile s includeHistory).take n) options = .ok p ∧
      RecoversFront options s includeHistory n p) ↔
    kHeaderBytes + (encodeStateRecords s includeHistory).length ≤ n ∨
      n < kHeaderBytes + (headerRecord s).frame.length := by
  by_cases whole : kHeaderBytes + (encodeStateRecords s includeHistory).length ≤ n
  · refine iff_of_true ?_ (.inl whole)
    obtain ⟨p, parsed, recovered, built, dropped⟩ :=
      parseSnapshot_take_trailer recovery loadable long torn whole
    exact ⟨p, parsed, recovered, stateRecords s includeHistory, wholeFrames_all whole, built, dropped⟩
  · rw [or_iff_right whole]
    constructor
    · intro recovers
      by_contra first
      exact not_recoversFront recovery loadable long (Nat.not_le.1 whole) (Nat.not_lt.1 first) recovers
    · intro cut
      have empty := parseSnapshot_take_records recovery loadable long (Nat.not_le.1 whole)
      have header : kHeaderBytes ≤ n := Nat.le_trans (Nat.le_add_right _ _) long
      exact ⟨_, empty, rfl, [], wholeFrames_nil header cut, rfl, rfl⟩

end Recovery

/-- The file of a state has more than its first record, and is read to its end. -/
def readsRecords (s : State) : Bool :=
  (snapshotFile s true).length ≤ kMaxSnapshotBytes &&
    kTrailerBytes ≤ (headerRecord s).frame.length &&
    (headerRecord s).frame.length < (encodeStateRecords s true).length &&
    (parseSnapshot (snapshotFile s true) {}).toOption.any (·.tailRecovered = false)

set_option maxRecDepth 20000 in
/-- With a source the file of a state has two records. -/
lemma exists_readsRecords : ∃ s, Run (step {}) Unguarded State.initial s ∧ readsRecords s = true := by
  have registered : (runActions (step {}) [registerHost] State.initial).any readsRecords = true := by
    decide +kernel
  exact Run.exists_ofActions registered

/-- The file of a registry with one source, cut off after its records, is recovered. -/
theorem tail_recovery_iff_source : ∃ s n p, n < (snapshotFile s true).length ∧
    parseSnapshot ((snapshotFile s true).take n) {} = .ok p ∧ RecoversFront {} s true n p := by
  obtain ⟨s, _, reads⟩ := exists_readsRecords
  simp only [readsRecords, Bool.and_eq_true, decide_eq_true_eq] at reads
  obtain ⟨⟨⟨short, _⟩, more⟩, read⟩ := reads
  obtain ⟨parsed, whole, intact⟩ := exists_ok_of_any read
  have loadable : Loadable {} s true := ⟨short, parsed, whole, of_decide_eq_true intact⟩
  have torn : kHeaderBytes + (encodeStateRecords s true).length < (snapshotFile s true).length := by
    rw [length_snapshotFile]
    exact Nat.lt_add_of_pos_right (by decide)
  obtain ⟨p, recovers⟩ := (tail_recovery_iff rfl loadable (by omega) torn).2 (.inl (Nat.le_refl _))
  exact ⟨s, _, p, torn, recovers⟩

/-- Cut off after its first record, the file of a registry with one source is read as the file of an
empty registry (source `parse_snapshot`, the comparison with `record_bytes`). -/
theorem whole_records_dropped :
    ¬ ∀ (options : LoadOptions) (s : State) (includeHistory : Bool) (n : Nat),
      options.allowTailRecovery = true → Loadable options s includeHistory →
      kHeaderBytes + kTrailerBytes ≤ n → n < (snapshotFile s includeHistory).length →
      ∃ p, parseSnapshot ((snapshotFile s includeHistory).take n) options = .ok p ∧
        RecoversFront options s includeHistory n p := by
  intro h
  obtain ⟨s, _, reads⟩ := exists_readsRecords
  simp only [readsRecords, Bool.and_eq_true, decide_eq_true_eq] at reads
  obtain ⟨⟨⟨short, long⟩, more⟩, read⟩ := reads
  obtain ⟨parsed, whole, intact⟩ := exists_ok_of_any read
  have loadable : Loadable {} s true := ⟨short, parsed, whole, of_decide_eq_true intact⟩
  have torn : kHeaderBytes + (headerRecord s).frame.length < (snapshotFile s true).length := by
    rw [length_snapshotFile]
    omega
  have recovers := h {} s true _ rfl loadable (Nat.add_le_add_left long _) torn
  exact not_recoversFront rfl loadable (Nat.add_le_add_left long _) (Nat.add_lt_add_left more _)
    (Nat.le_refl _) recovers

end TransceiverRegistry
