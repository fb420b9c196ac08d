import TransceiverRegistry.Codec.Encoders
import TransceiverRegistry.Snapshot.Truncation

/-!
# Records that are too long

The file of a state is written with records of any length, and the parser takes a record that is
longer than its limit for the torn end of the file. So a file with such a record is read up to the
record, and what was written after it is lost.
-/

namespace TransceiverRegistry

open Lib CanonicalWriter

section Frames

variable {record : Record} {rest : Bytes}

/-- A record that is not too long is read from its frame (source `parse_snapshot`, the head of the
loop). -/
lemma nextRecord_frame_short (short : record.body.length ≤ kMaxRecordBytes) :
    nextRecord (record.frame ++ rest) = .record record record.frame rest := by
  have small : record.body.length < 256 ^ 4 := short.trans_lt (by decide)
  have frame : record.frame.length = 4 + record.body.length + 4 := by
    rw [record.length_frame]
    omega
  refine nextRecord_eq_record.2 ⟨record.body.length, ?_, Nat.succ_pos _, short, ?_, ?_, ?_, ?_, ?_⟩
  · rw [record.readNumber_frame, Nat.mod_eq_of_lt small]
  · rw [List.length_append]
    omega
  · rw [record.drop_frame, List.take_left' rfl]
    have parts : record.frame ++ rest = (littleEndian 4 record.body.length ++ record.body) ++
        (littleEndian 4 (crc32c record.body 0).toNat ++ rest) := by
      simp only [Record.frame, List.append_assoc]
    rw [readNumber_written parts (by simp)]
    exact (Nat.mod_eq_of_lt (UInt32.toNat_lt _)).symm
  · rw [record.drop_frame, List.take_left' rfl]
    rfl
  · rw [← frame, List.take_left' rfl]
  · rw [← frame, List.drop_left' rfl]

/-- A record that is too long is taken for the end of the file (source `parse_snapshot`, the head of
the loop, `kMaxRecordBytes`). -/
lemma nextRecord_frame_long (long : kMaxRecordBytes < record.body.length)
    (small : record.body.length < 256 ^ 4) :
    nextRecord (record.frame ++ rest) = .torn "snapshot record length is out of range"
      "a record length is out of range; the rest of the payload was dropped" := by
  have frame : 4 ≤ (record.frame ++ rest).length := by
    rw [List.length_append, record.length_frame]
    omega
  rw [nextRecord, if_neg (Nat.not_lt.2 frame)]
  dsimp only
  rw [record.readNumber_frame, Nat.mod_eq_of_lt small, if_pos (.inr long)]

/-- A frame has bytes (source `append_record`). -/
lemma frame_append_ne_nil : record.frame ++ rest ≠ [] := by
  intro none
  have length := congrArg List.length none
  rw [List.length_append, record.length_frame, List.length_nil] at length
  omega

end Frames

section Texts

/-- What is written for a document with a text in it is what is written for the text, with the same
before and after it for every text. -/
def WritesAround (document : Bytes → Value) : Prop :=
  ∃ before after : CanonicalWriter, ∀ t,
    new.writeValue (document t) = before.andThen ((new.text t).andThen after)

variable {document : Bytes → Value}

/-- What is written for the first members does not depend on the other ones
(source `CanonicalWriter::write_value`, the object loop). -/
lemma writeMembers_append (w : CanonicalWriter) (ms ms' : List (Bytes × Value)) :
    w.writeMembers (ms ++ ms') = (w.writeMembers ms).writeMembers ms' := by
  induction ms generalizing w with
  | nil => rfl
  | cons m rest ih => rw [List.cons_append, writeMembers, writeMembers, ih]

/-- Nothing is before or after a text alone (source `CanonicalWriter::text`). -/
lemma WritesAround.text : WritesAround .text := by
  refine ⟨new, new, fun t => ?_⟩
  rw [writeValue]
  simp [andThen, new]

/-- A document with the text is the element of an array (source `CanonicalWriter::write_value`, the
array loop). -/
lemma WritesAround.element (around : WritesAround document) :
    WritesAround fun t => .array [document t] := by
  obtain ⟨before, after, h⟩ := around
  refine ⟨(new.beginArray 1).andThen before, after, fun t => ?_⟩
  rw [writeValue, writeElements, writeElements, writeValue_eq, h, andThen_assoc]
  rfl

/-- A document with the text is a field of an object whose keys are in order
(source `CanonicalWriter::write_value`, the object loop). -/
lemma WritesAround.field (around : WritesAround document) (front back : List (String × Value))
    (key : String)
    (ordered : namesOrdered (front.map Prod.fst ++ key :: back.map Prod.fst) = true) :
    WritesAround fun t => codecObject (front ++ (key, document t) :: back) := by
  obtain ⟨before, after, h⟩ := around
  let bytes (ms : List (String × Value)) := ms.map fun m => (TransceiverRegistry.text m.1, m.2)
  let members := new.beginObject (front.length + (back.length + 1))
  let start := (members.writeMembers (bytes front)).field (TransceiverRegistry.text key)
  refine ⟨start.andThen before, after.andThen (new.writeMembers (bytes back)), fun t => ?_⟩
  have names : namesOrdered ((front ++ (key, document t) :: back).map Prod.fst) = true := by
    rwa [List.map_append]
  beta_reduce
  rw [codecObject_of_ordered names, writeValue, List.map_append, writeMembers_append,
    List.length_append, List.length_map, List.map_cons, List.length_cons, List.length_map,
    writeMembers, writeMembers_eq, writeValue_eq, h]
  simp only [andThen_assoc, start, members, bytes]

/-- What is written for a document that has a canonical form (source `encode_document`). -/
lemma encodeDocument_of_written {v : Value} (written : (new.writeValue v).failed = false) :
    encodeDocument v = (new.writeValue v).bytes := by
  rw [encodeDocument, written, if_neg Bool.false_ne_true]

/-- A document that is written with the empty text is written with every text, and is as long as the
text, up to a constant (source `encode_document`). -/
lemma WritesAround.length (around : WritesAround document) {t : Bytes}
    (valid : isValidUtf8 t = true)
    (written : (new.writeValue (document [])).failed = false) :
    t.length ≤ (encodeDocument (document t)).length ∧
      (encodeDocument (document t)).length ≤
        (encodeDocument (document [])).length + (16 + t.length) := by
  obtain ⟨before, after, h⟩ := around
  rw [encodeDocument_of_written written]
  rw [h] at written ⊢
  simp only [andThen, Bool.or_eq_false_iff] at written
  have most := text_length_le t
  have least : t.length ≤ (new.text t).bytes.length ∧ (new.text t).failed = false := by
    rw [CanonicalWriter.text, if_pos valid]
    refine ⟨?_, rfl⟩
    simp only [append, List.length_append, List.length_cons]
    omega
  have succeeds : (new.writeValue (document t)).failed = false := by
    rw [h]
    simp only [andThen, written, least.2, Bool.or_self]
  rw [encodeDocument_of_written succeeds, h]
  simp only [andThen, List.length_append]
  omega

end Texts

section Parse

variable [StdSort] {options : LoadOptions} {generation : Generation} {front : List Record}
  {saved : State} {includeHistory : Bool}

/-- The records before a torn end are read, and the end is given up (source `parse_snapshot`, the
loop). -/
lemma readRecords_torn (recovery : options.allowTailRecovery = true) {rest : Bytes}
    {message note : String} (torn : nextRecord rest = .torn message note) (more : rest ≠ [])
    (short : ∀ record ∈ front, record.body.length ≤ kMaxRecordBytes) {rounds : Nat}
    (enough : (frames front ++ rest).length ≤ rounds) (parsed : ParsedSnapshot) (accepted : Bytes)
    {state : State} (run : readAll options generation front parsed.state = .ok state) :
    ∃ p accepted', readRecords options generation rounds (frames front ++ rest) parsed accepted =
      .ok (p, accepted') ∧ p.state = state ∧ p.tailRecovered = true := by
  induction front generalizing rounds parsed accepted with
  | nil =>
    have positive := List.length_pos_iff.2 more
    rw [frames, List.flatMap_nil, List.nil_append] at enough ⊢
    obtain ⟨rounds, rfl⟩ := Nat.exists_eq_add_one.2 (positive.trans_le enough)
    cases run
    rw [readRecords, if_neg more, torn]
    exact ⟨_, _, bind_eq_ok.2 ⟨_, recoverTail_eq_ok.2 ⟨recovery, rfl⟩, rfl⟩, rfl, rfl⟩
  | cons record front ih =>
    obtain ⟨t, read, run⟩ := bind_eq_ok.1 run
    rw [frames_cons, List.append_assoc] at enough ⊢
    have shorter := enough
    rw [List.length_append, record.length_frame] at shorter
    obtain ⟨rounds, rfl⟩ : ∃ n, rounds = n + 1 := Nat.exists_eq_add_one.2 (by omega)
    have fewer : (frames front ++ rest).length ≤ rounds := by omega
    obtain ⟨p, accepted', reads, final⟩ := ih
      (fun r member => short r (List.mem_cons_of_mem _ member)) fewer
      { parsed with state := t, records := parsed.records + 1 } (accepted ++ record.frame) run
    refine ⟨p, accepted', ?_, final⟩
    rw [readRecords, if_neg frame_append_ne_nil,
      nextRecord_frame_short (short record List.mem_cons_self)]
    exact bind_eq_ok.2 ⟨t, read, reads⟩

/-- The file of a state is read up to a record that is too long (source `parse_snapshot`). -/
lemma parseSnapshot_oversized (recovery : options.allowTailRecovery = true)
    (short : (snapshotFile saved includeHistory).length ≤ kMaxSnapshotBytes) {big : Record}
    {back : List Record} (parts : stateRecords saved includeHistory = front ++ big :: back)
    (small : ∀ record ∈ front, record.body.length ≤ kMaxRecordBytes)
    (long : kMaxRecordBytes < big.body.length) {state : State}
    (run : readAll options saved.generation front
      { State.initial with generation := saved.generation } = .ok state) :
    ∃ p, parseSnapshot (snapshotFile saved includeHistory) options = .ok p ∧ p.state = state ∧
      p.tailRecovered = true := by
  have stream : encodeStateRecords saved includeHistory =
      frames front ++ (big.frame ++ frames back) := by
    rw [encodeStateRecords, parts, frames, List.flatMap_append]
    rfl
  have fits : _ ≤ kMaxSnapshotBytes := length_snapshotFile ▸ short
  have inside : big.body.length < 256 ^ 4 := by
    have length := congrArg List.length stream
    rw [List.length_append, List.length_append, big.length_frame] at length
    exact Nat.lt_of_le_of_lt (m := kMaxSnapshotBytes) (by omega) (by decide)
  have torn : nextRecord (big.frame ++ frames back) = _ := nextRecord_frame_long long inside
  obtain ⟨q, accepted, reads, state, recovered⟩ := readRecords_torn recovery torn
    frame_append_ne_nil small le_rfl
    { state := { State.initial with generation := saved.generation } } [] run
  refine ⟨{ q with contentDigest := sha256 accepted }, ?_, state, recovered⟩
  rw [parseSnapshot_eq_ok,
    if_neg (by rw [recordBytes_of_short short, length_snapshotFile]; omega),
    recordPart_of_short short, parsedHeader, declaredGeneration_snapshotFile, stream]
  refine ⟨headerOk_snapshotFile (by omega), q, accepted, reads, q, ?_, rfl⟩
  rw [checkTrailer, recovered, if_pos rfl]

end Parse

end TransceiverRegistry
