import TransceiverRegistry.Canonical.Uniqueness

/-!
# What the reader accepts

A document is accepted exactly when it is what the writer writes for a value within the limits of
the reader. The budgets of the reader (the texts, the levels and the nodes) are accounted for value by
value, so that they end at exactly the sizes of the value that is returned.
-/

namespace TransceiverRegistry

open Lib CanonicalWriter

/-- A value is canonical and within every limit of a reader (source `CanonicalLimits`). The root is
at depth zero. -/
structure Value.InLimits (lim : CanonicalLimits) (v : Value) : Prop where
  within : v.Within lim
  height : v.height ≤ lim.maxDepth.toNat + 1
  nodes : v.nodes ≤ lim.maxNodes.toNat
  document : (new.writeValue v).bytes.length ≤ lim.maxDocumentBytes.toNat

section Accounting

variable {lim : CanonicalLimits} {size : Nat}

/-- A number of nodes was counted within the budget (source `nodes_`). -/
def Counted (lim : CanonicalLimits) (nodes : Nat) (before after : Cursor) : Prop :=
  after.nodes = before.nodes + nodes ∧
    (before.nodes ≤ lim.maxNodes.toNat → after.nodes ≤ lim.maxNodes.toNat)

/-- Nodes that were counted one after the other. -/
lemma Counted.trans {n m : Nat} {c c' c'' : Cursor} (first : Counted lim n c c')
    (later : Counted lim m c' c'') : Counted lim (n + m) c c'' :=
  ⟨by rw [later.1, first.1, Nat.add_assoc], fun room => later.2 (first.2 room)⟩

/-- Counting a node (source `++nodes_`). -/
lemma countNode_counted {c c' : Cursor} (h : countNode lim c = .ok c') : Counted lim 1 c c' := by
  simp only [countNode, bind_eq_ok, refuseIf_eq_ok, Nat.not_le] at h
  obtain ⟨_, room, e⟩ := h
  cases e
  exact ⟨rfl, fun _ => room⟩

/-- A length that is read is within its limit (source `CanonicalReader::read_length`). -/
lemma readLength_le {bytes rest : Bytes} {limit : UInt64} {what : String} {length : Nat}
    (h : readLength bytes limit what = .ok (length, rest)) : length ≤ limit.toNat := by
  simp only [readLength, bind_eq_ok, refuseIf_eq_ok, UInt64.not_lt] at h
  obtain ⟨⟨value, rest⟩, read, _, fits, e⟩ := h
  cases e
  exact UInt64.le_iff_toNat_le.1 fits

/-- A text that is read is well formed and within the limit
(source `CanonicalReader::read_value_at_depth`). -/
lemma readText_within {what : String} {bytes t rest : Bytes}
    (h : readText lim what bytes = .ok (t, rest)) :
    isValidUtf8 t = true ∧ t.length ≤ lim.maxStringBytes.toNat := by
  simp only [readText, bind_eq_ok, refuseIf_eq_ok, Bool.not_eq_false] at h
  obtain ⟨⟨length, after⟩, counted, ⟨raw, rest⟩, exact, _, valid, e⟩ := h
  cases e
  obtain ⟨_, rfl⟩ := readBytesExact_inv exact
  exact ⟨valid, readLength_le counted⟩

/-- What a value takes of the budgets: it is within the limits and the levels that were left, and
its nodes were counted. -/
structure Took (lim : CanonicalLimits) (levels : Nat) (v : Value) (before after : Cursor) :
    Prop where
  within : v.Within lim
  height : v.height ≤ levels
  counted : Counted lim v.nodes before after

/-- The values a reader returns have taken what they take of the budgets. -/
def ReadsCounted (lim : CanonicalLimits) (levels : Nat) (read : Cursor → Result (Value × Cursor)) :
    Prop :=
  ∀ c v c', read c = .ok (v, c') → Took lim levels v c c'

variable {levels : Nat} {read : Cursor → Result (Value × Cursor)}

/-- Elements that are read are within the limits (source `CanonicalReader::read_value_at_depth`, the
array loop). -/
lemma readElements_counted (all : ReadsCounted lim levels read) {count : Nat} {c c' : Cursor}
    {es : List Value} (h : readElements read count c = .ok (es, c')) :
    Value.elementsWithin lim es ∧ Value.elementsHeight es ≤ levels ∧
      es.length = count ∧ Counted lim (Value.elementsNodes es) c c' := by
  induction count generalizing c es with
  | zero =>
    cases h
    exact ⟨trivial, Nat.zero_le _, rfl, rfl, id⟩
  | succ count ih =>
    simp only [readElements, bind_eq_ok] at h
    obtain ⟨⟨e, after⟩, first, ⟨rest, last⟩, later, e⟩ := h
    cases e
    obtain ⟨within, height, length, counted⟩ := ih later
    have took := all _ _ _ first
    exact ⟨⟨took.within, within⟩, Nat.max_le.2 ⟨took.height, height⟩,
      by rw [List.length_cons, length], took.counted.trans counted⟩

/-- A key that is read is within the limits (source `CanonicalReader::read_value_at_depth`, the head
of the object loop). -/
lemma readKey_counted {previous : Option Bytes} {key : Bytes} {c c' : Cursor}
    (h : readKey lim size previous c = .ok (key, c')) :
    isValidUtf8 key = true ∧ key.length ≤ lim.maxStringBytes.toNat ∧ Counted lim 1 c c' := by
  simp only [readKey, bind_eq_ok, refuseIf_eq_ok, not_not] at h
  obtain ⟨counted, count, ⟨tag, after⟩, tagged, _, rfl, ⟨key, rest⟩, text, _, named, _, later,
    e⟩ := h
  cases e
  obtain ⟨valid, fits⟩ := readText_within text
  exact ⟨valid, fits, (countNode_counted count).1, (countNode_counted count).2⟩

/-- Members that are read after the members `done` are within the limits, with their keys in order
(source `CanonicalReader::read_value_at_depth`, the object loop). -/
lemma readMembers_counted (all : ReadsCounted lim levels read) {count : Nat}
    {previous : Option Bytes} {done : List (Bytes × Value)} {c c' : Cursor} {v : Value}
    (ordered : Value.KeysOrdered done) (upTo : UpTo previous done)
    (h : readMembers lim size read count previous (.members done) c = .ok (v, c')) :
    ∃ ms, v = .members (done ++ ms) ∧ ms.length = count ∧ Value.KeysOrdered (done ++ ms) ∧
      Value.membersWithin lim ms ∧ Value.membersHeight ms ≤ levels ∧
      Counted lim (Value.membersNodes ms) c c' := by
  induction count generalizing previous done c with
  | zero =>
    cases h
    refine ⟨[], by rw [List.append_nil], rfl, ?_, trivial, Nat.zero_le _, rfl, id⟩
    rwa [List.append_nil]
  | succ count ih =>
    obtain ⟨key, value, afterKey, afterValue, named, valued, below, upTo', later⟩ :=
      readMembers_step upTo h
    have ordered' : Value.KeysOrdered (done ++ [(key, value)]) := by
      refine List.pairwise_append.2 ⟨ordered, List.pairwise_singleton _ _, fun m hm n hn => ?_⟩
      rw [List.mem_singleton.1 hn]
      exact below m hm
    obtain ⟨ms, rfl, length, keys, within, height, counted⟩ := ih ordered' upTo' later
    obtain ⟨_, key_ne, _⟩ := readKey_inv named
    obtain ⟨valid, fits, key_counted⟩ := readKey_counted named
    have took := all _ _ _ valued
    rw [List.append_assoc] at keys ⊢
    exact ⟨(key, value) :: ms, rfl, by rw [List.length_cons, length], keys,
      ⟨⟨key_ne, valid, fits⟩, took.within, within⟩, Nat.max_le.2 ⟨took.height, height⟩,
      (key_counted.trans took.counted).trans counted⟩

/-- What is read after a tag is within the limits, one level up
(source `CanonicalReader::read_value_at_depth`, the switch). -/
lemma Tagged.counted (all : ReadsCounted lim levels read) {tag : UInt8} {b c c' : Cursor}
    {v : Value} (tagged : Counted lim 1 b c) (h : Tagged lim size read c tag v c') :
    Took lim (levels + 1) v b c' := by
  have leaf {v : Value} {rest : Bytes} (within : v.Within lim) (height : v.height = 1)
      (nodes : v.nodes = 1) : Took lim (levels + 1) v b ⟨rest, c.nodes⟩ :=
    ⟨within, height ▸ Nat.le_add_left 1 levels, nodes ▸ tagged⟩
  cases h with
  | null | no | yes | integer | unsigned => exact leaf trivial rfl rfl
  | real _ number => exact leaf number rfl rfl
  | text read => exact leaf (readText_within read) rfl rfl
  | binary counted exact =>
    have short := readLength_le counted
    rw [← (readBytesExact_inv exact).2] at short
    exact leaf short rfl rfl
  | array counted elements =>
    obtain ⟨within, height, rfl, nodes⟩ := readElements_counted all elements
    exact ⟨⟨readLength_le counted, within⟩, by simp only [Value.height]; omega,
      tagged.trans nodes⟩
  | members counted object =>
    obtain ⟨ms, rfl, rfl, ordered, within, height, nodes⟩ :=
      readMembers_counted all List.Pairwise.nil (by simp [UpTo]) object
    exact ⟨⟨readLength_le counted, ordered, within⟩,
      by simp only [Value.height, List.nil_append]; omega, tagged.trans nodes⟩

/-- A value that is read is within the limits (source `CanonicalReader::read_value_at_depth`). -/
lemma readValue_counted (levels : Nat) :
    ReadsCounted lim levels (readValue lim size levels) := by
  induction levels with
  | zero =>
    intro c v c' h
    cases h
  | succ levels ih =>
    intro c v c' h
    simp only [readValue, bind_eq_ok] at h
    obtain ⟨counted, count, ⟨tag, rest⟩, tagged, later⟩ := h
    obtain ⟨one, room⟩ := countNode_counted count
    have node : Counted lim 1 c ⟨rest, counted.nodes⟩ := ⟨one, room⟩
    exact (readTagged_inv later).counted ih node

/-- The value of an accepted document is within the limits
(source `CanonicalReader::read_document`). -/
lemma readDocument_fits {bytes : Bytes} {v : Value} (h : readDocument lim bytes = .ok v) :
    v.InLimits lim := by
  have written := readDocument_inv h
  simp only [readDocument, bind_eq_ok] at h
  obtain ⟨⟨v, c⟩, read, _, _, e⟩ := h
  cases e
  have took := readValue_counted _ _ _ _ read
  refine ⟨took.within, took.height, ?_, ?_⟩
  · have room := took.counted.2 (Nat.zero_le _)
    rwa [took.counted.1, Nat.zero_add] at room
  · rw [written]
    simp only [readValue, readTag, bind_eq_ok, refuseIf_eq_ok, Nat.not_lt] at read
    obtain ⟨_, _, _, ⟨_, fits, _⟩, _⟩ := read
    exact fits

end Accounting

/-- A document is accepted exactly when it is what is written for a value within the limits
(source `CanonicalReader::read_document`). -/
theorem readDocument_eq_ok_iff {lim : CanonicalLimits} {bytes : Bytes} {v : Value} :
    readDocument lim bytes = .ok v ↔ v.InLimits lim ∧ new.writeValue v = ⟨bytes, false⟩ := by
  constructor
  · intro h
    exact ⟨readDocument_fits h, readDocument_inv h⟩
  · intro h
    obtain ⟨fits, written⟩ := h
    have read := readDocument_writeValue fits.within fits.height fits.nodes fits.document
    rwa [written] at read

/-- The bytes of an accepted document are what the writer writes for its value, without a failure,
and no other bytes are accepted for that value (source `CanonicalReader::read_document`). -/
theorem accepted_document_unique (lim : CanonicalLimits) (bytes : Bytes) (v : Value)
    (accepted : readDocument lim bytes = .ok v) :
    (new.writeValue v).failed = false ∧ (new.writeValue v).bytes = bytes ∧
      ∀ lim' bytes', readDocument lim' bytes' = .ok v → bytes' = bytes := by
  have written := readDocument_inv accepted
  refine ⟨by rw [written], by rw [written], ?_⟩
  intro lim' bytes' accepted'
  have written' := readDocument_inv accepted'
  rw [written] at written'
  exact (congrArg CanonicalWriter.bytes written').symm

/-- An array of two numbers, the second one of two groups. -/
theorem accepted_document_unique_array :
    (new.writeValue (.array [.integer (-1), .unsigned 300])).failed = false ∧
      (new.writeValue (.array [.integer (-1), .unsigned 300])).bytes =
        [7, 2, 3, 1, 9, 0xac, 2] ∧
      ∀ lim' bytes', readDocument lim' bytes' = .ok (.array [.integer (-1), .unsigned 300]) →
        bytes' = [7, 2, 3, 1, 9, 0xac, 2] :=
  accepted_document_unique .snapshot _ _ rfl

/-- A value within the limits of a reader is written without a failure and read back as it was
(source `CanonicalReader::read_document`). -/
theorem document_round_trip (lim : CanonicalLimits) (v : Value) (fits : v.InLimits lim) :
    (new.writeValue v).failed = false ∧ readDocument lim (new.writeValue v).bytes = .ok v := by
  have read := readDocument_writeValue fits.within fits.height fits.nodes fits.document
  exact ⟨by rw [readDocument_inv read], read⟩

/-- An object with an array, a negative zero and a text of two bytes in it. -/
theorem document_round_trip_object :
    (new.writeValue (.members [([97], .array [.null, .real ⟨0x8000000000000000⟩]),
      ([98], .text [0xc3, 0xa9])])).failed = false ∧
    readDocument .snapshot (new.writeValue (.members
      [([97], .array [.null, .real ⟨0x8000000000000000⟩]), ([98], .text [0xc3, 0xa9])])).bytes =
      .ok (.members
        [([97], .array [.null, .real ⟨0x8000000000000000⟩]), ([98], .text [0xc3, 0xa9])]) := by
  refine document_round_trip .snapshot _ ⟨⟨by decide, ?_, ?_⟩, by decide, by decide, by decide⟩
  · exact List.pairwise_pair.2 (by decide)
  · exact ⟨by decide, ⟨by decide, trivial, rfl, trivial⟩, by decide, ⟨rfl, by decide⟩, trivial⟩

end TransceiverRegistry
