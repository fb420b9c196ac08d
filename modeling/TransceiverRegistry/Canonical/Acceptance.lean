import TransceiverRegistry.Canonical.Weight

/-!
# What an accepted document is

Neither a higher limit nor more bytes after a value change how it is read. A canonical value that
was written without a failure is within the widest limits, so whatever the reader accepts of the
bytes of such a value is the value itself, and it takes all of them.
-/

namespace TransceiverRegistry

open Lib CanonicalWriter

/-- Every limit is at most the limit of another reader (source `CanonicalLimits`). -/
structure CanonicalLimits.Le (lim lim' : CanonicalLimits) : Prop where
  document : lim.maxDocumentBytes ≤ lim'.maxDocumentBytes
  string : lim.maxStringBytes ≤ lim'.maxStringBytes
  binary : lim.maxBinaryBytes ≤ lim'.maxBinaryBytes
  elements : lim.maxElements ≤ lim'.maxElements
  fields : lim.maxObjectFields ≤ lim'.maxObjectFields
  nodes : lim.maxNodes ≤ lim'.maxNodes

/-- The largest limit. -/
def kWidest : UInt64 := 0xFFFFFFFFFFFFFFFF

/-- A 64-bit number is at most the largest limit. -/
lemma le_kWidest {n : Nat} (small : n < 2 ^ 64) : n ≤ kWidest.toNat := Nat.le_pred_of_lt small

/-- A reader without limits. -/
def CanonicalLimits.widest : CanonicalLimits :=
  ⟨kWidest, kWidest, kWidest, kWidest, kWidest, kWidest, kWidest⟩

/-- Every limit is at most the widest one. -/
lemma CanonicalLimits.le_widest (lim : CanonicalLimits) : lim.Le .widest := by
  have top (x : UInt64) : x ≤ kWidest := UInt64.le_iff_toNat_le.2 (le_kWidest x.toNat_lt)
  exact ⟨top _, top _, top _, top _, top _, top _⟩

/-- The position of a reader when more bytes follow. -/
def Cursor.followedBy (c : Cursor) (tail : Bytes) : Cursor := { c with rest := c.rest ++ tail }

section Extension

variable {lim lim' : CanonicalLimits} {size : Nat} {tail : Bytes}

lemma readVarintFrom_extend {value read : UInt64} {used count : Nat} {bytes rest : Bytes}
    (h : readVarintFrom value used bytes = .ok (read, count, rest)) :
    readVarintFrom value used (bytes ++ tail) = .ok (read, count, rest ++ tail) := by
  induction bytes generalizing value used with
  | nil => cases h
  | cons byte bytes ih =>
    simp only [readVarintFrom, List.cons_append] at h ⊢
    split at h
    · cases h
    split at h
    · cases h
    rename_i short fits
    rw [if_neg short, if_neg fits]
    split at h
    · rename_i last
      rw [if_pos last]
      cases h
      rfl
    · rename_i more
      rw [if_neg more]
      split at h
      · cases h
      · rename_i few
        rw [if_neg few]
        exact ih h

lemma readVarint_extend {bytes rest : Bytes} {value : UInt64}
    (h : readVarint bytes = .ok (value, rest)) :
    readVarint (bytes ++ tail) = .ok (value, rest ++ tail) := by
  simp only [readVarint, bind_eq_ok, refuseIf_eq_ok] at h ⊢
  obtain ⟨⟨value, used, rest⟩, read, u, minimal, e⟩ := h
  cases e
  exact ⟨_, readVarintFrom_extend read, u, minimal, rfl⟩

lemma readLength_extend {limit limit' : UInt64} {what : String} (wider : limit ≤ limit')
    {bytes rest : Bytes} {length : Nat} (h : readLength bytes limit what = .ok (length, rest)) :
    readLength (bytes ++ tail) limit' what = .ok (length, rest ++ tail) := by
  simp only [readLength, bind_eq_ok, refuseIf_eq_ok, UInt64.not_lt] at h ⊢
  obtain ⟨⟨value, rest⟩, read, u, fits, e⟩ := h
  cases e
  exact ⟨_, readVarint_extend read, u, UInt64.le_trans fits wider, rfl⟩

lemma readBytesExact_extend {bytes raw rest : Bytes} {count : Nat}
    (h : readBytesExact bytes count = .ok (raw, rest)) :
    readBytesExact (bytes ++ tail) count = .ok (raw, rest ++ tail) := by
  simp only [readBytesExact, bind_eq_ok, refuseIf_eq_ok, Nat.not_lt] at h ⊢
  obtain ⟨u, enough, e⟩ := h
  cases e
  refine ⟨u, by rw [List.length_append]; omega, ?_⟩
  rw [List.take_append_of_le_length enough, List.drop_append_of_le_length enough]

lemma readText_extend (wider : lim.Le lim') {what : String} {bytes read rest : Bytes}
    (h : readText lim what bytes = .ok (read, rest)) :
    readText lim' what (bytes ++ tail) = .ok (read, rest ++ tail) := by
  simp only [readText, bind_eq_ok] at h ⊢
  obtain ⟨⟨length, after⟩, counted, ⟨raw, rest⟩, exact, u, valid, e⟩ := h
  cases e
  exact ⟨_, readLength_extend wider.string counted, _, readBytesExact_extend exact, u, valid, rfl⟩

lemma readTag_extend (wider : lim.Le lim') {bytes rest : Bytes} {tag : UInt8}
    (h : readTag lim size bytes = .ok (tag, rest)) :
    readTag lim' size (bytes ++ tail) = .ok (tag, rest ++ tail) := by
  have := UInt64.le_iff_toNat_le.1 wider.document
  simp only [readTag, bind_eq_ok, refuseIf_eq_ok, Nat.not_lt] at h ⊢
  obtain ⟨u, fits, found⟩ := h
  refine ⟨u, fits.trans this, ?_⟩
  cases bytes with
  | nil => cases found
  | cons _ _ =>
    cases found
    rfl

lemma countNode_extend (wider : lim.Le lim') {c c' : Cursor} (h : countNode lim c = .ok c') :
    countNode lim' (c.followedBy tail) = .ok (c'.followedBy tail) := by
  have := UInt64.le_iff_toNat_le.1 wider.nodes
  simp only [countNode, bind_eq_ok, refuseIf_eq_ok, Nat.not_le] at h ⊢
  obtain ⟨u, room, e⟩ := h
  cases e
  exact ⟨u, room.trans_le this, rfl⟩

/-- What one reader accepts, another one accepts when more bytes follow. -/
def ReadsOn (tail : Bytes) (read read' : Cursor → Result (Value × Cursor)) : Prop :=
  ∀ c v c', read c = .ok (v, c') → read' (c.followedBy tail) = .ok (v, c'.followedBy tail)

variable {read read' : Cursor → Result (Value × Cursor)} {c c' : Cursor}

lemma readElements_extend (same : ReadsOn tail read read') {count : Nat} {elements : List Value}
    (h : readElements read count c = .ok (elements, c')) :
    readElements read' count (c.followedBy tail) = .ok (elements, c'.followedBy tail) := by
  induction count generalizing c elements with
  | zero =>
    cases h
    rfl
  | succ count ih =>
    simp only [readElements, bind_eq_ok] at h ⊢
    obtain ⟨⟨v, after⟩, first, ⟨rest, last⟩, later, e⟩ := h
    cases e
    exact ⟨_, same _ _ _ first, _, ih later, rfl⟩

lemma readKey_extend (wider : lim.Le lim') {previous : Option Bytes} {key : Bytes}
    (h : readKey lim size previous c = .ok (key, c')) :
    readKey lim' size previous (c.followedBy tail) = .ok (key, c'.followedBy tail) := by
  simp only [readKey, bind_eq_ok] at h ⊢
  obtain ⟨counted, count, ⟨tag, after⟩, tagged, u, isText, ⟨key, rest⟩, text, u', named, u'', later,
    e⟩ := h
  cases e
  exact ⟨_, countNode_extend wider count, _, readTag_extend wider tagged, u, isText, _,
    readText_extend wider text, u', named, u'', later, rfl⟩

lemma readMembers_extend (wider : lim.Le lim') (same : ReadsOn tail read read') {count : Nat}
    {previous : Option Bytes} {object v : Value}
    (h : readMembers lim size read count previous object c = .ok (v, c')) :
    readMembers lim' size read' count previous object (c.followedBy tail) =
      .ok (v, c'.followedBy tail) := by
  induction count generalizing previous object c with
  | zero =>
    cases h
    rfl
  | succ count ih =>
    simp only [readMembers, bind_eq_ok] at h ⊢
    obtain ⟨⟨key, after⟩, named, ⟨value, rest⟩, valued, object', added, later⟩ := h
    exact ⟨_, readKey_extend wider named, _, same _ _ _ valued, object', added, ih later⟩

lemma readTagged_extend (wider : lim.Le lim') (same : ReadsOn tail read read') {tag : UInt8}
    {v : Value} (h : readTagged lim size read tag c = .ok (v, c')) :
    readTagged lim' size read' tag (c.followedBy tail) = .ok (v, c'.followedBy tail) := by
  by_cases integer : tag = 3
  · subst integer
    change (readVarint _ >>= _) = _ at h ⊢
    simp only [bind_eq_ok] at h ⊢
    obtain ⟨⟨raw, rest⟩, number, e⟩ := h
    cases e
    exact ⟨_, readVarint_extend number, rfl⟩
  by_cases unsigned : tag = 9
  · subst unsigned
    change (readVarint _ >>= _) = _ at h ⊢
    simp only [bind_eq_ok] at h ⊢
    obtain ⟨⟨raw, rest⟩, number, e⟩ := h
    cases e
    exact ⟨_, readVarint_extend number, rfl⟩
  by_cases real : tag = 4
  · subst real
    change (refuseIf _ _ >>= fun _ => refuseIf _ _ >>= _) = _ at h ⊢
    simp only [bind_eq_ok, refuseIf_eq_ok, Nat.not_lt] at h ⊢
    obtain ⟨u, enough, u', number, e⟩ := h
    cases e
    have split : (c.followedBy tail).rest = c.rest ++ tail := rfl
    refine ⟨u, by rw [split, List.length_append]; omega, u', ?_, ?_⟩
    · rwa [split, List.take_append_of_le_length enough]
    · rw [split, List.take_append_of_le_length enough, List.drop_append_of_le_length enough]
      rfl
  by_cases text : tag = 5
  · subst text
    change (readText _ _ _ >>= _) = _ at h ⊢
    simp only [bind_eq_ok] at h ⊢
    obtain ⟨⟨raw, rest⟩, read, e⟩ := h
    cases e
    exact ⟨_, readText_extend wider read, rfl⟩
  by_cases binary : tag = 6
  · subst binary
    change (readLength _ _ _ >>= _) = _ at h ⊢
    simp only [bind_eq_ok] at h ⊢
    obtain ⟨⟨length, after⟩, counted, ⟨raw, rest⟩, exact, e⟩ := h
    cases e
    exact ⟨_, readLength_extend wider.binary counted, _, readBytesExact_extend exact, rfl⟩
  by_cases array : tag = 7
  · subst array
    change (readLength _ _ _ >>= _) = _ at h ⊢
    simp only [bind_eq_ok] at h ⊢
    obtain ⟨⟨count, after⟩, counted, ⟨elements, last⟩, all, e⟩ := h
    cases e
    exact ⟨_, readLength_extend wider.elements counted, _, readElements_extend same all, rfl⟩
  by_cases object : tag = 8
  · subst object
    change (readLength _ _ _ >>= _) = _ at h ⊢
    simp only [bind_eq_ok] at h ⊢
    obtain ⟨⟨count, after⟩, counted, members⟩ := h
    exact ⟨_, readLength_extend wider.fields counted, readMembers_extend wider same members⟩
  -- the other tags stand for a value by themselves
  simp only [readTagged, integer, unsigned, real, text, binary, array, object, if_false] at h ⊢
  split_ifs at h ⊢ <;> cases h <;> rfl

/-- A value that is accepted is accepted within wider limits, and when more bytes follow
(source `CanonicalReader::read_value_at_depth`). -/
lemma readValue_extend (tail : Bytes) (wider : lim.Le lim') {levels levels' : Nat}
    (deeper : levels ≤ levels') {v : Value} (h : readValue lim size levels c = .ok (v, c')) :
    readValue lim' size levels' (c.followedBy tail) = .ok (v, c'.followedBy tail) := by
  induction levels generalizing levels' c c' v with
  | zero => cases h
  | succ levels ih =>
    obtain ⟨levels', rfl⟩ : ∃ l, levels' = l + 1 := Nat.exists_eq_add_one.2 (by omega)
    simp only [readValue, bind_eq_ok] at h ⊢
    obtain ⟨counted, count, ⟨tag, rest⟩, tagged, later⟩ := h
    exact ⟨_, countNode_extend wider count, _, readTag_extend wider tagged,
      readTagged_extend wider (fun _ _ _ => ih (by omega)) later⟩

end Extension

/-- The bytes of a text are in what was written for it (source `CanonicalWriter::text`). -/
lemma text_written {t : Bytes} (written : (new.text t).failed = false) :
    isValidUtf8 t = true ∧ t.length < (new.text t).bytes.length := by
  unfold CanonicalWriter.text at written ⊢
  split at written
  · rename_i valid
    simp [valid, append]
    omega
  · cases written

/-- The bytes of a key are in what was written for it (source `CanonicalWriter::field`). -/
lemma field_written {key : Bytes} (written : (new.field key).failed = false) :
    key ≠ [] ∧ isValidUtf8 key = true ∧ key.length < (new.field key).bytes.length := by
  unfold field at written ⊢
  split at written
  · cases written
  · rename_i key_ne
    rw [if_neg key_ne]
    exact ⟨key_ne, text_written written⟩

/-- What two writers wrote one after the other was written without a failure by both. -/
lemma andThen_written {w u : CanonicalWriter} (written : (w.andThen u).failed = false) :
    w.failed = false ∧ u.failed = false := by
  simpa [andThen] using written

mutual

/-- What was written without a failure is within the widest limits, and every node took a byte
(source `CanonicalWriter::write_value`). -/
lemma within_widest (v : Value) (canonical : v.Canonical)
    (written : (new.writeValue v).failed = false)
    (small : (new.writeValue v).bytes.length < 2 ^ 64) :
    v.Within .widest ∧ v.nodes ≤ (new.writeValue v).bytes.length := by
  cases v with
  | null | boolean | integer | unsigned =>
    simp [Value.Within, writeValue, nullValue, CanonicalWriter.boolean, CanonicalWriter.integer,
      unsignedInteger, append, new, Value.nodes]
  | real value =>
    simp only [writeValue, CanonicalWriter.real] at written ⊢
    split at written
    · cases written
    · rename_i number
      simp [number, append, Value.nodes, Value.Within]
  | text value =>
    simp only [writeValue] at written small ⊢
    obtain ⟨valid, shorter⟩ := text_written written
    exact ⟨⟨valid, le_kWidest (by omega)⟩, by simp only [Value.nodes]; omega⟩
  | binary value =>
    simp only [writeValue, CanonicalWriter.binary, append, new, List.nil_append, List.cons_append,
      List.length_cons, List.length_append, Value.nodes, Value.Within] at small ⊢
    exact ⟨le_kWidest (by omega), by omega⟩
  | array elements =>
    simp only [writeValue, beginArray] at written small ⊢
    rw [writeElements_eq] at written small ⊢
    have rest := elementsWithin_widest elements canonical (andThen_written written).2
    simp only [andThen, append, new, List.nil_append, List.cons_append, List.length_cons,
      List.length_append, Value.nodes, Value.Within] at small rest ⊢
    obtain ⟨inside, count, nodes⟩ := rest (by omega)
    exact ⟨⟨le_kWidest (by omega), inside⟩, by omega⟩
  | members ms =>
    simp only [writeValue, beginObject] at written small ⊢
    rw [writeMembers_eq] at written small ⊢
    have rest := membersWithin_widest ms canonical.2 (andThen_written written).2
    simp only [andThen, append, new, List.nil_append, List.cons_append, List.length_cons,
      List.length_append, Value.nodes, Value.Within] at small rest ⊢
    obtain ⟨inside, count, nodes⟩ := rest (by omega)
    exact ⟨⟨le_kWidest (by omega), canonical.1, inside⟩, by omega⟩

/-- Elements that were written without a failure are within the widest limits. -/
lemma elementsWithin_widest (es : List Value) (canonical : Value.elementsCanonical es)
    (written : (new.writeElements es).failed = false)
    (small : (new.writeElements es).bytes.length < 2 ^ 64) :
    Value.elementsWithin .widest es ∧ es.length ≤ Value.elementsNodes es ∧
      Value.elementsNodes es ≤ (new.writeElements es).bytes.length := by
  cases es with
  | nil => simp [Value.elementsWithin, Value.elementsNodes]
  | cons e rest =>
    rw [writeElements, writeElements_eq] at written small ⊢
    obtain ⟨written, written'⟩ := andThen_written written
    simp only [andThen, List.length_append, Value.elementsNodes, Value.elementsWithin,
      List.length_cons] at small ⊢
    obtain ⟨inside, nodes⟩ := within_widest e canonical.1 written (by omega)
    obtain ⟨inside', count, nodes'⟩ := elementsWithin_widest rest canonical.2 written' (by omega)
    have := e.one_le_nodes
    exact ⟨⟨inside, inside'⟩, by omega, by omega⟩

/-- Members that were written without a failure are within the widest limits. -/
lemma membersWithin_widest (ms : List (Bytes × Value)) (canonical : Value.membersCanonical ms)
    (written : (new.writeMembers ms).failed = false)
    (small : (new.writeMembers ms).bytes.length < 2 ^ 64) :
    Value.membersWithin .widest ms ∧ ms.length ≤ Value.membersNodes ms ∧
      Value.membersNodes ms ≤ (new.writeMembers ms).bytes.length := by
  cases ms with
  | nil => simp [Value.membersWithin, Value.membersNodes]
  | cons m rest =>
    obtain ⟨key, v⟩ := m
    rw [writeMembers, writeMembers_eq, writeValue_eq] at written small ⊢
    obtain ⟨written, written'⟩ := andThen_written written
    obtain ⟨named, written⟩ := andThen_written written
    simp only [andThen, List.length_append, Value.membersNodes, Value.membersWithin,
      List.length_cons] at small ⊢
    obtain ⟨key_ne, valid, shorter⟩ := field_written named
    obtain ⟨inside, nodes⟩ := within_widest v canonical.1 written (by omega)
    obtain ⟨inside', count, nodes'⟩ := membersWithin_widest rest canonical.2 written' (by omega)
    exact ⟨⟨⟨key_ne, valid, le_kWidest (by omega)⟩, inside, inside'⟩, by omega, by omega⟩

end

/-- A front part of the bytes of a canonical value that the reader accepts is all of them, and what
it stands for is that value (source `CanonicalReader::read_document`). -/
theorem readDocument_accepted_front {lim : CanonicalLimits} {v v' : Value} {front back : Bytes}
    (canonical : v.Canonical) (written : (new.writeValue v).failed = false)
    (small : (new.writeValue v).bytes.length < 2 ^ 64)
    (parts : (new.writeValue v).bytes = front ++ back)
    (accepted : readDocument lim front = .ok v') : back = [] ∧ v' = v := by
  simp only [readDocument, bind_eq_ok, refuseIf_eq_ok, not_not] at accepted
  obtain ⟨⟨w, c⟩, read, _, done, e⟩ := accepted
  cases e
  obtain ⟨within, nodes⟩ := within_widest v canonical written small
  have shorter : front.length < 2 ^ 64 := by
    rw [parts, List.length_append] at small
    omega
  obtain ⟨whole, _⟩ := readValue_writeValue v (max (lim.maxDepth.toNat + 1) v.height) 0 []
    (le_kWidest shorter) within (Nat.le_max_right _ _)
    ((Nat.zero_add _).trans_le (nodes.trans (le_kWidest small)))
  have wide := readValue_extend back lim.le_widest (Nat.le_max_left _ v.height) read
  rw [List.append_nil, parts] at whole
  rw [Cursor.followedBy, whole] at wide
  obtain ⟨rfl, position⟩ := Prod.mk.inj (Except.ok.inj wide)
  refine ⟨?_, rfl⟩
  have rest := congrArg Cursor.rest position
  rw [Cursor.followedBy, done] at rest
  exact rest.symm

/-- What the reader accepts of the bytes of a canonical value is that value
(source `CanonicalReader::read_document`). -/
theorem readDocument_accepted {lim : CanonicalLimits} {v v' : Value} (canonical : v.Canonical)
    (written : (new.writeValue v).failed = false)
    (small : (new.writeValue v).bytes.length < 2 ^ 64)
    (accepted : readDocument lim (new.writeValue v).bytes = .ok v') : v' = v :=
  (readDocument_accepted_front canonical written small (List.append_nil _).symm accepted).2

end TransceiverRegistry
