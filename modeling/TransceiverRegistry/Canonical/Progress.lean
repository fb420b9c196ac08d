import TransceiverRegistry.Canonical.Documents
import TransceiverRegistry.Lib.Stateful

/-!
# The progress of the canonical reader

`CanonicalReader` once more, with the position in the input, the number of nodes and the deepest level
it reads at, which stay behind when it gives up. The reader does what the model of it over the unread
bytes does, and however it ends, its progress is within the input and within its limits.
-/

namespace TransceiverRegistry

open Lib

/-- How far a reader came (source `CanonicalReader`, `position_` and `nodes_`); `deepest` is the
deepest level at which it read a value. Nothing of it ever decreases. -/
structure Progress where
  position : Nat
  nodes : Nat
  deepest : Nat

/-- A reader at the start of its input (source `CanonicalReader::CanonicalReader`). -/
def Progress.start : Progress := ⟨0, 0, 0⟩

/-- A step of a reader. -/
abbrev ReadStep := EStateM Error Progress

/-- Go on with a value, or give up with an error. -/
def orGiveUp {α : Type} : Result α → ReadStep α
  | .ok a => pure a
  | .error e => throw e

/-- Give up when a condition holds. -/
def giveUpIf (c : Prop) [Decidable c] (e : Error) : ReadStep Unit := orGiveUp (refuseIf c e)

section Reader

variable (data : Bytes)

/-- Read one byte (source `data_[position_]`, `++position_`). -/
def nextByte (truncated : Error) : ReadStep UInt8 := fun s =>
  match data[s.position]? with
  | none => .error truncated s
  | some byte => .ok byte { s with position := s.position + 1 }

/-- The loop of the varint reader (source `CanonicalReader::read_varint`). -/
def varintFrom (value : UInt64) (used : Nat) : ReadStep (UInt64 × Nat) := do
  let byte ← nextByte data (makeError .corrupt "canonical varint is truncated")
  let shift := 7 * used
  if 63 < shift then throw (makeError .malformed "canonical varint overflows 64 bits")
  else if shift = 63 ∧ byte &&& 0x7e ≠ 0 then
    throw (makeError .malformed "canonical varint overflows 64 bits")
  else
    let value := value ||| ((byte &&& 0x7f).toUInt64 <<< UInt64.ofNat shift)
    if byte &&& 0x80 = 0 then pure (value, used + 1)
    else if 10 ≤ used + 1 then
      throw (makeError .malformed "canonical varint is longer than 10 bytes")
    else varintFrom value (used + 1)
termination_by 10 - used

/-- Read a variable-length number (source `CanonicalReader::read_varint`). -/
def nextVarint : ReadStep UInt64 := do
  let (value, used) ← varintFrom data 0 0
  giveUpIf (1 < used ∧ value >>> UInt64.ofNat (7 * (used - 1)) = 0)
    (makeError .malformed "canonical varint is not minimally encoded")
  pure value

/-- Read a length within a limit (source `CanonicalReader::read_length`). -/
def nextLength (maxAllowed : UInt64) (what : String) : ReadStep Nat := do
  let value ← nextVarint data
  giveUpIf (maxAllowed < value)
    ⟨.capacityExceeded, text what ++ text " exceeds the configured limit"⟩
  pure value.toNat

/-- Read a number of bytes (source `CanonicalReader::read_bytes_exact`). -/
def nextBytes (count : Nat) : ReadStep Bytes := fun s =>
  if data.length - s.position < count then
    .error (makeError .corrupt "canonical payload is truncated") s
  else .ok ((data.drop s.position).take count) { s with position := s.position + count }

/-- Read some bytes one by one (source `CanonicalReader::read_value_at_depth`, the loop of the real
case). -/
def eachByte : Nat → ReadStep Bytes
  | 0 => pure []
  | count + 1 => do
    let byte ← nextByte data (makeError .corrupt "canonical real is truncated")
    let rest ← eachByte count
    pure (byte :: rest)

variable (lim : CanonicalLimits)

/-- Read a text of valid UTF-8 (source `CanonicalReader::read_value_at_depth`, the text case and the
keys of the object case). -/
def nextText (what : String) : ReadStep Bytes := do
  let length ← nextLength data lim.maxStringBytes what
  let raw ← nextBytes data length
  giveUpIf (isValidUtf8 raw = false) ⟨.malformed, text what ++ text " is not valid UTF-8"⟩
  pure raw

/-- Read a tag byte (source `CanonicalReader::read_tag`). -/
def nextTag : ReadStep UInt8 := do
  giveUpIf (lim.maxDocumentBytes.toNat < data.length)
    (makeError .capacityExceeded "canonical document exceeds the configured byte limit")
  nextByte data (makeError .corrupt "canonical document is truncated")

/-- Count a node (source `++nodes_`). -/
def nextNode : ReadStep Unit := fun s =>
  if lim.maxNodes.toNat ≤ s.nodes then
    .error (makeError .capacityExceeded "canonical document exceeds the configured node budget") s
  else .ok () { s with nodes := s.nodes + 1 }

/-- Read the elements of an array (source `CanonicalReader::read_value_at_depth`, the array loop). -/
def nextElements (read : ReadStep Value) : Nat → ReadStep (List Value)
  | 0 => pure []
  | count + 1 => do
    let element ← read
    let elements ← nextElements read count
    pure (element :: elements)

/-- Read a key that comes after the previous one (source `CanonicalReader::read_value_at_depth`, the
head of the object loop). -/
def nextKey (previous : Option Bytes) : ReadStep Bytes := do
  nextNode lim
  let tag ← nextTag data lim
  giveUpIf (tag ≠ 5) (makeError .malformed "canonical object key must be a text value")
  let key ← nextText data lim "canonical object key"
  giveUpIf (key = []) (makeError .malformed "canonical object key must not be empty")
  giveUpIf (previous.any (fun previous => (compareBytes previous key).isGE) = true)
    (makeError .malformed "canonical object keys must be unique and sorted")
  pure key

/-- Read the members of an object (source `CanonicalReader::read_value_at_depth`, the object loop). -/
def nextMembers (read : ReadStep Value) : Nat → Option Bytes → Value → ReadStep Value
  | 0, _, object => pure object
  | count + 1, previous, object => do
    let key ← nextKey data lim previous
    let value ← read
    let object ← orGiveUp (object.setUnique key value)
    nextMembers read count (some key) object

/-- Read what follows a tag; `read` reads the values one level below
(source `CanonicalReader::read_value_at_depth`, the switch). -/
def nextTagged (read : ReadStep Value) (tag : UInt8) : ReadStep Value :=
  if tag = 0 then pure .null
  else if tag = 1 then pure (.boolean false)
  else if tag = 2 then pure (.boolean true)
  else if tag = 3 then do
    let raw ← nextVarint data
    pure (.integer (zigzagDecode raw))
  else if tag = 9 then do
    let raw ← nextVarint data
    pure (.unsigned raw)
  else if tag = 4 then do
    let raw ← eachByte data 8
    let number : Binary64 := ⟨UInt64.ofNat (ofLittleEndian raw)⟩
    giveUpIf (number.isNaN = true) (makeError .malformed "canonical real must not be NaN")
    pure (.real number)
  else if tag = 5 then do
    let raw ← nextText data lim "canonical text"
    pure (.text raw)
  else if tag = 6 then do
    let length ← nextLength data lim.maxBinaryBytes "canonical binary"
    let raw ← nextBytes data length
    pure (.binary raw)
  else if tag = 7 then do
    let count ← nextLength data lim.maxElements "canonical array"
    let elements ← nextElements read count
    pure (.array elements)
  else if tag = 8 then do
    let count ← nextLength data lim.maxObjectFields "canonical object"
    nextMembers data lim read count none (.members [])
  else throw (makeError .malformed "unknown canonical tag byte")

/-- Come to a level. -/
def reachDepth (depth : Nat) : ReadStep Unit := fun s =>
  .ok () { s with deepest := max s.deepest depth }

/-- Read a value at a level (source `CanonicalReader::read_value_at_depth`). -/
def valueAtDepth (depth : Nat) : ReadStep Value :=
  if lim.maxDepth.toNat < depth then
    throw (makeError .capacityExceeded "canonical document nesting exceeds the configured depth")
  else do
    reachDepth depth
    nextNode lim
    let tag ← nextTag data lim
    nextTagged data lim (valueAtDepth (depth + 1)) tag
termination_by lim.maxDepth.toNat + 1 - depth

/-- Read a whole document (source `CanonicalReader::read_document`). -/
def nextDocument : ReadStep Value := do
  let value ← valueAtDepth data lim 0
  let s ← get
  giveUpIf (s.position < data.length)
    (makeError .malformed "trailing bytes after the canonical document")
  pure value

end Reader

/-- The progress is within the input and within the limits of the reader
(source `CanonicalLimits`). -/
structure Progress.Within (data : Bytes) (lim : CanonicalLimits) (s : Progress) : Prop where
  position : s.position ≤ data.length
  nodes : s.nodes ≤ lim.maxNodes.toNat
  deepest : s.deepest ≤ lim.maxDepth.toNat

section Bounds

variable {data : Bytes} {lim : CanonicalLimits}

/-- A step of a reader stays within the input and the limits, however it ends. -/
abbrev StaysWithin {α : Type} (data : Bytes) (lim : CanonicalLimits) (m : ReadStep α) : Prop :=
  Keeps (Progress.Within data lim) m

lemma orGiveUp_bounded {α : Type} (r : Result α) : StaysWithin data lim (orGiveUp r) := by
  cases r with
  | ok a => exact .pure a
  | error e => exact .throw e

lemma giveUpIf_bounded {c : Prop} [Decidable c] {e : Error} : StaysWithin data lim (giveUpIf c e) :=
  orGiveUp_bounded _

lemma nextByte_bounded (truncated : Error) : StaysWithin data lim (nextByte data truncated) := by
  intro s h
  rw [nextByte]
  cases inside : data[s.position]? with
  | none => exact h
  | some byte =>
    have less := (List.getElem?_eq_some_iff.1 inside).1
    exact ⟨less, h.nodes, h.deepest⟩

lemma varintFrom_bounded {value : UInt64} {used : Nat} :
    StaysWithin data lim (varintFrom data value used) := by
  induction left : 10 - used using Nat.strong_induction_on generalizing value used with
  | _ m ih =>
    rw [varintFrom]
    refine .bind (nextByte_bounded _) fun byte => .ite (fun _ => .throw _) fun _ =>
      .ite (fun _ => .throw _) fun _ => .ite (fun _ => .pure _) fun _ => .ite (fun _ => .throw _)
        fun more => ih (10 - (used + 1)) (by omega) rfl

lemma nextVarint_bounded : StaysWithin data lim (nextVarint data) :=
  .bind varintFrom_bounded fun _ => .bind giveUpIf_bounded fun _ => .pure _

lemma nextLength_bounded {maxAllowed : UInt64} {what : String} :
    StaysWithin data lim (nextLength data maxAllowed what) :=
  .bind nextVarint_bounded fun _ => .bind giveUpIf_bounded fun _ => .pure _

lemma nextBytes_bounded {count : Nat} : StaysWithin data lim (nextBytes data count) := by
  intro s h
  have inside := h.position
  rw [nextBytes]
  split
  · exact h
  · exact ⟨show s.position + count ≤ data.length by omega, h.nodes, h.deepest⟩

lemma eachByte_bounded {count : Nat} : StaysWithin data lim (eachByte data count) := by
  induction count with
  | zero => exact .pure _
  | succ count ih => exact .bind (nextByte_bounded _) fun _ => .bind ih fun _ => .pure _

lemma nextText_bounded {what : String} : StaysWithin data lim (nextText data lim what) :=
  .bind nextLength_bounded fun _ => .bind nextBytes_bounded fun _ =>
    .bind giveUpIf_bounded fun _ => .pure _

lemma nextTag_bounded : StaysWithin data lim (nextTag data lim) :=
  .bind giveUpIf_bounded fun _ => nextByte_bounded _

lemma nextNode_bounded : StaysWithin data lim (nextNode lim) := by
  intro s h
  rw [nextNode]
  split
  · exact h
  · exact ⟨h.position, show s.nodes + 1 ≤ lim.maxNodes.toNat by omega, h.deepest⟩

lemma reachDepth_bounded {depth : Nat} (shallow : depth ≤ lim.maxDepth.toNat) :
    StaysWithin data lim (reachDepth depth) :=
  fun _ h => ⟨h.position, h.nodes, Nat.max_le.2 ⟨h.deepest, shallow⟩⟩

variable {read : ReadStep Value} (below : StaysWithin data lim read)

include below in
lemma nextElements_bounded {count : Nat} : StaysWithin data lim (nextElements read count) := by
  induction count with
  | zero => exact .pure _
  | succ count ih => exact .bind below fun _ => .bind ih fun _ => .pure _

lemma nextKey_bounded {previous : Option Bytes} : StaysWithin data lim (nextKey data lim previous) :=
  .bind nextNode_bounded fun _ => .bind nextTag_bounded fun _ => .bind giveUpIf_bounded fun _ =>
    .bind nextText_bounded fun _ => .bind giveUpIf_bounded fun _ => .bind giveUpIf_bounded fun _ =>
      .pure _

include below in
lemma nextMembers_bounded {count : Nat} {previous : Option Bytes} {object : Value} :
    StaysWithin data lim (nextMembers data lim read count previous object) := by
  induction count generalizing previous object with
  | zero => exact .pure _
  | succ count ih =>
    exact .bind nextKey_bounded fun _ => .bind below fun _ => .bind (orGiveUp_bounded _)
      fun _ => ih

include below in
lemma nextTagged_bounded {tag : UInt8} : StaysWithin data lim (nextTagged data lim read tag) := by
  refine .ite (fun _ => .pure _) fun _ => .ite (fun _ => .pure _) fun _ =>
    .ite (fun _ => .pure _) fun _ => .ite (fun _ => ?_) fun _ => .ite (fun _ => ?_) fun _ =>
    .ite (fun _ => ?_) fun _ => .ite (fun _ => ?_) fun _ => .ite (fun _ => ?_) fun _ =>
    .ite (fun _ => ?_) fun _ => .ite (fun _ => ?_) fun _ => .throw _
  · exact .bind nextVarint_bounded fun _ => .pure _
  · exact .bind nextVarint_bounded fun _ => .pure _
  · exact .bind eachByte_bounded fun _ => .bind giveUpIf_bounded fun _ => .pure _
  · exact .bind nextText_bounded fun _ => .pure _
  · exact .bind nextLength_bounded fun _ => .bind nextBytes_bounded fun _ => .pure _
  · exact .bind nextLength_bounded fun _ => .bind (nextElements_bounded below) fun _ => .pure _
  · exact .bind nextLength_bounded fun _ => nextMembers_bounded below

lemma valueAtDepth_bounded {depth : Nat} : StaysWithin data lim (valueAtDepth data lim depth) := by
  induction left : lim.maxDepth.toNat + 1 - depth using Nat.strong_induction_on generalizing depth with
  | _ m ih =>
    rw [valueAtDepth]
    refine .ite (fun _ => .throw _) fun shallow => ?_
    have below : StaysWithin data lim (valueAtDepth data lim (depth + 1)) :=
      ih (lim.maxDepth.toNat + 1 - (depth + 1)) (by omega) rfl
    exact .bind (reachDepth_bounded (Nat.not_lt.1 shallow)) fun _ => .bind nextNode_bounded fun _ =>
      .bind nextTag_bounded fun _ => nextTagged_bounded below

/-- However a reader ends, it is within the input and within its limits
(source `CanonicalReader::read_document`). -/
lemma nextDocument_bounded : StaysWithin data lim (nextDocument data lim) :=
  .bind valueAtDepth_bounded fun _ => .bind (fun _ h => h) fun _ => .bind giveUpIf_bounded fun _ =>
    .pure _

end Bounds

/-- A reader stands where a cursor does: before the same bytes, with the same number of nodes. -/
structure At (data : Bytes) (nodes : Nat) (s : Progress) (bytes : Bytes) : Prop where
  rest : data.drop s.position = bytes
  nodes : s.nodes = nodes

/-- A reader stands where a cursor does. -/
def AtCursor (data : Bytes) (s : Progress) (c : Cursor) : Prop := At data c.nodes s c.rest

/-- The place of a cursor. -/
lemma At.cursor {data bytes : Bytes} {n : Nat} {s : Progress} (here : At data n s bytes) :
    AtCursor data s ⟨bytes, n⟩ := here

section Erasure

variable {data : Bytes} {lim : CanonicalLimits} {n : Nat} {s : Progress} {bytes : Bytes}
  {α β τ : Type}

/-- A reader gives up when the other one does. -/
lemma follows_orGiveUp {r : Progress → τ → Prop} {result : Result α} {k : α → ReadStep β}
    {g : α → Result (β × τ)} (next : ∀ a, result = .ok a → Follows r (k a) s (g a)) :
    Follows r (orGiveUp result >>= k) s (result >>= g) := by
  cases result with
  | error e => exact ⟨s, rfl⟩
  | ok a => exact next a rfl

/-- A reader gives up when the other one does. -/
lemma follows_giveUpIf {r : Progress → τ → Prop} {c : Prop} [Decidable c] {e : Error}
    {k : Unit → ReadStep β} {g : Unit → Result (β × τ)} (next : Follows r (k ()) s (g ())) :
    Follows r (giveUpIf c e >>= k) s (refuseIf c e >>= g) := follows_orGiveUp fun _ _ => next

/-- The first of the unread bytes. -/
def firstByte (truncated : Error) : Bytes → Result (UInt8 × Bytes)
  | [] => .error truncated
  | byte :: rest => .ok (byte, rest)

/-- One byte is read (source `data_[position_]`). -/
lemma nextByte_follows {e : Error} (here : At data n s bytes) :
    Follows (At data n) (nextByte data e) s (firstByte e bytes) := by
  have first : data[s.position]? = bytes.head? := by
    rw [← here.rest, List.head?_drop]
  cases bytes with
  | nil => exact ⟨s, by rw [nextByte, first]; rfl⟩
  | cons byte rest =>
    refine ⟨{ s with position := s.position + 1 }, by rw [nextByte, first]; rfl, ?_, here.nodes⟩
    rw [← List.drop_drop, here.rest, List.drop_one, List.tail_cons]

/-- The first round of the varint reader (source `CanonicalReader::read_varint`). -/
lemma readVarintFrom_cons {value : UInt64} {used : Nat} {byte : UInt8} {rest : Bytes}
    (f : UInt64 × Nat × Bytes → α) :
    (readVarintFrom value used (byte :: rest)).map f =
      if 63 < 7 * used then .error (makeError .malformed "canonical varint overflows 64 bits")
      else if 7 * used = 63 ∧ byte &&& 0x7e ≠ 0 then
        .error (makeError .malformed "canonical varint overflows 64 bits")
      else if byte &&& 0x80 = 0 then
        .ok (f (value ||| ((byte &&& 0x7f).toUInt64 <<< UInt64.ofNat (7 * used)), used + 1, rest))
      else if 10 ≤ used + 1 then
        .error (makeError .malformed "canonical varint is longer than 10 bytes")
      else (readVarintFrom (value ||| ((byte &&& 0x7f).toUInt64 <<< UInt64.ofNat (7 * used)))
        (used + 1) rest).map f := by
  rw [readVarintFrom]
  split_ifs <;> rfl

/-- The loop of the varint reader (source `CanonicalReader::read_varint`). -/
lemma varintFrom_follows {value : UInt64} {used : Nat} (here : At data n s bytes) :
    Follows (At data n) (varintFrom data value used) s
      ((readVarintFrom value used bytes).map fun p => ((p.1, p.2.1), p.2.2)) := by
  induction left : 10 - used using Nat.strong_induction_on generalizing value used s bytes with
  | _ m ih =>
    have split : (readVarintFrom value used bytes).map (fun p => ((p.1, p.2.1), p.2.2)) =
        firstByte (makeError .corrupt "canonical varint is truncated") bytes >>= fun p =>
          (readVarintFrom value used (p.1 :: p.2)).map fun p => ((p.1, p.2.1), p.2.2) := by
      cases bytes <;> rfl
    rw [split, varintFrom]
    refine (nextByte_follows here).bind fun byte s' rest there => ?_
    rw [readVarintFrom_cons]
    exact .ite (fun _ => .throw) fun _ => .ite (fun _ => .throw) fun _ =>
      .ite (fun _ => .pure there) fun _ => .ite (fun _ => .throw) fun _ =>
        ih (10 - (used + 1)) (by omega) there rfl

/-- A variable-length number (source `CanonicalReader::read_varint`). -/
lemma nextVarint_follows (here : At data n s bytes) :
    Follows (At data n) (nextVarint data) s (readVarint bytes) := by
  have split : readVarint bytes =
      ((readVarintFrom 0 0 bytes).map fun p => ((p.1, p.2.1), p.2.2)) >>=
        fun p : (UInt64 × Nat) × Bytes =>
          refuseIf (1 < p.1.2 ∧ p.1.1 >>> UInt64.ofNat (7 * (p.1.2 - 1)) = 0)
            (makeError .malformed "canonical varint is not minimally encoded") >>= fun _ =>
          .ok (p.1.1, p.2) := by
    rw [readVarint]
    cases readVarintFrom 0 0 bytes <;> rfl
  rw [split]
  exact (varintFrom_follows here).bind fun p s' rest there => follows_giveUpIf (.pure there)

/-- A length within a limit (source `CanonicalReader::read_length`). -/
lemma nextLength_follows {maxAllowed : UInt64} {what : String} (here : At data n s bytes) :
    Follows (At data n) (nextLength data maxAllowed what) s (readLength bytes maxAllowed what) :=
  (nextVarint_follows here).bind fun _ _ _ there => follows_giveUpIf (.pure there)

/-- A number of bytes (source `CanonicalReader::read_bytes_exact`). -/
lemma nextBytes_follows {count : Nat} (here : At data n s bytes) :
    Follows (At data n) (nextBytes data count) s (readBytesExact bytes count) := by
  have left : bytes.length = data.length - s.position := by
    rw [← here.rest, List.length_drop]
  by_cases torn : bytes.length < count
  · have refused : readBytesExact bytes count =
        .error (makeError .corrupt "canonical payload is truncated") := by
      rw [readBytesExact, refuseIf, if_pos torn]
      rfl
    rw [refused]
    exact ⟨s, by rw [nextBytes, if_pos (left ▸ torn)]⟩
  · have read : readBytesExact bytes count = .ok (bytes.take count, bytes.drop count) := by
      rw [readBytesExact, refuseIf, if_neg torn]
      rfl
    rw [read]
    refine ⟨{ s with position := s.position + count }, ?_, ?_, here.nodes⟩
    · rw [nextBytes, if_neg (left ▸ torn), here.rest]
    · rw [← List.drop_drop, here.rest]

/-- A text (source `CanonicalReader::read_value_at_depth`). -/
lemma nextText_follows {what : String} (here : At data n s bytes) :
    Follows (At data n) (nextText data lim what) s (readText lim what bytes) :=
  (nextLength_follows here).bind fun _ _ _ there => (nextBytes_follows there).bind fun _ _ _ there =>
    follows_giveUpIf (.pure there)

/-- A tag byte (source `CanonicalReader::read_tag`). -/
lemma nextTag_follows (here : At data n s bytes) :
    Follows (At data n) (nextTag data lim) s (readTag lim data.length bytes) := by
  refine follows_giveUpIf ?_
  have first := @nextByte_follows data n s bytes
    (makeError .corrupt "canonical document is truncated") here
  cases bytes with
  | nil => exact first
  | cons byte rest => exact first

/-- Some bytes one by one (source `CanonicalReader::read_value_at_depth`, the loop of the real
case). -/
lemma eachByte_follows {count : Nat} (here : At data n s bytes) :
    Follows (At data n) (eachByte data count) s
      (refuseIf (bytes.length < count) (makeError .corrupt "canonical real is truncated") >>=
        fun _ => .ok (bytes.take count, bytes.drop count)) := by
  induction count generalizing s bytes with
  | zero => exact .pure here
  | succ count ih =>
    have split : (refuseIf (bytes.length < count + 1)
        (makeError .corrupt "canonical real is truncated") >>= fun _ =>
          (.ok (bytes.take (count + 1), bytes.drop (count + 1)) : Result (Bytes × Bytes))) =
        firstByte (makeError .corrupt "canonical real is truncated") bytes >>= fun p =>
          (refuseIf (p.2.length < count) (makeError .corrupt "canonical real is truncated") >>=
            fun _ => .ok (p.2.take count, p.2.drop count)) >>= fun q => .ok (p.1 :: q.1, q.2) := by
      cases bytes with
      | nil => rfl
      | cons byte rest =>
        by_cases short : rest.length < count
        · have longer : (byte :: rest).length < count + 1 := Nat.succ_lt_succ short
          rw [refuseIf, if_pos longer, firstByte]
          change _ = (refuseIf (rest.length < count) _ >>= _) >>= _
          rw [refuseIf, if_pos short]
          rfl
        · have longer : ¬ (byte :: rest).length < count + 1 := fun h => short (Nat.lt_of_succ_lt_succ h)
          rw [refuseIf, if_neg longer, firstByte]
          change _ = (refuseIf (rest.length < count) _ >>= _) >>= _
          rw [refuseIf, if_neg short]
          rfl
    rw [split]
    exact (nextByte_follows here).bind fun _ _ _ there => (ih there).bind fun _ _ _ there => .pure there

/-- A node is counted (source `++nodes_`). -/
lemma follows_nextNode {r : Progress → τ → Prop} {c : Cursor} {k : Unit → ReadStep β}
    {g : Cursor → Result (β × τ)} (here : AtCursor data s c)
    (next : ∀ s' c', AtCursor data s' c' → Follows r (k ()) s' (g c')) :
    Follows r (nextNode lim >>= k) s (countNode lim c >>= g) := by
  have split : countNode lim c >>= g =
      ((countNode lim c).map fun c' => ((), c')) >>= fun p => g p.2 := by
    cases countNode lim c <;> rfl
  have counts : Follows (AtCursor data) (nextNode lim) s
      ((countNode lim c).map fun c' => ((), c')) := by
    have counted : s.nodes = c.nodes := here.nodes
    by_cases spent : lim.maxNodes.toNat ≤ c.nodes
    · have refused : countNode lim c = .error (makeError .capacityExceeded
          "canonical document exceeds the configured node budget") := by
        rw [countNode, refuseIf, if_pos spent]
        rfl
      rw [refused]
      exact ⟨s, by rw [nextNode, counted, if_pos spent]⟩
    · have passed : countNode lim c = .ok { c with nodes := c.nodes + 1 } := by
        rw [countNode, refuseIf, if_neg spent]
        rfl
      rw [passed]
      exact ⟨{ s with nodes := c.nodes + 1 }, by rw [nextNode, counted, if_neg spent],
        here.rest, rfl⟩
  rw [split]
  exact counts.bind fun _ s' c' there => next s' c' there

variable {read : ReadStep Value} {read' : Cursor → Result (Value × Cursor)}

/-- A reader does from every place what another one does. -/
def SameReader (data : Bytes) (read : ReadStep Value) (read' : Cursor → Result (Value × Cursor)) :
    Prop := ∀ s c, AtCursor data s c → Follows (AtCursor data) read s (read' c)

/-- The elements of an array (source `CanonicalReader::read_value_at_depth`, the array loop). -/
lemma nextElements_follows (same : SameReader data read read') {count : Nat} {c : Cursor}
    (here : AtCursor data s c) :
    Follows (AtCursor data) (nextElements read count) s (readElements read' count c) := by
  induction count generalizing s c with
  | zero => exact .pure here
  | succ count ih =>
    exact (same s c here).bind fun _ _ _ there => (ih there).bind fun _ _ _ there => .pure there

/-- A key (source `CanonicalReader::read_value_at_depth`, the head of the object loop). -/
lemma nextKey_follows {previous : Option Bytes} {c : Cursor} (here : AtCursor data s c) :
    Follows (AtCursor data) (nextKey data lim previous) s
      (readKey lim data.length previous c) :=
  follows_nextNode here fun _ _ there => (nextTag_follows there).bind fun _ _ _ there =>
    follows_giveUpIf <| (nextText_follows there).bind fun _ _ _ there =>
      follows_giveUpIf <| follows_giveUpIf <| .pure there

/-- The members of an object (source `CanonicalReader::read_value_at_depth`, the object loop). -/
lemma nextMembers_follows (same : SameReader data read read') {count : Nat}
    {previous : Option Bytes} {object : Value} {c : Cursor} (here : AtCursor data s c) :
    Follows (AtCursor data) (nextMembers data lim read count previous object) s
      (readMembers lim data.length read' count previous object c) := by
  induction count generalizing s c previous object with
  | zero => exact .pure here
  | succ count ih =>
    exact (nextKey_follows here).bind fun _ _ _ there => (same _ _ there).bind fun _ _ _ there =>
      follows_orGiveUp fun _ _ => ih there

/-- What follows a tag (source `CanonicalReader::read_value_at_depth`, the switch). -/
lemma nextTagged_follows (same : SameReader data read read') {tag : UInt8} {c : Cursor}
    (here : AtCursor data s c) :
    Follows (AtCursor data) (nextTagged data lim read tag) s
      (readTagged lim data.length read' tag c) := by
  rw [nextTagged, readTagged]
  refine .ite (fun _ => .pure here) fun _ => .ite (fun _ => .pure here) fun _ =>
    .ite (fun _ => .pure here) fun _ => .ite (fun _ => ?_) fun _ => .ite (fun _ => ?_) fun _ =>
    .ite (fun _ => ?_) fun _ => .ite (fun _ => ?_) fun _ => .ite (fun _ => ?_) fun _ =>
    .ite (fun _ => ?_) fun _ => .ite (fun _ => ?_) fun _ => .throw
  · exact (nextVarint_follows here).bind fun _ _ _ there => .pure there
  · exact (nextVarint_follows here).bind fun _ _ _ there => .pure there
  · change Follows _ _ s (refuseIf (c.rest.length < 8) _ >>= fun _ =>
      (.ok (c.rest.take 8, c.rest.drop 8) : Result (Bytes × Bytes)) >>= fun p =>
        refuseIf ((⟨UInt64.ofNat (ofLittleEndian p.1)⟩ : Binary64).isNaN = true) _ >>= fun _ =>
          .ok (Value.real ⟨UInt64.ofNat (ofLittleEndian p.1)⟩, { c with rest := p.2 }))
    rw [← bind_assoc]
    exact (eachByte_follows here).bind fun _ _ _ there => follows_giveUpIf (.pure there.cursor)
  · exact (nextText_follows here).bind fun _ _ _ there => .pure there
  · exact (nextLength_follows here).bind fun _ _ _ there =>
      (nextBytes_follows there).bind fun _ _ _ there => .pure there
  · exact (nextLength_follows here).bind fun _ _ _ there =>
      (nextElements_follows same there.cursor).bind fun _ _ _ there => .pure there
  · exact (nextLength_follows here).bind fun _ _ _ there => nextMembers_follows same there.cursor

/-- Coming to a level leaves a reader where it stands. -/
lemma follows_reachDepth {r : Progress → τ → Prop} {depth : Nat} {c : Cursor} {k : Unit → ReadStep β}
    {f : Result (β × τ)} (here : AtCursor data s c)
    (next : ∀ s', AtCursor data s' c → Follows r (k ()) s' f) :
    Follows r (reachDepth depth >>= k) s f := by
  have rest := next { s with deepest := max s.deepest depth } ⟨here.rest, here.nodes⟩
  cases f with
  | ok p => exact rest
  | error e => exact rest

/-- A value at a level (source `CanonicalReader::read_value_at_depth`). -/
lemma valueAtDepth_follows {levels depth : Nat} (deep : levels + depth = lim.maxDepth.toNat + 1) :
    SameReader data (valueAtDepth data lim depth) (readValue lim data.length levels) := by
  induction levels generalizing depth with
  | zero =>
    intro s c here
    rw [valueAtDepth, if_pos (by omega)]
    exact .throw
  | succ levels ih =>
    intro s c here
    have below := @ih (depth + 1) (by omega)
    rw [valueAtDepth, if_neg (by omega), readValue]
    exact follows_reachDepth here fun _ there => follows_nextNode there fun _ _ there =>
      (nextTag_follows there).bind fun _ _ _ there =>
        nextTagged_follows below there.cursor

/-- The reader with its progress reads what the other one reads
(source `CanonicalReader::read_document`). -/
lemma nextDocument_outcome :
    outcomeOf (nextDocument data lim .start) = readDocument lim data := by
  have root := @valueAtDepth_follows data lim (lim.maxDepth.toNat + 1) 0 rfl .start ⟨data, 0⟩
    ⟨rfl, rfl⟩
  have document : Follows (fun _ (_ : Unit) => True) (nextDocument data lim) .start
      (readValue lim data.length (lim.maxDepth.toNat + 1) ⟨data, 0⟩ >>= fun p =>
        refuseIf (p.2.rest ≠ []) (makeError .malformed
          "trailing bytes after the canonical document") >>= fun _ => .ok (p.1, ())) := by
    refine root.bind fun v s c there => ?_
    have more : (c.rest ≠ []) = (s.position < data.length) := by
      rw [← there.rest, ne_eq, List.drop_eq_nil_iff, Nat.not_le]
    have ended (e : Error) : refuseIf (c.rest ≠ []) e = refuseIf (s.position < data.length) e := by
      simp only [more]
    rw [ended]
    exact follows_orGiveUp (s := s) fun _ _ => ⟨s, rfl, trivial⟩
  rw [document.outcomeOf_eq, readDocument]
  cases readValue lim data.length (lim.maxDepth.toNat + 1) ⟨data, 0⟩ with
  | error e => rfl
  | ok p =>
    change Except.map Prod.fst (refuseIf (p.2.rest ≠ []) _ >>= fun _ => .ok (p.1, ())) =
      refuseIf (p.2.rest ≠ []) _ >>= fun _ => .ok p.1
    cases refuseIf (p.2.rest ≠ []) (makeError .malformed
      "trailing bytes after the canonical document") <;> rfl

/-- The reader ends on every input, and however it ends, it read inside the input, counted at most
`max_nodes` nodes and read no value deeper than `max_depth`; beyond that depth it gives up at once. A
value that it returns is within every limit (source `CanonicalReader::read_document`). -/
theorem nextDocument_limits (data : Bytes) (lim : CanonicalLimits) :
    (finalState (nextDocument data lim .start)).Within data lim ∧
    outcomeOf (nextDocument data lim .start) = readDocument lim data ∧
    (∀ v, outcomeOf (nextDocument data lim .start) = .ok v → v.Within lim) ∧
    ∀ depth s, lim.maxDepth.toNat < depth → ∃ e, valueAtDepth data lim depth s = .error e s := by
  refine ⟨nextDocument_bounded _ ⟨Nat.zero_le _, Nat.zero_le _, Nat.zero_le _⟩,
    nextDocument_outcome, fun v read => ?_, fun depth s deep => ?_⟩
  · rw [nextDocument_outcome] at read
    exact (readDocument_fits read).within
  · rw [valueAtDepth, if_pos deep]
    exact ⟨_, rfl⟩

end Erasure

end TransceiverRegistry
