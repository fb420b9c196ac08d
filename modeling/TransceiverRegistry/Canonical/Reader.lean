import TransceiverRegistry.Canonical.Writer

/-!
# The canonical reader

Port of `CanonicalReader`. A cursor holds the unread bytes and the number of nodes counted so far;
the position of the source is the length of what was read. The nesting depth is bounded by the
number of levels left, and the loops over elements and members run a given number of times.
-/

namespace TransceiverRegistry

open Lib

/-- The progress of a reader (source `CanonicalReader`, `position_` and `nodes_`). -/
structure Cursor where
  rest : Bytes
  nodes : Nat

/-- The loop of the varint reader after `used` bytes (source `CanonicalReader::read_varint`). -/
def readVarintFrom (value : UInt64) (used : Nat) : Bytes → Result (UInt64 × Nat × Bytes)
  | [] => .error (makeError .corrupt "canonical varint is truncated")
  | byte :: rest =>
    let shift := 7 * used
    if 63 < shift then
      .error (makeError .malformed "canonical varint overflows 64 bits")
    else if shift = 63 ∧ byte &&& 0x7e ≠ 0 then
      .error (makeError .malformed "canonical varint overflows 64 bits")
    else
      let value := value ||| ((byte &&& 0x7f).toUInt64 <<< UInt64.ofNat shift)
      if byte &&& 0x80 = 0 then .ok (value, used + 1, rest)
      else if 10 ≤ used + 1 then
        .error (makeError .malformed "canonical varint is longer than 10 bytes")
      else readVarintFrom value (used + 1) rest

/-- Read a variable-length number (source `CanonicalReader::read_varint`). -/
def readVarint (bytes : Bytes) : Result (UInt64 × Bytes) := do
  let (value, used, rest) ← readVarintFrom 0 0 bytes
  refuseIf (1 < used ∧ value >>> UInt64.ofNat (7 * (used - 1)) = 0)
    (makeError .malformed "canonical varint is not minimally encoded")
  .ok (value, rest)

/-- Read a length within a limit (source `CanonicalReader::read_length`). -/
def readLength (bytes : Bytes) (maxAllowed : UInt64) (what : String) : Result (Nat × Bytes) := do
  let (value, rest) ← readVarint bytes
  refuseIf (maxAllowed < value)
    ⟨.capacityExceeded, text what ++ text " exceeds the configured limit"⟩
  .ok (value.toNat, rest)

/-- Read a number of bytes (source `CanonicalReader::read_bytes_exact`). -/
def readBytesExact (bytes : Bytes) (count : Nat) : Result (Bytes × Bytes) := do
  refuseIf (bytes.length < count) (makeError .corrupt "canonical payload is truncated")
  .ok (bytes.take count, bytes.drop count)

/-- Read a text of valid UTF-8 (source `CanonicalReader::read_value_at_depth`, the text case and the
keys of the object case). -/
def readText (lim : CanonicalLimits) (what : String) (bytes : Bytes) : Result (Bytes × Bytes) := do
  let (length, bytes) ← readLength bytes lim.maxStringBytes what
  let (raw, bytes) ← readBytesExact bytes length
  refuseIf (isValidUtf8 raw = false) ⟨.malformed, text what ++ text " is not valid UTF-8"⟩
  .ok (raw, bytes)

section Reader

variable (lim : CanonicalLimits) (size : Nat)

/-- Read a tag byte of a document of `size` bytes (source `CanonicalReader::read_tag`). -/
def readTag (bytes : Bytes) : Result (UInt8 × Bytes) := do
  refuseIf (lim.maxDocumentBytes.toNat < size)
    (makeError .capacityExceeded "canonical document exceeds the configured byte limit")
  match bytes with
  | [] => .error (makeError .corrupt "canonical document is truncated")
  | tag :: rest => .ok (tag, rest)

/-- Count a node (source `++nodes_`). -/
def countNode (c : Cursor) : Result Cursor := do
  refuseIf (lim.maxNodes.toNat ≤ c.nodes)
    (makeError .capacityExceeded "canonical document exceeds the configured node budget")
  .ok { c with nodes := c.nodes + 1 }

/-- Read the elements of an array (source `CanonicalReader::read_value_at_depth`, the array
loop). -/
def readElements (read : Cursor → Result (Value × Cursor)) :
    Nat → Cursor → Result (List Value × Cursor)
  | 0, c => .ok ([], c)
  | count + 1, c => do
    let (element, c) ← read c
    let (elements, c) ← readElements read count c
    .ok (element :: elements, c)

/-- Read a key that comes after the previous one (source `CanonicalReader::read_value_at_depth`, the
head of the object loop). -/
def readKey (previous : Option Bytes) (c : Cursor) : Result (Bytes × Cursor) := do
  let c ← countNode lim c
  let (tag, bytes) ← readTag lim size c.rest
  refuseIf (tag ≠ 5) (makeError .malformed "canonical object key must be a text value")
  let (key, bytes) ← readText lim "canonical object key" bytes
  refuseIf (key = []) (makeError .malformed "canonical object key must not be empty")
  refuseIf (previous.any (fun previous => (compareBytes previous key).isGE) = true)
    (makeError .malformed "canonical object keys must be unique and sorted")
  .ok (key, { c with rest := bytes })

/-- Read the members of an object (source `CanonicalReader::read_value_at_depth`, the object
loop). -/
def readMembers (read : Cursor → Result (Value × Cursor)) :
    Nat → Option Bytes → Value → Cursor → Result (Value × Cursor)
  | 0, _, object, c => .ok (object, c)
  | count + 1, previous, object, c => do
    let (key, c) ← readKey lim size previous c
    let (value, c) ← read c
    let object ← object.setUnique key value
    readMembers read count (some key) object c

/-- Read what follows a tag; `read` reads the values one level below
(source `CanonicalReader::read_value_at_depth`, the switch). -/
def readTagged (read : Cursor → Result (Value × Cursor)) (tag : UInt8) (c : Cursor) :
    Result (Value × Cursor) :=
  if tag = 0 then .ok (.null, c)
  else if tag = 1 then .ok (.boolean false, c)
  else if tag = 2 then .ok (.boolean true, c)
  else if tag = 3 then do
    let (raw, bytes) ← readVarint c.rest
    .ok (.integer (zigzagDecode raw), { c with rest := bytes })
  else if tag = 9 then do
    let (raw, bytes) ← readVarint c.rest
    .ok (.unsigned raw, { c with rest := bytes })
  else if tag = 4 then do
    refuseIf (c.rest.length < 8) (makeError .corrupt "canonical real is truncated")
    let number : Binary64 := ⟨UInt64.ofNat (ofLittleEndian (c.rest.take 8))⟩
    refuseIf (number.isNaN = true) (makeError .malformed "canonical real must not be NaN")
    .ok (.real number, { c with rest := c.rest.drop 8 })
  else if tag = 5 then do
    let (raw, bytes) ← readText lim "canonical text" c.rest
    .ok (.text raw, { c with rest := bytes })
  else if tag = 6 then do
    let (length, bytes) ← readLength c.rest lim.maxBinaryBytes "canonical binary"
    let (raw, bytes) ← readBytesExact bytes length
    .ok (.binary raw, { c with rest := bytes })
  else if tag = 7 then do
    let (count, bytes) ← readLength c.rest lim.maxElements "canonical array"
    let (elements, c) ← readElements read count { c with rest := bytes }
    .ok (.array elements, c)
  else if tag = 8 then do
    let (count, bytes) ← readLength c.rest lim.maxObjectFields "canonical object"
    readMembers lim size read count none (.members []) { c with rest := bytes }
  else .error (makeError .malformed "unknown canonical tag byte")

/-- Read a value with `levels` levels of nesting left
(source `CanonicalReader::read_value_at_depth`). -/
def readValue : (levels : Nat) → Cursor → Result (Value × Cursor)
  | 0, _ => .error
    (makeError .capacityExceeded "canonical document nesting exceeds the configured depth")
  | levels + 1, c => do
    let c ← countNode lim c
    let (tag, bytes) ← readTag lim size c.rest
    readTagged lim size (readValue levels) tag { c with rest := bytes }

end Reader

/-- Read a whole document; its root is at depth zero (source `CanonicalReader::read_document`). -/
def readDocument (lim : CanonicalLimits) (bytes : Bytes) : Result Value := do
  let (value, c) ← readValue lim bytes.length (lim.maxDepth.toNat + 1) ⟨bytes, 0⟩
  refuseIf (c.rest ≠ []) (makeError .malformed "trailing bytes after the canonical document")
  .ok value

end TransceiverRegistry
