import TransceiverRegistry.Lib.FileStore
import TransceiverRegistry.Snapshot.File

/-!
# Snapshot files on disk

Port of `write_file_atomically` and `read_file` of `snapshot.cpp`, one call of the system at a time.
What `fwrite` is given reaches the file in pieces, the last of them when the stream is closed, and every
call may fail. A flush to stable storage changes nothing that another process reads.
-/

namespace TransceiverRegistry

open Lib

/-- The names a save works on (source `write_file_atomically`, `path` and `temporary`). -/
inductive SaveName where
  | path | temporary
deriving DecidableEq

/-- The files a save works on. -/
abbrev Disk := FileStore SaveName UInt8

/-- A stream that is open for writing, and how much of it has reached the file (source
`write_file_atomically`, `file`). -/
structure OutStream where
  file : Nat
  bytes : Bytes
  flushed : Nat

/-- Where a write stands (source `write_file_atomically`). -/
inductive WritePoint where
  /-- Before `fopen`. -/
  | opening (bytes : Bytes)
  /-- In `fwrite`. -/
  | writing (stream : OutStream)
  /-- Before the flush to stable storage. -/
  | syncing (stream : OutStream)
  /-- Before `fclose`, with what failed. -/
  | closing (stream : OutStream) (failure : Option Error)
  /-- Before `rename`. -/
  | renaming (bytes : Bytes)
  /-- Before `remove`. -/
  | removing (failure : Error)
  | returned (status : Result Unit)

/-- What the system does for a write: a call returns, or a piece reaches the file. -/
inductive WriteAction where
  | opened (ok : Bool)
  | flushed (count : Nat)
  | wrote (ok : Bool)
  | synced (ok : Bool)
  | closed (ok : Bool)
  | renamed (ok : Bool)
  | removed (ok : Bool)

/-- The call of the system succeeds; a piece that reaches the file is no call that may fail. -/
def WriteAction.succeeds : WriteAction → Bool
  | .flushed _ => true
  | .opened ok | .wrote ok | .synced ok | .closed ok | .renamed ok | .removed ok => ok

/-- Where a write begins; an empty path is refused (source `write_file_atomically`). -/
def WritePoint.enter (path bytes : Bytes) : WritePoint :=
  if path = [] then .returned (.error (makeError .invalidArgument "a snapshot path is required"))
  else .opening bytes

/-- The write has opened the temporary file and not yet renamed or removed it. -/
def WritePoint.holds : WritePoint → Bool
  | .opening _ | .returned _ => false
  | _ => true

/-- A piece of a stream reaches its file. -/
def OutStream.flush (stream : OutStream) (disk : Disk) (count : Nat) : Option (Disk × OutStream) :=
  if 0 < count ∧ stream.flushed + count ≤ stream.bytes.length then
    some (disk.writeAt stream.file stream.flushed ((stream.bytes.drop stream.flushed).take count),
      { stream with flushed := stream.flushed + count })
  else none

/-- The stream goes on to be closed, or to be flushed to stable storage first (source
`write_file_atomically`, `ok && fsync`). -/
def OutStream.written (stream : OutStream) (fsync ok : Bool) : WritePoint :=
  if ok = false then
    .closing stream (some (makeError .ioError "short write while persisting the snapshot"))
  else if fsync then .syncing stream else .closing stream none

/-- The next call of a write (source `write_file_atomically`). -/
def WritePoint.step (path : Bytes) (fsync : Bool) (disk : Disk) :
    WritePoint → WriteAction → Option (Disk × WritePoint)
  | .opening _, .opened false => some (disk, .returned (.error ⟨.ioError,
      text "cannot open the temporary snapshot file '" ++ path ++ text ".tmp" ++
        text "' for writing"⟩))
  | .opening bytes, .opened true =>
    some ((disk.truncate .temporary).1, .writing ⟨(disk.truncate .temporary).2, bytes, 0⟩)
  | .writing stream, .flushed count => (stream.flush disk count).map fun (d, s) => (d, .writing s)
  | .writing stream, .wrote ok =>
    if stream.bytes = [] ∧ ok = false then none else some (disk, stream.written fsync ok)
  | .syncing stream, .flushed count => (stream.flush disk count).map fun (d, s) => (d, .syncing s)
  | .syncing stream, .synced ok => some (disk, .closing stream
      (if ok then none else some (makeError .ioError "flush to stable storage failed")))
  | .closing stream failure, .flushed count =>
    (stream.flush disk count).map fun (d, s) => (d, .closing s failure)
  | .closing stream none, .closed true =>
    if stream.flushed = stream.bytes.length then some (disk, .renaming stream.bytes) else none
  | .closing _ none, .closed false =>
    some (disk, .removing (makeError .ioError "closing the temporary snapshot file failed"))
  | .closing _ (some failure), .closed _ => some (disk, .removing failure)
  | .renaming _, .renamed true =>
    (disk.rename .temporary .path).map fun d => (d, .returned (.ok ()))
  | .renaming _, .renamed false =>
    some (disk, .removing (makeError .ioError "atomic rename of the snapshot failed"))
  | .removing failure, .removed true => some (disk.remove .temporary, .returned (.error failure))
  | .removing failure, .removed false => some (disk, .returned (.error failure))
  | _, _ => none

/-- What has reached the file of a stream is in the temporary file. -/
structure OutStream.Ready (disk : Disk) (bytes : Bytes) (stream : OutStream) : Prop where
  own : stream.bytes = bytes
  inside : stream.flushed ≤ bytes.length
  holds : disk.Holds .temporary stream.file (bytes.take stream.flushed)

/-- The write is on its way: what it has written is in the temporary file. -/
def WritePoint.Ready (disk : Disk) (bytes : Bytes) : WritePoint → Prop
  | .opening b => b = bytes
  | .writing stream | .syncing stream | .closing stream _ => stream.Ready disk bytes
  | .renaming b => b = bytes ∧ disk.read .temporary = some bytes
  | .removing _ | .returned _ => True

/-- A step leaves the file at the path as it is, or is the rename that puts the bytes there. -/
structure WriteStep (disk disk' : Disk) (bytes : Bytes) (action : WriteAction)
    (point' : WritePoint) : Prop where
  sound : disk'.Sound
  ready : point'.Ready disk' bytes
  saved : point' = .returned (.ok ()) → action = .renamed true ∧ disk'.read .path = some bytes
  kept : point' ≠ .returned (.ok ()) → disk'.read .path = disk.read .path

section Write

variable {path bytes : Bytes} {fsync : Bool} {disk disk' : Disk} {point point' : WritePoint}
  {stream stream' : OutStream} {action : WriteAction}

/-- A write begins at `fopen`, or it is refused. -/
lemma WritePoint.enter_cases : WritePoint.enter path bytes = .opening bytes ∨
    ∃ failure, WritePoint.enter path bytes = .returned (.error failure) := by
  unfold enter
  split
  · exact .inr ⟨_, rfl⟩
  · exact .inl rfl

/-- A write that begins is on its way, and has not opened the temporary file. -/
lemma WritePoint.ready_enter : (WritePoint.enter path bytes).Ready disk bytes ∧
    (WritePoint.enter path bytes).holds = false := by
  obtain opening | ⟨failure, refused⟩ := @enter_cases path bytes
  · rw [opening]
    exact ⟨rfl, rfl⟩
  · rw [refused]
    exact ⟨trivial, rfl⟩

/-- A write that does not hold the temporary file is not concerned with the disk. -/
lemma WritePoint.Ready.congr (ready : point.Ready disk bytes) (free : point.holds = false) :
    point.Ready disk' bytes := by
  cases point with
  | opening | returned => exact ready
  | _ => cases free

/-- A piece of the stream is appended to the temporary file. -/
lemma OutStream.Ready.flush (ready : stream.Ready disk bytes) (sound : disk.Sound) {count : Nat}
    (moved : stream.flush disk count = some (disk', stream')) :
    disk'.Sound ∧ disk'.read .path = disk.read .path ∧ stream'.Ready disk' bytes := by
  obtain ⟨rfl, _, holds⟩ := ready
  unfold OutStream.flush at moved
  split at moved
  · rename_i inside
    cases moved
    have here : (stream.bytes.take stream.flushed).length = stream.flushed :=
      List.length_take_of_le (by omega)
    obtain ⟨sound, holds, others⟩ :=
      sound.append holds ((stream.bytes.drop stream.flushed).take count)
    rw [here] at sound holds others
    rw [← List.take_add] at holds
    exact ⟨sound, others .path (by decide), rfl, inside.2, holds⟩
  · cases moved

/-- A piece reaches the file, whatever the write waits for. -/
lemma WriteStep.flush (next : OutStream → WritePoint)
    (reads : ∀ d s, (next s).Ready d bytes = s.Ready d bytes)
    (isOpen : ∀ s status, next s ≠ .returned status) (ready : (next stream).Ready disk bytes)
    (sound : disk.Sound) {count : Nat}
    (moved : (stream.flush disk count).map (fun (d, s) => (d, next s)) = some (disk', point')) :
    WriteStep disk disk' bytes action point' := by
  obtain ⟨⟨d, s⟩, taken, e⟩ := Option.map_eq_some_iff.1 moved
  cases e
  rw [reads] at ready
  obtain ⟨sound, path, ready⟩ := ready.flush sound taken
  exact ⟨sound, (reads _ _).symm ▸ ready, fun returned => absurd returned (isOpen s _), fun _ => path⟩

/-- The stream waits to be closed or to be flushed to stable storage. -/
lemma OutStream.Ready.written (ready : stream.Ready disk bytes) (ok : Bool) :
    (stream.written fsync ok).Ready disk bytes ∧
      ∀ status, stream.written fsync ok ≠ .returned status := by
  unfold OutStream.written
  cases ok <;> cases fsync <;> exact ⟨ready, nofun⟩

/-- Every call of a write keeps it on its way. -/
lemma WritePoint.Ready.step (ready : point.Ready disk bytes) (sound : disk.Sound)
    (moved : point.step path fsync disk action = some (disk', point')) :
    WriteStep disk disk' bytes action point' := by
  unfold WritePoint.step at moved
  split at moved
  · cases moved
    exact ⟨sound, trivial, nofun, fun _ => rfl⟩
  · cases moved
    obtain ⟨sound, holds, others⟩ := sound.truncate .temporary
    exact ⟨sound, ⟨ready, Nat.zero_le _, holds⟩, nofun, fun _ => others .path (by decide)⟩
  · exact .flush .writing (fun _ _ => rfl) nofun ready sound moved
  · split at moved
    · cases moved
    · cases moved
      obtain ⟨ready, isOpen⟩ := ready.written _
      exact ⟨sound, ready, fun returned => absurd returned (isOpen _), fun _ => rfl⟩
  · exact .flush .syncing (fun _ _ => rfl) nofun ready sound moved
  · cases moved
    exact ⟨sound, ready, nofun, fun _ => rfl⟩
  · exact .flush (.closing · _) (fun _ _ => rfl) nofun ready sound moved
  · split at moved
    · rename_i all
      cases moved
      obtain ⟨rfl, _, holds⟩ := ready
      refine ⟨sound, ⟨rfl, ?_⟩, nofun, fun _ => rfl⟩
      rw [all, List.take_length] at holds
      exact holds.read
    · cases moved
  · cases moved
    exact ⟨sound, trivial, nofun, fun _ => rfl⟩
  · cases moved
    exact ⟨sound, trivial, nofun, fun _ => rfl⟩
  · obtain ⟨d, renamed, e⟩ := Option.map_eq_some_iff.1 moved
    cases e
    obtain ⟨sound, reads⟩ := sound.rename renamed
    exact ⟨sound, trivial, fun _ => ⟨rfl, reads.trans ready.2⟩, fun other => absurd rfl other⟩
  · cases moved
    exact ⟨sound, trivial, nofun, fun _ => rfl⟩
  · cases moved
    obtain ⟨sound, others⟩ := sound.remove .temporary
    exact ⟨sound, trivial, nofun, fun _ => others .path (by decide)⟩
  · cases moved
    exact ⟨sound, trivial, nofun, fun _ => rfl⟩
  · cases moved

/-- A write that does not hold the temporary file opens it or leaves the disk. -/
lemma WritePoint.step_free (free : point.holds = false)
    (moved : point.step path fsync disk action = some (disk', point')) :
    action = .opened true ∨ (disk' = disk ∧ point'.holds = false) := by
  cases point with
  | opening bytes =>
    cases action with
    | opened ok =>
      cases ok with
      | true => exact .inl rfl
      | false =>
        cases moved
        exact .inr ⟨rfl, rfl⟩
    | _ => cases moved
  | returned status => cases moved
  | _ => cases free

end Write

/-- The bytes one `fread` asks for (source `read_file`, `buffer`). -/
def kReadBytes : Nat := 64 * 1024

/-- Read what is left of a file, which ends or fails there (source `read_file`, the loop). -/
def readChunks (failed : Bool) (rest bytes : Bytes) : Result Bytes :=
  let piece := rest.take kReadBytes
  if 0 < piece.length ∧ kMaxSnapshotBytes < bytes.length + piece.length then
    .error (makeError .capacityExceeded "snapshot exceeds the maximum accepted size")
  else if piece.length < kReadBytes then
    if failed then .error (makeError .ioError "reading the snapshot failed") else .ok (bytes ++ piece)
  else readChunks failed (rest.drop kReadBytes) (bytes ++ piece)
termination_by rest.length
decreasing_by
  rename_i whole
  rw [List.length_take, Nat.not_lt] at whole
  have positive : 0 < kReadBytes := by decide
  rw [List.length_drop]
  omega

/-- Read a file, which may be absent and may fail to be read after some bytes (source
`read_file`). -/
def readFile (path : Bytes) (file : Option Bytes) (cut : Option Nat) : Result Bytes := do
  let content ← orRefuse file ⟨.ioError,
    text "cannot open snapshot '" ++ path ++ text "' for reading"⟩
  match cut with
  | none => readChunks false content []
  | some count => readChunks true (content.take count) []

/-- Reading piece by piece is reading at once (source `read_file`, the loop). -/
lemma readChunks_eq (failed : Bool) (rest bytes : Bytes)
    (small : bytes.length ≤ kMaxSnapshotBytes) :
    readChunks failed rest bytes = if kMaxSnapshotBytes < bytes.length + rest.length then
      .error (makeError .capacityExceeded "snapshot exceeds the maximum accepted size")
      else if failed then .error (makeError .ioError "reading the snapshot failed")
      else .ok (bytes ++ rest) := by
  rw [readChunks]
  have positive : 0 < kReadBytes := by decide
  have pieces : (rest.take kReadBytes).length = min kReadBytes rest.length := List.length_take
  split
  · rename_i large
    rw [if_pos (by omega)]
  · rename_i fits
    split
    · rename_i last
      -- the piece is all that is left
      have whole : rest.take kReadBytes = rest := List.take_of_length_le (by omega)
      have inside : ¬ kMaxSnapshotBytes < bytes.length + rest.length := by
        rw [whole] at fits
        omega
      rw [whole, if_neg inside]
    · rename_i more
      rw [readChunks_eq failed _ _ (by rw [List.length_append]; omega), List.append_assoc,
        List.take_append_drop, List.length_append, List.length_drop]
      have same : bytes.length + (rest.take kReadBytes).length + (rest.length - kReadBytes) =
          bytes.length + rest.length := by omega
      rw [same]
termination_by rest.length
decreasing_by
  rw [List.length_drop]
  omega

/-- A file that can be read is read as it is, up to the bound (source `read_file`). -/
lemma readFile_eq (path content : Bytes) : readFile path (some content) none =
    if kMaxSnapshotBytes < content.length then
      .error (makeError .capacityExceeded "snapshot exceeds the maximum accepted size")
    else .ok content := by
  have whole := readChunks_eq false content [] (Nat.zero_le _)
  rw [List.length_nil, Nat.zero_add] at whole
  exact whole

end TransceiverRegistry
