import Mathlib.Logic.Function.Basic

/-!
# Files and their names

A file is an object of its own: a name leads to it, an open handle keeps writing to it after the name
leads elsewhere, and opening a name for writing empties the file it leads to. So two names can trade
files without a moment at which one of them leads to a part of a file.
-/

namespace Lib

/-- The names that lead to a file, and what the files hold. -/
structure FileStore (ν α : Type*) where
  names : ν → Option Nat
  files : List (List α)

/-- Write a piece at a position of a file; a gap before it is filled. -/
def overwrite {α : Type*} [Inhabited α] (file : List α) (position : Nat) (piece : List α) : List α :=
  file.take position ++ List.replicate (position - file.length) default ++ piece ++
    file.drop (position + piece.length)

/-- A piece that is written at the end of a file is appended. -/
lemma overwrite_length {α : Type*} [Inhabited α] (file piece : List α) :
    overwrite file file.length piece = file ++ piece := by
  simp [overwrite]

namespace FileStore

variable {ν α : Type*} [DecidableEq ν]

/-- What the file of a name holds. -/
def read (fs : FileStore ν α) (name : ν) : Option (List α) :=
  (fs.names name).bind (fs.files[·]?)

/-- Open a name for writing: its file is emptied, or a new one is made. -/
def truncate (fs : FileStore ν α) (name : ν) : FileStore ν α × Nat :=
  match fs.names name with
  | some i => ({ fs with files := fs.files.set i [] }, i)
  | none => (⟨Function.update fs.names name (some fs.files.length), fs.files ++ [[]]⟩,
      fs.files.length)

/-- Write a piece at a position of an open file. -/
def writeAt [Inhabited α] (fs : FileStore ν α) (i position : Nat) (piece : List α) :
    FileStore ν α :=
  { fs with files := fs.files.modify i (overwrite · position piece) }

/-- Let a name lead nowhere. -/
def remove (fs : FileStore ν α) (name : ν) : FileStore ν α :=
  { fs with names := Function.update fs.names name none }

/-- Let a name lead to the file of another one, and the other one nowhere. -/
def rename (fs : FileStore ν α) (old new : ν) : Option (FileStore ν α) :=
  (fs.names old).map fun i =>
    { fs with names := Function.update (Function.update fs.names old none) new (some i) }

/-- The names lead to different files. -/
structure Sound (fs : FileStore ν α) : Prop where
  inside : ∀ name i, fs.names name = some i → i < fs.files.length
  apart : ∀ name name' i, fs.names name = some i → fs.names name' = some i → name = name'

/-- A name leads to this file, which holds this. -/
structure Holds (fs : FileStore ν α) (name : ν) (i : Nat) (content : List α) : Prop where
  leads : fs.names name = some i
  holds : fs.files[i]? = some content

variable {fs fs' : FileStore ν α} {name other : ν} {i : Nat} {content piece : List α}

/-- Where a name leads after one of the names was changed. -/
lemma update_eq_some {names : ν → Option Nat} {target : Option Nat} :
    Function.update names name target other = some i ↔
      (other = name ∧ target = some i) ∨ (other ≠ name ∧ names other = some i) := by
  rw [Function.update_apply]
  split
  · rename_i same
    simp [same]
  · rename_i differ
    simp [differ]

omit [DecidableEq ν] in
/-- What a name leads to is what is read. -/
lemma Holds.read (h : fs.Holds name i content) : fs.read name = some content := by
  rw [FileStore.read, h.leads]
  exact h.holds

omit [DecidableEq ν] in
/-- The file of a name is changed, and the other names read what they read. -/
lemma Sound.read_of_files (sound : fs.Sound) (leads : fs.names name = some i)
    {files : List (List α)} (same : ∀ j, j ≠ i → files[j]? = fs.files[j]?) (differ : other ≠ name) :
    FileStore.read { fs with files } other = fs.read other := by
  unfold FileStore.read
  cases led : fs.names other with
  | none => rfl
  | some j =>
    refine same j fun clash => differ ?_
    exact sound.apart other name i (clash ▸ led) leads

omit [DecidableEq ν] in
/-- Changing files does not change where the names lead. -/
lemma Sound.of_files (sound : fs.Sound) {files : List (List α)}
    (length : files.length = fs.files.length) : Sound { fs with files } :=
  ⟨fun name i leads => length ▸ sound.inside name i leads, sound.apart⟩

/-- A name that is opened for writing leads to an empty file, and the other names read what they
read. -/
lemma Sound.truncate (sound : fs.Sound) (name : ν) :
    (fs.truncate name).1.Sound ∧ (fs.truncate name).1.Holds name (fs.truncate name).2 [] ∧
      ∀ other, other ≠ name → (fs.truncate name).1.read other = fs.read other := by
  unfold FileStore.truncate
  cases led : fs.names name with
  | some i =>
    have inside := sound.inside name i led
    refine ⟨sound.of_files List.length_set, ⟨led, ?_⟩, fun other differ => ?_⟩
    · exact List.getElem?_set_self inside
    · refine sound.read_of_files led (fun j apart => ?_) differ
      exact List.getElem?_set_ne apart.symm
  | none =>
    refine ⟨⟨fun n i leads => ?_, fun n m i leads leads' => ?_⟩, ⟨?_, ?_⟩, fun other differ => ?_⟩
    · show i < (fs.files ++ [[]]).length
      rw [List.length_append, List.length_singleton]
      obtain ⟨_, new⟩ | ⟨_, leads⟩ := update_eq_some.1 leads
      · exact Nat.lt_succ_of_le (Nat.le_of_eq (Option.some.inj new).symm)
      · exact Nat.lt_succ_of_lt (sound.inside n i leads)
    · obtain ⟨rfl, new⟩ | ⟨_, old⟩ := update_eq_some.1 leads <;>
        obtain ⟨rfl, new'⟩ | ⟨_, old'⟩ := update_eq_some.1 leads'
      · rfl
      · cases new
        exact absurd (sound.inside m _ old') (Nat.lt_irrefl _)
      · cases new'
        exact absurd (sound.inside n _ old) (Nat.lt_irrefl _)
      · exact sound.apart n m i old old'
    · exact Function.update_self ..
    · exact List.getElem?_concat_length
    · show (Function.update fs.names name _ other).bind ((fs.files ++ [[]])[·]?) = fs.read other
      rw [Function.update_of_ne differ, FileStore.read]
      cases leads : fs.names other with
      | none => rfl
      | some i => exact List.getElem?_append_left (sound.inside other i leads)

omit [DecidableEq ν] in
/-- A piece that is written at the end of the file of a name, and what the other names read. -/
lemma Sound.append [Inhabited α] (sound : fs.Sound) (h : fs.Holds name i content)
    (piece : List α) :
    (fs.writeAt i content.length piece).Sound ∧
      (fs.writeAt i content.length piece).Holds name i (content ++ piece) ∧
      ∀ other, other ≠ name → (fs.writeAt i content.length piece).read other = fs.read other := by
  refine ⟨sound.of_files (List.length_modify ..), ⟨h.leads, ?_⟩, fun other differ => ?_⟩
  · show (fs.files.modify i _)[i]? = _
    rw [List.getElem?_modify_eq, h.holds]
    exact congrArg some (overwrite_length content piece)
  · refine sound.read_of_files h.leads (fun j apart => ?_) differ
    exact List.getElem?_modify_ne _ _ apart.symm

/-- A name is removed, and the other names read what they read. -/
lemma Sound.remove (sound : fs.Sound) (name : ν) : (fs.remove name).Sound ∧
    ∀ other, other ≠ name → (fs.remove name).read other = fs.read other := by
  have kept {n : ν} {i : Nat} (leads : (fs.remove name).names n = some i) :
      fs.names n = some i := by
    obtain ⟨_, gone⟩ | ⟨_, leads⟩ := update_eq_some.1 leads
    · cases gone
    · exact leads
  refine ⟨⟨fun n i leads => sound.inside n i (kept leads), fun n m i leads leads' =>
    sound.apart n m i (kept leads) (kept leads')⟩, fun other differ => ?_⟩
  show (Function.update fs.names name none other).bind _ = _
  rw [Function.update_of_ne differ]
  rfl

/-- A name takes the file of another one over. -/
lemma Sound.rename {old new : ν} (sound : fs.Sound) (moved : fs.rename old new = some fs') :
    fs'.Sound ∧ fs'.read new = fs.read old := by
  obtain ⟨i, led, rfl⟩ := Option.map_eq_some_iff.1 moved
  have leads {n : ν} {j : Nat}
      (h : Function.update (Function.update fs.names old none) new (some i) n = some j) :
      (n = new ∧ j = i) ∨ (n ≠ old ∧ fs.names n = some j) := by
    obtain ⟨same, target⟩ | ⟨_, h⟩ := update_eq_some.1 h
    · exact .inl ⟨same, (Option.some.inj target).symm⟩
    · obtain ⟨_, gone⟩ | kept := update_eq_some.1 h
      · cases gone
      · exact .inr kept
  refine ⟨⟨fun n j h => ?_, fun n m j h h' => ?_⟩, ?_⟩
  · obtain ⟨_, rfl⟩ | ⟨_, h⟩ := leads h
    · exact sound.inside old _ led
    · exact sound.inside n j h
  · obtain ⟨rfl, rfl⟩ | ⟨differ, kept⟩ := leads h <;>
      obtain ⟨rfl, same⟩ | ⟨differ', kept'⟩ := leads h'
    · rfl
    · exact absurd (sound.apart m old _ kept' led) differ'
    · exact absurd (sound.apart n old _ kept (same ▸ led)) differ
    · exact sound.apart n m j kept kept'
  · show (Function.update (Function.update fs.names old none) new (some i) new).bind _ = _
    rw [Function.update_self, FileStore.read, led]

end FileStore

end Lib
