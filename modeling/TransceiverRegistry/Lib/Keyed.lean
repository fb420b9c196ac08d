import Mathlib.Logic.Function.Basic
import Mathlib.Tactic.Common
import Std.Data.ExtTreeMap

/-!
# Tables of records

A table maps an id to a record that carries the id. Its id is one that a counter issued, and a
second table finds the id of a record by its name. Each of the three facts is kept when a record is
replaced by one that agrees on the id and the name, and when a record is added under the next id. The
number of records with a property follows every write.
-/

namespace Lib

variable {ι κ β : Type*} {cmp : ι → ι → Ordering} {cmpKey : κ → κ → Ordering}
  [Std.TransCmp cmp] [Std.LawfulEqCmp cmp] [Std.TransCmp cmpKey] [Std.LawfulEqCmp cmpKey]

/-- The record at an id after an insertion. -/
lemma getElem?_insert_iff {table : Std.ExtTreeMap ι β cmp} {i j : ι} {r r' : β} :
    (table.insert i r)[j]? = some r' ↔ (i = j ∧ r = r') ∨ (i ≠ j ∧ table[j]? = some r') := by
  rw [Std.ExtTreeMap.getElem?_insert]
  by_cases same : i = j
  · simp [same]
  · simp [same]

/-- The last one of two insertions at an id counts. -/
lemma insert_insert {table : Std.ExtTreeMap ι β cmp} {i : ι} {r r' : β} :
    (table.insert i r).insert i r' = table.insert i r' := by
  ext1 j
  simp only [Std.ExtTreeMap.getElem?_insert]
  split <;> rfl

/-- The records after an insertion, as a function of the ids. -/
lemma getElem?_insert_eq_update [DecidableEq ι] {table : Std.ExtTreeMap ι β cmp} {i : ι} {r : β} :
    (fun j => (table.insert i r)[j]?) = Function.update (fun j => table[j]?) i (some r) := by
  funext j
  rw [Std.ExtTreeMap.getElem?_insert, Function.update_apply]
  by_cases same : i = j
  · simp [same]
  · simp [same, Ne.symm same]

/-- What is read of the records after an insertion, as a function of the ids. -/
lemma map_getElem?_insert {γ : Type*} [DecidableEq ι] {table : Std.ExtTreeMap ι β cmp} {i : ι}
    {r : β} {f : β → γ} : (fun j => (table.insert i r)[j]?.map f) =
      Function.update (fun j => table[j]?.map f) i (some (f r)) := by
  funext j
  have read : (table.insert i r)[j]? = Function.update (fun j => table[j]?) i (some r) j :=
    congrFun getElem?_insert_eq_update j
  rw [read, Function.update_apply, Function.update_apply]
  split <;> rfl

omit [Std.LawfulEqCmp cmp] in
/-- An id with a record is in the table. -/
lemma mem_of_getElem? {table : Std.ExtTreeMap ι β cmp} {i : ι} {r : β}
    (found : table[i]? = some r) : i ∈ table :=
  Std.ExtTreeMap.mem_iff_isSome_getElem?.2 (by simp [found])

omit [Std.LawfulEqCmp cmp] in
/-- Replacing a record keeps the number of records. -/
lemma size_insert_of_mem {table : Std.ExtTreeMap ι β cmp} {i : ι} {r : β} (known : i ∈ table) :
    (table.insert i r).size = table.size := by
  rw [Std.ExtTreeMap.size_insert, if_pos (Std.ExtTreeMap.mem_iff_contains.1 known)]

omit [Std.LawfulEqCmp cmp] in
/-- Adding a record adds one to the number of records. -/
lemma size_insert_of_not_mem {table : Std.ExtTreeMap ι β cmp} {i : ι} {r : β} (new : i ∉ table) :
    (table.insert i r).size = table.size + 1 := by
  rw [Std.ExtTreeMap.mem_iff_contains] at new
  rw [Std.ExtTreeMap.size_insert, if_neg new]

omit [Std.LawfulEqCmp cmp] in
/-- Deleting a record takes one from the number of records. -/
lemma size_erase_of_mem {table : Std.ExtTreeMap ι β cmp} {i : ι} (known : i ∈ table) :
    (table.erase i).size + 1 = table.size := by
  have positive : table.size ≠ 0 := fun none =>
    Std.ExtTreeMap.ne_empty_of_mem known (Std.ExtTreeMap.eq_empty_iff_size_eq_zero.2 none)
  rw [Std.ExtTreeMap.size_erase, if_pos (Std.ExtTreeMap.mem_iff_contains.1 known)]
  omega

omit [Std.LawfulEqCmp cmp] in
/-- Deleting nothing keeps the number of records. -/
lemma size_erase_of_not_mem {table : Std.ExtTreeMap ι β cmp} {i : ι} (new : i ∉ table) :
    (table.erase i).size = table.size := by
  rw [Std.ExtTreeMap.mem_iff_contains] at new
  rw [Std.ExtTreeMap.size_erase, if_neg new]

omit [Std.LawfulEqCmp cmp] in
/-- The number of records with a property is the size of the table of these records. -/
lemma countP_toList (table : Std.ExtTreeMap ι β cmp) (p : β → Bool) :
    table.toList.countP (fun entry => p entry.2) = (table.filter fun _ r => p r).size := by
  rw [← Std.ExtTreeMap.length_toList, Std.ExtTreeMap.toList_filter, List.countP_eq_length_filter]

/-- Writing a record changes the number of records with a property by what is written and by what
was there. -/
lemma countP_insert (table : Std.ExtTreeMap ι β cmp) (i : ι) (r : β) (p : β → Bool) :
    (table.insert i r).toList.countP (fun entry => p entry.2) + (table[i]?.any p).toNat =
      table.toList.countP (fun entry => p entry.2) + (p r).toNat := by
  have known : i ∈ (table.filter fun _ r => p r) ↔ table[i]?.any p = true := by
    rw [Std.ExtTreeMap.mem_iff_isSome_getElem?, Std.ExtTreeMap.getElem?_filter',
      Option.isSome_filter]
  rw [countP_toList, countP_toList]
  cases holds : p r with
  | true =>
    have same : (table.insert i r).filter (fun _ r => p r) =
        (table.filter fun _ r => p r).insert i r := by
      ext1 j
      rw [Std.ExtTreeMap.getElem?_filter', Std.ExtTreeMap.getElem?_insert,
        Std.ExtTreeMap.getElem?_insert, Std.ExtTreeMap.getElem?_filter']
      split
      · simp [holds]
      · rfl
    rw [same]
    cases there : table[i]?.any p with
    | true => rw [size_insert_of_mem (known.2 there)]
    | false => rw [size_insert_of_not_mem (by simp [known, there])]; rfl
  | false =>
    have same : (table.insert i r).filter (fun _ r => p r) =
        (table.filter fun _ r => p r).erase i := by
      ext1 j
      rw [Std.ExtTreeMap.getElem?_filter', Std.ExtTreeMap.getElem?_insert,
        Std.ExtTreeMap.getElem?_erase, Std.ExtTreeMap.getElem?_filter']
      split
      · simp [holds]
      · rfl
    rw [same]
    cases there : table[i]?.any p with
    | true => exact size_erase_of_mem (known.2 there)
    | false => rw [size_erase_of_not_mem (by simp [known, there])]

omit [Std.LawfulEqCmp cmp] in
/-- Rewriting every record, where none gets the property that did not have it. -/
lemma countP_map_le (table : Std.ExtTreeMap ι β cmp) (f : ι → β → β) (p : β → Bool)
    (keeps : ∀ i r, p (f i r) = true → p r = true) :
    (table.map f).toList.countP (fun entry => p entry.2) ≤
      table.toList.countP (fun entry => p entry.2) := by
  rw [Std.ExtTreeMap.toList_map, List.countP_map]
  exact List.countP_mono_left fun entry _ => keeps entry.1 entry.2

/-- Every record carries the id it is stored under. -/
def Keyed (id : β → ι) (table : Std.ExtTreeMap ι β cmp) : Prop :=
  ∀ i r, table[i]? = some r → id r = i

omit [Std.LawfulEqCmp cmp] in
/-- The empty table is keyed. -/
lemma Keyed.empty {id : β → ι} : Keyed id (∅ : Std.ExtTreeMap ι β cmp) := by
  intro i r found
  simp at found

/-- A record stored under its own id keeps a table keyed. -/
lemma Keyed.insert {id : β → ι} {table : Std.ExtTreeMap ι β cmp} (keyed : Keyed id table) {i : ι}
    {r : β} (own : id r = i) : Keyed id (table.insert i r) := by
  intro j r' found
  obtain ⟨rfl, rfl⟩ | ⟨_, found⟩ := getElem?_insert_iff.1 found
  · exact own
  · exact keyed j r' found

/-- Rewriting the records without their ids keeps a table keyed. -/
lemma Keyed.map {id : β → ι} {table : Std.ExtTreeMap ι β cmp} (keyed : Keyed id table)
    {f : ι → β → β} (same : ∀ i r, id (f i r) = id r) : Keyed id (table.map f) := by
  intro i r found
  rw [Std.ExtTreeMap.getElem?_map] at found
  obtain ⟨old, held, rfl⟩ := Option.map_eq_some_iff.1 found
  exact (same i old).trans (keyed i old held)

/-- The ids of a table are the numbers `1, …, next - 1` that a counter issued, in the reading `num`
of an id as a number. -/
structure Numbered (num : ι → Nat) (next : Nat) (table : Std.ExtTreeMap ι β cmp) : Prop where
  next_eq : next = table.size + 1
  range : ∀ i ∈ table, 0 < num i ∧ num i < next

omit [Std.LawfulEqCmp cmp] in
/-- The empty table is numbered from one. -/
lemma Numbered.empty {num : ι → Nat} : Numbered num 1 (∅ : Std.ExtTreeMap ι β cmp) :=
  ⟨by simp, fun i found => by simp at found⟩

omit [Std.LawfulEqCmp cmp] in
/-- The next id is not in the table. -/
lemma Numbered.fresh {num : ι → Nat} {next : Nat} {table : Std.ExtTreeMap ι β cmp}
    (numbered : Numbered num next table) {i : ι} (new : num i = next) : i ∉ table := by
  intro found
  have := (numbered.range i found).2
  omega

/-- Replacing a record keeps the numbering. -/
lemma Numbered.replace {num : ι → Nat} {next : Nat} {table : Std.ExtTreeMap ι β cmp}
    (numbered : Numbered num next table) {i : ι} (old : i ∈ table) (r : β) :
    Numbered num next (table.insert i r) where
  next_eq := by rw [size_insert_of_mem old, numbered.next_eq]
  range j found := by
    rw [Std.ExtTreeMap.mem_insert, Std.LawfulEqCmp.compare_eq_iff_eq] at found
    obtain rfl | found := found
    · exact numbered.range _ old
    · exact numbered.range j found

/-- Adding a record under the next id advances the numbering. -/
lemma Numbered.add {num : ι → Nat} {next : Nat} {table : Std.ExtTreeMap ι β cmp}
    (numbered : Numbered num next table) {i : ι} (new : num i = next) (r : β) :
    Numbered num (next + 1) (table.insert i r) where
  next_eq := by rw [size_insert_of_not_mem (numbered.fresh new), numbered.next_eq]
  range j found := by
    have positive := numbered.next_eq
    rw [Std.ExtTreeMap.mem_insert, Std.LawfulEqCmp.compare_eq_iff_eq] at found
    obtain rfl | found := found
    · omega
    · have := numbered.range j found
      omega

/-- Every record carries the id it is stored under, and the ids are below a counter, in the reading
`num` of an id as a number. -/
structure Issued (id : β → ι) (num : ι → Nat) (next : Nat) (table : Std.ExtTreeMap ι β cmp) :
    Prop where
  keyed : Keyed id table
  below : ∀ i ∈ table, num i < next

omit [Std.LawfulEqCmp cmp] in
/-- The empty table has issued no id. -/
lemma Issued.empty {id : β → ι} {num : ι → Nat} {next : Nat} :
    Issued id num next (∅ : Std.ExtTreeMap ι β cmp) :=
  ⟨Keyed.empty, fun i found => by simp at found⟩

omit [Std.LawfulEqCmp cmp] in
/-- The next id is not in the table. -/
lemma Issued.fresh {id : β → ι} {num : ι → Nat} {next : Nat} {table : Std.ExtTreeMap ι β cmp}
    (issued : Issued id num next table) {i : ι} (new : num i = next) : i ∉ table :=
  fun found => Nat.ne_of_lt (issued.below i found) new

/-- A record is stored under an id that a counter has passed. -/
lemma Issued.insert {id : β → ι} {num : ι → Nat} {next next' : Nat}
    {table : Std.ExtTreeMap ι β cmp} (issued : Issued id num next table) (later : next ≤ next')
    {i : ι} {r : β} (own : id r = i) (below : num i < next') :
    Issued id num next' (table.insert i r) where
  keyed := issued.keyed.insert own
  below j found := by
    rw [Std.ExtTreeMap.mem_insert, Std.LawfulEqCmp.compare_eq_iff_eq] at found
    obtain rfl | found := found
    · exact below
    · exact Nat.lt_of_lt_of_le (issued.below j found) later

/-- Rewriting the records without their ids keeps the ids below the counter. -/
lemma Issued.map {id : β → ι} {num : ι → Nat} {next : Nat} {table : Std.ExtTreeMap ι β cmp}
    (issued : Issued id num next table) {f : ι → β → β} (same : ∀ i r, id (f i r) = id r) :
    Issued id num next (table.map f) :=
  ⟨issued.keyed.map same, fun i found => issued.below i (Std.ExtTreeMap.mem_map.1 found)⟩

/-- The second table finds exactly the ids of the records with a name. -/
def Indexed (name : β → κ) (index : Std.ExtTreeMap κ ι cmpKey) (table : Std.ExtTreeMap ι β cmp) :
    Prop :=
  ∀ k i, index[k]? = some i ↔ ∃ r, table[i]? = some r ∧ name r = k

omit [Std.LawfulEqCmp cmp] [Std.LawfulEqCmp cmpKey] in
/-- The empty index fits the empty table. -/
lemma Indexed.empty {name : β → κ} :
    Indexed name (∅ : Std.ExtTreeMap κ ι cmpKey) (∅ : Std.ExtTreeMap ι β cmp) := by
  intro k i
  simp

omit [Std.LawfulEqCmp cmpKey] in
/-- Replacing a record by one of the same name keeps the index. -/
lemma Indexed.replace {name : β → κ} {index : Std.ExtTreeMap κ ι cmpKey}
    {table : Std.ExtTreeMap ι β cmp} (indexed : Indexed name index table) {i : ι} {r r' : β}
    (old : table[i]? = some r) (same : name r' = name r) :
    Indexed name index (table.insert i r') := by
  intro k j
  rw [indexed k j]
  constructor
  · rintro ⟨q, found, rfl⟩
    by_cases here : i = j
    · subst here
      obtain rfl : r = q := by simpa [old] using found
      exact ⟨r', getElem?_insert_iff.2 (.inl ⟨rfl, rfl⟩), same⟩
    · exact ⟨q, getElem?_insert_iff.2 (.inr ⟨here, found⟩), rfl⟩
  · rintro ⟨q, found, rfl⟩
    obtain ⟨rfl, rfl⟩ | ⟨_, found⟩ := getElem?_insert_iff.1 found
    · exact ⟨r, old, same.symm⟩
    · exact ⟨q, found, rfl⟩

omit [Std.LawfulEqCmp cmpKey] in
/-- Rewriting the records without their names keeps the index. -/
lemma Indexed.map {name : β → κ} {index : Std.ExtTreeMap κ ι cmpKey}
    {table : Std.ExtTreeMap ι β cmp} (indexed : Indexed name index table) {f : ι → β → β}
    (same : ∀ i r, name (f i r) = name r) : Indexed name index (table.map f) := by
  intro k i
  rw [indexed k i, Std.ExtTreeMap.getElem?_map]
  constructor
  · rintro ⟨r, found, rfl⟩
    exact ⟨f i r, Option.map_eq_some_iff.2 ⟨r, found, rfl⟩, same i r⟩
  · rintro ⟨_, found, rfl⟩
    obtain ⟨r, held, rfl⟩ := Option.map_eq_some_iff.1 found
    exact ⟨r, held, (same i r).symm⟩

/-- Adding a record under a new id and a new name extends the index. -/
lemma Indexed.add {name : β → κ} {index : Std.ExtTreeMap κ ι cmpKey}
    {table : Std.ExtTreeMap ι β cmp} (indexed : Indexed name index table) {i : ι} {k : κ} {r : β}
    (new : i ∉ table) (own : name r = k) (unnamed : index[k]? = none) :
    Indexed name (index.insert k i) (table.insert i r) := by
  subst own
  intro k j
  constructor
  · intro found
    obtain ⟨rfl, rfl⟩ | ⟨_, found⟩ := getElem?_insert_iff.1 found
    · exact ⟨r, getElem?_insert_iff.2 (.inl ⟨rfl, rfl⟩), rfl⟩
    · obtain ⟨q, stored, rfl⟩ := (indexed k j).1 found
      have other : i ≠ j := by
        rintro rfl
        exact new (mem_of_getElem? stored)
      exact ⟨q, getElem?_insert_iff.2 (.inr ⟨other, stored⟩), rfl⟩
  · rintro ⟨q, found, rfl⟩
    obtain ⟨rfl, rfl⟩ | ⟨_, found⟩ := getElem?_insert_iff.1 found
    · exact getElem?_insert_iff.2 (.inl ⟨rfl, rfl⟩)
    · have known := (indexed (name q) j).2 ⟨q, found, rfl⟩
      refine getElem?_insert_iff.2 (.inr ⟨fun same => ?_, known⟩)
      rw [← same, unnamed] at known
      cases known

omit [Std.LawfulEqCmp cmp] in
/-- Two indexes of one table are the same. -/
lemma Indexed.eq {name : β → κ} {index index' : Std.ExtTreeMap κ ι cmpKey}
    {table : Std.ExtTreeMap ι β cmp} (indexed : Indexed name index table)
    (indexed' : Indexed name index' table) : index = index' := by
  ext1 k
  exact Option.ext fun i => (indexed k i).trans (indexed' k i).symm

end Lib
