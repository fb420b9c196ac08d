import Mathlib.Algebra.Order.BigOperators.Group.List
import Mathlib.Algebra.Order.Ring.Nat
import Mathlib.Data.List.Induction
import Mathlib.Data.List.Nodup
import Std.Data.DTreeMap.Internal.Lemmas
import TransceiverRegistry.Lib.Keyed

/-!
# Tables and lists of records

A table is written to a list of its records and built again by inserting them one after the other.
What is found in the table of a list is in the list, and the table of a list without repeated ids
finds exactly its records; with an index that is built beside it, it stays indexed by name.
-/

namespace Lib

variable {ι κ β γ : Type} {cmp : ι → ι → Ordering} {cmpKey : κ → κ → Ordering}
  [Std.TransCmp cmp] [Std.LawfulEqCmp cmp] [Std.TransCmp cmpKey] [Std.LawfulEqCmp cmpKey]

omit [Std.LawfulEqCmp cmp] in
/-- The values of a table stand in the order of its ids. -/
lemma values_eq_map_toList (table : Std.ExtTreeMap ι β cmp) :
    table.values = table.toList.map Prod.snd := by
  obtain ⟨⟨quotient⟩⟩ := table
  induction quotient using Quotient.ind with
  | _ tree =>
    show tree.inner.values =
      (Std.DTreeMap.Internal.Impl.Const.toList tree.inner).map Prod.snd
    rw [Std.DTreeMap.Internal.Impl.values_eq_map_snd,
      Std.DTreeMap.Internal.Impl.Const.toList_eq_toListModel_map, List.map_map]
    rfl

/-- Tables with the same readings have the same list of readings. -/
lemma map_values_congr {table table' : Std.ExtTreeMap ι β cmp} {f : β → γ}
    (same : ∀ i : ι, table[i]?.map f = table'[i]?.map f) :
    table.values.map f = table'.values.map f := by
  have read (t : Std.ExtTreeMap ι β cmp) :
      t.values.map f = (t.map fun _ r => f r).toList.map Prod.snd := by
    rw [values_eq_map_toList, Std.ExtTreeMap.toList_map, List.map_map, List.map_map]
    rfl
  have tables : (table.map fun _ r => f r) = table'.map fun _ r => f r := by
    ext1 i
    rw [Std.ExtTreeMap.getElem?_map, Std.ExtTreeMap.getElem?_map]
    exact same i
  rw [read, read, tables]

/-- A record of a table is stored under some id. -/
lemma mem_values {table : Std.ExtTreeMap ι β cmp} {r : β} :
    r ∈ table.values ↔ ∃ i : ι, table[i]? = some r := by
  rw [values_eq_map_toList, List.mem_map]
  constructor
  · rintro ⟨⟨i, _⟩, member, rfl⟩
    exact ⟨i, Std.ExtTreeMap.mem_toList_iff_getElem?_eq_some.1 member⟩
  · rintro ⟨i, found⟩
    exact ⟨(i, r), Std.ExtTreeMap.mem_toList_iff_getElem?_eq_some.2 found, rfl⟩

omit [Std.LawfulEqCmp cmp] in
/-- The records of a table are as many as its ids. -/
lemma length_values (table : Std.ExtTreeMap ι β cmp) : table.values.length = table.size := by
  rw [values_eq_map_toList, List.length_map, Std.ExtTreeMap.length_toList]

/-- A record of a keyed table is stored under its own id. -/
lemma Keyed.mem_values {id : β → ι} {table : Std.ExtTreeMap ι β cmp} (keyed : Keyed id table)
    {r : β} : r ∈ table.values ↔ table[id r]? = some r := by
  rw [Lib.mem_values]
  constructor
  · rintro ⟨i, found⟩
    rwa [keyed i r found]
  · exact fun found => ⟨id r, found⟩

/-- The ids of the records of a keyed table are different. -/
lemma Keyed.nodup_values {id : β → ι} {table : Std.ExtTreeMap ι β cmp} (keyed : Keyed id table) :
    (table.values.map id).Nodup := by
  rw [values_eq_map_toList, List.map_map, List.nodup_iff_pairwise_ne, List.pairwise_map]
  refine Std.ExtTreeMap.distinct_keys_toList.imp_of_mem fun {a b} inside inside' differ same => ?_
  have own {entry : ι × β} (member : entry ∈ table.toList) : id entry.2 = entry.1 :=
    keyed entry.1 entry.2 (Std.ExtTreeMap.mem_toList_iff_getElem?_eq_some.1 member)
  refine differ (Std.LawfulEqCmp.compare_eq_iff_eq.2 ?_)
  rw [← own inside, ← own inside']
  exact same

omit [Std.LawfulEqCmp cmpKey] in
/-- The names of the records of an indexed table are different. -/
lemma Indexed.nodup_values {id : β → ι} {name : β → κ} {index : Std.ExtTreeMap κ ι cmpKey}
    {table : Std.ExtTreeMap ι β cmp} (indexed : Indexed name index table) (keyed : Keyed id table) :
    (table.values.map name).Nodup := by
  refine (List.nodup_map_iff_inj_on keyed.nodup_values.of_map).2 ?_
  intro a memA b memB same
  rw [keyed.mem_values] at memA memB
  have known := (indexed (name b) (id a)).2 ⟨a, memA, same⟩
  rw [(indexed (name b) (id b)).2 ⟨b, memB, rfl⟩] at known
  rw [Option.some.inj known, memA] at memB
  exact Option.some.inj memB

/-- Insert the records of a list under their ids, one after the other. -/
def insertAll (id : β → ι) (l : List β) (table : Std.ExtTreeMap ι β cmp) : Std.ExtTreeMap ι β cmp :=
  l.foldl (fun table r => table.insert (id r) r) table

/-- Insert the ids of the records of a list under their names, one after the other. -/
def nameAll (id : β → ι) (name : β → κ) (l : List β) (index : Std.ExtTreeMap κ ι cmpKey) :
    Std.ExtTreeMap κ ι cmpKey :=
  l.foldl (fun index r => index.insert (name r) (id r)) index

variable {id : β → ι} {name : β → κ} {l : List β} {table : Std.ExtTreeMap ι β cmp}

omit [Std.LawfulEqCmp cmp] in
/-- The last record of a list is inserted last. -/
lemma insertAll_concat {r : β} : insertAll id (l ++ [r]) table =
    (insertAll id l table).insert (id r) r := by
  rw [insertAll, List.foldl_append]
  rfl

omit [Std.LawfulEqCmp cmpKey] in
/-- The last name of a list is inserted last. -/
lemma nameAll_concat {r : β} {index : Std.ExtTreeMap κ ι cmpKey} :
    nameAll id name (l ++ [r]) index = (nameAll id name l index).insert (name r) (id r) := by
  rw [nameAll, List.foldl_append]
  rfl

/-- What is found after the insertions was inserted under its own id or was there before. -/
lemma getElem?_insertAll {i : ι} {r : β} (found : (insertAll id l table)[i]? = some r) :
    (r ∈ l ∧ id r = i) ∨ table[i]? = some r := by
  induction l using List.reverseRecOn with
  | nil => exact .inr found
  | append_singleton l a ih =>
    rw [insertAll_concat] at found
    obtain ⟨here, rfl⟩ | ⟨_, found⟩ := getElem?_insert_iff.1 found
    · exact .inl ⟨by simp, here⟩
    · obtain ⟨member, own⟩ | before := ih found
      · exact .inl ⟨List.mem_append_left _ member, own⟩
      · exact .inr before

/-- The table of a list holds records of the list. -/
lemma getElem?_insertAll_empty {i : ι} {r : β}
    (found : (insertAll id l (∅ : Std.ExtTreeMap ι β cmp))[i]? = some r) : r ∈ l ∧ id r = i := by
  obtain h | before := getElem?_insertAll found
  · exact h
  · simp at before

/-- The table of a list is keyed. -/
lemma Keyed.insertAll : Keyed id (insertAll id l (∅ : Std.ExtTreeMap ι β cmp)) :=
  fun _ _ found => (getElem?_insertAll_empty found).2

/-- The table of a list of records whose ids are below a counter. -/
lemma Issued.insertAll {num : ι → Nat} {next : Nat} (below : ∀ r ∈ l, num (id r) < next) :
    Issued id num next (Lib.insertAll id l (∅ : Std.ExtTreeMap ι β cmp)) where
  keyed := Keyed.insertAll
  below i found := by
    rw [Std.ExtTreeMap.mem_iff_isSome_getElem?] at found
    obtain ⟨r, found⟩ := Option.isSome_iff_exists.1 found
    obtain ⟨member, rfl⟩ := getElem?_insertAll_empty found
    exact below r member

/-- The table of a list without repeated ids holds all of its records. -/
lemma getElem?_insertAll_iff (ids : (l.map id).Nodup) {i : ι} {r : β} :
    (insertAll id l (∅ : Std.ExtTreeMap ι β cmp))[i]? = some r ↔ r ∈ l ∧ id r = i := by
  refine ⟨getElem?_insertAll_empty, ?_⟩
  induction l using List.reverseRecOn with
  | nil => simp
  | append_singleton l a ih =>
    rw [List.map_append, List.nodup_append] at ids
    obtain ⟨ids, _, apart⟩ := ids
    rintro ⟨member, own⟩
    rw [insertAll_concat]
    refine getElem?_insert_iff.2 ?_
    obtain before | last := List.mem_append.1 member
    · refine .inr ⟨fun here => ?_, ih ids ⟨before, own⟩⟩
      exact apart (id r) (List.mem_map_of_mem before) (id a) (by simp) (own.trans here.symm)
    · obtain rfl := List.mem_singleton.1 last
      exact .inl ⟨own, rfl⟩

/-- A keyed table is the table of its records. -/
lemma Keyed.insertAll_values (keyed : Keyed id table) (perm : l.Perm table.values) :
    Lib.insertAll id l (∅ : Std.ExtTreeMap ι β cmp) = table := by
  have ids : (l.map id).Nodup := (perm.map id).nodup_iff.2 keyed.nodup_values
  ext1 i
  refine Option.ext fun r => ?_
  rw [getElem?_insertAll_iff ids, perm.mem_iff, keyed.mem_values]
  constructor
  · rintro ⟨found, rfl⟩
    exact found
  · exact fun found => ⟨by rwa [keyed i r found], keyed i r found⟩

/-- A keyed table whose records are rewritten as they are is the table of its records. -/
lemma Keyed.insertAll_same (keyed : Keyed id table) (perm : l.Perm table.values) {f : β → β}
    (same : ∀ r ∈ table.values, f r = r) :
    Lib.insertAll id (l.map f) (∅ : Std.ExtTreeMap ι β cmp) = table := by
  rw [List.map_congr_left fun r member => same r (perm.subset member), List.map_id']
  exact keyed.insertAll_values perm

/-- Rewriting the records of a keyed table without their ids is rewriting the list of them. -/
lemma Keyed.insertAll_map (keyed : Keyed id table) (perm : l.Perm table.values) {f : β → β}
    (same : ∀ r, id (f r) = id r) :
    Lib.insertAll id (l.map f) (∅ : Std.ExtTreeMap ι β cmp) = table.map fun _ r => f r := by
  have values : (table.map fun _ r => f r).values = table.values.map f := by
    rw [values_eq_map_toList, values_eq_map_toList, Std.ExtTreeMap.toList_map, List.map_map,
      List.map_map]
    rfl
  refine Keyed.insertAll_values (fun i r found => ?_) (values ▸ perm.map f)
  rw [Std.ExtTreeMap.getElem?_map] at found
  obtain ⟨old, held, rfl⟩ := Option.map_eq_some_iff.1 found
  exact (same old).trans (keyed i old held)

/-- The index of a list without repeated ids and names finds the records of its table. -/
lemma indexed_insertAll (ids : (l.map id).Nodup) (names : (l.map name).Nodup) :
    Indexed name (nameAll id name l (∅ : Std.ExtTreeMap κ ι cmpKey))
      (insertAll id l (∅ : Std.ExtTreeMap ι β cmp)) := by
  induction l using List.reverseRecOn with
  | nil => exact Indexed.empty
  | append_singleton l a ih =>
    rw [List.map_append, List.nodup_append] at ids names
    have indexed := ih ids.1 names.1
    rw [nameAll_concat, insertAll_concat]
    refine indexed.add ?_ rfl ?_
    · intro found
      rw [Std.ExtTreeMap.mem_iff_isSome_getElem?] at found
      obtain ⟨r, found⟩ := Option.isSome_iff_exists.1 found
      obtain ⟨member, own⟩ := getElem?_insertAll_empty found
      exact ids.2.2 _ (List.mem_map_of_mem member) _ (by simp) own
    · refine Option.eq_none_iff_forall_ne_some.2 fun i found => ?_
      obtain ⟨r, found, same⟩ := (indexed (name a) i).1 found
      obtain ⟨member, _⟩ := getElem?_insertAll_empty found
      exact names.2.2 _ (List.mem_map_of_mem member) _ (by simp) same

/-- The index that is built of the rewritten records of an indexed table is its index. -/
lemma Indexed.nameAll_eq {index : Std.ExtTreeMap κ ι cmpKey} (indexed : Indexed name index table)
    (keyed : Keyed id table) (perm : l.Perm table.values) {f : β → β}
    (ids : ∀ r, id (f r) = id r) (names : ∀ r, name (f r) = name r) :
    nameAll id name (l.map f) (∅ : Std.ExtTreeMap κ ι cmpKey) = index := by
  have built : Indexed name (nameAll id name (l.map f) (∅ : Std.ExtTreeMap κ ι cmpKey))
      (table.map fun _ r => f r) := by
    rw [← keyed.insertAll_map perm ids]
    refine indexed_insertAll ?_ ?_
    · rw [List.map_map, show id ∘ f = id from funext ids]
      exact (perm.map id).nodup_iff.2 keyed.nodup_values
    · rw [List.map_map, show name ∘ f = name from funext names]
      exact (perm.map name).nodup_iff.2 (indexed.nodup_values keyed)
  exact built.eq (indexed.map fun _ => names)

omit [Std.LawfulEqCmp cmp] in
/-- A table of a list is not larger than the list. -/
lemma size_insertAll_le : (insertAll id l (∅ : Std.ExtTreeMap ι β cmp)).size ≤ l.length := by
  induction l using List.reverseRecOn with
  | nil => simp [insertAll]
  | append_singleton l a ih =>
    rw [insertAll_concat, List.length_append]
    exact Nat.le_trans Std.ExtTreeMap.size_insert_le (Nat.add_le_add_right ih 1)

section Totals

/-- The sum of a number over the records of a table. -/
def totalOf (f : β → Nat) (table : Std.ExtTreeMap ι β cmp) : Nat := (table.values.map f).sum

variable {f : β → Nat} {i : ι} {r old : β}

/-- The entries of a table do not repeat. -/
lemma nodup_toList (table : Std.ExtTreeMap ι β cmp) : table.toList.Nodup := by
  refine Std.ExtTreeMap.distinct_keys_toList.imp fun differ same => differ ?_
  rw [same]
  exact Std.ReflCmp.compare_self

/-- A record that is added stands once among the entries. -/
lemma toList_insert_perm (absent : table[i]? = none) :
    (table.insert i r).toList.Perm ((i, r) :: table.toList) := by
  have new : (i, r) ∉ table.toList := by
    rw [Std.ExtTreeMap.mem_toList_iff_getElem?_eq_some, absent]
    rintro ⟨⟩
  refine (List.perm_ext_iff_of_nodup (nodup_toList _)
    (List.nodup_cons.2 ⟨new, nodup_toList _⟩)).2 ?_
  rintro ⟨j, r'⟩
  rw [List.mem_cons, Std.ExtTreeMap.mem_toList_iff_getElem?_eq_some,
    Std.ExtTreeMap.mem_toList_iff_getElem?_eq_some, getElem?_insert_iff, Prod.mk.injEq]
  constructor
  · rintro (⟨rfl, rfl⟩ | ⟨_, found⟩)
    · exact .inl ⟨rfl, rfl⟩
    · exact .inr found
  · rintro (⟨rfl, rfl⟩ | found)
    · exact .inl ⟨rfl, rfl⟩
    · refine .inr ⟨fun here => ?_, found⟩
      rw [← here, absent] at found
      cases found

/-- Adding a record adds its number. -/
lemma totalOf_insert_new (absent : table[i]? = none) :
    totalOf f (table.insert i r) = f r + totalOf f table := by
  simp only [totalOf, values_eq_map_toList, List.map_map]
  rw [((toList_insert_perm absent).map _).sum_nat, List.map_cons, List.sum_cons]
  rfl

/-- Replacing a record replaces its number. -/
lemma totalOf_insert (found : table[i]? = some old) :
    totalOf f (table.insert i r) + f old = totalOf f table + f r := by
  have absent : (table.erase i)[i]? = none := Std.ExtTreeMap.getElem?_erase_self
  have split (r' : β) : table.insert i r' = (table.erase i).insert i r' := by
    ext1 j
    rw [Std.ExtTreeMap.getElem?_insert, Std.ExtTreeMap.getElem?_insert,
      Std.ExtTreeMap.getElem?_erase]
    split <;> rfl
  have whole : table = table.insert i old := by
    ext1 j
    rw [Std.ExtTreeMap.getElem?_insert]
    split
    · rename_i here
      rw [← Std.LawfulEqCmp.compare_eq_iff_eq.1 here, found]
    · rfl
  have before : totalOf f table = f old + totalOf f (table.erase i) := by
    rw [whole, split old, totalOf_insert_new absent, ← split old, ← whole]
  rw [split r, totalOf_insert_new absent, before]
  omega

omit [Std.LawfulEqCmp cmp] in
/-- The sum over a table whose records are rewritten. -/
lemma totalOf_map {g : ι → β → β} (same : ∀ i r, f (g i r) = f r) :
    totalOf f (table.map g) = totalOf f table := by
  simp only [totalOf, values_eq_map_toList, Std.ExtTreeMap.toList_map, List.map_map]
  exact congrArg List.sum (List.map_congr_left fun entry _ => same entry.1 entry.2)

/-- The sum over a table of small numbers is small. -/
lemma totalOf_le {bound : Nat} (small : ∀ (j : ι) (r' : β), table[j]? = some r' → f r' ≤ bound) :
    totalOf f table ≤ table.size * bound := by
  have each : ∀ n ∈ table.values.map f, n ≤ bound := by
    intro n member
    obtain ⟨r', known, rfl⟩ := List.mem_map.1 member
    obtain ⟨j, found⟩ := mem_values.1 known
    exact small j r' found
  have sum := List.sum_le_card_nsmul _ _ each
  rw [List.length_map, length_values] at sum
  exact sum

end Totals

end Lib
