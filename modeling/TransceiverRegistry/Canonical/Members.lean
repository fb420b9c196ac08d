import TransceiverRegistry.Canonical.RoundTrip
import TransceiverRegistry.Lib.OrderedMap

/-!
# Objects as maps

An object stands for the map from its keys to its values. `Value::object` keeps the first member
given for each key, `Value::set` and `Value::set_unique` put a member at its place, and
`Value::find` looks a key up, all in the byte order of the keys. An object is determined by its map,
so it does not matter in which order its members were given or set.
-/

namespace TransceiverRegistry

open Lib

variable {ms : List (Bytes × Value)} {key : Bytes} {value : Value}

/-- Two texts are compared at the first bytes that differ (source `compare_bytes`). -/
theorem compareBytes_cons {left right : UInt8} {lhs rhs : Bytes} :
    compareBytes (left :: lhs) (right :: rhs) =
      if left ≠ right then (if left < right then .lt else .gt) else compareBytes lhs rhs := by
  have bytes : compareBytes (left :: lhs) (right :: rhs) =
      (compare left right).then (compareBytes lhs rhs) := by
    simp only [compareBytes, List.compare_eq_compareLex, List.compareLex_cons_cons]
  have order : compare left right = if left < right then .lt else if left = right then .eq else .gt :=
    rfl
  rw [bytes, order]
  by_cases below : left < right
  · rw [if_pos below, if_pos (UInt8.ne_of_lt below), if_pos below]
    rfl
  · rw [if_neg below, if_neg below]
    by_cases same : left = right
    · rw [if_pos same, if_neg (not_not.2 same)]
      rfl
    · rw [if_neg same, if_pos same]
      rfl

namespace Value

/-- The place of a key in an object is found by halving (source `std::lower_bound`). -/
theorem lowerBound_eq_drop (ordered : KeysOrdered ms) : lowerBound ms key =
    ms.drop (partitionPoint (fun m => (compareBytes m.1 key).isLT) ms) := by
  have front : ms.Pairwise fun a b =>
      (compareBytes b.1 key).isLT = true → (compareBytes a.1 key).isLT = true := by
    refine ordered.imp fun {a b} before below => ?_
    rw [keyBefore, Ordering.isLT_iff_eq_lt] at before
    rw [Ordering.isLT_iff_eq_lt] at *
    exact Std.TransCmp.lt_trans before below
  exact (drop_partitionPoint front).symm

/-- A member of an object is found under its key, and nothing else is (source `Value::find`). -/
lemma find_members_eq_lookup (ordered : KeysOrdered ms) :
    (Value.members ms).find key = ms.lookup key := by
  have place : ms.lookup key = _ := Ascending.lookup_eq (show Ascending compareBytes ms from ordered)
  rw [place]
  simp only [find, lowerBound]
  cases ms.dropWhile fun m => (compareBytes m.1 key).isLT with
  | nil => rfl
  | cons m rest => exact ite_not _ _ _

/-- A member is put at the place of its key (source `Value::set`). -/
lemma set_members (named : key ≠ []) :
    (Value.members ms).set key value = (.members (put compareBytes key value ms), true) := by
  have place : (Value.members ms).set key value = _ := if_neg named
  rw [place, put, lowerBound]
  cases ms.dropWhile fun m => (compareBytes m.1 key).isLT with
  | nil => rfl
  | cons m rest =>
    dsimp only
    split
    · rename_i same
      rw [Std.LawfulEqCmp.eq_of_compare same]
    · rfl

/-- Without a name nothing is set (source `Value::set`). -/
lemma set_nil {v : Value} : v.set [] value = (v, false) := by
  cases v <;> rfl

/-- A member is put at the place of its key unless the key has one (source `Value::set_unique`). -/
lemma setUnique_members (ordered : KeysOrdered ms) (named : key ≠ []) :
    (Value.members ms).setUnique key value =
      if (ms.lookup key).isSome then
        .error (makeError .malformed "duplicate object key in canonical document")
      else .ok (.members (put compareBytes key value ms)) := by
  have place : ms.lookup key = _ := Ascending.lookup_eq (show Ascending compareBytes ms from ordered)
  have step : (Value.members ms).setUnique key value = _ := if_neg named
  rw [step, place, put, lowerBound]
  cases ms.dropWhile fun m => (compareBytes m.1 key).isLT with
  | nil => rfl
  | cons m rest =>
    dsimp only
    split
    · rfl
    · rfl

/-- The members of an object (source `Value::as_object`). -/
def asObject : Value → List (Bytes × Value)
  | .members ms => ms
  | _ => []

/-- An object with its keys in strict order (source `Value::object`). -/
def Ordered (v : Value) : Prop := ∃ ms, v = .members ms ∧ KeysOrdered ms

/-- The first member given for each key is kept, in key order (source `Value::object`). -/
lemma object_members (ms : List (Bytes × Value)) : ∃ kept, object ms = .members kept ∧
    KeysOrdered kept ∧ ∀ key, kept.lookup key = ms.lookup key := by
  refine ⟨_, rfl, ?_, fun key => ?_⟩
  · exact ascending_destutter_stableSort
  · rw [lookup_destutter]
    exact lookup_stableSort

/-- Adding a member keeps the keys in order (source `Value::set_unique`). -/
lemma Ordered.setUnique {v after : Value} (ordered : v.Ordered)
    (added : v.setUnique key value = .ok after) : after.Ordered := by
  obtain ⟨ms, rfl, ordered⟩ := ordered
  by_cases named : key = []
  · rw [named] at added
    cases added
  · rw [setUnique_members ordered named] at added
    split at added
    · cases added
    · cases added
      exact ⟨_, rfl, Ascending.put ordered⟩

/-- An object is determined by its map (source `Value::find`). -/
lemma Ordered.ext {v w : Value} (ordered : v.Ordered) (ordered' : w.Ordered)
    (same : v.find = w.find) : v = w := by
  obtain ⟨ms, rfl, ordered⟩ := ordered
  obtain ⟨ms', rfl, ordered'⟩ := ordered'
  congr 1
  refine Ascending.ext ordered ordered' fun key => ?_
  rw [← find_members_eq_lookup ordered, ← find_members_eq_lookup ordered', same]

mutual

/-- Documents are equal when everything in them is (source `operator==`). -/
lemma equal_iff (lhs rhs : Value) : equal lhs rhs = true ↔ lhs = rhs := by
  cases lhs with
  | real lhs =>
    cases rhs with
    | real rhs =>
      obtain ⟨bits⟩ := lhs
      obtain ⟨bits'⟩ := rhs
      simp [equal]
    | _ => simp [equal]
  | array es => cases rhs <;> simp [equal, elementsEqual_iff]
  | members ms => cases rhs <;> simp [equal, membersEqual_iff]
  | _ => cases rhs <;> simp [equal]

/-- Arrays are equal when their elements are (source `operator==`). -/
lemma elementsEqual_iff (lhs rhs : List Value) : elementsEqual lhs rhs = true ↔ lhs = rhs := by
  cases lhs <;> cases rhs <;> simp [elementsEqual, equal_iff, elementsEqual_iff]

/-- Objects are equal when their members are (source `operator==`). -/
lemma membersEqual_iff (lhs rhs : List (Bytes × Value)) :
    membersEqual lhs rhs = true ↔ lhs = rhs := by
  cases lhs <;> cases rhs <;> simp [membersEqual, equal_iff, membersEqual_iff, Prod.ext_iff]

end

/-- A sequence of members is set (source `Value::set`). -/
def setAll (v : Value) (calls : List (Bytes × Value)) : Value :=
  calls.foldl (fun v call => (v.set call.1 call.2).1) v

end Value

/-- The map that is left of a map when each of the members replaces the one of its key, if it has a
name. -/
def mapAfter (calls : List (Bytes × Value)) (map : Bytes → Option Value) : Bytes → Option Value :=
  calls.foldl
    (fun map call => if call.1 = [] then map else Function.update map call.1 (some call.2)) map

namespace Value

/-- A member that is set replaces the one of its key in the map (source `Value::set`). -/
lemma Ordered.set {v : Value} (ordered : v.Ordered) : (v.set key value).1.Ordered ∧
    (v.set key value).1.find = mapAfter [(key, value)] v.find := by
  obtain ⟨ms, rfl, ordered⟩ := ordered
  by_cases named : key = []
  · rw [named, set_nil]
    exact ⟨⟨ms, rfl, ordered⟩, rfl⟩
  · have kept : KeysOrdered (put compareBytes key value ms) := Ascending.put ordered
    have before : (Value.members ms).find = fun key' => ms.lookup key' :=
      funext fun _ => find_members_eq_lookup ordered
    have after : (Value.members (put compareBytes key value ms)).find =
        fun key' => (put compareBytes key value ms).lookup key' :=
      funext fun _ => find_members_eq_lookup kept
    rw [set_members named]
    refine ⟨⟨_, rfl, kept⟩, ?_⟩
    calc (Value.members (put compareBytes key value ms)).find
        = Function.update (fun key' => ms.lookup key') key (some value) := after.trans lookup_put
      _ = Function.update (Value.members ms).find key (some value) := by rw [before]
      _ = mapAfter [(key, value)] (Value.members ms).find := (if_neg named).symm

/-- Whatever is set, the keys stay in order and the map is the one that the calls leave (source
`Value::set`). -/
lemma Ordered.setAll {v : Value} (ordered : v.Ordered) (calls : List (Bytes × Value)) :
    (v.setAll calls).Ordered ∧ (v.setAll calls).find = mapAfter calls v.find := by
  induction calls generalizing v with
  | nil => exact ⟨ordered, rfl⟩
  | cons call calls ih =>
    obtain ⟨next, step⟩ := @Ordered.set call.1 call.2 v ordered
    obtain ⟨last, rest⟩ := ih next
    refine ⟨last, rest.trans ?_⟩
    rw [step]
    rfl

end Value

/-- An object is a map: the first member given for a key is kept, in strict key order; setting a
member keeps the order; what is found under a key is its member; and objects that are left with the
same map by any calls are equal and written the same (source `Value::object`, `Value::find`,
`Value::set`, `Value::set_unique`). -/
theorem object_is_map (given : List (Bytes × Value)) (v w : Value) (ordered : v.Ordered)
    (ordered' : w.Ordered) (calls calls' : List (Bytes × Value)) :
    ((Value.object given).Ordered ∧ ∀ key value,
      (key, value) ∈ (Value.object given).asObject ↔ given.lookup key = some value) ∧
    (∀ key value, (v.set key value).1.Ordered) ∧
    (∀ key value after, v.setUnique key value = .ok after → after.Ordered) ∧
    (∀ key value, v.find key = some value ↔ (key, value) ∈ v.asObject) ∧
    (v.setAll calls).find = mapAfter calls v.find ∧
    (mapAfter calls v.find = mapAfter calls' w.find →
      Value.equal (v.setAll calls) (w.setAll calls') = true ∧
      CanonicalWriter.new.writeValue (v.setAll calls) =
        CanonicalWriter.new.writeValue (w.setAll calls')) := by
  obtain ⟨kept, members, keptOrdered, first⟩ := Value.object_members given
  obtain ⟨last, map⟩ := ordered.setAll calls
  obtain ⟨last', map'⟩ := ordered'.setAll calls'
  refine ⟨⟨⟨kept, members, keptOrdered⟩, fun key value => ?_⟩, fun key value => ordered.set.1,
    fun key value after => ordered.setUnique, fun key value => ?_, map, fun same => ?_⟩
  · rw [members, ← first]
    exact Ascending.mem_iff keptOrdered
  · obtain ⟨ms, rfl, ordered⟩ := ordered
    rw [Value.find_members_eq_lookup ordered]
    exact (Ascending.mem_iff ordered).symm
  · have left : v.setAll calls = w.setAll calls' :=
      last.ext last' ((map.trans same).trans map'.symm)
    rw [left]
    exact ⟨(Value.equal_iff _ _).2 rfl, rfl⟩

/-- The same members that are set in another order, one of them twice, are the same bytes. -/
theorem object_is_map_orders :
    CanonicalWriter.new.writeValue ((Value.object []).setAll
        [(text "b", .integer (-17)), (text "a", .null), (text "Z", .boolean true)]) =
      CanonicalWriter.new.writeValue ((Value.object []).setAll
        [(text "Z", .null), (text "a", .null), (text "b", .integer (-17)),
          (text "Z", .boolean true)]) := by
  have empty : (Value.object []).Ordered := ⟨[], rfl, List.Pairwise.nil⟩
  refine ((object_is_map [] _ _ empty empty _ _).2.2.2.2.2 ?_).2
  have b : text "b" ≠ [] := by decide
  have a : text "a" ≠ [] := by decide
  have z : text "Z" ≠ [] := by decide
  have apart : text "b" ≠ text "a" ∧ text "b" ≠ text "Z" ∧ text "a" ≠ text "Z" := by decide
  simp only [mapAfter, List.foldl, if_neg b, if_neg a, if_neg z]
  funext key
  simp only [Function.update_apply]
  grind

end TransceiverRegistry
