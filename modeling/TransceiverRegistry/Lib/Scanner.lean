import Mathlib.Data.List.Infix
import Mathlib.Tactic.Common

/-!
# Streams that are cut into items

A scanner cuts the next item off the front of a stream, or waits for more of it. An item is complete:
what follows it changes neither the item nor where it ends. So the reader of a stream that grows takes
a front part of its items, wherever the reader stands when the stream grows, and what a writer appends
item by item is taken item by item.
-/

namespace Lib

/-- A way to cut the next item off a stream. -/
structure Scanner (β ι : Type*) where
  next : List β → Option (ι × List β)
  /-- An item has at least one symbol. -/
  shrinks : ∀ {l item rest}, next l = some (item, rest) → rest.length < l.length
  /-- What follows an item does not change it. -/
  stable : ∀ {l item rest} (more : List β), next l = some (item, rest) →
    next (l ++ more) = some (item, rest ++ more)

namespace Scanner

variable {α β ι : Type*} (F : Scanner β ι)

/-- The items of a stream, up to the point where it waits for more. -/
def items (l : List β) : List ι :=
  match cut : F.next l with
  | none => []
  | some (item, rest) =>
    have : rest.length < l.length := F.shrinks cut
    item :: items rest
termination_by l.length

/-- A stream, some items that were taken off its front, and what is left of it. -/
inductive Takes : List β → List ι → List β → Prop where
  | nothing (l : List β) : Takes l [] l
  | item {l rest left : List β} {item : ι} {later : List ι} :
      F.next l = some (item, rest) → Takes rest later left → Takes l (item :: later) left

/-- Some symbols are one item, whatever follows them. -/
def Whole (l : List β) (item : ι) : Prop := ∀ more, F.next (l ++ more) = some (item, more)

variable {F} {l l' left left' rest : List β} {taken taken' : List ι} {item : ι}

/-- A stream that waits has no items. -/
lemma items_of_waiting (waits : F.next l = none) : F.items l = [] := by
  unfold items
  split
  · rfl
  · rename_i item rest cut
    rw [waits] at cut
    cases cut

/-- The first item of a stream and the others. -/
lemma items_of_next (cut : F.next l = some (item, rest)) : F.items l = item :: F.items rest := by
  rw [items]
  split
  · rename_i waits
    rw [cut] at waits
    cases waits
  · rename_i item' rest' cut'
    rw [cut] at cut'
    cases cut'
    rfl

/-- What was taken and the items of what is left are the items of the stream. -/
lemma Takes.items_eq (takes : F.Takes l taken left) : F.items l = taken ++ F.items left := by
  induction takes with
  | nothing l => rfl
  | item cut _ ih => rw [items_of_next cut, ih, List.cons_append]

/-- What was taken is a front part of the items of the stream. -/
lemma Takes.prefix_items (takes : F.Takes l taken left) : taken <+: F.items l := by
  rw [takes.items_eq]
  exact List.prefix_append _ _

/-- All items were taken when what is left waits for more. -/
lemma Takes.all (takes : F.Takes l taken left) (waits : F.next left = none) :
    taken = F.items l := by
  rw [takes.items_eq, items_of_waiting waits, List.append_nil]

/-- A stream that grows has the same items taken off it. -/
lemma Takes.grow (takes : F.Takes l taken left) (more : List β) :
    F.Takes (l ++ more) taken (left ++ more) := by
  induction takes with
  | nothing l => exact .nothing _
  | item cut _ ih => exact .item (F.stable more cut) ih

/-- One more item is taken. -/
lemma Takes.next (takes : F.Takes l taken left) (cut : F.next left = some (item, rest)) :
    F.Takes l (taken ++ [item]) rest := by
  induction takes with
  | nothing l => exact .item cut (.nothing rest)
  | item first _ ih => exact .item first (ih cut)

/-- The items of a stream are a front part of those of a longer one. -/
lemma items_mono (longer : l <+: l') : F.items l <+: F.items l' := by
  obtain ⟨more, rfl⟩ := longer
  induction size : l.length using Nat.strong_induction_on generalizing l with
  | _ n ih =>
    cases cut : F.next l with
    | none =>
      rw [items_of_waiting cut]
      exact List.nil_prefix
    | some first =>
      obtain ⟨item, rest⟩ := first
      rw [items_of_next cut, items_of_next (F.stable more cut), List.cons_prefix_cons]
      exact ⟨rfl, ih rest.length (size ▸ F.shrinks cut) rfl⟩

/-- Whole items that were written one after the other are the items of the stream. -/
lemma items_flatMap {write : α → List β} {read : α → ι} {written : List α}
    (whole : ∀ a ∈ written, F.Whole (write a) (read a)) (tail : List β) :
    F.items (written.flatMap write ++ tail) = written.map read ++ F.items tail := by
  induction written with
  | nil => rfl
  | cons a written ih =>
    have first := whole a List.mem_cons_self
    rw [List.flatMap_cons, List.append_assoc, items_of_next (first _),
      ih fun b member => whole b (List.mem_cons_of_mem a member)]
    rfl

/-- What is taken off a front part of a stream of whole items is a front part of these items. -/
lemma Takes.prefix_written {written : List α} (takes : F.Takes l taken left)
    (write : α → List β) (read : α → ι) (whole : ∀ a ∈ written, F.Whole (write a) (read a))
    (front : l <+: written.flatMap write) (closed : F.next [] = none) :
    taken <+: written.map read := by
  have all := items_flatMap whole []
  rw [List.append_nil, items_of_waiting closed, List.append_nil] at all
  exact all ▸ takes.prefix_items.trans (items_mono front)

/-- What is taken off a front part of a stream of whole items, some of which may be missing, are some
of these items. -/
lemma Takes.mem_written [DecidableEq β] {written : List α} (takes : F.Takes l taken left)
    (write : α → List β) (read : α → ι)
    (whole : ∀ a ∈ written, write a = [] ∨ F.Whole (write a) (read a))
    (front : l <+: written.flatMap write) (closed : F.next [] = none) (member : item ∈ taken) :
    ∃ a ∈ written, F.Whole (write a) (read a) ∧ item = read a := by
  have present : written.flatMap write =
      (written.filter fun a => write a ≠ []).flatMap write := by
    clear whole front
    induction written with
    | nil => rfl
    | cons a written ih =>
      rw [List.flatMap_cons, ih, List.filter_cons]
      split
      · rw [List.flatMap_cons]
      · rename_i missing
        have missing : write a = [] := by simpa using missing
        rw [missing, List.nil_append]
  have whole (a : α) (member : a ∈ written.filter fun a => write a ≠ []) :
      F.Whole (write a) (read a) := by
    obtain ⟨member, present⟩ := List.mem_filter.1 member
    rcases whole a member with missing | whole
    · exact absurd missing (of_decide_eq_true present)
    · exact whole
  have taken := takes.prefix_written write read whole (present ▸ front) closed
  obtain ⟨a, kept, rfl⟩ := List.mem_map.1 (taken.subset member)
  exact ⟨a, List.mem_of_mem_filter kept, whole a kept, rfl⟩

end Scanner

end Lib
