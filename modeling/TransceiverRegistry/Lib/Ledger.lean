import Mathlib.Data.List.Pairwise
import Mathlib.Data.List.Perm.Subperm
import Mathlib.Order.Nat
import Mathlib.Tactic.Common

/-!
# Ledgers with bounded pages

Entries are posted to the pages of their owners in the order of their stamps, and a page may drop
entries as long as it keeps the newest one of every group. Then the last entry posted to a group in
the current era of its owner is on its page and is the newest of the group there, however often and
in whatever way the pages were cut.
-/

namespace Lib

variable {ι κ α : Type*}

/-- What a ledger reads of an entry. -/
structure Labels (ι κ α : Type*) where
  owner : α → ι
  era : α → Nat
  stamp : α → Nat
  group : α → κ

/-- The current era of an owner and the entries kept for it. -/
structure Page (α : Type*) where
  era : Nat
  kept : List α

variable (L : Labels ι κ α)

/-- The entry is newer than every other one of its group. -/
def Labels.Newest (a : α) (others : List α) : Prop :=
  ∀ b ∈ others, L.group b = L.group a → L.stamp b < L.stamp a

/-- A page that entries were added to and that may have been cut. -/
structure Labels.Cut (full kept : List α) : Prop where
  sublist : kept.Sublist full
  newest : ∀ front a back, full = front ++ a :: back → L.Newest a (front ++ back) → a ∈ kept

/-- The entries are told apart by their stamps, and no later one is of an earlier era. -/
structure Labels.Dated (l : List α) : Prop where
  apart : l.Pairwise fun a b => L.stamp a ≠ L.stamp b
  eras : ∀ a ∈ l, ∀ b ∈ l, L.stamp a < L.stamp b → L.era a ≤ L.era b

/-- The entry is the last one of its group on a list. -/
structure Labels.Last (l : List α) (a : α) : Prop where
  member : a ∈ l
  latest : ∀ b ∈ l, L.group b = L.group a → L.stamp b ≤ L.stamp a

/-- The entries are posted to the page of one owner with the stamp `next`, and every other page
stays. -/
structure Labels.Posts (book book' : ι → Option (Page α)) (next : Nat) (added : List α) :
    Prop where
  stamped : ∀ a ∈ added, L.stamp a = next
  distinct : added.Pairwise fun a b => L.group a ≠ L.group b
  owned : ∀ a ∈ added, ∃ page, book' (L.owner a) = some page
  stays : ∀ i page, book i = some page → ∃ page', book' i = some page' ∧ page.era ≤ page'.era
  each : ∀ i page', book' i = some page' →
    (book i = some page' ∧ ∀ a ∈ added, L.owner a ≠ i) ∨
    ∃ before, ((book i = none ∧ before = []) ∨ ∃ era, book i = some ⟨era, before⟩) ∧
      L.Cut (before ++ added) page'.kept ∧ ∀ a ∈ added, L.owner a = i ∧ L.era a = page'.era

/-- Of two entries of one owner the second one was posted later. -/
def Labels.Before (a b : α) : Prop :=
  L.owner a = L.owner b → L.stamp a ≤ L.stamp b ∧ L.era a ≤ L.era b ∧
    (L.group a = L.group b → L.stamp a < L.stamp b)

/-- The pages hold what the entries posted so far left on them. -/
structure Labels.Holds [DecidableEq ι] (book : ι → Option (Page α)) (next : Nat) (log : List α) :
    Prop where
  order : log.Pairwise L.Before
  past : ∀ a ∈ log, L.stamp a < next
  paged : ∀ a ∈ log, ∃ page, book (L.owner a) = some page ∧ L.era a ≤ page.era
  posted : ∀ i page, book i = some page → page.kept.Sublist (log.filter (L.owner · = i))
  last : ∀ i page, book i = some page → ∀ a ∈ log, L.owner a = i → L.era a = page.era →
    (∀ b ∈ log, L.owner b = i → L.group b = L.group a → L.stamp b ≤ L.stamp a) → a ∈ page.kept

variable {L}

/-- A list that was not cut keeps everything. -/
lemma Labels.Cut.refl (l : List α) : L.Cut l l where
  sublist := List.Sublist.refl l
  newest front a back e _ := by simp [e]

/-- An entry that is newer than some entries is newer than any of them. -/
lemma Labels.Newest.mono {a : α} {others others' : List α} (newest : L.Newest a others)
    (fewer : others' ⊆ others) : L.Newest a others' :=
  fun b member => newest b (fewer member)

/-- A page that was cut, and then was added to and cut again, is a cut of all that was added. -/
lemma Labels.Cut.trans {full kept added kept' : List α} (cut : L.Cut full kept)
    (cut' : L.Cut (kept ++ added) kept') : L.Cut (full ++ added) kept' where
  sublist := cut'.sublist.trans (cut.sublist.append_right added)
  newest front a back e newest := by
    -- an entry that is added stands behind what was kept
    have added_ {front' : List α} (start : front = full ++ front')
        (rest : added = front' ++ a :: back) : a ∈ kept' := by
      subst start rest
      refine cut'.newest (kept ++ front') a back (by simp) (newest.mono fun b member => ?_)
      simp only [List.append_assoc, List.mem_append] at member ⊢
      exact member.imp_left fun old => cut.sublist.subset old
    obtain ⟨front', start, rest⟩ | ⟨behind, rfl, rest⟩ := List.append_eq_append_iff.1 e
    · exact added_ start rest
    · cases behind with
      | nil =>
        have first : added = [] ++ a :: back := rest.symm
        exact added_ (by simp) first
      | cons b behind =>
        rw [List.cons_append, List.cons.injEq] at rest
        obtain ⟨rfl, rfl⟩ := rest
        have inside : a ∈ kept := by
          refine cut.newest front a behind rfl (newest.mono fun b member => ?_)
          rw [← List.append_assoc]
          exact List.mem_append_left _ member
        obtain ⟨front', back', rfl⟩ := List.append_of_mem inside
        refine cut'.newest front' a (back' ++ added) (by simp) (newest.mono ?_)
        have fewer : (front' ++ back').Subperm (front ++ behind) := by
          refine (List.subperm_cons a).1 ?_
          refine List.perm_middle.symm.subperm.trans (cut.sublist.subperm.trans ?_)
          exact List.perm_middle.subperm
        intro b member
        have known := fewer.subset (a := b)
        simp only [List.mem_append] at member known ⊢
        obtain old | old | new := member
        · exact (known (.inl old)).imp_right .inl
        · exact (known (.inr old)).imp_right .inl
        · exact .inr (.inr new)

section Dated

variable {l kept : List α} {a b : α}

/-- Entries with one stamp are the same. -/
lemma Labels.Dated.eq_of_stamp (dated : L.Dated l) (ha : a ∈ l) (hb : b ∈ l)
    (same : L.stamp a = L.stamp b) : a = b := by
  by_contra ne
  have symm : Std.Symm fun a b => L.stamp a ≠ L.stamp b := ⟨fun _ _ => Ne.symm⟩
  exact List.Pairwise.forall dated.apart ha hb ne same

/-- Every group on a list has a last entry. -/
lemma Labels.exists_last (L : Labels ι κ α) (member : a ∈ l) :
    ∃ b, L.Last l b ∧ L.group b = L.group a := by
  induction l generalizing a with
  | nil => cases member
  | cons c l ih =>
    by_cases others : ∃ b ∈ l, L.group b = L.group a
    · obtain ⟨d, inside, same⟩ := others
      obtain ⟨b, last, own⟩ := ih inside
      have own : L.group b = L.group a := own.trans same
      by_cases newer : L.group c = L.group a ∧ L.stamp b < L.stamp c
      · refine ⟨c, ⟨List.mem_cons_self, fun x within group => ?_⟩, newer.1⟩
        cases within with
        | head => exact Nat.le_refl _
        | tail _ within =>
          have := last.latest x within (group.trans (newer.1.trans own.symm))
          omega
      · refine ⟨b, ⟨List.mem_cons_of_mem _ last.member, fun x within group => ?_⟩, own⟩
        cases within with
        | head =>
          by_contra later
          exact newer ⟨group.trans own, Nat.not_le.1 later⟩
        | tail _ within => exact last.latest x within group
    · obtain rfl : a = c := by
        cases member with
        | head => rfl
        | tail _ inside => exact absurd ⟨a, inside, rfl⟩ others
      refine ⟨a, ⟨List.mem_cons_self, fun x within group => ?_⟩, rfl⟩
      cases within with
      | head => exact Nat.le_refl _
      | tail _ within => exact absurd ⟨x, within, group⟩ others

/-- The last entry of a group is newer than every other one. -/
lemma Labels.Dated.newest (dated : L.Dated l) (last : L.Last l a) :
    ∃ front back, l = front ++ a :: back ∧ L.Newest a (front ++ back) := by
  obtain ⟨front, back, rfl⟩ := List.append_of_mem last.member
  refine ⟨front, back, rfl, fun b member group => ?_⟩
  have inside : b ∈ front ++ a :: back :=
    List.perm_middle.symm.subset (List.mem_cons_of_mem _ member)
  have apart := (List.perm_middle.pairwise_iff fun h => h.symm).1 dated.apart
  have differ := (List.pairwise_cons.1 apart).1 b member
  exact lt_of_le_of_ne (last.latest b inside group) differ.symm

/-- Cutting a page keeps the last entry of every group. -/
lemma Labels.Cut.last_iff (cut : L.Cut l kept) (dated : L.Dated l) :
    L.Last kept a ↔ L.Last l a := by
  have stays {b : α} (last : L.Last l b) : b ∈ kept := by
    obtain ⟨front, back, parts, newest⟩ := dated.newest last
    exact cut.newest front b back parts newest
  constructor
  · intro last
    have inside : a ∈ l := cut.sublist.subset last.member
    obtain ⟨b, lastB, group⟩ := L.exists_last inside
    have same : L.stamp b = L.stamp a :=
      Nat.le_antisymm (last.latest b (stays lastB) group) (lastB.latest a inside group.symm)
    exact dated.eq_of_stamp lastB.member inside same ▸ lastB
  · intro last
    exact ⟨stays last, fun b member => last.latest b (cut.sublist.subset member)⟩

/-- An entry that is not older than one of the last era is of that era. -/
lemma Labels.Dated.era_eq (dated : L.Dated l) (ha : a ∈ l) (hb : b ∈ l)
    (recent : L.era b ≤ L.era a) (later : L.stamp a ≤ L.stamp b) : L.era b = L.era a := by
  obtain earlier | same := Nat.lt_or_eq_of_le later
  · exact Nat.le_antisymm recent (dated.eras a ha b hb earlier)
  · rw [dated.eq_of_stamp ha hb same]

/-- The last entries after newer entries of different groups were added: the new ones, and the old
ones of the other groups. -/
lemma Labels.last_append_iff {added : List α}
    (later : ∀ a ∈ l, ∀ b ∈ added, L.stamp a < L.stamp b)
    (distinct : added.Pairwise fun a b => L.group a ≠ L.group b) :
    L.Last (l ++ added) a ↔ (L.Last l a ∧ ∀ b ∈ added, L.group b ≠ L.group a) ∨ a ∈ added := by
  constructor
  · intro last
    refine (List.mem_append.1 last.member).imp (fun old => ⟨⟨old, fun b member => ?_⟩, ?_⟩) id
    · exact last.latest b (List.mem_append_left _ member)
    · intro b member same
      have newer := last.latest b (List.mem_append_right _ member) same
      exact Nat.not_lt.2 newer (later a old b member)
  · rintro (⟨last, others⟩ | new)
    · refine ⟨List.mem_append_left _ last.member, fun b member same => ?_⟩
      obtain old | new := List.mem_append.1 member
      · exact last.latest b old same
      · exact absurd same (others b new)
    · refine ⟨List.mem_append_right _ new, fun b member same => ?_⟩
      obtain old | new' := List.mem_append.1 member
      · exact (later b old a new).le
      · by_contra newer
        have symm : Std.Symm fun a b => L.group a ≠ L.group b := ⟨fun _ _ => Ne.symm⟩
        have differ : b ≠ a := by
          rintro rfl
          exact newer (Nat.le_refl _)
        exact List.Pairwise.forall distinct new' new differ same

/-- A part of a dated list, in any order, is dated. -/
lemma Labels.Dated.mono (dated : L.Dated l) (fewer : kept.Subperm l) : L.Dated kept where
  apart := by
    obtain ⟨l', perm, part⟩ := fewer
    exact (perm.pairwise_iff fun h => h.symm).1 (dated.apart.sublist part)
  eras a ha b hb := dated.eras a (fewer.subset ha) b (fewer.subset hb)

/-- A newer entry of the last era is added to a dated list. -/
lemma Labels.Dated.append (dated : L.Dated l) (dated' : L.Dated kept)
    (later : ∀ a ∈ l, ∀ b ∈ kept, L.stamp a < L.stamp b ∧ L.era a ≤ L.era b) :
    L.Dated (l ++ kept) where
  apart := List.pairwise_append.2 ⟨dated.apart, dated'.apart, fun a ha b hb =>
    Nat.ne_of_lt (later a ha b hb).1⟩
  eras a ha b hb less := by
    obtain old | new := List.mem_append.1 ha
    · obtain old' | new' := List.mem_append.1 hb
      · exact dated.eras a old b old' less
      · exact (later a old b new').2
    · obtain old' | new' := List.mem_append.1 hb
      · exact absurd less (Nat.lt_asymm (later b old' a new).1)
      · exact dated'.eras a new b new' less

end Dated

/-- A list of entries of one owner in the order they were posted has at most one newest entry of a
group: the one with the greatest stamp. -/
lemma Labels.newest_of_le {front back : List α} {a : α} {i : ι}
    (order : (front ++ a :: back).Pairwise L.Before)
    (owned : ∀ b ∈ front ++ a :: back, L.owner b = i)
    (greatest : ∀ b ∈ front ++ a :: back, L.group b = L.group a → L.stamp b ≤ L.stamp a) :
    L.Newest a (front ++ back) := by
  have own : L.owner a = i := owned a (by simp)
  rw [List.pairwise_append, List.pairwise_cons] at order
  intro b member same
  rcases List.mem_append.1 member with before | after
  · have sameOwner : L.owner b = L.owner a := (owned b (by simp [before])).trans own.symm
    exact (order.2.2 b before a (by simp) sameOwner).2.2 same
  · have sameOwner : L.owner a = L.owner b := own.trans (owned b (by simp [after])).symm
    have later := (order.2.1.1 b after sameOwner).2.2 same.symm
    have := greatest b (by simp [after]) same
    omega

variable {book book' : ι → Option (Page α)} {next next' : Nat} {log added : List α}

/-- Posting nothing. -/
lemma Labels.Posts.nothing (same : book' = book) : L.Posts book book' next [] where
  stamped a member := by cases member
  distinct := List.Pairwise.nil
  owned a member := by cases member
  stays i page found := ⟨page, same ▸ found, le_rfl⟩
  each i page found := .inl ⟨same ▸ found, fun a member => by cases member⟩

/-- Posting entries to the page of one owner. -/
lemma Labels.Posts.update [DecidableEq ι] {i : ι} {era : Nat} (before : List α) {kept : List α}
    (old : (book i = none ∧ before = []) ∨ ∃ e, book i = some ⟨e, before⟩ ∧ e ≤ era)
    (cut : L.Cut (before ++ added) kept)
    (labels : ∀ a ∈ added, L.owner a = i ∧ L.era a = era ∧ L.stamp a = next)
    (distinct : added.Pairwise fun a b => L.group a ≠ L.group b) :
    L.Posts book (Function.update book i (some ⟨era, kept⟩)) next added where
  stamped a member := (labels a member).2.2
  distinct := distinct
  owned a member := ⟨⟨era, kept⟩, by rw [(labels a member).1, Function.update_self]⟩
  stays j page found := by
    by_cases here : j = i
    · subst here
      obtain ⟨absent, _⟩ | ⟨e, known, le⟩ := old
      · rw [absent] at found
        cases found
      · rw [known] at found
        cases found
        exact ⟨_, Function.update_self _ _ _, le⟩
    · exact ⟨page, by rw [Function.update_of_ne here, found], le_rfl⟩
  each j page found := by
    by_cases here : j = i
    · subst here
      rw [Function.update_self] at found
      cases found
      refine .inr ⟨before, ?_, cut, fun a member => ?_⟩
      · exact old.imp_right fun ⟨e, known, _⟩ => ⟨e, known⟩
      · exact ⟨(labels a member).1, (labels a member).2.1⟩
    · rw [Function.update_of_ne here] at found
      exact .inl ⟨found, fun a member => (labels a member).1 ▸ Ne.symm here⟩

/-- The era of an added entry is the era of the page it was posted to. -/
lemma Labels.Posts.era_eq (p : L.Posts book book' next added) {a : α} (member : a ∈ added)
    {page : Page α} (found : book' (L.owner a) = some page) : L.era a = page.era := by
  obtain ⟨_, foreign⟩ | ⟨_, _, _, all⟩ := p.each _ page found
  · exact absurd rfl (foreign a member)
  · exact (all a member).2

section Post

variable [DecidableEq ι]

/-- The entries of the owner of a page in the order they were posted. -/
lemma Labels.Holds.order_filter (h : L.Holds book next log) (i : ι) :
    (log.filter (L.owner · = i)).Pairwise L.Before := h.order.sublist List.filter_sublist

/-- Posting entries keeps the order of the entries. -/
lemma Labels.Holds.order_post (h : L.Holds book next log) (p : L.Posts book book' next added) :
    (log ++ added).Pairwise L.Before := by
  refine List.pairwise_append.2 ⟨h.order, ?_, ?_⟩
  · refine p.distinct.imp_of_mem ?_
    intro a b ha hb differ sameOwner
    obtain ⟨page, found⟩ := p.owned a ha
    have eraA := p.era_eq ha found
    have eraB := p.era_eq hb (sameOwner ▸ found)
    have stampA := p.stamped a ha
    have stampB := p.stamped b hb
    exact ⟨by omega, by omega, fun same => absurd same differ⟩
  · intro a ha b hb sameOwner
    obtain ⟨page, found, old⟩ := h.paged a ha
    obtain ⟨page', found', later⟩ := p.stays _ page found
    have eraB := p.era_eq hb (sameOwner ▸ found')
    have stampB := p.stamped b hb
    have := h.past a ha
    exact ⟨by omega, by omega, fun _ => by omega⟩

/-- What a page held and what was added to it are entries of its owner, in order. -/
lemma Labels.Holds.full_sublist (h : L.Holds book next log) {i : ι} {before : List α}
    (old : (book i = none ∧ before = []) ∨ ∃ era, book i = some ⟨era, before⟩)
    (own : ∀ a ∈ added, L.owner a = i) :
    (before ++ added).Sublist ((log ++ added).filter (L.owner · = i)) := by
  have all : added.filter (L.owner · = i) = added := by
    rw [List.filter_eq_self]
    simpa using own
  rw [List.filter_append, all]
  refine List.Sublist.append_right ?_ added
  obtain ⟨_, rfl⟩ | ⟨era, found⟩ := old
  · exact List.nil_sublist _
  · exact h.posted i _ found

/-- The empty book holds the empty log. -/
lemma Labels.Holds.empty (none : ∀ i, book i = none) : L.Holds book next [] where
  order := List.Pairwise.nil
  past a member := by cases member
  paged a member := by cases member
  posted i page found := by
    rw [none] at found
    cases found
  last i page found := by
    rw [none] at found
    cases found

/-- Posting entries keeps the pages of the owners. -/
lemma Labels.Holds.post (h : L.Holds book next log) (p : L.Posts book book' next added)
    (later : next < next') : L.Holds book' next' (log ++ added) where
  order := h.order_post p
  past a member := by
    rcases List.mem_append.1 member with old | new
    · exact (h.past a old).trans later
    · exact (p.stamped a new).trans_lt later
  paged a member := by
    rcases List.mem_append.1 member with old | new
    · obtain ⟨page, found, le⟩ := h.paged a old
      obtain ⟨page', found', le'⟩ := p.stays _ page found
      exact ⟨page', found', le.trans le'⟩
    · obtain ⟨page, found⟩ := p.owned a new
      exact ⟨page, found, (p.era_eq new found).le⟩
  posted i page' found := by
    obtain ⟨same, _⟩ | ⟨before, old, cut, all⟩ := p.each i page' found
    · rw [List.filter_append]
      exact (h.posted i page' same).trans (List.sublist_append_left _ _)
    · exact cut.sublist.trans (h.full_sublist old fun a ha => (all a ha).1)
  last i page' found a member own current newest := by
    obtain ⟨same, foreign⟩ | ⟨before, old, cut, all⟩ := p.each i page' found
    · rcases List.mem_append.1 member with old | new
      · exact h.last i page' same a old own current fun b hb =>
          newest b (List.mem_append_left _ hb)
      · exact absurd own (foreign a new)
    · have full := h.full_sublist old fun a ha => (all a ha).1
      have isFull : a ∈ before ++ added := by
        rcases List.mem_append.1 member with posted | new
        · refine List.mem_append_left _ ?_
          obtain ⟨page, known, le⟩ := h.paged a posted
          obtain ⟨page'', found'', le'⟩ := p.stays _ page known
          rw [own] at known found''
          obtain rfl : page'' = page' := Option.some.inj (found''.symm.trans found)
          obtain ⟨absent, _⟩ | ⟨era, held⟩ := old
          · rw [absent] at known
            cases known
          · obtain rfl : page = ⟨era, before⟩ := Option.some.inj (known.symm.trans held)
            refine h.last i _ held a posted own ?_ fun b hb =>
              newest b (List.mem_append_left _ hb)
            simp only at le le' ⊢
            omega
        · exact List.mem_append_right _ new
      obtain ⟨front, back, split⟩ := List.append_of_mem isFull
      rw [split] at full
      refine cut.newest front a back split (Labels.newest_of_le (i := i) ?_ ?_ ?_)
      · exact ((h.order_post p).sublist List.filter_sublist).sublist full
      · intro b hb
        simpa using (List.mem_filter.1 (full.subset hb)).2
      · intro b hb sameGroup
        obtain ⟨posted, own⟩ := List.mem_filter.1 (full.subset hb)
        exact newest b posted (by simpa using own) sameGroup

/-- The last entry posted to a group in the current era is on its page, newer than every other one of
the group. -/
lemma Labels.Holds.last_newest (h : L.Holds book next log) {i : ι} {page : Page α}
    (found : book i = some page) {p : α → Bool} {a : α}
    (latest : (log.filter p).getLast? = some a)
    (picks : ∀ b, L.owner b = i → L.era b = page.era → L.group b = L.group a → p b = true)
    (own : L.owner a = i) (current : L.era a = page.era) :
    ∃ front back, page.kept = front ++ a :: back ∧ L.Newest a (front ++ back) := by
  obtain ⟨picked, parts⟩ := List.getLast?_eq_some_iff.1 latest
  obtain ⟨early, late, split, _, tail⟩ := List.filter_eq_append_iff.1 parts
  obtain ⟨skipped, rest, parts', _, _, none⟩ := List.filter_eq_cons_iff.1 tail
  have order := h.order
  rw [split, parts', ← List.append_assoc] at order
  rw [List.pairwise_append, List.pairwise_cons] at order
  have posted : a ∈ log := by simp [split, parts']
  have greatest : ∀ b ∈ log, L.owner b = i → L.group b = L.group a → L.stamp b ≤ L.stamp a := by
    intro b hb ownB same
    rw [split, parts', ← List.append_assoc, List.mem_append, List.mem_cons] at hb
    obtain before | rfl | after := hb
    · exact (order.2.2 b before a (by simp) (ownB.trans own.symm)).1
    · exact le_rfl
    -- an entry after the last one of the group would have been picked as well
    · have grows := (order.2.1.1 b after (own.trans ownB.symm)).2.1
      obtain ⟨page', found', le⟩ := h.paged b (by simp [split, parts', after])
      rw [ownB, found] at found'
      cases found'
      have picked := picks b ownB (by omega) same
      rw [List.filter_eq_nil_iff] at none
      exact absurd picked (none b after)
  obtain ⟨front, back, split⟩ := List.append_of_mem
    (h.last i page found a posted own current greatest)
  refine ⟨front, back, split, Labels.newest_of_le (i := i) ?_ ?_ ?_⟩
  · rw [← split]
    exact (h.order_filter i).sublist (h.posted i page found)
  · intro b hb
    rw [← split] at hb
    simpa using (List.mem_filter.1 ((h.posted i page found).subset hb)).2
  · intro b hb same
    rw [← split] at hb
    obtain ⟨postedB, ownB⟩ := List.mem_filter.1 ((h.posted i page found).subset hb)
    exact greatest b postedB (by simpa using ownB) same

end Post

end Lib
