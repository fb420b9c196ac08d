import Mathlib.Data.List.Perm.Basic
import TransceiverRegistry.Lib.Ledger

/-!
# Panels

A panel is what each of some speakers say about one question, at most one thing each. It has an answer
when somebody speaks and any two who speak agree. A log of statements makes a panel: of every speaker
who is heard it takes the last word. The entries of a bounded page of a ledger list that panel, whatever
was cut from the page.
-/

namespace Lib

variable {σ α β : Type*}

/-- What every speaker says. -/
abbrev Panel (σ β : Type*) := σ → Option β

/-- The last word of every speaker who is heard. -/
def lastWords [DecidableEq σ] (heard : σ → Bool) (speaker : α → σ) (word : α → β) (log : List α) :
    Panel σ β :=
  fun who => if heard who then ((log.filter (speaker · = who)).getLast?).map word else none

namespace Panel

/-- Somebody speaks. -/
def Speaks (panel : Panel σ β) : Prop := ∃ who v, panel who = some v

/-- Any two who speak agree. -/
def Agrees (equal : β → β → Prop) (panel : Panel σ β) : Prop :=
  ∀ who who' v v', who ≠ who' → panel who = some v → panel who' = some v' → equal v v'

/-- An answer (whether there is a value, the value, whether the speakers are divided) is the one that a
panel gives. -/
structure Answers (equal : β → β → Prop) (panel : Panel σ β) (answer : Bool × β × Bool) : Prop where
  known : answer.1 = true ↔ panel.Speaks ∧ panel.Agrees equal
  value : answer.1 = true → (∃ who, panel who = some answer.2.1) ∧
    ∀ who v, panel who = some v → v = answer.2.1 ∨ equal answer.2.1 v
  divided : answer.2.2 = true ↔ ¬ panel.Agrees equal

/-- A list holds one entry for every speaker who speaks, with what it says. -/
def Lists [DecidableEq σ] (panel : Panel σ β) (speaker : α → σ) (word : α → β) (l : List α) : Prop :=
  ∀ who, (l.filter (speaker · = who)).map word = (panel who).toList

variable [DecidableEq σ] {panel : Panel σ β} {speaker : α → σ} {word : α → β} {l l' : List α} {a : α}

/-- An entry of the list is what its speaker says. -/
lemma Lists.of_mem (lists : panel.Lists speaker word l) (member : a ∈ l) :
    panel (speaker a) = some (word a) := by
  have inside : word a ∈ (l.filter (speaker · = speaker a)).map word :=
    List.mem_map_of_mem (List.mem_filter.2 ⟨member, decide_eq_true rfl⟩)
  rw [lists] at inside
  exact Option.mem_toList.1 inside

/-- What a speaker says is in the list. -/
lemma Lists.exists_mem (lists : panel.Lists speaker word l) {who : σ} {v : β}
    (spoke : panel who = some v) : ∃ a ∈ l, speaker a = who ∧ word a = v := by
  have inside : v ∈ (l.filter (speaker · = who)).map word := by
    rw [lists, spoke]
    exact List.mem_singleton_self v
  obtain ⟨a, member, rfl⟩ := List.mem_map.1 inside
  obtain ⟨member, own⟩ := List.mem_filter.1 member
  exact ⟨a, member, of_decide_eq_true own, rfl⟩

/-- The entries are of different speakers. -/
lemma Lists.apart (lists : panel.Lists speaker word l) :
    l.Pairwise fun a b => speaker a ≠ speaker b := by
  rw [List.pairwise_iff_forall_sublist]
  intro a b part same
  have two := ((part.filter (speaker · = speaker b)).map word).length_le
  rw [lists] at two
  simp only [same, decide_true, List.filter_cons_of_pos, List.filter_nil, List.map_cons,
    List.map_nil, List.length_cons, List.length_nil] at two
  have one : (panel (speaker b)).toList.length ≤ 1 := by cases panel (speaker b) <;> simp
  omega

/-- A list in another order lists the same panel. -/
lemma Lists.perm (lists : panel.Lists speaker word l) (same : l.Perm l') :
    panel.Lists speaker word l' := by
  intro who
  have words := ((same.filter (speaker · = who)).map word).symm
  rw [lists] at words
  cases spoke : panel who with
  | none =>
    rw [spoke] at words
    exact words.eq_nil
  | some v =>
    rw [spoke] at words
    exact words.eq_singleton

/-- A list whose entries were rewritten, but not their speakers and words, lists the same panel. -/
lemma Lists.map (lists : panel.Lists speaker word l) {f : α → α}
    (own : ∀ a, speaker (f a) = speaker a) (same : ∀ a, word (f a) = word a) :
    panel.Lists speaker word (l.map f) := by
  intro who
  have speakers : (fun b => decide (speaker b = who)) ∘ f = fun b => decide (speaker b = who) :=
    funext fun b => by rw [Function.comp_apply, own]
  have words : word ∘ f = word := funext same
  rw [List.filter_map, speakers, List.map_map, words]
  exact lists who

/-- Somebody speaks when the list has an entry. -/
lemma Lists.speaks_iff (lists : panel.Lists speaker word l) : panel.Speaks ↔ l ≠ [] := by
  constructor
  · rintro ⟨who, v, spoke⟩ rfl
    obtain ⟨a, member, _⟩ := lists.exists_mem spoke
    cases member
  · intro some
    obtain ⟨a, member⟩ := List.exists_mem_of_ne_nil l some
    exact ⟨_, _, lists.of_mem member⟩

/-- The speakers agree when the entries of the list do. -/
lemma Lists.agrees_iff {equal : β → β → Prop} (symm : ∀ u v, equal u v → equal v u)
    (lists : panel.Lists speaker word l) :
    panel.Agrees equal ↔ l.Pairwise fun a b => equal (word a) (word b) := by
  constructor
  · intro agrees
    refine lists.apart.imp_of_mem fun {a b} ha hb differ => ?_
    exact agrees _ _ _ _ differ (lists.of_mem ha) (lists.of_mem hb)
  · intro agrees who who' v v' differ spoke spoke'
    obtain ⟨a, ha, rfl, rfl⟩ := lists.exists_mem spoke
    obtain ⟨b, hb, rfl, rfl⟩ := lists.exists_mem spoke'
    have symmetric : Std.Symm fun a b => equal (word a) (word b) := ⟨fun _ _ => symm _ _⟩
    refine List.Pairwise.forall agrees ha hb ?_
    rintro rfl
    exact differ rfl

end Panel

section Ledger

variable {ι κ τ : Type*} [DecidableEq ι] [DecidableEq σ] [DecidableEq τ] {L : Labels ι κ α}
  {book : ι → Option (Page α)} {next : Nat} {log : List α} {i : ι} {page : Page α}
  {speaker : α → σ} {subject : α → τ} {word : α → β}

/-- What was said of an owner in an era about a subject. -/
def saidAbout (L : Labels ι κ α) (subject : α → τ) (i : ι) (era : Nat) (k : τ) (log : List α) :
    List α :=
  log.filter fun a => L.owner a = i ∧ L.era a = era ∧ subject a = k

/-- The entries of a page that are of its era, about a subject, of a speaker who is heard, and not
revised by an entry of the page list the last words about the subject. -/
lemma Labels.Holds.lists (h : L.Holds book next log) (found : book i = some page)
    (group : ∀ a b, L.group a = L.group b ↔ speaker a = speaker b ∧ subject a = subject b)
    (heard : σ → Bool) {revised : α → Bool}
    (covered : ∀ a ∈ page.kept, L.era a = page.era → (revised a = true ↔
      ∃ b ∈ page.kept, L.group b = L.group a ∧ L.era b = page.era ∧ L.stamp a < L.stamp b))
    (k : τ) :
    (lastWords heard speaker word (saidAbout L subject i page.era k log)).Lists speaker word
      (page.kept.filter fun a =>
        L.era a = page.era ∧ subject a = k ∧ heard (speaker a) = true ∧ revised a = false) := by
  intro who
  -- an entry of the page was posted, and is of the owner of the page
  have posted {a : α} (member : a ∈ page.kept) : a ∈ log ∧ L.owner a = i := by
    obtain ⟨inside, own⟩ := List.mem_filter.1 ((h.posted i page found).subset member)
    exact ⟨inside, of_decide_eq_true own⟩
  rw [List.filter_filter, lastWords]
  cases known : heard who with
  | false =>
    rw [if_neg Bool.false_ne_true, Option.toList_none, List.map_eq_nil_iff, List.filter_eq_nil_iff]
    intro a _ picked
    simp only [Bool.and_eq_true, decide_eq_true_eq] at picked
    obtain ⟨rfl, _, _, live, _⟩ := picked
    rw [known] at live
    cases live
  | true =>
    rw [if_pos rfl, saidAbout, List.filter_filter]
    cases last : (log.filter fun a => decide (speaker a = who) &&
        decide (L.owner a = i ∧ L.era a = page.era ∧ subject a = k)).getLast? with
    | none =>
      rw [List.getLast?_eq_none_iff, List.filter_eq_nil_iff] at last
      rw [Option.map_none, Option.toList_none, List.map_eq_nil_iff, List.filter_eq_nil_iff]
      intro a member picked
      simp only [Bool.and_eq_true, decide_eq_true_eq] at picked
      obtain ⟨inside, own⟩ := posted member
      refine last a inside ?_
      simp only [Bool.and_eq_true, decide_eq_true_eq]
      exact ⟨picked.1, own, picked.2.1, picked.2.2.1⟩
    | some latest =>
      have picked := (List.mem_filter.1 (List.mem_of_getLast? last)).2
      simp only [Bool.and_eq_true, decide_eq_true_eq] at picked
      obtain ⟨rfl, own, current, rfl⟩ := picked
      obtain ⟨front, back, parts, newest⟩ := h.last_newest found last (by
        intro b own' era same
        simp only [Bool.and_eq_true, decide_eq_true_eq]
        obtain ⟨speaks, about⟩ := (group b latest).1 same
        exact ⟨speaks, own', era, about⟩) own current
      have inside : latest ∈ page.kept := by simp [parts]
      have bare : revised latest = false := by
        rw [← Bool.not_eq_true, covered latest inside current]
        rintro ⟨b, member, same, _, later⟩
        rw [parts, List.mem_append, List.mem_cons] at member
        obtain before | rfl | after := member
        · have := newest b (List.mem_append_left _ before) same
          omega
        · exact Nat.lt_irrefl _ later
        · have := newest b (List.mem_append_right _ after) same
          omega
      have others {b : α} (member : b ∈ front ++ back) : ¬ ((decide (speaker b = speaker latest) &&
          decide (L.era b = page.era ∧ subject b = subject latest ∧ heard (speaker b) = true ∧
            revised b = false)) = true) := by
        simp only [Bool.and_eq_true, decide_eq_true_eq]
        rintro ⟨speaks, era, about, _, unrevised⟩
        have same := (group b latest).2 ⟨speaks, about⟩
        have kept : b ∈ page.kept := by
          rw [parts, List.mem_append, List.mem_cons]
          exact (List.mem_append.1 member).imp_right .inr
        rw [(covered b kept era).2 ⟨latest, inside, same.symm, current, newest b member same⟩]
          at unrevised
        cases unrevised
      rw [parts, List.filter_append, List.filter_cons_of_pos (by simp [current, known, bare]),
        List.filter_eq_nil_iff.2 fun b member => others (List.mem_append_left _ member),
        List.filter_eq_nil_iff.2 fun b member => others (List.mem_append_right _ member)]
      rfl

end Ledger

end Lib
