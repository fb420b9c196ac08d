import Mathlib.Tactic.Common

/-!
# Runs of a transition system

A system is a function `step` from a state and an action to the next state, or to `none` when the
action is not possible there. `Run step ok s₀` holds of the states reached from `s₀` by actions
that each meet the condition `ok` in the state they are taken from. An invariant is proved once per
action and then holds along every run.
-/

namespace Lib

variable {σ α : Type*}

/-- The states reached from `s₀` by actions that each meet `ok`. -/
inductive Run (step : σ → α → Option σ) (ok : σ → α → Prop) (s₀ : σ) : σ → Prop where
  | start : Run step ok s₀ s₀
  | next {s a s'} : Run step ok s₀ s → ok s a → step s a = some s' → Run step ok s₀ s'

/-- The condition met by every action. -/
def Unguarded : σ → α → Prop := fun _ _ => True

variable {step : σ → α → Option σ} {ok ok' : σ → α → Prop} {s₀ s s' : σ}

/-- What holds at the start and is kept by every allowed action holds after every run. -/
lemma Run.invariant (run : Run step ok s₀ s) (Inv : σ → Prop) (start : Inv s₀)
    (keep : ∀ s a s', Inv s → ok s a → step s a = some s' → Inv s') : Inv s := by
  induction run with
  | start => exact start
  | next _ allowed taken ih => exact keep _ _ _ ih allowed taken

/-- A run under a stronger condition is a run under a weaker one. -/
lemma Run.mono (run : Run step ok s₀ s) (weaker : ∀ s a, ok s a → ok' s a) :
    Run step ok' s₀ s := by
  induction run with
  | start => exact .start
  | next _ allowed taken ih => exact .next ih (weaker _ _ allowed) taken

/-- Two runs compose when the first one ends where the second one starts. -/
lemma Run.trans (run : Run step ok s₀ s) (run' : Run step ok s s') : Run step ok s₀ s' := by
  induction run' with
  | start => exact run
  | next _ allowed taken ih => exact .next ih allowed taken

/-- A system follows a run of another one when it answers every step of it by a run of its own that
leads to a related state. -/
lemma Run.simulate {τ β : Type*} {step' : τ → β → Option τ} {okt : τ → β → Prop} {R : σ → τ → Prop}
    {t₀ : τ} (run : Run step ok s₀ s) (start : R s₀ t₀)
    (answer : ∀ s a s' t, R s t → ok s a → step s a = some s' →
      ∃ t', Run step' okt t t' ∧ R s' t') : ∃ t, Run step' okt t₀ t ∧ R s t := by
  induction run with
  | start => exact ⟨t₀, .start, start⟩
  | next _ allowed taken ih =>
    obtain ⟨t, reached, related⟩ := ih
    obtain ⟨t', more, related'⟩ := answer _ _ _ t related allowed taken
    exact ⟨t', reached.trans more, related'⟩

/-- A run meets a condition that follows from the one it meets and from an invariant. -/
lemma Run.guard (run : Run step ok s₀ s) (Inv : σ → Prop) (start : Inv s₀)
    (keep : ∀ s a s', Inv s → ok s a → step s a = some s' → Inv s')
    (follows : ∀ s a s', Inv s → ok s a → step s a = some s' → ok' s a) : Run step ok' s₀ s := by
  have both : Run step ok' s₀ s ∧ Inv s := by
    induction run with
    | start => exact ⟨.start, start⟩
    | next _ allowed taken ih =>
      exact ⟨.next ih.1 (follows _ _ _ ih.2 allowed taken) taken, keep _ _ _ ih.2 allowed taken⟩
  exact both.1

/-- The state after a list of actions, taken in order. -/
def runActions (step : σ → α → Option σ) : List α → σ → Option σ
  | [], s => some s
  | a :: rest, s => (step s a).bind (runActions step rest)

/-- One more action after a list of actions. -/
lemma runActions_concat {as : List α} {a : α} {s'' : σ} (reached : runActions step as s = some s')
    (taken : step s' a = some s'') : runActions step (as ++ [a]) s = some s'' := by
  induction as generalizing s with
  | nil =>
    obtain rfl : s = s' := by simpa [runActions] using reached
    simp [runActions, taken]
  | cons b rest ih =>
    obtain ⟨t, first, rest_reached⟩ := Option.bind_eq_some_iff.1 reached
    exact Option.bind_eq_some_iff.2 ⟨t, first, ih rest_reached⟩

/-- The state after a list of actions that all meet `ok`, taken in order. -/
def runGuarded (step : σ → α → Option σ) (ok : σ → α → Bool) : List α → σ → Option σ
  | [], s => some s
  | a :: rest, s => if ok s a then (step s a).bind (runGuarded step ok rest) else none

/-- The first action of a list and the other ones. -/
lemma runGuarded_cons_eq_some {okb : σ → α → Bool} {a : α} {rest : List α} :
    runGuarded step okb (a :: rest) s = some s' ↔
      okb s a = true ∧ ∃ t, step s a = some t ∧ runGuarded step okb rest t = some s' := by
  simp only [runGuarded]
  split
  · rename_i allowed
    simp [allowed, Option.bind_eq_some_iff]
  · rename_i refused
    simp [refused]

/-- Deleting actions from a list: a relation that every kept action keeps when both systems take it,
and that every deleted action keeps when the first system takes it alone, holds at the end. -/
lemma runGuarded_filter {okb okb' : σ → α → Bool} {keep : α → Bool} {R : σ → σ → Prop}
    (both : ∀ s t a s' t', R s t → keep a = true → okb s a = true → okb' t a = true →
      step s a = some s' → step t a = some t' → R s' t')
    (alone : ∀ s t a s', R s t → keep a = false → okb s a = true → step s a = some s' → R s' t)
    {as : List α} : ∀ {s s' t t'}, R s t → runGuarded step okb as s = some s' →
      runGuarded step okb' (as.filter keep) t = some t' → R s' t' := by
  induction as with
  | nil =>
    intro s s' t t' related whole rest
    obtain rfl : s = s' := by simpa [runGuarded] using whole
    obtain rfl : t = t' := by simpa [runGuarded] using rest
    exact related
  | cons a as ih =>
    intro s s' t t' related whole rest
    obtain ⟨allowed, u, taken, whole⟩ := runGuarded_cons_eq_some.1 whole
    cases kept : keep a with
    | false =>
      rw [List.filter_cons, kept] at rest
      exact ih (alone s t a u related kept allowed taken) whole rest
    | true =>
      rw [List.filter_cons, kept] at rest
      obtain ⟨allowed', u', taken', rest⟩ := runGuarded_cons_eq_some.1 rest
      exact ih (both s t a u u' related kept allowed allowed' taken taken') whole rest

/-- Either every action of a list meets the condition, or an action that does not leaves a mark that
every later action keeps. -/
lemma runGuarded_or {okb : σ → α → Bool} {Inv Mark : σ → Prop}
    (keep : ∀ s a s', Inv s → step s a = some s' → Inv s')
    (mark : ∀ s a s', Inv s → okb s a = false → step s a = some s' → Mark s')
    (stays : ∀ s a s', Inv s → Mark s → step s a = some s' → Mark s') {as : List α} :
    ∀ {s}, Inv s → runActions step as s = some s' →
      runGuarded step okb as s = some s' ∨ Mark s' := by
  have marked {as : List α} : ∀ {s}, Inv s → Mark s → runActions step as s = some s' →
      Mark s' := by
    induction as with
    | nil =>
      intro s _ has h
      obtain rfl : s = s' := by simpa [runActions] using h
      exact has
    | cons a rest ih =>
      intro s inv has h
      obtain ⟨t, taken, h⟩ := Option.bind_eq_some_iff.1 h
      exact ih (keep s a t inv taken) (stays s a t inv has taken) h
  induction as with
  | nil => exact fun _ h => .inl h
  | cons a rest ih =>
    intro s inv h
    obtain ⟨t, taken, h⟩ := Option.bind_eq_some_iff.1 h
    have inv' := keep s a t inv taken
    cases allowed : okb s a with
    | false => exact .inr (marked inv' (mark s a t inv allowed taken) h)
    | true =>
      obtain guarded | has := ih inv' h
      · exact .inl (runGuarded_cons_eq_some.2 ⟨allowed, t, taken, guarded⟩)
      · exact .inr has

/-- A list of actions that meet the condition is a run. -/
lemma Run.ofGuarded {okb : σ → α → Bool} {as : List α} :
    ∀ {s}, runGuarded step okb as s = some s' → Run step (fun s a => okb s a = true) s s' := by
  induction as with
  | nil =>
    intro s h
    obtain rfl : s = s' := by simpa [runGuarded] using h
    exact .start
  | cons a rest ih =>
    intro s h
    simp only [runGuarded] at h
    split at h
    · rename_i allowed
      obtain ⟨t, taken, h⟩ := Option.bind_eq_some_iff.1 h
      exact .trans (.next .start allowed taken) (ih h)
    · cases h

/-- A list of possible actions is a run without a condition. -/
lemma Run.ofActions {as : List α} (h : runActions step as s = some s') :
    Run step Unguarded s s' := by
  induction as generalizing s with
  | nil =>
    obtain rfl : s = s' := by simpa [runActions] using h
    exact .start
  | cons a rest ih =>
    obtain ⟨t, taken, h⟩ := Option.bind_eq_some_iff.1 h
    exact .trans (.next .start trivial taken) (ih h)

/-- A list of actions that meet the condition reaches a state with a property that is checked at
its end. -/
lemma Run.exists_ofGuarded {okb : σ → α → Bool} {as : List α} {p : σ → Bool}
    (h : (runGuarded step okb as s).any p = true) :
    ∃ s', Run step (fun s a => okb s a = true) s s' ∧ p s' = true := by
  obtain ⟨s', reached, holds⟩ := (Option.any_eq_true p _).1 h
  exact ⟨s', .ofGuarded reached, holds⟩

/-- A list of possible actions reaches a state with a property that is checked at its end. -/
lemma Run.exists_ofActions {as : List α} {p : σ → Bool}
    (h : (runActions step as s).any p = true) : ∃ s', Run step Unguarded s s' ∧ p s' = true := by
  obtain ⟨s', reached, holds⟩ := (Option.any_eq_true p _).1 h
  exact ⟨s', .ofActions reached, holds⟩

/-- A system with a history variable: every action adds what it emits. -/
def withHistory {ε : Type*} (step : σ → α → Option σ) (emit : σ → α → σ → List ε)
    (w : σ × List ε) (a : α) : Option (σ × List ε) :=
  (step w.1 a).map fun s' => (s', w.2 ++ emit w.1 a s')

/-- What an action of a system with a history did. -/
lemma withHistory_eq_some {ε : Type*} {emit : σ → α → σ → List ε} {w w' : σ × List ε} {a : α} :
    withHistory step emit w a = some w' ↔
      step w.1 a = some w'.1 ∧ w'.2 = w.2 ++ emit w.1 a w'.1 := by
  obtain ⟨s', log⟩ := w'
  simp only [withHistory, Option.map_eq_some_iff, Prod.mk.injEq]
  constructor
  · rintro ⟨_, taken, rfl, rfl⟩
    exact ⟨taken, rfl⟩
  · rintro ⟨taken, rfl⟩
    exact ⟨s', taken, rfl, rfl⟩

/-- The history of a run only grows. -/
lemma Run.history_prefix {ε : Type*} {emit : σ → α → σ → List ε} {w w' : σ × List ε}
    {okw : σ × List ε → α → Prop} (run : Run (withHistory step emit) okw w w') : w.2 <+: w'.2 := by
  induction run with
  | start => exact List.prefix_rfl
  | next _ _ taken ih =>
    rw [(withHistory_eq_some.1 taken).2]
    exact ih.trans (List.prefix_append _ _)

end Lib
