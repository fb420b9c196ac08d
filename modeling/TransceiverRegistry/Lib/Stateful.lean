import Mathlib.Tactic.Common

/-!
# Computations that keep their state when they fail

A computation over a state ends with a result or an error, and with a state in both cases. Here is what
it takes for such a computation to keep a property of the state, however it ends, and to do what a
pure function does that has no state left when it fails.
-/

namespace Lib

variable {ε σ α β τ τ' : Type}

/-- The state in which a computation ends. -/
def finalState : EStateM.Result ε σ α → σ
  | .ok _ s => s
  | .error _ s => s

/-- The result of a computation without its state. -/
def outcomeOf : EStateM.Result ε σ α → Except ε α
  | .ok a _ => .ok a
  | .error e _ => .error e

/-- A computation keeps a property of the state, however it ends. -/
def Keeps (p : σ → Prop) (m : EStateM ε σ α) : Prop := ∀ s, p s → p (finalState (m s))

/-- A computation does from a state what a pure function does; `r` relates the state of the computation
to that of the function while they succeed. -/
def Follows (r : σ → τ → Prop) (m : EStateM ε σ α) (s : σ) : Except ε (α × τ) → Prop
  | .ok (a, t) => ∃ s', m s = .ok a s' ∧ r s' t
  | .error e => ∃ s', m s = .error e s'

section Keeps

variable {p : σ → Prop}

/-- A value is returned in the same state. -/
lemma Keeps.pure (a : α) : Keeps p (Pure.pure a : EStateM ε σ α) := fun _ h => h

/-- A failure leaves the state as it is. -/
lemma Keeps.throw (e : ε) : Keeps p (MonadExcept.throw e : EStateM ε σ α) := fun _ h => h

/-- What both parts of a sequence keep, the sequence keeps. -/
lemma Keeps.bind {m : EStateM ε σ α} {k : α → EStateM ε σ β} (first : Keeps p m)
    (next : ∀ a, Keeps p (k a)) : Keeps p (m >>= k) := by
  intro s h
  have kept := first s h
  change p (finalState (EStateM.bind m k s))
  rw [EStateM.bind]
  cases e : m s with
  | ok a s' =>
    rw [e] at kept
    exact next a s' kept
  | error e' s' =>
    rw [e] at kept
    exact kept

/-- What both branches keep, the choice keeps. -/
lemma Keeps.ite {c : Prop} [Decidable c] {m n : EStateM ε σ α} (yes : c → Keeps p m)
    (no : ¬ c → Keeps p n) : Keeps p (if c then m else n) := by
  by_cases h : c
  · rw [if_pos h]
    exact yes h
  · rw [if_neg h]
    exact no h

end Keeps

section Follows

variable {r : σ → τ → Prop} {r' : σ → τ' → Prop} {s : σ}

/-- A value is returned with related states. -/
lemma Follows.pure {a : α} {t : τ} (related : r s t) :
    Follows r (Pure.pure a : EStateM ε σ α) s (.ok (a, t)) := ⟨s, rfl, related⟩

/-- A failure follows the same failure. -/
lemma Follows.throw {e : ε} :
    Follows r (MonadExcept.throw e : EStateM ε σ α) s (.error e) := ⟨s, rfl⟩

/-- A sequence follows a sequence part by part. -/
lemma Follows.bind {m : EStateM ε σ α} {k : α → EStateM ε σ β} {f : Except ε (α × τ)}
    {g : α × τ → Except ε (β × τ')} (first : Follows r m s f)
    (next : ∀ a s' t, r s' t → Follows r' (k a) s' (g (a, t))) :
    Follows r' (m >>= k) s (f >>= g) := by
  cases f with
  | error e =>
    obtain ⟨s', failed⟩ := first
    refine ⟨s', ?_⟩
    change EStateM.bind m k s = _
    rw [EStateM.bind, failed]
  | ok result =>
    obtain ⟨a, t⟩ := result
    obtain ⟨s', done, related⟩ := first
    have rest := next a s' t related
    have step : (m >>= k) s = k a s' := by
      change EStateM.bind m k s = _
      rw [EStateM.bind, done]
    change Follows r' (m >>= k) s (g (a, t))
    cases e : g (a, t) with
    | error e' =>
      rw [e] at rest
      obtain ⟨s'', failed⟩ := rest
      exact ⟨s'', step.trans failed⟩
    | ok result =>
      rw [e] at rest
      obtain ⟨s'', done', related'⟩ := rest
      exact ⟨s'', step.trans done', related'⟩

/-- A choice follows a choice branch by branch. -/
lemma Follows.ite {c : Prop} [Decidable c] {m n : EStateM ε σ α} {f g : Except ε (α × τ)}
    (yes : c → Follows r m s f) (no : ¬ c → Follows r n s g) :
    Follows r (if c then m else n) s (if c then f else g) := by
  by_cases h : c
  · rw [if_pos h, if_pos h]
    exact yes h
  · rw [if_neg h, if_neg h]
    exact no h

/-- The result of a computation that follows a pure function. -/
lemma Follows.outcomeOf_eq {m : EStateM ε σ α} {f : Except ε (α × τ)} (follows : Follows r m s f) :
    outcomeOf (m s) = f.map Prod.fst := by
  cases f with
  | error e =>
    obtain ⟨s', failed⟩ := follows
    rw [failed]
    rfl
  | ok result =>
    obtain ⟨s', done, _⟩ := follows
    rw [done]
    rfl

end Follows

end Lib
