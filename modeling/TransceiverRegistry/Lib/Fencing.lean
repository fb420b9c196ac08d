import TransceiverRegistry.Lib.Run

/-!
# Fencing by versions

Keys have versions that only go up, and an action that shows a version of a key is taken only while
the key has this version. Whoever was overtaken by a later version is then shut out for good: in every
run the versions that are shown of one key never go back.
-/

namespace Lib

variable {σ α κ : Type*} {step : σ → α → Option σ} {ok : σ → α → Prop} {Inv : σ → Prop}
  {version : σ → κ → Option ℕ} {shown : α → Option (κ × ℕ)} {s s' t t' : σ} {a b : α} {k : κ}
  {n : ℕ}

/-- Where the invariant holds, no version goes back, and an action that shows a version is taken only
where the key has it. -/
structure Fencing (step : σ → α → Option σ) (Inv : σ → Prop) (version : σ → κ → Option ℕ)
    (shown : α → Option (κ × ℕ)) : Prop where
  keeps : ∀ {s a s'}, Inv s → step s a = some s' → Inv s'
  grows : ∀ {s a s' k n}, Inv s → step s a = some s' → version s k = some n →
    ∃ n', version s' k = some n' ∧ n ≤ n'
  checks : ∀ {s a s' k n}, step s a = some s' → shown a = some (k, n) → version s k = some n

/-- What the first action shows of a key is not later than what the second one shows of it. -/
def ShownInOrder (shown : α → Option (κ × ℕ)) (a b : α) : Prop :=
  ∀ k n n', shown a = some (k, n) → shown b = some (k, n') → n ≤ n'

/-- No version goes back in a run. -/
lemma Fencing.run_grows (fencing : Fencing step Inv version shown) (inv : Inv s)
    (run : Run step ok s s') (known : version s k = some n) :
    ∃ n', version s' k = some n' ∧ n ≤ n' := by
  have both : Inv s' ∧ ∃ n', version s' k = some n' ∧ n ≤ n' := by
    refine run.invariant (fun t => Inv t ∧ ∃ n', version t k = some n' ∧ n ≤ n')
      ⟨inv, n, known, Nat.le_refl n⟩ fun t a t' now _ taken => ?_
    obtain ⟨inv, m, has, up⟩ := now
    obtain ⟨m', has', up'⟩ := fencing.grows inv taken has
    exact ⟨fencing.keeps inv taken, m', has', Nat.le_trans up up'⟩
  exact both.2

/-- An action that is taken in a later state shows no earlier version. -/
lemma Fencing.inOrder (fencing : Fencing step Inv version shown) (inv : Inv s)
    (taken : step s a = some t) (run : Run step ok s s') (taken' : step s' b = some t') :
    ShownInOrder shown a b := by
  intro k n n' shows shows'
  obtain ⟨m, has, up⟩ := fencing.run_grows inv run (fencing.checks taken shows)
  have same : m = n' := Option.some.inj (has.symm.trans (fencing.checks taken' shows'))
  exact same ▸ up

/-- What the actions of a run show is in order. -/
lemma Fencing.pairwise {s₀ : σ} {w : σ × List α} {okw : σ × List α → α → Prop}
    (fencing : Fencing step Inv version shown) (start : Inv s₀)
    (run : Run (withHistory step fun _ a _ => [a]) okw (s₀, []) w) :
    w.2.Pairwise (ShownInOrder shown) := by
  -- what was shown of a key is not later than its version
  have all : Inv w.1 ∧ w.2.Pairwise (ShownInOrder shown) ∧
      ∀ a ∈ w.2, ∀ k n, shown a = some (k, n) → ∃ m, version w.1 k = some m ∧ n ≤ m := by
    induction run with
    | start => exact ⟨start, .nil, fun _ none => by cases none⟩
    | @next w b w' _ _ taken ih =>
      obtain ⟨inv, ordered, past⟩ := ih
      obtain ⟨taken, history⟩ := withHistory_eq_some.1 taken
      rw [history]
      refine ⟨fencing.keeps inv taken,
        List.pairwise_append.2 ⟨ordered, List.pairwise_singleton _ _, ?_⟩, ?_⟩
      · intro a member c last k n n' shows shows'
        obtain rfl := List.mem_singleton.1 last
        obtain ⟨m, has, up⟩ := past a member k n shows
        have same : m = n' := Option.some.inj (has.symm.trans (fencing.checks taken shows'))
        exact same ▸ up
      · intro a member k n shows
        have before : ∃ m, version w.1 k = some m ∧ n ≤ m := by
          rcases List.mem_append.1 member with old | new
          · exact past a old k n shows
          · obtain rfl := List.mem_singleton.1 new
            exact ⟨n, fencing.checks taken shows, Nat.le_refl n⟩
        obtain ⟨m, has, up⟩ := before
        obtain ⟨m', has', up'⟩ := fencing.grows inv taken has
        exact ⟨m', has', Nat.le_trans up up'⟩
  exact all.2.1

end Lib
