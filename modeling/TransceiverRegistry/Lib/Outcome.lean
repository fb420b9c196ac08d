import Mathlib.Tactic.Common

/-!
# Early returns

A function that answers with a value or gives up with an error is a computation in `Except`. The
two combinators below write the early return of a failed check and of a failed lookup, and the
lemmas invert a successful computation: each check it passed and each value it found.
-/

namespace Lib

variable {ε α β : Type}

/-- Give up with `e` when the check `c` holds. -/
def refuseIf (c : Prop) [Decidable c] (e : ε) : Except ε Unit :=
  if c then .error e else .ok ()

/-- The value found, or the error of a failed lookup. -/
def orRefuse (o : Option α) (e : ε) : Except ε α :=
  match o with
  | some a => .ok a
  | none => .error e

/-- A sequence succeeds when both of its parts do. -/
lemma bind_eq_ok {x : Except ε α} {f : α → Except ε β} {b : β} :
    (x >>= f) = .ok b ↔ ∃ a, x = .ok a ∧ f a = .ok b := by
  cases x with
  | error e => simp [bind, Except.bind]
  | ok a => simp [bind, Except.bind]

/-- A sequence fails when one of its parts does. -/
lemma bind_eq_error {x : Except ε α} {f : α → Except ε β} {e : ε} :
    (x >>= f) = .error e ↔ x = .error e ∨ ∃ a, x = .ok a ∧ f a = .error e := by
  cases x with
  | error e => simp [bind, Except.bind]
  | ok a => simp [bind, Except.bind]

/-- A sequence that starts with a value goes on with it. -/
lemma ok_bind {a : α} {f : α → Except ε β} : ((.ok a : Except ε α) >>= f) = f a := rfl

/-- A sequence that starts with an error stops there. -/
lemma error_bind {e : ε} {f : α → Except ε β} : ((.error e : Except ε α) >>= f) = .error e := rfl

/-- A check is passed when its condition fails. -/
@[simp] lemma refuseIf_eq_ok {c : Prop} [Decidable c] {e : ε} {u : Unit} :
    refuseIf c e = .ok u ↔ ¬ c := by
  unfold refuseIf
  split <;> simp_all

/-- A check fails with its own error when its condition holds. -/
lemma refuseIf_eq_error {c : Prop} [Decidable c] {e e' : ε} :
    refuseIf c e = .error e' ↔ c ∧ e = e' := by
  unfold refuseIf
  split <;> simp_all

/-- A sequence that starts with a check passes the check. -/
lemma refuseIf_bind_eq_ok {c : Prop} [Decidable c] {e : ε} {f : Unit → Except ε β} {b : β} :
    (refuseIf c e >>= f) = .ok b ↔ ¬ c ∧ f () = .ok b := by
  simp only [bind_eq_ok, refuseIf_eq_ok]
  exact ⟨fun ⟨_, h, h'⟩ => ⟨h, h'⟩, fun ⟨h, h'⟩ => ⟨(), h, h'⟩⟩

/-- An optional result is there when the computation succeeds. -/
lemma toOption_eq_some {x : Except ε α} {a : α} : x.toOption = some a ↔ x = .ok a := by
  cases x <;> simp [Except.toOption]

/-- A computation whose answer passes a test succeeds. -/
lemma exists_ok_of_any {x : Except ε α} {p : α → Bool} (h : x.toOption.any p = true) :
    ∃ a, x = .ok a ∧ p a = true := by
  cases x with
  | error e => cases h
  | ok a => exact ⟨a, rfl, h⟩

/-- A check whose condition fails does nothing. -/
lemma refuseIf_of_not {c : Prop} [Decidable c] {e : ε} (h : ¬ c) : refuseIf c e = .ok () :=
  if_neg h

/-- A lookup succeeds with the value it found. -/
@[simp] lemma orRefuse_eq_ok {o : Option α} {e : ε} {a : α} :
    orRefuse o e = .ok a ↔ o = some a := by
  cases o <;> simp [orRefuse]

/-- A lookup fails with its own error when it finds nothing. -/
lemma orRefuse_eq_error {o : Option α} {e e' : ε} :
    (orRefuse o e : Except ε α) = .error e' ↔ o = none ∧ e = e' := by
  cases o <;> simp [orRefuse]

/-- A sequence that starts with a lookup found a value. -/
lemma orRefuse_bind_eq_ok {o : Option α} {e : ε} {f : α → Except ε β} {b : β} :
    (orRefuse o e >>= f) = .ok b ↔ ∃ a, o = some a ∧ f a = .ok b := by
  simp [bind_eq_ok]

/-- Keeping the first part of a result keeps its success. -/
lemma fst_map_eq_ok {x : Except ε (α × β)} {a : α} :
    Prod.fst <$> x = .ok a ↔ ∃ b, x = .ok (a, b) := by
  cases x with
  | error e => simp [Functor.map, Except.map]
  | ok p =>
    obtain ⟨a', b⟩ := p
    simp [Functor.map, Except.map]

/-- Run a check on every element of a list, up to the first one that fails. -/
def forEach (f : α → Except ε Unit) : List α → Except ε Unit
  | [] => .ok ()
  | a :: rest => f a >>= fun _ => forEach f rest

/-- A list passes a check when each of its elements does. -/
@[simp] lemma forEach_eq_ok {f : α → Except ε Unit} {l : List α} {u : Unit} :
    forEach f l = .ok u ↔ ∀ a ∈ l, f a = .ok () := by
  induction l with
  | nil => simp [forEach]
  | cons a rest ih =>
    simp only [forEach, bind_eq_ok, List.mem_cons, forall_eq_or_imp, ih]
    exact ⟨fun ⟨_, h, h'⟩ => ⟨h, h'⟩, fun ⟨h, h'⟩ => ⟨(), h, h'⟩⟩

/-- Whatever a computation answers has a property. -/
def Ensures (x : Except ε α) (p : α → Prop) : Prop := ∀ a, x = .ok a → p a

/-- An answer has the property it has. -/
lemma Ensures.ok {a : α} {p : α → Prop} (h : p a) : Ensures (.ok a : Except ε α) p := by
  intro b e
  cases e
  exact h

/-- The answers of a sequence are those of its last part. -/
lemma Ensures.bind {x : Except ε α} {f : α → Except ε β} {p : β → Prop}
    (rest : ∀ a, x = .ok a → Ensures (f a) p) : Ensures (x >>= f) p := by
  intro b e
  obtain ⟨a, first, later⟩ := bind_eq_ok.1 e
  exact rest a first b later

end Lib
