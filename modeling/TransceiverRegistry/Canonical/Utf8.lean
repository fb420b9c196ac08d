import TransceiverRegistry.Canonical.Value
import TransceiverRegistry.Lib.Utf8

/-!
# The texts that are accepted

The validator of texts accepts the concatenations of encodings of Unicode scalar values and nothing
else. It is modelled a second time with the positions it reads, to show that it reads no byte behind
the end of a text.
-/

namespace TransceiverRegistry

open Lib

/-- The continuation bytes after the first, `count` of them from position `i`; nothing when a byte
behind the end is read (source `is_valid_utf8`, the inner loop). -/
def continuationsAt (data : Bytes) : (count i : Nat) → Option Bool
  | 0, _ => some true
  | count + 1, i => do
    let continuation ← data[i]?
    if continuation < 0x80 ∨ 0xbf < continuation then return false
    continuationsAt data count (i + 1)

/-- The validator from position `i`; nothing when a byte behind the end is read
(source `is_valid_utf8`). -/
def isValidUtf8At (data : Bytes) (i : Nat) : Option Bool :=
  if i < data.length then do
    let byte ← data[i]?
    if byte < 0x80 then isValidUtf8At data (i + 1)
    else match utf8Lead byte with
      | none => return false
      | some (extra, lower, upper) =>
        if data.length ≤ i + extra then return false
        let first ← data[i + 1]?
        if first < lower ∨ upper < first then return false
        if ← continuationsAt data (extra - 1) (i + 2) then isValidUtf8At data (i + extra + 1)
        else return false
  else some true
termination_by data.length - i

variable {t : Bytes} {b : UInt8} {n : Nat} {lower upper : UInt8}

/-- The leading bytes (source `is_valid_utf8`). -/
lemma utf8Lead_eq_some (lead : utf8Lead b = some (n, lower, upper)) :
    n = 1 ∧ lower = 0x80 ∧ upper = 0xbf ∧ 0xc2 ≤ b ∧ b ≤ 0xdf ∨
    n = 2 ∧ (lower = 0xa0 ∧ upper = 0xbf ∧ b = 0xe0 ∨
      lower = 0x80 ∧ upper = 0xbf ∧ 0xe1 ≤ b ∧ b ≤ 0xec ∨
      lower = 0x80 ∧ upper = 0x9f ∧ b = 0xed ∨
      lower = 0x80 ∧ upper = 0xbf ∧ 0xee ≤ b ∧ b ≤ 0xef) ∨
    n = 3 ∧ (lower = 0x90 ∧ upper = 0xbf ∧ b = 0xf0 ∨
      lower = 0x80 ∧ upper = 0xbf ∧ 0xf1 ≤ b ∧ b ≤ 0xf3 ∨
      lower = 0x80 ∧ upper = 0x8f ∧ b = 0xf4) := by
  unfold utf8Lead at lead
  split_ifs at lead with two e0 e1 ed ee f0 f1 f4 <;> cases lead
  · exact .inl ⟨rfl, rfl, rfl, two⟩
  · exact .inr (.inl ⟨rfl, .inl ⟨rfl, rfl, e0⟩⟩)
  · exact .inr (.inl ⟨rfl, .inr (.inl ⟨rfl, rfl, e1⟩)⟩)
  · exact .inr (.inl ⟨rfl, .inr (.inr (.inl ⟨rfl, rfl, ed⟩))⟩)
  · exact .inr (.inl ⟨rfl, .inr (.inr (.inr ⟨rfl, rfl, ee⟩))⟩)
  · exact .inr (.inr ⟨rfl, .inl ⟨rfl, rfl, f0⟩⟩)
  · exact .inr (.inr ⟨rfl, .inr (.inl ⟨rfl, rfl, f1⟩)⟩)
  · exact .inr (.inr ⟨rfl, .inr (.inr ⟨rfl, rfl, f4⟩)⟩)

/-- A text that ends inside a sequence is refused (source `is_valid_utf8`, the test of the size). -/
lemma utf8From_short (short : t.length < n) : utf8From n lower upper t = false := by
  induction t generalizing n lower upper with
  | nil =>
    cases n with
    | zero => cases short
    | succ n => rfl
  | cons b rest ih =>
    cases n with
    | zero => cases short
    | succ n =>
      rw [utf8From, ih (Nat.lt_of_succ_lt_succ short), ite_self]

/-- A byte is outside its bounds (source `is_valid_utf8`). -/
lemma outside_iff : b < lower ∨ upper < b ↔ ¬ (lower ≤ b ∧ b ≤ upper) := by
  rw [not_and_or, UInt8.not_le, UInt8.not_le]

/-- A byte is inside its bounds (source `is_valid_utf8`). -/
lemma not_outside_iff : ¬ (b < lower ∨ upper < b) ↔ lower ≤ b ∧ b ≤ upper := by
  rw [outside_iff, not_not]

/-- A continuation byte (source `is_valid_utf8`). -/
lemma utf8From_succ {rest : Bytes} : utf8From (n + 1) lower upper (b :: rest) =
    (decide (lower ≤ b ∧ b ≤ upper) && utf8From n 0x80 0xbf rest) := by
  by_cases inside : lower ≤ b ∧ b ≤ upper
  · rw [utf8From, if_neg (not_outside_iff.2 inside), decide_eq_true inside, Bool.true_and]
  · rw [utf8From, if_pos (outside_iff.2 inside), decide_eq_false inside, Bool.false_and]

/-- The inner loop reads inside a text that is long enough, and tells whether the bytes continue the
sequence (source `is_valid_utf8`, the inner loop). -/
lemma continuationsAt_eq {data : Bytes} {i : Nat} (fits : i + n ≤ data.length) :
    ∃ good, continuationsAt data n i = some good ∧ utf8From n 0x80 0xbf (data.drop i) =
      (good && utf8From 0 0x80 0xbf (data.drop (i + n))) := by
  induction n generalizing i with
  | zero => exact ⟨true, rfl, (Bool.true_and _).symm⟩
  | succ n ih =>
    have here : i < data.length := by omega
    obtain ⟨good, scanned, same⟩ := @ih (i + 1) (by omega)
    rw [continuationsAt, List.getElem?_eq_getElem here, Option.bind_eq_bind, Option.bind_some,
      List.drop_eq_getElem_cons here, utf8From_succ]
    by_cases inside : 0x80 ≤ data[i] ∧ data[i] ≤ 0xbf
    · refine ⟨good, ?_, ?_⟩
      · rw [if_neg (not_outside_iff.2 inside)]
        exact scanned
      · rw [decide_eq_true inside, Bool.true_and, same, Nat.add_right_comm, Nat.add_assoc]
    · refine ⟨false, ?_, ?_⟩
      · rw [if_pos (outside_iff.2 inside)]
        rfl
      · rw [decide_eq_false inside, Bool.false_and, Bool.false_and]

/-- The validator reads inside the text (source `is_valid_utf8`). -/
lemma isValidUtf8At_eq {data : Bytes} {i : Nat} :
    isValidUtf8At data i = some (utf8From 0 0x80 0xbf (data.drop i)) := by
  induction left : data.length - i using Nat.strong_induction_on generalizing i with
  | _ m ih =>
    rw [isValidUtf8At]
    by_cases here : i < data.length
    swap
    · rw [if_neg here, List.drop_eq_nil_of_le (Nat.not_lt.1 here), utf8From]
    have rest {j : Nat} (later : i < j) :
        isValidUtf8At data j = some (utf8From 0 0x80 0xbf (data.drop j)) :=
      ih (data.length - j) (by omega) rfl
    rw [if_pos here, List.getElem?_eq_getElem here, Option.bind_eq_bind, Option.bind_some,
      List.drop_eq_getElem_cons here, utf8From]
    by_cases ascii : data[i] < 0x80
    · rw [if_pos ascii, if_pos ascii, rest (Nat.lt_succ_self i)]
    rw [if_neg ascii, if_neg ascii]
    cases lead : utf8Lead data[i] with
    | none => rfl
    | some found =>
      obtain ⟨extra, lower, upper⟩ := found
      obtain ⟨k, rfl⟩ : ∃ k, extra = k + 1 := by
        rcases utf8Lead_eq_some lead with ⟨rfl, _⟩ | ⟨rfl, _⟩ | ⟨rfl, _⟩ <;> exact ⟨_, rfl⟩
      by_cases torn : data.length ≤ i + (k + 1)
      · have short : (data.drop (i + 1)).length < k + 1 := by
          rw [List.length_drop]
          omega
        simp only [if_pos torn, utf8From_short short]
        rfl
      have next : i + 1 < data.length := by omega
      obtain ⟨good, scanned, same⟩ := @continuationsAt_eq k data (i + 2) (by omega)
      simp only [if_neg torn, List.getElem?_eq_getElem next, Option.bind_eq_bind, Option.bind_some,
        List.drop_eq_getElem_cons next, utf8From_succ, same]
      by_cases inside : lower ≤ data[i + 1] ∧ data[i + 1] ≤ upper
      · rw [if_neg (not_outside_iff.2 inside), decide_eq_true inside, Bool.true_and,
          Nat.add_sub_cancel, scanned, Option.bind_some]
        cases good with
        | false => rfl
        | true =>
          have place : i + (k + 1) + 1 = i + 2 + k := by omega
          rw [if_pos rfl, rest (by omega), Bool.true_and, place]
      · rw [if_pos (outside_iff.2 inside), decide_eq_false inside]
        rfl

/-- A leading byte is not a seven-bit byte (source `is_valid_utf8`). -/
lemma utf8Lead_ascii : ∀ b : UInt8, b < 0x80 → utf8Lead b = none := forall_uint8 (by decide +kernel)

/-- The continuation bytes of a leading byte follow it (source `is_valid_utf8`). -/
lemma utf8From_lead {rest : Bytes} (lead : utf8Lead b = some (n, lower, upper)) :
    utf8From 0 0x80 0xbf (b :: rest) = utf8From n lower upper rest := by
  have long : ¬ b < 0x80 := by
    intro ascii
    rw [utf8Lead_ascii b ascii] at lead
    cases lead
  rw [utf8From, if_neg long, lead]

/-- The leading bytes of two (source `is_valid_utf8`). -/
lemma utf8Lead_two : ∀ b : UInt8, 0xc2 ≤ b ∧ b ≤ 0xdf → utf8Lead b = some (1, 0x80, 0xbf) :=
  forall_uint8 (by decide +kernel)

/-- The leading bytes of three whose continuation is not narrowed (source `is_valid_utf8`). -/
lemma utf8Lead_three : ∀ b : UInt8, (0xe1 ≤ b ∧ b ≤ 0xec) ∨ (0xee ≤ b ∧ b ≤ 0xef) →
    utf8Lead b = some (2, 0x80, 0xbf) :=
  forall_uint8 (by decide +kernel)

/-- The leading bytes of four whose continuation is not narrowed (source `is_valid_utf8`). -/
lemma utf8Lead_four : ∀ b : UInt8, 0xf1 ≤ b ∧ b ≤ 0xf3 → utf8Lead b = some (3, 0x80, 0xbf) :=
  forall_uint8 (by decide +kernel)

/-- The validator skips the encoding of a scalar value (source `is_valid_utf8`). -/
lemma utf8From_encode (c : Char) (rest : Bytes) :
    utf8From 0 0x80 0xbf (String.utf8EncodeChar c ++ rest) = utf8From 0 0x80 0xbf rest := by
  rcases encode_shape c with ⟨b0, encoded⟩ | ⟨b0, b1, encoded⟩ | ⟨b0, b1, b2, encoded⟩ |
    ⟨b0, b1, b2, b3, encoded⟩
  · have ascii := encodes_one.1 ⟨c, encoded⟩
    rw [encoded, List.singleton_append, utf8From, if_pos ascii]
  · obtain ⟨lead, second⟩ := encodes_two.1 ⟨c, encoded⟩
    rw [encoded, List.cons_append, utf8From_lead (utf8Lead_two b0 lead), List.singleton_append,
      utf8From_succ, decide_eq_true second, Bool.true_and]
  · obtain ⟨first, third⟩ := encodes_three.1 ⟨c, encoded⟩
    obtain ⟨lower, upper, lead, second⟩ : ∃ lower upper, utf8Lead b0 = some (2, lower, upper) ∧
        lower ≤ b1 ∧ b1 ≤ upper := by
      rcases first with ⟨rfl, second⟩ | ⟨lead, second⟩ | ⟨rfl, second⟩ | ⟨lead, second⟩
      · exact ⟨0xa0, 0xbf, rfl, second⟩
      · exact ⟨0x80, 0xbf, utf8Lead_three b0 (.inl lead), second⟩
      · exact ⟨0x80, 0x9f, rfl, second⟩
      · exact ⟨0x80, 0xbf, utf8Lead_three b0 (.inr lead), second⟩
    rw [encoded, List.cons_append, utf8From_lead lead, List.cons_append, List.singleton_append,
      utf8From_succ, utf8From_succ, decide_eq_true second, decide_eq_true third, Bool.true_and,
      Bool.true_and]
  · obtain ⟨first, third, fourth⟩ := encodes_four.1 ⟨c, encoded⟩
    obtain ⟨lower, upper, lead, second⟩ : ∃ lower upper, utf8Lead b0 = some (3, lower, upper) ∧
        lower ≤ b1 ∧ b1 ≤ upper := by
      rcases first with ⟨rfl, second⟩ | ⟨lead, second⟩ | ⟨rfl, second⟩
      · exact ⟨0x90, 0xbf, rfl, second⟩
      · exact ⟨0x80, 0xbf, utf8Lead_four b0 lead, second⟩
      · exact ⟨0x80, 0x8f, rfl, second⟩
    rw [encoded, List.cons_append, utf8From_lead lead, List.cons_append, List.cons_append,
      List.singleton_append, utf8From_succ, utf8From_succ, utf8From_succ, decide_eq_true second,
      decide_eq_true third, decide_eq_true fourth, Bool.true_and, Bool.true_and, Bool.true_and]

/-- A sequence that is accepted goes on with a byte inside its bounds (source `is_valid_utf8`). -/
lemma exists_of_utf8From_succ (valid : utf8From (n + 1) lower upper t = true) :
    ∃ b rest, t = b :: rest ∧ (lower ≤ b ∧ b ≤ upper) ∧ utf8From n 0x80 0xbf rest = true := by
  cases t with
  | nil => cases valid
  | cons b rest =>
    rw [utf8From_succ, Bool.and_eq_true, decide_eq_true_iff] at valid
    exact ⟨b, rest, rfl, valid⟩

/-- A text that the validator accepts starts with the encoding of a scalar value
(source `is_valid_utf8`). -/
lemma exists_encode_of_valid {rest : Bytes} (valid : utf8From 0 0x80 0xbf (b :: rest) = true) :
    ∃ c rest', b :: rest = String.utf8EncodeChar c ++ rest' ∧
      utf8From 0 0x80 0xbf rest' = true := by
  by_cases ascii : b < 0x80
  · obtain ⟨c, encoded⟩ := encodes_one.2 ascii
    rw [utf8From, if_pos ascii] at valid
    exact ⟨c, rest, by rw [encoded, List.singleton_append], valid⟩
  cases lead : utf8Lead b with
  | none =>
    rw [utf8From, if_neg ascii, lead] at valid
    cases valid
  | some found =>
    obtain ⟨extra, lower, upper⟩ := found
    rw [utf8From_lead lead] at valid
    rcases utf8Lead_eq_some lead with ⟨rfl, rfl, rfl, first⟩ | ⟨rfl, first⟩ | ⟨rfl, first⟩
    · obtain ⟨b1, rest', rfl, second, valid⟩ := exists_of_utf8From_succ valid
      obtain ⟨c, encoded⟩ := encodes_two.2 ⟨first, second⟩
      exact ⟨c, rest', by rw [encoded]; rfl, valid⟩
    · obtain ⟨b1, rest', rfl, second, valid⟩ := exists_of_utf8From_succ valid
      obtain ⟨b2, rest', rfl, third, valid⟩ := exists_of_utf8From_succ valid
      obtain ⟨c, encoded⟩ : ∃ c, String.utf8EncodeChar c = [b, b1, b2] := by
        refine encodes_three.2 ⟨?_, third⟩
        rcases first with ⟨rfl, rfl, rfl⟩ | ⟨rfl, rfl, first⟩ | ⟨rfl, rfl, rfl⟩ | ⟨rfl, rfl, first⟩
        · exact .inl ⟨rfl, second⟩
        · exact .inr (.inl ⟨first, second⟩)
        · exact .inr (.inr (.inl ⟨rfl, second⟩))
        · exact .inr (.inr (.inr ⟨first, second⟩))
      exact ⟨c, rest', by rw [encoded]; rfl, valid⟩
    · obtain ⟨b1, rest', rfl, second, valid⟩ := exists_of_utf8From_succ valid
      obtain ⟨b2, rest', rfl, third, valid⟩ := exists_of_utf8From_succ valid
      obtain ⟨b3, rest', rfl, fourth, valid⟩ := exists_of_utf8From_succ valid
      obtain ⟨c, encoded⟩ : ∃ c, String.utf8EncodeChar c = [b, b1, b2, b3] := by
        refine encodes_four.2 ⟨?_, third, fourth⟩
        rcases first with ⟨rfl, rfl, rfl⟩ | ⟨rfl, rfl, first⟩ | ⟨rfl, rfl, rfl⟩
        · exact .inl ⟨rfl, second⟩
        · exact .inr (.inl ⟨first, second⟩)
        · exact .inr (.inr ⟨rfl, second⟩)
      exact ⟨c, rest', by rw [encoded]; rfl, valid⟩

/-- The validator accepts the encodings of Unicode scalar values and nothing else
(source `is_valid_utf8`). -/
lemma isValidUtf8_iff :
    isValidUtf8 t = true ↔ ∃ scalars : List Char, t = scalars.flatMap String.utf8EncodeChar := by
  constructor
  · intro valid
    induction size : t.length using Nat.strong_induction_on generalizing t with
    | _ m ih =>
      cases t with
      | nil => exact ⟨[], rfl⟩
      | cons b rest =>
        obtain ⟨c, rest', split, valid⟩ := exists_encode_of_valid valid
        have some := List.length_pos_iff.2 (String.utf8EncodeChar_ne_nil (c := c))
        have shorter : rest'.length < m := by
          rw [← size, split, List.length_append]
          omega
        obtain ⟨scalars, encoded⟩ := ih rest'.length shorter valid rfl
        exact ⟨c :: scalars, by rw [split, encoded, List.flatMap_cons]⟩
  · rintro ⟨scalars, rfl⟩
    rw [isValidUtf8]
    induction scalars with
    | nil => rfl
    | cons c rest ih => rw [List.flatMap_cons, utf8From_encode, ih]

/-- A text is accepted exactly when it is a concatenation of encodings of Unicode scalar values, and no
byte behind its end is read (source `is_valid_utf8`). -/
theorem isValidUtf8_exact (t : Bytes) :
    (isValidUtf8 t = true ↔ ∃ scalars : List Char, t = scalars.flatMap String.utf8EncodeChar) ∧
      isValidUtf8At t 0 = some (isValidUtf8 t) :=
  ⟨isValidUtf8_iff, isValidUtf8At_eq⟩

end TransceiverRegistry
