import TransceiverRegistry.Compat.Approval
import Mathlib.Data.Prod.Lex

/-!
# The order of the rules

The rules are sorted by their priorities and ids before the first of them is evaluated, so the order
they are supplied in shows nowhere in a decision. As long as the budget of the query drops no rule,
the priorities order the lists of a decision only, not the answer.
-/

namespace TransceiverRegistry

open Lib

/-- Give the rules priorities. -/
def CompatRuleRecord.prioritised (priority : RuleId → Int32) (record : CompatRuleRecord) :
    CompatRuleRecord :=
  { record with rule := { record.rule with priority := priority record.id } }

section Order

variable {rules rules' : List CompatRuleRecord} {query : CompatQuery}
  {resolver : AttributeResolver} {generation : Generation} {now : WallNs} {domain : ClockDomainId}

/-- What the comparator compares (source `evaluate_compatibility`, the comparator). -/
def CompatRuleRecord.rank (record : CompatRuleRecord) : Lex (Int × Nat) :=
  toLex (-record.rule.priority.toInt, record.id.toNat)

/-- The comparator compares ranks (source `evaluate_compatibility`, the comparator). -/
lemma before_iff_rank (a b : CompatRuleRecord) : a.before b = true ↔ a.rank < b.rank := by
  rw [CompatRuleRecord.rank, CompatRuleRecord.rank, Prod.Lex.toLex_lt_toLex]
  unfold CompatRuleRecord.before
  by_cases same : a.rule.priority = b.rule.priority
  · rw [if_neg (not_not.2 same), same]
    simp [UInt32.lt_iff_toNat_lt]
  · have differ : a.rule.priority.toInt ≠ b.rule.priority.toInt := fun h => same (Int32.toInt_inj.1 h)
    rw [if_pos same, decide_eq_true_iff, Int32.lt_iff_toInt_lt]
    simp only [Int.neg_lt_neg_iff, Int.neg_inj, differ, false_and, or_false]

/-- The comparator is a strict weak order (source `evaluate_compatibility`, the comparator). -/
lemma before_weak (l : List CompatRuleRecord) : StrictWeakOn CompatRuleRecord.before l :=
  strictWeakOn_rank CompatRuleRecord.rank before_iff_rank l

/-- Rules that the comparator does not order have one id (source `evaluate_compatibility`, the
comparator). -/
lemma id_eq_of_not_before {a b : CompatRuleRecord} (ab : a.before b = false)
    (ba : b.before a = false) : a.id = b.id := by
  rw [← Bool.not_eq_true, before_iff_rank, not_lt] at ab ba
  have same : a.rank = b.rank := le_antisymm ba ab
  exact UInt32.toNat_inj.1 (congrArg (fun rank => (ofLex rank).2) same)

/-- Rules with distinct ids are sorted one way (source `evaluate_compatibility`, `ordered`). -/
lemma orderedRules_perm [StdSort] (distinct : (rules.map (·.id)).Nodup)
    (perm : rules.Perm rules') : orderedRules rules = orderedRules rules' := by
  refine StdSort.sort_congr (before_weak _) (perm.filter _) fun a ha b hb ab ba => ?_
  have inRules := List.inj_on_of_nodup_map distinct
  exact inRules (List.mem_of_mem_filter ha) (List.mem_of_mem_filter hb) (id_eq_of_not_before ab ba)

instance : Std.LawfulEqCmp compareReference where
  eq_of_compare {a b} h := by
    simp only [compareReference, compareLex, compareOn, Ordering.then_eq_eq,
      Std.LawfulEqCmp.compare_eq_iff_eq] at h
    obtain ⟨subject, key, subkey⟩ := h
    exact Prod.ext (code_injective subject) (Prod.ext (code_injective key) subkey)

/-- The attributes that rules refer to are those of their requirements (source `digest_inputs`,
`references`). -/
lemma mem_attributeReferences {reference : AttributeReference} :
    reference ∈ attributeReferences rules ↔ ∃ record ∈ rules,
      ∃ r ∈ record.rule.requirements, (r.subject, r.key, r.subkey) = reference := by
  rw [attributeReferences, Std.ExtTreeSet.mem_toList, Std.ExtTreeSet.mem_ofList]
  simp

/-- The attributes that rules refer to are a set (source `digest_inputs`, `references`). -/
lemma attributeReferences_congr (same : ∀ reference,
    reference ∈ attributeReferences rules ↔ reference ∈ attributeReferences rules') :
    attributeReferences rules = attributeReferences rules' := by
  refine congrArg Std.ExtTreeSet.toList (Std.ExtTreeSet.ext_mem fun reference => ?_)
  rw [← Std.ExtTreeSet.mem_toList, ← Std.ExtTreeSet.mem_toList]
  exact same reference

/-- The knowledge that rules depend on does not depend on their order (source `digest_inputs`). -/
lemma digestInputs_perm (perm : rules.Perm rules') :
    digestInputs query rules resolver = digestInputs query rules' resolver := by
  have same : attributeReferences rules = attributeReferences rules' := by
    apply attributeReferences_congr
    intro reference
    simp only [mem_attributeReferences, perm.mem_iff]
  unfold digestInputs
  rw [same]

/-- When the budget drops no rule, the rules considered are all those that apply (source
`evaluate_compatibility`, `ordered.resize`). -/
lemma mem_consideredRules [StdSort]
    (room : (rules.filter (·.applies)).length ≤ query.maxRules.toNat) {record : CompatRuleRecord} :
    record ∈ consideredRules query rules ↔ record ∈ rules ∧ record.applies = true := by
  have all : (orderedRules rules).length ≤ query.maxRules.toNat := by
    rw [orderedRules, (StdSort.perm _ _).length_eq]
    exact room
  rw [consideredRules, List.take_of_length_le all, mem_orderedRules]

/-- When the budget drops no rule, the answer is the same for all priorities (source
`evaluate_compatibility`). -/
lemma answer_prioritised [StdSort] (priority : RuleId → Int32)
    (room : (rules.filter (·.applies)).length ≤ query.maxRules.toNat) :
    (scanRules resolver (consideredRules query (rules.map (·.prioritised priority)))).answer =
      (scanRules resolver (consideredRules query rules)).answer := by
  have room' : ((rules.map (·.prioritised priority)).filter (·.applies)).length ≤
      query.maxRules.toNat := by
    rw [List.filter_map, List.length_map]
    exact room
  have same (p : CompatRuleRecord → Prop)
      (kept : ∀ record, p (record.prioritised priority) ↔ p record) :
      (∃ record ∈ consideredRules query (rules.map (·.prioritised priority)), p record) ↔
        ∃ record ∈ consideredRules query rules, p record := by
    constructor
    · rintro ⟨record, member, holds⟩
      rw [mem_consideredRules room'] at member
      obtain ⟨mapped, applies⟩ := member
      obtain ⟨record, inRules, rfl⟩ := List.mem_map.1 mapped
      exact ⟨record, (mem_consideredRules room).2 ⟨inRules, applies⟩, (kept record).1 holds⟩
    · rintro ⟨record, member, holds⟩
      obtain ⟨inRules, applies⟩ := (mem_consideredRules room).1 member
      exact ⟨record.prioritised priority,
        (mem_consideredRules room').2 ⟨List.mem_map_of_mem inRules, applies⟩, (kept record).2 holds⟩
  obtain ⟨denies, unsupported, allows, waits⟩ := scanRules_buckets resolver
    (consideredRules query (rules.map (·.prioritised priority)))
  obtain ⟨denies', unsupported', allows', waits'⟩ := scanRules_buckets resolver
    (consideredRules query rules)
  apply RuleScan.answer_congr
  · rw [denies, denies']
    exact same _ fun _ => Iff.rfl
  · rw [unsupported, unsupported']
    exact same _ fun _ => Iff.rfl
  · rw [allows, allows']
    exact same _ fun _ => Iff.rfl
  · rw [waits, waits']
    exact same _ fun _ => Iff.rfl

/-- A decision does not depend on the order of rules with distinct ids, and as long as the budget
drops no rule its outcome and its closure do not depend on the priorities (source
`evaluate_compatibility`). -/
theorem decision_order_free [StdSort] (distinct : (rules.map (·.id)).Nodup)
    (perm : rules.Perm rules') (query : CompatQuery) (resolver : AttributeResolver)
    (generation : Generation) (now : WallNs) (domain : ClockDomainId) :
    evaluateCompatibility query rules resolver generation now domain =
        evaluateCompatibility query rules' resolver generation now domain ∧
      ∀ priority : RuleId → Int32,
        (rules.filter (·.applies)).length ≤ query.maxRules.toNat →
        (evaluateCompatibility query (rules.map (·.prioritised priority)) resolver generation now
            domain).outcome =
          (evaluateCompatibility query rules resolver generation now domain).outcome ∧
        (evaluateCompatibility query (rules.map (·.prioritised priority)) resolver generation now
            domain).closure =
          (evaluateCompatibility query rules resolver generation now domain).closure := by
  constructor
  · have considered : consideredRules query rules = consideredRules query rules' := by
      rw [consideredRules, orderedRules_perm distinct perm, ← consideredRules]
    unfold evaluateCompatibility
    rw [considered, digestInputs_perm perm]
  · intro priority room
    rw [outcome_eq, outcome_eq, closure_eq, closure_eq, answer_prioritised priority room]
    exact ⟨rfl, rfl⟩

end Order

/-- Two rules about the lane count are evaluated the same in both orders and under other
priorities. -/
theorem decision_order_free_lane_count :
    evaluateCompatibility { narrowQuery with maxRules := 2 }
        [laneCountRule 1 .compatible 10, laneCountRule 2 .incompatible 0] sampleResolver 1 0 0 =
      evaluateCompatibility { narrowQuery with maxRules := 2 }
        [laneCountRule 2 .incompatible 0, laneCountRule 1 .compatible 10] sampleResolver 1 0 0 ∧
    (evaluateCompatibility { narrowQuery with maxRules := 2 }
        ([laneCountRule 1 .compatible 10, laneCountRule 2 .incompatible 0].map
          (·.prioritised fun _ => 7)) sampleResolver 1 0 0).outcome =
      (evaluateCompatibility { narrowQuery with maxRules := 2 }
        [laneCountRule 1 .compatible 10, laneCountRule 2 .incompatible 0] sampleResolver 1 0
        0).outcome := by
  have distinct : ([laneCountRule 1 .compatible 10, laneCountRule 2 .incompatible 0].map
      (·.id)).Nodup := by decide
  obtain ⟨order, priorities⟩ := decision_order_free distinct (List.Perm.swap ..)
    { narrowQuery with maxRules := 2 } sampleResolver 1 0 0
  exact ⟨order, (priorities (fun _ => 7) (by decide)).1⟩

end TransceiverRegistry
