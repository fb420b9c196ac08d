import TransceiverRegistry.Registry.Trim

/-!
# Live claims and live declarations

Port of `claim_shadowed`, `live_claims`, `declaration_shadowed` and `live_declarations` of
`registry.cpp`. The trims and the queries read one relation: a later statement of the same source
incarnation about the same attribute covers an earlier one.
-/

namespace TransceiverRegistry

open Lib

/-- A claim revises an earlier claim (source the condition of `claim_is_superseded` and of
`claim_shadowed`). -/
def claimCovers (other candidate : IdentityClaim) : Bool :=
  other.source = candidate.source ∧ other.sourceEpoch = candidate.sourceEpoch ∧
  other.field = candidate.field ∧ other.subkey = candidate.subkey ∧
  other.incarnation = candidate.incarnation ∧ candidate.sequence < other.sequence

/-- A declaration revises an earlier declaration (source the condition of
`declaration_is_superseded`). -/
def declarationCovers (other candidate : CapabilityDeclaration) : Bool :=
  other.source = candidate.source ∧ other.sourceEpoch = candidate.sourceEpoch ∧
  other.key = candidate.key ∧ other.subkey = candidate.subkey ∧
  other.module = candidate.module ∧ other.incarnation = candidate.incarnation ∧
  candidate.sequence < other.sequence

/-- Later statements cover earlier ones. -/
lemma claimCovers_covering : Covering claimCovers where
  irrefl a := by simp [claimCovers]
  trans a b c ab bc := by
    simp only [claimCovers, decide_eq_true_eq] at *
    obtain ⟨h1, h2, h3, h4, h5, h6⟩ := ab
    obtain ⟨g1, g2, g3, g4, g5, g6⟩ := bc
    exact ⟨h1.trans g1, h2.trans g2, h3.trans g3, h4.trans g4, h5.trans g5,
      UInt64.lt_trans g6 h6⟩

/-- Later statements cover earlier ones. -/
lemma declarationCovers_covering : Covering declarationCovers where
  irrefl a := by simp [declarationCovers]
  trans a b c ab bc := by
    simp only [declarationCovers, decide_eq_true_eq] at *
    obtain ⟨h1, h2, h3, h4, h5, h6, h7⟩ := ab
    obtain ⟨g1, g2, g3, g4, g5, g6, g7⟩ := bc
    exact ⟨h1.trans g1, h2.trans g2, h3.trans g3, h4.trans g4, h5.trans g5, h6.trans g6,
      UInt64.lt_trans g7 h7⟩

/-- A later claim of the same source incarnation covers the claim (source `claim_shadowed`). -/
def claimShadowed (claims : List IdentityClaim) (claim : IdentityClaim) : Bool :=
  isCovered claimCovers claims claim

/-- A later declaration of the same source incarnation and the same subject covers the declaration
(source `declaration_shadowed`). -/
def declarationShadowed (declarations : List CapabilityDeclaration)
    (declaration : CapabilityDeclaration) : Bool :=
  declarations.any fun other =>
    declarationCovers other declaration ∧ other.port.str = declaration.port.str

/-- The claims about an incarnation, each marked live or not (source `live_claims`). -/
def liveClaims (s : State) (record : ModuleRecord) (incarnation : IncarnationId) :
    List IdentityClaim :=
  (record.claims.filter (·.incarnation = incarnation)).map fun claim =>
    { claim with live := sourceIsLive s claim.source claim.sourceEpoch &&
        !claimShadowed record.claims claim }

/-- The declarations about an incarnation, each marked live or not (source `live_declarations`). -/
def liveDeclarations (s : State) (record : ModuleRecord) (incarnation : IncarnationId) :
    List CapabilityDeclaration :=
  (record.declarations.filter (·.incarnation = incarnation)).map fun declaration =>
    { declaration with live := sourceIsLive s declaration.source declaration.sourceEpoch &&
        !declarationShadowed record.declarations declaration }

/-- The error of a full claim budget (source `trim_claims`). -/
def claimsExhausted : Error :=
  makeError .capacityExceeded "module identity claim budget is exhausted"

/-- The error of a full declaration budget (source `trim_declarations`). -/
def declarationsExhausted : Error :=
  makeError .capacityExceeded "module capability declaration budget is exhausted"

section Trim

variable [StdSort] {maxTotal maxHistory : UInt32}

/-- The claims are refused exactly when those that no claim revises exceed the budget
(source `trim_claims`). -/
lemma trimClaims_eq_error {claims : List IdentityClaim} {e : Error} :
    trimClaims claims maxTotal maxHistory = .error e ↔
      e = claimsExhausted ∧ maxTotal.toNat < (uncovered claimCovers claims).length := by
  rw [← eraseSuperseded_eq_error claimCovers_covering le_rfl]
  unfold trimClaims
  cases kept : eraseSuperseded claimIsSuperseded maxTotal.toNat
      (makeError .capacityExceeded "module identity claim budget is exhausted") claims.length
      claims with
  | error e' => exact Iff.of_eq (congrArg (· = Except.error e) kept.symm)
  | ok l =>
    have kept : eraseSuperseded (isCovered claimCovers) maxTotal.toNat claimsExhausted
        claims.length claims = .ok l := kept
    rw [kept]
    simp [bind, Except.bind]

/-- The declarations are refused exactly when those that no declaration revises exceed the budget
(source `trim_declarations`). -/
lemma trimDeclarations_eq_error {declarations : List CapabilityDeclaration} {e : Error} :
    trimDeclarations declarations maxTotal maxHistory = .error e ↔
      e = declarationsExhausted ∧
        maxTotal.toNat < (uncovered declarationCovers declarations).length := by
  rw [← eraseSuperseded_eq_error declarationCovers_covering le_rfl]
  unfold trimDeclarations
  cases kept : eraseSuperseded declarationIsSuperseded maxTotal.toNat
      (makeError .capacityExceeded "module capability declaration budget is exhausted")
      declarations.length declarations with
  | error e' => exact Iff.of_eq (congrArg (· = Except.error e) kept.symm)
  | ok l =>
    have kept : eraseSuperseded (isCovered declarationCovers) maxTotal.toNat
        declarationsExhausted declarations.length declarations = .ok l := kept
    rw [kept]
    simp [bind, Except.bind]

end Trim

end TransceiverRegistry
