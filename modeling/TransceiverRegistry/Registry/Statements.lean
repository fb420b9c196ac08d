import TransceiverRegistry.Lib.Ledger
import TransceiverRegistry.Registry.Frame
import TransceiverRegistry.Registry.Liveness
import TransceiverRegistry.Registry.ModuleStep

/-!
# The statements of the modules as ledgers

The claims and the declarations of the modules are two ledgers: what a call adds carries the
sequence number of the call, the trims only cut, and they keep the newest entry of every group.
-/

namespace TransceiverRegistry

open Lib

section Trim

variable {ι α κ : Type} {L : Labels ι κ α} {covers : α → α → Bool} {sequence : α → Sequence}

/-- An entry that is the newest of its group is not covered by an entry of the group. -/
lemma not_isCovered_of_newest (order : Covering covers)
    (narrow : ∀ a b, covers a b = true → L.group a = L.group b ∧ L.stamp b < L.stamp a)
    {front back : List α} {a : α} (newest : L.Newest a (front ++ back)) :
    isCovered covers (front ++ a :: back) a = false := by
  rw [isCovered_append_cons, order.irrefl, Bool.or_false, isCovered, List.any_eq_false]
  intro b member covered
  obtain ⟨same, later⟩ := narrow b a covered
  have := newest b member same
  omega

/-- Erasing what is covered and dropping the oldest entries of a group only cuts (source
`trim_claims`, `trim_declarations`). -/
lemma cut_of_trim [StdSort] [DecidableEq κ] (order : Covering covers)
    (narrow : ∀ a b, covers a b = true → L.group a = L.group b ∧ L.stamp b < L.stamp a)
    (stamp : ∀ a, L.stamp a = (sequence a).toNat) {maxTotal maxHistory guard : Nat}
    {exhausted : Error} {full kept : List α} (room : 0 < maxHistory)
    (erased : eraseSuperseded (isCovered covers) maxTotal exhausted guard full = .ok kept) :
    L.Cut full (dropExcess L.group sequence maxHistory kept) where
  sublist := (dropExcess_sublist _ _ _ _).trans (eraseSuperseded_sublist erased)
  newest front a back parts newest := by
    subst parts
    have unique : a ∉ front ++ back := fun member => (newest a member rfl).false
    have alive : a ∈ kept := by
      have bare : a ∈ uncovered covers kept := by
        rw [eraseSuperseded_uncovered order erased]
        exact mem_uncovered.2 ⟨by simp, not_isCovered_of_newest order narrow newest⟩
      exact (mem_uncovered.1 bare).1
    obtain ⟨l, r, rfl, left, right⟩ := List.sublist_append_iff.1 (eraseSuperseded_sublist erased)
    obtain without | ⟨rest, rfl, behind⟩ := List.sublist_cons_iff.1 right
    · exact absurd ((left.append without).subset alive) unique
    · refine mem_dropExcess_of_newest room fun b member same => ?_
      have earlier := newest b ((left.append behind).subset member) same
      rwa [stamp, stamp, ← UInt64.lt_iff_toNat_lt] at earlier

end Trim

/-- What the ledger of the claims reads of a claim. -/
def claimLabels : Labels ModuleUid (IdentityField × Bytes × SourceId × SourceEpoch)
    IdentityClaim where
  owner := (·.module)
  era := (·.incarnation.toNat)
  stamp := (·.sequence.toNat)
  group := claimGroup

/-- What the ledger of the declarations reads of a declaration. -/
def declarationLabels : Labels ModuleUid (CapabilityKey × Bytes × SourceId × SourceEpoch)
    CapabilityDeclaration where
  owner := (·.module)
  era := (·.incarnation.toNat)
  stamp := (·.sequence.toNat)
  group := declarationGroup

/-- What the records hold of one kind of statement, as the pages of a ledger. -/
def pages {α : Type} (statements : ModuleRecord → List α) (s : State) (uid : ModuleUid) :
    Option (Page α) :=
  s.modules[uid]?.map fun record => ⟨record.incarnation.toNat, statements record⟩

/-- The claims a successful call brings (source `Registry::register_module` and
`Registry::update_identity`, the blocks that fill an `IdentityClaim`). -/
def acceptedClaims (s : State) (call : Call) (s' : State) : List IdentityClaim :=
  match call.operation with
  | .registerModule registration authority =>
    match s'.moduleUidByKey[registration.key.str]?.bind (s'.modules[·]?) with
    | some record => registration.identity.map (identityClaim authority (s.generation + 1)
        s.nextSequence (call.clock.wallNowNs 0) (call.clock.domain 0) record
        registration.provenance)
    | none => []
  | .updateIdentity authority module value provenance _ =>
    match s.modules[module.uid]? with
    | some record => [identityClaim authority (s.generation + 1) s.nextSequence
        (call.clock.wallNowNs 0) (call.clock.domain 0) record provenance value]
    | none => []
  | _ => []

/-- The module declarations a successful call brings (source `Registry::publish_capability`). -/
def acceptedDeclarations (s : State) (call : Call) (_ : State) : List CapabilityDeclaration :=
  match call.operation with
  | .publishCapability authority module key subkey value provenance _ =>
    match s.modules[module.uid]? with
    | some record => [moduleDeclaration call.clock authority (s.generation + 1) s.nextSequence
        record key subkey value provenance]
    | none => []
  | _ => []

/-- The sequence counter does not wrap at this step (source `next_sequence`). -/
def NoWrap (s : State) : Prop := s.nextSequence + 1 ≠ 0

instance (s : State) : Decidable (NoWrap s) := inferInstanceAs (Decidable (_ ≠ _))

variable {config : RegistryConfig} {s s' : State}

/-- A claim covers claims of its own group with earlier stamps. -/
lemma claimCovers_narrow (a b : IdentityClaim) (h : claimCovers a b = true) :
    claimLabels.group a = claimLabels.group b ∧ claimLabels.stamp b < claimLabels.stamp a := by
  simp only [claimCovers, decide_eq_true_eq] at h
  obtain ⟨source, epoch, field, subkey, _, later⟩ := h
  exact ⟨by simp [claimLabels, claimGroup, *], UInt64.lt_iff_toNat_lt.1 later⟩

/-- A declaration covers declarations of its own group with earlier stamps. -/
lemma declarationCovers_narrow (a b : CapabilityDeclaration) (h : declarationCovers a b = true) :
    declarationLabels.group a = declarationLabels.group b ∧
      declarationLabels.stamp b < declarationLabels.stamp a := by
  simp only [declarationCovers, decide_eq_true_eq] at h
  obtain ⟨source, epoch, key, subkey, _, _, later⟩ := h
  exact ⟨by simp [declarationLabels, declarationGroup, *], UInt64.lt_iff_toNat_lt.1 later⟩

section Pages

variable {α : Type} {statements : ModuleRecord → List α} {uid : ModuleUid}
  {record record' : ModuleRecord}

/-- The page of a module that is known. -/
lemma pages_eq (found : s.modules[uid]? = some record) :
    pages statements s uid = some ⟨record.incarnation.toNat, statements record⟩ := by
  rw [pages, found, Option.map_some]

/-- Writing a record writes its page. -/
lemma pages_insert (written : s'.modules = s.modules.insert uid record') :
    pages statements s' = Function.update (pages statements s) uid
      (some ⟨record'.incarnation.toNat, statements record'⟩) := by
  funext i
  rw [pages, written, Std.ExtTreeMap.getElem?_insert]
  by_cases here : uid = i
  · subst here
    rw [if_pos (by simp), Function.update_self, Option.map_some]
  · rw [if_neg (by simpa using here), Function.update_of_ne (Ne.symm here), pages]

/-- Writing a record with the same statements about the same incarnation leaves the pages. -/
lemma pages_insert_same (written : s'.modules = s.modules.insert uid record')
    (found : s.modules[uid]? = some record) (incarnation : record'.incarnation = record.incarnation)
    (same : statements record' = statements record) :
    pages statements s' = pages statements s := by
  rw [pages_insert written, incarnation, same, ← pages_eq found, Function.update_eq_self]

end Pages

/-- A located module is new, or has the statements it had, about the same incarnation or the next
(source `Registry::register_module`, the lookup). -/
lemma Located.statements {modules : ModuleTable} {uid : ModuleUid} {located : ModuleRecord}
    (locate : Located modules uid located) :
    (modules[uid]? = none ∧ located.claims = [] ∧ located.declarations = []) ∨
    ∃ record, modules[uid]? = some record ∧
      record.incarnation.toNat ≤ located.incarnation.toNat ∧
      located.claims = record.claims ∧ located.declarations = record.declarations := by
  cases locate with
  | fresh absent _ _ claims declarations => exact .inl ⟨absent, claims, declarations⟩
  | current found same =>
    exact .inr ⟨_, found, by rw [same.incarnation], same.claims, same.declarations⟩
  | @renewed record found room next _ same =>
    refine .inr ⟨record, found, ?_, same.claims, same.declarations⟩
    have last : record.incarnation.toNat ≠ 2 ^ 32 - 1 := fun full => room (UInt32.toNat_inj.1 full)
    have := record.incarnation.toNat_lt
    rw [next, UInt32.toNat_add, UInt32.toNat_one]
    omega

/-- A located module has the uid it is stored under (source `Registry::register_module`, the
lookup). -/
lemma Located.uid_eq {uid : ModuleUid} {located : ModuleRecord} (coherent : Coherent config s)
    (locate : Located s.modules uid located) : located.uid = uid := by
  cases locate with
  | fresh _ own => exact own
  | @current record found same => exact same.uid.trans (coherent.modules.uid uid record found)
  | @renewed record found _ _ _ same => exact same.uid.trans (coherent.modules.uid uid record found)

/-- An operation without evidence brings no claim. -/
lemma acceptedClaims_quiet {call : Call} (quiet : call.operation.addsEvidence = false) :
    acceptedClaims s call s' = [] := by
  obtain ⟨operation, clock⟩ := call
  cases operation <;> first | rfl | cases quiet

/-- An operation without evidence brings no declaration. -/
lemma acceptedDeclarations_quiet {call : Call} (quiet : call.operation.addsEvidence = false) :
    acceptedDeclarations s call s' = [] := by
  obtain ⟨operation, clock⟩ := call
  cases operation <;> first | rfl | cases quiet

/-- A declaration of a module names no port (source `Registry::publish_capability`). -/
lemma acceptedDeclarations_port {call : Call} {declaration : CapabilityDeclaration}
    (member : declaration ∈ acceptedDeclarations s call s') : declaration.port = .none := by
  unfold acceptedDeclarations at member
  split at member
  · split at member
    · obtain rfl := List.mem_singleton.1 member
      rfl
    · cases member
  · cases member

section Step

variable [StdSort]

/-- Trimming claims only cuts (source `trim_claims`). -/
lemma trimClaims_cut {claims kept : List IdentityClaim} {maxTotal maxHistory : UInt32}
    (room : 1 ≤ maxHistory) (trim : trimClaims claims maxTotal maxHistory = .ok kept) :
    claimLabels.Cut claims kept := by
  rw [trimClaims, bind_eq_ok] at trim
  obtain ⟨erased, erase, e⟩ := trim
  cases e
  exact cut_of_trim claimCovers_covering claimCovers_narrow (fun _ => rfl)
    (UInt32.le_iff_toNat_le.1 room) erase

/-- Trimming declarations only cuts (source `trim_declarations`). -/
lemma trimDeclarations_cut {declarations kept : List CapabilityDeclaration}
    {maxTotal maxHistory : UInt32} (room : 1 ≤ maxHistory)
    (trim : trimDeclarations declarations maxTotal maxHistory = .ok kept) :
    declarationLabels.Cut declarations kept := by
  rw [trimDeclarations, bind_eq_ok] at trim
  obtain ⟨erased, erase, e⟩ := trim
  cases e
  exact cut_of_trim declarationCovers_covering declarationCovers_narrow (fun _ => rfl)
    (UInt32.le_iff_toNat_le.1 room) erase

/-- A step takes the next sequence number (source `next_sequence`). -/
lemma step_nextSequence {call : Call} (taken : step config s call = some s') :
    s'.nextSequence = (nextSequence s).2.nextSequence := by
  obtain ⟨_, next, run, rfl⟩ := step_eq_some taken
  exact (framed_of_body run).nextSequence

/-- The sequence counter grows when it does not wrap (source `next_sequence`). -/
lemma NoWrap.grows {call : Call} (noWrap : NoWrap s) (taken : step config s call = some s') :
    s.nextSequence.toNat < s'.nextSequence.toNat := by
  have next : s'.nextSequence = s.nextSequence + 1 := by
    rw [step_nextSequence taken]
    exact if_neg noWrap
  have small : s.nextSequence.toNat + 1 ≠ 2 ^ 64 := by
    intro full
    refine noWrap (UInt64.toNat_inj.1 ?_)
    rw [UInt64.toNat_add, UInt64.toNat_one, full]
    rfl
  have := s.nextSequence.toNat_lt
  rw [next, UInt64.toNat_add, UInt64.toNat_one]
  omega

/-- A successful call posts the claims it brings (source `Registry::register_module`,
`Registry::update_identity`). -/
lemma posts_claims (room : 1 ≤ config.maxClaimHistory) (coherent : Coherent config s) {call : Call}
    (taken : step config s call = some s') :
    claimLabels.Posts (pages (·.claims) s) (pages (·.claims) s') s.nextSequence.toNat
      (acceptedClaims s call s') := by
  have checked := (step_eq_some taken).1
  have moved := step_moduleStep coherent taken
  obtain ⟨operation, clock⟩ := call
  cases moved with
  | stay quiet written =>
    rw [acceptedClaims_quiet quiet]
    exact .nothing (by unfold pages; rw [written])
  | move quiet found same written =>
    rw [acceptedClaims_quiet quiet]
    exact .nothing (pages_insert_same written found same.incarnation same.claims)
  | @registerModule registration authority uid located record' claims _ named locate trim same
      written =>
    have stored : s'.modules[uid]? = some record' := by
      rw [written, Std.ExtTreeMap.getElem?_insert_self]
    have brought : acceptedClaims s ⟨.registerModule registration authority, clock⟩ s' =
        registration.identity.map (identityClaim authority (s.generation + 1) s.nextSequence
          (clock.wallNowNs 0) (clock.domain 0) located registration.provenance) := by
      simp only [acceptedClaims, named, Option.bind_some, stored]
      rw [identityClaim_congr same]
      rfl
    rw [brought, pages_insert written, same.incarnation, same.claims]
    refine .update _ ?_ (trimClaims_cut room trim) ?_ ?_
    · obtain ⟨absent, claims, _⟩ | ⟨record, found, le, claims, _⟩ := locate.statements
      · exact .inl ⟨by rw [pages, absent, Option.map_none], claims⟩
      · exact .inr ⟨_, by rw [pages_eq found, claims], le⟩
    · rintro claim member
      obtain ⟨value, _, rfl⟩ := List.mem_map.1 member
      exact ⟨locate.uid_eq coherent, rfl, rfl⟩
    · rw [List.pairwise_map]
      refine (List.pairwise_map.1 checked.2.2.2).imp fun differ alike => differ ?_
      have both : _ ∧ _ := Prod.mk.injEq .. ▸ alike
      exact Prod.ext both.1 (Prod.mk.inj both.2).1
  | updateIdentity _ found trim written =>
    simp only [acceptedClaims, found]
    rw [pages_insert written]
    refine .update _ (.inr ⟨_, pages_eq found, le_rfl⟩) (trimClaims_cut room trim) ?_
      (List.pairwise_singleton _ _)
    rintro claim member
    obtain rfl := List.mem_singleton.1 member
    exact ⟨coherent.modules.uid _ _ found, rfl, rfl⟩
  | publishCapability _ found _ written =>
    exact .nothing (pages_insert_same written found rfl rfl)
  | ingestHealth _ found _ _ _ _ _ written =>
    exact .nothing (pages_insert_same written found rfl rfl)

/-- A successful call posts the declarations it brings (source `Registry::publish_capability`). -/
lemma posts_declarations (room : 1 ≤ config.maxClaimHistory) (coherent : Coherent config s)
    {call : Call} (taken : step config s call = some s') :
    declarationLabels.Posts (pages (·.declarations) s) (pages (·.declarations) s')
      s.nextSequence.toNat (acceptedDeclarations s call s') := by
  have moved := step_moduleStep coherent taken
  obtain ⟨operation, clock⟩ := call
  cases moved with
  | stay quiet written =>
    rw [acceptedDeclarations_quiet quiet]
    exact .nothing (by unfold pages; rw [written])
  | move quiet found same written =>
    rw [acceptedDeclarations_quiet quiet]
    exact .nothing (pages_insert_same written found same.incarnation same.declarations)
  | @registerModule registration authority uid located record' claims _ _ locate _ same written =>
    -- the declarations stay, but the incarnation may be the next one
    rw [pages_insert written, same.incarnation, same.declarations]
    refine .update located.declarations ?_ ?_ (by simp [acceptedDeclarations])
      List.Pairwise.nil
    · obtain ⟨absent, _, declarations⟩ | ⟨record, found, le, _, declarations⟩ := locate.statements
      · exact .inl ⟨by rw [pages, absent, Option.map_none], declarations⟩
      · exact .inr ⟨_, by rw [pages_eq found, declarations], le⟩
    · rw [acceptedDeclarations, List.append_nil]
      exact .refl _
  | updateIdentity _ found _ written =>
    exact .nothing (pages_insert_same written found rfl rfl)
  | publishCapability _ found trim written =>
    simp only [acceptedDeclarations, found]
    rw [pages_insert written]
    refine .update _ (.inr ⟨_, pages_eq found, le_rfl⟩) (trimDeclarations_cut room trim) ?_
      (List.pairwise_singleton _ _)
    rintro declaration member
    obtain rfl := List.mem_singleton.1 member
    exact ⟨coherent.modules.uid _ _ found, rfl, rfl⟩
  | ingestHealth _ found _ _ _ _ _ written =>
    exact .nothing (pages_insert_same written found rfl rfl)

/-- Along a run without a wrap the claims of the modules are the pages of the ledger of all accepted
claims. -/
lemma holds_claims (room : 1 ≤ config.maxClaimHistory) {w : State × List IdentityClaim}
    (reached : Run (withHistory (step config) acceptedClaims) (fun w _ => NoWrap w.1)
      (State.initial, []) w) :
    Coherent config w.1 ∧
      claimLabels.Holds (pages (·.claims) w.1) w.1.nextSequence.toNat w.2 := by
  refine reached.invariant (fun w => Coherent config w.1 ∧
    claimLabels.Holds (pages (·.claims) w.1) w.1.nextSequence.toNat w.2) ?_ ?_
  · exact ⟨.initial, .empty fun uid => by simp [pages, State.initial]⟩
  · rintro w call w' ⟨coherent, holds⟩ noWrap moved
    obtain ⟨taken, log⟩ := withHistory_eq_some.1 moved
    rw [log]
    exact ⟨coherent.step taken, holds.post (posts_claims room coherent taken) (noWrap.grows taken)⟩

/-- Along a run without a wrap the declarations of the modules are the pages of the ledger of all
accepted module declarations. -/
lemma holds_declarations (room : 1 ≤ config.maxClaimHistory)
    {w : State × List CapabilityDeclaration}
    (reached : Run (withHistory (step config) acceptedDeclarations) (fun w _ => NoWrap w.1)
      (State.initial, []) w) :
    (Coherent config w.1 ∧
      declarationLabels.Holds (pages (·.declarations) w.1) w.1.nextSequence.toNat w.2) ∧
    ∀ declaration ∈ w.2, declaration.port = .none := by
  refine reached.invariant (fun w => (Coherent config w.1 ∧
    declarationLabels.Holds (pages (·.declarations) w.1) w.1.nextSequence.toNat w.2) ∧
    ∀ declaration ∈ w.2, declaration.port = .none) ?_ ?_
  · exact ⟨⟨.initial, .empty fun uid => by simp [pages, State.initial]⟩, by simp⟩
  · rintro w call w' ⟨⟨coherent, holds⟩, ports⟩ noWrap moved
    obtain ⟨taken, log⟩ := withHistory_eq_some.1 moved
    rw [log]
    refine ⟨⟨coherent.step taken, holds.post (posts_declarations room coherent taken)
      (noWrap.grows taken)⟩, fun declaration member => ?_⟩
    obtain old | new := List.mem_append.1 member
    · exact ports declaration old
    · exact acceptedDeclarations_port new

end Step

end TransceiverRegistry
