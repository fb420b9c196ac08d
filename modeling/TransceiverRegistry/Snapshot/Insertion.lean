import TransceiverRegistry.Lib.Tables
import TransceiverRegistry.Registry.Batches
import TransceiverRegistry.Snapshot.Frames

/-!
# Registrations in any order

A registration appends one claim for each of its identity fields, and the record stream sorts the
claims by sequence number and value. Two orders of the fields leave the same stream when the values
tell the claims of a step apart.
-/

namespace TransceiverRegistry

open Lib

/-- Sorting the modules by their ids changes nothing (source `encode_state_records`). -/
lemma sort_modules [StdSort] {modules : Std.ExtTreeMap UInt64 ModuleRecord compare}
    (keyed : Keyed ModuleRecord.uid modules) :
    StdSort.sort (fun lhs rhs : ModuleRecord => decide (lhs.uid < rhs.uid)) modules.values =
      modules.values := by
  refine StdSort.sort_eq_self (strictWeakOn_rank (·.uid.toNat) (fun a b => ?_) _) ?_
  · rw [decide_eq_true_iff, UInt64.lt_iff_toNat_lt]
  · rw [values_eq_map_toList, List.pairwise_map]
    refine Std.ExtTreeMap.ordered_keys_toList.imp_of_mem fun {a b} inside inside' before => ?_
    have own {entry : UInt64 × ModuleRecord} (member : entry ∈ modules.toList) :
        entry.2.uid = entry.1 :=
      keyed entry.1 entry.2 (Std.ExtTreeMap.mem_toList_iff_getElem?_eq_some.1 member)
    rw [decide_eq_true_iff, own inside, own inside']
    exact Std.compare_eq_lt.1 before

section Claims

/-- Claims by the place of their sequence number and value. -/
def compareClaimPlace : Nat × Bytes → Nat × Bytes → Ordering :=
  compareLex (compareOn (·.1)) fun a b => compareBytes a.2 b.2

instance : Std.TransCmp compareClaimPlace := by
  have : Std.TransCmp fun a b : Nat × Bytes => compareBytes a.2 b.2 :=
    { eq_swap := @fun _ _ => @Std.OrientedCmp.eq_swap _ compareBytes _ _ _
      isLE_trans := @fun _ _ _ => @Std.TransCmp.isLE_trans _ compareBytes _ _ _ _ }
  unfold compareClaimPlace
  infer_instance

/-- Claims are ordered by their places (source `encode_module`). -/
lemma claimBefore_eq : claimBefore = fun lhs rhs =>
    (compareClaimPlace (lhs.sequence.toNat, lhs.value) (rhs.sequence.toNat, rhs.value)).isLT := by
  funext lhs rhs
  have differ : lhs.sequence ≠ rhs.sequence ↔ lhs.sequence.toNat ≠ rhs.sequence.toNat :=
    not_congr UInt64.toNat_inj.symm
  simp only [claimBefore, compareClaimPlace, compareLex, compareOn, compare_then_isLT, differ,
    UInt64.lt_iff_toNat_lt]

/-- The order of the claims is a strict weak order (source `encode_module`). -/
lemma strictWeakOn_claimBefore (claims : List IdentityClaim) :
    StrictWeakOn claimBefore claims := by
  rw [claimBefore_eq]
  exact strictWeakOn_compare compareClaimPlace (fun c => (c.sequence.toNat, c.value)) claims

/-- Claims of one step and one value are not ordered, and only these (source `encode_module`). -/
lemma claimBefore_tie {a b : IdentityClaim} (notBefore : claimBefore a b = false)
    (notAfter : claimBefore b a = false) : a.sequence = b.sequence ∧ a.value = b.value := by
  rw [claimBefore_eq] at notBefore notAfter
  beta_reduce at notBefore
  simp only [@Std.OrientedCmp.eq_swap _ compareClaimPlace _ (b.sequence.toNat, _)] at notAfter
  have tie : compareClaimPlace (a.sequence.toNat, a.value) (b.sequence.toNat, b.value) = .eq := by
    cases place : compareClaimPlace (a.sequence.toNat, a.value) (b.sequence.toNat, b.value) with
    | lt => rw [place] at notBefore; cases notBefore
    | gt => rw [place] at notAfter; cases notAfter
    | eq => rfl
  simp only [compareClaimPlace, compareLex, compareOn, Ordering.then_eq_eq,
    Std.LawfulEqCmp.compare_eq_iff_eq] at tie
  exact ⟨UInt64.toNat_inj.1 tie.1, tie.2⟩

variable [StdSort] {record : ModuleRecord} {claims claims' : List IdentityClaim}

/-- Claims without ties are stored in one order (source `encode_module`). -/
lemma stored_claims_congr (includeHistory : Bool) (perm : claims.Perm claims')
    (apart : claims.Pairwise ClaimsApart) :
    { record with claims }.stored includeHistory =
      { record with claims := claims' }.stored includeHistory := by
  have total : ∀ a ∈ claims.filter fun c => includeHistory || c.live,
      ∀ b ∈ claims.filter fun c => includeHistory || c.live,
      claimBefore a b = false → claimBefore b a = false → a = b := by
    intro a inA b inB notBefore notAfter
    obtain ⟨sequence, value⟩ := claimBefore_tie notBefore notAfter
    by_contra differ
    have symm : Std.Symm ClaimsApart := ⟨fun _ _ => ClaimsApart.symm⟩
    have separate : ClaimsApart a b :=
      apart.forall (List.mem_of_mem_filter inA) (List.mem_of_mem_filter inB) differ
    exact (separate sequence).2 value
  have sorted := StdSort.sort_congr (strictWeakOn_claimBefore _)
    (perm.filter fun c => includeHistory || c.live) total
  unfold ModuleRecord.stored
  rw [sorted]

end Claims

section Records

variable [StdSort] {config : RegistryConfig} {s : State} {uid : ModuleUid}
  {record record' : ModuleRecord} {includeHistory : Bool}

/-- Records that are stored alike are written alike (source `encode_state_records`). -/
lemma stateRecords_insert_congr
    (keyed : Keyed ModuleRecord.uid (s.modules.insert uid record))
    (keyed' : Keyed ModuleRecord.uid (s.modules.insert uid record'))
    (same : record.stored includeHistory = record'.stored includeHistory) :
    stateRecords { s with modules := s.modules.insert uid record } includeHistory =
      stateRecords { s with modules := s.modules.insert uid record' } includeHistory := by
  have written : ∀ i : ModuleUid,
      (s.modules.insert uid record)[i]?.map (encodeModule includeHistory) =
        (s.modules.insert uid record')[i]?.map (encodeModule includeHistory) := by
    intro i
    rw [Std.ExtTreeMap.getElem?_insert, Std.ExtTreeMap.getElem?_insert]
    split
    · rw [Option.map_some, Option.map_some, encodeModule, encodeModule, same]
    · rfl
  have modules := congrArg (List.map fun document => Record.mk kRecordModule
    (encodeDocument document)) (map_values_congr written)
  rw [List.map_map, List.map_map] at modules
  unfold stateRecords
  simp only [sort_modules keyed, sort_modules keyed']
  exact congrArg (fun middle => _ ++ middle ++ _ ++ _ ++ _ ++ _) modules

end Records

/-- The digest of a state (source `compute_state_digest`). -/
def stateDigest [StdSort] (s : State) : Digest := sha256 (encodeStateRecords s true)

/-- The state after a call, which a refused call leaves as it is (source `RegistryImpl::mutate`). -/
def State.after [StdSort] (config : RegistryConfig) (s : State) (call : Call) : State :=
  (step config s call).getD s

/-- The order of the identity fields of a registration leaves no trace in the record stream (source
`Registry::register_module`). -/
def InsertionOrderFree [StdSort] (config : RegistryConfig) (s : State)
    (registration : ModuleRegistration) (authority : AuthorityToken) (clock : Clock) : Prop :=
  ∀ identity, registration.identity.Perm identity →
    let t := s.after config ⟨.registerModule registration authority, clock⟩
    let t' := s.after config ⟨.registerModule { registration with identity } authority, clock⟩
    (∀ includeHistory, encodeStateRecords t includeHistory =
      encodeStateRecords t' includeHistory) ∧ stateDigest t = stateDigest t'

section Registration

variable [StdSort] {config : RegistryConfig} {clock : Clock} {s s' : State}
  {registration : ModuleRegistration} {identity : List IdentityFieldValue}
  {authority : AuthorityToken} {generation : Generation} {sequence : Sequence}

/-- Two states that differ in the order of the claims of one module, which have no ties. -/
def ClaimsReordered (s s' : State) : Prop :=
  ∃ (t : State) (uid : ModuleUid) (record : ModuleRecord) (claims claims' : List IdentityClaim),
    claims.Perm claims' ∧ claims.Pairwise ClaimsApart ∧
    s = { t with modules := t.modules.insert uid { record with claims } } ∧
    s' = { t with modules := t.modules.insert uid { record with claims := claims' } }

/-- Registering the fields in another order reorders the claims (source
`Registry::register_module`). -/
lemma registerModuleBody_reordered {handle : ModuleHandle} (coherent : Coherent config s)
    (batched : ∀ (uid : ModuleUid) record, s.modules[uid]? = some record →
      Batched sequence record.claims)
    (perm : registration.identity.Perm identity)
    (fields : (registration.identity.map fun value => (value.field, value.subkey)).Nodup)
    (names : (registration.identity.map (·.value)).Nodup)
    (run : registerModuleBody config clock registration authority s generation sequence =
      .ok (s', handle)) :
    ∃ t handle', registerModuleBody config clock { registration with identity } authority s
      generation sequence = .ok (t, handle') ∧ ClaimsReordered s' t := by
  obtain ⟨auth, t, uid, located, record, claims, locate, settle, trim, rfl⟩ :=
    registerModuleBody_inv run
  have same := SameEvidence.settle settle
  have older : Batched sequence record.claims := by
    obtain ⟨found, _, _⟩ := located_of_locateModule (coherent.modules.number.fresh rfl) locate
    rw [same.claims]
    obtain ⟨_, none, _⟩ | ⟨stored, known, _, old, _⟩ := found.statements
    · rw [none]
      exact ⟨fun _ member => absurd member List.not_mem_nil, List.Pairwise.nil⟩
    · rw [old]
      exact batched uid stored known
  have now : ∀ claim ∈ registration.identity.map (identityClaim authority generation sequence
      (clock.wallNowNs 0) (clock.domain 0) record registration.provenance),
      claim.sequence = sequence := by
    intro claim member
    obtain ⟨value, _, rfl⟩ := List.mem_map.1 member
    rfl
  have apart : (registration.identity.map (identityClaim authority generation sequence
      (clock.wallNowNs 0) (clock.domain 0) record registration.provenance)).Pairwise ClaimsApart :=
    registration_apart fields names
  obtain ⟨claims', trim', reordered⟩ := trimClaims_batch older (perm.map _) now apart trim
  refine ⟨{ t with modules := t.modules.insert uid { record with
      claims := claims', lifecycle := trimLifecycle config record.lifecycle } },
    ⟨record.uid, record.incarnation, generation, record.key⟩, ?_, ?_⟩
  · simp only [registerModuleBody, bind_eq_ok]
    exact ⟨(), auth, (t, uid, located), locate, record, settle, claims', trim', rfl⟩
  · exact ⟨t, uid, { record with lifecycle := trimLifecycle config record.lifecycle }, claims,
      claims', reordered, (older.append now apart).sublist (trimClaims_sublist trim), rfl, rfl⟩

/-- Registering the fields in another order reorders the claims of the next state (source
`Registry::register_module`). -/
lemma step_reordered (coherent : Coherent config s) (batched : ClaimsBatched s)
    (perm : registration.identity.Perm identity)
    (names : (registration.identity.map (·.value)).Nodup)
    (taken : step config s ⟨.registerModule registration authority, clock⟩ = some s') :
    ∃ t, step config s ⟨.registerModule { registration with identity } authority, clock⟩ =
      some t ∧ ClaimsReordered s' t := by
  have run : Call.run config ⟨.registerModule registration authority, clock⟩ s = .ok s' := by
    unfold step at taken
    split at taken
    · cases taken
      assumption
    · cases taken
  rw [Call.run, fst_map_eq_ok] at run
  obtain ⟨handle, run⟩ := run
  simp only [registerModule, refuseIf_eq_ok, bind_eq_ok, mutate_eq_ok, forEach_eq_ok,
    not_not] at run
  obtain ⟨_, key, _, evidence, _, values, _, fields, current, next, body, rfl⟩ := run
  obtain ⟨next', handle', body', t, uid, record, claims, claims', reordered, apart, rfl, rfl⟩ :=
    registerModuleBody_reordered coherent.nextSequence batched perm fields names body
  refine ⟨_, ?_, { t with generation := s.generation + 1, mutations := t.mutations + 1 }, uid,
    record, claims, claims', reordered, apart, rfl, rfl⟩
  have run' : Call.run config
      ⟨.registerModule { registration with identity } authority, clock⟩ s = .ok { t with
        generation := s.generation + 1, mutations := t.mutations + 1
        modules := t.modules.insert uid { record with claims := claims' } } := by
    rw [Call.run, fst_map_eq_ok]
    refine ⟨handle', ?_⟩
    simp only [registerModule, refuseIf_eq_ok, bind_eq_ok, mutate_eq_ok, forEach_eq_ok, not_not]
    exact ⟨(), key, (), evidence, (), fun value member => values value (perm.symm.subset member),
      (), (perm.map _).nodup_iff.1 fields, current, _, body', rfl⟩
  rw [step, run']

/-- States with reordered claims have one record stream (source `encode_state_records`). -/
lemma ClaimsReordered.encode {t t' : State} (h : ClaimsReordered t t')
    (coherent : Coherent config t) (coherent' : Coherent config t') (includeHistory : Bool) :
    encodeStateRecords t includeHistory = encodeStateRecords t' includeHistory := by
  obtain ⟨u, uid, record, claims, claims', reordered, apart, rfl, rfl⟩ := h
  have stored : { record with claims }.stored includeHistory =
      { record with claims := claims' }.stored includeHistory :=
    stored_claims_congr includeHistory reordered apart
  have records := stateRecords_insert_congr coherent.modules.uid coherent'.modules.uid stored
  exact congrArg frames records

/-- In runs whose registrations name no value twice, a registration that names no value twice leaves
one record stream and one digest whatever the order of its identity fields (source
`Registry::register_module`, `encode_state_records`). -/
theorem insertion_order_free (reached : Run (step config) NamesApart State.initial s)
    (names : (registration.identity.map (·.value)).Nodup) :
    InsertionOrderFree config s registration authority clock := by
  have coherent : Coherent config s :=
    reached.invariant (Coherent config) .initial fun _ _ _ h _ taken => h.step taken
  have batched : ClaimsBatched s := .run reached
  intro identity perm
  have one : ∀ includeHistory, encodeStateRecords (s.after config
      ⟨.registerModule registration authority, clock⟩) includeHistory =
      encodeStateRecords (s.after config
        ⟨.registerModule { registration with identity } authority, clock⟩) includeHistory := by
    intro includeHistory
    unfold State.after
    cases taken : step config s ⟨.registerModule registration authority, clock⟩ with
    | some t =>
      obtain ⟨t', taken', reordered⟩ := step_reordered coherent batched perm names taken
      rw [taken']
      exact reordered.encode (coherent.step taken) (coherent.step taken') includeHistory
    | none =>
      -- the other order is refused as well, since it could be undone
      cases taken' : step config s ⟨.registerModule { registration with identity } authority,
          clock⟩ with
      | none => rfl
      | some t' =>
        obtain ⟨t, back, _⟩ := @step_reordered _ _ _ _ _ _ registration.identity _ coherent
          batched perm.symm ((perm.map _).nodup_iff.1 names) taken'
        rw [taken] at back
        cases back
  exact ⟨one, congrArg sha256 (one true)⟩

end Registration

/-- A registration with these identity fields. -/
def labelled (identity : List IdentityFieldValue) : ModuleRegistration :=
  ⟨bayA, identity, .ensureCurrent, hostEvidence, .autoRetry, 0⟩

/-- A part number and a serial number. -/
def partLabel (value : String) : IdentityFieldValue := ⟨.partNumber, [], text value⟩
def serialLabel (value : String) : IdentityFieldValue := ⟨.serialNumber, [], text value⟩

/-- A module with a part number and a serial number is registered in either order. -/
theorem insertion_order_free_two_labels :
    ∃ s, (step {} s ⟨.registerModule (labelled [partLabel "1", serialLabel "2"]) host,
        stillClock⟩).isSome = true ∧
      InsertionOrderFree {} s (labelled [partLabel "1", serialLabel "2"]) host stillClock := by
  have accepts : (runGuarded (step {}) (fun s call => decide (NamesApart s call)) [registerHost]
      State.initial).any (fun s => (step {} s ⟨.registerModule
        (labelled [partLabel "1", serialLabel "2"]) host, stillClock⟩).isSome) = true := by
    decide +kernel
  obtain ⟨s, reached, accepted⟩ := Run.exists_ofGuarded accepts
  exact ⟨s, accepted, insertion_order_free (reached.mono fun _ _ => of_decide_eq_true)
    (by decide)⟩

deriving instance DecidableEq for Record

/-- A record can be read off its frame (source `append_record`). -/
lemma Record.frame_inj {record record' : Record} (same : record.frame = record'.frame) :
    record.payload = record'.payload := by
  have size : record.body.length = record'.body.length := by
    have frames := congrArg List.length same
    rw [length_frame, length_frame] at frames
    omega
  have tails : record.body ++ (littleEndian 4 (crc32c record.body 0).toNat ++ []) =
      record'.body ++ (littleEndian 4 (crc32c record'.body 0).toNat ++ []) := by
    rw [← drop_frame, ← drop_frame, same]
  exact (List.cons.inj (List.append_inj_left tails size)).2

/-- Streams that part in the payload of their last record differ (source `append_record`). -/
lemma frames_ne {records records' : List Record} {last last' : Record}
    (front : records.dropLast = records'.dropLast) (ends : records.getLast? = some last)
    (ends' : records'.getLast? = some last') (differ : last.payload ≠ last'.payload) :
    frames records ≠ frames records' := by
  intro same
  rw [← List.dropLast_append_getLast? last ends, ← List.dropLast_append_getLast? last' ends',
    front, frames, frames, List.flatMap_append, List.flatMap_append, List.append_cancel_left_eq,
    List.flatMap_singleton, List.flatMap_singleton] at same
  exact differ (Record.frame_inj same)

/-- Two fields with one value are stored in the order they were given (source `encode_module`). -/
theorem insertion_order_shows :
    ∃ s, Run (step {}) Unguarded State.initial s ∧
      ¬ InsertionOrderFree {} s (labelled [partLabel "1", serialLabel "1"]) host stillClock := by
  let records (s : State) (identity : List IdentityFieldValue) : List Record :=
    stateRecords (s.after {} ⟨.registerModule (labelled identity) host, stillClock⟩) true
  -- the streams agree up to the module, whose first claim is about another field
  have apart : (runActions (step {}) [registerHost] State.initial).any (fun s =>
      (records s [partLabel "1", serialLabel "1"]).dropLast =
        (records s [serialLabel "1", partLabel "1"]).dropLast ∧
      (records s [partLabel "1", serialLabel "1"]).getLast?.map (·.payload[38]?) =
        some (some 4) ∧
      (records s [serialLabel "1", partLabel "1"]).getLast?.map (·.payload[38]?) =
        some (some 6)) = true := by
    decide +kernel
  obtain ⟨s, reached, parts⟩ := Run.exists_ofActions apart
  rw [decide_eq_true_iff] at parts
  obtain ⟨front, ends, ends'⟩ := parts
  obtain ⟨last, lastOf, field⟩ := Option.map_eq_some_iff.1 ends
  obtain ⟨last', lastOf', field'⟩ := Option.map_eq_some_iff.1 ends'
  refine ⟨s, reached, fun free => ?_⟩
  have streams := (free [serialLabel "1", partLabel "1"] (List.Perm.swap _ _ _)).1 true
  refine frames_ne front lastOf lastOf' (fun same => ?_) streams
  rw [same, field'] at field
  cases field

end TransceiverRegistry
