import TransceiverRegistry.Core.Taxonomy

/-!
# The lifecycle table

Port of `lifecycle.hpp` and `lifecycle.cpp`. The transition relation is a bit table indexed by the
numbers of the states: bit `to` of `kTargets[from]` means that the move is legal.
-/

namespace TransceiverRegistry

open Lib

/-- The bit of a state (source `state_bit`). -/
def stateBit (index : Nat) : UInt32 := 1 <<< UInt32.ofNat index

/-- The legal moves of each state (source `kTargets`). -/
def kTargets : Vector UInt32 9 := #v[
  stateBit 1 ||| stateBit 6,
  stateBit 2 ||| stateBit 5 ||| stateBit 6 ||| stateBit 7 ||| stateBit 8,
  stateBit 3 ||| stateBit 4 ||| stateBit 5 ||| stateBit 6 ||| stateBit 8,
  stateBit 4 ||| stateBit 5 ||| stateBit 6 ||| stateBit 7 ||| stateBit 8,
  stateBit 3 ||| stateBit 5 ||| stateBit 6 ||| stateBit 8,
  stateBit 1 ||| stateBit 2 ||| stateBit 3 ||| stateBit 6 ||| stateBit 7 ||| stateBit 8,
  stateBit 1 ||| stateBit 7,
  0,
  stateBit 6 ||| stateBit 7]

/-- The move is in the table (source `lifecycle_transition_allowed`). -/
def lifecycleTransitionAllowed (from_ to_ : LifecycleState) : Bool :=
  (kTargets.toList.getD (code from_) 0) &&& stateBit (code to_) ≠ 0

/-- The module is physically in a slot (source `lifecycle_state_implies_attachment`). -/
def lifecycleStateImpliesAttachment (state : LifecycleState) : Bool :=
  state = .attached ∨ state = .active ∨ state = .degraded

/-- A recorded move (source `LifecycleEvent`). -/
structure LifecycleEvent where
  from_ : LifecycleState
  to_ : LifecycleState
  incarnation : IncarnationId
  reason : Bytes
  source : SourceId
  sourceEpoch : SourceEpoch
  generation : Generation
  sequence : Sequence
  wallNs : WallNs
deriving DecidableEq

/-- A new module can be registered (source `Registry::register_module`, the internal check). -/
lemma discovered_registrable :
    lifecycleTransitionAllowed .discovered .registered = true := by decide

/-- A module in a slot can be removed (source `Registry::detach`, the internal check). -/
lemma removable_of_attachment {state : LifecycleState}
    (h : lifecycleStateImpliesAttachment state = true) :
    lifecycleTransitionAllowed state .removed = true := by
  revert h
  cases state <;> decide

end TransceiverRegistry
