import TransceiverRegistry.Model.Identity

/-!
# Capability values

Port of `capability.hpp` and of the canonical sets and the shape check of `capability.cpp`. The set
values carry the proof that they are sorted without repetition, which is what the factories of the
source establish; a spectrum is in that form when its numbers can be compared.
-/

namespace TransceiverRegistry

open Lib

/-- One wavelength of a module (source `SpectrumDescriptor`). -/
structure SpectrumDescriptor where
  lane : UInt16
  centerNm : Binary64
  frequencyThz : Binary64
  grid : WavelengthGrid
  channel : Bytes
deriving DecidableEq

namespace SpectrumDescriptor

/-- Every number of the descriptor can be compared. -/
def Comparable (d : SpectrumDescriptor) : Prop :=
  d.centerNm.isNaN = false ∧ d.frequencyThz.isNaN = false

/-- The defaulted member by member order (source `operator<=>(SpectrumDescriptor)`). -/
def lt (a b : SpectrumDescriptor) : Bool :=
  if a.lane ≠ b.lane then a.lane < b.lane
  else if Binary64.eq a.centerNm b.centerNm = false then Binary64.lt a.centerNm b.centerNm
  else if Binary64.eq a.frequencyThz b.frequencyThz = false then
    Binary64.lt a.frequencyThz b.frequencyThz
  else if a.grid ≠ b.grid then code a.grid < code b.grid
  else (compareBytes a.channel b.channel).isLT

/-- The defaulted member by member equality (source `operator==(SpectrumDescriptor)`). -/
def eq (a b : SpectrumDescriptor) : Bool :=
  a.lane = b.lane && Binary64.eq a.centerNm b.centerNm &&
    Binary64.eq a.frequencyThz b.frequencyThz && a.grid = b.grid && a.channel = b.channel

/-- The place of a descriptor in its order. -/
def place (d : SpectrumDescriptor) : Nat × Int × Int × Nat × Bytes :=
  (d.lane.toNat, d.centerNm.rank, d.frequencyThz.rank, code d.grid, d.channel)

/-- The order of places. -/
def comparePlace : Nat × Int × Int × Nat × Bytes → Nat × Int × Int × Nat × Bytes → Ordering :=
  compareLex (compareOn (·.1)) (compareLex (compareOn (·.2.1)) (compareLex (compareOn (·.2.2.1))
    (compareLex (compareOn (·.2.2.2.1)) fun a b => compareBytes a.2.2.2.2 b.2.2.2.2)))

instance : Std.TransCmp comparePlace := by
  have : Std.TransCmp fun a b : Nat × Int × Int × Nat × Bytes =>
      compareBytes a.2.2.2.2 b.2.2.2.2 :=
    { eq_swap := @fun _ _ => @Std.OrientedCmp.eq_swap _ compareBytes _ _ _
      isLE_trans := @fun _ _ _ => @Std.TransCmp.isLE_trans _ compareBytes _ _ _ _ }
  unfold comparePlace
  infer_instance

/-- Comparable descriptors are ordered by their places. -/
lemma lt_eq {a b : SpectrumDescriptor} (ha : a.Comparable) (hb : b.Comparable) :
    lt a b = (comparePlace a.place b.place).isLT := by
  have center : Binary64.eq a.centerNm b.centerNm = false ↔ a.centerNm.rank ≠ b.centerNm.rank := by
    rw [← Bool.not_eq_true, Binary64.eq_iff ha.1 hb.1]
  have frequency : Binary64.eq a.frequencyThz b.frequencyThz = false ↔
      a.frequencyThz.rank ≠ b.frequencyThz.rank := by
    rw [← Bool.not_eq_true, Binary64.eq_iff ha.2 hb.2]
  have centerLt : Binary64.lt a.centerNm b.centerNm =
      decide (a.centerNm.rank < b.centerNm.rank) := by
    simp [Binary64.lt, ha.1, hb.1]
  have frequencyLt : Binary64.lt a.frequencyThz b.frequencyThz =
      decide (a.frequencyThz.rank < b.frequencyThz.rank) := by
    simp [Binary64.lt, ha.2, hb.2]
  have lane : a.lane ≠ b.lane ↔ a.lane.toNat ≠ b.lane.toNat := not_congr UInt16.toNat_inj.symm
  have grid : a.grid ≠ b.grid ↔ code a.grid ≠ code b.grid :=
    not_congr ⟨fun h => h ▸ rfl, code_injective⟩
  simp only [lt, comparePlace, place, compareLex, compareOn, compare_then_isLT, center, frequency,
    centerLt, frequencyLt, lane, grid, UInt16.lt_iff_toNat_lt]

/-- Comparable descriptors are in a strict weak order. -/
lemma strictWeakOn {l : List SpectrumDescriptor} (comparable : ∀ d ∈ l, d.Comparable) :
    StrictWeakOn lt l := by
  have weak := strictWeakOn_compare comparePlace place l
  constructor
  · intro a ha b hb ab
    rw [lt_eq (comparable _ ha) (comparable _ hb)] at ab
    rw [lt_eq (comparable _ hb) (comparable _ ha)]
    exact weak.asymm a ha b hb ab
  · intro a ha b hb c hc ab bc
    rw [lt_eq (comparable _ hb) (comparable _ ha)] at ab
    rw [lt_eq (comparable _ hc) (comparable _ hb)] at bc
    rw [lt_eq (comparable _ hc) (comparable _ ha)]
    exact weak.trans a ha b hb c hc ab bc

/-- A descriptor that equals something is comparable. -/
lemma comparable_of_eq {a b : SpectrumDescriptor} (h : eq a b = true) : b.Comparable := by
  simp only [eq, Binary64.eq, Bool.and_eq_true, Bool.not_eq_true'] at h
  exact ⟨h.1.1.1.2.1.2, h.1.1.2.1.2⟩

/-- Comparable descriptors are equal when their places are. -/
lemma eq_iff {a b : SpectrumDescriptor} (ha : a.Comparable) (hb : b.Comparable) :
    eq a b = true ↔ comparePlace a.place b.place = .eq := by
  simp only [eq, comparePlace, place, compareLex, compareOn, Ordering.then_eq_eq,
    Bool.and_eq_true, decide_eq_true_eq, Binary64.eq_iff ha.1 hb.1, Binary64.eq_iff ha.2 hb.2,
    Std.LawfulEqCmp.compare_eq_iff_eq, UInt16.toNat_inj, and_assoc]
  have grid : a.grid = b.grid ↔ code a.grid = code b.grid := ⟨fun h => h ▸ rfl, code_injective⟩
  rw [grid]

/-- Of two comparable descriptors that differ, the one that is not after comes before. -/
lemma lt_of_ne {a b : SpectrumDescriptor} (ha : a.Comparable) (hb : b.Comparable)
    (ba : lt b a = false) (ne : eq a b = false) : lt a b = true := by
  rw [← Bool.not_eq_true, eq_iff ha hb] at ne
  rw [lt_eq hb ha, @Std.OrientedCmp.eq_swap _ comparePlace] at ba
  rw [lt_eq ha hb]
  cases h : comparePlace a.place b.place with
  | lt => rfl
  | eq => exact absurd h ne
  | gt => rw [h] at ba; cases ba

/-- A descriptor that comes before another one differs from it. -/
lemma eq_eq_false_of_lt {a b : SpectrumDescriptor} (ha : a.Comparable) (hb : b.Comparable)
    (ab : lt a b = true) : eq a b = false := by
  rw [← Bool.not_eq_true, eq_iff ha hb]
  rw [lt_eq ha hb, Ordering.isLT_iff_eq_lt] at ab
  rw [ab]
  simp

/-- Equality of descriptors is symmetric (source `operator==(SpectrumDescriptor)`). -/
lemma eq_symm {a b : SpectrumDescriptor} (h : eq a b = true) : eq b a = true := by
  simp only [eq, Bool.and_eq_true, decide_eq_true_eq] at *
  obtain ⟨⟨⟨⟨lane, center⟩, frequency⟩, grid⟩, channel⟩ := h
  exact ⟨⟨⟨⟨lane.symm, Binary64.eq_symm center⟩, Binary64.eq_symm frequency⟩, grid.symm⟩,
    channel.symm⟩

/-- Equality of descriptors is transitive (source `operator==(SpectrumDescriptor)`). -/
lemma eq_trans {a b c : SpectrumDescriptor} (h : eq a b = true) (h' : eq b c = true) :
    eq a c = true := by
  simp only [eq, Bool.and_eq_true, decide_eq_true_eq] at *
  obtain ⟨⟨⟨⟨lane, center⟩, frequency⟩, grid⟩, channel⟩ := h
  obtain ⟨⟨⟨⟨lane', center'⟩, frequency'⟩, grid'⟩, channel'⟩ := h'
  exact ⟨⟨⟨⟨lane.trans lane', Binary64.eq_trans center center'⟩,
    Binary64.eq_trans frequency frequency'⟩, grid.trans grid'⟩, channel.trans channel'⟩

end SpectrumDescriptor

/-- A sorted set of enumeration values (source `canonical_enum_set`). -/
structure EnumSet where
  values : List Int64
  strict : values.Pairwise fun a b => decide (a < b) = true
deriving DecidableEq

/-- The order of enumeration values is a strict weak order. -/
lemma EnumSet.strictWeakOn (l : List Int64) : StrictWeakOn (fun a b => decide (a < b)) l :=
  strictWeakOn_rank Int64.toInt (fun a b => by simp [Int64.lt_iff_toInt_lt]) l

/-- Sort a list and drop its repetitions (source `canonical_enum_set`). -/
def EnumSet.canonical [StdSort] (l : List Int64) : EnumSet where
  values := sortUnique (fun a b => decide (a < b)) (fun a b => decide (a = b)) l
  strict := sortUnique_strict (EnumSet.strictWeakOn l) fun a _ b _ ba ne => by
    simp only [decide_eq_true_eq, decide_eq_false_iff_not, Int64.lt_iff_toInt_lt,
      ← Int64.toInt_inj] at *
    omega

/-- A sorted set is its own canonical form (source `canonical_enum_set`). -/
lemma EnumSet.canonical_values [StdSort] (s : EnumSet) : canonical s.values = s := by
  obtain ⟨values, strict⟩ := s
  simp only [canonical, EnumSet.mk.injEq]
  refine sortUnique_eq_self (EnumSet.strictWeakOn values) strict fun a _ b _ ab => ?_
  simp only [decide_eq_true_eq, decide_eq_false_iff_not, Int64.lt_iff_toInt_lt,
    ← Int64.toInt_inj] at *
  omega

/-- A sorted set of texts (source `canonical_text_set`). -/
structure TextSet where
  values : List Bytes
  strict : values.Pairwise fun a b => (compareBytes a b).isLT = true
deriving DecidableEq

/-- Sort a list and drop its repetitions (source `canonical_text_set`). -/
def TextSet.canonical [StdSort] (l : List Bytes) : TextSet where
  values := sortUnique (fun a b => (compareBytes a b).isLT) (fun a b => decide (a = b)) l
  strict := sortUnique_strict (strictWeakOn_compare compareBytes id l) fun a _ b _ ba ne => by
    rw [@Std.OrientedCmp.eq_swap _ compareBytes] at ba
    cases h : compareBytes a b with
    | lt => rfl
    | eq =>
      rw [decide_eq_false_iff_not] at ne
      exact absurd (Std.LawfulEqCmp.eq_of_compare h) ne
    | gt => rw [h] at ba; cases ba

/-- A sorted set is its own canonical form (source `canonical_text_set`). -/
lemma TextSet.canonical_values [StdSort] (s : TextSet) : canonical s.values = s := by
  obtain ⟨values, strict⟩ := s
  simp only [canonical, TextSet.mk.injEq]
  refine sortUnique_eq_self (strictWeakOn_compare compareBytes id values) strict fun a _ b _ ab => ?_
  rw [decide_eq_false_iff_not]
  rintro rfl
  have same : compareBytes a a = .eq := Std.ReflCmp.compare_self
  rw [same] at ab
  cases ab

/-- A sorted list of wavelengths (source `canonical_spectrum`). -/
structure Spectrum where
  values : List SpectrumDescriptor
  strict : (∀ d ∈ values, d.Comparable) → values.Pairwise fun a b => a.lt b = true
deriving DecidableEq

/-- Sort a list and drop its repetitions (source `canonical_spectrum`). A list with a NaN is outside
the contract of the sort; it comes out in an unspecified order. -/
def Spectrum.canonical [StdSort] (l : List SpectrumDescriptor) : Spectrum where
  values := sortUnique SpectrumDescriptor.lt SpectrumDescriptor.eq l
  strict comparable := by
    have all : ∀ d ∈ l, d.Comparable := by
      intro d hd
      rcases mem_sortUnique_or hd with h | ⟨y, _, h⟩
      · exact comparable d h
      · exact SpectrumDescriptor.comparable_of_eq h
    exact sortUnique_strict (SpectrumDescriptor.strictWeakOn all) fun a ha b hb =>
      SpectrumDescriptor.lt_of_ne (all a ha) (all b hb)

/-- A sorted list of comparable wavelengths is its own canonical form
(source `canonical_spectrum`). -/
lemma Spectrum.canonical_values [StdSort] {s : Spectrum} (comparable : ∀ d ∈ s.values, d.Comparable) :
    canonical s.values = s := by
  obtain ⟨values, strict⟩ := s
  simp only [canonical, Spectrum.mk.injEq]
  exact sortUnique_eq_self (SpectrumDescriptor.strictWeakOn comparable) (strict comparable)
    fun a ha b hb => SpectrumDescriptor.eq_eq_false_of_lt (comparable a ha) (comparable b hb)

/-- A capability value in its canonical form (source `CapabilityValue`). -/
inductive CapabilityValue where
  | none
  | boolean (value : Bool)
  | count (value : Int64)
  | enumeration (value : Int64)
  | real (value : Binary64)
  | text (value : Bytes)
  | enumSet (values : EnumSet)
  | textSet (values : TextSet)
  | spectrum (values : Spectrum)

namespace CapabilityValue

/-- The shape of a value (source `CapabilityValue::kind`). -/
def kind : CapabilityValue → CapabilityValueKind
  | none => .none
  | boolean _ => .boolean
  | count _ => .count
  | enumeration _ => .enum
  | real _ => .real
  | text _ => .text
  | enumSet _ => .enumSet
  | textSet _ => .textSet
  | spectrum _ => .spectrum

/-- A boolean value (source `CapabilityValue::as_boolean`). -/
def asBoolean : CapabilityValue → Option Bool
  | boolean value => some value
  | _ => Option.none

/-- Accept a wavelength with finite numbers that are not negative
(source `CapabilityValue::validate_for`, the loop over a spectrum). -/
def validateSpectrumDescriptor (d : SpectrumDescriptor) : Result Unit := do
  refuseIf (d.centerNm.isFinite = false ∨ d.frequencyThz.isFinite = false)
    (makeError .invalidArgument "spectrum descriptor must be finite")
  refuseIf (d.centerNm.lt (.ofInt 0) = true ∨ d.frequencyThz.lt (.ofInt 0) = true)
    (makeError .invalidArgument "spectrum descriptor must not be negative")

/-- Accept a value of the shape the key requires (source `CapabilityValue::validate_for`). -/
def validateFor (value : CapabilityValue) (key : CapabilityKey) : Result Unit := do
  let expected := capabilityValueKind key
  refuseIf (expected = .none)
    (makeError .unsupported "capability key is not modelled by this runtime")
  refuseIf (value.kind ≠ expected) ⟨.invalidArgument,
    TransceiverRegistry.text "capability value shape does not match key " ++ key.toText⟩
  match value with
  | count n =>
    refuseIf (n < 0) (makeError .invalidArgument "count capability must not be negative")
  | real x =>
    refuseIf (x.isFinite = false) (makeError .invalidArgument "real capability must be finite")
  | enumeration n =>
    refuseIf (n < 0 ∨ 255 < n) (makeError .invalidArgument "enum capability is out of range")
  | enumSet s =>
    forEach (fun n => refuseIf (n < 0 ∨ 255 < n) (makeError .invalidArgument
      "enum set capability contains an out-of-range value")) s.values
  | spectrum s =>
    forEach validateSpectrumDescriptor s.values
  | _ => .ok ()

end CapabilityValue

/-- A recorded statement about one capability of a module or a port
(source `CapabilityDeclaration`). -/
structure CapabilityDeclaration where
  key : CapabilityKey
  subkey : Bytes
  value : CapabilityValue
  source : SourceId
  sourceEpoch : SourceEpoch
  module : ModuleUid
  incarnation : IncarnationId
  port : PortKey
  moduleSubject : Bool
  generation : Generation
  sequence : Sequence
  observedAtWallNs : WallNs
  clockDomain : ClockDomainId
  provenance : Provenance
  live : Bool

end TransceiverRegistry
