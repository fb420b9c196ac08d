import TransceiverRegistry.Canonical.Writer
import TransceiverRegistry.Model.Capability
import Mathlib.Data.List.Forall2

/-!
# Consensus over one capability attribute

Port of the `CapabilityConsensus` of `capability.hpp`, of the comparison of two capability values and
of their canonical form in `capability.cpp`.
-/

namespace TransceiverRegistry

open Lib

namespace CapabilityValue

/-- Two values of one shape are equal; two numbers are equal as numbers
(source `capability_values_equal`). -/
def equal : CapabilityValue → CapabilityValue → Bool
  | none, none => true
  | boolean a, boolean b => a = b
  | count a, count b => a = b
  | enumeration a, enumeration b => a = b
  | real a, real b => a.eq b
  | text a, text b => a = b
  | enumSet a, enumSet b => a = b
  | textSet a, textSet b => a = b
  | spectrum a, spectrum b =>
    a.values.length = b.values.length && (a.values.zip b.values).all fun pair => pair.1.eq pair.2
  | _, _ => false

/-- Two spectra are equal wavelength by wavelength (source `capability_values_equal`). -/
lemma equal_spectrum {a b : Spectrum} : (spectrum a).equal (spectrum b) = true ↔
    List.Forall₂ (fun a b => SpectrumDescriptor.eq a b = true) a.values b.values := by
  rw [List.forall₂_iff_zip, equal, Bool.and_eq_true, decide_eq_true_eq, List.all_eq_true]
  exact and_congr_right fun _ =>
    ⟨fun all _ _ member => all _ member, fun all pair member => all member⟩

/-- Equal values are the same, or equal numbers, or equal spectra
(source `capability_values_equal`). -/
lemma equal_cases {a b : CapabilityValue} (h : a.equal b = true) :
    a = b ∨ (∃ x y, a = real x ∧ b = real y ∧ x.eq y = true) ∨
      ∃ x y, a = spectrum x ∧ b = spectrum y ∧
        List.Forall₂ (fun a b => SpectrumDescriptor.eq a b = true) x.values y.values := by
  cases a with
  | real x =>
    cases b with
    | real y => exact .inr (.inl ⟨x, y, rfl, rfl, h⟩)
    | _ => cases h
  | spectrum x =>
    cases b with
    | spectrum y => exact .inr (.inr ⟨x, y, rfl, rfl, equal_spectrum.1 h⟩)
    | _ => cases h
  | _ => cases b <;> simp_all [equal]

/-- Equality of values is symmetric (source `capability_values_equal`). -/
lemma equal_symm {a b : CapabilityValue} (h : a.equal b = true) : b.equal a = true := by
  obtain rfl | ⟨x, y, rfl, rfl, same⟩ | ⟨x, y, rfl, rfl, same⟩ := equal_cases h
  · exact h
  · exact Binary64.eq_symm same
  · exact equal_spectrum.2 (same.flip.imp fun _ _ => SpectrumDescriptor.eq_symm)

/-- Equality wavelength by wavelength is transitive (source `capability_values_equal`). -/
lemma forall₂_eq_trans {a b c : List SpectrumDescriptor}
    (h : List.Forall₂ (fun a b => SpectrumDescriptor.eq a b = true) a b)
    (h' : List.Forall₂ (fun a b => SpectrumDescriptor.eq a b = true) b c) :
    List.Forall₂ (fun a b => SpectrumDescriptor.eq a b = true) a c := by
  induction h generalizing c with
  | nil => exact h'
  | cons first rest ih =>
    cases h' with
    | cons first' rest' => exact .cons (SpectrumDescriptor.eq_trans first first') (ih rest')

/-- Equality of values is transitive (source `capability_values_equal`). -/
lemma equal_trans {a b c : CapabilityValue} (h : a.equal b = true) (h' : b.equal c = true) :
    a.equal c = true := by
  obtain rfl | ⟨x, y, rfl, rfl, same⟩ | ⟨x, y, rfl, rfl, same⟩ := equal_cases h
  · exact h'
  · obtain rfl | ⟨y', z, e, rfl, same'⟩ | ⟨y', z, e, -⟩ := equal_cases h'
    · exact h
    · cases e
      exact Binary64.eq_trans same same'
    · cases e
  · obtain rfl | ⟨y', z, e, -⟩ | ⟨y', z, e, rfl, same'⟩ := equal_cases h'
    · exact h
    · cases e
    · cases e
      exact equal_spectrum.2 (forall₂_eq_trans same same')

/-- A count or a real as a real (source `CapabilityValue::number_as_double`). -/
def numberAsDouble : CapabilityValue → Option Binary64
  | count value => some (.ofInt value.toInt)
  | real value => some value
  | _ => Option.none

end CapabilityValue

/-- Write one wavelength (source `write_spectrum`, the loop). -/
def writeSpectrumDescriptor (w : CanonicalWriter) (d : SpectrumDescriptor) : CanonicalWriter :=
  let w := ((w.beginObject 5).field (text "center_nm")).real d.centerNm
  let w := (w.field (text "channel")).text d.channel
  let w := (w.field (text "frequency_thz")).real d.frequencyThz
  let w := (w.field (text "grid")).integer (Int64.ofNat (code d.grid))
  (w.field (text "lane")).integer (Int64.ofNat d.lane.toNat)

/-- Write the value of a member named `k` that tells its shape (source `write_canonical`). -/
def writeShape (w : CanonicalWriter) (shape : String) : CanonicalWriter :=
  (w.field (text "k")).text (text shape)

/-- Write a capability value (source `write_canonical`). -/
def CapabilityValue.writeCanonical (w : CanonicalWriter) : CapabilityValue → CanonicalWriter
  | .none => writeShape (w.beginObject 1) "none"
  | .boolean value =>
    writeShape (((w.beginObject 2).field (TransceiverRegistry.text "b")).boolean value) "boolean"
  | .count value =>
    writeShape (((w.beginObject 2).field (TransceiverRegistry.text "i")).integer value) "count"
  | .enumeration value =>
    writeShape (((w.beginObject 2).field (TransceiverRegistry.text "i")).integer value) "enum"
  | .real value =>
    ((writeShape (w.beginObject 2) "real").field (TransceiverRegistry.text "r")).real value
  | .text value =>
    ((writeShape (w.beginObject 2) "text").field (TransceiverRegistry.text "t")).text value
  | .enumSet set =>
    let w := (writeShape (w.beginObject 2) "enum_set").field (TransceiverRegistry.text "s")
    set.values.foldl CanonicalWriter.integer (w.beginArray set.values.length)
  | .textSet set =>
    let w := (writeShape (w.beginObject 2) "text_set").field (TransceiverRegistry.text "s")
    set.values.foldl CanonicalWriter.text (w.beginArray set.values.length)
  | .spectrum set =>
    let w := (writeShape (w.beginObject 2) "spectrum").field (TransceiverRegistry.text "s")
    set.values.foldl writeSpectrumDescriptor (w.beginArray set.values.length)

/-- What the live declarations of one attribute agree on (source `CapabilityConsensus`). -/
structure CapabilityConsensus where
  key : CapabilityKey
  subkey : Bytes
  outcome : ConsensusOutcome
  hasValue : Bool
  value : CapabilityValue
  declarations : List CapabilityDeclaration
  superseded : List CapabilityDeclaration
  digest : Digest

/-- Live, agreeing evidence establishes the attribute (source `CapabilityConsensus::established`). -/
def CapabilityConsensus.established (consensus : CapabilityConsensus) : Bool :=
  consensus.hasValue && (consensus.outcome = .agreed || consensus.outcome = .singleSource)

end TransceiverRegistry
