import TransceiverRegistry.Canonical.Acceptance
import TransceiverRegistry.Canonical.Documents
import TransceiverRegistry.Codec.Capability
import TransceiverRegistry.Compat.Inputs

/-!
# The two encoders of a capability value

`write_canonical` writes a capability value field by field, in an order that is fixed in the code;
the codec builds an object, which sorts its fields, and writes that. Both write the same bytes. An
accepted value with UTF-8 texts is read back from whatever document those bytes are accepted as.
-/

namespace TransceiverRegistry

open Lib CanonicalWriter

/-- An object that is built from fields in key order keeps their order (source `Value::object`). -/
lemma object_of_ordered {ms : List (Bytes × Value)} (ordered : Value.KeysOrdered ms) :
    Value.object ms = .members ms := by
  obtain ⟨kept, members, keptOrdered, same⟩ := Value.object_members ms
  rw [members, Ascending.ext keptOrdered ordered same]

/-- The names of the fields are in byte order (source `Value::object`). -/
def namesOrdered (names : List String) : Bool :=
  names.Pairwise fun a b => (compareBytes (text a) (text b)).isLT = true

/-- An object that is encoded with its fields in key order keeps their order (source
`codec::object`). -/
lemma codecObject_of_ordered {ms : List (String × Value)}
    (ordered : namesOrdered (ms.map Prod.fst) = true) :
    codecObject ms = .members (ms.map fun m => (text m.1, m.2)) := by
  refine object_of_ordered ?_
  have pairs := List.pairwise_map.1 (of_decide_eq_true ordered)
  exact List.pairwise_map.2 pairs

/-- The fields of a wavelength are given in key order (source `Codec<SpectrumDescriptor>::encode`). -/
lemma SpectrumDescriptor.codecObject_fields (d : SpectrumDescriptor) :
    codecObject d.fields = d.document := by
  refine codecObject_of_ordered ?_
  simp only [SpectrumDescriptor.fields, List.map]
  decide +kernel

/-- The fields of a capability value are given in key order (source
`Codec<CapabilityValue>::encode`). -/
lemma CapabilityValue.codecObject_fields (value : CapabilityValue) :
    codecObject value.fields = value.document := by
  have ordered : namesOrdered (value.fields.map Prod.fst) = true := by
    cases value <;> (simp only [CapabilityValue.fields, kindMember, List.map]; decide +kernel)
  rw [codecObject_of_ordered ordered]
  cases value with
  | spectrum s =>
    simp only [CapabilityValue.fields, CapabilityValue.document,
      SpectrumDescriptor.codecObject_fields]
    rfl
  | _ => rfl

/-- An accepted value is readable (source `CapabilityValue::validate_for`, `read_canonical`). -/
lemma CapabilityValue.readable_of_validateFor {value : CapabilityValue} {key : CapabilityKey}
    (valid : value.validateFor key = .ok ()) : value.Readable := by
  simp only [CapabilityValue.validateFor, refuseIf_bind_eq_ok] at valid
  obtain ⟨_, _, shape⟩ := valid
  cases value with
  | count n => exact refuseIf_eq_ok.1 shape
  | real x =>
    rw [refuseIf_eq_ok, Bool.not_eq_false] at shape
    exact shape
  | enumeration n => exact refuseIf_eq_ok.1 shape
  | spectrum s =>
    intro d member
    have accepted := forEach_eq_ok.1 shape d member
    simp only [CapabilityValue.validateSpectrumDescriptor, refuseIf_bind_eq_ok, refuseIf_eq_ok,
      not_or, Bool.not_eq_false, Bool.not_eq_true] at accepted
    exact ⟨accepted.1.1, accepted.1.2, accepted.2.1, accepted.2.2⟩
  | _ => trivial

/-- The two encoders write the same bytes for every capability value, and both fail or neither does.
And an accepted value with UTF-8 texts is written without a failure and read back, as the object that
the codec builds and as any document that its bytes are accepted as, which they are exactly when the
document is within the limits of the reader (source `write_canonical`, `read_canonical`,
`Codec<CapabilityValue>::encode`). -/
theorem capability_encoders_agree [StdSort] :
    (∀ (w : CanonicalWriter) (value : CapabilityValue),
      value.writeCanonical w = w.writeValue (encode value)) ∧
    ∀ (key : CapabilityKey) (value : CapabilityValue), value.validateFor key = .ok () →
      value.Legible → (value.writeCanonical new).failed = false ∧
      readCanonical (encode value) = .ok value ∧ ∀ lim : CanonicalLimits,
      ((∃ document, readDocument lim (value.writeCanonical new).bytes = .ok document) ↔
        (encode value).InLimits lim) ∧
      ∀ document, readDocument lim (value.writeCanonical new).bytes = .ok document →
        readCanonical document = .ok value := by
  have agree : ∀ (w : CanonicalWriter) (value : CapabilityValue),
      value.writeCanonical w = w.writeValue (encode value) := by
    intro w value
    rw [writeCanonical_eq]
    exact congrArg w.writeValue value.codecObject_fields.symm
  refine ⟨agree, fun key value valid legible => ?_⟩
  have same : encode value = value.document := value.codecObject_fields
  have written : (new.writeValue (encode value)).failed = false := by
    rw [same]
    exact (document_written valid).2 legible
  have back : readCanonical (encode value) = .ok value :=
    CapabilityValue.decode_encode.2 ⟨CapabilityValue.readable_of_validateFor valid, rfl⟩
  -- whatever the reader accepts of these bytes is the object that the codec builds
  have unique : ∀ {lim document}, readDocument lim (new.writeValue (encode value)).bytes =
      .ok document → document = encode value := by
    intro lim document accepted
    obtain ⟨fits, reproduced⟩ := readDocument_eq_ok_iff.1 accepted
    have small := fits.document
    rw [reproduced] at small
    refine readDocument_accepted (CapabilityValue.canonical_encode value) written ?_ accepted
    exact Nat.lt_of_le_of_lt small lim.maxDocumentBytes.toNat_lt
  rw [agree]
  refine ⟨written, back, fun lim => ⟨⟨?_, fun fits => ?_⟩, fun document accepted => ?_⟩⟩
  · rintro ⟨document, accepted⟩
    obtain ⟨fits, _⟩ := readDocument_eq_ok_iff.1 accepted
    rwa [unique accepted] at fits
  · exact ⟨encode value, (document_round_trip lim (encode value) fits).2⟩
  · rw [unique accepted]
    exact back

/-- A wavelength of the first lane, in a channel that is named with a letter of two bytes. -/
def namedWavelength : SpectrumDescriptor := ⟨0, .ofInt 1550, .ofInt 193, .unknown, [0xc3, 0xa9]⟩

/-- The two encoders agree on a set of one wavelength, and what they write is read back. -/
theorem capability_encoders_agree_wavelength : ∃ document,
    readDocument .snapshot (new.writeValue (encode
      (CapabilityValue.spectrum ⟨[namedWavelength], by simp⟩))).bytes = .ok document ∧
    readCanonical document = .ok (.spectrum ⟨[namedWavelength], by simp⟩) := by
  let value : CapabilityValue := .spectrum ⟨[namedWavelength], by simp⟩
  obtain ⟨same, reads⟩ := capability_encoders_agree
  obtain ⟨_, _, accepts⟩ := reads .wavelengths value (by decide +kernel) (by
    intro d member
    obtain rfl := List.mem_singleton.1 member
    decide +kernel)
  have accepted : ∃ document,
      readDocument .snapshot (value.writeCanonical new).bytes = .ok document := by
    have read : (readDocument .snapshot (value.writeCanonical new).bytes).toOption.any
        (fun _ => true) = true := by decide +kernel
    obtain ⟨document, here, _⟩ := exists_ok_of_any read
    exact ⟨document, here⟩
  obtain ⟨document, here⟩ := accepted
  have back := (accepts .snapshot).2 document here
  rw [same] at here
  exact ⟨document, here, back⟩

end TransceiverRegistry
