import TransceiverRegistry.Codec.Identity
import TransceiverRegistry.Model.Capability

/-!
# Codecs of capabilities

Port of the capability codecs of `codec.cpp` and of `read_canonical` of `capability.cpp`. The reader
is stricter than the type: it refuses negative counts, enumeration values above 255, reals and
wavelengths that are not finite, and negative wavelengths.
-/

namespace TransceiverRegistry

open Lib

/-- The member that names the shape of an encoded value (source `Codec<CapabilityValue>`). -/
def kindMember (kind : String) : String × Value := ("k", .text (text kind))

namespace SpectrumDescriptor

/-- The members of an encoded wavelength (source `Codec<SpectrumDescriptor>::encode`). -/
def fields (value : SpectrumDescriptor) : List (String × Value) := [
  ("center_nm", .real value.centerNm),
  ("channel", .text value.channel),
  ("frequency_thz", .real value.frequencyThz),
  ("grid", integerOf (code value.grid)),
  ("lane", integerOf value.lane.toNat)]

/-- Read a wavelength (source `read_spectrum_descriptor`). -/
def read (encoded : Value) : Result SpectrumDescriptor := do
  let object ← asObject encoded "spectrum entry"
  let lane ← getInteger object "lane"
  refuseIf (lane < 0 ∨ 65535 < lane) (makeError .malformed "spectrum lane is out of range")
  let centerNm ← getReal object "center_nm"
  let frequencyThz ← getReal object "frequency_thz"
  refuseIf (centerNm.isFinite = false ∨ frequencyThz.isFinite = false)
    (makeError .malformed "spectrum descriptor must be finite")
  refuseIf (centerNm.lt (.ofInt 0) = true ∨ frequencyThz.lt (.ofInt 0) = true)
    (makeError .malformed "spectrum descriptor must not be negative")
  let gridRaw ← getInteger object "grid"
  refuseIf (gridRaw < 0 ∨ Int64.ofNat (WireEnum.last WavelengthGrid) < gridRaw)
    (makeError .malformed "spectrum grid is not a known wavelength grid")
  let channel ← getText object "channel"
  .ok ⟨lane.toUInt64.toUInt16, centerNm, frequencyThz, WireEnum.ofCode gridRaw.toInt.toNat, channel⟩

/-- The numbers of a wavelength are finite and not negative. -/
structure Readable (value : SpectrumDescriptor) : Prop where
  center : value.centerNm.isFinite = true
  frequency : value.frequencyThz.isFinite = true
  center_nonneg : value.centerNm.lt (.ofInt 0) = false
  frequency_nonneg : value.frequencyThz.lt (.ofInt 0) = false

lemma Readable.comparable {value : SpectrumDescriptor} (h : value.Readable) : value.Comparable :=
  ⟨Binary64.not_isNaN_of_isFinite h.center, Binary64.not_isNaN_of_isFinite h.frequency⟩

lemma fields_ok (value : SpectrumDescriptor) : keysOk (value.fields.map Prod.fst) = true := by
  simp only [fields, List.map]
  decide +kernel

/-- A stored wavelength is read back when its numbers are readable
(source `read_spectrum_descriptor`). -/
lemma read_fields {value value' : SpectrumDescriptor} :
    read (codecObject value.fields) = .ok value' ↔ value.Readable ∧ value' = value := by
  have holds {k x} (h : value.fields.lookup k = some x) : Holds (codecObject value.fields) k x :=
    holds_codecObject value.fields_ok h
  have small := value.lane.toNat_lt
  have lane : ¬ Int64.ofNat value.lane.toNat < 0 ∧ ¬ 65535 < Int64.ofNat value.lane.toNat := by
    have : (65535 : Int64).toInt = 65535 := by decide
    simp only [Int64.lt_iff_toInt_lt, toInt_ofNat_of_lt (show value.lane.toNat < 2 ^ 63 by omega),
      Int64.toInt_zero]
    omega
  have laneBack : (Int64.ofNat value.lane.toNat).toUInt64.toUInt16 = value.lane := by simp
  simp only [read, bind_eq_ok, refuseIf_eq_ok, asObject_eq (holds (k := "lane") rfl).object,
    getInteger_eq (holds (k := "lane") rfl), getReal_eq (holds (k := "center_nm") rfl),
    getReal_eq (holds (k := "frequency_thz") rfl), getInteger_eq (holds (k := "grid") rfl),
    getText_eq (holds (k := "channel") rfl), Except.ok.injEq, exists_eq_left', exists_const, lane,
    code_in_range value.grid, ofCode_toInt, laneBack, not_false_eq_true, true_and, not_or, Bool.not_eq_false,
    Bool.not_eq_true, @eq_comm _ value']
  constructor
  · rintro ⟨⟨h1, h2⟩, ⟨h3, h4⟩, e⟩
    exact ⟨⟨h1, h2, h3, h4⟩, e⟩
  · rintro ⟨⟨h1, h2, h3, h4⟩, e⟩
    exact ⟨⟨h1, h2⟩, ⟨h3, h4⟩, e⟩

end SpectrumDescriptor

/-- Read an entry of an enumeration set (source `read_canonical`). -/
def readEnumEntry : Value → Result Int64
  | .integer value => .ok value
  | _ => .error (makeError .malformed "enum set entry must be an integer")

/-- Read an entry of a text set (source `read_canonical`). -/
def readTextEntry : Value → Result Bytes
  | .text value => .ok value
  | _ => .error (makeError .malformed "text set entry must be text")

/-- Read a capability value of the shape that `kindText` names (source `read_canonical`). -/
def readShape [StdSort] (object : Value) (kindText : Bytes) : Result CapabilityValue :=
  if kindText = text "none" then .ok .none
  else if kindText = text "boolean" then do
    let raw ← getBoolean object "b"
    .ok (.boolean raw)
  else if kindText = text "count" then do
    let raw ← getInteger object "i"
    refuseIf (raw < 0) (makeError .malformed "capability count must not be negative")
    .ok (.count raw)
  else if kindText = text "enum" then do
    let raw ← getInteger object "i"
    refuseIf (raw < 0 ∨ 255 < raw) (makeError .malformed "capability enum value is out of range")
    .ok (.enumeration raw)
  else if kindText = text "real" then do
    let raw ← getReal object "r"
    refuseIf (raw.isFinite = false) (makeError .malformed "capability real must be finite")
    .ok (.real raw)
  else if kindText = text "text" then do
    let raw ← getText object "t"
    .ok (.text raw)
  else if kindText = text "enum_set" then do
    let array ← getArray object "s"
    let values ← decodeEach readEnumEntry array
    .ok (.enumSet (.canonical values))
  else if kindText = text "text_set" then do
    let array ← getArray object "s"
    let values ← decodeEach readTextEntry array
    .ok (.textSet (.canonical values))
  else if kindText = text "spectrum" then do
    let array ← getArray object "s"
    let values ← decodeEach SpectrumDescriptor.read array
    .ok (.spectrum (.canonical values))
  else .error (makeError .malformed "unknown capability value kind")

/-- Read a capability value (source `read_canonical`). -/
def readCanonical [StdSort] (encoded : Value) : Result CapabilityValue := do
  let object ← asObject encoded "capability value"
  let kindText ← getText object "k"
  readShape object kindText

namespace CapabilityValue

/-- The members of an encoded value (source `Codec<CapabilityValue>::encode`). -/
def fields : CapabilityValue → List (String × Value)
  | none => [kindMember "none"]
  | boolean value => [("b", .boolean value), kindMember "boolean"]
  | count value => [("i", .integer value), kindMember "count"]
  | enumeration value => [("i", .integer value), kindMember "enum"]
  | real value => [kindMember "real", ("r", .real value)]
  | text value => [kindMember "text", ("t", .text value)]
  | enumSet s => [kindMember "enum_set", ("s", .array (s.values.map .integer))]
  | textSet s => [kindMember "text_set", ("s", .array (s.values.map .text))]
  | spectrum s =>
    [kindMember "spectrum", ("s", .array (s.values.map fun d => codecObject d.fields))]

instance [StdSort] : Codec CapabilityValue where
  encode value := codecObject value.fields
  decode := readCanonical

/-- The reader accepts the value (source `read_canonical`). -/
def Readable : CapabilityValue → Prop
  | count value => ¬ value < 0
  | enumeration value => ¬ (value < 0 ∨ 255 < value)
  | real value => value.isFinite = true
  | spectrum s => ∀ d ∈ s.values, d.Readable
  | _ => True

/-- The texts and the sets of a value have room in a snapshot, and its numbers can be written. -/
def PartsFit : CapabilityValue → Prop
  | real value => value.isNaN = false
  | text value => TextFits value
  | enumSet s => s.values.length ≤ 1048576
  | textSet s => s.values.length ≤ 1048576 ∧ ∀ t ∈ s.values, TextFits t
  | spectrum s => s.values.length ≤ 1048576 ∧ ∀ d ∈ s.values, TextFits d.channel ∧ d.Comparable
  | _ => True

/-- A bound on the weight of an encoded value. -/
def bound : CapabilityValue → Nat
  | text value => 300 + value.length
  | enumSet s => 300 + 16 * s.values.length
  | textSet s => 300 + (s.values.map fun t => 16 + t.length).sum
  | spectrum s => 300 + (s.values.map fun d => 400 + d.channel.length).sum
  | _ => 300

lemma fields_ok (value : CapabilityValue) : keysOk (value.fields.map Prod.fst) = true := by
  cases value <;> (simp only [fields, kindMember, List.map]; decide +kernel)

variable [StdSort]

/-- A stored value is read back when its numbers are readable (source `read_canonical`). -/
lemma decode_encode {value read : CapabilityValue} :
    decode (encode value) = .ok read ↔ value.Readable ∧ read = value := by
  have holds {k x} (h : value.fields.lookup k = some x) : Holds (codecObject value.fields) k x :=
    holds_codecObject value.fields_ok h
  have shape {kind : Bytes} (h : Holds (codecObject value.fields) "k" (.text kind)) :
      readCanonical (codecObject value.fields) = readShape (codecObject value.fields) kind := by
    rw [readCanonical, asObject_eq h.object]
    change (getText _ _ >>= _) = _
    rw [getText_eq h]
    rfl
  change readCanonical (codecObject value.fields) = .ok read ↔ _
  cases value with
  | none =>
    rw [shape (holds (k := "k") rfl)]
    change Except.ok CapabilityValue.none = .ok read ↔ _
    simp [Readable, @eq_comm _ read]
  | boolean value =>
    rw [shape (holds (k := "k") rfl)]
    change (getBoolean _ "b" >>= _) = _ ↔ _
    simp [getBoolean_eq (holds (k := "b") rfl), bind_eq_ok, Readable, @eq_comm _ read]
  | count value =>
    rw [shape (holds (k := "k") rfl)]
    change (getInteger _ "i" >>= _) = _ ↔ _
    simp [getInteger_eq (holds (k := "i") rfl), bind_eq_ok, Readable, @eq_comm _ read]
  | enumeration value =>
    rw [shape (holds (k := "k") rfl)]
    change (getInteger _ "i" >>= _) = _ ↔ _
    simp [getInteger_eq (holds (k := "i") rfl), bind_eq_ok, Readable, @eq_comm _ read]
  | real value =>
    rw [shape (holds (k := "k") rfl)]
    change (getReal _ "r" >>= _) = _ ↔ _
    simp [getReal_eq (holds (k := "r") rfl), bind_eq_ok, Readable, @eq_comm _ read]
  | text value =>
    rw [shape (holds (k := "k") rfl)]
    change (getText _ "t" >>= _) = _ ↔ _
    simp [getText_eq (holds (k := "t") rfl), bind_eq_ok, Readable, @eq_comm _ read]
  | enumSet s =>
    rw [shape (holds (k := "k") rfl)]
    change (getArray _ "s" >>= _) = _ ↔ _
    have each := @decodeEach_eq_ok _ readEnumEntry .integer (fun _ => True)
      (fun a b => by simp [readEnumEntry, eq_comm]) s.values
    simp [getArray_eq (holds (k := "s") rfl), bind_eq_ok, each, s.canonical_values, Readable,
      @eq_comm _ read]
  | textSet s =>
    rw [shape (holds (k := "k") rfl)]
    change (getArray _ "s" >>= _) = _ ↔ _
    have each := @decodeEach_eq_ok _ readTextEntry .text (fun _ => True)
      (fun a b => by simp [readTextEntry, eq_comm]) s.values
    simp [getArray_eq (holds (k := "s") rfl), bind_eq_ok, each, s.canonical_values, Readable,
      @eq_comm _ read]
  | spectrum s =>
    rw [shape (holds (k := "k") rfl)]
    change (getArray _ "s" >>= _) = _ ↔ _
    have each := @decodeEach_eq_ok _ SpectrumDescriptor.read (fun d => codecObject d.fields)
      SpectrumDescriptor.Readable (fun _ _ => SpectrumDescriptor.read_fields) s.values
    simp only [getArray_eq (holds (k := "s") rfl), bind_eq_ok, each, Except.ok.injEq,
      exists_eq_left', and_assoc, exists_and_left, exists_eq_left, Readable, @eq_comm _ _ read]
    refine and_congr_right fun readable => ?_
    rw [Spectrum.canonical_values fun d mem => (readable d mem).comparable]

/-- An encoded value is canonical (source `Codec<CapabilityValue>::encode`). -/
lemma canonical_encode (value : CapabilityValue) : (encode value).Canonical := by
  refine canonical_codecObject value.fields_ok ?_
  cases value with
  | spectrum s =>
    have each (d : SpectrumDescriptor) : (codecObject d.fields).Canonical :=
      canonical_codecObject d.fields_ok (by simp [SpectrumDescriptor.fields, integerOf, Value.Canonical])
    simp [fields, kindMember, Value.Canonical, Value.elementsCanonical_iff, each]
  | _ => simp [fields, kindMember, Value.Canonical, Value.elementsCanonical_iff]

/-- There is room for an encoded value (source `Codec<CapabilityValue>::encode`). -/
lemma fits_encode {value : CapabilityValue} (h : value.PartsFit) : (encode value).Fits 4 := by
  refine fits_codecObject value.fields_ok (by cases value <;> simp [fields]) ?_
  cases value with
  | none | boolean | count | enumeration =>
    simp only [fields, kindMember, List.mem_cons, List.not_mem_nil, or_false, forall_eq_or_imp,
      forall_eq, fits_text, fits_boolean, fits_integer, true_and]
    decide
  | real value =>
    have kind : TextFits (TransceiverRegistry.text "real") := by decide
    have number : value.isNaN = false := h
    simp [fields, kindMember, kind, number]
  | text value =>
    have kind : TextFits (TransceiverRegistry.text "text") := by decide
    have given : TextFits value := h
    simp [fields, kindMember, kind, given]
  | enumSet s =>
    have kind : TextFits (TransceiverRegistry.text "enum_set") := by decide
    have array : (Value.array (s.values.map .integer)).Fits 3 :=
      fits_array (by rwa [List.length_map]) (by simp)
    simpa [fields, kindMember, kind] using array
  | textSet s =>
    have kind : TextFits (TransceiverRegistry.text "text_set") := by decide
    have array : (Value.array (s.values.map .text)).Fits 3 :=
      fits_array (by rw [List.length_map]; exact h.1) (by simpa using h.2)
    simpa [fields, kindMember, kind] using array
  | spectrum s =>
    have kind : TextFits (TransceiverRegistry.text "spectrum") := by decide
    have each : ∀ d ∈ s.values, (codecObject d.fields).Fits 2 := fun d mem =>
      fits_codecObject d.fields_ok (by simp [SpectrumDescriptor.fields])
        (by simp [SpectrumDescriptor.fields, (h.2 d mem).1, (h.2 d mem).2.1, (h.2 d mem).2.2])
    have array : (Value.array (s.values.map fun d => codecObject d.fields)).Fits 3 :=
      fits_array (by rw [List.length_map]; exact h.1) (by simpa using each)
    simpa [fields, kindMember, kind] using array

/-- The weight of an encoded value is bounded (source `Codec<CapabilityValue>::encode`). -/
lemma weight_encode_le (value : CapabilityValue) : (encode value).weight ≤ value.bound := by
  refine (weight_codecObject_le value.fields_ok).trans ?_
  have kind {s : String} (short : (TransceiverRegistry.text s).length ≤ 8) :
      (kindMember s).2.weight ≤ 24 := by
    simp only [kindMember, Value.weight]
    omega
  cases value with
  | none =>
    have := @kind "none" (by decide)
    simp +arith only [fields, bound, List.map, List.sum_cons, List.sum_nil]
    omega
  | boolean value =>
    have := @kind "boolean" (by decide)
    simp +arith only [fields, bound, Value.weight, List.map, List.sum_cons, List.sum_nil]
    omega
  | count value =>
    have := @kind "count" (by decide)
    simp +arith only [fields, bound, Value.weight, List.map, List.sum_cons, List.sum_nil]
    omega
  | enumeration value =>
    have := @kind "enum" (by decide)
    simp +arith only [fields, bound, Value.weight, List.map, List.sum_cons, List.sum_nil]
    omega
  | real value =>
    have := @kind "real" (by decide)
    simp +arith only [fields, bound, Value.weight, List.map, List.sum_cons, List.sum_nil]
    omega
  | text value =>
    have := @kind "text" (by decide)
    simp +arith only [fields, bound, Value.weight, List.map, List.sum_cons, List.sum_nil]
    omega
  | enumSet s =>
    have := @kind "enum_set" (by decide)
    have entries : Value.elementsWeight (s.values.map .integer) = 16 * s.values.length := by
      rw [Value.elementsWeight_eq, List.map_map]
      simp [Function.comp_def, Value.weight, Nat.mul_comm]
    simp +arith only [fields, bound, Value.weight, entries, List.map_cons, List.map_nil,
      List.sum_cons, List.sum_nil]
    omega
  | textSet s =>
    have := @kind "text_set" (by decide)
    have entries : Value.elementsWeight (s.values.map .text) =
        (s.values.map fun t => 16 + t.length).sum := by
      rw [Value.elementsWeight_eq, List.map_map]
      simp [Function.comp_def, Value.weight]
    simp +arith only [fields, bound, Value.weight, entries, List.map_cons, List.map_nil,
      List.sum_cons, List.sum_nil]
    omega
  | spectrum s =>
    have := @kind "spectrum" (by decide)
    have entries : Value.elementsWeight (s.values.map fun d => codecObject d.fields) ≤
        (s.values.map fun d => 400 + d.channel.length).sum := by
      rw [Value.elementsWeight_eq, List.map_map]
      refine List.sum_le_sum fun d _ => (weight_codecObject_le d.fields_ok).trans ?_
      simp +arith only [SpectrumDescriptor.fields, integerOf, Value.weight, List.map,
        List.sum_cons, List.sum_nil]
    simp only [fields, bound, Value.weight, List.map_cons, List.map_nil, List.sum_cons, List.sum_nil]
    omega

instance : LawfulCodec CapabilityValue where
  Decodes := Readable
  Writes := PartsFit
  levels := 4
  weight := bound
  decode_encode := decode_encode
  canonical := canonical_encode
  fits := fits_encode
  weight_le := weight_encode_le

end CapabilityValue

namespace CapabilityDeclaration

variable [StdSort]

/-- The members of an encoded declaration (source `Codec<CapabilityDeclaration>::encode`). -/
def fields (value : CapabilityDeclaration) : List (String × Value) := [
  ("clock_domain", .unsigned value.clockDomain),
  ("generation", integerOf value.generation.toNat),
  ("incarnation", integerOf value.incarnation.toNat),
  ("key", integerOf (code value.key)),
  ("live", .boolean value.live),
  ("module", integerOf value.module.toNat),
  ("module_subject", .boolean value.moduleSubject),
  ("observed_at_wall_ns", .integer value.observedAtWallNs),
  ("port", .text value.port.str),
  ("provenance", encode value.provenance),
  ("sequence", integerOf value.sequence.toNat),
  ("source", integerOf value.source.toNat),
  ("source_epoch", integerOf value.sourceEpoch.toNat),
  ("subkey", .text value.subkey),
  ("value", encode value.value)]

instance : Codec CapabilityDeclaration where
  encode value := codecObject value.fields
  decode encoded := do
    let _ ← asObject encoded "capability declaration"
    let key ← getEnum encoded "key" "capability key"
    let subkey ← getText encoded "subkey"
    let value ← getRecord encoded "value"
    let source ← getU32 encoded "source"
    let sourceEpoch ← getU32 encoded "source_epoch"
    let module ← getUnsigned encoded "module"
    let incarnation ← getU32 encoded "incarnation"
    let port ← getKey encoded "port" "capability declaration port"
    let moduleSubject ← getBoolean encoded "module_subject"
    let generation ← getUnsigned encoded "generation"
    let sequence ← getUnsigned encoded "sequence"
    let observedAtWallNs ← getInteger encoded "observed_at_wall_ns"
    let clockDomain ← getUnsignedField encoded "clock_domain"
    let provenance ← getRecord encoded "provenance"
    let live ← getBoolean encoded "live"
    .ok { key, subkey, value, source, sourceEpoch, module, incarnation, port, moduleSubject,
          generation, sequence, observedAtWallNs, clockDomain, provenance, live }

/-- The value and the counters of a declaration are read back as they are. -/
structure Readable (declaration : CapabilityDeclaration) : Prop where
  value : declaration.value.Readable
  module : declaration.module.toNat < 2 ^ 63
  generation : declaration.generation.toNat < 2 ^ 63
  sequence : declaration.sequence.toNat < 2 ^ 63

/-- The value and the texts of a declaration have room in a snapshot. -/
structure PartsFit (declaration : CapabilityDeclaration) : Prop where
  value : declaration.value.PartsFit
  provenance : declaration.provenance.TextsFit
  subkey : TextFits declaration.subkey

lemma fields_ok (value : CapabilityDeclaration) : keysOk (value.fields.map Prod.fst) = true := by
  simp only [fields, List.map]
  decide +kernel

/-- A stored declaration is read back when its parts are readable
(source `Codec<CapabilityDeclaration>::decode`). -/
lemma decode_encode {value read : CapabilityDeclaration} :
    decode (encode value) = .ok read ↔ value.Readable ∧ read = value := by
  have holds {k x} (h : value.fields.lookup k = some x) : Holds (encode value) k x :=
    holds_codecObject value.fields_ok h
  simp only [decode, bind_eq_ok, asObject_eq (holds (k := "key") rfl).object,
    getEnum_eq (holds (k := "key") rfl), getText_eq (holds (k := "subkey") rfl),
    getRecord_eq_ok (holds (k := "value") rfl), getU32_eq (holds (k := "source") rfl),
    getU32_eq (holds (k := "source_epoch") rfl), getUnsigned_counter (holds (k := "module") rfl),
    getU32_eq (holds (k := "incarnation") rfl), getKey_eq (holds (k := "port") rfl),
    getBoolean_eq (holds (k := "module_subject") rfl),
    getUnsigned_counter (holds (k := "generation") rfl),
    getUnsigned_counter (holds (k := "sequence") rfl),
    getInteger_eq (holds (k := "observed_at_wall_ns") rfl),
    getUnsignedField_eq (holds (k := "clock_domain") rfl),
    Provenance.getRecord_eq (holds (k := "provenance") rfl),
    getBoolean_eq (holds (k := "live") rfl), Except.ok.injEq, exists_eq_left', and_assoc,
    exists_and_left, exists_eq_left, @eq_comm _ read]
  exact ⟨fun ⟨h1, h2, h3, h4, e⟩ => ⟨⟨h1, h2, h3, h4⟩, e⟩,
    fun ⟨⟨h1, h2, h3, h4⟩, e⟩ => ⟨h1, h2, h3, h4, e⟩⟩

/-- An encoded declaration is canonical (source `Codec<CapabilityDeclaration>::encode`). -/
lemma canonical_encode (value : CapabilityDeclaration) : (encode value).Canonical := by
  refine canonical_codecObject value.fields_ok ?_
  simp [fields, integerOf, Value.Canonical, LawfulCodec.canonical]

/-- There is room for an encoded declaration (source `Codec<CapabilityDeclaration>::encode`). -/
lemma fits_encode {value : CapabilityDeclaration} (h : value.PartsFit) : (encode value).Fits 5 := by
  have provenance : (encode value.provenance).Fits 4 :=
    (Provenance.fits_encode h.provenance).mono (by decide)
  have nested : (encode value.value).Fits 4 := CapabilityValue.fits_encode h.value
  refine fits_codecObject value.fields_ok (by simp [fields]) ?_
  simp [fields, h.subkey, value.port.textFits, provenance, nested]

/-- The weight of an encoded declaration (source `Codec<CapabilityDeclaration>::encode`). -/
lemma weight_encode_le (value : CapabilityDeclaration) :
    (encode value).weight ≤ 1100 + LawfulCodec.weight value.provenance + value.subkey.length +
      value.port.str.length + value.value.bound := by
  refine (weight_codecObject_le value.fields_ok).trans ?_
  have provenance := LawfulCodec.weight_le value.provenance
  have nested := value.value.weight_encode_le
  simp +arith only [fields, integerOf, Value.weight, List.map, List.sum_cons, List.sum_nil]
  omega

instance : LawfulCodec CapabilityDeclaration where
  Decodes := Readable
  Writes := PartsFit
  levels := 5
  weight value := 1100 + LawfulCodec.weight value.provenance + value.subkey.length +
    value.port.str.length + value.value.bound
  decode_encode := decode_encode
  canonical := canonical_encode
  fits := fits_encode
  weight_le := weight_encode_le

end CapabilityDeclaration

end TransceiverRegistry
