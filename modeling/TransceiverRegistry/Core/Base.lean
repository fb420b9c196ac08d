import TransceiverRegistry.Lib.Outcome
import Mathlib.Algebra.Group.Int.Defs
import Mathlib.Algebra.GroupWithZero.Nat
import Mathlib.Data.List.Basic

/-!
# Status codes, identifiers and keys

Port of `result.hpp`, `ids.hpp` and the key validation of `registry.cpp`. A `std::string` is a list
of bytes, a `Result<T>` or `Status` is a computation in `Except Error`, and a `StrongId` is its
fixed-width representation. A `TextKey` carries the proof that its text passed `validate_key_text`
or is the empty default.
-/

namespace TransceiverRegistry

open Lib

/-- A byte string (source `std::string`, `std::vector<std::byte>`). -/
abbrev Bytes := List UInt8

/-- The bytes of an ASCII literal. -/
def text (s : String) : Bytes := s.toList.map fun c => UInt8.ofNat c.toNat

/-- The decimal rendering of a number (source `std::to_string`). -/
def decimal (n : Nat) : Bytes := text (toString n)

/-- What holds of the 256 bytes holds of every byte. -/
lemma forall_uint8 {p : UInt8 → Prop} (h : ∀ n < 256, p (UInt8.ofNat n)) (b : UInt8) : p b := by
  have := h b.toNat b.toNat_lt
  rwa [UInt8.ofNat_toNat] at this

/-- What went wrong (source `StatusCode`; `Ok` is `Except.ok`). -/
inductive StatusCode where
  | invalidArgument | notFound | conflict | staleAuthority | staleGeneration | staleIncarnation
  | fenced | capacityExceeded | malformed | corrupt | unsupported | refused | ioError | clockSkew
  | invalidTransition | knowledgeOpen | internal
deriving DecidableEq

/-- A failed outcome with its explanation (source `Error`). -/
structure Error where
  code : StatusCode
  message : Bytes
deriving DecidableEq

/-- An outcome (source `Result<T>`, and `Status` at `Unit`). -/
abbrev Result (α : Type) := Except Error α

/-- Build an error from a literal message (source `make_error`). -/
def makeError (code : StatusCode) (message : String) : Error := ⟨code, text message⟩

/-- Identifier of an evidence source (source `SourceId`). -/
abbrev SourceId := UInt32
/-- Incarnation of an evidence source (source `SourceEpoch`). -/
abbrev SourceEpoch := UInt32
/-- Identifier of a module record (source `ModuleUid`). -/
abbrev ModuleUid := UInt64
/-- Physical incarnation of a module (source `IncarnationId`). -/
abbrev IncarnationId := UInt32
/-- Identifier of a compatibility rule (source `RuleId`). -/
abbrev RuleId := UInt32
/-- Number of a committed state (source `Generation`). -/
abbrev Generation := UInt64
/-- Number of a mutation (source `Sequence`). -/
abbrev Sequence := UInt64
/-- Incarnation of a clock (source `ClockDomainId`). -/
abbrev ClockDomainId := UInt64
/-- Nanoseconds of wall time (source `WallNs`). -/
abbrev WallNs := Int64

/-- Longest accepted key (source `kMaxKeyBytes`). -/
def kMaxKeyBytes : Nat := 128

/-- Accept a non-empty printable text without spaces (source `validate_key_text`). -/
def validateKeyText (t what : Bytes) (maxBytes : Nat) : Result Unit := do
  refuseIf (t = []) ⟨.invalidArgument, what ++ text " must not be empty"⟩
  refuseIf (maxBytes < t.length)
    ⟨.invalidArgument, what ++ text " is longer than the accepted maximum"⟩
  forEach (fun byte => refuseIf (byte < 0x21 ∨ 0x7e < byte) ⟨.invalidArgument,
    what ++ text " must contain printable ASCII characters without spaces"⟩) t

/-- A text that is a key: bounded, non-empty, printable and without spaces. -/
def IsKeyText (t : Bytes) : Prop :=
  t ≠ [] ∧ t.length ≤ kMaxKeyBytes ∧ ∀ byte ∈ t, 0x21 ≤ byte ∧ byte ≤ 0x7e

instance (t : Bytes) : Decidable (IsKeyText t) :=
  have : Decidable (∀ byte ∈ t, 0x21 ≤ byte ∧ byte ≤ 0x7e) := List.decidableBAll _ t
  inferInstanceAs (Decidable (t ≠ [] ∧ t.length ≤ kMaxKeyBytes ∧ _))

/-- The key validation accepts the key texts (source `validate_key_text`). -/
lemma validateKeyText_eq_ok {t what : Bytes} {u : Unit} :
    validateKeyText t what kMaxKeyBytes = .ok u ↔ IsKeyText t := by
  simp only [validateKeyText, refuseIf_bind_eq_ok, forEach_eq_ok, refuseIf_eq_ok, IsKeyText,
    Nat.not_lt, not_or, UInt8.not_lt, ne_eq]

/-- What a key names (source `SlotKeyTag`, `PortKeyTag`, `ModuleKeyTag`). -/
inductive KeyTag where
  | slot | port | module

/-- A validated key, or the empty default (source `TextKey`). -/
structure TextKey (tag : KeyTag) where
  str : Bytes
  wellFormed : str = [] ∨ IsKeyText str
deriving DecidableEq

/-- Name of a slot (source `SlotKey`). -/
abbrev SlotKey := TextKey .slot
/-- Name of a host port (source `PortKey`). -/
abbrev PortKey := TextKey .port
/-- Name of a module position (source `ModuleKey`). -/
abbrev ModuleKey := TextKey .module

namespace TextKey

variable {tag : KeyTag}

/-- The default key (source `TextKey()`). -/
def none : TextKey tag := ⟨[], .inl rfl⟩

/-- Validate a text as a key (source `TextKey::parse`). -/
def parse (t what : Bytes) : Result (TextKey tag) :=
  match h : validateKeyText t what kMaxKeyBytes with
  | .ok _ => .ok ⟨t, .inr (validateKeyText_eq_ok.1 h)⟩
  | .error e => .error e

/-- Parsing succeeds exactly on key texts, with the key of that text (source `TextKey::parse`). -/
lemma parse_eq_ok {t what : Bytes} {key : TextKey tag} :
    parse t what = .ok key ↔ IsKeyText t ∧ key.str = t := by
  unfold parse
  split
  · rename_i h
    have valid := validateKeyText_eq_ok.1 h
    constructor
    · intro e
      cases e
      exact ⟨valid, rfl⟩
    · rintro ⟨_, rfl⟩
      rfl
  · rename_i e h
    constructor
    · intro e
      cases e
    · rintro ⟨valid, _⟩
      rw [validateKeyText_eq_ok (u := ()) |>.2 valid] at h
      cases h

/-- A non-empty key is a key text. -/
lemma isKeyText (key : TextKey tag) (h : key.str ≠ []) : IsKeyText key.str :=
  key.wellFormed.resolve_left h

end TextKey

end TransceiverRegistry
