import TransceiverRegistry.Wire.Fence

/-!
# Responses

Port of `write_frame` of `wire.cpp` and of what `Client::exchange` makes of the frame. The server
bounds the bytes of an answer only, and the client every part of the document, so the client reads
an answer exactly when it is within the limits of a request.
-/

namespace TransceiverRegistry

open Lib CanonicalWriter

/-- The bytes that are sent for a document (source `write_frame`). -/
def writeFrame (type : MessageType) (flags : UInt16) (body : Value) (limits : FrameLimits) :
    Result Bytes := do
  let writer := new.writeValue body
  refuseIf (writer.failed = true)
    (makeError .internal "the frame body contains a value with no canonical encoding")
  refuseIf (limits.maxBodyBytes.toNat < writer.bytes.length)
    (makeError .capacityExceeded "response body exceeds the configured frame limit")
  .ok (encodeFrame type flags writer.bytes)

/-- The document a client takes from the bytes of an answer (source `Client::exchange`). -/
def readAnswer (bytes : Bytes) (limits : FrameLimits) : Result Value := do
  let frame ← decodeFrame bytes limits .request
  refuseIf (frame.type ≠ .response ∧ frame.type ≠ .failure)
    (makeError .malformed "the server sent a non-response frame")
  .ok frame.body

section Frames

variable {type : MessageType} {flags : UInt16} {body : Value} {limits : FrameLimits}
  {documentLimits : CanonicalLimits}

/-- Some bytes are missing from an empty document (source `CanonicalReader::read_tag`). -/
lemma readDocument_nil {v : Value} : readDocument documentLimits [] ≠ .ok v := by
  intro read
  simp only [readDocument, readValue, readTag, bind_eq_ok] at read
  obtain ⟨_, ⟨_, counted, _, ⟨_, _, missing⟩, _⟩, _⟩ := read
  simp only [countNode, bind_eq_ok] at counted
  obtain ⟨_, _, e⟩ := counted
  cases e
  cases missing

/-- The kind and the flags of a header are those it was made of (source `encode_frame`). -/
lemma frameHeader_injective {type' : MessageType} {flags' : UInt16} {n : UInt32} (some : n ≠ 0)
    (h : frameHeader type' flags' n.toNat = frameHeader type flags n.toNat) :
    type' = type ∧ flags' = flags := by
  have widest : n ≤ (⟨n⟩ : FrameLimits).maxBodyBytes := UInt32.le_refl n
  have parsed (t : MessageType) (f : UInt16) :
      parseFrameHeader (frameHeader t f n.toNat) ⟨n⟩ = .ok ⟨kWireProtocolVersion, t, f, n⟩ :=
    (parseFrameHeader_eq_ok (length_frameHeader t f n.toNat)).2 ⟨rfl, rfl, widest, some⟩
  have same := (parsed type' flags').symm.trans (h ▸ parsed type flags)
  cases same
  exact ⟨rfl, rfl⟩

/-- A frame is decoded as the document of its body (source `decode_frame`, `encode_frame`). -/
lemma decodeFrame_encodeFrame {payload : Bytes} {frame : Frame}
    (small : payload.length ≤ limits.maxBodyBytes.toNat) :
    decodeFrame (encodeFrame type flags payload) limits documentLimits = .ok frame ↔
      frame.type = type ∧ frame.flags = flags ∧
        readDocument documentLimits payload = .ok frame.body := by
  obtain ⟨length, headed, document, checked⟩ :=
    eq_encodeFrame_iff.1 (Eq.refl (encodeFrame type flags payload))
  have bound := limits.maxBodyBytes.toNat_lt
  have size : (UInt32.ofNat payload.length).toNat = payload.length := by
    rw [UInt32.toNat_ofNat']
    exact Nat.mod_eq_of_lt (by omega)
  rw [decodeFrame_eq_ok]
  constructor
  · rintro ⟨n, long, headed', -, some, -, read⟩
    have n_eq : n.toNat = payload.length := by omega
    rw [headed, ← n_eq] at headed'
    obtain ⟨rfl, rfl⟩ := frameHeader_injective some headed'
    rw [n_eq, document] at read
    exact ⟨rfl, rfl, read⟩
  · rintro ⟨rfl, rfl, read⟩
    refine ⟨UInt32.ofNat payload.length, ?_⟩
    rw [size, UInt32.le_iff_toNat_le, size, document]
    refine ⟨length, headed, small, fun zero => ?_, checked, read⟩
    rw [← UInt32.toNat_inj, size] at zero
    rw [List.eq_nil_of_length_eq_zero zero] at read
    exact readDocument_nil read

/-- What is sent is the frame of the canonical form of a document that is short enough
(source `write_frame`). -/
lemma writeFrame_eq_ok {bytes : Bytes} :
    writeFrame type flags body limits = .ok bytes ↔ (new.writeValue body).failed = false ∧
      (new.writeValue body).bytes.length ≤ limits.maxBodyBytes.toNat ∧
      encodeFrame type flags (new.writeValue body).bytes = bytes := by
  simp only [writeFrame, refuseIf_bind_eq_ok, Bool.not_eq_true, Nat.not_lt, Except.ok.injEq]

/-- The bytes that are sent for a document are decoded as that document exactly when it is within the
limits of the reader (source `write_frame`, `decode_frame`). -/
lemma decodeFrame_writeFrame {bytes : Bytes}
    (written : writeFrame type flags body limits = .ok bytes) :
    decodeFrame bytes limits documentLimits = .ok ⟨type, flags, body⟩ ↔
      body.InLimits documentLimits := by
  obtain ⟨_, small, rfl⟩ := writeFrame_eq_ok.1 written
  rw [decodeFrame_encodeFrame small]
  constructor
  · rintro ⟨-, -, read⟩
    exact (readDocument_eq_ok_iff.1 read).1
  · intro fits
    exact ⟨rfl, rfl, readDocument_writeValue fits.within fits.height fits.nodes fits.document⟩

end Frames

/-- What is found in a document is within the limits as the document is (source `Value::find`). -/
lemma Value.Within.of_find {limits : CanonicalLimits} {v x : Value} {key : Bytes}
    (within : v.Within limits) (found : v.find key = some x) : x.Within limits := by
  unfold Value.find at found
  split at found
  · rename_i ms
    split at found
    · cases found
    · rename_i m rest bound
      split at found
      · cases found
      · cases found
        have mem : m ∈ Value.lowerBound ms key := by
          rw [bound]
          exact List.mem_cons_self
        have mem := (List.dropWhile_sublist _).mem mem
        exact (Value.membersWithin_iff.1 within.2.2 m mem).2
  · cases found

/-- The answer to a request is a response or a failure (source `dispatch`). -/
lemma dispatch_type [StdSort] (service : Service) (s : State) (request : Value) :
    (dispatch service s request).1.type = .response ∨
      (dispatch service s request).1.type = .failure := by
  unfold dispatch
  cases resultOf service s request with
  | ok accepted => exact .inl rfl
  | error error => exact .inr rfl

/-- When the answer to a request is sent, its bytes are decoded as that answer under the limits of
the client exactly when the document is within those limits (source `write_frame`,
`Client::exchange`). -/
theorem response_read_iff [StdSort] (service : Service) (s : State) (request : Value)
    {bytes : Bytes} (written : writeFrame (dispatch service s request).1.type 0
      (dispatch service s request).1.body {} = .ok bytes) :
    decodeFrame bytes {} .request = .ok
        ⟨(dispatch service s request).1.type, 0, (dispatch service s request).1.body⟩ ↔
      (dispatch service s request).1.body.InLimits .request :=
  decodeFrame_writeFrame written

/-- When the answer to a request is sent, the client takes that answer from the bytes exactly when the
document is within its limits (source `Client::exchange`). -/
theorem exchange_answer_iff [StdSort] (service : Service) (s : State) (request : Value)
    {bytes : Bytes} (written : writeFrame (dispatch service s request).1.type 0
      (dispatch service s request).1.body {} = .ok bytes) :
    readAnswer bytes {} = .ok (dispatch service s request).1.body ↔
      (dispatch service s request).1.body.InLimits .request := by
  obtain ⟨_, small, rfl⟩ := writeFrame_eq_ok.1 written
  simp only [readAnswer, bind_eq_ok, refuseIf_eq_ok, exists_const, decodeFrame_encodeFrame small]
  constructor
  · rintro ⟨frame, ⟨-, -, read⟩, -, e⟩
    rw [Except.ok.inj e] at read
    exact (readDocument_eq_ok_iff.1 read).1
  · intro fits
    refine ⟨⟨(dispatch service s request).1.type, 0, _⟩, ⟨rfl, rfl, ?_⟩, ?_, rfl⟩
    · exact readDocument_writeValue fits.within fits.height fits.nodes fits.document
    · rintro ⟨response, failure⟩
      obtain kind | kind := dispatch_type service s request
      · exact response kind
      · exact failure kind

/-- A text that is longer than the texts of a request. -/
def longText : Bytes := List.replicate 16385 0x61

/-- Declare that text about the module `A`. -/
def publishNote : Call := Operation.now (.publishCapability host ⟨1, 1, 0, bayA⟩ .vendorSpecific
  (text "note") (.text longText) hostEvidence .autoRetry)

/-- The declaration of that text. -/
def noteDeclaration : CapabilityDeclaration where
  key := .vendorSpecific
  subkey := text "note"
  value := .text longText
  source := 1
  sourceEpoch := 1
  module := 1
  incarnation := 1
  port := .none
  moduleSubject := true
  generation := 3
  sequence := 3
  observedAtWallNs := 1
  clockDomain := 1
  provenance := hostEvidence
  live := true

/-- A request for the declarations about the module `A`. -/
def listRequest : Value := requestFor "evidence.declarations"
  [("incarnation", integerOf 1), ("uid", integerOf 1)]

/-- The answer with that declaration. -/
def noteAnswer : Value := makeResponse 1 (listDocument "declarations" [noteDeclaration])

/-- The text has room in a snapshot. -/
lemma longText_fits : TextFits longText := by
  refine ⟨isValidUtf8_of_ascii fun b mem => ?_, ?_⟩
  · rw [List.eq_of_mem_replicate mem]
    decide
  · rw [longText, List.length_replicate]
    decide

/-- The answer is small (source `FrameLimits`). -/
lemma noteAnswer_weight : noteAnswer.weight ≤ 40000 := by
  have listed := weight_encodeRecordArray_le [noteDeclaration]
  have document : (listDocument "declarations" [noteDeclaration]).weight ≤ _ :=
    weight_codecObject_le (by decide)
  have answer : noteAnswer.weight ≤ _ := weight_codecObject_le (by decide)
  have size : weights [noteDeclaration] ≤ 20000 := by
    simp only [weights, LawfulCodec.weight, noteDeclaration, CapabilityValue.bound, longText,
      List.map, List.sum_cons, List.sum_nil, List.length_replicate]
    decide
  simp only [List.map, List.sum_cons, List.sum_nil, integerOf, Value.weight] at document answer
  omega

/-- The answer has room in a snapshot, so it has a canonical form (source
`CanonicalWriter::failed`). -/
lemma noteAnswer_written : (new.writeValue noteAnswer).failed = false := by
  have evidence : hostEvidence.TextsFit := ⟨by decide, by decide, by decide⟩
  have subkey : TextFits noteDeclaration.subkey := by decide
  have declaration : noteDeclaration.PartsFit := ⟨longText_fits, evidence, subkey⟩
  have listed : (encodeRecordArray [noteDeclaration]).Fits 6 := by
    refine fits_encodeRecordArray (α := CapabilityDeclaration) (by simp) fun a mem => ?_
    rw [List.mem_singleton.1 mem]
    exact declaration
  have document : (listDocument "declarations" [noteDeclaration]).Fits 7 :=
    fits_codecObject (by decide) (by decide) (by simpa using listed)
  have answer : noteAnswer.Fits 8 :=
    fits_codecObject (by decide) (by decide) (by simpa using document)
  have small := noteAnswer_weight
  have nodes := noteAnswer.nodes_le_weight
  have room : noteAnswer.nodes ≤ 4 * 1048576 := by omega
  have short : (new.writeValue noteAnswer).bytes.length ≤ 64 * 1048576 :=
    (length_writeValue_le noteAnswer).trans (small.trans (by decide))
  have read := readDocument_writeValue answer.within (answer.height.trans (by decide)) room short
  rw [(readDocument_eq_ok_iff.1 read).2]

/-- The text of the answer is too long for a request (source `CanonicalLimits::request`). -/
lemma noteAnswer_not_inLimits : ¬ noteAnswer.InLimits .request := by
  intro fits
  have result : Holds noteAnswer "result" (listDocument "declarations" [noteDeclaration]) :=
    holds_codecObject (by decide) rfl
  have listed : Holds (listDocument "declarations" [noteDeclaration]) "declarations"
      (encodeRecordArray [noteDeclaration]) := holds_codecObject (by decide) rfl
  have value : Holds (encode noteDeclaration) "value" (encode noteDeclaration.value) :=
    holds_codecObject noteDeclaration.fields_ok rfl
  have stated : Holds (encode noteDeclaration.value) "t" (.text longText) :=
    holds_codecObject noteDeclaration.value.fields_ok rfl
  have all := (fits.within.of_find result.found).of_find listed.found
  have one := Value.elementsWithin_iff.1 all.2 _ (List.mem_singleton_self _)
  have short := ((one.of_find value.found).of_find stated.found).2
  rw [longText, List.length_replicate] at short
  exact absurd short (by decide)

/-- A registry with one declaration answers a request for it with a frame that the client refuses
(source `Client::exchange`, `CanonicalLimits::request`). -/
theorem long_declaration_unreadable :
    ∃ s bytes, Run (step {}) Unguarded State.initial s ∧
      decodeFrame (encodeFrame .request 0 (new.writeValue listRequest).bytes) {} .request =
        .ok ⟨.request, 0, listRequest⟩ ∧
      writeFrame (dispatch benchService s listRequest).1.type 0
        (dispatch benchService s listRequest).1.body {} = .ok bytes ∧
      decodeFrame bytes {} .request ≠ .ok ⟨(dispatch benchService s listRequest).1.type, 0,
        (dispatch benchService s listRequest).1.body⟩ := by
  have shows : (runActions (step {}) [registerHost, registerBay bayA .ensureCurrent, publishNote]
      State.initial).map (fun s => (dispatch benchService s listRequest).1) =
        some ⟨.response, noteAnswer⟩ := rfl
  obtain ⟨s, taken, answered⟩ := Option.map_eq_some_iff.1 shows
  have read : readDocument .request (new.writeValue listRequest).bytes = .ok listRequest := rfl
  have short : (new.writeValue noteAnswer).bytes.length ≤ 1048576 :=
    (length_writeValue_le noteAnswer).trans (noteAnswer_weight.trans (by decide))
  have written := (@writeFrame_eq_ok .response 0 noteAnswer {} _).2
    ⟨noteAnswer_written, short, rfl⟩
  refine ⟨s, encodeFrame .response 0 (new.writeValue noteAnswer).bytes, .ofActions taken, ?_⟩
  rw [answered]
  refine ⟨(decodeFrame_encodeFrame (by decide)).2 ⟨rfl, rfl, read⟩, written, fun received => ?_⟩
  exact noteAnswer_not_inLimits ((decodeFrame_writeFrame written).1 received)

/-- The answer to a ping is read by the client. -/
theorem response_read_iff_ping :
    ∃ bytes, writeFrame (dispatch benchService State.initial (requestFor "ping" [])).1.type 0
        (dispatch benchService State.initial (requestFor "ping" [])).1.body {} = .ok bytes ∧
      decodeFrame bytes {} .request = .ok
        ⟨.response, 0, (dispatch benchService State.initial (requestFor "ping" [])).1.body⟩ := by
  have read : readDocument .request (new.writeValue
      (dispatch benchService State.initial (requestFor "ping" [])).1.body).bytes =
        .ok (dispatch benchService State.initial (requestFor "ping" [])).1.body := rfl
  obtain ⟨fits, -⟩ := readDocument_eq_ok_iff.1 read
  have written : writeFrame (dispatch benchService State.initial (requestFor "ping" [])).1.type 0
      (dispatch benchService State.initial (requestFor "ping" [])).1.body {} = .ok _ :=
    writeFrame_eq_ok.2 ⟨by decide +kernel, by decide +kernel, rfl⟩
  exact ⟨_, written, (response_read_iff benchService State.initial (requestFor "ping" []) written).2
    fits⟩

end TransceiverRegistry
