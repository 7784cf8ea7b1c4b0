import PyWebRTC.PicojsonComplete
import PyWebRTC.PicojsonDenotes
import PyWebRTC.PythonJsonLoads
import PyWebRTC.Signaling

/-!
# What one connection sends is what the other one asks for

The descriptions and candidates of a connection go through picojson and Python
into messages, and through Python and picojson out of them, unchanged.
-/

namespace PyWebRTC.SignalingRoundTrip

open IceCandidateObject PicojsonValue Signaling
open IceInformation (CandidateFactory addIceCandidates setIceInformation)
open JsonText (DenotesValue HasText Json null_not_mem_of_denotes)
open PicojsonComplete (fromJson)
open PicojsonDenotes (itemsToJson toJson)
open PythonJson (Codec has_text_dict has_text_int has_text_list has_text_str)
open Script (attempt emit)
open SessionDescription (SdpKind sdpTypeOf sessionInformation sessionText)
open Utf8 (IsUtf8 c_text_eq_iff encode textOf)

set_option autoImplicit false

/-! ## Effects -/

section Effects

variable {Item Other : Type}

@[simp]
theorem attempt_some_bind (item : Item) (next : Item → Script Other) :
    attempt (some item) >>= next = next item := rfl

@[simp]
theorem calls_emit_native (call : NativeCall) : (emit (.native call)).calls = [call] := rfl

@[simp]
theorem sent_emit_send (message : List Char) : (emit (.send message)).sent = [message] := rfl

theorem calls_bind_silent {script : Script Item} {next : Item → Script Other}
    (silent : ∀ item, (next item).calls = []) : (script >>= next).calls = script.calls := by
  obtain ⟨effects, outcome⟩ := script
  cases outcome with
  | none => rfl
  | some item =>
      change List.filterMap _ (effects ++ (next item).effects) = _
      rw [List.filterMap_append]
      exact (congrArg _ (silent item)).trans (List.append_nil _)

theorem sent_native_bind (call : NativeCall) (item : Item) (next : Item → Script Other) :
    ((⟨[.native call], some item⟩ : Script Item) >>= next).sent = (next item).sent := rfl

theorem sent_emit_bind (message : List Char) (next : Unit → Script Other) :
    (emit (.send message) >>= next).sent = message :: (next ()).sent := rfl

end Effects

/-! ## From picojson to Python -/

/-- A picojson text reaches Python whole, as a text of the value. -/
theorem py_unicode_from_serialize {value : Value} {json : Json} (read : toJson value = some json) :
    ∃ text, pyUnicodeFromString (PicojsonSerialize.serialize value true) = some text ∧
      DenotesValue text json := by
  obtain ⟨text, written, denotes⟩ := PicojsonDenotes.serialize_denotes true read
  refine ⟨text, ?_, denotes⟩
  have nullFree : '\x00' ∉ text := null_not_mem_of_denotes denotes
  rw [written, py_unicode_encode, c_text_eq_iff.mpr nullFree]

def descriptionJson (kind : SdpKind) (sdp : Bytes) : Json :=
  .dict [(sdpName, .str (textOf sdp)), (typeName, .str (kindName kind))]

theorem sdp_type_of_eq (kind : SdpKind) : sdpTypeOf kind = encode (kindName kind) := by
  cases kind <;> rfl

theorem to_json_session_information (kind : SdpKind) {sdp : Bytes} (isUtf8 : IsUtf8 sdp) :
    toJson (sessionInformation sdp (sdpTypeOf kind)) = some (descriptionJson kind sdp) := by
  have members : sessionInformation sdp (sdpTypeOf kind) =
      .object [(encode sdpName, .string sdp), (encode typeName, .string (sdpTypeOf kind))] := rfl
  have distinct : ([sdpName, typeName] : List (List Char)).Nodup := by decide
  rw [members, sdp_type_of_eq]
  simp [toJson, PicojsonDenotes.entriesToJson, PicojsonDenotes.entryToJson, Utf8.decode_encode,
    Utf8.decode_of_is_utf8 isUtf8, descriptionJson]
  simpa using distinct

/-- A candidate that both libraries can spell. -/
def IceIsUtf8 (ice : IceCandidate) : Prop := IsUtf8 ice.sdpMid ∧ IsUtf8 ice.candidate

def iceJson (ice : IceCandidate) : Json :=
  .dict [(candidateName, .str (textOf ice.candidate)),
    ("sdpMLineIndex".toList, .int ice.sdpMLineIndex.val),
    ("sdpMid".toList, .str (textOf ice.sdpMid))]

theorem ice_names_distinct :
    [candidateName, "sdpMLineIndex".toList, "sdpMid".toList].Nodup := by
  decide

theorem to_json_ice_object {ice : IceCandidate} (isUtf8 : IceIsUtf8 ice) :
    toJson (iceObject ice) = some (iceJson ice) := by
  have members : iceObject ice = .object [(encode candidateName, .string ice.candidate),
      (encode "sdpMLineIndex".toList, .number ice.sdpMLineIndex.toDouble),
      (encode "sdpMid".toList, .string ice.sdpMid)] := ice_object_eq ice
  rw [members]
  simp only [toJson, PicojsonDenotes.entriesToJson, PicojsonDenotes.entryToJson,
    Utf8.decode_encode, Utf8.decode_of_is_utf8 isUtf8.1, Utf8.decode_of_is_utf8 isUtf8.2,
    PicojsonDenotes.integer_of_to_double, Option.map_some, Option.bind_some, List.map_cons,
    List.map_nil]
  exact if_pos ice_names_distinct

theorem items_to_json_ice_objects {ices : List IceCandidate}
    (areUtf8 : ∀ ice ∈ ices, IceIsUtf8 ice) :
    itemsToJson (ices.map iceObject) = some (ices.map iceJson) := by
  induction ices with
  | nil => rfl
  | cons ice rest ih =>
      have first := to_json_ice_object (areUtf8 ice (by simp))
      have others := ih fun other member => areUtf8 other (List.mem_cons_of_mem _ member)
      simp [itemsToJson, first, others]

/-! ## From Python to picojson -/

theorem from_json_ice_json {ice : IceCandidate} (isUtf8 : IceIsUtf8 ice) :
    fromJson (iceJson ice) = some (iceObject ice) := by
  have number := DoubleRounding.round_to_double ice.sdpMLineIndex
  simp only [iceJson, fromJson, PicojsonComplete.entriesFromJson, PicojsonComplete.entryFromJson,
    number, Utf8.encode_text_of isUtf8.1, Utf8.encode_text_of isUtf8.2, Option.map_some,
    Option.bind_some]
  rfl

theorem has_text_ice_json (ice : IceCandidate) : HasText (iceJson ice) := by
  refine has_text_dict ?_ ice_names_distinct
  simp [has_text_str, has_text_int]

/-! ## What a message makes the receiver ask for -/

variable {Candidate : Type*}

def CarriesSdp (json : Codec) (kind : SdpKind) (data text : List Char) : Prop :=
  ∃ parsedData, json.loads data = some parsedData ∧
    parsedData.item typeName = some (.str (kindName kind)) ∧
    remoteSdp parsedData = some (.str text) ∧ '\x00' ∉ text

theorem calls_send_sdp (json : Codec) (kind : SdpKind) (sdp : List Char) :
    (sendSdp json kind sdp).calls = [] :=
  calls_bind_silent fun _ => rfl

theorem calls_send_candidates (json : Codec) (iceCandidates : List Json) :
    (sendCandidates json iceCandidates).calls = [] := by
  induction iceCandidates with
  | nil => rfl
  | cons iceCandidate rest ih => exact calls_bind_silent fun _ => ih

theorem calls_send_candidate_information (json : Codec) (connection : Connection Candidate) :
    (sendCandidateInformation json connection).calls = [] :=
  calls_bind_silent fun _ => calls_bind_silent fun _ => calls_bind_silent fun _ =>
    calls_send_candidates json _

theorem is_string_self (name : List Char) : isString name (.str name) = true := by
  simp [isString]

theorem calls_on_rtc_offer (connection : Connection Candidate) {text : List Char}
    (nullFree : '\x00' ∉ text) :
    (onRtcOffer connection (.str text)).calls =
      [.createSessionDescription (sdpTypeOf .offer) (encode text)] := by
  rw [onRtcOffer, pyArgString, if_neg nullFree, attempt_some_bind]
  exact calls_bind_silent fun _ => calls_bind_silent fun _ => rfl

theorem calls_on_message_offer {json : Codec} {data text : List Char}
    (carries : CarriesSdp json .offer data text) (connection : Connection Candidate) :
    (onMessage json connection data).calls =
      [.createSessionDescription (sdpTypeOf .offer) (encode text)] := by
  obtain ⟨parsedData, loaded, messageType, sdp, nullFree⟩ := carries
  simp only [onMessage, loaded, messageType, sdp, attempt_some_bind, is_string_self, if_true]
  rw [calls_bind_silent, calls_on_rtc_offer connection nullFree]
  intro answer
  rw [calls_bind_silent, calls_send_sdp]
  exact fun _ => calls_send_candidate_information json connection

theorem calls_on_message_answer {json : Codec} {data text : List Char}
    (carries : CarriesSdp json .answer data text) (connection : Connection Candidate) :
    (onMessage json connection data).calls =
      [.createSessionDescription (sdpTypeOf .answer) (encode text)] := by
  obtain ⟨parsedData, loaded, messageType, sdp, nullFree⟩ := carries
  have notOffer : isString (kindName .offer) (.str (kindName .answer)) = false := by decide
  simp only [onMessage, loaded, messageType, sdp, attempt_some_bind, notOffer, is_string_self,
    if_true, Bool.false_eq_true, if_false]
  rw [calls_bind_silent fun _ => calls_send_candidate_information json connection, onRtcAnswer,
    pyArgString, if_neg nullFree, attempt_some_bind, calls_emit_native]

theorem calls_on_message_sdp {json : Codec} {kind : SdpKind} {data text : List Char}
    (carries : CarriesSdp json kind data text) (connection : Connection Candidate) :
    (onMessage json connection data).calls =
      [.createSessionDescription (sdpTypeOf kind) (encode text)] := by
  cases kind with
  | offer => exact calls_on_message_offer carries connection
  | answer => exact calls_on_message_answer carries connection

/-- A well-formed candidate alone is asked for, whatever becomes of it. -/
theorem created_of_single (factory : CandidateFactory Candidate) (ice : IceCandidate)
    {parameter : Bytes}
    (parsed : PicojsonParse.parse parameter = .value (.array [iceObject ice])) :
    (setIceInformation factory parameter).created = [ice] := by
  simp only [setIceInformation, parsed, getArray, PicojsonValue.get, addIceCandidates,
    read_candidate_ice_object]
  split <;> rfl

theorem calls_on_rtc_candidate (connection : Connection Candidate) (json : Codec)
    {ice : IceCandidate} (isUtf8 : IceIsUtf8 ice) :
    (onRtcCandidate connection (json.dumps (.list [iceJson ice]))).calls =
      [.createIceCandidate ice] := by
  have hasText : HasText (.list [iceJson ice]) := has_text_list (by simp [has_text_ice_json])
  have denotes := json.dumps_denotes _ hasText
  have read : fromJson (.list [iceJson ice]) = some (.array [iceObject ice]) := by
    simp [fromJson, PicojsonComplete.itemsFromJson, from_json_ice_json isUtf8]
  have created := created_of_single connection.factory ice
    (PicojsonComplete.parse_denotes denotes read)
  rw [onRtcCandidate, pyArgString, if_neg (null_not_mem_of_denotes denotes), attempt_some_bind]
  change List.filterMap _ (List.map _ _) = _
  rw [created]
  rfl

def CarriesCandidate (json : Codec) (data : List Char) (candidate : Json) : Prop :=
  ∃ parsedData, json.loads data = some parsedData ∧
    parsedData.item typeName = some (.str candidateName) ∧
    parsedData.item candidateName = some candidate

theorem calls_on_message_candidate {json : Codec} {data : List Char} {ice : IceCandidate}
    (carries : CarriesCandidate json data (iceJson ice)) (isUtf8 : IceIsUtf8 ice)
    (connection : Connection Candidate) :
    (onMessage json connection data).calls = [.createIceCandidate ice] := by
  obtain ⟨parsedData, loaded, messageType, candidate⟩ := carries
  have notOffer : isString (kindName .offer) (.str candidateName) = false := by decide
  have notAnswer : isString (kindName .answer) (.str candidateName) = false := by decide
  simp only [onMessage, loaded, messageType, candidate, attempt_some_bind, notOffer, notAnswer,
    is_string_self, if_true, Bool.false_eq_true, if_false]
  exact calls_on_rtc_candidate connection json isUtf8

/-! ## What a connection sends -/

/-- A connection whose next description has the text `sdp`, and which has
gathered `ices`. -/
def describing (factory : CandidateFactory Candidate) (sdp : Bytes) (ices : List IceCandidate) :
    Connection Candidate where
  factory := factory
  getOffer := some (sessionText sdp (sdpTypeOf .offer))
  receiveOffer := fun _ => some (sessionText sdp (sdpTypeOf .answer))
  iceArray := ices.map iceObject

def sdpMessage (json : Codec) (kind : SdpKind) (sdp : Bytes) : List Char :=
  json.dumps (sdpValues kind (descriptionJson kind sdp))

def candidateMessage (json : Codec) (ice : IceCandidate) : List Char :=
  json.dumps (candidateValue (iceJson ice))

theorem send_session_text (json : Codec) (kind : SdpKind) {sdp : Bytes} (isUtf8 : IsUtf8 sdp) :
    ∃ text, pyUnicodeFromString (sessionText sdp (sdpTypeOf kind)) = some text ∧
      sendSdp json kind text = emit (.send (sdpMessage json kind sdp)) := by
  obtain ⟨text, converted, denotes⟩ :=
    py_unicode_from_serialize (to_json_session_information kind isUtf8)
  refine ⟨text, converted, ?_⟩
  rw [sendSdp, json.loads_denotes text _ denotes, attempt_some_bind]
  rfl

theorem sent_send_candidates (json : Codec) (ices : List IceCandidate) :
    (sendCandidates json (ices.map iceJson)).sent = ices.map (candidateMessage json) := by
  induction ices with
  | nil => rfl
  | cons ice rest ih => exact congrArg (candidateMessage json ice :: ·) ih

theorem sent_send_candidate_information (json : Codec) {connection : Connection Candidate}
    {ices : List IceCandidate} (areUtf8 : ∀ ice ∈ ices, IceIsUtf8 ice)
    (gathered : connection.iceArray = ices.map iceObject) :
    (sendCandidateInformation json connection).sent = ices.map (candidateMessage json) := by
  have read : toJson (.array connection.iceArray) = some (.list (ices.map iceJson)) := by
    rw [toJson, gathered, items_to_json_ice_objects areUtf8, Option.map_some]
  obtain ⟨text, converted, denotes⟩ := py_unicode_from_serialize read
  rw [sendCandidateInformation, getIceInformation, IceCandidateArray.connectionIceText, converted,
    attempt_some_bind, json.loads_denotes text _ denotes, attempt_some_bind, iterate,
    attempt_some_bind, sent_send_candidates]

theorem sent_signaling_handler (json : Codec) (factory : CandidateFactory Candidate) {sdp : Bytes}
    (isUtf8 : IsUtf8 sdp) (ices : List IceCandidate) :
    (signalingHandler json (describing factory sdp ices)).sent = [sdpMessage json .offer sdp] := by
  obtain ⟨text, converted, sends⟩ := send_session_text json .offer isUtf8
  rw [signalingHandler, getSdp, describing, attempt_some_bind, converted, attempt_some_bind, sends,
    sent_emit_send]

theorem on_rtc_offer_describing (factory : CandidateFactory Candidate) {sdp : Bytes}
    (ices : List IceCandidate) {text answer : List Char} (nullFree : '\x00' ∉ text)
    (converted : pyUnicodeFromString (sessionText sdp (sdpTypeOf .answer)) = some answer) :
    onRtcOffer (describing factory sdp ices) (.str text) =
      ⟨[.native (.createSessionDescription (sdpTypeOf .offer) (encode text))], some answer⟩ := by
  rw [onRtcOffer, pyArgString, if_neg nullFree, attempt_some_bind]
  simp only [describing, attempt_some_bind, converted]
  rfl

theorem sent_on_message_offer {json : Codec} {data text : List Char}
    (carries : CarriesSdp json .offer data text) (factory : CandidateFactory Candidate)
    {sdp : Bytes} (isUtf8 : IsUtf8 sdp) {ices : List IceCandidate}
    (areUtf8 : ∀ ice ∈ ices, IceIsUtf8 ice) :
    (onMessage json (describing factory sdp ices) data).sent =
      sdpMessage json .answer sdp :: ices.map (candidateMessage json) := by
  obtain ⟨parsedData, loaded, messageType, offer, nullFree⟩ := carries
  obtain ⟨answer, converted, sends⟩ := send_session_text json .answer isUtf8
  simp only [onMessage, loaded, messageType, offer, attempt_some_bind, is_string_self, if_true]
  rw [on_rtc_offer_describing factory ices nullFree converted, sent_native_bind, sends,
    sent_emit_bind, sent_send_candidate_information json areUtf8 rfl]

theorem sent_on_message_answer {json : Codec} {data text : List Char}
    (carries : CarriesSdp json .answer data text) (factory : CandidateFactory Candidate)
    (sdp : Bytes) {ices : List IceCandidate} (areUtf8 : ∀ ice ∈ ices, IceIsUtf8 ice) :
    (onMessage json (describing factory sdp ices) data).sent =
      ices.map (candidateMessage json) := by
  obtain ⟨parsedData, loaded, messageType, answer, nullFree⟩ := carries
  have notOffer : isString (kindName .offer) (.str (kindName .answer)) = false := by decide
  simp only [onMessage, loaded, messageType, answer, attempt_some_bind, notOffer, is_string_self,
    if_true, Bool.false_eq_true, if_false]
  rw [onRtcAnswer, pyArgString, if_neg nullFree, attempt_some_bind, emit, sent_native_bind,
    sent_send_candidate_information json areUtf8 rfl]

/-! ## From one connection to the other -/

theorem null_not_mem_text_of {sdp : Bytes} (isUtf8 : IsUtf8 sdp) (nullFree : 0 ∉ sdp) :
    '\x00' ∉ textOf sdp := by
  rw [← Utf8.ascii_mem_encode_iff (by decide), Utf8.encode_text_of isUtf8]
  exact nullFree

theorem carries_sdp_message (json : Codec) (kind : SdpKind) {sdp : Bytes} (isUtf8 : IsUtf8 sdp)
    (nullFree : 0 ∉ sdp) : CarriesSdp json kind (sdpMessage json kind sdp) (textOf sdp) := by
  have distinct : [typeName, sdpName].Nodup := by decide
  have description : HasText (descriptionJson kind sdp) := by
    refine has_text_dict ?_ (by decide : [sdpName, typeName].Nodup)
    simp [has_text_str]
  have hasText : HasText (sdpValues kind (descriptionJson kind sdp)) := by
    refine has_text_dict ?_ distinct
    simp [has_text_str, description]
  exact ⟨_, json.loads_dumps hasText, rfl, rfl, null_not_mem_text_of isUtf8 nullFree⟩

theorem carries_candidate_message (json : Codec) (ice : IceCandidate) :
    CarriesCandidate json (candidateMessage json ice) (iceJson ice) := by
  have distinct : [typeName, candidateName].Nodup := by decide
  have hasText : HasText (candidateValue (iceJson ice)) := by
    refine has_text_dict ?_ distinct
    simp [has_text_str, has_text_ice_json]
  exact ⟨_, json.loads_dumps hasText, rfl, rfl⟩

theorem received_sdp_message (json : Codec) (receiver : Nat → Connection Candidate)
    (kind : SdpKind) {sdp : Bytes} (isUtf8 : IsUtf8 sdp) (nullFree : 0 ∉ sdp)
    (others : List (List Char)) :
    received json receiver (sdpMessage json kind sdp :: others) =
      [.createSessionDescription (sdpTypeOf kind) sdp] ::
        received json (fun place => receiver (place + 1)) others := by
  have first := calls_on_message_sdp (carries_sdp_message json kind isUtf8 nullFree) (receiver 0)
  rw [Utf8.encode_text_of isUtf8] at first
  rw [received, List.mapIdx_cons, first]
  rfl

theorem received_candidate_messages (json : Codec) (receiver : Nat → Connection Candidate)
    {ices : List IceCandidate} (areUtf8 : ∀ ice ∈ ices, IceIsUtf8 ice) :
    received json receiver (ices.map (candidateMessage json)) =
      ices.map fun ice => [.createIceCandidate ice] := by
  induction ices generalizing receiver with
  | nil => rfl
  | cons ice rest ih =>
      have first := calls_on_message_candidate (carries_candidate_message json ice)
        (areUtf8 ice (by simp)) (receiver 0)
      have others := ih (fun place => receiver (place + 1)) fun other member =>
        areUtf8 other (List.mem_cons_of_mem _ member)
      rw [List.map_cons, received, List.mapIdx_cons, first]
      exact congrArg ([.createIceCandidate ice] :: ·) others

/-- Every connection that is fed the messages of another one asks for the same
descriptions and candidates, in the same order: after the offer that opens the
signaling, after the answer and the candidates that an offer brings, and after
the candidates that an answer brings. -/
theorem signaling_round_trip (json : Codec) (factory : CandidateFactory Candidate)
    (receiver : Nat → Connection Candidate) (sdp : Bytes) (ices : List IceCandidate)
    (isUtf8 : IsUtf8 sdp) (nullFree : 0 ∉ sdp) (areUtf8 : ∀ ice ∈ ices, IceIsUtf8 ice) :
    received json receiver (signalingHandler json (describing factory sdp ices)).sent =
        [[.createSessionDescription (sdpTypeOf .offer) sdp]] ∧
      (∀ data text, CarriesSdp json .offer data text →
        received json receiver (onMessage json (describing factory sdp ices) data).sent =
          [.createSessionDescription (sdpTypeOf .answer) sdp] ::
            ices.map fun ice => [.createIceCandidate ice]) ∧
      ∀ data text, CarriesSdp json .answer data text →
        received json receiver (onMessage json (describing factory sdp ices) data).sent =
          ices.map fun ice => [.createIceCandidate ice] := by
  refine ⟨?_, ?_, ?_⟩
  · rw [sent_signaling_handler json factory isUtf8 ices,
      received_sdp_message json receiver .offer isUtf8 nullFree]
    rfl
  · intro data text carries
    rw [sent_on_message_offer carries factory isUtf8 areUtf8,
      received_sdp_message json receiver .answer isUtf8 nullFree,
      received_candidate_messages json _ areUtf8]
  · intro data text carries
    rw [sent_on_message_answer carries factory sdp areUtf8,
      received_candidate_messages json receiver areUtf8]

/-- A candidate whose text needs every kind of escape. -/
def escapedIce : IceCandidate :=
  ⟨encode ['0'], ⟨-1, by decide⟩, encode ['"', '\\', '/', '\x01', '\x7f', 'é', '😀']⟩

theorem escaped_ice_is_utf8 : IceIsUtf8 escapedIce :=
  ⟨Utf8.is_utf8_encode _, Utf8.is_utf8_encode _⟩

def lineSdp : Bytes := encode ['v', '=', '0', '\r', '\n']

theorem escaped_ice_round_trip :
    received PythonJsonLoads.standard (fun _ => describing IceInformation.acceptAll [] [])
        (signalingHandler PythonJsonLoads.standard
          (describing IceInformation.acceptAll lineSdp [escapedIce])).sent =
      [[.createSessionDescription (sdpTypeOf .offer) lineSdp]] ∧
    received PythonJsonLoads.standard (fun _ => describing IceInformation.acceptAll [] [])
        (onMessage PythonJsonLoads.standard
          (describing IceInformation.acceptAll lineSdp [escapedIce])
          (sdpMessage PythonJsonLoads.standard .offer lineSdp)).sent =
      [[.createSessionDescription (sdpTypeOf .answer) lineSdp],
        [.createIceCandidate escapedIce]] := by
  have isUtf8 : IsUtf8 lineSdp := Utf8.is_utf8_encode _
  have nullFree : 0 ∉ lineSdp := by decide
  have roundTrip := signaling_round_trip PythonJsonLoads.standard IceInformation.acceptAll
    (fun _ => describing IceInformation.acceptAll [] []) lineSdp [escapedIce] isUtf8 nullFree
    (by simpa using escaped_ice_is_utf8)
  exact ⟨roundTrip.1, roundTrip.2.1 _ _ (carries_sdp_message _ .offer isUtf8 nullFree)⟩

end PyWebRTC.SignalingRoundTrip
