import PyWebRTC.IceCandidateArray
import PyWebRTC.IceInformation
import PyWebRTC.PythonJson
import PyWebRTC.SessionDescription

/-!
# The signaling between two connections

The Python half of a connection: what `_signaling_handler`, `_on_message` and
`_send_candidate_information` send over the websocket and ask of WebRTC, through
the binding that passes strings as `char *`.
-/

namespace PyWebRTC.Signaling

open IceCandidateObject PicojsonValue
open IceInformation (CandidateFactory setIceInformation)
open JsonText (Json)
open PythonJson (Codec)
open SessionDescription (SdpKind sdpTypeOf sessionText)
open Utf8 (c_str_encode cText)

set_option autoImplicit false

/-- What the native half asks of WebRTC. -/
inductive NativeCall where
  | createSessionDescription (sdpType sdp : Bytes)
  | createIceCandidate (ice : IceCandidate)

inductive Effect where
  | native (call : NativeCall)
  | send (message : List Char)

/-- Code with its effects in their order; no outcome where it raises or does not
return. -/
structure Script (Item : Type) where
  effects : List Effect
  outcome : Option Item

namespace Script

variable {Item Other : Type}

def bind (script : Script Item) (next : Item → Script Other) : Script Other :=
  match script.outcome with
  | none => ⟨script.effects, none⟩
  | some item => ⟨script.effects ++ (next item).effects, (next item).outcome⟩

instance : Monad Script where
  pure item := ⟨[], some item⟩
  bind := bind

def attempt (outcome : Option Item) : Script Item := ⟨[], outcome⟩

def emit (effect : Effect) : Script Unit := ⟨[effect], some ()⟩

def calls (script : Script Item) : List NativeCall :=
  script.effects.filterMap fun
    | .native call => some call
    | .send _ => none

def sent (script : Script Item) : List (List Char) :=
  script.effects.filterMap fun
    | .native _ => none
    | .send message => some message

end Script

open Script (attempt emit)

/-! ## The binding -/

/-- `PyUnicode_FromString` of a `c_str`. -/
def pyUnicodeFromString (text : Bytes) : Option (List Char) :=
  Utf8.decode (text.takeWhile (· ≠ 0))

theorem py_unicode_encode (text : List Char) :
    pyUnicodeFromString (Utf8.encode text) = some (cText text) := by
  rw [pyUnicodeFromString, c_str_encode, Utf8.decode_encode]

theorem py_unicode_of_is_utf8 {bytes : Bytes} (valid : Utf8.IsUtf8 bytes) :
    pyUnicodeFromString bytes = some (cText (Utf8.textOf bytes)) := by
  rw [← py_unicode_encode, Utf8.encode_text_of valid]

/-- The format `s` of `PyArg_ParseTuple`, which refuses what is no string and a
string with a null character. -/
def pyArgString : Json → Option Bytes
  | .str text => if '\x00' ∈ text then none else some (Utf8.encode text)
  | _ => none

/-- A connection as a piece of Python code finds it. The native calls that wait
for a description may not return. -/
structure Connection (Candidate : Type*) where
  factory : CandidateFactory Candidate
  getOffer : Option Bytes
  receiveOffer : Bytes → Option Bytes
  iceArray : List Value

variable {Candidate : Type*}

def getSdp (connection : Connection Candidate) : Script (List Char) := do
  let offer ← attempt connection.getOffer
  attempt (pyUnicodeFromString offer)

def onRtcOffer (connection : Connection Candidate) (offer : Json) : Script (List Char) := do
  let parameter ← attempt (pyArgString offer)
  emit (.native (.createSessionDescription (sdpTypeOf .offer) parameter))
  let answer ← attempt (connection.receiveOffer parameter)
  attempt (pyUnicodeFromString answer)

def onRtcAnswer (answer : Json) : Script Unit := do
  let parameter ← attempt (pyArgString answer)
  emit (.native (.createSessionDescription (sdpTypeOf .answer) parameter))

def onRtcCandidate (connection : Connection Candidate) (candidate : List Char) : Script Unit := do
  let iceInfo ← attempt (pyArgString (.str candidate))
  let run := setIceInformation connection.factory iceInfo
  ⟨run.created.map fun ice => .native (.createIceCandidate ice), run.ending.toOption⟩

def getIceInformation (connection : Connection Candidate) : Script (List Char) :=
  attempt (pyUnicodeFromString (IceCandidateArray.connectionIceText connection.iceArray))

/-! ## The messages -/

def typeName : List Char := "type".toList

def sdpName : List Char := "sdp".toList

def candidateName : List Char := "candidate".toList

def kindName : SdpKind → List Char
  | .offer => "offer".toList
  | .answer => "answer".toList

def sdpValues (kind : SdpKind) (description : Json) : Json :=
  .dict [(typeName, .str (kindName kind)), (sdpName, description)]

def candidateValue (iceCandidate : Json) : Json :=
  .dict [(typeName, .str candidateName), (candidateName, iceCandidate)]

/-- Wrap the text of a description into a message, and send it. -/
def sendSdp (json : Codec) (kind : SdpKind) (sdp : List Char) : Script Unit := do
  let description ← attempt (json.loads sdp)
  emit (.send (json.dumps (sdpValues kind description)))

/-- What a `for` loop runs over. -/
def iterate : Json → Option (List Json)
  | .list items => some items
  | .dict entries => some (entries.map fun entry => .str entry.1)
  | .str text => some (text.map fun c => .str [c])
  | _ => none

def sendCandidates (json : Codec) : List Json → Script Unit
  | [] => pure ()
  | iceCandidate :: rest => do
      emit (.send (json.dumps (candidateValue iceCandidate)))
      sendCandidates json rest

def sendCandidateInformation (json : Codec) (connection : Connection Candidate) : Script Unit := do
  let iceInformation ← getIceInformation connection
  let jsonIce ← attempt (json.loads iceInformation)
  let iceCandidates ← attempt (iterate jsonIce)
  sendCandidates json iceCandidates

/-- The part of `_signaling_handler` that offers, once the data channel is open. -/
def signalingHandler (json : Codec) (connection : Connection Candidate) : Script Unit := do
  let sdp ← getSdp connection
  sendSdp json .offer sdp

def isString (name : List Char) : Json → Bool
  | .str text => text = name
  | _ => false

/-- `parsedData['sdp']['sdp']`. -/
def remoteSdp (parsedData : Json) : Option Json :=
  (parsedData.item sdpName).bind (Json.item sdpName)

def onMessage (json : Codec) (connection : Connection Candidate) (data : List Char) :
    Script Unit := do
  let parsedData ← attempt (json.loads data)
  let messageType ← attempt (parsedData.item typeName)
  if isString (kindName .offer) messageType then
    let offer ← attempt (remoteSdp parsedData)
    let answer ← onRtcOffer connection offer
    sendSdp json .answer answer
    sendCandidateInformation json connection
  else if isString (kindName .answer) messageType then
    let answer ← attempt (remoteSdp parsedData)
    onRtcAnswer answer
    sendCandidateInformation json connection
  else if isString candidateName messageType then
    let candidate ← attempt (parsedData.item candidateName)
    onRtcCandidate connection (json.dumps (.list [candidate]))
  else
    attempt none

/-- The native calls that each message makes. The receiver may be another one at
each message. -/
def received (json : Codec) (receiver : Nat → Connection Candidate)
    (messages : List (List Char)) : List (List NativeCall) :=
  messages.mapIdx fun place message => (onMessage json (receiver place) message).calls

end PyWebRTC.Signaling
