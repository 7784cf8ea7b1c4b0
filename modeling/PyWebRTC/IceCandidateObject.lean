import PyWebRTC.PicojsonValue

/-!
# ICE candidates as picojson objects

`OnIceCandidate` writes a candidate into an object of three members, and
`setICEInformation` reads the same three members back.
-/

namespace PyWebRTC.IceCandidateObject

open DoubleRounding (CInt)
open PicojsonValue

set_option autoImplicit false

structure IceCandidate where
  sdpMid : Bytes
  sdpMLineIndex : CInt
  candidate : Bytes

def sdpMidKey : Bytes := Utf8.encode "sdpMid".toList

def sdpMLineIndexKey : Bytes := Utf8.encode "sdpMLineIndex".toList

def candidateKey : Bytes := Utf8.encode "candidate".toList

def iceObject (ice : IceCandidate) : Value :=
  .object (insert sdpMLineIndexKey (.number ice.sdpMLineIndex.toDouble)
    (insert sdpMidKey (.string ice.sdpMid) (insert candidateKey (.string ice.candidate) [])))

/-- How `setICEInformation` ends without returning; without fuel in the model
only. -/
inductive Abort where
  | escaped (exception : Exception)
  | undefinedCast
  | outOfFuel

def accessed {Item : Type*} : Except Exception Item → Except Abort Item
  | .ok item => .ok item
  | .error exception => .error (.escaped exception)

def castToInt (number : DoubleRounding.Double) : Except Abort CInt :=
  match CInt.ofDouble number with
  | some value => .ok value
  | none => .error .undefinedCast

/-- The arguments of `CreateIceCandidate`, read from left to right. -/
def readCandidate (item : Value) : Except Abort IceCandidate := do
  let iceJson ← accessed (getObject item)
  let sdpMid ← accessed (mapAt sdpMidKey iceJson >>= getString)
  let number ← accessed (mapAt sdpMLineIndexKey iceJson >>= getDouble)
  let sdpMLineIndex ← castToInt number
  let candidate ← accessed (mapAt candidateKey iceJson >>= getString)
  return ⟨sdpMid, sdpMLineIndex, candidate⟩

/-- The members are in the order of their keys. -/
theorem ice_object_eq (ice : IceCandidate) :
    iceObject ice = .object [(candidateKey, .string ice.candidate),
      (sdpMLineIndexKey, .number ice.sdpMLineIndex.toDouble),
      (sdpMidKey, .string ice.sdpMid)] :=
  rfl

theorem read_candidate_ice_object (ice : IceCandidate) :
    readCandidate (iceObject ice) = .ok ice := by
  have cast : castToInt ice.sdpMLineIndex.toDouble = .ok ice.sdpMLineIndex := by
    rw [castToInt, DoubleRounding.of_double_to_double]
  change (castToInt ice.sdpMLineIndex.toDouble >>=
    fun index => .ok (IceCandidate.mk ice.sdpMid index ice.candidate)) = _
  rw [cast]
  rfl

end PyWebRTC.IceCandidateObject
