import PyWebRTC.IceCandidateObject
import PyWebRTC.PicojsonFuel

/-!
# `setICEInformation`

The text of the remote candidates is parsed, and its elements are turned into
candidates and added one after the other. Reading an element may throw, and so
may the parser; a number outside the range of `int` makes the cast undefined.
What WebRTC makes of an element is a parameter: it rejects with a description
of the error, whose line may be empty, and leaves the error alone otherwise.
-/

namespace PyWebRTC.IceInformation

open IceCandidateObject PicojsonParse PicojsonValue

set_option autoImplicit false

structure SdpParseError where
  line : Bytes
  description : Bytes

/-- `CreateIceCandidate`: a rejection fills the description of the error. -/
structure CandidateFactory (Candidate : Type*) where
  create : IceCandidate → Except SdpParseError Candidate
  described : ∀ init error, create init = .error error → error.description ≠ []

/-- What the call does: the candidates it asks for, those it adds, null ones
included, and how it ends. -/
structure Run (Candidate : Type*) where
  created : List IceCandidate
  added : List (Option Candidate)
  ending : Except Abort Unit

variable {Candidate : Type*}

/-- The candidate, null where it is rejected, and the error after the call. -/
def createIceCandidate (factory : CandidateFactory Candidate) (init : IceCandidate)
    (errSdp : SdpParseError) : Option Candidate × SdpParseError :=
  match factory.create init with
  | .ok ice => (some ice, errSdp)
  | .error error => (none, error)

/-- The loop over the array. One error is shared by all its rounds. -/
def addIceCandidates (factory : CandidateFactory Candidate) (errSdp : SdpParseError) :
    List Value → Run Candidate
  | [] => ⟨[], [], .ok ()⟩
  | item :: rest =>
      match readCandidate item with
      | .error abort => ⟨[], [], .error abort⟩
      | .ok init =>
          let (ice, errSdp) := createIceCandidate factory init errSdp
          if errSdp.line ≠ [] ∧ errSdp.description ≠ [] then ⟨[init], [], .ok ()⟩
          else
            let run := addIceCandidates factory errSdp rest
            ⟨init :: run.created, ice :: run.added, run.ending⟩

def setIceInformation (factory : CandidateFactory Candidate) (parameter : Bytes) :
    Run Candidate :=
  match parse parameter with
  | .error _ => ⟨[], [], .ok ()⟩
  | .thrown exception => ⟨[], [], .error (.escaped exception)⟩
  | .outOfFuel => ⟨[], [], .error .outOfFuel⟩
  | .value v =>
      match getArray v with
      | .error exception => ⟨[], [], .error (.escaped exception)⟩
      | .ok items => addIceCandidates factory ⟨[], []⟩ items

/-! ## What the call is for -/

def acceptedCandidate (factory : CandidateFactory Candidate) (item : Value) : Option Candidate :=
  match readCandidate item with
  | .error _ => none
  | .ok init =>
      match factory.create init with
      | .ok ice => some ice
      | .error _ => none

def acceptedPrefix (factory : CandidateFactory Candidate) : List Value → List Candidate
  | [] => []
  | item :: rest =>
      match acceptedCandidate factory item with
      | some ice => ice :: acceptedPrefix factory rest
      | none => []

def remoteItems (parameter : Bytes) : List Value :=
  match parse parameter with
  | .value (.array items) => items
  | _ => []

def AddsAcceptedPrefix (factory : CandidateFactory Candidate) (items : List Value)
    (run : Run Candidate) : Prop :=
  run.ending = .ok () ∧ run.added = (acceptedPrefix factory items).map some

def RejectedAtLine (factory : CandidateFactory Candidate) (item : Value) : Prop :=
  ∃ init error, readCandidate item = .ok init ∧ factory.create init = .error error ∧
    error.line ≠ []

/-- The first element that stands for no candidate, if any, is well formed and
rejected with a line in the error. -/
def StopsAtLine (factory : CandidateFactory Candidate) (items : List Value) : Prop :=
  ∀ before item after, items = before ++ item :: after →
    (∀ earlier ∈ before, (acceptedCandidate factory earlier).isSome) →
    acceptedCandidate factory item = none → RejectedAtLine factory item

/-- The text is not JSON, or an array that stops so. -/
def TakesCandidates (factory : CandidateFactory Candidate) (parameter : Bytes) : Prop :=
  match parse parameter with
  | .error _ => True
  | .value (.array items) => StopsAtLine factory items
  | _ => False

theorem stops_at_line_cons_accepted {factory : CandidateFactory Candidate} {item : Value}
    {rest : List Value} {ice : Candidate} (accepted : acceptedCandidate factory item = some ice) :
    StopsAtLine factory (item :: rest) ↔ StopsAtLine factory rest := by
  constructor
  · intro stops before last after split earlier
    refine stops (item :: before) last after (by rw [split]; rfl) ?_
    simpa [accepted] using earlier
  · intro stops before last after split earlier refused
    cases before with
    | nil =>
        obtain ⟨rfl, -⟩ := List.cons.inj split
        simp [accepted] at refused
    | cons first before =>
        obtain ⟨-, splitRest⟩ := List.cons.inj split
        exact stops before last after splitRest (fun other member => earlier other (by simp [member]))
          refused

theorem stops_at_line_cons_refused {factory : CandidateFactory Candidate} {item : Value}
    {rest : List Value} (refused : acceptedCandidate factory item = none) :
    StopsAtLine factory (item :: rest) ↔ RejectedAtLine factory item := by
  constructor
  · intro stops
    exact stops [] item rest rfl (by simp) refused
  · intro rejected before last after split earlier _
    cases before with
    | nil =>
        obtain ⟨rfl, -⟩ := List.cons.inj split
        exact rejected
    | cons first before =>
        obtain ⟨rfl, -⟩ := List.cons.inj split
        simpa [refused] using earlier item (by simp)

theorem rejected_at_line_iff {factory : CandidateFactory Candidate} {item : Value}
    {init : IceCandidate} {error : SdpParseError} (read : readCandidate item = .ok init)
    (outcome : factory.create init = .error error) :
    RejectedAtLine factory item ↔ error.line ≠ [] := by
  constructor
  · rintro ⟨otherInit, otherError, otherRead, otherOutcome, line⟩
    obtain rfl := Except.ok.inj (read.symm.trans otherRead)
    obtain rfl := Except.error.inj (outcome.symm.trans otherOutcome)
    exact line
  · intro line
    exact ⟨init, error, read, outcome, line⟩

/-- One call with an error without a line, which is how every round but the
last one leaves it. -/
theorem add_ice_candidates_iff (factory : CandidateFactory Candidate) (errSdp : SdpParseError)
    (noLine : errSdp.line = []) (items : List Value) :
    AddsAcceptedPrefix factory items (addIceCandidates factory errSdp items) ↔
      StopsAtLine factory items := by
  induction items with
  | nil => simp [AddsAcceptedPrefix, addIceCandidates, acceptedPrefix, StopsAtLine]
  | cons item rest ih =>
      cases read : readCandidate item with
      | error abort =>
          have refused : acceptedCandidate factory item = none := by simp [acceptedCandidate, read]
          rw [stops_at_line_cons_refused refused]
          simp [AddsAcceptedPrefix, addIceCandidates, RejectedAtLine, read]
      | ok init =>
          cases outcome : factory.create init with
          | ok ice =>
              have accepted : acceptedCandidate factory item = some ice := by
                simp [acceptedCandidate, read, outcome]
              rw [stops_at_line_cons_accepted accepted, ← ih]
              simp [AddsAcceptedPrefix, addIceCandidates, createIceCandidate, acceptedPrefix, read,
                outcome, accepted, noLine]
          | error error =>
              have refused : acceptedCandidate factory item = none := by
                simp [acceptedCandidate, read, outcome]
              have described := factory.described init error outcome
              rw [stops_at_line_cons_refused refused, rejected_at_line_iff read outcome]
              simp only [AddsAcceptedPrefix, addIceCandidates, createIceCandidate, acceptedPrefix,
                read, outcome, refused]
              by_cases line : error.line = []
              · simp [line]
              · simp [line, described]

/-- For every text, the call returns and adds just the accepted candidates if
and only if the text is not JSON or an array that stops at a line. -/
theorem set_ice_information_iff (factory : CandidateFactory Candidate) (parameter : Bytes) :
    AddsAcceptedPrefix factory (remoteItems parameter) (setIceInformation factory parameter) ↔
      TakesCandidates factory parameter := by
  unfold remoteItems setIceInformation TakesCandidates
  cases read : parse parameter with
  | error err => simp [AddsAcceptedPrefix, acceptedPrefix]
  | thrown exception => simp [AddsAcceptedPrefix]
  | outOfFuel => exact absurd read (PicojsonFuel.parse_ne_out_of_fuel parameter)
  | value v =>
      cases v with
      | array items => exact add_ice_candidates_iff factory ⟨[], []⟩ rfl items
      | null | boolean | number | string | object => simp [AddsAcceptedPrefix, getArray, PicojsonValue.get]

def rejectAll (line : Bytes) : CandidateFactory Unit where
  create := fun _ => .error ⟨line, Utf8.encode "Invalid".toList⟩
  described := by
    rintro - error rejected
    obtain rfl := Except.error.inj rejected
    change Utf8.encode "Invalid".toList ≠ []
    decide

def twoCandidates : Bytes :=
  Utf8.encode ("[\x7b\"candidate\":\"a\",\"sdpMLineIndex\":0,\"sdpMid\":\"0\"\x7d," ++
    "\x7b\"candidate\":\"b\",\"sdpMLineIndex\":0,\"sdpMid\":\"0\"\x7d]").toList

-- a line ends the call before anything is added
example : (setIceInformation (rejectAll (Utf8.encode "a".toList)) twoCandidates).added = [] := by
  decide +kernel

-- without a line both null candidates are added
example : (setIceInformation (rejectAll []) twoCandidates).added = [none, none] := by
  decide +kernel

def acceptAll : CandidateFactory Unit where
  create := fun _ => .ok ()
  described := by simp

/-- A null candidate from the remote peer, the text `[null]`, ends the call with
an exception that nothing catches. -/
theorem null_candidate_escapes :
    ¬∀ (factory : CandidateFactory Unit) (parameter : Bytes),
      AddsAcceptedPrefix factory (remoteItems parameter) (setIceInformation factory parameter) := by
  intro claimed
  have escaped : (setIceInformation acceptAll
      (Utf8.encode "[null]".toList)).ending = .error (.escaped .typeMismatch) := rfl
  have returned := (claimed acceptAll (Utf8.encode "[null]".toList)).1
  rw [escaped] at returned
  contradiction

end PyWebRTC.IceInformation
