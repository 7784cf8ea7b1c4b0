import PyWebRTC.ActionRuns
import PyWebRTC.VideoCaptureDevice

/-!
# Adding the tracks

`addTracks` adds an audio track and, if the camera opens, a video track, unless
there are senders already. One test stands for the two additions. Where
`AddTrack` gives no sender the code asks that null for its track.
-/

namespace PyWebRTC.AddTracks

open ActionRuns
open PicojsonValue (Bytes)
open VideoCaptureDevice (DeviceInfo openVideoCaptureDevice)

set_option autoImplicit false

inductive TrackKind where
  | audio
  | video
  deriving DecidableEq

/-- The senders of the peer connection, and whether a null sender was
dereferenced, which ends the process. -/
structure State where
  senders : List TrackKind
  crashed : Bool

/-- One call, with the cameras it finds and the outcome of each `AddTrack`. -/
structure Call where
  deviceId : Bytes
  cameras : Option DeviceInfo
  audioAdds : Bool
  videoAdds : Bool

def initial : State where
  senders := []
  crashed := false

def addTrack (state : State) (kind : TrackKind) (adds : Bool) : State :=
  if adds then { state with senders := state.senders ++ [kind] }
  else { state with crashed := true }

def Call.deviceOpens (call : Call) : Bool :=
  (openVideoCaptureDevice call.cameras call.deviceId).isSome

def addTracks (state : State) (call : Call) : State :=
  if state.senders ≠ [] then state
  else
    let withAudio := addTrack state .audio call.audioAdds
    if withAudio.crashed then withAudio
    else if call.deviceOpens then addTrack withAudio .video call.videoAdds
    else withAudio

/-- No call follows a crash. -/
def step (state : State) (call : Call) : Option State :=
  if state.crashed then none else some (addTracks state call)

def Call.succeeds (call : Call) : Bool :=
  call.deviceOpens && call.audioAdds && call.videoAdds

def BothPresent (state : State) : Prop :=
  state.senders.count .audio = 1 ∧ state.senders.count .video = 1

structure SafeCall (state : State) (call : Call) : Prop where
  noNullSender : (addTracks state call).crashed = false
  atMostOne : ∀ kind, (addTracks state call).senders.count kind ≤ 1
  idempotent : BothPresent state → addTracks state call = state
  retries : call.succeeds = true → BothPresent (addTracks state call)

/-- The first call must get its senders; and if its camera does not open, no
later call may find everything it asks for. -/
def SafeCalls : List Call → Prop
  | [] => True
  | first :: later => first.audioAdds = true ∧
      if first.deviceOpens then first.videoAdds = true
      else ∀ call ∈ later, call.succeeds = false

/-- The states that calls without a crash reach. -/
def audioOnly : State := ⟨[.audio], false⟩

def both : State := ⟨[.audio, .video], false⟩

theorem add_tracks_of_senders {state : State} (present : state.senders ≠ []) (call : Call) :
    addTracks state call = state := if_pos present

theorem step_of_senders {state : State} (present : state.senders ≠ [])
    (intact : state.crashed = false) (call : Call) : step state call = some state := by
  rw [step, if_neg (by simp [intact]), add_tracks_of_senders present]

theorem audio_only_at_most_one (kind : TrackKind) : audioOnly.senders.count kind ≤ 1 := by
  cases kind <;> decide

theorem both_at_most_one (kind : TrackKind) : both.senders.count kind ≤ 1 := by
  cases kind <;> decide

theorem both_present : BothPresent both := ⟨rfl, rfl⟩

theorem safe_call_of_outcome {state after : State} {call : Call}
    (outcome : addTracks state call = after) (intact : after.crashed = false)
    (atMostOne : ∀ kind, after.senders.count kind ≤ 1)
    (idempotent : BothPresent state → after = state)
    (retries : call.succeeds = true → BothPresent after) : SafeCall state call := by
  subst after
  exact ⟨intact, atMostOne, idempotent, retries⟩

theorem safe_call_both (call : Call) : SafeCall both call := by
  apply safe_call_of_outcome (add_tracks_of_senders (by decide) call) rfl both_at_most_one
  · exact fun _ => rfl
  · exact fun _ => both_present

/-- With the audio sender alone a call does nothing, though it could do
everything. -/
theorem safe_call_audio_only_iff (call : Call) :
    SafeCall audioOnly call ↔ call.succeeds = false := by
  have unchanged : addTracks audioOnly call = audioOnly := add_tracks_of_senders (by decide) call
  constructor
  · intro safe
    by_contra succeeds
    have present := safe.retries (by simpa using succeeds)
    rw [unchanged] at present
    exact absurd present.2 (by decide)
  · intro fails
    apply safe_call_of_outcome unchanged rfl audio_only_at_most_one
    · exact fun _ => rfl
    · simp [fails]

theorem add_tracks_initial (call : Call) : addTracks initial call =
    if call.audioAdds then
      if call.deviceOpens then if call.videoAdds then both else ⟨[.audio], true⟩ else audioOnly
    else ⟨[], true⟩ := by
  cases audio : call.audioAdds <;> cases device : call.deviceOpens <;>
    cases video : call.videoAdds <;>
    simp [addTracks, addTrack, initial, both, audioOnly, audio, device, video]

theorem not_safe_call_of_crash {state : State} {call : Call}
    (crash : (addTracks state call).crashed = true) : ¬SafeCall state call := by
  intro safe
  simp [safe.noNullSender] at crash

theorem safe_call_initial_iff (call : Call) :
    SafeCall initial call ↔
      call.audioAdds = true ∧ (call.deviceOpens = true → call.videoAdds = true) := by
  have empty : ¬BothPresent initial := fun present => absurd present.1 (by decide)
  cases audio : call.audioAdds with
  | false =>
      have outcome : addTracks initial call = ⟨[], true⟩ := by
        simp [add_tracks_initial, audio]
      exact iff_of_false (not_safe_call_of_crash (by rw [outcome])) (by simp)
  | true =>
      cases device : call.deviceOpens with
      | false =>
          have outcome : addTracks initial call = audioOnly := by
            simp [add_tracks_initial, audio, device]
          apply iff_of_true _ (by simp)
          apply safe_call_of_outcome outcome rfl audio_only_at_most_one
          · exact fun present => absurd present empty
          · simp [Call.succeeds, device]
      | true =>
          cases video : call.videoAdds with
          | false =>
              have outcome : addTracks initial call = ⟨[.audio], true⟩ := by
                simp [add_tracks_initial, audio, device, video]
              exact iff_of_false (not_safe_call_of_crash (by rw [outcome])) (by simp)
          | true =>
              have outcome : addTracks initial call = both := by
                simp [add_tracks_initial, audio, device, video]
              apply iff_of_true _ (by simp)
              apply safe_call_of_outcome outcome rfl both_at_most_one
              · exact fun present => absurd present empty
              · exact fun _ => both_present

theorem meets_along_both (calls : List Call) : MeetsAlong SafeCall step both calls := by
  induction calls with
  | nil => trivial
  | cons call calls ih =>
      rw [meets_along_cons (step_of_senders (by decide) rfl call)]
      exact ⟨safe_call_both call, ih⟩

theorem meets_along_audio_only_iff (calls : List Call) :
    MeetsAlong SafeCall step audioOnly calls ↔ ∀ call ∈ calls, call.succeeds = false := by
  induction calls with
  | nil => simp [MeetsAlong]
  | cons call calls ih =>
      rw [meets_along_cons (step_of_senders (by decide) rfl call), safe_call_audio_only_iff,
        List.forall_mem_cons, ih]

/-- For every sequence of calls, whatever cameras they find and whatever
`AddTrack` returns. -/
theorem calls_safe_iff (calls : List Call) :
    MeetsAlong SafeCall step initial calls ↔ SafeCalls calls := by
  cases calls with
  | nil => exact Iff.rfl
  | cons first later =>
      have taken : step initial first = some (addTracks initial first) := rfl
      rw [meets_along_cons taken, safe_call_initial_iff, SafeCalls, and_assoc]
      apply and_congr_right
      intro audio
      cases device : first.deviceOpens with
      | false =>
          have outcome : addTracks initial first = audioOnly := by
            simp [add_tracks_initial, audio, device]
          simpa [outcome] using meets_along_audio_only_iff later
      | true =>
          simp only [if_true, forall_const, and_iff_left_iff_imp]
          intro video
          have outcome : addTracks initial first = both := by
            simp [add_tracks_initial, audio, device, video]
          rw [outcome]
          exact meets_along_both later

def oneCamera : DeviceInfo where
  devices := [⟨[99], [1], true, true, true⟩]
  unique := by decide

/-- A call before the camera is there leaves the audio sender alone, and the call
that finds the camera returns at once. -/
theorem retry_adds_no_video : ¬∀ calls : List Call, MeetsAlong SafeCall step initial calls := by
  intro claimed
  obtain ⟨-, retried⟩ := claimed [⟨[1], none, true, true⟩, ⟨[1], some oneCamera, true, true⟩]
  obtain ⟨safe, -⟩ := retried audioOnly rfl
  exact absurd ((safe_call_audio_only_iff _).mp safe) (by decide)

end PyWebRTC.AddTracks
