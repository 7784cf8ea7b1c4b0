import PyWebRTC.PicojsonValue
import Mathlib.Data.List.Nodup

/-!
# Opening a camera

`OpenVideoCaptureDevice` looks for the devices with an id and keeps their names;
then it asks the capturer factory to open a device with such a name. Ids are
unique and names are not, and the factory takes the first device of the name.
-/

namespace PyWebRTC.VideoCaptureDevice

open PicojsonValue (Bytes)

set_option autoImplicit false

/-- A camera: whether `GetDeviceName` gives its name and id, whether the factory
comes across it when it looks for a name, and whether it can be opened. -/
structure Device where
  name : Bytes
  id : Bytes
  listed : Bool
  enumerated : Bool
  opens : Bool
  deriving DecidableEq

structure DeviceInfo where
  devices : List Device
  unique : (devices.map Device.id).Nodup

def deviceNames (info : DeviceInfo) (deviceId : Bytes) : List Bytes :=
  (info.devices.filter fun device => device.listed && device.id == deviceId).map Device.name

/-- The device that `Create` turns to for a name. -/
def firstNamed (info : DeviceInfo) (name : Bytes) : Option Device :=
  info.devices.find? fun device => device.enumerated && device.name == name

/-- `WebRtcVideoDeviceCapturerFactory::Create`; a capturer is its device. -/
def create (info : DeviceInfo) (name : Bytes) : Option Device :=
  (firstNamed info name).filter Device.opens

/-- The second loop stops at the first capturer it gets. Without a `DeviceInfo`
the function returns before the first. -/
def openVideoCaptureDevice (info : Option DeviceInfo) (deviceId : Bytes) : Option Device :=
  info.bind fun info => (deviceNames info deviceId).findSome? (create info)

def Requested (info : Option DeviceInfo) (deviceId : Bytes) (device : Device) : Prop :=
  ∃ cameras, info = some cameras ∧ device ∈ cameras.devices ∧ device.listed = true ∧
    device.id = deviceId

/-- What is opened has the id, and what can be opened with the id is. -/
def OpensRequested (info : Option DeviceInfo) (deviceId : Bytes) : Prop :=
  (∀ device, openVideoCaptureDevice info deviceId = some device → device.id = deviceId) ∧
    ∀ device, Requested info deviceId device → device.opens = true →
      openVideoCaptureDevice info deviceId ≠ none

/-- The first device of the name is the one that is asked for, or neither of them
can be opened. -/
def NameFindsDevice (info : DeviceInfo) (device : Device) : Prop :=
  firstNamed info device.name = some device ∨
    (device.opens = false ∧ ∀ other, firstNamed info device.name = some other → other.opens = false)

theorem eq_of_id {devices : List Device} (unique : (devices.map Device.id).Nodup)
    {device other : Device} (member : device ∈ devices) (otherMember : other ∈ devices)
    (same : other.id = device.id) : other = device :=
  List.inj_on_of_nodup_map unique otherMember member same

theorem device_names_of_requested {info : DeviceInfo} {device : Device}
    (member : device ∈ info.devices) (listed : device.listed = true) :
    deviceNames info device.id = [device.name] := by
  have nodup : info.devices.Nodup := List.Nodup.of_map Device.id info.unique
  have sole : ∀ other ∈ info.devices,
      (other.listed && other.id == device.id) = (other == device) := by
    intro other otherMember
    rw [Bool.eq_iff_iff, Bool.and_eq_true, beq_iff_eq, beq_iff_eq]
    constructor
    · exact fun both => eq_of_id info.unique member otherMember both.2
    · rintro rfl
      exact ⟨listed, rfl⟩
  rw [deviceNames, List.filter_congr sole, List.filter_beq,
    List.count_eq_one_of_mem nodup member]
  rfl

theorem device_names_of_unlisted {info : DeviceInfo} {deviceId : Bytes}
    (unlisted : ∀ device ∈ info.devices, device.listed = true → device.id ≠ deviceId) :
    deviceNames info deviceId = [] := by
  rw [deviceNames, List.map_eq_nil_iff, List.filter_eq_nil_iff]
  intro device member kept
  simp only [Bool.and_eq_true, beq_iff_eq] at kept
  exact unlisted device member kept.1 kept.2

/-- The one device with the id stands or falls with the first of its name. -/
theorem create_meets_request_iff {info : DeviceInfo} {device : Device}
    (member : device ∈ info.devices) :
    ((∀ opened, create info device.name = some opened → opened.id = device.id) ∧
        (device.opens = true → create info device.name ≠ none)) ↔
      NameFindsDevice info device := by
  cases found : firstNamed info device.name with
  | none => simp [create, NameFindsDevice, found]
  | some other =>
      have otherMember : other ∈ info.devices := List.mem_of_find?_eq_some found
      have same_iff : other.id = device.id ↔ other = device :=
        ⟨eq_of_id info.unique member otherMember, congrArg Device.id⟩
      cases opens : other.opens with
      | true => simp [create, NameFindsDevice, found, opens, Option.filter, same_iff]
      | false =>
          have closed_of_same : other = device → device.opens = false := by
            rintro rfl
            exact opens
          simpa [create, NameFindsDevice, found, opens, Option.filter] using closed_of_same

/-- For every list of cameras, every pattern of failures and every id. -/
theorem opens_requested_iff_name_finds_device (info : Option DeviceInfo) (deviceId : Bytes) :
    OpensRequested info deviceId ↔
      ∀ cameras, info = some cameras → ∀ device, Requested info deviceId device →
        NameFindsDevice cameras device := by
  cases info with
  | none => simp [OpensRequested, openVideoCaptureDevice, Requested]
  | some cameras =>
      by_cases requested : ∃ device ∈ cameras.devices, device.listed = true ∧ device.id = deviceId
      · obtain ⟨device, member, listed, rfl⟩ := requested
        have opened : openVideoCaptureDevice (some cameras) device.id =
            create cameras device.name := by
          simp [openVideoCaptureDevice, device_names_of_requested member listed]
        have only_device : ∀ other, Requested (some cameras) device.id other ↔ other = device := by
          intro other
          constructor
          · rintro ⟨info, same, otherMember, -, sameId⟩
            obtain rfl := Option.some.inj same
            exact eq_of_id cameras.unique member otherMember sameId
          · rintro rfl
            exact ⟨cameras, rfl, member, listed, rfl⟩
        simpa [OpensRequested, opened, only_device] using create_meets_request_iff member
      · have unlisted : deviceNames cameras deviceId = [] :=
          device_names_of_unlisted fun device member listed sameId =>
            requested ⟨device, member, listed, sameId⟩
        have none_requested : ∀ device, ¬Requested (some cameras) deviceId device := by
          rintro device ⟨info, same, member, listed, sameId⟩
          obtain rfl := Option.some.inj same
          exact requested ⟨device, member, listed, sameId⟩
        simp [OpensRequested, openVideoCaptureDevice, unlisted, none_requested]

def twins : DeviceInfo where
  devices := [⟨[99], [1], true, true, true⟩, ⟨[99], [2], true, true, true⟩]
  unique := by decide

/-- Asked for the second, the function opens the first. -/
theorem twin_opened_instead :
    ¬∀ (info : Option DeviceInfo) (deviceId : Bytes), OpensRequested info deviceId := by
  intro claimed
  have wrong := (claimed (some twins) [2]).1 ⟨[99], [1], true, true, true⟩ (by decide)
  exact absurd wrong (by decide)

end PyWebRTC.VideoCaptureDevice
