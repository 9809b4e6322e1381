import HarnessLink.Packet.Message
import HarnessLink.Proofs.Packet.Layouts

/-!
# The bodies of the catalogue

How long the body of each message is, which messages can be written at all, and
that reading a body under the id of its message gives the message back. Only
lists of entries and blobs of data can be too long for their length fields.
-/
namespace HarnessLink

/-- What becomes of the body of `m`: if it fits, it is written in `size` bytes,
and reading them gives `m` whatever follows; if it does not, nothing is written. -/
structure Transfers (write : Except PacketError Bytes) (read : Bytes → Except PacketError α)
    (m : α) (fits : Prop) (size : Nat) : Prop where
  written : fits → ∃ body, write = .ok body ∧ body.length = size ∧
    ∀ rest, read (body ++ rest) = .ok m
  refused : ¬ fits → ∃ e, write = .error e

/-- A message whose body has a faithful layout. -/
theorem Layout.Faithful.transfers {l : Layout α} {fits : α → Prop} {size : α → Nat}
    (h : l.Faithful fits size) (name : String) (build : α → β) (a : α)
    {read : Bytes → Except PacketError β}
    (hread : ∀ body, read body = (l.readBody name body).map build) :
    Transfers (l.write a) read (build a) (fits a) (size a) := by
  refine ⟨?_, h.refused a⟩
  intro hfits
  obtain ⟨body, hwrite, hlength, hback⟩ := h.written a hfits
  refine ⟨body, hwrite, hlength, ?_⟩
  intro rest
  rw [hread, Layout.readBody_of_read (hback rest)]
  rfl

/-- A message whose body has a fixed length is always written. -/
theorem Layout.Fixed.transfers {l : Layout α} {n : Nat} (h : l.Fixed n) (name : String)
    (build : α → β) (a : α) {read : Bytes → Except PacketError β}
    (hread : ∀ body, read body = (l.readBody name body).map build) {fits : Prop} (hfits : fits) :
    Transfers (l.write a) read (build a) fits n := by
  refine ⟨?_, fun hf => absurd hfits hf⟩
  intro _
  exact (Layout.Faithful.transfers h name build a hread).written trivial

/-- A message of one direction as a message. -/
theorem Transfers.map {write : Except PacketError Bytes} {read : Bytes → Except PacketError α}
    {m : α} {fits fits' : Prop} {size : Nat} (h : Transfers write read m fits size) (build : α → β)
    (hfits : fits' ↔ fits) :
    Transfers write (fun body => (read body).map build) (build m) fits' size := by
  refine ⟨?_, fun hf => h.refused fun hf' => hf (hfits.mpr hf')⟩
  intro hf
  obtain ⟨body, hwrite, hlength, hread⟩ := h.written (hfits.mp hf)
  refine ⟨body, hwrite, hlength, ?_⟩
  intro rest
  show (read (body ++ rest)).map build = _
  rw [hread rest]
  rfl

/-! ## Bodies of fixed length -/

theorem SyncOrder.layout_fixed : SyncOrder.layout.Fixed 5 :=
  (Layout.u8_fixed.pair Layout.u32be_fixed).via fun _ => rfl

theorem TestWindow.layout_fixed : TestWindow.layout.Fixed 8 :=
  (Layout.u8_fixed.pair (Layout.u8_fixed.pair (Layout.u16_fixed.pair
    (Layout.u16_fixed.pair Layout.u16_fixed)))).via fun _ => rfl

theorem ClipSetting.layout_fixed : ClipSetting.layout.Fixed 4 :=
  (Layout.u8_fixed.pair (Layout.u8_fixed.pair Layout.u16_fixed)).via fun _ => rfl

theorem ResetOrder.layout_fixed : ResetOrder.layout.Fixed 3 :=
  (Layout.u8_fixed.pair Layout.u16_fixed).via fun _ => rfl

theorem Ping.layout_fixed : Ping.layout.Fixed 6 :=
  (Layout.u16_fixed.pair Layout.u32_fixed).via fun _ => rfl

theorem SlaveEntry.layout_fixed : SlaveEntry.layout.Fixed 9 :=
  (Layout.deviceId_fixed.pair (Layout.u8_fixed.pair (Layout.u8_fixed.pair
    (Layout.u8_fixed.pair Layout.u16_fixed)))).via fun _ => rfl

theorem ResetEntry.layout_fixed : ResetEntry.layout.Fixed 7 :=
  (Layout.deviceId_fixed.pair (Layout.u8_fixed.pair Layout.u16_fixed)).via fun _ => rfl

theorem DeviceEntry.layout_fixed : DeviceEntry.layout.Fixed 10 :=
  (Layout.deviceId_fixed.pair (Layout.u8_fixed.pair (Layout.flag_fixed.pair
    (Layout.u8_fixed.pair (Layout.u8_fixed.pair Layout.u16_fixed))))).via fun _ => rfl

/-! ## From the master to a slave -/

namespace MasterToSlave

/-- Bytes of the body. -/
def bodyLength : MasterToSlave → Nat
  | sync _ => 5
  | configureConduction _ | configureResistance _ => 8
  | configureClip _ => 4
  | readConduction _ | readResistance _ | readClip _ => 1
  | reset _ => 3
  | ping _ => 6

theorem transfers (m : MasterToSlave) : Transfers m.write (read m.id) m True m.bodyLength := by
  cases m with
  | sync v => exact SyncOrder.layout_fixed.transfers "Sync" sync v (fun _ => rfl) trivial
  | configureConduction v =>
    exact TestWindow.layout_fixed.transfers "CondCfg" configureConduction v (fun _ => rfl) trivial
  | configureResistance v =>
    exact TestWindow.layout_fixed.transfers "ResCfg" configureResistance v (fun _ => rfl) trivial
  | configureClip v =>
    exact ClipSetting.layout_fixed.transfers "ClipCfg" configureClip v (fun _ => rfl) trivial
  | readConduction v => exact Layout.u8_fixed.transfers "ReadData" readConduction v (fun _ => rfl) trivial
  | readResistance v => exact Layout.u8_fixed.transfers "ReadData" readResistance v (fun _ => rfl) trivial
  | readClip v => exact Layout.u8_fixed.transfers "ReadData" readClip v (fun _ => rfl) trivial
  | reset v => exact ResetOrder.layout_fixed.transfers "Rst" reset v (fun _ => rfl) trivial
  | ping v => exact Ping.layout_fixed.transfers "PingReq" ping v (fun _ => rfl) trivial

end MasterToSlave

/-! ## From a slave to the master -/

namespace SlaveToMaster

/-- Bytes of data in a report. Other messages carry none. -/
def blobLength : SlaveToMaster → Nat
  | conductionData _ data | resistanceData _ data => data.length
  | _ => 0

/-- Bytes of the body. -/
def bodyLength : SlaveToMaster → Nat
  | conductionInfo _ _ | resistanceInfo _ _ => 9
  | clipInfo _ _ => 5
  | conductionData _ data | resistanceData _ data => 4 + data.length
  | clipData _ _ | resetDone _ _ => 4
  | pong _ => 6

theorem windowInfo_fixed : windowInfo.Fixed 9 :=
  Layout.u8_fixed.pair TestWindow.layout_fixed

theorem clipSetting_fixed : clipSetting.Fixed 5 :=
  Layout.u8_fixed.pair ClipSetting.layout_fixed

theorem report_faithful :
    report.Faithful (fun v => v.2.length ≤ 65535) fun v => 4 + v.2.length :=
  (Layout.status_fixed.pair_faithful (Layout.blob_faithful "report data")).congr
    (fun _ => Iff.rfl) fun v => (Nat.add_assoc 2 2 v.2.length).symm

theorem clipReport_fixed : clipReport.Fixed 4 :=
  Layout.status_fixed.pair Layout.u16_fixed

theorem acknowledgement_fixed : acknowledgement.Fixed 4 :=
  Layout.u8_fixed.pair ResetOrder.layout_fixed

theorem transfers (m : SlaveToMaster) :
    Transfers m.write (read m.id) m (m.blobLength ≤ 65535) m.bodyLength := by
  cases m with
  | conductionInfo status v =>
    exact windowInfo_fixed.transfers "CondInfo" (fun v => conductionInfo v.1 v.2) (status, v)
      (fun _ => rfl) (Nat.zero_le _)
  | resistanceInfo status v =>
    exact windowInfo_fixed.transfers "ResInfo" (fun v => resistanceInfo v.1 v.2) (status, v)
      (fun _ => rfl) (Nat.zero_le _)
  | clipInfo status v =>
    exact clipSetting_fixed.transfers "ClipInfo" (fun v => clipInfo v.1 v.2) (status, v)
      (fun _ => rfl) (Nat.zero_le _)
  | conductionData status data =>
    exact report_faithful.transfers "DataReport" (fun v => conductionData v.1 v.2) (status, data)
      fun _ => rfl
  | resistanceData status data =>
    exact report_faithful.transfers "DataReport" (fun v => resistanceData v.1 v.2) (status, data)
      fun _ => rfl
  | clipData status pins =>
    exact clipReport_fixed.transfers "ClipReport" (fun v => clipData v.1 v.2) (status, pins)
      (fun _ => rfl) (Nat.zero_le _)
  | resetDone status v =>
    exact acknowledgement_fixed.transfers "RstAck" (fun v => resetDone v.1 v.2) (status, v)
      (fun _ => rfl) (Nat.zero_le _)
  | pong v => exact Ping.layout_fixed.transfers "PingRsp" pong v (fun _ => rfl) (Nat.zero_le _)

end SlaveToMaster

/-! ## Between the backend and the master -/

namespace BackendToMaster

/-- Entries in the list of a message. Other messages have none. -/
def entryCount : BackendToMaster → Nat
  | configure entries => entries.length
  | reset entries => entries.length
  | _ => 0

/-- Bytes of the body. -/
def bodyLength : BackendToMaster → Nat
  | configure entries => 1 + 9 * entries.length
  | reset entries => 1 + 7 * entries.length
  | selectMode _ | control _ | listDevices _ => 1

theorem slaves_faithful :
    slaves.Faithful (fun entries => entries.length ≤ 255) fun entries => 1 + 9 * entries.length :=
  SlaveEntry.layout_fixed.counted "slave entries"

theorem resets_faithful :
    resets.Faithful (fun entries => entries.length ≤ 255) fun entries => 1 + 7 * entries.length :=
  ResetEntry.layout_fixed.counted "reset entries"

theorem transfers (m : BackendToMaster) :
    Transfers m.write (read m.id) m (m.entryCount ≤ 255) m.bodyLength := by
  cases m with
  | configure v => exact slaves_faithful.transfers "SlaveCfg" configure v fun _ => rfl
  | selectMode v =>
    exact Layout.u8_fixed.transfers "ModeCfg" selectMode v (fun _ => rfl) (Nat.zero_le _)
  | reset v => exact resets_faithful.transfers "ResetCmd" reset v fun _ => rfl
  | control v => exact Layout.u8_fixed.transfers "Ctrl" control v (fun _ => rfl) (Nat.zero_le _)
  | listDevices v =>
    exact Layout.u8_fixed.transfers "DeviceListReq" listDevices v (fun _ => rfl) (Nat.zero_le _)

end BackendToMaster

namespace MasterToBackend

/-- Entries in the list of a message. Other messages have none. -/
def entryCount : MasterToBackend → Nat
  | configured _ entries => entries.length
  | resetDone _ entries => entries.length
  | deviceList entries => entries.length
  | _ => 0

/-- Bytes of the body. -/
def bodyLength : MasterToBackend → Nat
  | configured _ entries => 2 + 9 * entries.length
  | resetDone _ entries => 2 + 7 * entries.length
  | deviceList entries => 1 + 10 * entries.length
  | modeSelected _ _ | controlled _ _ => 2

theorem slaves_faithful :
    slaves.Faithful (fun v => v.2.length ≤ 255) fun v => 2 + 9 * v.2.length :=
  (Layout.u8_fixed.pair_faithful BackendToMaster.slaves_faithful).congr (fun _ => Iff.rfl)
    fun v => (Nat.add_assoc 1 1 (9 * v.2.length)).symm

theorem resets_faithful :
    resets.Faithful (fun v => v.2.length ≤ 255) fun v => 2 + 7 * v.2.length :=
  (Layout.u8_fixed.pair_faithful BackendToMaster.resets_faithful).congr (fun _ => Iff.rfl)
    fun v => (Nat.add_assoc 1 1 (7 * v.2.length)).symm

theorem devices_faithful :
    devices.Faithful (fun entries => entries.length ≤ 255) fun entries => 1 + 10 * entries.length :=
  DeviceEntry.layout_fixed.counted "device list"

theorem answer_fixed : answer.Fixed 2 :=
  Layout.u8_fixed.pair Layout.u8_fixed

theorem transfers (m : MasterToBackend) :
    Transfers m.write (read m.id) m (m.entryCount ≤ 255) m.bodyLength := by
  cases m with
  | configured status v =>
    exact slaves_faithful.transfers "SlaveCfgRsp" (fun v => configured v.1 v.2) (status, v)
      fun _ => rfl
  | modeSelected status v =>
    exact answer_fixed.transfers "ModeCfgRsp" (fun v => modeSelected v.1 v.2) (status, v)
      (fun _ => rfl) (Nat.zero_le _)
  | resetDone status v =>
    exact resets_faithful.transfers "ResetRsp" (fun v => resetDone v.1 v.2) (status, v)
      fun _ => rfl
  | controlled status v =>
    exact answer_fixed.transfers "CtrlRsp" (fun v => controlled v.1 v.2) (status, v)
      (fun _ => rfl) (Nat.zero_le _)
  | deviceList v => exact devices_faithful.transfers "DeviceListRsp" deviceList v fun _ => rfl

end MasterToBackend

/-! ## From a slave to the backend -/

namespace SlaveToBackend

/-- Bytes of data in an upload. Other messages carry none. -/
def blobLength : SlaveToBackend → Nat
  | conductionData data | resistanceData data => data.length
  | clipData _ => 0

/-- Bytes of the body. -/
def bodyLength : SlaveToBackend → Nat
  | conductionData data | resistanceData data => 2 + data.length
  | clipData _ => 2

theorem transfers (m : SlaveToBackend) :
    Transfers m.write (read m.id) m (m.blobLength ≤ 65535) m.bodyLength := by
  cases m with
  | conductionData v =>
    exact (Layout.blob_faithful "upload data").transfers "UploadData" conductionData v fun _ => rfl
  | resistanceData v =>
    exact (Layout.blob_faithful "upload data").transfers "UploadData" resistanceData v fun _ => rfl
  | clipData v =>
    exact Layout.u16_fixed.transfers "UploadClip" clipData v (fun _ => rfl) (Nat.zero_le _)

end SlaveToBackend

/-! ## The whole catalogue -/

namespace Message

/-- Entries in the list of a message. -/
def entryCount : Message → Nat
  | backendToMaster m => m.entryCount
  | masterToBackend m => m.entryCount
  | _ => 0

/-- Bytes of data in a message. -/
def blobLength : Message → Nat
  | slaveToMaster m => m.blobLength
  | slaveToBackend m => m.blobLength
  | _ => 0

/-- Bytes of the body. -/
def bodyLength : Message → Nat
  | masterToSlave m => m.bodyLength
  | slaveToMaster m => m.bodyLength
  | backendToMaster m => m.bodyLength
  | masterToBackend m => m.bodyLength
  | slaveToBackend m => m.bodyLength

/-- The body of every message is written when its list and its data fit their
length fields, and it is read again under the direction and the id of the
message. -/
theorem transfers (m : Message) : Transfers m.write (read m.direction m.id) m
    (m.entryCount ≤ 255 ∧ m.blobLength ≤ 65535) m.bodyLength := by
  cases m with
  | masterToSlave m =>
    apply m.transfers.map masterToSlave
    exact iff_of_true ⟨Nat.zero_le _, Nat.zero_le _⟩ trivial
  | slaveToMaster m =>
    apply m.transfers.map slaveToMaster
    exact and_iff_right (Nat.zero_le _)
  | backendToMaster m =>
    apply m.transfers.map backendToMaster
    exact and_iff_left (Nat.zero_le _)
  | masterToBackend m =>
    apply m.transfers.map masterToBackend
    exact and_iff_left (Nat.zero_le _)
  | slaveToBackend m =>
    apply m.transfers.map slaveToBackend
    exact and_iff_right (Nat.zero_le _)

end Message

end HarnessLink
