import HarnessLink.Json.Basic
import HarnessLink.Packet.Layout

/-!
# Message bodies

What messages carry, with the layout of each body on the wire and its fields as
a structured value. Conduction and resistance tests are set up by the same
record.
-/
namespace HarnessLink

/-- Start of a cycle: what is measured, and the master's clock in milliseconds. -/
structure SyncOrder where
  mode : UInt8
  timestamp : UInt32
  deriving DecidableEq

namespace SyncOrder

def layout : Layout SyncOrder :=
  (Layout.u8.pair Layout.u32be).via (fun (mode, timestamp) => ⟨mode, timestamp⟩)
    fun v => (v.mode, v.timestamp)

def fields (v : SyncOrder) : List (String × Json) :=
  [("mode", .byte v.mode), ("timestamp", .long v.timestamp)]

end SyncOrder

/-- A slave's part of a test: the pins of the whole harness, and the ones that
this slave drives. -/
structure TestWindow where
  timeSlot : UInt8
  interval : UInt8
  total : UInt16
  start : UInt16
  count : UInt16
  deriving DecidableEq

namespace TestWindow

def layout : Layout TestWindow :=
  (Layout.u8.pair (Layout.u8.pair (Layout.u16.pair (Layout.u16.pair Layout.u16)))).via
    (fun (timeSlot, interval, total, start, count) => ⟨timeSlot, interval, total, start, count⟩)
    fun v => (v.timeSlot, v.interval, v.total, v.start, v.count)

/-- The fields of a window on the pins of `test`. -/
def fields (test : String) (v : TestWindow) : List (String × Json) :=
  [("time_slot", .byte v.timeSlot), ("interval", .byte v.interval),
   ("total_" ++ test ++ "_num", .word v.total), ("start_" ++ test ++ "_num", .word v.start),
   (test ++ "_num", .word v.count)]

end TestWindow

structure ClipSetting where
  interval : UInt8
  mode : UInt8
  pins : UInt16
  deriving DecidableEq

namespace ClipSetting

def layout : Layout ClipSetting :=
  (Layout.u8.pair (Layout.u8.pair Layout.u16)).via
    (fun (interval, mode, pins) => ⟨interval, mode, pins⟩) fun v => (v.interval, v.mode, v.pins)

def fields (v : ClipSetting) : List (String × Json) :=
  [("interval", .byte v.interval), ("mode", .byte v.mode), ("clip_pin", .word v.pins)]

end ClipSetting

structure ResetOrder where
  lock : UInt8
  clipLed : UInt16
  deriving DecidableEq

namespace ResetOrder

def layout : Layout ResetOrder :=
  (Layout.u8.pair Layout.u16).via (fun (lock, clipLed) => ⟨lock, clipLed⟩)
    fun v => (v.lock, v.clipLed)

def fields (v : ResetOrder) : List (String × Json) :=
  [("lock", .byte v.lock), ("clip_led", .word v.clipLed)]

end ResetOrder

structure Ping where
  sequence : UInt16
  timestamp : UInt32
  deriving DecidableEq

namespace Ping

def layout : Layout Ping :=
  (Layout.u16.pair Layout.u32).via (fun (sequence, timestamp) => ⟨sequence, timestamp⟩)
    fun v => (v.sequence, v.timestamp)

def fields (v : Ping) : List (String × Json) :=
  [("sequence", .word v.sequence), ("timestamp", .long v.timestamp)]

end Ping

/-- The configuration of one slave, as the backend states it. -/
structure SlaveEntry where
  id : DeviceId
  conduction : UInt8
  resistance : UInt8
  clipMode : UInt8
  clipStatus : UInt16
  deriving DecidableEq

namespace SlaveEntry

def layout : Layout SlaveEntry :=
  (Layout.deviceId.pair (Layout.u8.pair (Layout.u8.pair (Layout.u8.pair Layout.u16)))).via
    (fun (id, conduction, resistance, clipMode, clipStatus) =>
      ⟨id, conduction, resistance, clipMode, clipStatus⟩)
    fun v => (v.id, v.conduction, v.resistance, v.clipMode, v.clipStatus)

def json (v : SlaveEntry) : Json :=
  .object [("id", .string v.id.text), ("conduction_num", .byte v.conduction),
    ("resistance_num", .byte v.resistance), ("clip_mode", .byte v.clipMode),
    ("clip_status", .word v.clipStatus)]

end SlaveEntry

/-- The reset of one slave, as the backend states it. -/
structure ResetEntry where
  id : DeviceId
  lock : UInt8
  clipStatus : UInt16
  deriving DecidableEq

namespace ResetEntry

def layout : Layout ResetEntry :=
  (Layout.deviceId.pair (Layout.u8.pair Layout.u16)).via
    (fun (id, lock, clipStatus) => ⟨id, lock, clipStatus⟩) fun v => (v.id, v.lock, v.clipStatus)

def json (v : ResetEntry) : Json :=
  .object [("id", .string v.id.text), ("lock", .byte v.lock), ("clip_status", .word v.clipStatus)]

end ResetEntry

/-- One line of the device list. -/
structure DeviceEntry where
  id : DeviceId
  shortId : UInt8
  online : Bool
  versionMajor : UInt8
  versionMinor : UInt8
  versionPatch : UInt16
  deriving DecidableEq

namespace DeviceEntry

def layout : Layout DeviceEntry :=
  (Layout.deviceId.pair (Layout.u8.pair (Layout.flag.pair
      (Layout.u8.pair (Layout.u8.pair Layout.u16))))).via
    (fun (id, shortId, online, versionMajor, versionMinor, versionPatch) =>
      ⟨id, shortId, online, versionMajor, versionMinor, versionPatch⟩)
    fun v => (v.id, v.shortId, v.online, v.versionMajor, v.versionMinor, v.versionPatch)

def json (v : DeviceEntry) : Json :=
  .object [("id", .string v.id.text), ("short_id", .byte v.shortId), ("online", .boolean v.online),
    ("version_major", .byte v.versionMajor), ("version_minor", .byte v.versionMinor),
    ("version_patch", .word v.versionPatch)]

end DeviceEntry

/-- Bytes as a list of numbers. -/
def Json.ofBytes (bs : Bytes) : Json := .array (bs.map Json.byte)

end HarnessLink
