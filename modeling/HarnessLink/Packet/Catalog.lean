import HarnessLink.Packet.Body

/-!
# The message catalogue

The messages of each direction. Every message has an id, which is unique within
its direction, a name, and a body. Reading a body by its id gives the message
back; an id that the direction does not know has no message.
-/
namespace HarnessLink

inductive MasterToSlave where
  | sync (order : SyncOrder)
  | configureConduction (window : TestWindow)
  | configureResistance (window : TestWindow)
  | configureClip (setting : ClipSetting)
  | readConduction (reserve : UInt8)
  | readResistance (reserve : UInt8)
  | readClip (reserve : UInt8)
  | reset (order : ResetOrder)
  | ping (ping : Ping)
  deriving DecidableEq

namespace MasterToSlave

def id : MasterToSlave → UInt8
  | sync _ => 0x00
  | configureConduction _ => 0x10
  | configureResistance _ => 0x11
  | configureClip _ => 0x12
  | readConduction _ => 0x20
  | readResistance _ => 0x21
  | readClip _ => 0x22
  | reset _ => 0x30
  | ping _ => 0x40

def name : MasterToSlave → String
  | sync _ => "Sync"
  | configureConduction _ => "CondCfg"
  | configureResistance _ => "ResCfg"
  | configureClip _ => "ClipCfg"
  | readConduction _ => "ReadCondData"
  | readResistance _ => "ReadResData"
  | readClip _ => "ReadClipData"
  | reset _ => "Rst"
  | ping _ => "PingReq"

def write : MasterToSlave → Except PacketError Bytes
  | sync v => SyncOrder.layout.write v
  | configureConduction v | configureResistance v => TestWindow.layout.write v
  | configureClip v => ClipSetting.layout.write v
  | readConduction v | readResistance v | readClip v => Layout.u8.write v
  | reset v => ResetOrder.layout.write v
  | ping v => Ping.layout.write v

def read (id : UInt8) (body : Bytes) : Except PacketError MasterToSlave :=
  if id = 0x00 then (SyncOrder.layout.readBody "Sync" body).map sync
  else if id = 0x10 then (TestWindow.layout.readBody "CondCfg" body).map configureConduction
  else if id = 0x11 then (TestWindow.layout.readBody "ResCfg" body).map configureResistance
  else if id = 0x12 then (ClipSetting.layout.readBody "ClipCfg" body).map configureClip
  else if id = 0x20 then (Layout.u8.readBody "ReadData" body).map readConduction
  else if id = 0x21 then (Layout.u8.readBody "ReadData" body).map readResistance
  else if id = 0x22 then (Layout.u8.readBody "ReadData" body).map readClip
  else if id = 0x30 then (ResetOrder.layout.readBody "Rst" body).map reset
  else if id = 0x40 then (Ping.layout.readBody "PingReq" body).map ping
  else .error (.unknownMessage .masterToSlave id)

/-- The tag and the fields of a message as a structured value. -/
def render : MasterToSlave → String × List (String × Json)
  | sync v => ("sync", v.fields)
  | configureConduction v => ("cond_cfg", v.fields "conduction")
  | configureResistance v => ("res_cfg", v.fields "resistance")
  | configureClip v => ("clip_cfg", v.fields)
  | readConduction v => ("read_cond_data", [("reserve", .byte v)])
  | readResistance v => ("read_res_data", [("reserve", .byte v)])
  | readClip v => ("read_clip_data", [("reserve", .byte v)])
  | reset v => ("rst", v.fields)
  | ping v => ("ping_req", v.fields)

end MasterToSlave

inductive SlaveToMaster where
  | conductionInfo (status : UInt8) (window : TestWindow)
  | resistanceInfo (status : UInt8) (window : TestWindow)
  | clipInfo (status : UInt8) (setting : ClipSetting)
  | conductionData (status : DeviceStatus) (data : Bytes)
  | resistanceData (status : DeviceStatus) (data : Bytes)
  | clipData (status : DeviceStatus) (pins : UInt16)
  | resetDone (status : UInt8) (state : ResetOrder)
  | pong (ping : Ping)
  deriving DecidableEq

namespace SlaveToMaster

/-- The status of an order that was carried out. -/
def accepted : UInt8 := 0

/-- The status of a configuration that the slave cannot take. -/
def refused : UInt8 := 1

def id : SlaveToMaster → UInt8
  | conductionInfo _ _ => 0x10
  | resistanceInfo _ _ => 0x11
  | clipInfo _ _ => 0x12
  | conductionData _ _ => 0x20
  | resistanceData _ _ => 0x21
  | clipData _ _ => 0x22
  | resetDone _ _ => 0x30
  | pong _ => 0x40

def name : SlaveToMaster → String
  | conductionInfo _ _ => "CondInfo"
  | resistanceInfo _ _ => "ResInfo"
  | clipInfo _ _ => "ClipInfo"
  | conductionData _ _ => "CondData"
  | resistanceData _ _ => "ResData"
  | clipData _ _ => "ClipData"
  | resetDone _ _ => "Rst"
  | pong _ => "PingRsp"

/-- The status that acknowledges an order. Data and pongs have none. -/
def status? : SlaveToMaster → Option UInt8
  | conductionInfo status _ | resistanceInfo status _ | clipInfo status _ => some status
  | resetDone status _ => some status
  | _ => none

def windowInfo : Layout (UInt8 × TestWindow) := Layout.u8.pair TestWindow.layout

def clipSetting : Layout (UInt8 × ClipSetting) := Layout.u8.pair ClipSetting.layout

def report : Layout (DeviceStatus × Bytes) := Layout.status.pair (Layout.blob "report data")

def clipReport : Layout (DeviceStatus × UInt16) := Layout.status.pair Layout.u16

def acknowledgement : Layout (UInt8 × ResetOrder) := Layout.u8.pair ResetOrder.layout

def write : SlaveToMaster → Except PacketError Bytes
  | conductionInfo status v | resistanceInfo status v => windowInfo.write (status, v)
  | clipInfo status v => clipSetting.write (status, v)
  | conductionData status v | resistanceData status v => report.write (status, v)
  | clipData status v => clipReport.write (status, v)
  | resetDone status v => acknowledgement.write (status, v)
  | pong v => Ping.layout.write v

def read (id : UInt8) (body : Bytes) : Except PacketError SlaveToMaster :=
  if id = 0x10 then (windowInfo.readBody "CondInfo" body).map fun v => conductionInfo v.1 v.2
  else if id = 0x11 then (windowInfo.readBody "ResInfo" body).map fun v => resistanceInfo v.1 v.2
  else if id = 0x12 then (clipSetting.readBody "ClipInfo" body).map fun v => clipInfo v.1 v.2
  else if id = 0x20 then (report.readBody "DataReport" body).map fun v => conductionData v.1 v.2
  else if id = 0x21 then (report.readBody "DataReport" body).map fun v => resistanceData v.1 v.2
  else if id = 0x22 then (clipReport.readBody "ClipReport" body).map fun v => clipData v.1 v.2
  else if id = 0x30 then (acknowledgement.readBody "RstAck" body).map fun v => resetDone v.1 v.2
  else if id = 0x40 then (Ping.layout.readBody "PingRsp" body).map pong
  else .error (.unknownMessage .slaveToMaster id)

def infoFields (status : UInt8) (cfg : List (String × Json)) : List (String × Json) :=
  [("status", .byte status), ("cfg", .object cfg)]

def reportFields (status : DeviceStatus) (data : Bytes) : List (String × Json) :=
  [("device_status", .word status.bits), ("data", .ofBytes data)]

/-- The tag and the fields of a message as a structured value. -/
def render : SlaveToMaster → String × List (String × Json)
  | conductionInfo status v => ("cond_info", infoFields status (v.fields "conduction"))
  | resistanceInfo status v => ("res_info", infoFields status (v.fields "resistance"))
  | clipInfo status v => ("clip_info", infoFields status v.fields)
  | conductionData status data => ("cond_data", reportFields status data)
  | resistanceData status data => ("res_data", reportFields status data)
  | clipData status pins =>
    ("clip_data", [("device_status", .word status.bits), ("clip_data", .word pins)])
  | resetDone status v =>
    ("rst", [("status", .byte status), ("lock_status", .byte v.lock), ("clip_led", .word v.clipLed)])
  | pong v => ("ping_rsp", v.fields)

end SlaveToMaster

inductive BackendToMaster where
  | configure (entries : List SlaveEntry)
  | selectMode (mode : UInt8)
  | reset (entries : List ResetEntry)
  | control (state : UInt8)
  | listDevices (reserve : UInt8)
  deriving DecidableEq

namespace BackendToMaster

def id : BackendToMaster → UInt8
  | configure _ => 0x00
  | selectMode _ => 0x01
  | reset _ => 0x02
  | control _ => 0x03
  | listDevices _ => 0x04

def name : BackendToMaster → String
  | configure _ => "SlaveCfg"
  | selectMode _ => "ModeCfg"
  | reset _ => "Rst"
  | control _ => "Ctrl"
  | listDevices _ => "DeviceListReq"

def slaves : Layout (List SlaveEntry) := Layout.counted "slave entries" SlaveEntry.layout

def resets : Layout (List ResetEntry) := Layout.counted "reset entries" ResetEntry.layout

def write : BackendToMaster → Except PacketError Bytes
  | configure v => slaves.write v
  | selectMode v | control v | listDevices v => Layout.u8.write v
  | reset v => resets.write v

def read (id : UInt8) (body : Bytes) : Except PacketError BackendToMaster :=
  if id = 0x00 then (slaves.readBody "SlaveCfg" body).map configure
  else if id = 0x01 then (Layout.u8.readBody "ModeCfg" body).map selectMode
  else if id = 0x02 then (resets.readBody "ResetCmd" body).map reset
  else if id = 0x03 then (Layout.u8.readBody "Ctrl" body).map control
  else if id = 0x04 then (Layout.u8.readBody "DeviceListReq" body).map listDevices
  else .error (.unknownMessage .backendToMaster id)

/-- The tag and the fields of a message as a structured value. -/
def render : BackendToMaster → String × List (String × Json)
  | configure v => ("slave_cfg", [("entries", .array (v.map SlaveEntry.json))])
  | selectMode v => ("mode_cfg", [("mode", .byte v)])
  | reset v => ("rst", [("entries", .array (v.map ResetEntry.json))])
  | control v => ("ctrl", [("running_status", .byte v)])
  | listDevices v => ("device_list_req", [("reserve", .byte v)])

end BackendToMaster

inductive MasterToBackend where
  | configured (status : UInt8) (entries : List SlaveEntry)
  | modeSelected (status : UInt8) (mode : UInt8)
  | resetDone (status : UInt8) (entries : List ResetEntry)
  | controlled (status : UInt8) (state : UInt8)
  | deviceList (entries : List DeviceEntry)
  deriving DecidableEq

namespace MasterToBackend

def id : MasterToBackend → UInt8
  | configured _ _ => 0x00
  | modeSelected _ _ => 0x01
  | resetDone _ _ => 0x02
  | controlled _ _ => 0x03
  | deviceList _ => 0x04

def name : MasterToBackend → String
  | configured _ _ => "SlaveCfgRsp"
  | modeSelected _ _ => "ModeCfgRsp"
  | resetDone _ _ => "RstRsp"
  | controlled _ _ => "CtrlRsp"
  | deviceList _ => "DeviceListRsp"

def slaves : Layout (UInt8 × List SlaveEntry) := Layout.u8.pair BackendToMaster.slaves

def resets : Layout (UInt8 × List ResetEntry) := Layout.u8.pair BackendToMaster.resets

def devices : Layout (List DeviceEntry) := Layout.counted "device list" DeviceEntry.layout

def answer : Layout (UInt8 × UInt8) := Layout.u8.pair Layout.u8

def write : MasterToBackend → Except PacketError Bytes
  | configured status v => slaves.write (status, v)
  | modeSelected status v | controlled status v => answer.write (status, v)
  | resetDone status v => resets.write (status, v)
  | deviceList v => devices.write v

def read (id : UInt8) (body : Bytes) : Except PacketError MasterToBackend :=
  if id = 0x00 then (slaves.readBody "SlaveCfgRsp" body).map fun v => configured v.1 v.2
  else if id = 0x01 then (answer.readBody "ModeCfgRsp" body).map fun v => modeSelected v.1 v.2
  else if id = 0x02 then (resets.readBody "ResetRsp" body).map fun v => resetDone v.1 v.2
  else if id = 0x03 then (answer.readBody "CtrlRsp" body).map fun v => controlled v.1 v.2
  else if id = 0x04 then (devices.readBody "DeviceListRsp" body).map deviceList
  else .error (.unknownMessage .masterToBackend id)

/-- The tag and the fields of a message as a structured value. -/
def render : MasterToBackend → String × List (String × Json)
  | configured status v =>
    ("slave_cfg", [("status", .byte status), ("entries", .array (v.map SlaveEntry.json))])
  | modeSelected status v => ("mode_cfg", [("status", .byte status), ("mode", .byte v)])
  | resetDone status v =>
    ("rst", [("status", .byte status), ("entries", .array (v.map ResetEntry.json))])
  | controlled status v => ("ctrl", [("status", .byte status), ("running_status", .byte v)])
  | deviceList v => ("device_list_rsp", [("entries", .array (v.map DeviceEntry.json))])

end MasterToBackend

inductive SlaveToBackend where
  | conductionData (data : Bytes)
  | resistanceData (data : Bytes)
  | clipData (pins : UInt16)
  deriving DecidableEq

namespace SlaveToBackend

def id : SlaveToBackend → UInt8
  | conductionData _ => 0x20
  | resistanceData _ => 0x21
  | clipData _ => 0x22

def name : SlaveToBackend → String
  | conductionData _ => "CondData"
  | resistanceData _ => "ResData"
  | clipData _ => "ClipData"

def upload : Layout Bytes := Layout.blob "upload data"

def write : SlaveToBackend → Except PacketError Bytes
  | conductionData v | resistanceData v => upload.write v
  | clipData v => Layout.u16.write v

def read (id : UInt8) (body : Bytes) : Except PacketError SlaveToBackend :=
  if id = 0x20 then (upload.readBody "UploadData" body).map conductionData
  else if id = 0x21 then (upload.readBody "UploadData" body).map resistanceData
  else if id = 0x22 then (Layout.u16.readBody "UploadClip" body).map clipData
  else .error (.unknownMessage .slaveToBackend id)

/-- The tag and the fields of a message as a structured value. -/
def render : SlaveToBackend → String × List (String × Json)
  | conductionData v => ("cond_data", [("data", .ofBytes v)])
  | resistanceData v => ("res_data", [("data", .ofBytes v)])
  | clipData v => ("clip_data", [("clip_data", .word v)])

end SlaveToBackend

end HarnessLink
