import HarnessLink.Proofs.Packet.Demands
import HarnessLink.Proofs.Packet.RoundTrip

/-!
# What is read is written again

A layout that reads a value off the front of some bytes writes the value as these bytes
again, whatever the bytes are, except that a flag is set by any byte but zero and written
as one. The law is kept by every way of putting layouts together, counts and lengths
included. So a frame that a receiver takes has a canonical form: the header counts no
fragments, bytes behind the last field are gone, and the flags of a device list are
settled. Writing what was read gives this form, and reading the form gives the same.
-/
namespace HarnessLink

/-! ## Layouts -/

namespace Layout

/-- Bytes with the flags among them settled: one that is set is one. -/
def settle (flags : List Bool) (bytes : Bytes) : Bytes :=
  List.zipWith (fun flag b => if flag = true ∧ b ≠ 0 then 1 else b) flags bytes

theorem settle_append {flags : List Bool} {front : Bytes} (h : front.length = flags.length)
    (more : List Bool) (rest : Bytes) :
    settle (flags ++ more) (front ++ rest) = settle flags front ++ settle more rest :=
  List.zipWith_append h.symm

/-- What stands behind the flags is gone. -/
theorem settle_front {flags : List Bool} {front : Bytes} (h : front.length = flags.length)
    (rest : Bytes) : settle flags (front ++ rest) = settle flags front := by
  have happend := settle_append h [] rest
  simpa [settle] using happend

/-- Without flags the bytes are as they were. -/
@[simp] theorem settle_plain (n : Nat) (bytes : Bytes) :
    settle (List.replicate n false) bytes = bytes.take n := by
  induction n generalizing bytes with
  | zero => simp [settle]
  | succ n ih =>
    cases bytes with
    | nil => simp [settle]
    | cons b rest => simpa [settle, List.replicate_succ] using ih rest

@[simp] theorem length_settle (flags : List Bool) (bytes : Bytes) :
    (settle flags bytes).length = min flags.length bytes.length := by
  simp [settle]

/-- A value that is read off the front of bytes is written as this front, with its flags
settled. -/
structure Restores (l : Layout α) (flags : α → List Bool) : Prop where
  front : ∀ {body a rest}, l.read body = .ok (a, rest) → ∃ front, body = front ++ rest ∧
    front.length = (flags a).length ∧ l.write a = .ok (settle (flags a) front)

theorem u8_restores : u8.Restores fun _ => [false] := by
  constructor
  intro body b rest h
  match body with
  | [] => cases h
  | b :: rest =>
    cases h
    exact ⟨[b], by simp, by simp, by simp [u8, settle]⟩

theorem u16_restores : u16.Restores fun _ => List.replicate 2 false := by
  constructor
  intro body w rest h
  match body with
  | [] | [_] => cases h
  | a :: b :: rest =>
    cases h
    exact ⟨[a, b], by simp, by simp, by simp [u16, settle]⟩

theorem u32_restores : u32.Restores fun _ => List.replicate 4 false := by
  constructor
  intro body w rest h
  match body with
  | [] | [_] | [_, _] | [_, _, _] => cases h
  | a :: b :: c :: d :: rest =>
    cases h
    exact ⟨[a, b, c, d], by simp, by simp, by simp [u32, settle]⟩

theorem u32be_restores : u32be.Restores fun _ => List.replicate 4 false := by
  constructor
  intro body w rest h
  match body with
  | [] | [_] | [_, _] | [_, _, _] => cases h
  | a :: b :: c :: d :: rest =>
    cases h
    exact ⟨[a, b, c, d], by simp, by simp, by simp [u32be, settle]⟩

/-- Any byte but zero sets a flag. -/
theorem flag_restores : flag.Restores fun _ => [true] := by
  constructor
  intro body on rest h
  match body with
  | [] => cases h
  | b :: rest =>
    cases h
    refine ⟨[b], by simp, by simp, ?_⟩
    by_cases hb : b = 0 <;> simp [flag, via, u8, settle, hb]

section

variable {l : Layout α} {m : Layout β} {flags : α → List Bool} {flags' : β → List Bool}

theorem Restores.via (h : l.Restores flags) {build : α → β} {view : β → α}
    (hbuild : ∀ a, view (build a) = a) : (l.via build view).Restores fun b => flags (view b) := by
  constructor
  intro body b rest hread
  obtain ⟨⟨a, _⟩, ha, hb⟩ := ok_of_map hread
  cases hb
  simpa only [Layout.via, hbuild] using h.front ha

theorem Restores.pair (h : l.Restores flags) (h' : m.Restores flags') :
    (l.pair m).Restores fun v => flags v.1 ++ flags' v.2 := by
  constructor
  intro body v rest hread
  obtain ⟨⟨a, mid⟩, ha, hread⟩ := ok_of_bind hread
  obtain ⟨⟨b, _⟩, hb, hv⟩ := ok_of_bind hread
  cases hv
  obtain ⟨front, rfl, hlength, hwrite⟩ := h.front ha
  obtain ⟨back, rfl, hlength', hwrite'⟩ := h'.front hb
  refine ⟨front ++ back, by simp, by simp [hlength, hlength'], ?_⟩
  rw [settle_append hlength]
  simp only [Layout.pair, hwrite, hwrite']
  rfl

/-- The same law with the flags said in other words. -/
theorem Restores.congr {more : α → List Bool} (h : l.Restores flags)
    (hflags : ∀ a, flags a = more a) : l.Restores more := by
  obtain rfl : flags = more := funext hflags
  exact h

theorem deviceId_restores : deviceId.Restores fun _ => List.replicate 4 false :=
  u32_restores.via fun _ => rfl

theorem status_restores : status.Restores fun _ => List.replicate 2 false :=
  u16_restores.via fun _ => rfl

theorem blob_restores (what : String) :
    (blob what).Restores fun data => List.replicate (2 + data.length) false := by
  constructor
  intro body data rest h
  match body with
  | [] | [_] => cases h
  | a :: b :: tail =>
    rw [read_blob] at h
    split_ifs at h with hlength
    cases h
    have hdata : (tail.take (Word.ofLe16 a b).toNat).length = (Word.ofLe16 a b).toNat :=
      List.length_take_of_le hlength
    have hmax : (Word.ofLe16 a b).toNat ≤ 65535 := Nat.le_of_lt_succ (Word.ofLe16 a b).toNat_lt
    have hwhole : 2 + (Word.ofLe16 a b).toNat =
        (a :: b :: tail.take (Word.ofLe16 a b).toNat).length := by
      rw [List.length_cons, List.length_cons, hdata, Nat.add_comm]
    refine ⟨a :: b :: tail.take (Word.ofLe16 a b).toNat, by simp, by simp [hdata, ← hwhole], ?_⟩
    rw [settle_plain, hdata, hwhole, List.take_length]
    simp only [blob, hdata, hmax, if_true, UInt16.ofNat_toNat, Word.le16_ofLe16]
    rfl

/-- Values one behind the other, as many as are asked for. -/
theorem Restores.many (h : l.Restores flags) {n : Nat} {body : Bytes} {values : List α}
    {rest : Bytes} (hread : l.readMany n body = .ok (values, rest)) :
    values.length = n ∧ ∃ front parts, body = front ++ rest ∧
      front.length = (values.flatMap flags).length ∧ values.mapM l.write = .ok parts ∧
      parts.flatten = settle (values.flatMap flags) front := by
  induction n generalizing body values with
  | zero =>
    cases hread
    exact ⟨rfl, [], [], by simp, by simp, rfl, by simp [settle]⟩
  | succ n ih =>
    obtain ⟨⟨a, mid⟩, ha, hread⟩ := ok_of_bind hread
    obtain ⟨⟨as, _⟩, has, hv⟩ := ok_of_bind hread
    cases hv
    obtain ⟨front, rfl, hlength, hwrite⟩ := h.front ha
    obtain ⟨hcount, back, parts, rfl, hlength', hparts, hflatten⟩ := ih has
    refine ⟨by simp [hcount], front ++ back, settle (flags a) front :: parts, by simp,
      by simp [hlength, hlength'], ?_, ?_⟩
    · rw [List.mapM_cons, hwrite, hparts]
      rfl
    · rw [List.flatMap_cons, settle_append hlength, List.flatten_cons, hflatten]

/-- The count is that of the values that were read. -/
theorem Restores.counted (h : l.Restores flags) (what : String) :
    (counted what l).Restores fun values => false :: values.flatMap flags := by
  constructor
  intro body values rest hread
  match body with
  | [] => cases hread
  | count :: tail =>
    obtain ⟨hcount, front, parts, rfl, hlength, hparts, hflatten⟩ :=
      h.many (show l.readMany count.toNat tail = .ok (values, rest) from hread)
    have hmax : values.length ≤ 255 := by
      have := count.toNat_lt
      omega
    have hbyte : UInt8.ofNat values.length = count := by rw [hcount, UInt8.ofNat_toNat]
    refine ⟨count :: front, by simp, by simp [hlength], ?_⟩
    simp only [Layout.counted, hmax, if_true, hparts, hbyte]
    show Except.ok (count :: parts.flatten) = _
    rw [hflatten]
    simp [settle]

/-- Entries without flags. -/
theorem Restores.counted_plain {n : Nat} (h : l.Restores fun _ => List.replicate n false)
    (what : String) :
    (Layout.counted what l).Restores fun values => List.replicate (1 + n * values.length) false := by
  apply (h.counted what).congr
  intro values
  have hentries : (values.flatMap fun _ => List.replicate n false) =
      List.replicate (n * values.length) false := by
    induction values with
    | nil => simp
    | cons a values ih =>
      rw [List.flatMap_cons, ih, List.replicate_append_replicate, List.length_cons, Nat.mul_succ,
        Nat.add_comm n]
  rw [hentries, Nat.add_comm 1, List.replicate_succ]

/-- The front that a value is read from is what its fields ask for. -/
theorem Restores.demand_eq (h : l.Restores flags) {fields : List Field} (htakes : l.Takes fields)
    {name : String} {body : Bytes} {a : α} (hread : l.readBody name body = .ok a) :
    (Field.asksAll fields body).sum = (flags a).length := by
  unfold readBody at hread
  split at hread
  next b rest hb =>
    cases hread
    obtain ⟨front, hbody, hlength, -⟩ := h.front hb
    have hbodyLength := congrArg List.length hbody
    rw [List.length_append] at hbodyLength
    by_cases hdemand : (Field.asksAll fields body).sum ≤ body.length
    · obtain ⟨c, hc⟩ := htakes.exact hdemand
      have hrest := congrArg (fun r => r.2.length) (Except.ok.inj (hb.symm.trans hc))
      simp only [List.length_drop] at hrest
      omega
    · cases hshort : Shortfall.first? (Field.asksAll fields body) body.length with
      | none => exact absurd (Shortfall.first?_eq_none_iff.mp hshort) hdemand
      | some s =>
        rw [htakes.short hshort] at hb
        cases hb
  next => cases hread

end

/-- A body is long enough for what is read off its front, and is written as this front. -/
structure Rewritten (write : Except PacketError Bytes) (flags : List Bool) (body : Bytes) :
    Prop where
  whole : flags.length ≤ body.length
  written : write = .ok (settle flags body)

theorem Restores.rewritten {l : Layout α} {flags : α → List Bool} (h : l.Restores flags)
    {name : String} {body : Bytes} {a : α} (hread : l.readBody name body = .ok a) :
    Rewritten (l.write a) (flags a) body := by
  unfold readBody at hread
  split at hread
  next b rest hb =>
    cases hread
    obtain ⟨front, rfl, hlength, hwrite⟩ := h.front hb
    exact ⟨by simp [hlength], by rw [hwrite, settle_front hlength]⟩
  next => cases hread

end Layout

/-! ## Bodies of the catalogue -/

open Layout

theorem SyncOrder.layout_restores : SyncOrder.layout.Restores fun _ => List.replicate 5 false :=
  (u8_restores.pair u32be_restores).via fun _ => rfl

theorem TestWindow.layout_restores : TestWindow.layout.Restores fun _ => List.replicate 8 false :=
  (u8_restores.pair (u8_restores.pair (u16_restores.pair
    (u16_restores.pair u16_restores)))).via fun _ => rfl

theorem ClipSetting.layout_restores : ClipSetting.layout.Restores fun _ => List.replicate 4 false :=
  (u8_restores.pair (u8_restores.pair u16_restores)).via fun _ => rfl

theorem ResetOrder.layout_restores : ResetOrder.layout.Restores fun _ => List.replicate 3 false :=
  (u8_restores.pair u16_restores).via fun _ => rfl

theorem Ping.layout_restores : Ping.layout.Restores fun _ => List.replicate 6 false :=
  (u16_restores.pair u32_restores).via fun _ => rfl

theorem SlaveEntry.layout_restores : SlaveEntry.layout.Restores fun _ => List.replicate 9 false :=
  (deviceId_restores.pair (u8_restores.pair (u8_restores.pair
    (u8_restores.pair u16_restores)))).via fun _ => rfl

theorem ResetEntry.layout_restores : ResetEntry.layout.Restores fun _ => List.replicate 7 false :=
  (deviceId_restores.pair (u8_restores.pair u16_restores)).via fun _ => rfl

/-- The flag of an entry tells whether the device is online. -/
def DeviceEntry.flags : List Bool :=
  [false, false, false, false, false, true, false, false, false, false]

theorem DeviceEntry.layout_restores : DeviceEntry.layout.Restores fun _ => DeviceEntry.flags :=
  (deviceId_restores.pair (u8_restores.pair (flag_restores.pair
    (u8_restores.pair (u8_restores.pair u16_restores))))).via fun _ => rfl

theorem MasterToSlave.rewritten {id : UInt8} {body : Bytes} {m : MasterToSlave}
    (h : read id body = .ok m) :
    m.id = id ∧ Rewritten m.write (List.replicate m.bodyLength false) body := by
  unfold read at h
  split_ifs at h
  all_goals
    try subst id
    obtain ⟨v, hv, rfl⟩ := ok_of_map h
  · exact ⟨rfl, SyncOrder.layout_restores.rewritten hv⟩
  · exact ⟨rfl, TestWindow.layout_restores.rewritten hv⟩
  · exact ⟨rfl, TestWindow.layout_restores.rewritten hv⟩
  · exact ⟨rfl, ClipSetting.layout_restores.rewritten hv⟩
  · exact ⟨rfl, u8_restores.rewritten hv⟩
  · exact ⟨rfl, u8_restores.rewritten hv⟩
  · exact ⟨rfl, u8_restores.rewritten hv⟩
  · exact ⟨rfl, ResetOrder.layout_restores.rewritten hv⟩
  · exact ⟨rfl, Ping.layout_restores.rewritten hv⟩

namespace SlaveToMaster

theorem windowInfo_restores : windowInfo.Restores fun _ => List.replicate 9 false :=
  u8_restores.pair TestWindow.layout_restores

theorem clipSetting_restores : clipSetting.Restores fun _ => List.replicate 5 false :=
  u8_restores.pair ClipSetting.layout_restores

theorem report_restores :
    report.Restores fun v => List.replicate (4 + v.2.length) false := by
  apply (status_restores.pair (blob_restores "report data")).congr
  intro v
  rw [List.replicate_append_replicate, ← Nat.add_assoc]

theorem clipReport_restores : clipReport.Restores fun _ => List.replicate 4 false :=
  status_restores.pair u16_restores

theorem acknowledgement_restores : acknowledgement.Restores fun _ => List.replicate 4 false :=
  u8_restores.pair ResetOrder.layout_restores

theorem rewritten {id : UInt8} {body : Bytes} {m : SlaveToMaster} (h : read id body = .ok m) :
    m.id = id ∧ Rewritten m.write (List.replicate m.bodyLength false) body := by
  unfold read at h
  split_ifs at h
  all_goals
    try subst id
    obtain ⟨v, hv, rfl⟩ := ok_of_map h
  · exact ⟨rfl, windowInfo_restores.rewritten hv⟩
  · exact ⟨rfl, windowInfo_restores.rewritten hv⟩
  · exact ⟨rfl, clipSetting_restores.rewritten hv⟩
  · exact ⟨rfl, report_restores.rewritten hv⟩
  · exact ⟨rfl, report_restores.rewritten hv⟩
  · exact ⟨rfl, clipReport_restores.rewritten hv⟩
  · exact ⟨rfl, acknowledgement_restores.rewritten hv⟩
  · exact ⟨rfl, Ping.layout_restores.rewritten hv⟩

end SlaveToMaster

namespace BackendToMaster

theorem slaves_restores :
    slaves.Restores fun entries => List.replicate (1 + 9 * entries.length) false :=
  SlaveEntry.layout_restores.counted_plain "slave entries"

theorem resets_restores :
    resets.Restores fun entries => List.replicate (1 + 7 * entries.length) false :=
  ResetEntry.layout_restores.counted_plain "reset entries"

theorem rewritten {id : UInt8} {body : Bytes} {m : BackendToMaster} (h : read id body = .ok m) :
    m.id = id ∧ Rewritten m.write (List.replicate m.bodyLength false) body := by
  unfold read at h
  split_ifs at h
  all_goals
    try subst id
    obtain ⟨v, hv, rfl⟩ := ok_of_map h
  · exact ⟨rfl, slaves_restores.rewritten hv⟩
  · exact ⟨rfl, u8_restores.rewritten hv⟩
  · exact ⟨rfl, resets_restores.rewritten hv⟩
  · exact ⟨rfl, u8_restores.rewritten hv⟩
  · exact ⟨rfl, u8_restores.rewritten hv⟩

end BackendToMaster

namespace MasterToBackend

/-- Which bytes of the body are flags. -/
def flags : MasterToBackend → List Bool
  | deviceList entries => false :: entries.flatMap fun _ => DeviceEntry.flags
  | m => List.replicate m.bodyLength false

theorem slaves_restores :
    slaves.Restores fun v => List.replicate (2 + 9 * v.2.length) false := by
  apply (u8_restores.pair BackendToMaster.slaves_restores).congr
  intro v
  rw [Nat.add_comm 1, Nat.add_comm 2]
  rfl

theorem resets_restores :
    resets.Restores fun v => List.replicate (2 + 7 * v.2.length) false := by
  apply (u8_restores.pair BackendToMaster.resets_restores).congr
  intro v
  rw [Nat.add_comm 1, Nat.add_comm 2]
  rfl

theorem answer_restores : answer.Restores fun _ => List.replicate 2 false :=
  u8_restores.pair u8_restores

theorem devices_restores : devices.Restores fun entries => (deviceList entries).flags :=
  DeviceEntry.layout_restores.counted "device list"

theorem rewritten {id : UInt8} {body : Bytes} {m : MasterToBackend} (h : read id body = .ok m) :
    m.id = id ∧ Rewritten m.write m.flags body := by
  unfold read at h
  split_ifs at h
  all_goals
    try subst id
    obtain ⟨v, hv, rfl⟩ := ok_of_map h
  · exact ⟨rfl, slaves_restores.rewritten hv⟩
  · exact ⟨rfl, answer_restores.rewritten hv⟩
  · exact ⟨rfl, resets_restores.rewritten hv⟩
  · exact ⟨rfl, answer_restores.rewritten hv⟩
  · exact ⟨rfl, devices_restores.rewritten hv⟩

end MasterToBackend

namespace SlaveToBackend

theorem rewritten {id : UInt8} {body : Bytes} {m : SlaveToBackend} (h : read id body = .ok m) :
    m.id = id ∧ Rewritten m.write (List.replicate m.bodyLength false) body := by
  unfold read at h
  split_ifs at h
  all_goals
    try subst id
    obtain ⟨v, hv, rfl⟩ := ok_of_map h
  · exact ⟨rfl, (blob_restores "upload data").rewritten hv⟩
  · exact ⟨rfl, (blob_restores "upload data").rewritten hv⟩
  · exact ⟨rfl, u16_restores.rewritten hv⟩

end SlaveToBackend

namespace Message

/-- Which bytes of the body are flags. Only a device list has any. -/
def flags : Message → List Bool
  | masterToBackend m => m.flags
  | m => List.replicate m.bodyLength false

/-- A body that is read is written again, with its flags settled. -/
theorem rewritten {direction : Direction} {id : UInt8} {body : Bytes} {m : Message}
    (h : read direction id body = .ok m) :
    m.direction = direction ∧ m.id = id ∧ Rewritten m.write m.flags body := by
  unfold read at h
  split at h <;> obtain ⟨v, hv, rfl⟩ := ok_of_map h
  · exact ⟨rfl, MasterToSlave.rewritten hv⟩
  · exact ⟨rfl, SlaveToMaster.rewritten hv⟩
  · exact ⟨rfl, BackendToMaster.rewritten hv⟩
  · exact ⟨rfl, MasterToBackend.rewritten hv⟩
  · exact ⟨rfl, SlaveToBackend.rewritten hv⟩

@[simp] theorem length_flags (m : Message) : m.flags.length = m.bodyLength := by
  cases m with
  | masterToBackend m =>
    cases m with
    | deviceList entries =>
      simp [flags, bodyLength, MasterToBackend.flags, MasterToBackend.bodyLength,
        DeviceEntry.flags, List.map_const', Nat.mul_comm 10, Nat.add_comm 1]
    | _ => simp [flags, bodyLength, MasterToBackend.flags]
  | _ => simp [flags, bodyLength]

/-- Which bytes of the packet are flags. -/
def packetFlags (m : Message) : List Bool :=
  List.replicate m.direction.minPacketLength false ++ m.flags

/-- Only a device list has flags. -/
theorem packetFlags_plain {m : Message}
    (h : ∀ entries, m ≠ .masterToBackend (.deviceList entries)) :
    m.packetFlags = List.replicate m.packetLength false := by
  have hflags : m.flags = List.replicate m.bodyLength false := by
    cases m with
    | masterToBackend m =>
      cases m with
      | deviceList entries => exact absurd rfl (h entries)
      | _ => rfl
    | _ => rfl
  rw [packetFlags, hflags, List.replicate_append_replicate, packetLength]

/-- What is written is read under the direction and the id of the message. -/
theorem read_of_write {m : Message} {body : Bytes} (h : m.write = .ok body) :
    read m.direction m.id body = .ok m := by
  by_cases hfits : m.entryCount ≤ 255 ∧ m.blobLength ≤ 65535
  · obtain ⟨written, hwrite, -, hread⟩ := m.transfers.written hfits
    obtain rfl : written = body := Except.ok.inj (hwrite.symm.trans h)
    simpa using hread []
  · obtain ⟨e, he⟩ := m.transfers.refused hfits
    rw [he] at h
    cases h

end Message

/-! ## Frames -/

/-- What a message is packed into is read as the message, unless it is left to another device. -/
theorem Message.parse_of_pack {m : Message} {address : Address} {p : Packet}
    (h : m.pack address = .ok p) (hlength : p.length ≤ Packet.maxLength) {own : Option DeviceId}
    (hown : Envelope.otherDestination? own p = none) :
    Envelope.parse own p.framed = .ok ⟨address, m⟩ := by
  unfold pack at h
  split_ifs at h with hfits
  obtain ⟨payload, hwrite, rfl⟩ := ok_of_map h
  rw [Envelope.parse_framed hfits hlength, hown, read_of_write hwrite]
  rfl

/-- The id and the address of a packet have no flags. -/
theorem Packet.settle_wire {p : Packet} (h : p.address.fits p.direction = true)
    (flags : List Bool) :
    Layout.settle (List.replicate p.direction.minPacketLength false ++ flags) p.wire =
      { p with payload := Layout.settle flags p.payload }.wire := by
  have hfront : (p.messageId :: p.address.wire).length = p.direction.minPacketLength := by
    rw [List.length_cons, Address.length_wire h, Direction.minPacketLength, Nat.add_comm]
  have hlength : (p.messageId :: p.address.wire).length =
      (List.replicate p.direction.minPacketLength false).length := by
    rw [hfront, List.length_replicate]
  have hsettled := Layout.settle_append hlength flags p.payload
  rw [Layout.settle_plain, ← hfront, List.take_length] at hsettled
  rw [← hfront]
  exact hsettled

/-- A packet that is read is packed again as it was, up to its last field and with the flags of
its body settled. -/
theorem Packet.pack_of_read {p : Packet} {m : Message} (h : p.address.fits p.direction = true)
    (hread : Message.read p.direction p.messageId p.payload = .ok m) :
    ∃ q : Packet, m.pack p.address = .ok q ∧ q.direction = p.direction ∧ q.address = p.address ∧
      q.wire = Layout.settle m.packetFlags p.wire ∧ q.length = m.packetLength ∧
      q.length ≤ p.length := by
  obtain ⟨hdirection, hid, hwhole, hwrite⟩ := Message.rewritten hread
  rw [Message.length_flags] at hwhole
  have hlength : (Layout.settle m.flags p.payload).length = m.bodyLength := by
    rw [Layout.length_settle, Message.length_flags, Nat.min_eq_left hwhole]
  refine ⟨{ p with payload := Layout.settle m.flags p.payload }, ?_, rfl, rfl, ?_, ?_, ?_⟩
  · rw [Message.pack, hdirection, if_pos h, hwrite, hid]
    rfl
  · rw [Message.packetFlags, hdirection]
    exact (Packet.settle_wire h m.flags).symm
  · rw [Packet.length, hlength, Message.packetLength, hdirection]
  · rw [Packet.length, hlength]
    exact Nat.add_le_add_left hwhole _

namespace Envelope

/-- A frame that a receiver takes is written again in its canonical form. The packet is a front of
the packet that was read, as long as the fields of the message call for, except that each byte of
a device list that tells that a device is online is one. The header keeps its direction, counts no
fragments and gives the length of this packet. What is written is read as the same. -/
theorem parse_canonical {own : Option DeviceId} {frame : Bytes} {e : Envelope}
    (h : parse own frame = .ok e) :
    ∃ header packet again, ∃ length : UInt16, PacketHeader.read frame = .ok header ∧
      packet = Layout.settle e.message.packetFlags (frame.drop PacketHeader.size) ∧
      packet.length = e.message.packetLength ∧ packet.length ≤ header.length.toNat ∧
      ((∀ entries, e.message ≠ .masterToBackend (.deviceList entries)) →
        packet <+: frame.drop PacketHeader.size) ∧
      length.toNat = packet.length ∧
      again = PacketHeader.wire ⟨header.kind, 0, false, length⟩ ++ packet ∧
      (∀ buffer, e.message.writeFrame e.address buffer = (.ok (), buffer ++ again)) ∧
      parse own again = .ok e ∧ parse none again = .ok e := by
  obtain ⟨header, direction, p, m, hheader, hlength, hcode, hp, hown, hm, rfl⟩ :=
    parse_eq_ok_iff.mp h
  obtain ⟨rfl, hfits⟩ := Packet.fits_of_ofWire hp
  obtain ⟨q, hpack, hdirection, haddress, hwire, hqlength, hle⟩ := Packet.pack_of_read hfits hm
  have hqfits : q.address.fits q.direction = true := by
    rw [haddress, hdirection]
    exact hfits
  have hshort : q.length ≤ header.length.toNat := by
    rw [← hlength, ← Packet.wire_of_ofWire hp, Packet.length_wire hfits]
    exact hle
  have hmax : q.length ≤ Packet.maxLength :=
    Nat.le_trans hshort (Nat.le_of_lt_succ header.length.toNat_lt)
  have hother : ∀ receiver, otherDestination? receiver q = otherDestination? receiver p := by
    intro receiver
    simp only [otherDestination?, hdirection, haddress]
  rw [Packet.wire_of_ofWire hp] at hwire
  refine ⟨header, q.wire, q.framed, UInt16.ofNat q.length, hheader, hwire, ?_, ?_, ?_, ?_, ?_, ?_,
    Message.parse_of_pack hpack hmax ((hother own).trans hown),
    Message.parse_of_pack hpack hmax (otherDestination?_none q)⟩
  · rw [Packet.length_wire hqfits, hqlength]
  · rw [Packet.length_wire hqfits]
    exact hshort
  · intro hplain
    rw [hwire, Message.packetFlags_plain hplain, Layout.settle_plain]
    exact List.take_prefix _ _
  · rw [Packet.length_wire hqfits, UInt16.toNat_ofNat']
    exact Nat.mod_eq_of_lt (Nat.lt_succ_of_le hmax)
  · rw [← Direction.code_of_ofCode? hcode, ← hdirection]
    rfl
  · intro buffer
    rw [Message.writeFrame, hpack]
    exact Packet.writeFrame_of_le hqfits hmax buffer

/-- A device list with a fragment count, an online byte of seven and a byte behind the entry. -/
theorem parse_canonical_deviceList :
    let frame : Bytes :=
      [0xAB, 0xCD, 3, 9, 1, 13, 0, 4, 1, 1, 2, 3, 4, 5, 7, 1, 2, 6, 0, 0xEE]
    let e : Envelope := ⟨.none, .masterToBackend (.deviceList [⟨⟨0x04030201⟩, 5, true, 1, 2, 6⟩])⟩
    parse none frame = .ok e ∧ ∀ buffer, e.message.writeFrame e.address buffer =
      (.ok (), buffer ++ [0xAB, 0xCD, 3, 0, 0, 12, 0, 4, 1, 1, 2, 3, 4, 5, 1, 1, 2, 6, 0]) := by
  intro frame e
  have hparse : parse none frame = .ok e := rfl
  obtain ⟨header, packet, again, length, hheader, hpacket, -, -, -, hlength, hagain, hwrite, -⟩ :=
    parse_canonical hparse
  obtain rfl : ⟨3, 9, true, 13⟩ = header := Except.ok.inj hheader
  obtain rfl : packet = [4, 1, 1, 2, 3, 4, 5, 1, 1, 2, 6, 0] := by rw [hpacket]; decide
  obtain rfl : length = 12 := UInt16.toNat_inj.mp hlength
  refine ⟨hparse, fun buffer => ?_⟩
  rw [hwrite, hagain]
  rfl

end Envelope

end HarnessLink
