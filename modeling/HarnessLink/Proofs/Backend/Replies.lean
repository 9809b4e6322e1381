import HarnessLink.Proofs.Backend.Surfaces
import HarnessLink.Proofs.Master.Configure
import HarnessLink.Proofs.Master.Sending
import HarnessLink.Proofs.Master.Queueing
import HarnessLink.Proofs.Master.Serving
import HarnessLink.Proofs.Packet.RoundTrip
import Mathlib.Data.List.Nodup

/-!
# Replies to the backend's frames

A frame with a request is answered by a frame with the reply of the same id. The entries of a
reply are among those of the request, of which one byte counts how many there are, and so the
reply fits its own count. Only the device list takes its entries from the master. A master may
register 256 devices, one more than a byte counts, and then the list is not sent.
-/
namespace HarnessLink

/-! ## Counted lists -/

namespace Layout

variable {α : Type}

theorem length_readMany {entry : Layout α} {n : Nat} {bytes rest : Bytes} {values : List α}
    (h : entry.readMany n bytes = .ok (values, rest)) : values.length = n := by
  induction n generalizing bytes values rest with
  | zero =>
    obtain ⟨rfl, -⟩ := Prod.mk.inj (Except.ok.inj h)
    rfl
  | succ n ih =>
    obtain ⟨⟨a, bytes'⟩, -, h⟩ := ok_of_bind h
    obtain ⟨⟨as, left⟩, hrest, h⟩ := ok_of_bind h
    obtain ⟨rfl, -⟩ := Prod.mk.inj (Except.ok.inj h)
    rw [List.length_cons, ih hrest]

/-- One byte counts the values. -/
theorem length_readBody_counted {entry : Layout α} {what name : String} {body : Bytes}
    {values : List α} (h : (counted what entry).readBody name body = .ok values) :
    values.length ≤ 255 := by
  rw [readBody] at h
  split at h
  · next a rest heq =>
    obtain rfl := Except.ok.inj h
    obtain ⟨⟨count, bytes⟩, -, hvalues⟩ := ok_of_bind heq
    rw [length_readMany hvalues]
    exact Nat.le_of_lt_succ count.toNat_lt
  · cases h

end Layout

/-- The list of a request that was read has as many entries as a byte counts. -/
theorem BackendToMaster.entryCount_of_read {id : UInt8} {body : Bytes} {request : BackendToMaster}
    (h : read id body = .ok request) : request.entryCount ≤ 255 := by
  unfold read at h
  repeat' split at h
  all_goals
    first
      | cases h
      | obtain ⟨values, hvalues, rfl⟩ := ok_of_map h
        first
          | exact Layout.length_readBody_counted hvalues
          | exact Nat.zero_le _

/-- So has a request in a frame. -/
theorem Envelope.entryCount_of_parse {own : Option DeviceId} {frame : Bytes} {address : Address}
    {request : BackendToMaster}
    (h : parse own frame = .ok ⟨address, .backendToMaster request⟩) :
    request.entryCount ≤ 255 := by
  obtain ⟨header, direction, p, message, -, -, -, -, -, hmessage, hsame⟩ := parse_eq_ok_iff.mp h
  obtain rfl : message = .backendToMaster request := congrArg Envelope.message hsame
  unfold Message.read at hmessage
  split at hmessage <;> obtain ⟨m, hm, hsame⟩ := ok_of_map hmessage <;> cases hsame
  exact BackendToMaster.entryCount_of_read hm

/-! ## Replies -/

namespace Backend

variable {σ : Type}

/-- A reply has the id of its request. -/
theorem id_replyTo (request : BackendToMaster) (o? : Option CommandOutcome) :
    (replyTo request o?).id = request.id := by
  cases request with
  | listDevices reserve => rcases o? with _ | _ | _ | _ | _ | _ <;> rfl
  | _ => rfl

theorem length_reported {α : Type} (id : α → DeviceId) (failed? : Option (List DeviceId))
    (entries : List α) : (reported id failed? entries).length ≤ entries.length := by
  unfold reported
  split
  · exact Nat.le_refl _
  · exact Nat.le_refl _
  · exact List.length_filter_le _ _

/-- A reply has at most the entries of its request, or the devices that a query found. -/
theorem entryCount_replyTo (request : BackendToMaster) (o? : Option CommandOutcome) :
    (replyTo request o?).entryCount ≤ request.entryCount ∨
      ∃ reserve unreachable devices, request = .listDevices reserve ∧
        o? = some (.queried unreachable devices) ∧
        replyTo request o? = .deviceList devices := by
  cases request with
  | configure entries => exact Or.inl (length_reported _ _ _)
  | reset entries => exact Or.inl (length_reported _ _ _)
  | selectMode code => exact Or.inl (Nat.le_refl 0)
  | control code => exact Or.inl (Nat.le_refl 0)
  | listDevices reserve =>
    rcases o? with _ | _ | _ | _ | _ | ⟨unreachable, devices⟩
    case some.queried => exact Or.inr ⟨reserve, unreachable, devices, rfl, rfl, rfl⟩
    all_goals exact Or.inl (Nat.le_refl 0)

section Frames

variable (submit : DeviceCommand → σ → Except NodeError CommandOutcome × σ) {frame : Bytes}
  {address : Address} {request : BackendToMaster}
  (h : Envelope.parse none frame = .ok ⟨address, .backendToMaster request⟩) {s : σ}

include h

/-- What becomes of the frame of a request. -/
theorem answerFrame_of_reply
    (hgoesOn : brokenOff submit (commandFor? request) s = false) :
    (answerFrame submit frame s).1 = (((Message.masterToBackend
      (replyTo request (outcome? submit (commandFor? request) s))).frame .none).mapError
        NodeError.packet).map some := by
  have hreply := reply_tells submit request s
  rw [if_neg (by simp [hgoesOn])] at hreply
  rcases hrun : reply submit request s with ⟨reply?, s'⟩
  rw [hrun] at hreply
  obtain rfl : reply? = _ := hreply
  simp only [answerFrame, h, hrun]

theorem answerFrame_of_brokenOff
    (hbroken : brokenOff submit (commandFor? request) s = true) :
    (answerFrame submit frame s).1 = .error .unmeasurable := by
  have hreply := reply_tells submit request s
  rw [if_pos hbroken] at hreply
  rcases hrun : reply submit request s with ⟨reply?, s'⟩
  rw [hrun] at hreply
  obtain rfl : reply? = none := hreply
  simp only [answerFrame, h, hrun]

end Frames

end Backend

namespace MasterToBackend

theorem bodyLength_le (m : MasterToBackend) : m.bodyLength ≤ 2 + 10 * m.entryCount := by
  cases m <;> simp only [bodyLength, entryCount] <;> omega

/-- A reply has a frame if a byte counts its entries. -/
theorem frame_of_entryCount {m : MasterToBackend} (h : m.entryCount ≤ 255) :
    ∃ frame, (Message.masterToBackend m).frame .none = .ok frame ∧
      Envelope.parse none frame = .ok ⟨.none, .masterToBackend m⟩ := by
  have hlength : (Message.masterToBackend m).packetLength ≤ 65535 := by
    have hbody := m.bodyLength_le
    have hpacket : (Message.masterToBackend m).packetLength = 1 + m.bodyLength := rfl
    omega
  have hfits : Address.fits .none (Message.masterToBackend m).direction = true := rfl
  obtain ⟨p, -, -, -, hframe, hparse⟩ :=
    Message.frame_of_fits hfits ⟨h, Nat.zero_le _⟩ hlength
  refine ⟨p.framed, hframe, ?_⟩
  rw [hparse, Envelope.otherDestination?_none]

/-- A longer device list has none. -/
theorem frame_deviceList_long {devices : List DeviceEntry} (h : 255 < devices.length) :
    (Message.masterToBackend (.deviceList devices)).frame .none =
      .error (.tooLong "device list" devices.length 255) := by
  have hwrite : Layout.write MasterToBackend.devices devices = _ := if_neg (Nat.not_le.mpr h)
  have hpack : (Message.masterToBackend (.deviceList devices)).pack .none =
      (Layout.write MasterToBackend.devices devices).map _ := rfl
  rw [Message.frame, Message.writeFrame, hpack, hwrite]
  rfl

end MasterToBackend

/-! ## Device lists -/

namespace Master

variable {σ τ : Type} (w : Wiring σ τ)

/-- Every target of a query has an entry. -/
theorem length_pingEach {epoch : Duration} {registry : List RegisteredDevice} {index : Nat}
    {ids : List DeviceId} {sequence : UInt16} {c : Channel σ} {unreachable : List DeviceId}
    {entries : List DeviceEntry}
    (h : (pingEach w epoch registry index ids sequence c).1 = some (unreachable, entries)) :
    entries.length = ids.length := by
  induction ids generalizing index sequence c unreachable entries with
  | nil =>
    cases h
    rfl
  | cons id rest ih =>
    rw [pingEach] at h
    dsimp only at h
    split at h
    · cases h
    · obtain ⟨⟨later, found⟩, hrest, hsame⟩ := Option.map_eq_some_iff.mp h
      cases hsame
      exact congrArg (· + 1) (ih hrest)

theorem length_of_query_all {m : Master σ τ} {unreachable : List DeviceId}
    {devices : List DeviceEntry}
    (h : (m.handle w (.query .all)).1 = some (.queried unreachable devices)) :
    devices.length = m.registry.length := by
  obtain ⟨⟨unreachable', devices'⟩, hpinged, hsame⟩ := Option.map_eq_some_iff.mp h
  cases hsame
  rw [length_pingEach w hpinged, targets, List.length_map]

end Master

/-- A submission is broken off only where the clock cannot tell how long to wait for room in the
queue. -/
theorem Service.deadline?_of_breaksOff {σ τ : Type} {w : Wiring σ τ} {s : Service σ τ}
    {command : DeviceCommand} (h : NodeError.breaksOff (s.submit w command).1 = true) :
    (s.clock w).deadline? w.config.queueTimeout = none := by
  rw [submit] at h
  rcases hpush : s.queue.push (s.clock w) command w.config.queueTimeout with ⟨e | ticket, queue⟩
  · rw [hpush] at h
    obtain ⟨-, hgone | hfull | hend⟩ := ForwardQueue.push_error hpush
    · cases h
    · cases h
    · exact hend
  · rw [hpush] at h
    cases h.symm.trans (ForwardQueue.settle_returns ..)

/-- Every request in a frame is answered by a frame with the reply of the same id, on every
service that is reached from a new master, whatever the links do and whatever else waits in its
queue, except for the device list of a master with 256 devices. A request is broken off only where
the clock cannot tell how long its command may wait for room in the queue. -/
theorem Backend.answerFrame_replies {σ τ : Type} (w : Wiring σ τ) (c : Channel σ)
    (uplink? : Option (Staged τ)) (epoch : Duration) {s : Service σ τ}
    (hs : s.ReachedFrom w { channel := c, uplink?, epoch }) {frame : Bytes} {address : Address}
    {request : BackendToMaster}
    (hframe : Envelope.parse none frame = .ok ⟨address, .backendToMaster request⟩) :
    let answer := (answerFrame (Service.submit w) frame s).1
    (∃ bytes reply, answer = .ok (some bytes) ∧
      Envelope.parse none bytes = .ok ⟨.none, .masterToBackend reply⟩ ∧ reply.id = request.id) ∨
    (∃ reserve later, request = .listDevices reserve ∧
      (s.master.calls w later).registry.length = 256 ∧
      answer = .error (.packet (.tooLong "device list" 256 255))) ∨
    (s.clock w).deadline? w.config.queueTimeout = none ∧ answer = .error .unmeasurable := by
  intro answer
  cases hbroken : brokenOff (Service.submit w) (commandFor? request) s with
  | true =>
    refine Or.inr (Or.inr ⟨?_, answerFrame_of_brokenOff _ hframe hbroken⟩)
    cases hcommand : commandFor? request with
    | none =>
      rw [hcommand] at hbroken
      cases hbroken
    | some command =>
      rw [hcommand] at hbroken
      exact Service.deadline?_of_breaksOff hbroken
  | false =>
    have hanswer : answer = _ := answerFrame_of_reply (Service.submit w) hframe hbroken
    generalize hknown : outcome? (Service.submit w) (commandFor? request) s = o? at hanswer
    have hreplied : (replyTo request o?).entryCount ≤ 255 →
        ∃ bytes reply, answer = .ok (some bytes) ∧
          Envelope.parse none bytes = .ok ⟨.none, .masterToBackend reply⟩ ∧
          reply.id = request.id := by
      intro hcount
      obtain ⟨bytes, hbytes, hparse⟩ := MasterToBackend.frame_of_entryCount hcount
      refine ⟨bytes, _, ?_, hparse, id_replyTo request o?⟩
      rw [hanswer, hbytes]
      rfl
    obtain hfew | ⟨reserve, unreachable, devices, rfl, rfl, hreply⟩ :=
      entryCount_replyTo request o?
    · exact Or.inl (hreplied (Nat.le_trans hfew (Envelope.entryCount_of_parse hframe)))
    · obtain ⟨calls, hmaster⟩ := hs.master
      have hquery : (s.submit w (.query .all)).1 = .ok (.queried unreachable devices) := by
        cases hresult : (s.submit w (.query .all)).1 <;>
          rw [outcome?, commandFor?, Option.bind_some, hresult] at hknown <;> cases hknown
        rfl
      obtain ⟨later, hlater⟩ := Service.submit_outcome hs.issued hquery
      have hlength := Master.length_of_query_all w hlater
      have hsize : (s.master.calls w later).registry.length ≤ 256 := by
        rw [hmaster, ← Master.calls_append]
        exact ((Master.consistent_new c uplink? epoch).calls _).size
      by_cases hcount : devices.length ≤ 255
      · refine Or.inl (hreplied ?_)
        rw [hreply]
        exact hcount
      · have hall : devices.length = 256 := by omega
        refine Or.inr (Or.inl ⟨reserve, later, rfl, hlength ▸ hall, ?_⟩)
        rw [hanswer, hreply, MasterToBackend.frame_deviceList_long (by omega), hall]
        rfl

/-- A request for the device list, as a frame. -/
def Backend.listFrame : Bytes := [0xAB, 0xCD, 2, 0, 0, 2, 0, 4, 0]

theorem Backend.parse_listFrame :
    Envelope.parse none listFrame = .ok ⟨.none, .backendToMaster (.listDevices 0)⟩ := rfl

/-- The device list of a master to which a batch with one device was submitted before. -/
theorem Backend.answerFrame_replies_list :
    let w : Wiring Medium Medium := { slaves := Medium.link, uplink := Medium.link }
    let start : Master Medium Medium := { channel := { link := Master.mediumOver [⟨1⟩] } }
    let commands := [(Duration.ofSeconds 1, DeviceCommand.configure [⟨⟨1⟩, 2, 0, none⟩])]
    let s : Service Medium Medium := commands.foldl
      (fun s c => ((s.rested w c.1).submit w c.2).2) { queue := .create 10, master := start }
    let answer := (answerFrame (Service.submit w) listFrame s).1
    s.ReachedFrom w start ∧
      Envelope.parse none listFrame = .ok ⟨.none, .backendToMaster (.listDevices 0)⟩ ∧
      ((∃ bytes reply, answer = .ok (some bytes) ∧
        Envelope.parse none bytes = .ok ⟨.none, .masterToBackend reply⟩ ∧ reply.id = 4) ∨
      (∃ reserve later, BackendToMaster.listDevices 0 = .listDevices reserve ∧
        (s.master.calls w later).registry.length = 256 ∧
        answer = .error (.packet (.tooLong "device list" 256 255))) ∨
      (s.clock w).deadline? w.config.queueTimeout = none ∧ answer = .error .unmeasurable) := by
  intro w start commands s answer
  have hnew : ({ queue := .create 10, master := start } : Service Medium Medium).ReachedFrom w
      start := ⟨ForwardQueue.issued_create 10, [], rfl⟩
  have hs : s.ReachedFrom w start := hnew.submits commands
  exact ⟨hs, parse_listFrame, answerFrame_replies w _ none .zero hs parse_listFrame⟩

/-! ## A list that is too long -/

/-- A service with nothing else to do does not answer a list of more devices than a byte
counts. -/
theorem Backend.answerFrame_large {σ τ : Type} {w : Wiring σ τ} {s : Service σ τ}
    (hidle : s.queue.items = []) (halive : s.queue.consumerAlive = true)
    (hended : s.ended? = none)
    (hmeasures : w.slaves.Measures w.channel.responseTimeout s.master.channel.link)
    (hroom : ((s.clock w).deadline? w.config.queueTimeout).isSome = true)
    (hwait : ((s.clock w).deadline? (s.nextWait w)).isSome = true)
    (hsize : 255 < s.master.registry.length) :
    (answerFrame (Service.submit w) listFrame s).1 =
      .error (.packet (.tooLong "device list" s.master.registry.length 255)) := by
  obtain ⟨⟨unreachable, devices⟩, hpinged⟩ := Option.isSome_iff_exists.mp
    (Master.pingEach_measured hmeasures s.master.epoch s.master.registry 0
      (s.master.targets .all) s.master.pingSequence)
  have houtcome : (s.master.handle w (.query .all)).1 = some (.queried unreachable devices) :=
    congrArg (Option.map fun reports : List DeviceId × List DeviceEntry =>
      CommandOutcome.queried reports.1 reports.2) hpinged
  have hquery := Service.submit_idle hidle halive hended houtcome hroom hwait
  have hgoesOn : brokenOff (Service.submit w) (commandFor? (.listDevices 0)) s = false :=
    congrArg NodeError.breaksOff hquery
  have hknown : outcome? (Service.submit w) (commandFor? (.listDevices 0)) s =
      some (.queried unreachable devices) := congrArg Except.toOption hquery
  have hlength := Master.length_of_query_all w houtcome
  rw [answerFrame_of_reply _ parse_listFrame hgoesOn, hknown, replyTo,
    MasterToBackend.frame_deviceList_long (hlength ▸ hsize), hlength]
  rfl

/-- So many devices with the ids from zero on. -/
def firstIds (count : Nat) : List DeviceId :=
  (List.range count).map fun i => ⟨UInt32.ofNat i⟩

theorem nodup_firstIds : (firstIds 256).Nodup := by
  apply List.Nodup.map_on _ List.nodup_range
  intro i hi j hj hsame
  have hsmall : ∀ k ∈ List.range 256, (UInt32.ofNat k).toNat = k := by
    intro k hk
    exact UInt32.toNat_ofNat_of_lt' (Nat.lt_trans (List.mem_range.mp hk) (by decide))
  rw [← hsmall i hi, ← hsmall j hj, DeviceId.mk.inj hsame]

/-- A batch with one pin for each slave of a bus registers all of them. -/
theorem Master.configure_everyone {w : Wiring Medium Medium} (hw : w.Prompt Medium.Plain)
    {ids : List DeviceId} (hids : ids.Nodup) (hsize : ids.length ≤ 256) :
    let start : Master Medium Medium := { channel := { link := mediumOver ids } }
    let m := start.calls w [.handle (.configure (ids.map fun id => ⟨id, 1, 0, none⟩))]
    m.registry.length = ids.length ∧ m.nextCycle? = none ∧
      ∃ b, m.channel.AtRest Medium.Plain b := by
  intro start m
  have hbus : (mediumOver ids).bus.ids = ids := by simp [mediumOver, SlaveBus.ids, Function.comp_def]
  have hlength : (ids.map fun id => (⟨id, 1, 0, none⟩ : DeviceSetup)).length ≤ 256 := by
    rwa [List.length_map]
  have hall : ∀ d ∈ ids.map fun id => (⟨id, 1, 0, none⟩ : DeviceSetup),
      d.Configurable (mediumOver ids).bus (SlotPlan.total
        ((ids.map fun id => (⟨id, 1, 0, none⟩ : DeviceSetup)).map DeviceSetup.conduction)) := by
    intro d hd
    obtain ⟨id, hid, rfl⟩ := List.mem_map.mp hd
    generalize SlotPlan.total _ = total
    have htotal := total.toNat_lt
    have hfits : 1 * ((total.toNat + 7) / 8) ≤ maxReportLength := by
      simp only [maxReportLength]
      omega
    exact ⟨by rwa [hbus], hfits, Nat.zero_le _⟩
  obtain ⟨c', b', hconfigure, hrest⟩ :=
    configure_all hw start rfl (atRest_mediumOver ids) (by rwa [hbus]) hlength hall
  have hm : m = _ := congrArg Prod.snd hconfigure
  rw [hm]
  exact ⟨by rw [List.length_map, List.length_zipIdx, List.length_map], rfl, b', hrest⟩

/-- A medium at rest does not hold up a service. -/
theorem Backend.answerFrame_large_medium {w : Wiring Medium Medium}
    (hw : w.Prompt Medium.Plain) (hslaves : w.slaves = Medium.link)
    (hroom : (Duration.zero.deadline? w.config.queueTimeout).isSome = true)
    {m : Master Medium Medium} {b : SlaveBus} (hrest : m.channel.AtRest Medium.Plain b)
    (hidle : m.nextCycle? = none) (hsize : 255 < m.registry.length) (capacity : Nat) :
    (answerFrame (Service.submit w) listFrame { queue := .create capacity, master := m }).1 =
      .error (.packet (.tooLong "device list" m.registry.length 255)) := by
  have htells (span : Duration) : (m.clock w).deadline? span = Duration.zero.deadline? span := by
    rw [Master.clock, hslaves]
    exact Medium.deadline?_plain hrest.link span
  have hwait : Service.nextWait w { queue := .create capacity, master := m } =
      Service.idlePoll := by
    rw [Service.nextWait, hidle]
  refine answerFrame_large rfl rfl rfl (hw.measures hrest) ?_ ?_ hsize
  · show ((m.clock w).deadline? w.config.queueTimeout).isSome = true
    rwa [htells]
  · show ((m.clock w).deadline? _).isSome = true
    rw [htells, hwait]
    decide

/-- After a batch of 256 devices that are all on the bus the device list is not answered. -/
theorem Backend.answerFrame_full_master :
    let w : Wiring Medium Medium := { slaves := Medium.link, uplink := Medium.link }
    let start : Master Medium Medium := { channel := { link := Master.mediumOver (firstIds 256) } }
    let devices : List DeviceSetup := (firstIds 256).map fun id => ⟨id, 1, 0, none⟩
    let s : Service Medium Medium :=
      { queue := .create 10, master := start.calls w [.handle (.configure devices)] }
    Envelope.parse none listFrame = .ok ⟨.none, .backendToMaster (.listDevices 0)⟩ ∧
      (answerFrame (Service.submit w) listFrame s).1 =
        .error (.packet (.tooLong "device list" 256 255)) := by
  intro w start devices s
  have hw : w.Prompt Medium.Plain := Master.prompt_plain rfl (by decide) (by decide)
  have hlength : (firstIds 256).length = 256 := by
    rw [firstIds, List.length_map, List.length_range]
  obtain ⟨hregistry, hidle, b, hrest⟩ :=
    Master.configure_everyone hw nodup_firstIds (Nat.le_of_eq hlength)
  rw [hlength] at hregistry
  have hanswer := answerFrame_large_medium hw rfl (by decide) hrest hidle
    (by rw [hregistry]; decide) 10
  rw [hregistry] at hanswer
  exact ⟨parse_listFrame, hanswer⟩

end HarnessLink
