import HarnessLink.Proofs.Master.Attempts

/-!
# The orders in the history of a link

A channel over a recorded link leaves behind what it did. Each transmission is read as a
device would read it: it is an order to one device, or to everyone. While an order is sent,
however often it is repeated and whatever the link brings, only this order goes out. A sync
that succeeds is the last that happened.
-/
namespace HarnessLink

namespace MasterToSlave

/-- The order asks for results. -/
def isRead : MasterToSlave → Bool
  | readConduction _ | readResistance _ | readClip _ => true
  | _ => false

def isSync : MasterToSlave → Bool
  | sync _ => true
  | _ => false

end MasterToSlave

/-- The order in link bytes and the device that it is for, as anyone with the usual framer
reads it. -/
def orderIn? (bytes : Bytes) : Option (DeviceId × MasterToSlave) :=
  match (Framer.feed {} bytes).1 with
  | [f] =>
    match Envelope.parse? none f.payload with
    | some ⟨.device id, .masterToSlave order⟩ => some (id, order)
    | _ => none
  | _ => none

namespace LinkEvent

/-- The order that was handed to the link. -/
def order? (event : LinkEvent) : Option (DeviceId × MasterToSlave) :=
  event.sent?.bind orderIn?

/-- If anything was handed to the link, it was this order to this device. -/
def Carries (id : DeviceId) (order : MasterToSlave) (event : LinkEvent) : Prop :=
  ∀ bytes, event.sent? = some bytes → orderIn? bytes = some (id, order)

/-- Results were asked for. -/
def IsRead (event : LinkEvent) : Prop :=
  ∃ id order, event.order? = some (id, order) ∧ order.isRead = true

/-- A sync that the link took. -/
def IsAnnouncement (event : LinkEvent) : Prop :=
  (∃ bytes, event = transmitted bytes (.ok ())) ∧
    ∃ id order, event.order? = some (id, order) ∧ order.isSync = true

/-- Neither. -/
structure Quiet (event : LinkEvent) : Prop where
  read : ¬ event.IsRead
  announcement : ¬ event.IsAnnouncement

theorem Carries.of_order? {id : DeviceId} {order : MasterToSlave} {event : LinkEvent}
    (h : event.Carries id order) {found : DeviceId × MasterToSlave}
    (hfound : event.order? = some found) : found = (id, order) := by
  obtain ⟨bytes, hsent, horder⟩ := Option.bind_eq_some_iff.mp hfound
  exact Option.some.inj (horder.symm.trans (h bytes hsent))

theorem Carries.not_isRead {id : DeviceId} {order : MasterToSlave} {event : LinkEvent}
    (h : event.Carries id order) (horder : order.isRead = false) : ¬ event.IsRead := by
  rintro ⟨id', order', hfound, hread⟩
  obtain ⟨-, rfl⟩ := Prod.mk.inj (h.of_order? hfound)
  rw [horder] at hread
  cases hread

theorem Carries.not_isAnnouncement {id : DeviceId} {order : MasterToSlave} {event : LinkEvent}
    (h : event.Carries id order) (horder : order.isSync = false) : ¬ event.IsAnnouncement := by
  rintro ⟨-, id', order', hfound, hsync⟩
  obtain ⟨-, rfl⟩ := Prod.mk.inj (h.of_order? hfound)
  rw [horder] at hsync
  cases hsync

end LinkEvent

/-- The frame of an order is read as the order to the device. -/
theorem Message.parse?_order_frame {order : MasterToSlave} {id : DeviceId} {frame : Bytes}
    (h : (masterToSlave order).frame (.device id) = .ok frame) :
    Envelope.parse? none frame = some ⟨.device id, masterToSlave order⟩ := by
  have hfits : Address.fits (.device id) (masterToSlave order).direction = true := rfl
  obtain ⟨p, -, -, -, hframe, hparse⟩ := frame_of_fits hfits ⟨Nat.zero_le _, Nat.zero_le _⟩
    (Nat.le_trans (packetLength_order_le order) (by decide))
  obtain rfl := Except.ok.inj (hframe.symm.trans h)
  rw [Envelope.parse?, hparse, Envelope.otherDestination?_none]
  rfl

namespace Channel

variable {σ : Type}

/-- An order has link bytes, which are read as the order to the device. -/
theorem wire_reads (config : ChannelConfig) {c : Channel σ} (hconfig : c.framer.config = {})
    (order : MasterToSlave) (id : DeviceId) :
    ∃ bytes, c.wire config (.masterToSlave order) (.device id) = .ok bytes ∧
      orderIn? bytes = some (id, order) := by
  obtain ⟨frame, hpack, hframe⟩ := Message.order_frame order id
  refine ⟨_, wire_order hconfig hpack hframe, ?_⟩
  have hfeed : Framer.feed {}
      ((Frame.mk config.slot (frameKind (.masterToSlave order)) frame).wire {}) =
        ([⟨config.slot, frameKind (.masterToSlave order), frame⟩], {}) :=
    Framer.feed_default (Nat.le_trans hframe.short (by decide))
  simp only [orderIn?, hfeed, Message.parse?_order_frame hpack]

/-! ## What sending does -/

theorem config_attempt (behavior : Link σ) (config : ChannelConfig) (bytes : Bytes)
    (expected : Expectation) (left : Nat) (c : Channel σ) :
    (c.attempt behavior config bytes expected left).2.framer.config = c.framer.config := by
  obtain ⟨events, -, heffort⟩ := attempt_recorded behavior config bytes expected left c []
  rw [← heffort.heard.framer_eq, Framer.config_runEach_feed]

theorem config_transmitOnce (behavior : Link σ) (bytes : Bytes) (c : Channel σ) :
    (c.transmitOnce behavior bytes).2.framer.config = c.framer.config := by
  rw [transmitOnce]
  split <;> rfl

/-- Sending keeps the configuration of the framer, whatever the link does. -/
theorem config_send (behavior : Link σ) (config : ChannelConfig) (message : Message)
    (address : Address) (expected? : Option Expectation) (c : Channel σ) :
    (c.send behavior config message address expected?).2.framer.config = c.framer.config := by
  have hdiscard : (c.discardStale behavior).2.framer.config = c.framer.config := by
    obtain ⟨e, link, h⟩ | ⟨link, h⟩ := discardStale_cases behavior c <;> rw [h]
    rfl
  rw [send]
  split
  · rfl
  · split
    · next heq => rwa [heq] at hdiscard
    · next heq =>
      rw [heq] at hdiscard
      cases expected? with
      | none => exact (config_transmitOnce behavior _ _).trans hdiscard
      | some expected => exact (config_attempt behavior config _ expected _ _).trans hdiscard

/-- Over a recorded link a message is sent as over the link, and whatever goes out are its
link bytes. -/
theorem send_history (behavior : Link σ) (config : ChannelConfig) (message : Message)
    (address : Address) (expected? : Option Expectation) (c : Channel σ) (past : List LinkEvent) :
    ∃ events,
      (c.recorded past).send behavior.recorded config message address expected? =
        ((c.send behavior config message address expected?).1,
          (c.send behavior config message address expected?).2.recorded (past ++ events)) ∧
      ∀ bytes ∈ LinkEvent.sent events, c.wire config message address = .ok bytes := by
  by_cases h : c.Withholds behavior config message address
  · obtain ⟨e, c', events, hsend, hrecorded, -, hsent, -⟩ := send_withheld h expected? past
    exact ⟨events, by rw [hrecorded, hsend], by simp [hsent]⟩
  · cases expected? with
    | none =>
      obtain ⟨bytes, stale, result, hwire, hrecorded, hsent, -⟩ := send_once h past
      exact ⟨_, hrecorded, by simp [hsent, hwire]⟩
    | some expected =>
      obtain ⟨bytes, stale, events, hwire, hrecorded, hsent, -, heffort⟩ :=
        send_expecting h expected past
      obtain ⟨count, hcount, -⟩ := heffort.sent
      exact ⟨_, hrecorded, by simp [hsent, hcount, hwire]⟩

/-! ## Channels over a recorded link -/

/-- From one state of a channel over a recorded link to a later one, only events with `p`
happened on the link. -/
structure Does (p : LinkEvent → Prop) (c c' : Channel (Recorded σ)) : Prop where
  config : c'.framer.config = c.framer.config
  history : ∃ events, c'.link.events = c.link.events ++ events ∧ ∀ event ∈ events, p event

theorem Does.refl (p : LinkEvent → Prop) (c : Channel (Recorded σ)) : c.Does p c :=
  ⟨rfl, [], by simp, by simp⟩

theorem Does.trans {p : LinkEvent → Prop} {c c' c'' : Channel (Recorded σ)} (h : c.Does p c')
    (h' : c'.Does p c'') : c.Does p c'' := by
  obtain ⟨events, hevents, hp⟩ := h.history
  obtain ⟨more, hmore, hp'⟩ := h'.history
  refine ⟨h'.config.trans h.config, events ++ more, ?_, ?_⟩
  · rw [hmore, hevents, List.append_assoc]
  · exact List.forall_mem_append.mpr ⟨hp, hp'⟩

theorem Does.mono {p q : LinkEvent → Prop} {c c' : Channel (Recorded σ)} (h : c.Does p c')
    (hpq : ∀ event, p event → q event) : c.Does q c' := by
  obtain ⟨events, hevents, hp⟩ := h.history
  exact ⟨h.config, events, hevents, fun event hevent => hpq event (hp event hevent)⟩

theorem Does.forall {p : LinkEvent → Prop} {c c' : Channel (Recorded σ)} (h : c.Does p c')
    {events : List LinkEvent} (hevents : c'.link.events = c.link.events ++ events) :
    ∀ event ∈ events, p event := by
  obtain ⟨events', hevents', hp⟩ := h.history
  obtain rfl := List.append_cancel_left (hevents.symm.trans hevents')
  exact hp

/-- The channel without the record. -/
def plain (c : Channel (Recorded σ)) : Channel σ :=
  { link := c.link.link, framer := c.framer, phase := c.phase }

theorem recorded_plain (c : Channel (Recorded σ)) : c.plain.recorded c.link.events = c := rfl

/-- While an order is sent, only this order goes out. -/
theorem does_send (behavior : Link σ) (config : ChannelConfig) {c : Channel (Recorded σ)}
    (hconfig : c.framer.config = {}) (order : MasterToSlave) (id : DeviceId)
    (expected? : Option Expectation) :
    c.Does (LinkEvent.Carries id order)
      (c.send behavior.recorded config (.masterToSlave order) (.device id) expected?).2 := by
  obtain ⟨events, hsend, hsent⟩ := send_history behavior config (.masterToSlave order)
    (.device id) expected? c.plain c.link.events
  rw [recorded_plain] at hsend
  refine ⟨config_send .., events, by rw [hsend]; rfl, ?_⟩
  intro event hevent bytes hbytes
  obtain ⟨wire, hwire, hreads⟩ := wire_reads config (c := c.plain) hconfig order id
  have hsame := hsent bytes (List.mem_filterMap.mpr ⟨event, hevent, hbytes⟩)
  rwa [Except.ok.inj (hsame.symm.trans hwire)]

theorem does_request (behavior : Link σ) (config : ChannelConfig) {c : Channel (Recorded σ)}
    (hconfig : c.framer.config = {}) (order : MasterToSlave) (id : DeviceId)
    (expected : Expectation) :
    c.Does (LinkEvent.Carries id order)
      (c.request behavior.recorded config (.masterToSlave order) (.device id) expected).2 := by
  have hsend := does_send behavior config hconfig order id (some expected)
  rw [request]
  split
  all_goals
    next heq => rwa [heq] at hsend

theorem does_broadcast (behavior : Link σ) (config : ChannelConfig) {c : Channel (Recorded σ)}
    (hconfig : c.framer.config = {}) (order : MasterToSlave) (id : DeviceId) :
    c.Does (LinkEvent.Carries id order)
      (c.broadcast behavior.recorded config (.masterToSlave order) (.device id)).2 := by
  have hsend := does_send behavior config hconfig order id none
  rw [broadcast]
  split
  all_goals
    next heq => rwa [heq] at hsend

/-- Handing bytes out once succeeds exactly if the link takes them. -/
theorem transmitOnce_history (behavior : Link σ) (bytes : Bytes) (c : Channel σ)
    (past : List LinkEvent) :
    ∃ (c' : Channel σ) (result : Except LinkError Unit),
      (c.recorded past).transmitOnce behavior.recorded bytes =
        ((result.mapError NodeError.link).map fun _ => none,
          c'.recorded (past ++ [.transmitted bytes result])) := by
  rcases htransmit : behavior.transmit bytes (c.enter behavior .sending).link with ⟨result, link⟩
  have hrecorded : behavior.recorded.transmit bytes
      ((c.recorded past).enter behavior.recorded .sending).link = _ :=
    Link.recorded_transmit htransmit past
  refine ⟨({ c.enter behavior .sending with link } : Channel σ).enter behavior .idle, result, ?_⟩
  cases result <;> simp only [transmitOnce, hrecorded] <;> rfl

/-- If an order that nobody answers is sent, the last that happened is that the link took it.
If it fails, the link took nothing. -/
theorem broadcast_history (behavior : Link σ) (config : ChannelConfig) {c : Channel (Recorded σ)}
    (hconfig : c.framer.config = {}) (order : MasterToSlave) (id : DeviceId) :
    ∃ result c' events,
      c.broadcast behavior.recorded config (.masterToSlave order) (.device id) = (result, c') ∧
      c'.link.events = c.link.events ++ events ∧
      match result with
      | .ok () => ∃ stale bytes, events = stale ++ [.transmitted bytes (.ok ())] ∧
          orderIn? bytes = some (id, order)
      | .error _ => ∀ event ∈ events, ∀ bytes, event ≠ .transmitted bytes (.ok ()) := by
  obtain ⟨wire, hwire, hreads⟩ := wire_reads config (c := c.plain) hconfig order id
  have hquiet : ∀ events, LinkEvent.sent events = [] →
      ∀ event ∈ events, ∀ bytes, event ≠ .transmitted bytes (.ok ()) := by
    rintro events hsent event hevent bytes rfl
    cases LinkEvent.isNone_of_sent_eq_nil hsent _ hevent
  by_cases h : c.plain.Withholds behavior config (.masterToSlave order) (.device id)
  · obtain ⟨e, c', events, -, hrecorded, -, hsent, -⟩ := send_withheld h none c.link.events
    rw [recorded_plain] at hrecorded
    exact ⟨.error e, c'.recorded (c.link.events ++ events), events, by rw [broadcast, hrecorded],
      rfl, hquiet events hsent⟩
  · obtain ⟨bytes, c₁, stale, hbytes, -, -, hrecorded, hsent, -⟩ :=
      send_delivered h none c.link.events
    obtain rfl := Except.ok.inj (hwire.symm.trans hbytes)
    obtain ⟨c', result, htransmit⟩ :=
      transmitOnce_history behavior wire c₁ (c.link.events ++ stale)
    rw [recorded_plain, deliver, htransmit, List.append_assoc] at hrecorded
    cases result with
    | ok =>
      refine ⟨.ok (), c'.recorded (c.link.events ++ (stale ++ [.transmitted wire (.ok ())])),
        stale ++ [.transmitted wire (.ok ())], ?_, rfl, stale, wire, rfl, hreads⟩
      rw [broadcast, hrecorded]
      rfl
    | error e =>
      refine ⟨.error (.link e),
        c'.recorded (c.link.events ++ (stale ++ [.transmitted wire (.error e)])),
        stale ++ [.transmitted wire (.error e)], ?_, rfl, ?_⟩
      · rw [broadcast, hrecorded]
        rfl
      · exact List.forall_mem_append.mpr ⟨hquiet stale hsent, by simp⟩

end Channel

end HarnessLink
