import HarnessLink.Proofs.Master.Exchanges
import HarnessLink.Proofs.Master.Recording
import HarnessLink.Proofs.Master.Sending
import Mathlib.Data.List.Forall2
import Mathlib.Data.List.Induction

/-!
# Collections of results

The history of the slaves' link tells when results are read. Only the step of a cycle that is
due reads them, and only while a sync is outstanding. Whatever was called before, this sync
went out to everyone for the mode that is read, and since then the link took no other sync and
no results were read. A collection then sends one request to each registered device, in their
order, before the next sync.
-/
namespace HarnessLink

namespace Master

variable {σ τ : Type}

/-! ## Orders outside of cycles -/

section Orders

variable {c : Channel (Recorded σ)} {w : Wiring σ τ}

/-- An order outside of cycles that has to be accepted. -/
theorem does_acknowledged (hconfig : c.framer.config = {}) (id : DeviceId) {order : Order}
    (hread : order.message.isRead = false) (hsync : order.message.isSync = false) :
    c.Does LinkEvent.Quiet (acknowledged w.recorded id order c).2 := by
  have hrequest := (Channel.does_request w.slaves w.channel hconfig order.message id
    ⟨⟨.slaveToMaster, order.replyId⟩, some id⟩).mono
      fun event h => LinkEvent.Quiet.mk (h.not_isRead hread) (h.not_isAnnouncement hsync)
  rw [acknowledged]
  split
  · next heq => exact congrArg Prod.snd heq ▸ hrequest
  · next heq =>
    split <;> exact congrArg Prod.snd heq ▸ hrequest

theorem does_acknowledgedAll (hconfig : c.framer.config = {}) (id : DeviceId)
    {orders : List Order}
    (h : ∀ order ∈ orders, order.message.isRead = false ∧ order.message.isSync = false) :
    c.Does LinkEvent.Quiet (acknowledgedAll w.recorded id orders c).2 := by
  induction orders generalizing c with
  | nil => exact .refl _ c
  | cons order rest ih =>
    obtain ⟨horder, hrest⟩ := List.forall_mem_cons.mp h
    have hfirst := does_acknowledged (w := w) hconfig id horder.1 horder.2
    rw [acknowledgedAll]
    split
    · next heq => exact congrArg Prod.snd heq ▸ hfirst
    · next heq =>
      rw [heq] at hfirst
      exact hfirst.trans (ih (hfirst.config.trans hconfig) hrest)

theorem orders_outside (config : MasterConfig) (d : PlannedDevice) :
    ∀ order ∈ d.orders config, order.message.isRead = false ∧ order.message.isSync = false := by
  intro order horder
  simp only [PlannedDevice.orders, List.mem_cons, List.mem_append, Option.mem_toList,
    Option.map_eq_some_iff] at horder
  obtain rfl | horder | ⟨c, -, rfl⟩ := horder
  · exact ⟨rfl, rfl⟩
  · split at horder
    · obtain rfl := List.mem_singleton.mp horder
      exact ⟨rfl, rfl⟩
    · cases horder
  · exact ⟨rfl, rfl⟩

theorem does_configureEach (hconfig : c.framer.config = {}) (batch : List PlannedDevice) :
    c.Does LinkEvent.Quiet (configureEach w.recorded batch c).2 := by
  induction batch generalizing c with
  | nil => exact .refl _ c
  | cons d rest ih =>
    have hfirst := does_acknowledgedAll (w := w) hconfig d.setup.id (orders_outside w.config d)
    rw [configureEach]
    dsimp only
    split
    · exact hfirst
    · exact hfirst.trans (ih (hfirst.config.trans hconfig))

theorem does_resetEach (hconfig : c.framer.config = {}) (devices : List DeviceReset) :
    c.Does LinkEvent.Quiet (resetEach w.recorded devices c).2 := by
  induction devices generalizing c with
  | nil => exact .refl _ c
  | cons d rest ih =>
    have hfirst : c.Does LinkEvent.Quiet
        (acknowledged w.recorded d.id ⟨.reset ⟨d.lock, d.clipLed⟩, 0x30⟩ c).2 :=
      does_acknowledged hconfig d.id rfl rfl
    rw [resetEach]
    dsimp only
    split
    · exact hfirst
    · exact hfirst.trans (ih (hfirst.config.trans hconfig))

theorem does_pingEach (epoch : Duration) (registry : List RegisteredDevice)
    (hconfig : c.framer.config = {}) (index : Nat) (ids : List DeviceId) (sequence : UInt16) :
    c.Does LinkEvent.Quiet (pingEach w.recorded epoch registry index ids sequence c).2.2 := by
  induction ids generalizing c index sequence with
  | nil => exact .refl _ c
  | cons id rest ih =>
    have hfirst := (Channel.does_request w.slaves w.channel hconfig
      (.ping ⟨sequence + 1, timestamp w.recorded epoch c⟩) id
      ⟨⟨.slaveToMaster, 0x40⟩, some id⟩).mono
        fun event h => LinkEvent.Quiet.mk (h.not_isRead rfl) (h.not_isAnnouncement rfl)
    rw [pingEach]
    dsimp only
    split
    · exact hfirst
    · exact hfirst.trans (ih (hfirst.config.trans hconfig) (index + 1) (sequence + 1))

end Orders

/-! ## Syncs -/

/-- Events that end with a sync to everyone for a mode, which the link took. -/
def EndsWithSync (mode : TestMode) (events : List LinkEvent) : Prop :=
  ∃ before bytes time, events = before ++ [.transmitted bytes (.ok ())] ∧
    orderIn? bytes = some (.broadcast, .sync ⟨mode.code, time⟩)

/-- If a sync succeeds, it ends with the link taking it. If it fails, no sync went out. -/
theorem history_broadcastSync (w : Wiring σ τ) {m : Master (Recorded σ) τ}
    (hconfig : m.channel.framer.config = {}) :
    ∃ events,
      (m.broadcastSync w.recorded).2.history = m.history ++ events ∧
      (m.broadcastSync w.recorded).2.channel.framer.config = {} ∧
      (∀ event ∈ events, ¬ event.IsRead) ∧
      ((m.broadcastSync w.recorded).1 = .ok () → EndsWithSync m.mode events) ∧
      ∀ e, (m.broadcastSync w.recorded).1 = .error e → ∀ event ∈ events, event.Quiet := by
  obtain ⟨result, c', events, hbroadcast, hevents, hresult⟩ := Channel.broadcast_history w.slaves
    w.channel hconfig (.sync ⟨m.mode.code, timestamp w.recorded m.epoch m.channel⟩) .broadcast
  have hsync : m.broadcastSync w.recorded = (result, { m with channel := c' }) := by
    rw [broadcastSync]
    exact congrArg (fun r => (r.1, { m with channel := r.2 })) hbroadcast
  have hdoes := Channel.does_broadcast w.slaves w.channel hconfig
    (.sync ⟨m.mode.code, timestamp w.recorded m.epoch m.channel⟩) .broadcast
  rw [hbroadcast] at hdoes
  have hread : ∀ event ∈ events, ¬ event.IsRead :=
    fun event hevent => (hdoes.forall hevents event hevent).not_isRead rfl
  rw [hsync]
  refine ⟨events, hevents, hdoes.config.trans hconfig, hread, ?_, ?_⟩
  · rintro rfl
    obtain ⟨stale, bytes, rfl, horder⟩ := hresult
    exact ⟨stale, bytes, _, rfl, horder⟩
  · rintro e rfl event hevent
    exact ⟨hread event hevent, fun h => h.1.elim (hresult event hevent)⟩

/-! ## Collections -/

/-- A request for results to each device in turn. -/
def readEach (w : Wiring σ τ) (order : Order) (devices : List RegisteredDevice) (c : Channel σ) :
    Channel σ :=
  devices.foldl (fun c d => (c.request w.slaves w.channel (.masterToSlave order.message)
    (.device d.id) ⟨⟨.slaveToBackend, order.replyId⟩, some d.id⟩).2) c

/-- Collecting sends these requests, to all devices unless it is broken off, and does nothing
else to the slaves. -/
theorem collectEach_channel (w : Wiring σ τ) (order : Order) (devices : List RegisteredDevice)
    (c : Channel σ) (uplink? : Option (Staged τ)) :
    ∃ count, (collectEach w order devices c uplink?).2.1 =
        readEach w order (devices.take count) c ∧
      ((collectEach w order devices c uplink?).1.isSome = true → count = devices.length) := by
  induction devices generalizing c uplink? with
  | nil => exact ⟨0, rfl, fun _ => rfl⟩
  | cons d rest ih =>
    rcases hrequest : c.request w.slaves w.channel (.masterToSlave order.message) (.device d.id)
      ⟨⟨.slaveToBackend, order.replyId⟩, some d.id⟩ with ⟨result, c'⟩
    have hread : ∀ count, readEach w order ((d :: rest).take (count + 1)) c =
        readEach w order (rest.take count) c' := by
      intro count
      rw [List.take_succ_cons, readEach, List.foldl_cons, hrequest]
      rfl
    have hbroken : ∃ count, c' = readEach w order ((d :: rest).take count) c ∧
        ((none : Option Nat).isSome = true → count = (d :: rest).length) := by
      refine ⟨1, ?_, fun h => by cases h⟩
      rw [hread 0]
      rfl
    have hlater : ∀ uplink'? : Option (Staged τ), ∃ count,
        (collectEach w order rest c' uplink'?).2.1 = readEach w order ((d :: rest).take count) c ∧
        ((collectEach w order rest c' uplink'?).1.isSome = true →
          count = (d :: rest).length) := by
      intro uplink'?
      obtain ⟨count, hrest, hall⟩ := ih c' uplink'?
      exact ⟨count + 1, by rw [hread, hrest], fun h => congrArg (· + 1) (hall h)⟩
    simp only [collectEach, hrequest]
    split
    · exact hbroken
    · cases result with
      | error e => exact hlater uplink?
      | ok report =>
        dsimp only
        split
        · exact hbroken
        · rw [Option.isSome_map]
          exact hlater _

theorem readEach_history (w : Wiring σ τ) (order : Order) (devices : List RegisteredDevice)
    {c : Channel (Recorded σ)} (hconfig : c.framer.config = {}) :
    (readEach w.recorded order devices c).framer.config = {} ∧
      ∃ blocks : List (List LinkEvent),
        (readEach w.recorded order devices c).link.events = c.link.events ++ blocks.flatten ∧
        List.Forall₂ (fun d block => Exchange d.id order.message block) devices blocks := by
  induction devices generalizing c with
  | nil => exact ⟨hconfig, [], by simp [readEach], .nil⟩
  | cons d rest ih =>
    obtain ⟨result, c', block, hrequest, hadds, hexchange, -⟩ := Channel.request_history w.slaves
      w.channel hconfig order.message d.id ⟨⟨.slaveToBackend, order.replyId⟩, some d.id⟩
    obtain ⟨hkept, blocks, hblocks, hrest⟩ := ih hadds.config
    have hread : readEach w.recorded order (d :: rest) c = readEach w.recorded order rest c' := by
      rw [readEach, List.foldl_cons, Wiring.recorded_slaves, Wiring.recorded_channel, hrequest]
      rfl
    rw [hread]
    refine ⟨hkept, block :: blocks, ?_, .cons hexchange hrest⟩
    rw [List.flatten_cons, ← List.append_assoc, ← hadds.history]
    exact hblocks

/-- The call reads results: it is the step of a cycle that is due, and a sync is outstanding. -/
def Collects (m : Master σ τ) (call : MasterCall) : Prop :=
  ∃ now, call = .poll now ∧ m.isDue now = true ∧ m.syncOutstanding = true

theorem not_collects_handle (m : Master σ τ) (command : DeviceCommand) :
    ¬ m.Collects (.handle command) := by
  rintro ⟨_, hcall, -⟩
  cases hcall

theorem collect_channel (w : Wiring σ τ) {m : Master σ τ} (h : m.syncOutstanding = true) :
    ∃ count, (m.collect w).2.channel =
        readEach w (readOrder m.mode) (m.registry.take count) m.channel ∧
      ((m.collect w).1.isSome = true → count = m.registry.length) := by
  rw [collect, if_pos h]
  exact collectEach_channel w (readOrder m.mode) m.registry m.channel m.uplink?

theorem collect_nothing (w : Wiring σ τ) {m : Master σ τ} (h : m.syncOutstanding = false) :
    m.collect w = (some 0, m) := by
  simp [collect, h]

/-! ## Every call -/

/-- What a call did to the link to the slaves: it read results only if it collects, and if it
came to its end and a sync is outstanding then, the link took it at the very end, or it was
outstanding before and the call left it so. -/
structure CallHistory (w : Wiring σ τ) (m : Master (Recorded σ) τ) (call : MasterCall)
    (events : List LinkEvent) : Prop where
  history : (m.call w.recorded call).history = m.history ++ events
  config : (m.call w.recorded call).channel.framer.config = {}
  read : ∀ event ∈ events, event.IsRead → m.Collects call
  outstanding : m.returns w.recorded call = true →
    (m.call w.recorded call).syncOutstanding = true →
      EndsWithSync (m.call w.recorded call).mode events ∨
        m.syncOutstanding = true ∧ (m.call w.recorded call).mode = m.mode ∧ ¬ m.Collects call ∧
          ∀ event ∈ events, event.Quiet

section Calls

variable {w : Wiring σ τ} {m : Master (Recorded σ) τ}

/-- A call with nothing of a cycle in it. -/
theorem callHistory_of_quiet {call : MasterCall} (hconfig : m.channel.framer.config = {})
    (hcollects : ¬ m.Collects call)
    (hquiet : m.channel.Does LinkEvent.Quiet (m.call w.recorded call).channel)
    (hmode : (m.call w.recorded call).syncOutstanding = true →
      m.syncOutstanding = true ∧ (m.call w.recorded call).mode = m.mode) :
    ∃ events, CallHistory w m call events := by
  obtain ⟨events, hevents, hall⟩ := hquiet.history
  refine ⟨events, hevents, hquiet.config.trans hconfig, ?_, ?_⟩
  · exact fun event hevent hread => absurd hread (hall event hevent).read
  · intro _ houtstanding
    obtain ⟨hbefore, hsame⟩ := hmode houtstanding
    exact Or.inr ⟨hbefore, hsame, hcollects, hall⟩

theorem callHistory_of_eq {call : MasterCall} (hconfig : m.channel.framer.config = {})
    (hcollects : ¬ m.Collects call) (hcall : m.call w.recorded call = m) :
    ∃ events, CallHistory w m call events := by
  apply callHistory_of_quiet hconfig hcollects <;> rw [hcall]
  · exact .refl _ _
  · exact fun h => ⟨h, rfl⟩

/-- A call that only a stopped master takes leaves nothing outstanding. -/
theorem not_outstanding (hm : m.Consistent) (hstopped : m.running = false) :
    ¬ m.syncOutstanding = true := by
  intro houtstanding
  rw [hm.outstanding houtstanding] at hstopped
  cases hstopped

theorem callHistory_configure (hm : m.Consistent) (hconfig : m.channel.framer.config = {})
    (devices : List DeviceSetup) :
    ∃ events, CallHistory w m (.handle (.configure devices)) events := by
  have hnot := m.not_collects_handle (.configure devices)
  obtain hsame | ⟨hstopped, batch, result, c', -, heach, hconfigured⟩ :=
    configure_cases w.recorded devices m
  · exact callHistory_of_eq hconfig hnot (congrArg Prod.snd hsame)
  · have hdoes : m.channel.Does LinkEvent.Quiet c' := by
      simpa [heach] using does_configureEach (w := w) hconfig batch
    have hnothing : m.syncOutstanding = true → False := not_outstanding hm hstopped
    obtain ⟨-, hconfigured⟩ | ⟨failed, registry, -, hconfigured⟩ := hconfigured
    all_goals
      have hcall : m.call w.recorded (.handle (.configure devices)) = _ :=
        congrArg Prod.snd hconfigured
      apply callHistory_of_quiet hconfig hnot <;> rw [hcall]
      · exact hdoes
      · exact fun h => (hnothing h).elim

theorem callHistory_selectMode (hm : m.Consistent) (hconfig : m.channel.framer.config = {})
    (mode : TestMode) : ∃ events, CallHistory w m (.handle (.selectMode mode)) events := by
  have hnot := m.not_collects_handle (.selectMode mode)
  obtain ⟨-, hsame⟩ | ⟨hstopped, hselected⟩ := selectMode_cases mode m
  · exact callHistory_of_eq hconfig hnot hsame
  · have hcall : m.call w.recorded (.handle (.selectMode mode)) = _ := hselected
    apply callHistory_of_quiet hconfig hnot <;> rw [hcall]
    · exact .refl _ _
    · exact fun h : m.syncOutstanding = true => absurd h (not_outstanding hm hstopped)

/-- Starting cycles announces them; stopping them leaves nothing outstanding. -/
theorem callHistory_control (hconfig : m.channel.framer.config = {}) (state : RunState) :
    ∃ events, CallHistory w m (.handle (.control state)) events := by
  have hnot := m.not_collects_handle (.control state)
  cases state with
  | enabled =>
    obtain ⟨events, hevents, hkept, hread, hsent, hfailed⟩ := history_broadcastSync w hconfig
    obtain ⟨-, hsame⟩ | ⟨⟨e, herror⟩, hsame⟩ | ⟨-, hok, due?, -, hstarted⟩ :=
      enable_cases w.recorded m
    · exact callHistory_of_eq hconfig hnot (congrArg Prod.snd hsame)
    · have hcall : m.call w.recorded (.handle (.control .enabled)) = _ := congrArg Prod.snd hsame
      refine ⟨events, by rw [hcall, hevents], by rw [hcall, hkept], ?_, ?_⟩
      · exact fun event hevent h => absurd h (hread event hevent)
      · rw [hcall]
        exact fun _ h => Or.inr ⟨h, rfl, hnot, hfailed e herror⟩
    · have hcall : m.call w.recorded (.handle (.control .enabled)) = _ :=
        congrArg Prod.snd hstarted
      refine ⟨events, by rw [hcall]; exact hevents, by rw [hcall]; exact hkept, ?_, ?_⟩
      · exact fun event hevent h => absurd h (hread event hevent)
      · rw [hcall]
        exact fun _ _ => Or.inl (hsent hok)
  | disabled =>
    obtain ⟨events, hevents, hkept, hread, -⟩ := history_broadcastSync w
      (m := { m with running := false, syncOutstanding := false, nextCycle? := none }) hconfig
    refine ⟨events, hevents, hkept, ?_, ?_⟩
    · exact fun event hevent h => absurd h (hread event hevent)
    · intro _ h
      cases h

theorem EndsWithSync.append {mode : TestMode} {events : List LinkEvent}
    (h : EndsWithSync mode events) (before : List LinkEvent) :
    EndsWithSync mode (before ++ events) := by
  obtain ⟨between, bytes, time, rfl, horder⟩ := h
  exact ⟨before ++ between, bytes, time, by rw [List.append_assoc], horder⟩

/-- What collecting does to the link: an exchange with each device in turn, with all of them
unless it is broken off. -/
theorem history_collect (w : Wiring σ τ) (hconfig : m.channel.framer.config = {})
    (houtstanding : m.syncOutstanding = true) :
    (m.collect w.recorded).2.channel.framer.config = {} ∧
      ∃ blocks : List (List LinkEvent),
        (m.collect w.recorded).2.channel = readEach w.recorded (readOrder m.mode)
          (m.registry.take blocks.length) m.channel ∧
        (m.collect w.recorded).2.history = m.history ++ blocks.flatten ∧
        List.Forall₂ (fun d block => Exchange d.id (readOrder m.mode).message block)
          (m.registry.take blocks.length) blocks ∧
        ((m.collect w.recorded).1.isSome = true → blocks.length = m.registry.length) := by
  obtain ⟨count, hchannel, hall⟩ := collect_channel w.recorded houtstanding
  obtain ⟨hkept, blocks, hblocks, hexchanges⟩ :=
    readEach_history w (readOrder m.mode) (m.registry.take count) hconfig
  rw [← hchannel] at hkept hblocks
  have hlength := hexchanges.length_eq
  rw [List.length_take] at hlength
  have htake : m.registry.take blocks.length = m.registry.take count := by
    rw [← hlength, ← List.take_eq_take_min]
  refine ⟨hkept, blocks, by rw [htake, hchannel], hblocks, by rwa [htake], fun hreturns => ?_⟩
  rw [← hlength, hall hreturns, Nat.min_self]

theorem config_collect (w : Wiring σ τ) (hconfig : m.channel.framer.config = {}) :
    (m.collect w.recorded).2.channel.framer.config = {} := by
  cases houtstanding : m.syncOutstanding with
  | false => rwa [collect_nothing w.recorded houtstanding]
  | true => exact (history_collect w hconfig houtstanding).1

/-- The step of a cycle that is due collects, and then announces the next cycle. -/
theorem history_pollCycle (w : Wiring σ τ) (hconfig : m.channel.framer.config = {})
    {now : Duration} (hdue : m.isDue now = true) :
    ∃ sync, (m.pollCycle w.recorded now).2.history = (m.collect w.recorded).2.history ++ sync ∧
      (m.pollCycle w.recorded now).2.channel.framer.config = {} ∧
      (∀ event ∈ sync, ¬ event.IsRead) ∧
      (m.returns w.recorded (.poll now) = true → (m.collect w.recorded).1.isSome = true ∧
        ((m.pollCycle w.recorded now).2.syncOutstanding = true →
          EndsWithSync (m.pollCycle w.recorded now).2.mode sync)) := by
  have hkept := config_collect w hconfig
  obtain ⟨sync, hsync, hkept', hread, hsent, -⟩ := history_broadcastSync w hkept
  obtain ⟨-, hbroken⟩ | ⟨count, hcount, ⟨e, -, hfailed⟩ | ⟨hok, due?, -, hnext⟩⟩ :=
    pollCycle_due w.recorded hdue
  · refine ⟨[], by rw [hbroken, List.append_nil], by rwa [hbroken], by simp, ?_⟩
    rw [returns, hbroken]
    intro hreturns
    cases hreturns
  · rw [hfailed]
    refine ⟨sync, hsync, hkept', hread, fun _ => ⟨by rw [hcount]; rfl, ?_⟩⟩
    rw [broadcastSync_snd, collect_snd, hcount]
    intro h
    cases h
  · rw [hnext]
    exact ⟨sync, hsync, hkept', hread, fun _ => ⟨by rw [hcount]; rfl, fun _ => hsent hok⟩⟩

/-- A collection reaches every device if its call comes to its end, or the clock counts far
enough. -/
theorem collect_returns (w : Wiring σ τ) (hconfig : m.channel.framer.config = {}) {now : Duration}
    (hdue : m.isDue now = true)
    (hends : m.plain.returns w (.poll now) = true ∨ Timely w m.plain.channel) :
    (m.collect w.recorded).1.isSome = true := by
  obtain hreturns | htimely := hends
  · obtain ⟨sync, -, -, -, hreturned⟩ := history_pollCycle w hconfig hdue
    exact (hreturned ((returns_plain w (.poll now) m).trans hreturns)).1
  · rw [fst_of_outcome (collect_plain w m)]
    exact collect_timely htimely

/-- The step of a cycle reads only what is outstanding. -/
theorem callHistory_poll (hconfig : m.channel.framer.config = {}) (now : Duration) :
    ∃ events, CallHistory w m (.poll now) events := by
  cases hdue : m.isDue now with
  | false =>
    apply callHistory_of_eq hconfig
    · rintro ⟨_, ⟨⟩, hdue', -⟩
      rw [hdue] at hdue'
      cases hdue'
    · exact congrArg Prod.snd (pollCycle_early w.recorded hdue)
  | true =>
    obtain ⟨sync, hsync, hkept, hread, hsent⟩ := history_pollCycle w hconfig hdue
    cases houtstanding : m.syncOutstanding with
    | false =>
      rw [collect_nothing w.recorded houtstanding] at hsync
      refine ⟨sync, hsync, hkept, ?_, fun hreturns h => Or.inl ((hsent hreturns).2 h)⟩
      exact fun event hevent h => absurd h (hread event hevent)
    | true =>
      obtain ⟨-, blocks, -, hcollected, -⟩ := history_collect w hconfig houtstanding
      rw [hcollected, List.append_assoc] at hsync
      exact ⟨blocks.flatten ++ sync, hsync, hkept, fun _ _ _ => ⟨now, rfl, hdue, houtstanding⟩,
        fun hreturns h => Or.inl (((hsent hreturns).2 h).append blocks.flatten)⟩

theorem callHistory (hm : m.Consistent) (hconfig : m.channel.framer.config = {})
    (call : MasterCall) : ∃ events, CallHistory w m call events := by
  cases call with
  | rest span =>
    apply callHistory_of_quiet hconfig
    · rintro ⟨_, hcall, -⟩
      cases hcall
    · exact ⟨rfl, [], (List.append_nil _).symm, by simp⟩
    · exact fun h => ⟨h, rfl⟩
  | poll now => exact callHistory_poll hconfig now
  | handle command =>
    have hnot := m.not_collects_handle command
    cases command with
    | configure devices => exact callHistory_configure hm hconfig devices
    | selectMode mode => exact callHistory_selectMode hm hconfig mode
    | control state => exact callHistory_control hconfig state
    | reset devices =>
      exact callHistory_of_quiet hconfig hnot (does_resetEach hconfig devices) fun h => ⟨h, rfl⟩
    | query target =>
      exact callHistory_of_quiet hconfig hnot
        (does_pingEach m.epoch m.registry hconfig 0 (m.targets target) m.pingSequence)
        fun h => ⟨h, rfl⟩

end Calls

/-! ## Whole runs -/

/-- In a run from `start`, the call `arming` ended with a sync for the mode, which the link
took. Since then the link took no other sync, and nothing was read. -/
structure Announced (w : Wiring σ τ) (start : Master (Recorded σ) τ) (before : List MasterCall)
    (arming : MasterCall) (since : List MasterCall) (mode : TestMode) : Prop where
  sync : ∃ events, (start.calls w.recorded (before ++ [arming])).history =
      (start.calls w.recorded before).history ++ events ∧ EndsWithSync mode events
  quiet : ∃ events, (start.calls w.recorded (before ++ arming :: since)).history =
      (start.calls w.recorded (before ++ [arming])).history ++ events ∧
      ∀ event ∈ events, event.Quiet
  unread : ∀ done next, done ++ [next] <+: since →
    ¬ (start.calls w.recorded (before ++ arming :: done)).Collects next

section Runs

variable {w : Wiring σ τ} {start : Master (Recorded σ) τ}

/-- A call that leaves the sync outstanding. -/
theorem Announced.snoc {before since : List MasterCall} {arming call : MasterCall}
    {mode : TestMode} (h : Announced w start before arming since mode) {events : List LinkEvent}
    (hcall : CallHistory w (start.calls w.recorded (before ++ arming :: since)) call events)
    (hcollects : ¬ (start.calls w.recorded (before ++ arming :: since)).Collects call)
    (hquiet : ∀ event ∈ events, event.Quiet) :
    Announced w start before arming (since ++ [call]) mode := by
  have hsplit : before ++ arming :: (since ++ [call]) = (before ++ arming :: since) ++ [call] := by
    simp
  refine ⟨h.sync, ?_, ?_⟩
  · obtain ⟨earlier, hearlier, hall⟩ := h.quiet
    refine ⟨earlier ++ events, ?_, List.forall_mem_append.mpr ⟨hall, hquiet⟩⟩
    rw [hsplit, calls_snoc, hcall.history, hearlier, List.append_assoc]
  · intro done next hprefix
    obtain hlast | hprefix := List.prefix_concat_iff.mp hprefix
    · obtain ⟨rfl, hnext⟩ := List.append_inj' hlast rfl
      obtain rfl := List.singleton_inj.mp hnext
      exact hcollects
    · exact h.unread done next hprefix

/-- The framer of the channel is as usual, in every run. -/
theorem calls_config (hstart : start.Consistent) (hconfig : start.channel.framer.config = {})
    (calls : List MasterCall) : (start.calls w.recorded calls).channel.framer.config = {} := by
  induction calls using List.reverseRecOn with
  | nil => exact hconfig
  | append_singleton calls call ih =>
    obtain ⟨events, hcall⟩ := callHistory (hstart.calls calls) ih call
    rw [calls_snoc]
    exact hcall.config

end Runs

end Master

end HarnessLink
