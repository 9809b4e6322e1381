import HarnessLink.Proofs.Master.Collections
import HarnessLink.Proofs.Master.Configure
import Mathlib.Data.List.Forall2

/-!
# Dialogues with devices one after another

The history of the slaves' link tells what came of every order. An order is acknowledged if
the first reply of its kind from its device carries the status zero. The orders to a device
go out in turn up to the first that is not acknowledged, and then the next device is spoken
to, whatever became of this one. A device completes its orders exactly if all of them are
acknowledged, and what a batch or a reset reports of each device is just that. Only a wait whose
end the clock cannot tell breaks them off.
-/
namespace HarnessLink

namespace Master

variable {σ τ : Type}

/-! ## The orders to one device -/

/-- The first reply of the right kind from the device tells that it accepted the order. -/
def isAcknowledged (id : DeviceId) (order : Order) (events : List LinkEvent) : Bool :=
  (Expectation.answer? ⟨⟨.slaveToMaster, order.replyId⟩, some id⟩ events).any fun reply =>
    statusOf reply = some SlaveToMaster.accepted

/-- Every order was sent and acknowledged. -/
def completes (id : DeviceId) : List Order → List (List LinkEvent) → Bool
  | [], _ => true
  | order :: rest, events :: later => isAcknowledged id order events && completes id rest later
  | _ :: _, [] => false

/-- Orders to a device in turn, with what happened on the link for each: the next one is sent
only after this one was acknowledged. -/
inductive Dialogue (id : DeviceId) : List Order → List (List LinkEvent) → Prop
  | done : Dialogue id [] []
  | accepted {order : Order} {rest : List Order} {events : List LinkEvent}
      {later : List (List LinkEvent)} (exchange : Exchange id order.message events)
      (hstatus : isAcknowledged id order events = true) (next : Dialogue id rest later) :
      Dialogue id (order :: rest) (events :: later)
  | refused {order : Order} {rest : List Order} {events : List LinkEvent}
      (exchange : Exchange id order.message events)
      (hstatus : isAcknowledged id order events = false) :
      Dialogue id (order :: rest) [events]

theorem acknowledged_history (w : Wiring σ τ) {c : Channel (Recorded σ)}
    (hconfig : c.framer.config = {}) (id : DeviceId) (order : Order) :
    ∃ result c' events, acknowledged w.recorded id order c = (result, c') ∧ c.Adds c' events ∧
      Exchange id order.message events ∧
      result.toOption.isSome = isAcknowledged id order events := by
  obtain ⟨result, c', events, hrequest, hadds, hexchange, hanswer⟩ := Channel.request_history
    w.slaves w.channel hconfig order.message id ⟨⟨.slaveToMaster, order.replyId⟩, some id⟩
  have hacknowledged : isAcknowledged id order events =
      result.toOption.any fun reply => statusOf reply = some SlaveToMaster.accepted := by
    rw [isAcknowledged, ← hanswer]
  rw [acknowledged, Wiring.recorded_slaves, Wiring.recorded_channel, hrequest]
  rcases result with e | reply
  · exact ⟨.error e, c', events, rfl, hadds, hexchange, hacknowledged.symm⟩
  · by_cases hstatus : statusOf reply = some SlaveToMaster.accepted
    · refine ⟨.ok (), c', events, if_pos hstatus, hadds, hexchange, ?_⟩
      rw [hacknowledged]
      exact (decide_eq_true hstatus).symm
    · refine ⟨.error (.rejected id order.message.name (statusOf reply)), c', events,
        if_neg hstatus, hadds, hexchange, ?_⟩
      rw [hacknowledged]
      exact (decide_eq_false hstatus).symm

/-- The orders to a device are a dialogue, and they succeed exactly if it completes them. -/
theorem acknowledgedAll_history (w : Wiring σ τ) {c : Channel (Recorded σ)}
    (hconfig : c.framer.config = {}) (id : DeviceId) (orders : List Order) :
    ∃ result c' talk, acknowledgedAll w.recorded id orders c = (result, c') ∧
      c.Adds c' talk.flatten ∧ Dialogue id orders talk ∧
      result.toOption.isSome = completes id orders talk := by
  induction orders generalizing c with
  | nil => exact ⟨.ok (), c, [], rfl, .refl hconfig, .done, rfl⟩
  | cons order rest ih =>
    obtain ⟨result, c₁, events, hfirst, hadds, hexchange, hstatus⟩ :=
      acknowledged_history w hconfig id order
    rcases result with e | ⟨⟩
    · refine ⟨.error e, c₁, [events], by rw [acknowledgedAll, hfirst], ?_,
        .refused hexchange hstatus.symm, ?_⟩
      · rwa [List.flatten_singleton]
      · rw [completes, ← hstatus]
        rfl
    · obtain ⟨result, c', talk, hrest, hlater, hdialogue, hcompletes⟩ := ih hadds.config
      refine ⟨result, c', events :: talk, by rw [acknowledgedAll, hfirst]; exact hrest,
        hadds.trans hlater, .accepted hexchange hstatus.symm hdialogue, ?_⟩
      rw [completes, ← hstatus, hcompletes]
      rfl

/-! ## One device after another -/

section Each

variable {α : Type} (id : α → DeviceId) (orders : α → List Order)

/-- Orders to each device in turn, whatever becomes of the others. Gives those that failed
and those that completed their orders, unless it is broken off. -/
def orderEach (w : Wiring σ τ) : List α → Channel σ → Option (List α × List α) × Channel σ
  | [], c => (some ([], []), c)
  | a :: rest, c =>
    let (result, c) := acknowledgedAll w (id a) (orders a) c
    if NodeError.breaksOff result then (none, c)
    else
      let (later?, c) := orderEach w rest c
      (later?.map fun (failed, completed) =>
        match result with
        | .ok () => (failed, a :: completed)
        | .error _ => (a :: failed, completed), c)

/-- Those that complete their orders, and those that do not, in order. -/
def completing (talks : List (α × List (List LinkEvent))) : List α :=
  (talks.filter fun t => completes (id t.1) (orders t.1) t.2).map Prod.fst

def failing (talks : List (α × List (List LinkEvent))) : List α :=
  (talks.filter fun t => !completes (id t.1) (orders t.1) t.2).map Prod.fst

theorem completing_cons (a : α) (talk : List (List LinkEvent))
    (talks : List (α × List (List LinkEvent))) :
    completing id orders ((a, talk) :: talks) =
      if completes (id a) (orders a) talk then a :: completing id orders talks
      else completing id orders talks := by
  simp only [completing, List.filter_cons]
  split <;> rfl

theorem failing_cons (a : α) (talk : List (List LinkEvent))
    (talks : List (α × List (List LinkEvent))) :
    failing id orders ((a, talk) :: talks) =
      if completes (id a) (orders a) talk then failing id orders talks
      else a :: failing id orders talks := by
  simp only [failing, List.filter_cons]
  cases completes (id a) (orders a) talk <;> rfl

/-- Unless it is broken off, every device is spoken to, and its own dialogue alone decides what
becomes of it. -/
theorem orderEach_history (w : Wiring σ τ) {items : List α} {c c' : Channel (Recorded σ)}
    (hconfig : c.framer.config = {}) {failed completed : List α}
    (hrun : orderEach id orders w.recorded items c = (some (failed, completed), c')) :
    ∃ talks : List (List (List LinkEvent)),
      failed = failing id orders (items.zip talks) ∧
      completed = completing id orders (items.zip talks) ∧
      c.Adds c' talks.flatten.flatten ∧
      List.Forall₂ (fun a talk => Dialogue (id a) (orders a) talk) items talks := by
  induction items generalizing c c' failed completed with
  | nil =>
    cases hrun
    exact ⟨[], rfl, rfl, .refl hconfig, .nil⟩
  | cons a rest ih =>
    obtain ⟨result, c₁, talk, hfirst, hadds, hdialogue, hcompletes⟩ :=
      acknowledgedAll_history w hconfig (id a) (orders a)
    simp only [orderEach, hfirst] at hrun
    split at hrun
    · cases hrun
    · rcases heach : orderEach id orders w.recorded rest c₁ with ⟨_ | ⟨failed', completed'⟩, c₂⟩
      all_goals simp only [heach] at hrun
      · cases hrun
      obtain ⟨talks, rfl, rfl, hlater, hdialogues⟩ := ih hadds.config heach
      refine ⟨talk :: talks, ?_, ?_, ?_, .cons hdialogue hdialogues⟩
      · rw [List.zip_cons_cons, failing_cons, ← hcompletes]
        cases result <;> cases hrun <;> rfl
      · rw [List.zip_cons_cons, completing_cons, ← hcompletes]
        cases result <;> cases hrun <;> rfl
      · rw [List.flatten_cons, List.flatten_append]
        cases result <;> cases hrun <;> exact hadds.trans hlater

end Each

theorem configureEach_eq_orderEach (w : Wiring σ τ) (batch : List PlannedDevice) (c : Channel σ) :
    let run := orderEach (fun d : PlannedDevice => d.setup.id) (PlannedDevice.orders w.config) w
      batch c
    configureEach w batch c =
      (run.1.map fun (failed, completed) =>
        (failed.map fun d => d.setup.id, completed.map PlannedDevice.registered), run.2) := by
  induction batch generalizing c with
  | nil => rfl
  | cons d rest ih =>
    rw [configureEach, orderEach]
    rcases acknowledgedAll w d.setup.id (d.orders w.config) c with ⟨result, c'⟩
    simp only [ih]
    split
    · rfl
    · rcases orderEach (fun d : PlannedDevice => d.setup.id) (PlannedDevice.orders w.config) w
        rest c' with ⟨_ | ⟨failed, completed⟩, c''⟩ <;> cases result <;> rfl

/-- The one order that resets a device. -/
def resetOrders (d : DeviceReset) : List Order := [⟨.reset ⟨d.lock, d.clipLed⟩, 0x30⟩]

theorem acknowledgedAll_singleton (w : Wiring σ τ) (id : DeviceId) (order : Order)
    (c : Channel σ) : acknowledgedAll w id [order] c = acknowledged w id order c := by
  rw [acknowledgedAll]
  rcases acknowledged w id order c with ⟨e | ⟨⟩, c'⟩ <;> rfl

theorem resetEach_eq_orderEach (w : Wiring σ τ) (devices : List DeviceReset) (c : Channel σ) :
    let run := orderEach DeviceReset.id resetOrders w devices c
    resetEach w devices c = (run.1.map fun (failed, _) => failed.map DeviceReset.id, run.2) := by
  induction devices generalizing c with
  | nil => rfl
  | cons d rest ih =>
    rw [resetEach, orderEach, resetOrders, acknowledgedAll_singleton]
    rcases acknowledged w d.id ⟨.reset ⟨d.lock, d.clipLed⟩, 0x30⟩ c with ⟨result, c'⟩
    simp only [ih]
    split
    · rfl
    · rcases orderEach DeviceReset.id resetOrders w rest c' with ⟨_ | ⟨failed, completed⟩, c''⟩ <;>
        cases result <;> rfl

/-! ## Batches and resets -/

/-- From `m` to `m'` the items were ordered one after another, each with a dialogue of its own,
and those that did not complete their orders are reported. -/
structure OneByOne {α : Type} (id : α → DeviceId) (orders : α → List Order) (items : List α)
    (talks : List (List (List LinkEvent))) (m : Master (Recorded σ) τ) (result : CommandOutcome)
    (m' : Master (Recorded σ) τ) : Prop where
  history : m'.history = m.history ++ talks.flatten.flatten
  dialogues : List.Forall₂ (fun a talk => Dialogue (id a) (orders a) talk) items talks
  failed : result.failed = (failing id orders (items.zip talks)).map id

theorem configure_oneByOne (w : Wiring σ τ) {m : Master (Recorded σ) τ}
    (hconfig : m.channel.framer.config = {}) (hrunning : m.running = false)
    {devices : List DeviceSetup} {batch : List PlannedDevice}
    (hplan : planBatch? devices = some batch) {result : CommandOutcome}
    (hresult : (m.configure w.recorded devices).1 = some result) :
    ∃ talks, OneByOne (fun d => d.setup.id) (PlannedDevice.orders w.config) batch talks m result
        (m.configure w.recorded devices).2 ∧
      (m.configure w.recorded devices).2.registry =
        (completing (fun d => d.setup.id) (PlannedDevice.orders w.config)
          (batch.zip talks)).map PlannedDevice.registered := by
  have hbatch : configureEach w.recorded batch m.channel = _ :=
    configureEach_eq_orderEach w.recorded batch m.channel
  rw [Wiring.recorded_config] at hbatch
  rw [configure_planned w.recorded hrunning hplan, hbatch] at hresult ⊢
  rcases heach : orderEach (fun d : PlannedDevice => d.setup.id) (PlannedDevice.orders w.config)
    w.recorded batch m.channel with ⟨_ | ⟨failed, completed⟩, c'⟩
  all_goals rw [heach] at hresult
  · cases hresult
  obtain ⟨talks, rfl, rfl, hadds, hdialogues⟩ := orderEach_history _ _ w hconfig heach
  cases hresult
  exact ⟨talks, ⟨hadds.history, hdialogues, rfl⟩, rfl⟩

theorem reset_oneByOne (w : Wiring σ τ) {m : Master (Recorded σ) τ}
    (hconfig : m.channel.framer.config = {}) {devices : List DeviceReset} {result : CommandOutcome}
    (hresult : (m.reset w.recorded devices).1 = some result) :
    ∃ talks, OneByOne DeviceReset.id resetOrders devices talks m result
      (m.reset w.recorded devices).2 := by
  have hreset : resetEach w.recorded devices m.channel = _ :=
    resetEach_eq_orderEach w.recorded devices m.channel
  simp only [reset, hreset] at hresult ⊢
  rcases heach : orderEach DeviceReset.id resetOrders w.recorded devices m.channel with
    ⟨_ | ⟨failed, completed⟩, c'⟩
  all_goals rw [heach] at hresult
  · cases hresult
  obtain ⟨talks, rfl, -, hadds, hdialogues⟩ := orderEach_history _ _ w hconfig heach
  cases hresult
  exact ⟨talks, ⟨hadds.history, hdialogues, rfl⟩⟩

theorem reset_plain (w : Wiring σ τ) (devices : List DeviceReset) (m : Master (Recorded σ) τ) :
    outcome (m.reset w.recorded devices) = m.plain.reset w devices :=
  handle_plain w (.reset devices) m

/-- Whatever was called before and whatever the link to the slaves does, a batch or a reset comes
to its end if the clock can tell the ends of the waits for replies. Then its devices were spoken
to one after another, and each failed on its own. What a batch sends to a device is told by the
batch alone. A device is reported as failed exactly if one of its orders was not acknowledged by
this device with the status zero, and no further order is sent to it then. The others are
registered under their indices, and both lists are in the order of the batch. An order that was
not transmitted at all is one before which the link failed. The run is told by the record of the
link, which changes nothing. -/
theorem each_device_fails_alone (w : Wiring σ τ) (s : σ) (uplink? : Option (Staged τ))
    (epoch : Duration) (calls : List MasterCall) :
    let start : Master (Recorded σ) τ := { channel := { link := ⟨s, []⟩ }, uplink?, epoch }
    let m := start.calls w.recorded calls
    let measured := w.slaves.Measures w.channel.responseTimeout m.plain.channel.link
    m.plain = ({ channel := { link := s }, uplink?, epoch } : Master σ τ).calls w calls ∧
    (∀ devices : List DeviceSetup, devices.length ≤ 256 → m.running = false →
      let run := m.configure w.recorded devices
      let id := fun d : PlannedDevice => d.setup.id
      let orders := PlannedDevice.orders w.config
      outcome run = m.plain.configure w devices ∧ (measured → run.1.isSome = true) ∧
      ∃ batch : List PlannedDevice,
        planBatch? devices = some batch ∧
        (batch.map fun d => (d.setup, d.registered)) =
          (devices.zipIdx.map fun d =>
            (d.1, ⟨d.1.id, UInt8.ofNat d.2, d.1.conduction, d.1.resistance⟩)) ∧
        ∀ result, run.1 = some result → ∃ talks : List (List (List LinkEvent)),
          OneByOne id orders batch talks m result run.2 ∧
          run.2.registry =
            (completing id orders (batch.zip talks)).map PlannedDevice.registered) ∧
    ∀ devices : List DeviceReset,
      let run := m.reset w.recorded devices
      outcome run = m.plain.reset w devices ∧ (measured → run.1.isSome = true) ∧
      ∀ result, run.1 = some result →
        ∃ talks, OneByOne DeviceReset.id resetOrders devices talks m result run.2 := by
  intro start m measured
  have hstart : start.Consistent := consistent_new _ uplink? epoch
  have hconfig := calls_config (w := w) hstart rfl calls
  refine ⟨calls_plain w calls start, ?_, ?_⟩
  · intro devices hsize hrunning run id orders
    obtain ⟨_, _, batch, -, -, hplan, hsetups, hplaced⟩ := planBatch?_of_le hsize
    have hplain := configure_plain w devices m
    refine ⟨hplain, fun hmeasured => ?_, batch, hplan,
      registered_eq hsetups fun i d hd => (hplaced i d hd).2.2,
      fun result hresult => configure_oneByOne w hconfig hrunning hplan hresult⟩
    rw [fst_of_outcome hplain]
    exact configure_measured hmeasured devices
  · intro devices run
    have hplain := reset_plain w devices m
    refine ⟨hplain, fun hmeasured => ?_, fun result hresult => reset_oneByOne w hconfig hresult⟩
    rw [fst_of_outcome hplain]
    exact reset_measured hmeasured devices

/-- A device that is on the bus and one that is not are both spoken to, whether they are configured
or reset. -/
theorem each_device_fails_alone_two :
    let w : Wiring Medium Medium := { slaves := Medium.link, uplink := Medium.link }
    let m : Master (Recorded Medium) Medium := { channel := { link := ⟨mediumOver [⟨1⟩], []⟩ } }
    let setups : List DeviceSetup := [⟨⟨9⟩, 1, 0, none⟩, ⟨⟨1⟩, 2, 3, none⟩]
    let resets : List DeviceReset := [⟨⟨1⟩, 0, 0⟩, ⟨⟨9⟩, 0, 0⟩]
    (∃ batch result first second, planBatch? setups = some batch ∧
      (m.configure w.recorded setups).1 = some result ∧
      OneByOne (fun d => d.setup.id) (PlannedDevice.orders w.config) batch [first, second] m result
        (m.configure w.recorded setups).2) ∧
    ∃ result first second, (m.reset w.recorded resets).1 = some result ∧
      OneByOne DeviceReset.id resetOrders resets [first, second] m result
        (m.reset w.recorded resets).2 := by
  intro w m setups resets
  have hw : w.Prompt Medium.Plain := prompt_plain rfl (by decide) (by decide)
  have hmeasures := hw.measures (atRest_mediumOver [⟨1⟩])
  obtain ⟨-, hconfigure, hreset⟩ := each_device_fails_alone w (mediumOver [⟨1⟩]) none .zero []
  constructor
  · obtain ⟨-, hreturns, batch, hplan, hpairs, htalks⟩ := hconfigure setups (by decide) rfl
    obtain ⟨result, hresult⟩ := Option.isSome_iff_exists.mp (hreturns hmeasures)
    obtain ⟨talks, hone, -⟩ := htalks result hresult
    have hbatch : batch.length = 2 := by simpa [setups] using congrArg List.length hpairs
    obtain ⟨first, second, rfl⟩ :=
      List.length_eq_two.mp (hone.dialogues.length_eq.symm.trans hbatch)
    exact ⟨batch, result, first, second, hplan, hresult, hone⟩
  · obtain ⟨-, hreturns, htalks⟩ := hreset resets
    obtain ⟨result, hresult⟩ := Option.isSome_iff_exists.mp (hreturns hmeasures)
    obtain ⟨talks, hone⟩ := htalks result hresult
    obtain ⟨first, second, rfl⟩ := List.length_eq_two.mp hone.dialogues.length_eq.symm
    exact ⟨result, first, second, hresult, hone⟩

/-- A reset that is broken off at its first device speaks to nobody else. -/
theorem reset_endless_history {w : Wiring σ τ} {holds : σ → SlaveBus → List Bytes → Prop}
    (hlink : w.slaves.Lossless holds)
    (hclock : ∀ {s b waiting}, holds s b waiting →
      w.slaves.deadline? w.channel.responseTimeout s = none)
    {m : Master (Recorded σ) τ} {b : SlaveBus} (hrest : m.plain.channel.AtRest holds b)
    (first : DeviceReset) (rest : List DeviceReset) :
    (m.reset w.recorded (first :: rest)).1 = none ∧
      ∃ events, (m.reset w.recorded (first :: rest)).2.history = m.history ++ events ∧
        Exchange first.id (.reset ⟨first.lock, first.clipLed⟩) events := by
  let order : Order := ⟨.reset ⟨first.lock, first.clipLed⟩, 0x30⟩
  obtain ⟨c₁, hendless, -⟩ := reset_endless hlink hclock hrest first rest
  obtain ⟨result, c', events, hacknowledged, hadds, hexchange, -⟩ :=
    acknowledged_history w (c := m.channel) hrest.config first.id order
  have hplain := (acknowledged_plain w first.id order m.channel).trans hendless
  rw [hacknowledged] at hplain
  obtain rfl : result = .error .unmeasurable := congrArg Prod.fst hplain
  have hreset : m.reset w.recorded (first :: rest) = (none, { m with channel := c' }) := by
    simp only [reset, resetEach, order, hacknowledged]
    rfl
  rw [hreset]
  exact ⟨rfl, events, hadds.history, hexchange⟩

/-- Two devices are on the bus, and the second is never spoken to. -/
theorem reset_endless_wait :
    let w : Wiring Medium Medium :=
      { slaves := Medium.link, uplink := Medium.link,
        channel := { responseTimeout := .ofSeconds 18446744073709551615 } }
    let m : Master (Recorded Medium) Medium :=
      { channel := { link := ⟨mediumOver [⟨1⟩, ⟨2⟩], []⟩ } }
    let run := m.reset w.recorded [⟨⟨1⟩, 0, 0⟩, ⟨⟨2⟩, 0, 0⟩]
    w.channel.responseTimeout.checked? = some w.channel.responseTimeout ∧ run.1 = none ∧
      ∀ event ∈ run.2.history, ∀ order, event.order? ≠ some (⟨2⟩, order) := by
  intro w m run
  obtain ⟨hbroken, events, hevents, hexchange⟩ := reset_endless_history (w := w) (m := m)
    Medium.link_lossless (fun h => (Medium.deadline?_plain h _).trans (by decide))
    (atRest_mediumOver [⟨1⟩, ⟨2⟩]) ⟨⟨1⟩, 0, 0⟩ [⟨⟨2⟩, 0, 0⟩]
  refine ⟨by decide, hbroken, fun event hevent order horder => ?_⟩
  rw [hevents] at hevent
  have hsame : (⟨2⟩ : DeviceId) = ⟨1⟩ :=
    congrArg Prod.fst ((hexchange.carries event hevent).of_order? horder)
  exact absurd hsame (by decide)

end Master

end HarnessLink
