import HarnessLink.Proofs.Master.Plan

/-!
# What every run of a master keeps

A master is called to carry out a command or to take the step of a cycle, time passes between
the calls, and every call may fail at any exchange with the slaves or be broken off. Whatever is
called, in whatever order and at whatever times, results are outstanding only while cycles run,
and they run only with registered devices, whose slots count up. A next cycle is set only while
they run, and always then unless a call was broken off. While they run, no call but the one that
stops them touches the mode or what was configured.
-/
namespace HarnessLink

/-- A call on a master, or a span of time without one. -/
inductive MasterCall where
  | handle (command : DeviceCommand)
  | poll (now : Duration)
  | rest (span : Duration)

namespace Master

variable {σ τ : Type} (w : Wiring σ τ)

/-- The master after a span of time in which it is not called. -/
def rested (span : Duration) (m : Master σ τ) : Master σ τ :=
  { m with channel := { m.channel with link := w.slaves.rest span m.channel.link } }

/-- The master after a call. -/
def call (m : Master σ τ) : MasterCall → Master σ τ
  | .handle command => (m.handle w command).2
  | .poll now => (m.pollCycle w now).2
  | .rest span => m.rested w span

/-- The call comes to its end. -/
def returns (m : Master σ τ) : MasterCall → Bool
  | .handle command => (m.handle w command).1.isSome
  | .poll now => !NodeError.breaksOff (m.pollCycle w now).1
  | .rest _ => true

/-- The master after calls in turn. -/
def calls (m : Master σ τ) (calls : List MasterCall) : Master σ τ := calls.foldl (call w) m

/-- All of the calls come to their ends. -/
def returnsAll : List MasterCall → Master σ τ → Bool
  | [], _ => true
  | first :: later, m => m.returns w first && returnsAll later (m.call w first)

@[simp] theorem calls_nil (m : Master σ τ) : m.calls w [] = m := rfl

@[simp] theorem calls_cons (m : Master σ τ) (first : MasterCall) (later : List MasterCall) :
    m.calls w (first :: later) = (m.call w first).calls w later := rfl

@[simp] theorem calls_append (m : Master σ τ) (first later : List MasterCall) :
    m.calls w (first ++ later) = (m.calls w first).calls w later :=
  List.foldl_append

theorem calls_snoc (m : Master σ τ) (calls : List MasterCall) (call : MasterCall) :
    m.calls w (calls ++ [call]) = (m.calls w calls).call w call := by
  rw [calls_append, calls_cons, calls_nil]

/-- What holds of a master between calls. -/
structure Consistent (m : Master σ τ) : Prop where
  cycle : m.nextCycle?.isSome = true → m.running = true
  outstanding : m.syncOutstanding = true → m.running = true
  registered : m.running = true → m.registry ≠ []
  size : m.registry.length ≤ 256
  slots : m.registry.Pairwise fun d e => d.timeSlot < e.timeSlot

theorem consistent_new (c : Channel σ) (uplink? : Option (Staged τ)) (epoch : Duration) :
    ({ channel := c, uplink?, epoch } : Master σ τ).Consistent :=
  ⟨by simp, by simp, by simp, by simp, by simp⟩

variable {w}

/-! ## The registry that a batch leaves -/

/-- The devices that are registered stand in the order of the batch. -/
theorem registered_sublist (w : Wiring σ τ) {batch : List PlannedDevice} {c c' : Channel σ}
    {failed : List DeviceId} {registry : List RegisteredDevice}
    (h : configureEach w batch c = (some (failed, registry), c')) :
    registry.Sublist (batch.map PlannedDevice.registered) := by
  induction batch generalizing c failed registry with
  | nil =>
    cases h
    exact List.Sublist.slnil
  | cons d rest ih =>
    rcases hfirst : acknowledgedAll w d.setup.id (d.orders w.config) c with ⟨result, c₁⟩
    rw [configureEach] at h
    simp only [hfirst] at h
    split at h
    · cases h
    · rcases hrest : configureEach w rest c₁ with ⟨_ | ⟨failed', registry'⟩, c₂⟩
      all_goals simp only [hrest] at h
      · cases h
      · cases result with
        | error e =>
          cases h
          exact (ih hrest).cons _
        | ok =>
          cases h
          exact (ih hrest).cons_cons _

/-- The slots of a planned batch count up, and a byte tells them apart. -/
theorem planned_slots {devices : List DeviceSetup} {batch : List PlannedDevice}
    (h : planBatch? devices = some batch) :
    batch.length ≤ 256 ∧
      (batch.map PlannedDevice.registered).Pairwise fun d e => d.timeSlot < e.timeSlot := by
  have hsize : devices.length ≤ 256 := by
    rcases Nat.lt_or_ge 256 devices.length with hlarge | hsize
    · rw [planBatch?_of_large hlarge] at h
      cases h
    · exact hsize
  obtain ⟨_, _, batch', _, _, hplan, hsetups, hplaced⟩ := planBatch?_of_le hsize
  obtain rfl := Option.some.inj (hplan.symm.trans h)
  have hlength : batch'.length ≤ 256 := by
    rw [← hsetups, List.length_map] at hsize
    exact hsize
  refine ⟨hlength, List.pairwise_map.mpr (List.pairwise_iff_getElem.mpr ?_)⟩
  intro i j hi hj hij
  have hslot : ∀ (k : Nat) (hk : k < batch'.length),
      batch'[k].registered.timeSlot = UInt8.ofNat k :=
    fun k hk => (hplaced k batch'[k] (List.getElem?_eq_getElem hk)).2.2.slot
  rw [hslot i hi, hslot j hj, UInt8.lt_iff_toNat_lt,
    UInt8.toNat_ofNat_of_lt' (Nat.lt_of_lt_of_le hi hlength),
    UInt8.toNat_ofNat_of_lt' (Nat.lt_of_lt_of_le hj hlength)]
  exact hij

/-- A batch is discarded, which it is while cycles run, or broken off, or registers those of its
devices that were configured. -/
theorem configure_cases (w : Wiring σ τ) (devices : List DeviceSetup) (m : Master σ τ) :
    m.configure w devices = (some (.configured (devices.map DeviceSetup.id)), m) ∨
      m.running = false ∧ ∃ batch result c', planBatch? devices = some batch ∧
        configureEach w batch m.channel = (result, c') ∧
        (result = none ∧ m.configure w devices = (none, { m with channel := c' }) ∨
          ∃ failed registry, result = some (failed, registry) ∧
            m.configure w devices =
              (some (.configured failed),
                { m with
                  channel := c', registry
                  totalHarness := SlotPlan.total (devices.map DeviceSetup.conduction) })) := by
  rcases Bool.eq_false_or_eq_true m.running with hrunning | hrunning
  · exact Or.inl (by rw [configure, if_pos hrunning])
  · cases hplan : planBatch? devices with
    | none => exact Or.inl (by rw [configure, hplan, ite_self])
    | some batch =>
      refine Or.inr ⟨hrunning, batch, _, _, rfl, rfl, ?_⟩
      rw [configure_planned w hrunning hplan]
      rcases configureEach w batch m.channel with ⟨_ | ⟨failed, registry⟩, c'⟩
      · exact Or.inl ⟨rfl, rfl⟩
      · exact Or.inr ⟨failed, registry, rfl, rfl⟩

theorem Consistent.configure {m : Master σ τ} (h : m.Consistent) (devices : List DeviceSetup) :
    (m.configure w devices).2.Consistent := by
  obtain hsame | ⟨hstopped, batch, result, c', hplan, heach, hconfigured⟩ :=
    configure_cases w devices m
  · rwa [hsame]
  · obtain ⟨-, hbroken⟩ | ⟨failed, registry, rfl, hregistered⟩ := hconfigured
    · rw [hbroken]
      exact ⟨h.cycle, h.outstanding, h.registered, h.size, h.slots⟩
    · obtain ⟨hsize, hslots⟩ := planned_slots hplan
      have hsublist := registered_sublist w heach
      have hlength := hsublist.length_le
      rw [List.length_map] at hlength
      rw [hregistered]
      exact ⟨h.cycle, h.outstanding, by simp [hstopped], Nat.le_trans hlength hsize,
        hslots.sublist hsublist⟩

/-! ## Starting, stopping and taking a step -/

theorem selectMode_cases (mode : TestMode) (m : Master σ τ) :
    m.running = true ∧ (m.selectMode mode).2 = m ∨
      m.running = false ∧ (m.selectMode mode).2 = { m with mode } := by
  rw [selectMode]
  cases hrunning : m.running with
  | true => exact Or.inl ⟨rfl, rfl⟩
  | false => exact Or.inr ⟨rfl, by simp⟩

/-- A sync touches only the channel. -/
theorem broadcastSync_snd (w : Wiring σ τ) (m : Master σ τ) :
    (m.broadcastSync w).2 = { m with channel := (m.broadcastSync w).2.channel } := rfl

/-- Cycles start with a sync that goes out, if a device is registered. Otherwise at most the
channel is touched. Starting is broken off where the end of the first cycle cannot be told. -/
theorem enable_cases (w : Wiring σ τ) (m : Master σ τ) :
    m.registry = [] ∧ m.control w .enabled = (some (.controlled false .enabled), m) ∨
      (∃ e, (m.broadcastSync w).1 = .error e) ∧
        m.control w .enabled = (some (.controlled false .enabled), (m.broadcastSync w).2) ∨
      m.registry ≠ [] ∧ (m.broadcastSync w).1 = .ok () ∧
        ∃ due? : Option Duration,
          due? = m.cycleEnd? w.config ((m.broadcastSync w).2.clock w) ∧
          m.control w .enabled =
            (due?.map fun _ => .controlled true .enabled,
              { (m.broadcastSync w).2 with
                running := true, syncOutstanding := true, nextCycle? := due?.or m.nextCycle? }) := by
  by_cases hregistry : m.registry = []
  · refine Or.inl ⟨hregistry, ?_⟩
    rw [control, hregistry]
    rfl
  · have hdevices : ¬ m.registry.isEmpty = true := by simpa using hregistry
    have hnext : (m.broadcastSync w).2.nextCycle? = m.nextCycle? := rfl
    have hend : ∀ now, cycleEnd? w.config now
        { (m.broadcastSync w).2 with running := true, syncOutstanding := true } =
          m.cycleEnd? w.config now := fun _ => rfl
    rcases hsync : m.broadcastSync w with ⟨e | ⟨⟩, m'⟩
    · exact Or.inr (Or.inl ⟨⟨e, rfl⟩, by simp only [control, if_neg hdevices, hsync]⟩)
    · rw [hsync] at hnext hend
      refine Or.inr (Or.inr ⟨hregistry, rfl, _, rfl, ?_⟩)
      have hclock : clock w { m' with running := true, syncOutstanding := true } = m'.clock w := rfl
      simp only [control, if_neg hdevices, hsync, hclock, hend, ← hnext]
      cases m.cycleEnd? w.config (m'.clock w) <;> rfl

theorem disable_eq (w : Wiring σ τ) (m : Master σ τ) :
    m.control w .disabled =
      (some (.controlled true .disabled),
        (broadcastSync w
          { m with running := false, syncOutstanding := false, nextCycle? := none }).2) := rfl

/-- Collecting touches the links. It leaves nothing outstanding unless it is broken off. -/
theorem collect_snd (w : Wiring σ τ) (m : Master σ τ) :
    (m.collect w).2 =
      { m with
        channel := (m.collect w).2.channel, uplink? := (m.collect w).2.uplink?
        syncOutstanding := (m.collect w).1.isNone } := by
  rw [collect]
  split
  · rfl
  · next hread =>
    rw [Bool.not_eq_true] at hread
    show m = { m with syncOutstanding := false }
    rw [← hread]

/-- A step that is due collects and announces the next cycle, if the sync goes out. It is broken
off with its collection, or where the end of the next cycle cannot be told. -/
theorem pollCycle_due (w : Wiring σ τ) {now : Duration} {m : Master σ τ}
    (h : m.isDue now = true) :
    (m.collect w).1 = none ∧
        m.pollCycle w now = (.error .unmeasurable, (m.collect w).2) ∨
      ∃ count, (m.collect w).1 = some count ∧
        ((∃ e, ((m.collect w).2.broadcastSync w).1 = .error e ∧
            m.pollCycle w now = (.error e, ((m.collect w).2.broadcastSync w).2)) ∨
          ((m.collect w).2.broadcastSync w).1 = .ok () ∧
            ∃ due? : Option Duration, due? = m.cycleEnd? w.config now ∧
              m.pollCycle w now =
                ((due?.map fun _ => count).elim (.error .unmeasurable) .ok,
                  { ((m.collect w).2.broadcastSync w).2 with
                    syncOutstanding := true, nextCycle? := due?.or m.nextCycle? })) := by
  have hnext : ((m.collect w).2.broadcastSync w).2.nextCycle? = m.nextCycle? := by
    rw [broadcastSync_snd, collect_snd]
  have hend : cycleEnd? w.config now
      { ((m.collect w).2.broadcastSync w).2 with syncOutstanding := true } =
        m.cycleEnd? w.config now := by
    rw [broadcastSync_snd, collect_snd]
    rfl
  rcases hcollect : m.collect w with ⟨_ | count, m₁⟩
  · exact Or.inl ⟨rfl, by simp only [pollCycle, if_pos h, hcollect]⟩
  · rw [hcollect] at hnext hend
    refine Or.inr ⟨count, rfl, ?_⟩
    rcases hsync : m₁.broadcastSync w with ⟨e | ⟨⟩, m₂⟩
    · exact Or.inl ⟨e, rfl, by simp only [pollCycle, if_pos h, hcollect, hsync]⟩
    · rw [hsync] at hnext hend
      refine Or.inr ⟨rfl, _, rfl, ?_⟩
      simp only [pollCycle, if_pos h, hcollect, hsync, hend, ← hnext]
      cases m.cycleEnd? w.config now <;> rfl

theorem pollCycle_early (w : Wiring σ τ) {now : Duration} {m : Master σ τ}
    (h : m.isDue now = false) : m.pollCycle w now = (.ok 0, m) := by
  simp [pollCycle, h]

theorem isDue_iff {now : Duration} {m : Master σ τ} :
    m.isDue now = true ↔
      m.running = true ∧ ∃ due, m.nextCycle? = some due ∧ due.nanos ≤ now.nanos := by
  rw [isDue]
  cases m.nextCycle? <;> simp

theorem Consistent.control {m : Master σ τ} (h : m.Consistent) (state : RunState) :
    (m.control w state).2.Consistent := by
  cases state with
  | enabled =>
    obtain ⟨-, hsame⟩ | ⟨-, hsame⟩ | ⟨hregistry, -, due?, -, hstarted⟩ := enable_cases w m
    · rwa [hsame]
    · rw [hsame]
      exact ⟨h.cycle, h.outstanding, h.registered, h.size, h.slots⟩
    · rw [hstarted]
      exact ⟨by simp, by simp, fun _ => hregistry, h.size, h.slots⟩
  | disabled =>
    rw [disable_eq, broadcastSync_snd]
    exact ⟨by simp, by simp, by simp, h.size, h.slots⟩

theorem Consistent.pollCycle {m : Master σ τ} (h : m.Consistent) (now : Duration) :
    (m.pollCycle w now).2.Consistent := by
  cases hdue : m.isDue now with
  | false => rwa [pollCycle_early w hdue]
  | true =>
    have hrunning := (isDue_iff.mp hdue).1
    have hcollected := collect_snd w m
    obtain ⟨-, hbroken⟩ | ⟨count, -, ⟨e, -, hfailed⟩ | ⟨-, due?, -, hnext⟩⟩ := pollCycle_due w hdue
    · rw [hbroken, hcollected]
      exact ⟨h.cycle, fun _ => hrunning, h.registered, h.size, h.slots⟩
    · rw [hfailed, broadcastSync_snd, hcollected]
      exact ⟨h.cycle, fun _ => hrunning, h.registered, h.size, h.slots⟩
    · rw [hnext, broadcastSync_snd, hcollected]
      exact ⟨fun _ => hrunning, fun _ => hrunning, h.registered, h.size, h.slots⟩

/-- No call breaks it, wherever its exchanges with the slaves fail. -/
theorem Consistent.call {m : Master σ τ} (h : m.Consistent) (call : MasterCall) :
    (m.call w call).Consistent := by
  cases call with
  | rest span => exact ⟨h.cycle, h.outstanding, h.registered, h.size, h.slots⟩
  | poll now => exact h.pollCycle now
  | handle command =>
    cases command with
    | configure devices => exact h.configure devices
    | selectMode mode =>
      obtain ⟨-, hsame⟩ | ⟨-, hselected⟩ := selectMode_cases mode m
      · rwa [Master.call, handle, hsame]
      · rw [Master.call, handle, hselected]
        exact ⟨h.cycle, h.outstanding, h.registered, h.size, h.slots⟩
    | control state => exact h.control state
    | reset devices => exact ⟨h.cycle, h.outstanding, h.registered, h.size, h.slots⟩
    | query target => exact ⟨h.cycle, h.outstanding, h.registered, h.size, h.slots⟩

theorem Consistent.calls {m : Master σ τ} (h : m.Consistent) (calls : List MasterCall) :
    (m.calls w calls).Consistent := by
  induction calls generalizing m with
  | nil => exact h
  | cons first later ih => exact ih (h.call first)

/-! ## Calls that return -/

/-- While cycles run, the end of the current one is set. -/
def Scheduled (m : Master σ τ) : Prop := m.running = true → m.nextCycle?.isSome = true

theorem scheduled_pollCycle {m : Master σ τ} (h : m.Scheduled) (now : Duration) :
    (m.pollCycle w now).2.Scheduled := by
  cases hdue : m.isDue now with
  | false => rwa [pollCycle_early w hdue]
  | true =>
    have hcollected := collect_snd w m
    obtain ⟨-, hbroken⟩ | ⟨count, -, ⟨e, -, hfailed⟩ | ⟨-, due?, -, hnext⟩⟩ := pollCycle_due w hdue
    · rw [hbroken, hcollected]
      exact h
    · rw [hfailed, broadcastSync_snd, hcollected]
      exact h
    · rw [hnext, broadcastSync_snd, hcollected]
      intro hrunning
      have hset := h hrunning
      cases due? with
      | some due => rfl
      | none => exact hset

/-- Only a start that is broken off leaves cycles without an end. -/
theorem scheduled_call {m : Master σ τ} (h : m.Scheduled) {call : MasterCall}
    (hreturns : m.returns w call = true) : (m.call w call).Scheduled := by
  cases call with
  | rest span => exact h
  | poll now => exact scheduled_pollCycle h now
  | handle command =>
    cases command with
    | configure devices =>
      obtain hsame | ⟨-, batch, result, c', -, -, hconfigured⟩ := configure_cases w devices m
      · rwa [call, handle, hsame]
      · obtain ⟨-, hconfigured⟩ | ⟨failed, registry, -, hconfigured⟩ := hconfigured
        all_goals
          rw [call, handle, hconfigured]
          exact h
    | selectMode mode =>
      obtain ⟨-, hsame⟩ | ⟨-, hselected⟩ := selectMode_cases mode m
      · rwa [call, handle, hsame]
      · rw [call, handle, hselected]
        exact h
    | control state =>
      cases state with
      | enabled =>
        obtain ⟨-, hsame⟩ | ⟨-, hsame⟩ | ⟨-, -, due?, -, hstarted⟩ := enable_cases w m
        · rwa [call, handle, hsame]
        · rw [call, handle, hsame]
          exact h
        · rw [returns, handle, hstarted, Option.isSome_map] at hreturns
          rw [call, handle, hstarted]
          cases due? with
          | none => cases hreturns
          | some due => exact fun _ => rfl
      | disabled =>
        rw [call, handle, disable_eq, broadcastSync_snd]
        intro hrunning
        cases hrunning
    | reset devices => exact h
    | query target => exact h

theorem scheduled_calls {m : Master σ τ} (h : m.Scheduled) {calls : List MasterCall}
    (hreturns : returnsAll w calls m = true) : (m.calls w calls).Scheduled := by
  induction calls generalizing m with
  | nil => exact h
  | cons first later ih =>
    rw [returnsAll, Bool.and_eq_true] at hreturns
    exact ih (scheduled_call h hreturns.1) hreturns.2

/-! ## While cycles run -/

/-- Cycles run, for the mode and the devices of `m`. -/
structure RunsAs (m m' : Master σ τ) : Prop where
  running : m'.running = true
  mode : m'.mode = m.mode
  registry : m'.registry = m.registry
  totalHarness : m'.totalHarness = m.totalHarness

theorem RunsAs.trans {m m' m'' : Master σ τ} (h : m.RunsAs m') (h' : m'.RunsAs m'') :
    m.RunsAs m'' :=
  ⟨h'.running, h'.mode.trans h.mode, h'.registry.trans h.registry,
    h'.totalHarness.trans h.totalHarness⟩

theorem runsAs_control {m : Master σ τ} (h : m.running = true) :
    m.RunsAs (m.control w .enabled).2 := by
  obtain ⟨-, hsame⟩ | ⟨-, hsame⟩ | ⟨-, -, due?, -, hstarted⟩ := enable_cases w m
  · rw [hsame]
    exact ⟨h, rfl, rfl, rfl⟩
  · rw [hsame]
    exact ⟨h, rfl, rfl, rfl⟩
  · rw [hstarted]
    exact ⟨rfl, rfl, rfl, rfl⟩

theorem runsAs_pollCycle {m : Master σ τ} (h : m.running = true) (now : Duration) :
    m.RunsAs (m.pollCycle w now).2 := by
  cases hdue : m.isDue now with
  | false =>
    rw [pollCycle_early w hdue]
    exact ⟨h, rfl, rfl, rfl⟩
  | true =>
    have hcollected := collect_snd w m
    obtain ⟨-, hbroken⟩ | ⟨count, -, ⟨e, -, hfailed⟩ | ⟨-, due?, -, hnext⟩⟩ := pollCycle_due w hdue
    · rw [hbroken, hcollected]
      exact ⟨h, rfl, rfl, rfl⟩
    · rw [hfailed, broadcastSync_snd, hcollected]
      exact ⟨h, rfl, rfl, rfl⟩
    · rw [hnext, broadcastSync_snd, hcollected]
      exact ⟨h, rfl, rfl, rfl⟩

/-- Only stopping the cycles ends them, and nothing else changes what they run for. -/
theorem runsAs_call {m : Master σ τ} (h : m.running = true) {call : MasterCall}
    (hcall : call ≠ .handle (.control .disabled)) : m.RunsAs (m.call w call) := by
  have hself : m.RunsAs m := ⟨h, rfl, rfl, rfl⟩
  cases call with
  | rest span => exact ⟨h, rfl, rfl, rfl⟩
  | poll now => exact runsAs_pollCycle h now
  | handle command =>
    cases command with
    | configure devices =>
      obtain hsame | ⟨hstopped, -⟩ := configure_cases w devices m
      · rwa [Master.call, handle, hsame]
      · rw [h] at hstopped
        cases hstopped
    | selectMode mode =>
      obtain ⟨-, hsame⟩ | ⟨hstopped, -⟩ := selectMode_cases mode m
      · rwa [Master.call, handle, hsame]
      · rw [h] at hstopped
        cases hstopped
    | control state =>
      cases state with
      | enabled => exact runsAs_control h
      | disabled => exact absurd rfl hcall
    | reset devices => exact ⟨h, rfl, rfl, rfl⟩
    | query target => exact ⟨h, rfl, rfl, rfl⟩

theorem runsAs_calls {m : Master σ τ} (h : m.running = true) {calls : List MasterCall}
    (hcalls : .handle (.control .disabled) ∉ calls) : m.RunsAs (m.calls w calls) := by
  induction calls generalizing m with
  | nil => exact ⟨h, rfl, rfl, rfl⟩
  | cons first later ih =>
    rw [List.mem_cons, not_or] at hcalls
    obtain ⟨hfirst, hlater⟩ := hcalls
    have hruns : m.RunsAs (m.call w first) := runsAs_call h (Ne.symm hfirst)
    exact hruns.trans (ih hruns.running hlater)

/-- What every run of calls on a new master keeps, whatever the links do. Only where a call is
broken off may cycles run whose end is not set. While cycles run, further calls that do not stop
them leave the mode and all that was configured alone. -/
theorem calls_consistent (w : Wiring σ τ) (c : Channel σ) (uplink? : Option (Staged τ))
    (epoch : Duration) (calls : List MasterCall) :
    let start : Master σ τ := { channel := c, uplink?, epoch }
    let m := start.calls w calls
    ((returnsAll w calls start = true → (m.running = true ↔ m.nextCycle?.isSome = true)) ∧
      (m.nextCycle?.isSome = true → m.running = true) ∧
      (m.syncOutstanding = true → m.running = true) ∧
      (m.running = true → m.registry ≠ []) ∧
      m.registry.length ≤ 256 ∧ m.registry.Pairwise fun d e => d.timeSlot < e.timeSlot) ∧
    (m.running = true → ∀ later : List MasterCall, .handle (.control .disabled) ∉ later →
      (m.calls w later).running = true ∧ (m.calls w later).mode = m.mode ∧
        (m.calls w later).registry = m.registry ∧
        (m.calls w later).totalHarness = m.totalHarness) := by
  intro start m
  have h : m.Consistent := (consistent_new c uplink? epoch).calls calls
  have hstart : start.Scheduled := fun hrunning => by cases hrunning
  refine ⟨⟨fun hreturns => ⟨scheduled_calls hstart hreturns, h.cycle⟩, h.cycle, h.outstanding,
    h.registered, h.size, h.slots⟩, ?_⟩
  intro hrunning later hlater
  have hruns : m.RunsAs (m.calls w later) := runsAs_calls hrunning hlater
  exact ⟨hruns.running, hruns.mode, hruns.registry, hruns.totalHarness⟩

end Master

end HarnessLink
