import HarnessLink.Proofs.Master.Dialogues

/-!
# Queries

A query pings its targets one after another, whatever becomes of each, and numbers its pings
on from those of earlier queries. What it reports of a target is told by the registry and by
what happened on the link while this target was pinged, so a device that is asked for twice
is pinged twice and may answer once. Only a wait whose end the clock cannot tell breaks it off.
-/
namespace HarnessLink

/-- The reply that a ping of the device waits for. -/
def Expectation.pongOf (id : DeviceId) : Expectation := ⟨⟨.slaveToMaster, 0x40⟩, some id⟩

/-- No other message than a pong has its kind. -/
theorem Message.eq_pong_of_kind {m : Message} (h : m.kind = ⟨.slaveToMaster, 0x40⟩) :
    ∃ ping, m = .slaveToMaster (.pong ping) := by
  obtain ⟨hdirection, hid⟩ := MessageKind.mk.inj h
  cases m with
  | slaveToMaster reply =>
    cases reply with
    | pong ping => exact ⟨ping, rfl⟩
    | _ => cases hid
  | _ => cases hdirection

/-- What is taken for the reply to a ping is a pong of the device. -/
theorem Expectation.isSome_pong_iff (id : DeviceId) (events : List LinkEvent) :
    ((pongOf id).answer? events).isSome = true ↔
      ∃ reply ping, (pongOf id).answer? events = some reply ∧
        reply.message = .slaveToMaster (.pong ping) ∧ reply.device? = some id := by
  rw [Option.isSome_iff_exists]
  constructor
  · rintro ⟨reply, hreply⟩
    obtain ⟨hkind, hdevice⟩ := admits_iff.mp (admits_of_findSome? hreply)
    obtain ⟨ping, hping⟩ := Message.eq_pong_of_kind hkind
    exact ⟨reply, ping, hreply, hping, hdevice id rfl⟩
  · rintro ⟨reply, -, hreply, -, -⟩
    exact ⟨reply, hreply⟩

namespace Master

variable {σ τ : Type}

/-! ## One target -/

/-- The entry tells what came of the ping with this number to the target at index `k`, with
what happened on the link for it. -/
structure Pinged (registry : List RegisteredDevice) (k : Nat) (number : UInt16) (id : DeviceId)
    (talk : List LinkEvent) (entry : DeviceEntry) : Prop where
  exchange : ∃ time, Exchange id (.ping ⟨number, time⟩) talk
  id_eq : entry.id = id
  online : entry.online = true ↔
    ∃ reply ping, (Expectation.pongOf id).answer? talk = some reply ∧
      reply.message = .slaveToMaster (.pong ping) ∧ reply.device? = some id
  registered : ∀ d, (registry.find? fun d => d.id = id) = some d → entry.shortId = d.timeSlot
  unregistered : (∀ d ∈ registry, d.id ≠ id) → entry.shortId.toNat = min 255 k

theorem shortId_of_unregistered {registry : List RegisteredDevice} {id : DeviceId}
    (h : ∀ d ∈ registry, d.id ≠ id) (k : Nat) : (shortId registry k id).toNat = min 255 k := by
  have hnone : (registry.find? fun d => d.id = id) = none :=
    List.find?_eq_none.mpr fun d hd => by simpa using h d hd
  rw [shortId, hnone]
  exact UInt8.toNat_ofNat_of_lt' (Nat.lt_succ_of_le (Nat.min_le_left 255 k))

/-- A ping is a request for the pong, and its result and the registry make the entry. -/
theorem ping_history (w : Wiring σ τ) (registry : List RegisteredDevice) (time : UInt32)
    {c : Channel (Recorded σ)} (hconfig : c.framer.config = {}) (k : Nat) (number : UInt16)
    (id : DeviceId) :
    ∃ result c' talk,
      c.request w.recorded.slaves w.recorded.channel (.masterToSlave (.ping ⟨number, time⟩))
        (.device id) (.pongOf id) = (result, c') ∧
      c.Adds c' talk ∧
      Pinged registry k number id talk
        ⟨id, shortId registry k id, result.toOption.isSome, 0, 0, 0⟩ := by
  obtain ⟨result, c', talk, hrequest, hadds, hexchange, hanswer⟩ := Channel.request_history
    w.slaves w.channel hconfig (.ping ⟨number, time⟩) id (.pongOf id)
  refine ⟨result, c', talk, hrequest, hadds, ⟨time, hexchange⟩, rfl, ?_, ?_, ?_⟩
  · rw [hanswer]
    exact Expectation.isSome_pong_iff id talk
  · intro d hd
    rw [shortId, hd]
  · exact fun h => shortId_of_unregistered h k

/-! ## One target after another -/

/-- Targets from index `k` on are pinged in turn, the first with the number after `last`. -/
inductive PingRun (registry : List RegisteredDevice) :
    Nat → UInt16 → List DeviceId → List (List LinkEvent) → List DeviceEntry → Prop
  | done {k : Nat} {last : UInt16} : PingRun registry k last [] [] []
  | ping {k : Nat} {last : UInt16} {id : DeviceId} {ids : List DeviceId} {talk : List LinkEvent}
      {talks : List (List LinkEvent)} {entry : DeviceEntry} {entries : List DeviceEntry}
      (first : Pinged registry k (last + 1) id talk entry)
      (next : PingRun registry (k + 1) (last + 1) ids talks entries) :
      PingRun registry k last (id :: ids) (talk :: talks) (entry :: entries)

namespace PingRun

variable {registry : List RegisteredDevice} {k : Nat} {last : UInt16} {ids : List DeviceId}
  {talks : List (List LinkEvent)} {entries : List DeviceEntry}

/-- No target is left out, and none is added. -/
theorem length_talks (h : PingRun registry k last ids talks entries) :
    talks.length = ids.length := by
  induction h with
  | done => rfl
  | ping _ _ ih => exact congrArg (· + 1) ih

theorem map_id (h : PingRun registry k last ids talks entries) :
    entries.map DeviceEntry.id = ids := by
  induction h with
  | done => rfl
  | ping first _ ih => rw [List.map_cons, first.id_eq, ih]

/-- The numbers of the pings count up from that of the first, and start over after the
largest word. -/
theorem pinged (h : PingRun registry k last ids talks entries) {i : Nat}
    {id : DeviceId} {talk : List LinkEvent} {entry : DeviceEntry} (hid : ids[i]? = some id)
    (htalk : talks[i]? = some talk) (hentry : entries[i]? = some entry) :
    ∃ number : UInt16, number.toNat = (last.toNat + (i + 1)) % 65536 ∧
      Pinged registry (k + i) number id talk entry := by
  induction h generalizing i with
  | done => cases hid
  | @ping k last _ ids _ talks _ entries first _ ih =>
    have hnext : (last + 1).toNat = (last.toNat + 1) % 65536 := UInt16.toNat_add last 1
    cases i with
    | zero =>
      obtain rfl := Option.some.inj hid
      obtain rfl := Option.some.inj htalk
      obtain rfl := Option.some.inj hentry
      exact ⟨last + 1, hnext, first⟩
    | succ i =>
      obtain ⟨number, hnumber, hpinged⟩ := ih hid htalk hentry
      refine ⟨number, by omega, ?_⟩
      rwa [Nat.add_right_comm, Nat.add_assoc] at hpinged

end PingRun

/-- Unless it is broken off, a query's pings are such a run, whatever the link does, and its two
lists are those of the same entries. -/
theorem pingEach_history (w : Wiring σ τ) (epoch : Duration) (registry : List RegisteredDevice)
    {c c' : Channel (Recorded σ)} (hconfig : c.framer.config = {}) {k : Nat} {ids : List DeviceId}
    {last number : UInt16} {unreachable : List DeviceId} {devices : List DeviceEntry}
    (hrun : pingEach w.recorded epoch registry k ids last c =
      (some (unreachable, devices), number, c')) :
    unreachable = (devices.filter fun d => !d.online).map DeviceEntry.id ∧
      number.toNat = (last.toNat + ids.length) % 65536 ∧
      ∃ talks, c.Adds c' talks.flatten ∧ PingRun registry k last ids talks devices := by
  induction ids generalizing c c' k last number unreachable devices with
  | nil =>
    cases hrun
    exact ⟨rfl, (Nat.mod_eq_of_lt last.toNat_lt).symm, [], .refl hconfig, .done⟩
  | cons id rest ih =>
    obtain ⟨result, c₁, talk, hping, hadds, hpinged⟩ :=
      ping_history w registry (timestamp w.recorded epoch c) hconfig k (last + 1) id
    rw [Expectation.pongOf] at hping
    simp only [pingEach, hping] at hrun
    split at hrun
    · cases hrun
    · rcases heach : pingEach w.recorded epoch registry (k + 1) rest (last + 1) c₁ with
        ⟨_ | ⟨unreachable', devices'⟩, number', c₂⟩
      all_goals simp only [heach] at hrun
      · cases hrun
      cases hrun
      obtain ⟨rfl, hnumber, talks, hlater, hpings⟩ := ih hadds.config heach
      have hnext : (last + 1).toNat = (last.toNat + 1) % 65536 := UInt16.toNat_add last 1
      refine ⟨?_, ?_, talk :: talks, hadds.trans hlater, .ping hpinged hpings⟩
      · rw [List.filter_cons]
        cases result.toOption.isSome <;> rfl
      · rw [List.length_cons]
        omega

/-- A query reports one entry for each target, in order, whatever state the master is in and
whatever the link to the slaves does, if the clock can tell the ends of the waits for replies.
Its channel has the usual framer, as channels are made with no other. The targets are pinged one
after another, with numbers that count on from the last ping before. An entry is online exactly
if a pong from its device was the reply to its own ping. It has the slot of the first device in
the registry with this id, or else its place in the list as far as a byte can tell it. The
unreachable devices are those of the other entries. Nothing but the channel and the number of the
last ping changes. The run is told by the record of the link, which changes nothing. -/
theorem query_history (w : Wiring σ τ) {m : Master (Recorded σ) τ}
    (hconfig : m.channel.framer.config = {}) (target : QueryTarget) :
    let run := m.query w.recorded target
    outcome run = m.plain.query w target ∧
    (w.slaves.Measures w.channel.responseTimeout m.plain.channel.link → run.1.isSome = true) ∧
    (∀ result, run.1 = some result →
      ∃ (talks : List (List LinkEvent)) (devices : List DeviceEntry),
        result = .queried ((devices.filter fun d => !d.online).map DeviceEntry.id) devices ∧
        run.2.history = m.history ++ talks.flatten ∧
        talks.length = (m.targets target).length ∧
        devices.map DeviceEntry.id = m.targets target ∧
        (∀ (k : Nat) (id : DeviceId) (talk : List LinkEvent) (entry : DeviceEntry),
          (m.targets target)[k]? = some id → talks[k]? = some talk → devices[k]? = some entry →
            ∃ number : UInt16, number.toNat = (m.pingSequence.toNat + (k + 1)) % 65536 ∧
              Pinged m.registry k number id talk entry) ∧
        run.2.pingSequence.toNat =
          (m.pingSequence.toNat + (m.targets target).length) % 65536) ∧
    run.2 = { m with channel := run.2.channel, pingSequence := run.2.pingSequence } := by
  intro run
  have hplain : outcome run = m.plain.query w target := handle_plain w (.query target) m
  refine ⟨hplain, fun hmeasured => ?_, fun result hresult => ?_, rfl⟩
  · rw [fst_of_outcome hplain]
    exact query_measured hmeasured target
  · rcases heach : pingEach w.recorded m.epoch m.registry 0 (m.targets target) m.pingSequence
      m.channel with ⟨reports?, number, c'⟩
    have hquery : run = (reports?.map fun reports => .queried reports.1 reports.2,
        { m with channel := c', pingSequence := number }) := by
      show m.query w.recorded target = _
      rw [query, heach]
    rw [hquery] at hresult ⊢
    obtain ⟨⟨unreachable, devices⟩, rfl, rfl⟩ := Option.map_eq_some_iff.mp hresult
    obtain ⟨rfl, hnumber, talks, hadds, hrun⟩ := pingEach_history w m.epoch m.registry hconfig heach
    refine ⟨talks, devices, rfl, hadds.history, hrun.length_talks, hrun.map_id, ?_, hnumber⟩
    intro k id talk entry hid htalk hentry
    obtain ⟨number, hnumber, hpinged⟩ := hrun.pinged hid htalk hentry
    rw [Nat.zero_add] at hpinged
    exact ⟨number, hnumber, hpinged⟩

/-- A query that names a device twice and another one that is not registered, two pings
before the numbers start over. -/
theorem query_history_repeated :
    let w : Wiring Medium Medium := { slaves := Medium.link, uplink := Medium.link }
    let m : Master (Recorded Medium) Medium :=
      { channel := { link := ⟨mediumOver [⟨1⟩], []⟩ }
        registry := [⟨⟨1⟩, 7, 4, 0⟩]
        pingSequence := 65534 }
    let run := m.query w.recorded (.devices [⟨1⟩, ⟨9⟩, ⟨1⟩])
    run.2.pingSequence = 1 ∧ ∃ devices : List DeviceEntry,
      run.1 = some (.queried ((devices.filter fun d => !d.online).map DeviceEntry.id) devices) ∧
      devices.map DeviceEntry.id = [⟨1⟩, ⟨9⟩, ⟨1⟩] ∧
      devices.map DeviceEntry.shortId = [7, 1, 7] := by
  intro w m run
  have hw : w.Prompt Medium.Plain := prompt_plain rfl (by decide) (by decide)
  obtain ⟨-, hreturns, hqueried, -⟩ :=
    query_history w (m := m) rfl (.devices [⟨1⟩, ⟨9⟩, ⟨1⟩])
  obtain ⟨result, hresult⟩ :=
    Option.isSome_iff_exists.mp (hreturns (hw.measures (atRest_mediumOver [⟨1⟩])))
  obtain ⟨talks, devices, rfl, -, htalks, hids, hpinged, hnumber⟩ := hqueried result hresult
  refine ⟨UInt16.toNat.inj (hnumber.trans (by simp [m, targets])), devices, hresult, hids, ?_⟩
  obtain ⟨t₀, t₁, t₂, rfl⟩ := List.length_eq_three.mp htalks
  have hlength : devices.length = 3 := (List.length_map _).symm.trans (congrArg List.length hids)
  obtain ⟨d₀, d₁, d₂, rfl⟩ := List.length_eq_three.mp hlength
  obtain ⟨_, -, h₀⟩ := hpinged 0 ⟨1⟩ t₀ d₀ rfl rfl rfl
  obtain ⟨_, -, h₁⟩ := hpinged 1 ⟨9⟩ t₁ d₁ rfl rfl rfl
  obtain ⟨_, -, h₂⟩ := hpinged 2 ⟨1⟩ t₂ d₂ rfl rfl rfl
  have hplace : d₁.shortId = 1 := UInt8.toNat.inj (h₁.unregistered (by simp [m]))
  simp [h₀.registered ⟨⟨1⟩, 7, 4, 0⟩ rfl, hplace, h₂.registered ⟨⟨1⟩, 7, 4, 0⟩ rfl]

/-- Where the clock cannot tell the end of a wait for a reply, a query is broken off at its first
target. It reports nothing, and no other target is pinged. -/
theorem query_endless {w : Wiring σ τ} {holds : σ → SlaveBus → List Bytes → Prop}
    (hlink : w.slaves.Lossless holds)
    (hclock : ∀ {s b waiting}, holds s b waiting →
      w.slaves.deadline? w.channel.responseTimeout s = none)
    {m : Master (Recorded σ) τ} {b : SlaveBus} (hrest : m.channel.plain.AtRest holds b)
    (first : DeviceId) (rest : List DeviceId) :
    (m.query w.recorded (.devices (first :: rest))).1 = none ∧
      ∃ events time, (m.query w.recorded (.devices (first :: rest))).2.history =
          m.history ++ events ∧
        Exchange first (.ping ⟨m.pingSequence + 1, time⟩) events := by
  let time := timestamp w.recorded m.epoch m.channel
  obtain ⟨c₁, hrequest⟩ := Channel.request_endless hlink hrest hclock
    (.ping ⟨m.pingSequence + 1, time⟩) first (.pongOf first)
  obtain ⟨result, c', events, hping, hadds, hexchange, -⟩ := Channel.request_history w.slaves
    w.channel (c := m.channel) hrest.config (.ping ⟨m.pingSequence + 1, time⟩) first (.pongOf first)
  have hplain := Channel.request_plain w.slaves w.channel
    (.masterToSlave (.ping ⟨m.pingSequence + 1, time⟩)) (.device first) (.pongOf first) m.channel
  rw [hping, hrequest] at hplain
  obtain rfl : result = .error .unmeasurable := congrArg Prod.fst hplain
  have hquery : m.query w.recorded (.devices (first :: rest)) =
      (none, { m with channel := c', pingSequence := m.pingSequence + 1 }) := by
    rw [Expectation.pongOf] at hping
    simp only [query, targets, pingEach, Wiring.recorded_slaves, Wiring.recorded_channel, time,
      hping]
    rfl
  rw [hquery]
  exact ⟨rfl, events, time, hadds.history, hexchange⟩

/-- Two devices are on the bus, and the second is never pinged. -/
theorem query_endless_wait :
    let w : Wiring Medium Medium :=
      { slaves := Medium.link, uplink := Medium.link,
        channel := { responseTimeout := .ofSeconds 18446744073709551615 } }
    let m : Master (Recorded Medium) Medium :=
      { channel := { link := ⟨mediumOver [⟨1⟩, ⟨2⟩], []⟩ } }
    let run := m.query w.recorded (.devices [⟨1⟩, ⟨2⟩])
    w.channel.responseTimeout.checked? = some w.channel.responseTimeout ∧ run.1 = none ∧
      ∀ event ∈ run.2.history, ∀ order, event.order? ≠ some (⟨2⟩, order) := by
  intro w m run
  obtain ⟨hbroken, events, time, hevents, hexchange⟩ := query_endless (w := w) (m := m)
    Medium.link_lossless (fun h => (Medium.deadline?_plain h _).trans (by decide))
    (atRest_mediumOver [⟨1⟩, ⟨2⟩]) ⟨1⟩ [⟨2⟩]
  refine ⟨by decide, hbroken, fun event hevent order horder => ?_⟩
  rw [hevents] at hevent
  have hsame : (⟨2⟩ : DeviceId) = ⟨1⟩ :=
    congrArg Prod.fst ((hexchange.carries event hevent).of_order? horder)
  exact absurd hsame (by decide)

end Master

end HarnessLink
