import HarnessLink.Proofs.Master.Sending

/-!
# Configuring devices one after another

Each device of a batch is configured by a few orders in turn, up to the first
that is not accepted. Over a lossless link the orders to one device change nobody's
place on the bus, so the outcome of a batch is the outcome of each device on its
own, unless the batch is broken off: it succeeds exactly if it is on the bus and the
reports of its windows fit the link. Orders that are not for everyone leave all other
slaves as they are, and the slaves of a batch of different devices then hold what
their own orders say.
-/
namespace HarnessLink

/-! ## Changes to some slaves of a bus -/

/-- The same slaves are on the bus, and those outside `changed` are as they were. -/
structure SlaveBus.SameOutside (changed : List DeviceId) (b b' : SlaveBus) : Prop where
  ids : b'.ids = b.ids
  others : ∀ id, id ∉ changed → b'.node? id = b.node? id

namespace SlaveBus.SameOutside

theorem refl (changed : List DeviceId) (b : SlaveBus) : SameOutside changed b b :=
  ⟨rfl, fun _ _ => rfl⟩

theorem mono {changed more : List DeviceId} {b b' : SlaveBus} (h : SameOutside changed b b')
    (hsub : changed ⊆ more) : SameOutside more b b' :=
  ⟨h.ids, fun id hid => h.others id fun hmem => hid (hsub hmem)⟩

theorem trans {changed : List DeviceId} {b b' b'' : SlaveBus} (h : SameOutside changed b b')
    (h' : SameOutside changed b' b'') : SameOutside changed b b'' := by
  refine ⟨h'.ids.trans h.ids, ?_⟩
  intro id hid
  rw [h'.others id hid, h.others id hid]

end SlaveBus.SameOutside

/-! ## Orders that configure -/

/-- The report of the window that the order sets up fits the link. -/
def MasterToSlave.Reportable : MasterToSlave → Prop
  | .configureConduction w => w.conductionLength ≤ maxReportLength
  | .configureResistance w => w.resistanceLength ≤ maxReportLength
  | _ => True

instance : DecidablePred MasterToSlave.Reportable
  | .configureConduction w => inferInstanceAs (Decidable (w.conductionLength ≤ maxReportLength))
  | .configureResistance w => inferInstanceAs (Decidable (w.resistanceLength ≤ maxReportLength))
  | .sync _ | .configureClip _ | .readConduction _ | .readResistance _ | .readClip _ | .reset _
  | .ping _ => isTrue trivial

/-- The slaves are reached over a lossless link, and a wait for a reply is a
positive span whose end the clock tells. -/
structure Wiring.Prompt {σ τ : Type} (w : Wiring σ τ) (holds : σ → SlaveBus → List Bytes → Prop) :
    Prop where
  lossless : w.slaves.Lossless holds
  positive : w.channel.responseTimeout ≠ .zero
  measurable : ∀ {s b waiting}, holds s b waiting →
    (w.slaves.deadline? w.channel.responseTimeout s).isSome = true

/-- The clock tells the end of every wait to come. -/
theorem Wiring.Prompt.measures {σ τ : Type} {w : Wiring σ τ}
    {holds : σ → SlaveBus → List Bytes → Prop} (hw : w.Prompt holds) {c : Channel σ} {b : SlaveBus}
    (h : c.AtRest holds b) : w.slaves.Measures w.channel.responseTimeout c.link := by
  intro s hleads
  obtain ⟨b', waiting, hs⟩ := hleads.keeps hw.lossless.keeps ⟨b, [], h.link⟩
  exact hw.measurable hs

namespace Master

variable {σ τ : Type} {w : Wiring σ τ} {holds : σ → SlaveBus → List Bytes → Prop}

/-- Every slave answers the order under its reply id, and accepts it exactly if it
can report what it sets up. -/
def Order.Acknowledged (order : Order) : Prop :=
  ∀ n : SlaveNode, ∃ reply, (n.obey order.message).2 = some (.slaveToMaster reply) ∧
    reply.id = order.replyId ∧ reply.blobLength = 0 ∧
    (reply.status? = some SlaveToMaster.accepted ↔ order.message.Reportable)

/-- An order whose answer tells by its status whether the report fits. -/
theorem Order.acknowledged_of_status {order : Order} (reply : UInt8 → SlaveToMaster)
    (haccepted : order.message.Reportable → ∀ n : SlaveNode,
      (n.obey order.message).2 = some (.slaveToMaster (reply SlaveToMaster.accepted)))
    (hrefused : ¬ order.message.Reportable → ∀ n : SlaveNode,
      (n.obey order.message).2 = some (.slaveToMaster (reply SlaveToMaster.refused)))
    (hid : ∀ status, (reply status).id = order.replyId)
    (hblob : ∀ status, (reply status).blobLength = 0)
    (hstatus : ∀ status, (reply status).status? = some status) : order.Acknowledged := by
  intro n
  by_cases h : order.message.Reportable
  · refine ⟨_, haccepted h n, hid _, hblob _, ?_⟩
    rw [hstatus]
    exact iff_of_true rfl h
  · refine ⟨_, hrefused h n, hid _, hblob _, ?_⟩
    rw [hstatus]
    exact iff_of_false (by decide) h

theorem conduction_acknowledged (window : TestWindow) :
    Order.Acknowledged ⟨.configureConduction window, 0x10⟩ := by
  apply Order.acknowledged_of_status fun status => .conductionInfo status window
  · intro h n
    exact congrArg Prod.snd (if_pos h)
  · intro h n
    exact congrArg Prod.snd (if_neg h)
  all_goals exact fun _ => rfl

theorem resistance_acknowledged (window : TestWindow) :
    Order.Acknowledged ⟨.configureResistance window, 0x11⟩ := by
  apply Order.acknowledged_of_status fun status => .resistanceInfo status window
  · intro h n
    exact congrArg Prod.snd (if_pos h)
  · intro h n
    exact congrArg Prod.snd (if_neg h)
  all_goals exact fun _ => rfl

theorem clip_acknowledged (setting : ClipSetting) :
    Order.Acknowledged ⟨.configureClip setting, 0x12⟩ := by
  apply Order.acknowledged_of_status fun status => .clipInfo status setting
  · intro _ n
    rfl
  · intro h n
    exact absurd trivial h
  all_goals exact fun _ => rfl

theorem PlannedDevice.orders_acknowledged (config : MasterConfig) (d : PlannedDevice) :
    ∀ order ∈ d.orders config, order.Acknowledged := by
  intro order horder
  rw [orders, List.mem_cons, List.mem_append, Option.mem_toList, Option.map_eq_some_iff] at horder
  obtain rfl | hresistance | ⟨setting, -, rfl⟩ := horder
  · exact conduction_acknowledged _
  · split at hresistance
    · obtain rfl := List.mem_singleton.mp hresistance
      exact resistance_acknowledged _
    · cases hresistance
  · exact clip_acknowledged _

/-! ## One device -/

section Orders

variable (hlink : w.slaves.Lossless holds) (hpos : w.channel.responseTimeout ≠ .zero)
variable {c c' : Channel σ} {b : SlaveBus} (h : c.AtRest holds b) (hids : b.ids.Nodup)
variable {result : Except NodeError Unit}

include hlink hpos h hids

/-- An order to a slave of the bus is carried out, and it succeeds if the slave can
report what it sets up. -/
theorem acknowledged_of_node {id : DeviceId} {n : SlaveNode} (hn : b.node? id = some n)
    {order : Order} (horder : order.Acknowledged) (hrun : acknowledged w id order c = (result, c'))
    (hreturns : NodeError.breaksOff result = false) :
    c'.AtRest holds (b.deliver id order.message) ∧
      (result = .ok () ↔ order.message.Reportable) := by
  obtain ⟨reply, hreply, hreplyId, hblob, hstatus⟩ := horder n
  have hadmits : Expectation.admits ⟨⟨.slaveToMaster, order.replyId⟩, some id⟩
      ⟨.device id, .slaveToMaster reply⟩ = true := by
    simp [Expectation.admits, Envelope.kind, Message.kind, Message.direction, Message.id,
      Envelope.device?, Address.id?, hreplyId]
  obtain ⟨answer, c₁, hrequest, hanswer⟩ :=
    Channel.request_order_answered hlink h hpos hids hn hreply hblob hadmits
  rw [acknowledged, hrequest] at hrun
  cases answer with
  | error e =>
    obtain ⟨rfl, rfl⟩ := Prod.mk.inj hrun
    cases (hanswer (by simpa using hreturns)).1
  | ok answer =>
    obtain ⟨hanswer, hc₁⟩ := hanswer rfl
    cases hanswer
    have hresult : ((if reply.status? = some SlaveToMaster.accepted then .ok ()
        else .error (.rejected id order.message.name reply.status?)), c₁) = (result, c') := by
      rw [← hrun, apply_ite (Prod.mk · c₁)]
      rfl
    obtain ⟨rfl, rfl⟩ := Prod.mk.inj hresult
    refine ⟨hc₁, ?_⟩
    rw [← hstatus]
    split
    · next haccepted => exact iff_of_true rfl haccepted
    · next hrejected => exact iff_of_false (fun herror => by cases herror) hrejected

/-- An order to a device that is not there fails. -/
theorem acknowledged_absent {id : DeviceId} (habsent : id ∉ b.ids) {order : Order}
    (hrun : acknowledged w id order c = (result, c'))
    (hreturns : NodeError.breaksOff result = false) :
    (∃ e, result = .error e) ∧ c'.AtRest holds (b.deliver id order.message) := by
  obtain ⟨answer, c₁, hrequest, hanswer⟩ := Channel.request_order_absent hlink h hpos hids habsent
    order.message ⟨⟨.slaveToMaster, order.replyId⟩, some id⟩
  rw [acknowledged, hrequest] at hrun
  cases answer with
  | error e =>
    obtain ⟨rfl, rfl⟩ := Prod.mk.inj hrun
    exact ⟨⟨e, rfl⟩, (hanswer (by simpa using hreturns)).2⟩
  | ok answer => cases (hanswer rfl).1

end Orders

/-- The slave after it carried out orders. -/
def carriedOut (orders : List Order) (n : SlaveNode) : SlaveNode :=
  orders.foldl (fun n order => (n.obey order.message).1) n

/-- The bus after orders to a device. -/
def delivered (id : DeviceId) (orders : List Order) (b : SlaveBus) : SlaveBus :=
  orders.foldl (fun b order => b.deliver id order.message) b

@[simp] theorem ids_delivered (id : DeviceId) (orders : List Order) (b : SlaveBus) :
    (delivered id orders b).ids = b.ids := by
  induction orders generalizing b with
  | nil => rfl
  | cons order rest ih => exact (ih _).trans (b.ids_deliver id order.message)

/-- The slaves that orders reach carry them out in turn. -/
theorem node?_delivered (id : DeviceId) (orders : List Order) (b : SlaveBus) (k : DeviceId) :
    (delivered id orders b).node? k =
      if id.Reaches k then (b.node? k).map (carriedOut orders) else b.node? k := by
  induction orders generalizing b with
  | nil =>
    have hnothing : (b.node? k).map (carriedOut []) = b.node? k := Option.map_id'
    rw [hnothing, ite_self]
    rfl
  | cons order rest ih =>
    have hrest : (delivered id (order :: rest) b).node? k = _ := ih (b.deliver id order.message)
    rw [hrest, SlaveBus.node?_deliver]
    by_cases h : id.Reaches k
    · rw [if_pos h, if_pos h, if_pos h, Option.map_map]
      rfl
    · rw [if_neg h, if_neg h, if_neg h]

/-- Orders to one device. -/
theorem sameOutside_delivered {id : DeviceId} (hid : id.isBroadcast = false) (orders : List Order)
    (b : SlaveBus) : SlaveBus.SameOutside [id] b (delivered id orders b) := by
  refine ⟨ids_delivered id orders b, ?_⟩
  intro k hk
  have hreaches : ¬ id.Reaches k := by
    rintro (rfl | hbroadcast)
    · exact hk (List.mem_singleton_self id)
    · rw [hid] at hbroadcast
      cases hbroadcast
  rw [node?_delivered, if_neg hreaches]

/-- Of the orders to a device, these went out: the first in any case, and all of them
if they succeed. -/
structure GoesOut (orders : List Order) (succeeds : Prop) (sent : List Order) : Prop where
  front : sent <+: orders
  begun : orders ≠ [] → sent ≠ []
  complete : succeeds → sent = orders

section Orders

variable (hlink : w.slaves.Lossless holds) (hpos : w.channel.responseTimeout ≠ .zero)

include hlink hpos

/-- Orders to a slave of the bus succeed if it can report what each of them sets up. -/
theorem acknowledgedAll_of_node {c c' : Channel σ} {b : SlaveBus} (h : c.AtRest holds b)
    (hids : b.ids.Nodup) {id : DeviceId} {n : SlaveNode} (hn : b.node? id = some n)
    {orders : List Order} (horders : ∀ order ∈ orders, order.Acknowledged)
    {result : Except NodeError Unit} (hrun : acknowledgedAll w id orders c = (result, c'))
    (hreturns : NodeError.breaksOff result = false) :
    ∃ sent, c'.AtRest holds (delivered id sent b) ∧ GoesOut orders (result = .ok ()) sent ∧
      (result = .ok () ↔ ∀ order ∈ orders, order.message.Reportable) := by
  induction orders generalizing c b n with
  | nil =>
    obtain ⟨rfl, rfl⟩ := Prod.mk.inj hrun
    exact ⟨[], h, ⟨List.prefix_rfl, fun hne => hne, fun _ => rfl⟩, by simp⟩
  | cons order rest ih =>
    rcases hfirst : acknowledged w id order c with ⟨first, c₁⟩
    have horder := horders order (List.mem_cons_self ..)
    rw [acknowledgedAll, hfirst] at hrun
    cases first with
    | error e =>
      obtain ⟨rfl, rfl⟩ := Prod.mk.inj hrun
      obtain ⟨hc₁, hresult⟩ :=
        acknowledged_of_node hlink hpos h hids hn horder hfirst hreturns
      refine ⟨[order], hc₁, ⟨?_, fun _ => List.cons_ne_nil _ _, ?_⟩, iff_of_false ?_ ?_⟩
      · exact (List.prefix_cons_inj order).mpr (List.nil_prefix)
      · intro herror
        cases herror
      · intro herror
        cases herror
      · intro hall
        cases hresult.mpr (hall order (List.mem_cons_self ..))
    | ok =>
      obtain ⟨hc₁, hresult⟩ := acknowledged_of_node hlink hpos h hids hn horder hfirst rfl
      have hreport := hresult.mp rfl
      have hn₁ : (b.deliver id order.message).node? id = some (n.obey order.message).1 := by
        rw [SlaveBus.node?_deliver, if_pos id.reaches_self, hn]
        rfl
      obtain ⟨sent, hc', hsent, hresult'⟩ :=
        ih hc₁ (by rw [SlaveBus.ids_deliver]; exact hids) hn₁
          (fun order' horder' => horders order' (List.mem_cons_of_mem order horder')) hrun
      refine ⟨order :: sent, hc',
        ⟨(List.prefix_cons_inj order).mpr hsent.front, fun _ => List.cons_ne_nil _ _,
          fun hok => congrArg (order :: ·) (hsent.complete hok)⟩, ?_⟩
      rw [hresult', List.forall_mem_cons, and_iff_right hreport]

end Orders

/-- The device is on the bus and can report what each of its orders sets up. -/
def PlannedDevice.Succeeds (config : MasterConfig) (b : SlaveBus) (d : PlannedDevice) : Prop :=
  d.setup.id ∈ b.ids ∧ ∀ order ∈ d.orders config, order.message.Reportable

instance (config : MasterConfig) (b : SlaveBus) : DecidablePred (PlannedDevice.Succeeds config b) :=
  fun _ => inferInstanceAs (Decidable (_ ∧ _))

/-- The conduction window comes first, and without an answer to it nothing else is sent. -/
theorem acknowledgedAll_orders_error {d : PlannedDevice} {c c' : Channel σ} {e : NodeError}
    (h : c.request w.slaves w.channel
      (.masterToSlave (.configureConduction
        (windowOf (intervalByte w.config.conductionInterval) d.conduction)))
      (.device d.setup.id) ⟨⟨.slaveToMaster, 0x10⟩, some d.setup.id⟩ = (.error e, c')) :
    acknowledgedAll w d.setup.id (d.orders w.config) c = (.error e, c') := by
  rw [PlannedDevice.orders, acknowledgedAll, acknowledged, h]

/-- The orders of one device succeed exactly for a device on the bus that can report
what they set up. The first of them goes out whether it is there or not. -/
theorem acknowledgedAll_orders (hlink : w.slaves.Lossless holds)
    (hpos : w.channel.responseTimeout ≠ .zero) {c c' : Channel σ} {b : SlaveBus}
    (h : c.AtRest holds b) (hids : b.ids.Nodup) (d : PlannedDevice)
    {result : Except NodeError Unit}
    (hrun : acknowledgedAll w d.setup.id (d.orders w.config) c = (result, c'))
    (hreturns : NodeError.breaksOff result = false) :
    ∃ sent, c'.AtRest holds (delivered d.setup.id sent b) ∧
      GoesOut (d.orders w.config) (d.Succeeds w.config b) sent ∧
      (result = .ok () ↔ d.Succeeds w.config b) := by
  by_cases hmem : d.setup.id ∈ b.ids
  · have hsome : b.node? d.setup.id ≠ none := fun hnone => SlaveBus.node?_eq_none.mp hnone hmem
    obtain ⟨n, hn⟩ := Option.ne_none_iff_exists'.mp hsome
    obtain ⟨sent, hc', hsent, hresult⟩ := acknowledgedAll_of_node hlink hpos h hids hn
      (d.orders_acknowledged w.config) hrun hreturns
    have hsucceeds : result = .ok () ↔ d.Succeeds w.config b := by
      rw [hresult, PlannedDevice.Succeeds, and_iff_right hmem]
    exact ⟨sent, hc',
      ⟨hsent.front, hsent.begun, fun hs => hsent.complete (hsucceeds.mpr hs)⟩, hsucceeds⟩
  · have hfails : ¬ d.Succeeds w.config b := fun hs => hmem hs.1
    let first : Order :=
      ⟨.configureConduction (windowOf (intervalByte w.config.conductionInterval) d.conduction), 0x10⟩
    rcases hfirst : acknowledged w d.setup.id first c with ⟨answer, c₁⟩
    rw [PlannedDevice.orders, acknowledgedAll, hfirst] at hrun
    have habsent := fun hgoesOn => acknowledged_absent hlink hpos h hids hmem hfirst hgoesOn
    cases answer with
    | error e =>
      obtain ⟨rfl, rfl⟩ := Prod.mk.inj hrun
      refine ⟨[first], (habsent hreturns).2, ⟨?_, fun _ => List.cons_ne_nil _ _,
        fun hs => absurd hs hfails⟩, iff_of_false ?_ hfails⟩
      · exact (List.prefix_cons_inj first).mpr List.nil_prefix
      · intro herror
        cases herror
    | ok =>
      obtain ⟨e, he⟩ := (habsent rfl).1
      cases he

/-! ## A batch -/

/-- The orders of a batch go out device by device, whatever becomes of the others. -/
inductive Deliveries (config : MasterConfig) : List PlannedDevice → SlaveBus → SlaveBus → Prop
  | done {b : SlaveBus} : Deliveries config [] b b
  | next {d : PlannedDevice} {rest : List PlannedDevice} {b b' : SlaveBus} {sent : List Order}
      (hsent : GoesOut (d.orders config) (d.Succeeds config b) sent)
      (later : Deliveries config rest (delivered d.setup.id sent b) b') :
      Deliveries config (d :: rest) b b'

/-- Whether a device succeeds depends on who is on the bus, and not on what they hold. -/
theorem PlannedDevice.succeeds_delivered {config : MasterConfig} {id : DeviceId}
    {orders : List Order} {b : SlaveBus} {d : PlannedDevice} :
    d.Succeeds config (delivered id orders b) ↔ d.Succeeds config b := by
  rw [Succeeds, Succeeds, ids_delivered]

/-- The devices of a batch fail or are registered as if each were the only one. -/
theorem configureEach_lossless (hlink : w.slaves.Lossless holds)
    (hpos : w.channel.responseTimeout ≠ .zero) {c c' : Channel σ} {b : SlaveBus}
    (h : c.AtRest holds b) (hids : b.ids.Nodup) {batch : List PlannedDevice}
    {failed : List DeviceId} {registry : List RegisteredDevice}
    (hrun : configureEach w batch c = (some (failed, registry), c')) :
    failed = (batch.filter fun d => ¬ d.Succeeds w.config b).map (fun d => d.setup.id) ∧
      registry = (batch.filter fun d => d.Succeeds w.config b).map PlannedDevice.registered ∧
      ∃ b', c'.AtRest holds b' ∧ Deliveries w.config batch b b' := by
  induction batch generalizing c c' b failed registry with
  | nil =>
    cases hrun
    exact ⟨rfl, rfl, b, h, .done⟩
  | cons d rest ih =>
    rcases hfirst : acknowledgedAll w d.setup.id (d.orders w.config) c with ⟨result, c₁⟩
    simp only [configureEach, hfirst] at hrun
    split at hrun
    · cases hrun
    · next hreturns =>
      rw [Bool.not_eq_true] at hreturns
      obtain ⟨sent, hc₁, hsent, hresult⟩ :=
        acknowledgedAll_orders hlink hpos h hids d hfirst hreturns
      rcases heach : configureEach w rest c₁ with ⟨_ | ⟨failed', registry'⟩, c₂⟩
      all_goals simp only [heach] at hrun
      · cases hrun
      obtain ⟨rfl, rfl, b', hc₂, hlater⟩ := ih hc₁ (by rwa [ids_delivered]) heach
      simp only [PlannedDevice.succeeds_delivered] at hrun
      cases result with
      | error e =>
        have hd : ¬ d.Succeeds w.config b := fun hs => by cases hresult.mpr hs
        cases hrun
        rw [List.filter_cons_of_pos (by simpa using hd), List.filter_cons_of_neg (by simpa using hd)]
        exact ⟨rfl, rfl, b', hc₂, .next hsent hlater⟩
      | ok =>
        have hd : d.Succeeds w.config b := hresult.mp rfl
        cases hrun
        rw [List.filter_cons_of_neg (by simpa using hd), List.filter_cons_of_pos (by simpa using hd)]
        exact ⟨rfl, rfl, b', hc₂, .next hsent hlater⟩

/-- If no wait is too long for the clock, a batch is never broken off. -/
theorem configureEach_prompt (hw : w.Prompt holds) {c : Channel σ} {b : SlaveBus}
    (h : c.AtRest holds b) (hids : b.ids.Nodup) (batch : List PlannedDevice) :
    ∃ c' b', configureEach w batch c =
        (some ((batch.filter fun d => ¬ d.Succeeds w.config b).map fun d => d.setup.id,
          (batch.filter fun d => d.Succeeds w.config b).map PlannedDevice.registered), c') ∧
      c'.AtRest holds b' ∧ Deliveries w.config batch b b' := by
  have hreturns := configureEach_measured (hw.measures h) batch
  rcases heach : configureEach w batch c with ⟨_ | ⟨failed, registry⟩, c'⟩
  · rw [heach] at hreturns
    cases hreturns
  · obtain ⟨rfl, rfl, b', hc', hdeliveries⟩ :=
      configureEach_lossless hw.lossless hw.positive h hids heach
    exact ⟨c', b', rfl, hc', hdeliveries⟩

namespace Deliveries

variable {config : MasterConfig} {batch : List PlannedDevice} {b b' : SlaveBus}

/-- What is outside a batch stays as it was. -/
theorem sameOutside (h : Deliveries config batch b b')
    (hbatch : ∀ d ∈ batch, d.setup.id.isBroadcast = false) :
    b.SameOutside (batch.map fun d => d.setup.id) b' := by
  induction h with
  | done => exact .refl [] _
  | @next d rest b b' sent hsent later ih =>
    have hfirst := sameOutside_delivered (hbatch d (List.mem_cons_self ..)) sent b
    have hrest := ih fun d' hd' => hbatch d' (List.mem_cons_of_mem d hd')
    have hhead : [d.setup.id] ⊆ d.setup.id :: rest.map fun d => d.setup.id :=
      List.cons_subset_cons _ (List.nil_subset _)
    exact (hfirst.mono hhead).trans (hrest.mono (List.subset_cons_self _ _))

/-- In a batch of different devices each that succeeds carries out its own orders. -/
theorem node?_of_succeeds (h : Deliveries config batch b b')
    (hdistinct : (batch.map fun d => d.setup.id).Nodup)
    (hbatch : ∀ d ∈ batch, d.setup.id.isBroadcast = false) {d : PlannedDevice} (hd : d ∈ batch)
    (hs : d.Succeeds config b) :
    ∃ n, b.node? d.setup.id = some n ∧
      b'.node? d.setup.id = some (carriedOut (d.orders config) n) := by
  induction h with
  | done => cases hd
  | @next first rest b b' sent hsent later ih =>
    rw [List.map_cons, List.nodup_cons] at hdistinct
    obtain ⟨hnew, hrest⟩ := hdistinct
    have hlater := fun d' hd' => hbatch d' (List.mem_cons_of_mem first hd')
    obtain rfl | hd := List.mem_cons.mp hd
    · have hsome : b.node? d.setup.id ≠ none := fun hnone => SlaveBus.node?_eq_none.mp hnone hs.1
      obtain ⟨n, hn⟩ := Option.ne_none_iff_exists'.mp hsome
      refine ⟨n, hn, ?_⟩
      rw [(later.sameOutside hlater).others _ hnew, node?_delivered, if_pos d.setup.id.reaches_self,
        hn, hsent.complete hs]
      rfl
    · have hne : d.setup.id ∉ [first.setup.id] := by
        rw [List.mem_singleton]
        intro heq
        apply hnew
        rw [← heq]
        exact List.mem_map_of_mem hd
      have hsame := sameOutside_delivered (hbatch first (List.mem_cons_self ..)) sent b
      rw [← hsame.others _ hne]
      exact ih hrest hlater hd (PlannedDevice.succeeds_delivered.mpr hs)

end Deliveries

/-- What is outside a batch stays as it was, the devices of the batch fail or are
registered as if each were the only one, and the slaves of those that are registered
carried out their orders. -/
theorem configureEach_spec (hw : w.Prompt holds) {c : Channel σ} {b : SlaveBus}
    (h : c.AtRest holds b) (hids : b.ids.Nodup) {batch : List PlannedDevice}
    (hdistinct : (batch.map fun d => d.setup.id).Nodup)
    (hbatch : ∀ d ∈ batch, d.setup.id.isBroadcast = false) :
    ∃ c' b', configureEach w batch c =
        (some ((batch.filter fun d => ¬ d.Succeeds w.config b).map fun d => d.setup.id,
          (batch.filter fun d => d.Succeeds w.config b).map PlannedDevice.registered), c') ∧
      c'.AtRest holds b' ∧ b.SameOutside (batch.map fun d => d.setup.id) b' ∧
      ∀ d ∈ batch, d.Succeeds w.config b → ∃ n, b.node? d.setup.id = some n ∧
        b'.node? d.setup.id = some (carriedOut (d.orders w.config) n) := by
  obtain ⟨c', b', heach, hc', hdeliveries⟩ := configureEach_prompt hw h hids batch
  exact ⟨c', b', heach, hc', hdeliveries.sameOutside hbatch,
    fun _ hd hs => hdeliveries.node?_of_succeeds hdistinct hbatch hd hs⟩

end Master

end HarnessLink
