import HarnessLink.Link.Medium

/-!
# Links that lose nothing

A lossless link hands every transmission to the slaves of a bus as one piece and
returns each of their answers as one piece, in order and at once. What it does is
told by a relation between the states of the link, the bus behind it and the
answers that wait, so that any transport of this kind is meant. A medium without
a plan, noise or cuts is one.
-/
namespace HarnessLink

/-- `holds s b waiting` says that in the state `s` the bus behind the link is `b`
and the answers `waiting` have not been received. -/
structure Link.Lossless {σ : Type} (behavior : Link σ)
    (holds : σ → SlaveBus → List Bytes → Prop) : Prop where
  transmit : ∀ {s b waiting}, holds s b waiting → ∀ bytes,
    ∃ s', behavior.transmit bytes s = (.ok (), s') ∧
      holds s' (b.receive bytes).2 (waiting ++ (b.receive bytes).1)
  receive_answer : ∀ {s b answer waiting}, holds s b (answer :: waiting) → ∀ timeout,
    ∃ s', behavior.receive timeout s = (.ok (some answer), s') ∧ holds s' b waiting
  receive_nothing : ∀ {s b}, holds s b [] → ∀ timeout,
    ∃ s', behavior.receive timeout s = (.ok none, s') ∧ holds s' b []
  watch : ∀ {s b waiting}, holds s b waiting → ∀ phase, holds (behavior.watch phase s) b waiting

/-- Whatever is asked of the link, its state keeps a property. -/
structure Link.Keeps {σ : Type} (behavior : Link σ) (p : σ → Prop) : Prop where
  transmit : ∀ {s s' bytes result}, p s → behavior.transmit bytes s = (result, s') → p s'
  receive : ∀ {s s' timeout result}, p s → behavior.receive timeout s = (result, s') → p s'
  watch : ∀ {s}, p s → ∀ phase, p (behavior.watch phase s)

/-- The states that uses of the link can lead to. -/
inductive Link.Leads {σ : Type} (behavior : Link σ) (s : σ) : σ → Prop
  | refl : Leads behavior s s
  | transmit {s₁ s₂ : σ} {bytes : Bytes} {result : Except LinkError Unit}
      (before : Leads behavior s s₁) (last : behavior.transmit bytes s₁ = (result, s₂)) :
      Leads behavior s s₂
  | receive {s₁ s₂ : σ} {timeout : Duration} {result : Except LinkError (Option Bytes)}
      (before : Leads behavior s s₁) (last : behavior.receive timeout s₁ = (result, s₂)) :
      Leads behavior s s₂
  | watch {s₁ : σ} (before : Leads behavior s s₁) (phase : Phase) :
      Leads behavior s (behavior.watch phase s₁)

/-- Whatever the link is used for, its clock can tell the end of a span that starts then. -/
def Link.Measures {σ : Type} (behavior : Link σ) (span : Duration) (s : σ) : Prop :=
  ∀ s', behavior.Leads s s' → (behavior.deadline? span s').isSome = true

section Leads

variable {σ : Type} {behavior : Link σ} {s s₁ s₂ : σ}

theorem Link.Leads.keeps (h : behavior.Leads s s₁) {p : σ → Prop} (hlink : behavior.Keeps p)
    (hp : p s) : p s₁ := by
  induction h with
  | refl => exact hp
  | transmit _ last ih => exact hlink.transmit ih last
  | receive _ last ih => exact hlink.receive ih last
  | watch _ phase ih => exact hlink.watch ih phase

theorem Link.keeps_leads (behavior : Link σ) (s : σ) : behavior.Keeps (behavior.Leads s) where
  transmit h last := h.transmit last
  receive h last := h.receive last
  watch h phase := h.watch phase

theorem Link.Leads.trans (h : behavior.Leads s s₁) (h' : behavior.Leads s₁ s₂) :
    behavior.Leads s s₂ :=
  h'.keeps (behavior.keeps_leads s) h

theorem Link.Measures.after {span : Duration} (h : behavior.Measures span s)
    (hleads : behavior.Leads s s₁) : behavior.Measures span s₁ :=
  fun s₂ h₂ => h s₂ (hleads.trans h₂)

/-- What holds wherever the link leads goes on doing so. -/
theorem Link.keeps_always (behavior : Link σ) (p : σ → Prop) :
    behavior.Keeps fun s => ∀ s', behavior.Leads s s' → p s' where
  transmit h last s' hleads := h s' (.trans (.transmit .refl last) hleads)
  receive h last s' hleads := h s' (.trans (.receive .refl last) hleads)
  watch h phase s' hleads := h s' (.trans (.watch .refl phase) hleads)

theorem Link.Measures.now {span : Duration} (h : behavior.Measures span s) :
    ∃ due, behavior.deadline? span s = some due :=
  Option.isSome_iff_exists.mp (h s .refl)

end Leads

/-- There is always a bus behind a lossless link. -/
theorem Link.Lossless.keeps {σ : Type} {behavior : Link σ}
    {holds : σ → SlaveBus → List Bytes → Prop} (hlink : behavior.Lossless holds) :
    behavior.Keeps fun s => ∃ b waiting, holds s b waiting where
  transmit := by
    rintro s s' bytes result ⟨b, waiting, h⟩ heq
    obtain ⟨s'', htransmit, hs⟩ := hlink.transmit h bytes
    obtain ⟨-, rfl⟩ := Prod.mk.inj (htransmit.symm.trans heq)
    exact ⟨_, _, hs⟩
  receive := by
    rintro s s' timeout result ⟨b, waiting, h⟩ heq
    cases waiting with
    | nil =>
      obtain ⟨s'', hreceive, hs⟩ := hlink.receive_nothing h timeout
      obtain ⟨-, rfl⟩ := Prod.mk.inj (hreceive.symm.trans heq)
      exact ⟨_, _, hs⟩
    | cons answer waiting =>
      obtain ⟨s'', hreceive, hs⟩ := hlink.receive_answer h timeout
      obtain ⟨-, rfl⟩ := Prod.mk.inj (hreceive.symm.trans heq)
      exact ⟨_, _, hs⟩
  watch := by
    rintro s ⟨b, waiting, h⟩ phase
    exact ⟨b, waiting, hlink.watch h phase⟩

namespace Medium

/-- The medium delivers everything whole and at once, and never hangs up. -/
structure Plain (m : Medium) (b : SlaveBus) (waiting : List Bytes) : Prop where
  bus : m.bus = b
  inbox : m.inbox = waiting.map .ok
  late : m.late = []
  plan : m.plan = []
  noise : m.noise = []
  pieceSize : m.pieceSize = 0
  staysUp : m.hangsUpAfterSync = false
  isUp : m.hungUp = false
  /-- No time passes. -/
  still : m.time = .zero

/-- On a plain medium every wait starts at the time zero. -/
theorem deadline?_plain {m : Medium} {b : SlaveBus} {waiting : List Bytes}
    (h : m.Plain b waiting) (span : Duration) :
    link.deadline? span m = Duration.zero.deadline? span :=
  congrArg (Duration.deadline? · span) h.still

/-- No time passes on a medium while it is used. -/
theorem keeps_time (now : Duration) : link.Keeps fun m => m.time = now where
  transmit := by
    rintro m m' bytes result h heq
    obtain rfl : (m.transmit bytes).2 = m' := congrArg Prod.snd heq
    rw [transmit]
    split
    · exact h
    · dsimp only
      split <;> exact h
  receive := by
    rintro m m' timeout result h heq
    obtain rfl : m.receive.2 = m' := congrArg Prod.snd heq
    rw [receive]
    split <;> exact h
  watch h _ := h

theorem arriving_whole (answers : List Bytes) :
    answers.flatMap (arriving .delivered 0) = answers := by
  induction answers with
  | nil => rfl
  | cons answer rest ih =>
    have hpieces : pieces 0 answer = [answer] := by
      rw [pieces, if_pos (Or.inl rfl)]
    rw [List.flatMap_cons, ih]
    show pieces 0 answer ++ rest = _
    rw [hpieces]
    rfl

theorem deferred_nothing (answers : List Bytes) :
    answers.flatMap (deferred .delivered 0) = [] := by
  rw [List.flatMap_eq_nil_iff]
  intro answer _
  rfl

/-- A plain medium loses nothing. -/
theorem link_lossless : link.Lossless Plain where
  transmit := by
    intro m b waiting h bytes
    obtain ⟨bus, inbox, late, plan, noise, pieceSize, sent, hangsUpAfterSync, hungUp, time⟩ := m
    obtain ⟨rfl, rfl, rfl, rfl, rfl, rfl, rfl, rfl, rfl⟩ := h
    refine ⟨_, rfl, ?_⟩
    constructor
    · rfl
    · show (List.map Except.ok waiting ++ List.map _ []) ++
        List.map Except.ok ([] ++ (bus.receive bytes).1.flatMap (arriving .delivered 0)) = _
      rw [arriving_whole, List.map_nil, List.append_nil, List.nil_append, List.map_append]
    · show [] ++ (bus.receive bytes).1.flatMap (deferred .delivered 0) = _
      rw [deferred_nothing]
      rfl
    · rfl
    · rfl
    · rfl
    · rfl
    · rfl
    · rfl
  receive_answer := by
    intro m b answer waiting h timeout
    have hinbox := h.inbox
    rw [List.map_cons] at hinbox
    refine ⟨{ m with inbox := waiting.map .ok }, ?_, ?_⟩
    · show m.receive = _
      rw [receive, hinbox]
    · exact { h with inbox := rfl }
  receive_nothing := by
    intro m b h timeout
    refine ⟨m, ?_, h⟩
    show m.receive = _
    rw [receive, h.inbox, h.isUp]
    rfl
  watch := by
    intro m b waiting h phase
    exact h

end Medium

end HarnessLink
