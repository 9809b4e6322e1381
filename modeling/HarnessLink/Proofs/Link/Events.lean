import HarnessLink.Link.Basic

/-!
# What happens on a link

A recorded link does what the link does and writes down each call with its outcome, so
that what a user asks of a link, and what the link brings, can be read off. What waits on
a link is told by reading it without waiting.
-/
namespace HarnessLink

/-- A call on a link and what came of it. -/
inductive LinkEvent where
  | transmitted (bytes : Bytes) (result : Except LinkError Unit)
  | received (timeout : Duration) (result : Except LinkError (Option Bytes))

namespace LinkEvent

/-- The bytes that were given to the link, whether it took them or not. -/
def sent? : LinkEvent → Option Bytes
  | transmitted bytes _ => some bytes
  | received _ _ => none

/-- The piece that arrived. -/
def arrived? : LinkEvent → Option Bytes
  | received _ (.ok (some piece)) => some piece
  | _ => none

/-- Something was waited for. -/
def isWait : LinkEvent → Bool
  | received timeout _ => timeout ≠ .zero
  | transmitted _ _ => false

/-- All transmissions, in order. -/
def sent (events : List LinkEvent) : List Bytes := events.filterMap sent?

/-- All pieces that arrived, in order. -/
def arrived (events : List LinkEvent) : List Bytes := events.filterMap arrived?

/-- What happened before the first transmission. -/
def beforeSending (events : List LinkEvent) : List LinkEvent :=
  events.takeWhile fun event => event.sent?.isNone

/-- What happened from the first transmission on. -/
def sinceSending (events : List LinkEvent) : List LinkEvent :=
  events.dropWhile fun event => event.sent?.isNone

@[simp] theorem sent_nil : sent [] = [] := rfl

@[simp] theorem arrived_nil : arrived [] = [] := rfl

@[simp] theorem sent_append (events more : List LinkEvent) :
    sent (events ++ more) = sent events ++ sent more := by
  simp [sent]

@[simp] theorem arrived_append (events more : List LinkEvent) :
    arrived (events ++ more) = arrived events ++ arrived more := by
  simp [arrived]

@[simp] theorem sent_transmitted (bytes : Bytes) (result : Except LinkError Unit)
    (events : List LinkEvent) : sent (transmitted bytes result :: events) = bytes :: sent events :=
  rfl

@[simp] theorem arrived_transmitted (bytes : Bytes) (result : Except LinkError Unit)
    (events : List LinkEvent) : arrived (transmitted bytes result :: events) = arrived events :=
  rfl

@[simp] theorem sent_received (timeout : Duration) (result : Except LinkError (Option Bytes))
    (events : List LinkEvent) : sent (received timeout result :: events) = sent events :=
  rfl

@[simp] theorem arrived_piece (timeout : Duration) (piece : Bytes) (events : List LinkEvent) :
    arrived (received timeout (.ok (some piece)) :: events) = piece :: arrived events :=
  rfl

@[simp] theorem arrived_nothing (timeout : Duration) (events : List LinkEvent) :
    arrived (received timeout (.ok none) :: events) = arrived events :=
  rfl

@[simp] theorem arrived_error (timeout : Duration) (e : LinkError) (events : List LinkEvent) :
    arrived (received timeout (.error e) :: events) = arrived events :=
  rfl

/-- Only receiving went on. -/
theorem isNone_of_sent_eq_nil {events : List LinkEvent} (h : sent events = []) :
    ∀ event ∈ events, event.sent?.isNone = true := by
  intro event hevent
  simpa using List.filterMap_eq_nil_iff.mp h event hevent

theorem beforeSending_append {events : List LinkEvent} (h : sent events = []) (bytes : Bytes)
    (result : Except LinkError Unit) (more : List LinkEvent) :
    beforeSending (events ++ transmitted bytes result :: more) = events := by
  rw [beforeSending, List.takeWhile_append_of_pos (isNone_of_sent_eq_nil h)]
  simp [sent?]

theorem sinceSending_append {events : List LinkEvent} (h : sent events = [])
    (more : List LinkEvent) :
    sinceSending (events ++ more) = sinceSending more := by
  rw [sinceSending, List.dropWhile_append_of_pos (isNone_of_sent_eq_nil h), sinceSending]

end LinkEvent

/-- A link with everything that happened on it. -/
structure Recorded (σ : Type) where
  link : σ
  events : List LinkEvent := []

namespace Link

variable {σ : Type}

/-- The same link, written down call by call. -/
def recorded (behavior : Link σ) : Link (Recorded σ) where
  transmit bytes s :=
    let (result, link) := behavior.transmit bytes s.link
    (result, ⟨link, s.events ++ [.transmitted bytes result]⟩)
  receive timeout s :=
    let (result, link) := behavior.receive timeout s.link
    (result, ⟨link, s.events ++ [.received timeout result]⟩)
  watch phase s := { s with link := behavior.watch phase s.link }
  clock s := behavior.clock s.link
  rest span s := { s with link := behavior.rest span s.link }
  backlog s := behavior.backlog s.link
  backlog_receive := by
    intro timeout s s' a h
    obtain ⟨hresult, rfl⟩ := Prod.mk.inj h
    exact behavior.backlog_receive (Prod.ext hresult rfl)

variable {behavior : Link σ}

@[simp] theorem recorded_remaining (due : Duration) (s : σ) (events : List LinkEvent) :
    behavior.recorded.remaining due ⟨s, events⟩ = behavior.remaining due s := rfl

@[simp] theorem recorded_deadline? (timeout : Duration) (s : Recorded σ) :
    behavior.recorded.deadline? timeout s = behavior.deadline? timeout s.link := rfl

theorem recorded_transmit {bytes : Bytes} {s s' : σ} {result : Except LinkError Unit}
    (h : behavior.transmit bytes s = (result, s')) (events : List LinkEvent) :
    behavior.recorded.transmit bytes ⟨s, events⟩ =
      (result, ⟨s', events ++ [.transmitted bytes result]⟩) := by
  simp [recorded, h]

theorem recorded_receive {timeout : Duration} {s s' : σ}
    {result : Except LinkError (Option Bytes)} (h : behavior.receive timeout s = (result, s'))
    (events : List LinkEvent) :
    behavior.recorded.receive timeout ⟨s, events⟩ =
      (result, ⟨s', events ++ [.received timeout result]⟩) := by
  simp [recorded, h]

/-- Reading without waiting gives these pieces, one by one, and leaves the link like this. -/
inductive Waiting (behavior : Link σ) : σ → List Bytes → σ → Prop
  | nil (s : σ) : Waiting behavior s [] s
  | cons {s s₁ s₂ : σ} {piece : Bytes} {pieces : List Bytes}
      (first : behavior.receive .zero s = (.ok (some piece), s₁))
      (rest : Waiting behavior s₁ pieces s₂) : Waiting behavior s (piece :: pieces) s₂

/-- The first of them wait as well. -/
theorem Waiting.take {s s' : σ} {pieces : List Bytes} (h : behavior.Waiting s pieces s') (n : Nat) :
    ∃ s₁, behavior.Waiting s (pieces.take n) s₁ := by
  induction h generalizing n with
  | nil s => exact ⟨s, by simpa using .nil s⟩
  | @cons s _ _ piece pieces first rest ih =>
    cases n with
    | zero => exact ⟨s, .nil s⟩
    | succ n =>
      obtain ⟨s₁, hrest⟩ := ih n
      exact ⟨s₁, .cons first hrest⟩

end Link

end HarnessLink
