import HarnessLink.Proofs.Master.Configure
import HarnessLink.Proofs.Master.Queueing
import HarnessLink.Proofs.Master.Sending
import Mathlib.Data.List.Induction

/-!
# The serving loop handles one command after the other

A service takes a command, carries it out, and takes the step of a cycle that is due. Producers
act on the queue at any moment in between, and any time may pass. What comes of it is what a
master does that is handed the accepted commands one at a time, in their order, with one step of
a cycle after each that was taken, or after a look that found none. The loop stops when it is
alone, when a cycle finds the link gone, and when the clock cannot tell the end of a wait or of a
cycle.
-/
namespace HarnessLink

/-- The fault of a step of a cycle that stops a service. -/
def Service.fatal? : Except NodeError Nat → Option NodeError
  | .error e => if isFatal e then some e else none
  | .ok _ => none

theorem Service.fatal?_eq_some {result : Except NodeError Nat} {e : NodeError} :
    fatal? result = some e ↔ result = .error e ∧ isFatal e = true := by
  cases result with
  | error e' =>
    rw [fatal?, Option.ite_none_right_eq_some]
    constructor
    · rintro ⟨hfatal, ⟨⟩⟩
      exact ⟨rfl, hfatal⟩
    · rintro ⟨⟨⟩, hfatal⟩
      exact ⟨hfatal, rfl⟩
  | ok => simp [fatal?]

/-- Where the loop stands between two of its actions. -/
inductive Stage where
  | waiting
  | serving (item : Forwarded)
  /-- Before the step of a cycle. The round has carried out this command. -/
  | polling (served? : Option Forwarded)
  /-- The command was broken off. -/
  | stuck (item : Forwarded)

namespace Stage

def inHand : Stage → List Forwarded
  | serving item => [item]
  | _ => []

def dropped : Stage → List Forwarded
  | stuck item => [item]
  | _ => []

/-- The command that this round has handed to the master. -/
def handed? : Stage → Option Forwarded
  | polling served? => served?
  | stuck item => some item
  | _ => none

end Stage

/-- A service at work on the queue of a session. -/
structure Loop (σ τ : Type) where
  session : Session
  master : Master σ τ
  stage : Stage := .waiting
  ended? : Option (Except NodeError Unit) := none

inductive LoopAction where
  | client (action : ClientAction)
  /-- Time passes. -/
  | rest (span : Duration)
  | pop
  | serve
  | cycle

namespace Loop

variable {σ τ : Type}

def start (capacity : Nat) (m : Master σ τ) : Loop σ τ := { session := .start capacity, master := m }

def service (l : Loop σ τ) : Service σ τ :=
  { queue := l.session.queue, master := l.master, ended? := l.ended? }

def stop (result : Except NodeError Unit) (l : Loop σ τ) : Loop σ τ :=
  { l with session := l.session.step .dropConsumer, ended? := some result }

section Actions

variable (w : Wiring σ τ)

def pop (l : Loop σ τ) : Loop σ τ :=
  let now := l.service.clock w
  let wait := l.service.nextWait w
  let popped := { l with session := l.session.step (.pop now wait) }
  match (l.session.queue.pop now wait).1 with
  | .error (.disconnected _) => popped.stop (.ok ())
  | .error e => popped.stop (.error e)
  | .ok none => { popped with stage := .polling none }
  | .ok (some item) => { popped with stage := .serving item }

def serve (item : Forwarded) (l : Loop σ τ) : Loop σ τ :=
  match l.master.handle w item.command with
  | (none, master) =>
    stop (.error .unmeasurable)
      { l with master, session := l.session.step (.giveUp item), stage := .stuck item }
  | (some outcome, master) =>
    { l with master, session := l.session.step (.complete item outcome),
             stage := .polling (some item) }

def cycle (l : Loop σ τ) : Loop σ τ :=
  let (result, master) := l.master.pollCycle w (l.service.clock w)
  let polled := { l with master, stage := .waiting }
  match Service.fatal? result with
  | some e => polled.stop (.error e)
  | none => polled

/-- Producers act at any moment, and the loop takes its own actions in turn until it stops. -/
def step (l : Loop σ τ) : LoopAction → Loop σ τ
  | .client action => { l with session := l.session.step (.client action) }
  | .rest span =>
    match l.ended? with
    | none => { l with master := l.master.rested w span }
    | some _ => l
  | .pop =>
    match l.ended?, l.stage with
    | none, .waiting => l.pop w
    | _, _ => l
  | .serve =>
    match l.ended?, l.stage with
    | none, .serving item => l.serve w item
    | _, _ => l
  | .cycle =>
    match l.ended?, l.stage with
    | none, .polling _ => l.cycle w
    | _, _ => l

def run (actions : List LoopAction) (l : Loop σ τ) : Loop σ τ := actions.foldl (step w) l

@[simp] theorem run_append (actions more : List LoopAction) (l : Loop σ τ) :
    l.run w (actions ++ more) = (l.run w actions).run w more :=
  List.foldl_append

/-- A loop that has stopped takes no action of its own. -/
theorem step_of_ended {l : Loop σ τ} {result : Except NodeError Unit}
    (h : l.ended? = some result) (action : LoopAction) :
    l.step w action = match action with
      | .client action => { l with session := l.session.step (.client action) }
      | _ => l := by
  cases action <;> simp only [step, h]

theorem serve_broken {item : Forwarded} {l : Loop σ τ} {master : Master σ τ}
    (h : l.master.handle w item.command = (none, master)) :
    l.serve w item = stop (.error .unmeasurable)
      { l with master, session := l.session.step (.giveUp item), stage := .stuck item } := by
  simp only [serve, h]

theorem serve_done {item : Forwarded} {l : Loop σ τ} {outcome : CommandOutcome}
    {master : Master σ τ} (h : l.master.handle w item.command = (some outcome, master)) :
    l.serve w item =
      { l with master, session := l.session.step (.complete item outcome),
               stage := .polling (some item) } := by
  simp only [serve, h]

theorem cycle_fatal {l : Loop σ τ} {result : Except NodeError Nat} {master : Master σ τ}
    {e : NodeError} (h : l.master.pollCycle w (l.service.clock w) = (result, master))
    (he : Service.fatal? result = some e) :
    l.cycle w = stop (.error e) { l with master, stage := .waiting } := by
  simp only [cycle, h, he]

theorem cycle_goesOn {l : Loop σ τ} {result : Except NodeError Nat} {master : Master σ τ}
    (h : l.master.pollCycle w (l.service.clock w) = (result, master))
    (hnone : Service.fatal? result = none) :
    l.cycle w = { l with master, stage := .waiting } := by
  simp only [cycle, h, hnone]

end Actions

end Loop

/-! ## One command after the other -/

/-- What a master does that is handed commands one at a time. -/
structure Course (σ τ : Type) where
  master : Master σ τ
  /-- The commands that were carried out, with their outcomes. -/
  done : List (Forwarded × CommandOutcome) := []
  /-- The fault after which nothing is done any more. -/
  fault? : Option NodeError := none

/-- One round: a command or none, then the step of a cycle, and the time that passes before each. -/
structure Round where
  idle : List Duration := []
  served? : Option Forwarded := none
  pause : List Duration := []

namespace Course

variable {σ τ : Type} (w : Wiring σ τ)

def rest (spans : List Duration) (c : Course σ τ) : Course σ τ :=
  { c with master := spans.foldl (fun m span => m.rested w span) c.master }

def handle (served? : Option Forwarded) (c : Course σ τ) : Course σ τ :=
  match served? with
  | none => c
  | some item =>
    match c.master.handle w item.command with
    | (none, master) => { c with master, fault? := some .unmeasurable }
    | (some outcome, master) => { c with master, done := c.done ++ [(item, outcome)] }

def poll (c : Course σ τ) : Course σ τ :=
  let (result, master) := c.master.pollCycle w (c.master.clock w)
  { c with master, fault? := Service.fatal? result }

/-- A round up to the step of its cycle. -/
def opening (r : Round) (c : Course σ τ) : Course σ τ :=
  ((c.rest w r.idle).handle w r.served?).rest w r.pause

def round (c : Course σ τ) (r : Round) : Course σ τ :=
  let opened := c.opening w r
  if c.fault?.isSome then c else if opened.fault?.isSome then opened else opened.poll w

def play (m : Master σ τ) (rounds : List Round) : Course σ τ := rounds.foldl (round w) { master := m }

theorem play_concat (m : Master σ τ) (rounds : List Round) (r : Round) :
    play w m (rounds ++ [r]) = (play w m rounds).round w r := by
  rw [play, List.foldl_append]
  rfl

/-- Faults are not forgotten within a round. -/
theorem fault_of_opening {r : Round} {c : Course σ τ} (h : (c.opening w r).fault? = none) :
    c.fault? = none := by
  cases hserved : r.served? with
  | none => simpa [opening, hserved, handle, rest] using h
  | some item =>
    simp only [opening, hserved, handle, rest] at h
    split at h
    · cases h
    · exact h

theorem round_of_opening {r : Round} {c : Course σ τ} (h : (c.opening w r).fault? = none) :
    c.round w r = (c.opening w r).poll w := by
  rw [round, fault_of_opening w h, h]
  rfl

/-- Time that passes before the step of the cycle. -/
theorem opening_rested (r : Round) (span : Duration) (c : Course σ τ) :
    c.opening w { r with pause := r.pause ++ [span] } =
      { c.opening w r with master := (c.opening w r).master.rested w span } := by
  simp only [opening, rest, List.foldl_append]
  rfl

/-- A command that is handed over now. -/
theorem opening_served {r : Round} (h : r.served? = none) (item : Forwarded) (c : Course σ τ) :
    c.opening w { idle := r.idle ++ r.pause, served? := some item } =
      (c.opening w r).handle w (some item) := by
  simp only [opening, h, rest, List.foldl_append]
  rfl

end Course

/-! ## What producers cannot touch -/

namespace Session

/-- The service's part of the records is the same. -/
structure Untouched (s s' : Session) : Prop where
  popped : s'.popped = s.popped
  held : s'.held = s.held
  completed : s'.completed = s.completed
  givenUp : s'.givenUp = s.givenUp
  lost : s'.lost = s.lost
  consumerAlive : s'.queue.consumerAlive = s.queue.consumerAlive

theorem untouched_abandon (s : Session) (ticket : Nat) : s.Untouched (s.abandon ticket) := by
  rw [abandon]
  split <;> exact ⟨rfl, rfl, rfl, rfl, rfl, rfl⟩

theorem untouched_claim (s : Session) (ticket : Nat) : s.Untouched (s.claim ticket) := by
  obtain ⟨outcome, -, hclaim⟩ | ⟨hnone, hclaim⟩ := s.queue.claim_cases ticket
  · simp only [claim, hclaim]
    exact ⟨rfl, rfl, rfl, rfl, rfl, rfl⟩
  · rw [claim, hclaim]
    split
    · next hfound => exact absurd (congrArg Prod.fst hfound) (hnone _)
    · next hfound =>
      cases hfound
      exact ⟨rfl, rfl, rfl, rfl, rfl, rfl⟩

theorem untouched_push (s : Session) (now : Duration) (command : DeviceCommand)
    (timeout : Duration) : s.Untouched (s.push now command timeout) := by
  rcases hpush : s.queue.push now command timeout with ⟨e | ticket, queue⟩
  · obtain ⟨rfl, -⟩ := ForwardQueue.push_error hpush
    simp only [push, hpush]
    exact ⟨rfl, rfl, rfl, rfl, rfl, rfl⟩
  · obtain ⟨-, -, -, rfl⟩ := ForwardQueue.push_ok hpush
    simp only [push, hpush]
    exact ⟨rfl, rfl, rfl, rfl, rfl, rfl⟩

theorem untouched_client (s : Session) (action : ClientAction) :
    s.Untouched (s.client action) := by
  cases action with
  | push now command timeout =>
    rw [client]
    split
    · exact ⟨rfl, rfl, rfl, rfl, rfl, rfl⟩
    · exact untouched_push s now command timeout
  | addProducer | dropProducer =>
    rw [client]
    split <;> exact ⟨rfl, rfl, rfl, rfl, rfl, rfl⟩
  | claim ticket => exact untouched_claim s ticket
  | settle command ticket timeout =>
    rw [client, settle_eq]
    split
    · exact untouched_abandon s ticket
    · exact untouched_claim s ticket
  | abandon ticket => exact untouched_abandon s ticket

/-- Producers that are all gone do not come back. -/
theorem handles_client {s : Session} (h : s.handles = 0) (action : ClientAction) :
    (s.client action).handles = 0 := by
  cases action with
  | push | addProducer | dropProducer =>
    rw [client, if_pos h]
    exact h
  | claim ticket =>
    rw [client, claim]
    split <;> exact h
  | settle command ticket timeout =>
    rw [client, settle]
    split <;> exact h
  | abandon ticket =>
    rw [client, abandon]
    split <;> exact h

end Session

/-! ## What the loop keeps -/

namespace Loop

variable {σ τ : Type} {w : Wiring σ τ} {capacity : Nat} {m : Master σ τ} {l : Loop σ τ}

/-- The records of the session tell where the loop stands. -/
structure InStep (capacity : Nat) (l : Loop σ τ) : Prop where
  orderly : l.session.Orderly capacity
  held : l.session.held = l.stage.inHand
  givenUp : l.session.givenUp = l.stage.dropped
  popped : l.session.popped =
    l.session.completed.map Prod.fst ++ l.session.givenUp ++ l.session.held

/-- The loop has come as far as the course, which is in the middle of a round. A fault of the course
stops the loop, and nothing else does but being alone and a wait for a command whose end the clock
cannot tell. -/
structure Follows (w : Wiring σ τ) (c : Course σ τ) (l : Loop σ τ) : Prop where
  completed : l.session.completed = c.done
  master : l.master = c.master
  fault : ∀ e, c.fault? = some e → l.ended? = some (.error e)
  stopped : ∀ e, l.ended? = some (.error e) → c.fault? = some e ∨
    e = .unmeasurable ∧ (l.service.clock w).deadline? (l.service.nextWait w) = none

/-- What holds of a loop between two of its actions. -/
structure Serving (w : Wiring σ τ) (capacity : Nat) (m : Master σ τ) (l : Loop σ τ) : Prop where
  inStep : l.InStep capacity
  follows : ∃ rounds r, r.served? = l.stage.handed? ∧
    l.Follows w ((Course.play w m rounds).opening w r)
  present : l.session.queue.consumerAlive = l.ended?.isNone
  finished : l.ended? = some (.ok ()) →
    l.stage = .waiting ∧ l.session.handles = 0 ∧ l.session.lost = []
  stuck : l.stage.dropped ≠ [] → l.ended? = some (.error .unmeasurable)

/-- A loop that goes on follows a course without a fault. -/
structure Going (w : Wiring σ τ) (capacity : Nat) (m : Master σ τ) (l : Loop σ τ) : Prop where
  inStep : l.InStep capacity
  course : ∃ rounds r, r.served? = l.stage.handed? ∧
    l.session.completed = ((Course.play w m rounds).opening w r).done ∧
    l.master = ((Course.play w m rounds).opening w r).master ∧
    ((Course.play w m rounds).opening w r).fault? = none
  alive : l.session.queue.consumerAlive = true
  ended : l.ended? = none
  dropped : l.stage.dropped = []

theorem Serving.going (h : l.Serving w capacity m) (hended : l.ended? = none) :
    l.Going w capacity m := by
  obtain ⟨rounds, r, hserved, hfollows⟩ := h.follows
  refine ⟨h.inStep, ⟨rounds, r, hserved, hfollows.completed, hfollows.master, ?_⟩, ?_, hended, ?_⟩
  · rw [Option.eq_none_iff_forall_ne_some]
    intro e he
    cases hended.symm.trans (hfollows.fault e he)
  · rw [h.present, hended]
    rfl
  · by_contra hdropped
    cases hended.symm.trans (h.stuck hdropped)

theorem Going.serving (h : l.Going w capacity m) : l.Serving w capacity m := by
  obtain ⟨rounds, r, hserved, hcompleted, hmaster, hfault⟩ := h.course
  refine ⟨h.inStep, ⟨rounds, r, hserved, hcompleted, hmaster, fun e he => ?_, fun e he => ?_⟩, ?_,
    fun hended => ?_, fun hdropped => absurd h.dropped hdropped⟩
  · cases hfault.symm.trans he
  · cases h.ended.symm.trans he
  · rw [h.alive, h.ended]
    rfl
  · cases h.ended.symm.trans hended

theorem going_start (w : Wiring σ τ) (capacity : Nat) (m : Master σ τ) :
    (start capacity m).Going w capacity m :=
  ⟨⟨Session.orderly_start capacity, rfl, rfl, rfl⟩, ⟨[], {}, rfl, rfl, rfl, rfl⟩, rfl, rfl, rfl⟩

theorem InStep.stop (h : l.InStep capacity) (result : Except NodeError Unit) :
    (l.stop result).InStep capacity := by
  refine ⟨h.orderly.step .dropConsumer, ?_, ?_, ?_⟩ <;> rw [Loop.stop, Session.step] <;> split
  · exact h.held
  · exact h.held
  · exact h.givenUp
  · exact h.givenUp
  · exact h.popped
  · exact h.popped

theorem completed_stop (l : Loop σ τ) (result : Except NodeError Unit) :
    (l.stop result).session.completed = l.session.completed := by
  rw [Loop.stop, Session.step]
  split <;> rfl

theorem popped_stop (l : Loop σ τ) (result : Except NodeError Unit) :
    (l.stop result).session.popped = l.session.popped := by
  rw [Loop.stop, Session.step]
  split <;> rfl

theorem gone_stop (l : Loop σ τ) (result : Except NodeError Unit) :
    (l.stop result).session.queue.consumerAlive = false := by
  rw [Loop.stop, Session.step]
  split
  · rfl
  · next hgone => simpa using hgone

/-- A loop that stops with an error follows its course, up to the fault if that is the error. -/
theorem InStep.serving_stop (h : l.InStep capacity) (rounds : List Round) (r : Round)
    {e : NodeError} (hserved : r.served? = l.stage.handed?)
    (hcompleted : l.session.completed = ((Course.play w m rounds).opening w r).done)
    (hmaster : l.master = ((Course.play w m rounds).opening w r).master)
    (hfault : ((Course.play w m rounds).opening w r).fault? = some e ∨
      ((Course.play w m rounds).opening w r).fault? = none ∧ e = .unmeasurable ∧
        (l.service.clock w).deadline? (l.service.nextWait w) = none)
    (hdropped : l.stage.dropped ≠ [] → e = .unmeasurable) :
    (l.stop (.error e)).Serving w capacity m := by
  refine ⟨h.stop _, ⟨rounds, r, hserved, (completed_stop l _).trans hcompleted, hmaster,
    fun e' he' => ?_, fun e' he' => ?_⟩, gone_stop _ _, fun hended => ?_, fun hstuck => ?_⟩
  · obtain hsome | ⟨hnone, -⟩ := hfault
    · cases hsome.symm.trans he'
      rfl
    · cases hnone.symm.trans he'
  · cases he'
    exact hfault.imp_right And.right
  · cases hended
  · exact congrArg (fun e => some (Except.error e)) (hdropped hstuck)

section Own

variable (h : l.Going w capacity m)

include h

theorem Going.rest (span : Duration) : (l.step w (.rest span)).Going w capacity m := by
  obtain ⟨rounds, r, hserved, hcompleted, hmaster, hfault⟩ := h.course
  have hrested : l.step w (.rest span) = { l with master := l.master.rested w span } := by
    simp only [step, h.ended]
  rw [hrested]
  refine ⟨⟨h.inStep.orderly, h.inStep.held, h.inStep.givenUp, h.inStep.popped⟩,
    ⟨rounds, { r with pause := r.pause ++ [span] }, hserved, ?_⟩, h.alive, h.ended, h.dropped⟩
  rw [Course.opening_rested]
  exact ⟨hcompleted, congrArg (Master.rested w span) hmaster, hfault⟩

theorem Going.pop (hstage : l.stage = .waiting) : (l.pop w).Serving w capacity m := by
  have hinStep := h.inStep
  obtain ⟨rounds, r, hserved, hcompleted, hmaster, hfault⟩ := h.course
  have hheld := hinStep.held
  have hgivenUp := hinStep.givenUp
  rw [hstage] at hserved hheld hgivenUp
  have hpopped : l.session.step (.pop (l.service.clock w) (l.service.nextWait w)) =
      l.session.pop (l.service.clock w) (l.service.nextWait w) := if_pos h.alive
  rw [Loop.pop, hpopped]
  obtain ⟨e, hpop, hsame, hdenied⟩ | ⟨hpop, hsame⟩ | ⟨item, rest, hpop, -, hqueue⟩ :=
    l.session.pop_cases (l.service.clock w) (l.service.nextWait w)
  · simp only [hpop, hsame]
    cases hdenied with
    | alone hproducers hitems =>
      have hdrop : l.session.step .dropConsumer = l.session.dropConsumer := if_pos h.alive
      refine ⟨hinStep.stop _, ⟨rounds, r, by rw [hserved, Loop.stop, hstage],
        (completed_stop l _).trans hcompleted, hmaster, fun e he => ?_, fun e he => ?_⟩,
        gone_stop _ _, fun _ => ⟨hstage, ?_, ?_⟩, fun hdropped => absurd h.dropped hdropped⟩
      · cases hfault.symm.trans he
      · cases he
      · rw [Loop.stop, hdrop]
        exact hinStep.orderly.accounts.producers ▸ hproducers
      · rw [Loop.stop, hdrop, Session.dropConsumer, hinStep.orderly.accounts.present h.alive, hitems]
        rfl
    | endless hend =>
      exact hinStep.serving_stop rounds r (by rw [hserved, hstage]) hcompleted hmaster
        (Or.inr ⟨hfault, rfl, hend⟩) fun _ => rfl
  · simp only [hpop, hsame]
    exact Going.serving ⟨⟨hinStep.orderly, hheld, hgivenUp, hinStep.popped⟩,
      ⟨rounds, r, hserved, hcompleted, hmaster, hfault⟩, h.alive, h.ended, rfl⟩
  · have horderly := hinStep.orderly.pop (l.service.clock w) (l.service.nextWait w)
    rw [hqueue] at horderly
    simp only [hpop, hqueue]
    refine Going.serving ⟨⟨horderly, ?_, hgivenUp, ?_⟩,
      ⟨rounds, r, hserved, hcompleted, hmaster, hfault⟩, h.alive, h.ended, rfl⟩
    · exact congrArg (· ++ [item]) hheld
    · rw [← List.append_assoc]
      exact congrArg (· ++ [item]) hinStep.popped

theorem Going.serve {item : Forwarded} (hstage : l.stage = .serving item) :
    (l.serve w item).Serving w capacity m := by
  have hinStep := h.inStep
  obtain ⟨rounds, r, hserved, hcompleted, hmaster, hfault⟩ := h.course
  have hheld := hinStep.held
  have hgivenUp := hinStep.givenUp
  have hpopped := hinStep.popped
  rw [hstage] at hserved hheld hgivenUp
  replace hgivenUp : l.session.givenUp = [] := hgivenUp
  rw [hheld, hgivenUp, List.append_nil] at hpopped
  have hmember : item ∈ l.session.held := hheld ▸ List.mem_singleton_self item
  have hempty : l.session.held.erase item = [] := by simp [hheld, Stage.inHand]
  have hopening := Course.opening_served w hserved item (Course.play w m rounds)
  rw [Course.handle, ← hmaster] at hopening
  rcases hhandle : l.master.handle w item.command with ⟨_ | outcome, master⟩
  all_goals simp only [hhandle] at hopening
  · rw [serve_broken w hhandle,
      show l.session.step (.giveUp item) = l.session.giveUp item from if_pos hmember]
    refine InStep.serving_stop (l := { l with
        master, session := l.session.giveUp item, stage := .stuck item })
      ⟨hinStep.orderly.giveUp hmember, hempty, ?_, ?_⟩ rounds
      { idle := r.idle ++ r.pause, served? := some item } rfl ?_ ?_ (Or.inl ?_) fun _ => rfl
    · rw [Session.giveUp, hgivenUp]
      rfl
    · simp only [Session.giveUp, hempty, hgivenUp, List.append_nil, List.nil_append, hpopped]
      rfl
    · rw [hopening]
      exact hcompleted
    · rw [hopening]
    · rw [hopening]
  · rw [serve_done w hhandle,
      show l.session.step (.complete item outcome) = l.session.complete item outcome from
        if_pos hmember]
    refine Going.serving ⟨⟨hinStep.orderly.complete hmember outcome, hempty, hgivenUp, ?_⟩,
      ⟨rounds, { idle := r.idle ++ r.pause, served? := some item }, rfl, ?_, ?_, ?_⟩, ?_, h.ended,
      rfl⟩
    · simp only [Session.complete, hempty, hgivenUp, List.append_nil, List.map_append, hpopped]
      rfl
    · rw [hopening]
      exact congrArg (· ++ [(item, outcome)]) hcompleted
    · rw [hopening]
    · rw [hopening]
      exact hfault
    · exact (l.session.queue.consumerAlive_complete item.ticket outcome).trans h.alive

theorem Going.cycle {served? : Option Forwarded} (hstage : l.stage = .polling served?) :
    (l.cycle w).Serving w capacity m := by
  have hinStep := h.inStep
  obtain ⟨rounds, r, -, hcompleted, hmaster, hfault⟩ := h.course
  have hheld := hinStep.held
  have hgivenUp := hinStep.givenUp
  rw [hstage] at hheld hgivenUp
  have hround := Course.play_concat w m rounds r
  rw [Course.round_of_opening w hfault, Course.poll, ← hmaster] at hround
  rcases hpoll : l.master.pollCycle w (l.service.clock w) with ⟨result, master⟩
  simp only [show l.master.pollCycle w (l.master.clock w) = _ from hpoll] at hround
  have hopening : (Course.play w m (rounds ++ [r])).opening w {} = Course.play w m (rounds ++ [r]) :=
    rfl
  have hpolled : InStep capacity { l with master, stage := .waiting } :=
    ⟨hinStep.orderly, hheld, hgivenUp, hinStep.popped⟩
  cases hfatal : Service.fatal? result with
  | none =>
    rw [cycle_goesOn w hpoll hfatal]
    refine Going.serving ⟨hpolled, ⟨rounds ++ [r], {}, rfl, ?_, ?_, ?_⟩, h.alive, h.ended, rfl⟩ <;>
      rw [hopening, hround]
    · exact hcompleted
    · exact hfatal
  | some e =>
    rw [cycle_fatal w hpoll hfatal]
    refine hpolled.serving_stop (rounds ++ [r]) {} rfl ?_ ?_ (Or.inl ?_)
      fun hdropped => absurd rfl hdropped <;> rw [hopening, hround]
    · exact hcompleted
    · exact hfatal

end Own

theorem Serving.client (h : l.Serving w capacity m) (action : ClientAction) :
    (l.step w (.client action)).Serving w capacity m := by
  have hsame := l.session.untouched_client action
  obtain ⟨rounds, r, hserved, hfollows⟩ := h.follows
  refine ⟨⟨h.inStep.orderly.client action, ?_, ?_, ?_⟩,
    ⟨rounds, r, hserved, ?_, hfollows.master, hfollows.fault, hfollows.stopped⟩, ?_, ?_, h.stuck⟩
  · exact hsame.held.trans h.inStep.held
  · exact hsame.givenUp.trans h.inStep.givenUp
  · simp only [step, Session.step]
    rw [hsame.popped, hsame.completed, hsame.givenUp, hsame.held]
    exact h.inStep.popped
  · exact hsame.completed.trans hfollows.completed
  · exact hsame.consumerAlive.trans h.present
  · intro hended
    obtain ⟨hstage, hhandles, hlost⟩ := h.finished hended
    exact ⟨hstage, Session.handles_client hhandles action, hsame.lost.trans hlost⟩

theorem Serving.step (h : l.Serving w capacity m) (action : LoopAction) :
    (l.step w action).Serving w capacity m := by
  cases action with
  | client action => exact h.client action
  | rest span =>
    cases hended : l.ended? with
    | none => exact ((h.going hended).rest span).serving
    | some result => rwa [step_of_ended w hended]
  | pop =>
    rw [Loop.step]
    split
    · next hended hstage => exact (h.going hended).pop hstage
    · exact h
  | serve =>
    rw [Loop.step]
    split
    · next hended hstage => exact (h.going hended).serve hstage
    · exact h
  | cycle =>
    rw [Loop.step]
    split
    · next hended hstage => exact (h.going hended).cycle hstage
    · exact h

theorem Serving.run (h : l.Serving w capacity m) (actions : List LoopAction) :
    (l.run w actions).Serving w capacity m := by
  induction actions generalizing l with
  | nil => exact h
  | cons action rest ih => exact ih (h.step action)

/-! ## The loop is the service at work -/

section Service

theorem service_stop (halive : l.session.queue.consumerAlive = true)
    (result : Except NodeError Unit) : (l.stop result).service = l.service.stop result := by
  rw [Loop.stop, show l.session.step .dropConsumer = l.session.dropConsumer from if_pos halive]
  rfl

theorem service_cycle (halive : l.session.queue.consumerAlive = true) :
    (l.cycle w).service = l.service.cycle w (l.service.clock w) := by
  rcases hpoll : l.master.pollCycle w (l.service.clock w) with ⟨result, master⟩
  have hstop : ∀ e, (stop (.error e) { l with master, stage := .waiting }).service =
      Service.stop (.error e) { l.service with master } :=
    fun e => service_stop (l := { l with master, stage := .waiting }) halive _
  have hservice : l.service.cycle w (l.service.clock w) =
      match Service.fatal? result with
      | some e => Service.stop (.error e) { l.service with master }
      | none => { l.service with master } := by
    rw [Service.cycle, show l.service.master.pollCycle w (l.service.clock w) = _ from hpoll]
    cases result with
    | error e =>
      rw [Service.fatal?]
      dsimp only
      split <;> rfl
    | ok => rfl
  rw [hservice]
  cases hfatal : Service.fatal? result with
  | none =>
    rw [cycle_goesOn w hpoll hfatal]
    rfl
  | some e =>
    rw [cycle_fatal w hpoll hfatal]
    exact hstop e

theorem service_serve (halive : l.session.queue.consumerAlive = true) {item : Forwarded}
    (hheld : item ∈ l.session.held) : (l.serve w item).service = l.service.serve w item := by
  rw [Service.serve, show l.service.master = l.master from rfl]
  rcases hhandle : l.master.handle w item.command with ⟨_ | outcome, master⟩
  · rw [serve_broken w hhandle,
      show l.session.step (.giveUp item) = l.session.giveUp item from if_pos hheld]
    exact service_stop (l := ⟨l.session.giveUp item, master, .stuck item, l.ended?⟩)
      ((l.session.queue.consumerAlive_discard item.ticket).trans halive) _
  · rw [serve_done w hhandle,
      show l.session.step (.complete item outcome) = l.session.complete item outcome from
        if_pos hheld]
    rfl

/-- A command in hand is carried out, and then the step of the cycle is taken unless the command
was broken off. -/
theorem Going.service_round_serving (h : l.Going w capacity m) {item : Forwarded}
    (hstage : l.stage = .serving item) :
    ((l.step w .serve).step w .cycle).service =
      if (l.service.serve w item).ended?.isSome then l.service.serve w item
      else (l.service.serve w item).cycle w ((l.service.serve w item).clock w) := by
  have hserve : l.step w .serve = l.serve w item := by
    simp only [step, h.ended, hstage]
  have hmember : item ∈ l.session.held := by
    rw [h.inStep.held, hstage]
    exact List.mem_singleton_self item
  rw [hserve, ← service_serve h.alive hmember]
  rcases hhandle : l.master.handle w item.command with ⟨_ | outcome, master⟩
  · have hbroken : (l.serve w item).ended? = some (.error .unmeasurable) := by
      rw [serve_broken w hhandle]
      rfl
    rw [step_of_ended w hbroken, if_pos (by rw [service, hbroken]; rfl)]
  · have hgoesOn : (l.serve w item).ended? = none := by
      rw [serve_done w hhandle]
      exact h.ended
    have hpolling : (l.serve w item).stage = .polling (some item) := by
      rw [serve_done w hhandle]
    have halive := ((h.serve hstage).going hgoesOn).alive
    rw [if_neg (by rw [service, hgoesOn]; exact Bool.false_ne_true), step, hgoesOn, hpolling]
    exact service_cycle halive

/-- One action of each kind is a round of the service. -/
theorem Going.service_round (h : l.Going w capacity m) (hstage : l.stage = .waiting) :
    (l.run w [.pop, .serve, .cycle]).service = l.service.turn w := by
  have hserving := h.pop hstage
  have hround : l.run w [.pop, .serve, .cycle] = ((l.pop w).step w .serve).step w .cycle := by
    show ((l.step w .pop).step w .serve).step w .cycle = _
    rw [show l.step w .pop = l.pop w by simp only [step, h.ended, hstage]]
  have hpopped : l.session.step (.pop (l.service.clock w) (l.service.nextWait w)) =
      l.session.pop (l.service.clock w) (l.service.nextWait w) := if_pos h.alive
  have hqueue := l.session.queue_pop (l.service.clock w) (l.service.nextWait w)
  rw [hround, Service.turn, show l.service.queue = l.session.queue from rfl]
  obtain ⟨e, hpop, hsame, hdenied⟩ | ⟨hpop, hsame⟩ | ⟨item, rest, hpop, -, -⟩ :=
    l.session.pop_cases (l.service.clock w) (l.service.nextWait w)
  · have hstopped : ∀ result, l.pop w = l.stop result →
        (((l.pop w).step w .serve).step w .cycle).service = l.service.stop result := by
      intro result hloop
      have hended : (l.stop result).ended? = some result := rfl
      rw [hloop, step_of_ended w hended, step_of_ended w hended]
      exact service_stop h.alive result
    rw [hsame] at hqueue hpopped
    rw [show l.session.queue.pop _ _ = (_, l.session.queue) from Prod.ext hpop hqueue.symm]
    cases hdenied with
    | alone => exact hstopped (.ok ()) (by simp only [Loop.pop, hpopped, hpop])
    | endless => exact hstopped (.error .unmeasurable) (by simp only [Loop.pop, hpopped, hpop])
  · rw [hsame] at hqueue hpopped
    rw [show l.session.queue.pop _ _ = (_, l.session.queue) from Prod.ext hpop hqueue.symm]
    have hloop : l.pop w = { l with stage := .polling none } := by
      simp only [Loop.pop, hpopped, hpop]
    rw [hloop]
    have hpolled : (({ l with stage := .polling none } : Loop σ τ).step w .serve).step w .cycle =
        ({ l with stage := .polling none } : Loop σ τ).cycle w := by
      simp only [step, h.ended]
    rw [hpolled]
    exact service_cycle (l := { l with stage := .polling none }) h.alive
  · rw [show l.session.queue.pop _ _ = (_, (l.session.pop _ _).queue) from
      Prod.ext hpop hqueue.symm]
    have hloop : l.pop w =
        { l with
          session := l.session.pop (l.service.clock w) (l.service.nextWait w)
          stage := .serving item } := by
      simp only [Loop.pop, hpopped, hpop]
    rw [hloop] at hserving ⊢
    exact (hserving.going h.ended).service_round_serving rfl

end Service

/-! ## What comes of a run -/

/-- The actions of a loop are actions on its queue. -/
theorem session_step (l : Loop σ τ) (action : LoopAction) :
    ∃ actions, (l.step w action).session = l.session.run actions := by
  have hstop : ∀ (l : Loop σ τ) (result : Except NodeError Unit),
      (l.stop result).session = l.session.run [.dropConsumer] := fun _ _ => rfl
  cases action with
  | client action => exact ⟨[.client action], rfl⟩
  | rest span =>
    rw [step]
    split <;> exact ⟨[], rfl⟩
  | pop =>
    rw [step]
    split
    · rw [pop]
      dsimp only
      split
      · exact ⟨[.pop _ _, .dropConsumer], rfl⟩
      · exact ⟨[.pop _ _, .dropConsumer], rfl⟩
      · exact ⟨[.pop _ _], rfl⟩
      · exact ⟨[.pop _ _], rfl⟩
    · exact ⟨[], rfl⟩
  | serve =>
    rw [step]
    split
    · next item _ _ =>
      rw [serve]
      split
      · exact ⟨[.giveUp item, .dropConsumer], rfl⟩
      · exact ⟨[.complete item _], rfl⟩
    · exact ⟨[], rfl⟩
  | cycle =>
    rw [step]
    split
    · rw [cycle]
      dsimp only
      split
      · exact ⟨[.dropConsumer], rfl⟩
      · exact ⟨[], rfl⟩
    · exact ⟨[], rfl⟩

theorem precedes_run (l : Loop σ τ) (actions : List LoopAction) :
    l.session.Precedes (l.run w actions).session := by
  induction actions generalizing l with
  | nil => exact .refl _
  | cons action rest ih =>
    obtain ⟨steps, hsteps⟩ := session_step (w := w) l action
    have hfirst := Session.Precedes.run l.session steps
    rw [← hsteps] at hfirst
    exact hfirst.trans (ih _)

/-- A loop that has stopped carries out nothing more. -/
theorem run_of_ended {result : Except NodeError Unit} (h : l.ended? = some result)
    (actions : List LoopAction) :
    (l.run w actions).ended? = some result ∧
      (l.run w actions).session.completed = l.session.completed := by
  induction actions generalizing l with
  | nil => exact ⟨h, rfl⟩
  | cons action rest ih =>
    have hstep := step_of_ended w h action
    have hsame : (l.step w action).ended? = some result ∧
        (l.step w action).session.completed = l.session.completed := by
      rw [hstep]
      cases action with
      | client action => exact ⟨h, (l.session.untouched_client action).completed⟩
      | _ => exact ⟨h, rfl⟩
    obtain ⟨hended, hcompleted⟩ := ih hsame.1
    exact ⟨hended, hcompleted.trans hsame.2⟩

/-- The clock tells the ends of all waits and cycles that the next action may start. -/
structure Timely (w : Wiring σ τ) (l : Loop σ τ) : Prop where
  exchanges : Master.Timely w l.master.channel
  wait : ((l.service.clock w).deadline? (l.service.nextWait w)).isSome = true

section Timely

variable (h : l.Timely w) (hended : l.ended? ≠ some (.error .unmeasurable))

include h hended

theorem pop_timely : (l.pop w).ended? ≠ some (.error .unmeasurable) := by
  rw [pop]
  dsimp only
  split
  · exact nofun
  · next e _ hpop =>
    rcases hqueue : l.session.queue.pop (l.service.clock w) (l.service.nextWait w) with
      ⟨result, queue⟩
    rw [hqueue] at hpop
    obtain rfl : result = .error e := hpop
    obtain ⟨-, hdenied⟩ := ForwardQueue.pop_error hqueue
    cases hdenied with
    | alone => exact nofun
    | endless hend =>
      have hwait := h.wait
      rw [hend] at hwait
      cases hwait
  · exact hended
  · exact hended

theorem serve_timely (item : Forwarded) : (l.serve w item).ended? ≠ some (.error .unmeasurable) := by
  have hhandle := Master.handle_timely h.exchanges item.command
  rw [serve]
  split
  · next heq =>
    rw [heq] at hhandle
    cases hhandle
  · exact hended

theorem cycle_timely : (l.cycle w).ended? ≠ some (.error .unmeasurable) := by
  have hpoll : NodeError.breaksOff (l.master.pollCycle w (l.service.clock w)).1 = false :=
    Master.pollCycle_timely h.exchanges h.exchanges.now
  rw [cycle]
  dsimp only
  split
  · next e hfatal =>
    obtain ⟨hresult, -⟩ := Service.fatal?_eq_some.mp hfatal
    rintro ⟨⟩
    rw [hresult] at hpoll
    cases hpoll
  · exact hended

/-- Such an action is not broken off. -/
theorem step_timely (action : LoopAction) :
    (l.step w action).ended? ≠ some (.error .unmeasurable) := by
  cases action with
  | client action => exact hended
  | rest span =>
    rw [step]
    split <;> exact hended
  | pop =>
    rw [step]
    split
    · exact pop_timely h hended
    · exact hended
  | serve =>
    rw [step]
    split
    · next item _ _ => exact serve_timely h hended item
    · exact hended
  | cycle =>
    rw [step]
    split
    · exact cycle_timely h hended
    · exact hended

end Timely

theorem run_timely {l : Loop σ τ} (hended : l.ended? ≠ some (.error .unmeasurable))
    {actions : List LoopAction}
    (h : ∀ done action, done ++ [action] <+: actions → (l.run w done).Timely w) :
    (l.run w actions).ended? ≠ some (.error .unmeasurable) := by
  induction actions using List.reverseRecOn with
  | nil => exact hended
  | append_singleton done action ih =>
    have hbefore := ih fun early next hearly =>
      h early next (hearly.trans (List.prefix_append done [action]))
    rw [run_append]
    exact step_timely (h done action (List.prefix_refl _)) hbefore action

/-- What a loop has done that began with the master `m`. -/
structure Sequential (w : Wiring σ τ) (capacity : Nat) (m : Master σ τ) (l : Loop σ τ) : Prop where
  lossless : l.session.Lossless capacity
  /-- The outcomes and the master are those of handling one command after the other, with a step
  of a cycle at the end of each round, up to a step that finds the link gone or a call that is
  broken off. -/
  follows : ∃ rounds r, r.served? = l.stage.handed? ∧
    l.Follows w ((Course.play w m rounds).opening w r)
  /-- Every command that was taken is completed, in its turn, but for the one in hand and one
  that was broken off. -/
  completed : l.session.popped =
    l.session.completed.map Prod.fst ++ l.stage.dropped ++ l.stage.inHand
  /-- The loop stops at a command that is broken off. -/
  stuck : l.stage.dropped ≠ [] → l.ended? = some (.error .unmeasurable)
  /-- The loop ends well when all producers are gone and every command is completed. -/
  finished : l.ended? = some (.ok ()) →
    l.session.handles = 0 ∧ l.session.completed.map Prod.fst = l.session.accepted
  /-- A step of a cycle that finds the link gone stops the loop, and whoever waits in the queue
  finds itself disconnected, whatever happens later. -/
  gone : ∀ served?, l.ended? = none → l.stage = .polling served? →
    (l.master.pollCycle w (l.service.clock w)).1 = .error (.link .disconnected) → ∀ later,
      let l' := (l.step w .cycle).run w later
      l'.ended? = some (.error (.link .disconnected)) ∧
        l'.session.completed = l.session.completed ∧
        ∀ item ∈ l.session.queue.items, item.ticket ∉ l'.session.received.map Prod.fst ∧
          (item.ticket ∉ l'.session.abandoned →
            (l'.session.queue.claim item.ticket).1 = .closed)
  /-- The loop is the service: its actions in turn are a round. -/
  round : l.ended? = none → l.stage = .waiting →
    (l.run w [.pop, .serve, .cycle]).service = l.service.turn w

theorem Serving.sequential (h : l.Serving w capacity m) : l.Sequential w capacity m where
  lossless := h.inStep.orderly.lossless
  follows := h.follows
  completed := by rw [← h.inStep.givenUp, ← h.inStep.held]; exact h.inStep.popped
  stuck := h.stuck
  finished := by
    intro hended
    obtain ⟨hstage, hhandles, hlost⟩ := h.finished hended
    have hempty := h.inStep.orderly.accounts.left (by rw [h.present, hended]; rfl)
    have hpopped := h.inStep.popped
    rw [h.inStep.givenUp, h.inStep.held, hstage] at hpopped
    refine ⟨hhandles, ?_⟩
    rw [h.inStep.orderly.accounts.inOrder, hempty, hlost, hpopped]
    simp [Stage.dropped, Stage.inHand]
  gone := by
    intro served? hended hstage hgone later l'
    have hstep : l.step w .cycle = stop (.error (.link .disconnected))
        { l with master := (l.master.pollCycle w (l.service.clock w)).2, stage := .waiting } := by
      rw [Loop.step, hended, hstage]
      exact cycle_fatal w (Prod.ext hgone rfl) rfl
    have hdrop : l.session.step .dropConsumer = l.session.dropConsumer :=
      if_pos (h.going hended).alive
    have hsession : (l.step w .cycle).session = l.session.dropConsumer := by
      rw [hstep, Loop.stop]
      exact hdrop
    obtain ⟨hended', hcompleted⟩ := run_of_ended (w := w)
      (show (l.step w .cycle).ended? = some (.error (.link .disconnected)) by
        rw [hstep]; rfl) later
    rw [hsession] at hcompleted
    refine ⟨hended', hcompleted, fun item hitem => ?_⟩
    have hlost : item ∈ l'.session.lost := by
      refine (precedes_run (w := w) (l.step w .cycle) later).lost.subset ?_
      rw [hsession]
      exact List.mem_append_right _ hitem
    have hlossless := ((h.step .cycle).run later).inStep.orderly.lossless
    obtain ⟨hnever, hclosed⟩ := hlossless.disconnected item (List.mem_append_right _ hlost)
    exact ⟨hnever, fun hlooks => (hclosed hlooks).1⟩
  round hended hstage := (h.going hended).service_round hstage

/-- Whatever producers do meanwhile and whatever the links do, a service handles the commands that
were accepted one after the other. None of them is broken off if the clock can tell before each
action the ends of the waits and cycles that may start in it. -/
theorem run_sequential (w : Wiring σ τ) (capacity : Nat) (m : Master σ τ)
    (actions : List LoopAction) :
    let l := (start capacity m).run w actions
    l.Sequential w capacity m ∧
      ((∀ done action, done ++ [action] <+: actions →
          ((start capacity m).run w done).Timely w) →
        l.stage.dropped = [] ∧ l.ended? ≠ some (.error .unmeasurable)) := by
  intro l
  have hsequential : l.Sequential w capacity m :=
    ((going_start w capacity m).serving.run actions).sequential
  refine ⟨hsequential, fun htimely => ?_⟩
  have hended : l.ended? ≠ some (.error .unmeasurable) := run_timely (by simp [start]) htimely
  refine ⟨?_, hended⟩
  by_contra hdropped
  exact hended (hsequential.stuck hdropped)

/-- The first command is taken at once. -/
theorem run_taken (w : Wiring σ τ) (capacity : Nat) (m : Master σ τ) (command : DeviceCommand)
    {now timeout : Duration} (hroom : (now.deadline? timeout).isSome = true)
    (hwait : ((m.clock w).deadline? ((start capacity m).service.nextWait w)).isSome = true) :
    (start capacity m).run w [.client (.push now command timeout), .pop] =
      { session :=
          { queue := { ForwardQueue.create capacity with slots := [.waiting] }
            accepted := [⟨0, command⟩], popped := [⟨0, command⟩], held := [⟨0, command⟩] }
        master := m
        stage := .serving ⟨0, command⟩ } := by
  obtain ⟨due, hdue⟩ := Option.isSome_iff_exists.mp hroom
  obtain ⟨due', hdue'⟩ := Option.isSome_iff_exists.mp hwait
  let item : Forwarded := ⟨0, command⟩
  let queue : ForwardQueue := { ForwardQueue.create capacity with slots := [.waiting] }
  let pushed : Loop σ τ :=
    { session := { queue := { queue with items := [item] }, accepted := [item] }, master := m }
  have hpush : (start capacity m).step w (.client (.push now command timeout)) = pushed := by
    have hpos : 0 < max capacity 1 := by omega
    simp [step, start, Session.step, Session.client, Session.start, Session.push,
      ForwardQueue.push, hdue, hpos, pushed, queue, item, ForwardQueue.create]
  have hsame : (pushed.service.clock w).deadline? (pushed.service.nextWait w) = some due' := hdue'
  have hqueue : pushed.session.queue.pop (pushed.service.clock w) (pushed.service.nextWait w) =
      (.ok (some item), queue) := by
    rw [ForwardQueue.pop, hsame]
    rfl
  have halive : pushed.session.queue.consumerAlive = true := rfl
  show ((start capacity m).step w (.client (.push now command timeout))).step w .pop = _
  rw [hpush]
  show pushed.pop w = _
  rw [pop, Session.step, if_pos halive, Session.pop, hqueue]
  rfl

/-- With the usual settings a reset on a medium is not broken off. -/
theorem run_sequential_reset :
    let w : Wiring Medium Medium := { slaves := Medium.link, uplink := Medium.link }
    let m : Master Medium Medium := { channel := { link := Master.mediumOver [⟨1⟩] } }
    let actions : List LoopAction :=
      [.client (.push .zero (.reset [⟨⟨1⟩, 0, 0⟩]) (.ofSeconds 5)), .pop, .serve]
    let l := (start 10 m).run w actions
    l.session.popped = l.session.completed.map Prod.fst ++ l.stage.inHand ∧
      l.ended? ≠ some (.error .unmeasurable) := by
  intro w m actions l
  have htells : Master.Tells w .zero :=
    ⟨by decide, by decide, Master.cycleEnd?_isSome (by decide) (by decide)⟩
  have htimely : Master.Timely w m.channel := Master.timely_medium rfl htells
  have hwait : ((m.clock w).deadline? ((start 10 m).service.nextWait w)).isSome = true := by decide
  have htaken := run_taken w 10 m (.reset [⟨⟨1⟩, 0, 0⟩]) (show ((Duration.zero).deadline?
    (.ofSeconds 5)).isSome = true by decide) hwait
  obtain ⟨hsequential, hreturns⟩ := run_sequential w 10 m actions
  obtain ⟨hdropped, hended⟩ := hreturns fun done action hdone => by
    rcases done with _ | ⟨first, _ | ⟨second, _ | ⟨third, rest⟩⟩⟩
    · exact ⟨htimely, hwait⟩
    · obtain ⟨rfl, -⟩ := List.cons_prefix_cons.mp hdone
      exact ⟨htimely, hwait⟩
    · simp only [actions, List.cons_append, List.cons_prefix_cons] at hdone
      obtain ⟨rfl, rfl, -⟩ := hdone
      rw [htaken]
      exact ⟨htimely, hwait⟩
    · simp [actions, List.cons_prefix_cons] at hdone
  have hcompleted := hsequential.completed
  rw [hdropped, List.append_nil] at hcompleted
  exact ⟨hcompleted, hended⟩

/-- A command that is broken off is taken and never completed. -/
theorem run_broken (w : Wiring σ τ) (capacity : Nat) {m m' : Master σ τ} {command : DeviceCommand}
    (hbroken : m.handle w command = (none, m')) {now timeout : Duration}
    (hroom : (now.deadline? timeout).isSome = true)
    (hwait : ((m.clock w).deadline? ((start capacity m).service.nextWait w)).isSome = true) :
    let l := (start capacity m).run w [.client (.push now command timeout), .pop, .serve]
    l.session.popped = [⟨0, command⟩] ∧ ∀ later, (l.run w later).session.completed = [] := by
  intro l
  have hserve := run_append w [.client (.push now command timeout), .pop] [.serve]
    (start capacity m)
  rw [run_taken w capacity m command hroom hwait] at hserve
  replace hserve : l = _ := hserve.trans (serve_broken w hbroken)
  have hended : l.ended? = some (.error .unmeasurable) := by
    rw [hserve]
    rfl
  refine ⟨?_, fun later => ?_⟩
  · rw [hserve, popped_stop]
    simp [Session.step, Session.giveUp]
  · rw [(run_of_ended hended later).2, hserve, completed_stop]
    simp [Session.step, Session.giveUp]

/-- A reset is taken and never completed when the clock cannot tell the end of a wait. -/
theorem run_endless_wait :
    let w : Wiring Medium Medium :=
      { slaves := Medium.link, uplink := Medium.link,
        channel := { responseTimeout := .ofSeconds 18446744073709551615 } }
    let m : Master Medium Medium := { channel := { link := Master.mediumOver [⟨0x5B483237⟩] } }
    let item : Forwarded := ⟨0, .reset [⟨⟨0x5B483237⟩, 0, 0⟩]⟩
    let l := (start 10 m).run w
      [.client (.push .zero item.command (.ofSeconds 5)), .pop, .serve]
    w.channel.responseTimeout.checked? = some w.channel.responseTimeout ∧
      l.session.popped = [item] ∧ ∀ later, (l.run w later).session.completed = [] := by
  intro w m item l
  obtain ⟨c', -, hreset⟩ := Master.reset_endless (w := w) (m := m) Medium.link_lossless
    (fun h => (Medium.deadline?_plain h _).trans (by decide))
    (Master.atRest_mediumOver [⟨0x5B483237⟩]) ⟨⟨0x5B483237⟩, 0, 0⟩ []
  have hhandle : m.handle w item.command = (none, { m with channel := c' }) := hreset
  exact ⟨by decide, run_broken w 10 hhandle (by decide) (by decide)⟩

end Loop

end HarnessLink
