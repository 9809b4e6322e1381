import HarnessLink.Proofs.Backend.Asking
import HarnessLink.Proofs.Master.Queueing

/-!
# Bad requests stay away from the queue

The backend answers a structured request as a producer of the queue: it pushes one command, the
one that the request asks for, and waits for its outcome, or it pushes nothing. What the answer
tells is what came back: success exactly for an outcome that is one, and an error when nothing
came back. Meanwhile other producers and the consumer do at the queue whatever they do.
-/
namespace HarnessLink

/-! ## A producer among others -/

/-- A producer of a queue, the commands that it pushed and the outcomes that came back to it. -/
structure Producer where
  session : Session
  pushed : List Forwarded := []
  returned : List (Forwarded × CommandOutcome) := []

namespace Producer

/-- Forward a command and wait for its outcome. The others act on the queue from the moment that
it takes the command until the wait is over. -/
def submit (config : MasterConfig) (now : Duration) (others : List QueueAction)
    (command : DeviceCommand) (p : Producer) : Except NodeError CommandOutcome × Producer :=
  let after := p.session.push now command config.queueTimeout
  match (p.session.queue.push now command config.queueTimeout).1 with
  | .error e => (.error e, { p with session := after })
  | .ok ticket =>
    let waited := after.run others
    let result := (waited.queue.settle command ticket config.outcomeTimeout).1
    (result, {
      session := waited.settle command ticket config.outcomeTimeout
      pushed := p.pushed ++ [⟨ticket, command⟩]
      returned := p.returned ++ result.toOption.toList.map fun outcome =>
        (⟨ticket, command⟩, outcome) })

variable (config : MasterConfig) (now : Duration) (others : List QueueAction)
variable {command : DeviceCommand} {s : Session}

/-- A command that the queue refuses leaves everything as it was. -/
theorem submit_refused {e : NodeError}
    (h : (s.queue.push now command config.queueTimeout).1 = .error e) :
    submit config now others command { session := s } = (.error e, { session := s }) := by
  rcases hpush : s.queue.push now command config.queueTimeout with ⟨result, queue⟩
  rw [hpush] at h
  cases h
  obtain ⟨rfl, -⟩ := ForwardQueue.push_error hpush
  simp only [submit, Session.push, hpush]

/-- What a producer knows of a command that the queue took: the ticket is new, and what comes
back under it is the outcome with which this command was completed. -/
theorem submit_taken {capacity ticket : Nat} (hs : s.Orderly capacity)
    (h : (s.queue.push now command config.queueTimeout).1 = .ok ticket) :
    ∃ (result : Except NodeError CommandOutcome) (s' : Session),
      submit config now others command { session := s } = (result, {
        session := s'
        pushed := [⟨ticket, command⟩]
        returned := result.toOption.toList.map fun outcome => (⟨ticket, command⟩, outcome) }) ∧
      NodeError.breaksOff result = false ∧
      ⟨ticket, command⟩ ∈ s'.accepted ∧ ⟨ticket, command⟩ ∉ s.accepted ∧
      ∀ outcome, result = .ok outcome → (⟨ticket, command⟩, outcome) ∈ s'.completed := by
  rcases hpush : s.queue.push now command config.queueTimeout with ⟨_, queue⟩
  rw [hpush] at h
  cases h
  obtain ⟨-, -, hticket, -⟩ := ForwardQueue.push_ok hpush
  let item : Forwarded := ⟨ticket, command⟩
  let after := s.push now command config.queueTimeout
  let waited := after.run others
  have hwaited : waited.Orderly capacity := (hs.push now command config.queueTimeout).run others
  have hsettled : waited.Precedes (waited.settle command ticket config.outcomeTimeout) :=
    Session.Precedes.client waited (.settle command ticket config.outcomeTimeout)
  have hitem : item ∈ waited.accepted := by
    have hnew : item ∈ after.accepted := by
      simp [after, item, Session.push, hpush]
    exact (Session.Precedes.run after others).accepted.subset hnew
  refine ⟨(waited.queue.settle command ticket config.outcomeTimeout).1,
    waited.settle command ticket config.outcomeTimeout, ?_, ForwardQueue.settle_returns .., ?_,
    ?_, ?_⟩
  · simp only [submit, hpush]
    rfl
  · exact hsettled.accepted.subset hitem
  · intro hold
    have hissued := hs.accounts.issued hold
    simp only [hticket, Nat.lt_irrefl] at hissued
  · intro outcome hresult
    obtain ⟨other, hcompleted, hsame⟩ :=
      hwaited.completed_of_slot (ForwardQueue.slot_of_settle hresult)
    have htickets : (waited.accepted.map (·.ticket)).Nodup := by
      rw [hwaited.accounts.tickets]
      exact List.nodup_range
    have hother : other ∈ waited.accepted :=
      hwaited.accounts.mem_iff.mpr (Session.mem_of_completed hcompleted)
    obtain rfl : other = item := List.inj_on_of_nodup_map htickets hother hitem hsame
    exact hsettled.completed.subset hcompleted

end Producer

/-! ## Answers -/

namespace BackendResponse

theorem mode?_ofOutcome (name : String) (o : CommandOutcome) (code : UInt8) :
    (ofOutcome name o).result.mode? = some code ↔ ∃ mode, o = .modeSelected true mode ∧
      code = mode.code := by
  unfold ofOutcome
  rcases o with _ | ⟨_ | _, _⟩ | ⟨_ | _, _⟩ | _ | _ <;> simp [eq_comm]

theorem control?_ofOutcome (name : String) (o : CommandOutcome) (code : UInt8) :
    (ofOutcome name o).result.control? = some code ↔ ∃ state, o = .controlled true state ∧
      code = state.code := by
  unfold ofOutcome
  rcases o with _ | ⟨_ | _, _⟩ | ⟨_ | _, _⟩ | _ | _ <;> simp [eq_comm]

theorem success_ofOutcome (name : String) (o : CommandOutcome) :
    (ofOutcome name o).success = o.isSuccess := rfl

theorem instruction_ofOutcome (name : String) (o : CommandOutcome) :
    (ofOutcome name o).result.instruction = name := by
  unfold ofOutcome
  rcases o with _ | ⟨_ | _, _⟩ | ⟨_ | _, _⟩ | _ | _ <;> rfl

end BackendResponse

namespace Backend

/-- The name that an answer gives back is the string in its field of the request. -/
theorem instructionName_eq (v : Json) : instructionName v = (v.get "inst").toText := by
  cases v with
  | object fields =>
    cases hlookup : fields.lookup "inst" with
    | none => simp [instructionName, Json.get, BackendRequest.tag, hlookup, Json.toText]
    | some w =>
      cases w <;> simp [instructionName, Json.get, BackendRequest.tag, hlookup, Json.toText]
  | _ => rfl

/-- Nothing is pushed if the value is taken for no command or the queue refuses the one that it is
taken for. Then everything stays as it was, and the answer is an error, or there is none where the
clock cannot tell how long to wait for room. Otherwise this command is pushed, and the answer tells
what came back for it. -/
theorem answer_cases (config : MasterConfig) (now : Duration) (others : List QueueAction)
    {capacity : Nat} {s : Session} (hs : s.Orderly capacity) (v : Json) :
    let run := answer (Producer.submit config now others) v { session := s }
    (run.2 = { session := s } ∧
      (∀ command, commandOf v = .ok command →
        (s.queue.push now command config.queueTimeout).1.isOk = false) ∧
      ((∃ text, run.1 = some (.failure (instructionName v) text)) ∨
        run.1 = none ∧ now.deadline? config.queueTimeout = none ∧
          ∃ command, commandOf v = .ok command)) ∨
    ∃ (item : Forwarded) (result : Except NodeError CommandOutcome) (s' : Session),
      commandOf v = .ok item.command ∧
      (s.queue.push now item.command config.queueTimeout).1 = .ok item.ticket ∧
      item ∈ s'.accepted ∧ item ∉ s.accepted ∧
      (∀ outcome, result = .ok outcome → (item, outcome) ∈ s'.completed) ∧
      run.1 = some (answerTo (instructionName v) result) ∧
      run.2 = { session := s', pushed := [item],
                returned := result.toOption.toList.map fun outcome => (item, outcome) } := by
  intro run
  cases hcommand : commandOf v with
  | error text =>
    have hrun : run = (some (.failure (instructionName v) text), { session := s }) := by
      simp only [run, answer, hcommand]
    exact Or.inl ⟨congrArg Prod.snd hrun, by simp, Or.inl ⟨text, congrArg Prod.fst hrun⟩⟩
  | ok command =>
    have hrun : run = submitted (Producer.submit config now others)
        (answerTo (instructionName v)) command { session := s } := by
      simp only [run, answer, hcommand]
    rw [hrun, submitted]
    rcases hpush : s.queue.push now command config.queueTimeout with ⟨e | ticket, queue⟩
    · have hsubmit := Producer.submit_refused config now others (congrArg Prod.fst hpush)
      rw [hsubmit]
      refine Or.inl ⟨rfl, ?_, ?_⟩
      · rintro _ ⟨⟩
        rw [hpush]
        rfl
      · obtain ⟨-, hgone | hfull | hend⟩ := ForwardQueue.push_error hpush
        · exact Or.inl ⟨_, rfl⟩
        · exact Or.inl ⟨_, rfl⟩
        · exact Or.inr ⟨rfl, hend, command, rfl⟩
    · obtain ⟨result, s', hsubmit, hreturns, haccepted, hnew, hcompleted⟩ :=
        Producer.submit_taken config now others hs (congrArg Prod.fst hpush)
      rw [hsubmit]
      refine Or.inr ⟨⟨ticket, command⟩, result, s', rfl, congrArg Prod.fst hpush, haccepted, hnew,
        hcompleted, ?_, rfl⟩
      exact if_neg (by simp [hreturns])

/-- At most one command reaches the queue, whatever the value, the state of the queue and what
others do there meanwhile. It is one that the value asks for, so a value that asks for none pushes
nothing and is answered with an error, and a value without ambiguous objects pushes what it asks
for if the queue takes it. There is no answer only where the clock cannot tell how long the command
may wait for room, and then nothing is pushed. An answer is a success exactly when a command was
pushed and came back with an outcome that is one, and an error text tells that nothing came back.
The answer gives back the name in the value, and a mode or a state exactly when it was set. -/
theorem answer_guards (config : MasterConfig) (now : Duration) (capacity : Nat)
    (before others : List QueueAction) (v : Json) :
    let s := (Session.start capacity).run before
    let run := answer (Producer.submit config now others) v { session := s }
    run.2.pushed.length ≤ 1 ∧
    (∀ item ∈ run.2.pushed,
      Asks v item.command ∧ item ∈ run.2.session.accepted ∧ item ∉ s.accepted) ∧
    (run.2.pushed = [] → run.2.session = s) ∧
    (∀ item outcome, (item, outcome) ∈ run.2.returned →
      item ∈ run.2.pushed ∧ (item, outcome) ∈ run.2.session.completed) ∧
    ((∀ command, ¬ Asks v command) → run.2.pushed = [] ∧
      ∃ response text, run.1 = some response ∧ response.success = false ∧
        response.result.error? = some text) ∧
    (v.Distinct → ∀ command, Asks v command → ∀ ticket,
      (s.queue.push now command config.queueTimeout).1 = .ok ticket →
        run.2.pushed = [⟨ticket, command⟩]) ∧
    (run.1 = none → run.2.pushed = [] ∧ now.deadline? config.queueTimeout = none ∧
      ∃ command, Asks v command) ∧
    ∀ response, run.1 = some response →
      (response.success = true ↔ ∃ item outcome, run.2.pushed = [item] ∧
        run.2.returned = [(item, outcome)] ∧ outcome.isSuccess = true) ∧
      (run.2.returned = [] →
        response.success = false ∧ ∃ text, response.result.error? = some text) ∧
      response.result.instruction = (v.get "inst").toText ∧
      (∀ code, response.result.mode? = some code ↔ ∃ item mode,
        run.2.returned = [(item, .modeSelected true mode)] ∧ code = mode.code) ∧
      ∀ code, response.result.control? = some code ↔ ∃ item state,
        run.2.returned = [(item, .controlled true state)] ∧ code = state.code := by
  intro s run
  have hs : s.Orderly capacity := (Session.orderly_start capacity).run before
  obtain ⟨hproducer, hrefused, hresponse⟩ | ⟨item, back, s', hcommand, hpush, haccepted, hnew,
    hcompleted, hresponse, hproducer⟩ := answer_cases config now others hs v
  · have hproducer : run.2 = { session := s } := hproducer
    have hclear : v.Distinct → ∀ command, Asks v command → ∀ ticket,
        (s.queue.push now command config.queueTimeout).1 ≠ .ok ticket := by
      intro hv command hasks ticket htaken
      have hfails := hrefused command (commandOf_of_asks hv hasks)
      rw [htaken] at hfails
      cases hfails
    obtain ⟨text, hresponse⟩ | ⟨hnone, hend, command, hcommand⟩ := hresponse
    · have hresponse : run.1 = some (.failure (instructionName v) text) := hresponse
      simp only [hresponse, hproducer, BackendResponse.failure, instructionName_eq]
      simpa using hclear
    · have hnone : run.1 = none := hnone
      have hasks : Asks v command := asks_of_commandOf hcommand
      have hbad : ¬ ∀ command, ¬ Asks v command := fun h => h command hasks
      have hsome : ∃ command, Asks v command := ⟨command, hasks⟩
      simp only [hnone, hproducer]
      simpa [hend, hbad, hsome] using hclear
  have hproducer : run.2 = _ := hproducer
  have hasks : Asks v item.command := asks_of_commandOf hcommand
  have hbad : ¬ ∀ command, ¬ Asks v command := fun h => h item.command hasks
  have hclear : v.Distinct → ∀ command, Asks v command → ∀ ticket,
      (s.queue.push now command config.queueTimeout).1 = .ok ticket →
        item = ⟨ticket, command⟩ := by
    intro hv command hother ticket htaken
    obtain rfl := Except.ok.inj (hcommand.symm.trans (commandOf_of_asks hv hother))
    obtain rfl := Except.ok.inj (hpush.symm.trans htaken)
    rfl
  cases back with
  | error e =>
    have hresponse : run.1 = some (.failure (instructionName v) e.message) := hresponse
    simp only [hresponse, hproducer, BackendResponse.failure, instructionName_eq]
    simpa [Except.toOption, hasks, haccepted, hnew, hbad] using hclear
  | ok outcome =>
    have hresponse : run.1 = some (.ofOutcome (instructionName v) outcome) := hresponse
    have hown : (item, outcome) ∈ s'.completed := hcompleted outcome rfl
    simp only [hresponse, hproducer, Option.some.injEq, forall_eq',
      BackendResponse.success_ofOutcome, BackendResponse.instruction_ofOutcome,
      BackendResponse.mode?_ofOutcome, BackendResponse.control?_ofOutcome, instructionName_eq]
    simpa [Except.toOption, hasks, haccepted, hnew, hown, hbad] using hclear

end Backend
end HarnessLink
