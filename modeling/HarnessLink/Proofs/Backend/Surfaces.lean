import HarnessLink.Proofs.Backend.Requests

/-!
# The two interfaces of the backend agree

A structured request and a message with the same fields forward the same command, or both forward
none. What the command gives is told alike: the structured answer is a success exactly when the
reply has status zero. A reply repeats its message, all of it unless it is known which entries
failed, and then only the entries whose ids the structured answer lists.
-/
namespace HarnessLink

/-! ## Outcomes and replies -/

/-- The outcome is of the command's kind. -/
inductive CommandOutcome.Answers : DeviceCommand → CommandOutcome → Prop
  | configured {devices : List DeviceSetup} (failed : List DeviceId) :
      Answers (.configure devices) (.configured failed)
  | modeSelected {mode : TestMode} (accepted : Bool) (selected : TestMode) :
      Answers (.selectMode mode) (.modeSelected accepted selected)
  | controlled {state : RunState} (accepted : Bool) (set : RunState) :
      Answers (.control state) (.controlled accepted set)
  | reset {devices : List DeviceReset} (failed : List DeviceId) :
      Answers (.reset devices) (.reset failed)
  | queried {target : QueryTarget} (unreachable : List DeviceId) (devices : List DeviceEntry) :
      Answers (.query target) (.queried unreachable devices)

namespace MasterToBackend

/-- The status of a reply, if it has one. -/
def status? : MasterToBackend → Option UInt8
  | configured status _ | modeSelected status _ | resetDone status _ | controlled status _ =>
    some status
  | deviceList _ => none

/-- The message that a reply repeats behind its status. -/
def repeated? : MasterToBackend → Option BackendToMaster
  | configured _ entries => some (.configure entries)
  | modeSelected _ code => some (.selectMode code)
  | resetDone _ entries => some (.reset entries)
  | controlled _ code => some (.control code)
  | deviceList _ => none

end MasterToBackend

/-- The message with only the entries of some devices, in their order. -/
def BackendToMaster.only (keep : DeviceId → Bool) : BackendToMaster → BackendToMaster
  | configure entries => .configure (entries.filter fun e => keep e.id)
  | reset entries => .reset (entries.filter fun e => keep e.id)
  | request => request

theorem BackendResponse.failed_ofOutcome (name : String) (o : CommandOutcome) :
    (ofOutcome name o).result.failed = o.failed.map DeviceId.text := by
  unfold ofOutcome
  dsimp only
  split <;> rfl

namespace Backend

/-! ## What is forwarded -/

/-- Answering forwards the command: it submits it once and nothing else, whatever carries commands
out, and nothing at all if there is no command. -/
def Forwards {ρ : Type}
    (answering : ∀ {σ : Type}, (DeviceCommand → σ → Except NodeError CommandOutcome × σ) → σ → ρ × σ)
    (command? : Option DeviceCommand) : Prop :=
  ∀ (σ : Type) (submit : DeviceCommand → σ → Except NodeError CommandOutcome × σ) (s : σ),
    (answering submit s).2 = match command? with
      | some command => (submit command s).2
      | none => s

/-- What is known of a command after it was submitted: nothing if there is none or it ended in an
error. -/
def outcome? {σ : Type} (submit : DeviceCommand → σ → Except NodeError CommandOutcome × σ)
    (command? : Option DeviceCommand) (s : σ) : Option CommandOutcome :=
  command?.bind fun command => (submit command s).1.toOption

variable {σ : Type} (submit : DeviceCommand → σ → Except NodeError CommandOutcome × σ)

/-- There is a command, and its submission is broken off. -/
def brokenOff (command? : Option DeviceCommand) (s : σ) : Bool :=
  command?.any fun command => NodeError.breaksOff (submit command s).1

theorem answer_forwards (v : Json) :
    Forwards (fun submit s => answer submit v s) (commandOf v).toOption := by
  intro σ submit s
  dsimp only
  rw [answer]
  cases commandOf v <;> rfl

theorem success_answerTo (name : String) (result : Except NodeError CommandOutcome) :
    (answerTo name result).success = result.toOption.any CommandOutcome.isSuccess := by
  cases result <;> rfl

theorem failed_answerTo (name : String) (result : Except NodeError CommandOutcome) :
    (answerTo name result).result.failed =
      ((result.toOption.map CommandOutcome.failed).getD []).map DeviceId.text := by
  cases result with
  | error e => rfl
  | ok outcome => exact BackendResponse.failed_ofOutcome name outcome

/-- An answer tells what is known of the command. -/
theorem answer_tells (v : Json) (s : σ) :
    ∃ response, (answer submit v s).1 =
        (if brokenOff submit (commandOf v).toOption s then none else some response) ∧
      response.success =
        (outcome? submit (commandOf v).toOption s).any CommandOutcome.isSuccess ∧
      response.result.failed =
        (((outcome? submit (commandOf v).toOption s).map CommandOutcome.failed).getD []).map
          DeviceId.text := by
  rw [answer, outcome?]
  cases commandOf v with
  | error text => exact ⟨.failure (instructionName v) text, rfl, rfl, rfl⟩
  | ok command =>
    exact ⟨answerTo (instructionName v) (submit command s).1, rfl, success_answerTo ..,
      failed_answerTo ..⟩

theorem reply_forwards (request : BackendToMaster) :
    Forwards (fun submit s => reply submit request s) (commandFor? request) := by
  intro σ submit s
  dsimp only
  rw [reply]
  cases commandFor? request <;> rfl

/-- A reply is the one to what is known of the command. -/
theorem reply_tells (request : BackendToMaster) (s : σ) :
    (reply submit request s).1 = if brokenOff submit (commandFor? request) s then none
      else some (replyTo request (outcome? submit (commandFor? request) s)) := by
  rw [reply, outcome?]
  cases commandFor? request <;> rfl

/-! ## What a reply repeats -/

theorem reported_of_failed {α : Type} {failed : List DeviceId} (h : failed ≠ [])
    (id : α → DeviceId) (entries : List α) :
    reported id (some failed) entries = entries.filter fun e => failed.contains (id e) := by
  cases failed with
  | nil => exact absurd rfl h
  | cons first rest => rfl

theorem reported_of_none_failed {α : Type} {failed? : Option (List DeviceId)}
    (h : ∀ failed ∈ failed?, failed = []) (id : α → DeviceId) (entries : List α) :
    reported id failed? entries = entries := by
  cases failed? with
  | none => rfl
  | some failed =>
    obtain rfl := h failed rfl
    rfl

/-- Of a batch with failures the reply repeats the entries that failed. -/
theorem repeated?_of_failed {request : BackendToMaster}
    (hlist : ∀ reserve, request ≠ .listDevices reserve) {o : CommandOutcome}
    (hfailed : o.failed ≠ []) :
    (replyTo request (some o)).repeated? = some (request.only o.failed.contains) := by
  cases request with
  | configure entries =>
    exact congrArg (some ∘ BackendToMaster.configure)
      (reported_of_failed hfailed SlaveEntry.id entries)
  | reset entries =>
    exact congrArg (some ∘ BackendToMaster.reset)
      (reported_of_failed hfailed ResetEntry.id entries)
  | selectMode code => rfl
  | control code => rfl
  | listDevices reserve => exact absurd rfl (hlist reserve)

/-- Everything is repeated when nothing failed, and when nothing is known of it. -/
theorem repeated?_of_none_failed {request : BackendToMaster}
    (hlist : ∀ reserve, request ≠ .listDevices reserve) {o? : Option CommandOutcome}
    (ho : ∀ o, o? = some o → o.failed = []) :
    (replyTo request o?).repeated? = some request := by
  have hnone : ∀ failed ∈ o?.map CommandOutcome.failed, failed = [] := by
    intro failed hfailed
    obtain ⟨o, hknown, rfl⟩ := Option.map_eq_some_iff.mp hfailed
    exact ho o hknown
  cases request with
  | configure entries =>
    exact congrArg (some ∘ BackendToMaster.configure)
      (reported_of_none_failed hnone SlaveEntry.id entries)
  | reset entries =>
    exact congrArg (some ∘ BackendToMaster.reset)
      (reported_of_none_failed hnone ResetEntry.id entries)
  | selectMode code => rfl
  | control code => rfl
  | listDevices reserve => exact absurd rfl (hlist reserve)

/-! ## The status of a reply -/

/-- Whatever outcome the command has is of the command's kind. -/
def Fitting (command? : Option DeviceCommand) (s : σ) : Prop :=
  ∀ command outcome, command? = some command → (submit command s).1 = .ok outcome →
    outcome.Answers command

/-- A batch that reports no failed device is one that succeeded. -/
theorem noneFailed_iff_isSuccess {o? : Option CommandOutcome}
    (hbatch : ∀ o, o? = some o → o.isSuccess = o.failed.isEmpty) :
    (o?.map CommandOutcome.failed == some []) = o?.any CommandOutcome.isSuccess := by
  cases o? with
  | none => rfl
  | some o =>
    simp only [Option.map_some, Option.any_some, hbatch o rfl]
    cases o.failed <;> rfl

/-- The status of a reply tells whether the command succeeded. -/
theorem status?_replyTo {request : BackendToMaster}
    (hlist : ∀ reserve, request ≠ .listDevices reserve) {o? : Option CommandOutcome}
    (hfitting : ∀ command o, commandFor? request = some command → o? = some o →
      o.Answers command) :
    (replyTo request o?).status? = some (statusOf (o?.any CommandOutcome.isSuccess)) := by
  cases request with
  | configure entries =>
    refine congrArg (some ∘ statusOf) (noneFailed_iff_isSuccess fun o ho => ?_)
    cases hfitting _ o rfl ho
    rfl
  | reset entries =>
    refine congrArg (some ∘ statusOf) (noneFailed_iff_isSuccess fun o ho => ?_)
    cases hfitting _ o rfl ho
    rfl
  | selectMode code => rfl
  | control code => rfl
  | listDevices reserve => exact absurd rfl (hlist reserve)

theorem statusOf_eq_zero {success : Bool} : statusOf success = 0 ↔ success = true := by
  cases success <;> decide

/-! ## The agreement -/

/-- What a structured answer and a reply to the same request have in common. -/
structure Agree (request : BackendToMaster) (outcome? : Option CommandOutcome)
    (response : BackendResponse) (reply : MasterToBackend) : Prop where
  status : response.success = true ↔ reply.status? = some 0
  unknown : outcome? = none → response.success = false
  /-- The entries that failed are those whose ids the structured answer lists. -/
  partly : ∀ o, outcome? = some o → o.failed ≠ [] → reply.repeated? =
    some (request.only fun id => decide (id.text ∈ response.result.failed))
  whole : (∀ o, outcome? = some o → o.failed = []) → reply.repeated? = some request

/-- An answer that tells what is known of a command agrees with the reply to that. -/
theorem agree_of_tells {request : BackendToMaster}
    (hlist : ∀ reserve, request ≠ .listDevices reserve) {o? : Option CommandOutcome}
    (hfitting : ∀ command o, commandFor? request = some command → o? = some o →
      o.Answers command)
    {response : BackendResponse}
    (hsuccess : response.success = o?.any CommandOutcome.isSuccess)
    (hfailed : response.result.failed =
      ((o?.map CommandOutcome.failed).getD []).map DeviceId.text) :
    Agree request o? response (replyTo request o?) := by
  constructor
  case status =>
    rw [status?_replyTo hlist hfitting, hsuccess, Option.some_inj, statusOf_eq_zero]
  case unknown =>
    intro hnone
    rw [hsuccess, hnone, Option.any_none]
  case partly =>
    rintro o rfl hsome
    have hsame : o.failed.contains =
        fun id => decide (id.text ∈ o.failed.map DeviceId.text) := by
      funext id
      rw [List.contains_eq_mem, decide_eq_decide, DeviceId.mem_map_text]
    rw [repeated?_of_failed hlist hsome, hfailed, Option.map_some, Option.getD_some, hsame]
  case whole => exact repeated?_of_none_failed hlist

/-- Every message but the one for the device list has structured requests with the same fields.
Each of them forwards the same command as the message, or both forward none, whatever carries
commands out. If the command is broken off, neither is answered. Otherwise both are, and as long as
the outcome is of the command's kind they are answered alike. -/
theorem surfaces_agree {request : BackendToMaster}
    (hlist : ∀ reserve, request ≠ .listDevices reserve) :
    request.AskedBy request.asking ∧ ∀ v, request.AskedBy v →
      Forwards (fun submit s => answer submit v s) (commandFor? request) ∧
      Forwards (fun submit s => reply submit request s) (commandFor? request) ∧
      ∀ {σ : Type} (submit : DeviceCommand → σ → Except NodeError CommandOutcome × σ) (s : σ),
        (brokenOff submit (commandFor? request) s = true →
          (answer submit v s).1 = none ∧ (reply submit request s).1 = none) ∧
        (brokenOff submit (commandFor? request) s = false →
          ∃ response replied, (answer submit v s).1 = some response ∧
            (reply submit request s).1 = some replied ∧
            (Fitting submit (commandFor? request) s →
              Agree request (outcome? submit (commandFor? request) s) response replied)) := by
  refine ⟨BackendToMaster.asked_asking hlist, ?_⟩
  intro v hv
  have hcommand : (commandOf v).toOption = commandFor? request := commandOf_of_asked hv
  refine ⟨hcommand ▸ answer_forwards v, reply_forwards request, ?_⟩
  intro σ submit s
  obtain ⟨response, hanswer, hsuccess, hfailed⟩ := answer_tells submit v s
  have hreply := reply_tells submit request s
  rw [hcommand] at hanswer hsuccess hfailed
  constructor
  · intro hbroken
    rw [hanswer, hreply, if_pos hbroken, if_pos hbroken]
    exact ⟨rfl, rfl⟩
  · intro hgoesOn
    have hgoesOn : ¬ brokenOff submit (commandFor? request) s = true := by simp [hgoesOn]
    rw [hanswer, hreply, if_neg hgoesOn, if_neg hgoesOn]
    refine ⟨response, _, rfl, rfl, fun hfitting => agree_of_tells hlist ?_ hsuccess hfailed⟩
    intro command o hforwarded ho
    rw [outcome?, hforwarded, Option.bind_some] at ho
    refine hfitting command o hforwarded ?_
    cases hresult : (submit command s).1 <;> rw [hresult] at ho <;> cases ho
    rfl

/-- A batch of two slaves, of which the second fails. The structured request has its fields in
another order and spells the pins in two small digits. -/
theorem surfaces_agree_partly :
    let first : SlaveEntry := ⟨⟨1⟩, 4, 2, 1, 0xFF⟩
    let second : SlaveEntry := ⟨⟨2⟩, 8, 0, 0, 0⟩
    let request : BackendToMaster := .configure [first, second]
    let clip : Json := .object [("pin", .string "ff"), ("mode", .byte 1)]
    let param : Json := .object [("clip", clip), ("Z", .byte 2), ("cond", .byte 4),
      ("id", .string (DeviceId.text ⟨1⟩))]
    let v : Json := .object [("params", .array [param, second.asking]),
      ("inst", .string "DEV_CONF")]
    let submit (command : DeviceCommand) (log : List DeviceCommand) :
        Except NodeError CommandOutcome × List DeviceCommand :=
      (.ok (.configured [⟨2⟩]), log ++ [command])
    let command : DeviceCommand := .configure [setupOf first, setupOf second]
    (∀ reserve, request ≠ .listDevices reserve) ∧ request.AskedBy v ∧
      Fitting submit (commandFor? request) [] ∧
      (∃ response replied, (answer submit v []).1 = some response ∧
        (reply submit request []).1 = some replied ∧
        Agree request (some (.configured [⟨2⟩])) response replied) ∧
      (answer submit v []).2 = [command] ∧ (reply submit request []).2 = [command] := by
  intro first second request clip param v submit command
  have hlist : ∀ reserve, request ≠ .listDevices reserve := nofun
  have hpins : SpellsWord 0xFF "ff" := by
    have denoted : List.Forall₂ Text.Hex.Denotes ['f', 'f'] [15, 15] :=
      .cons ⟨by decide, Or.inr (by decide)⟩ (.cons ⟨by decide, Or.inr (by decide)⟩ .nil)
    exact .digits (List.mem_cons_self ..) denoted (List.cons_ne_nil _ _) rfl
  have hclip : ClipSetup.Given ⟨1, 0xFF⟩ clip := .object (by decide) rfl rfl (.text hpins)
  have hfirst : first.Given param := by
    refine .object (by decide) rfl rfl rfl ?_ fun _ => ⟨clip, rfl, hclip⟩
    exact fun hbare => absurd hbare (by decide)
  have hv : request.AskedBy v :=
    .configure (by simp) rfl rfl (.cons hfirst (.cons second.given_asking .nil))
  have hfitting : Fitting submit (commandFor? request) [] := by
    rintro command outcome hcommand houtcome
    obtain rfl := Option.some_inj.mp hcommand
    obtain rfl := Except.ok.inj houtcome
    exact .configured _
  obtain ⟨htext, hframe, hagree⟩ := (surfaces_agree hlist).2 v hv
  obtain ⟨response, replied, hresponse, hreplied, halike⟩ := (hagree submit []).2 rfl
  exact ⟨hlist, hv, hfitting, ⟨response, replied, hresponse, hreplied, halike hfitting⟩,
    htext _ submit [], hframe _ submit []⟩

end Backend

end HarnessLink
