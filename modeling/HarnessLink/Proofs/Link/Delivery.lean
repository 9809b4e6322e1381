import HarnessLink.Link.Memory
import Mathlib.Logic.Function.Basic

/-!
# What a pair of ends delivers

Two ends in memory act in any order. A session keeps beside the pair what each end has sent and
received. A drain takes its pieces one by one, and the other end may act between any two of them;
meanwhile the end that drains can do nothing else, and neither can an end that has been dropped. A
receiver that waits looks at the pipe until its time is over, so only the look that decides counts.
-/
namespace HarnessLink

/-! ## Draining -/

namespace Pipe

/-- A drain goes on with one piece more. -/
theorem drainTurn_more {pieces all : List Bytes} {c c' : Pipe}
    (h : c.drainTurn pieces = (.more all, c')) :
    ∃ bytes rest, c.waiting = bytes :: rest ∧ all = pieces ++ [bytes] ∧
      c' = { c with waiting := rest } := by
  unfold drainTurn at h
  split at h
  · next htake =>
    obtain ⟨rest, hwaiting, rfl⟩ := take_ok htake
    cases h
    exact ⟨_, rest, hwaiting, rfl, rfl⟩
  · cases h
  · cases h

/-- A drain is over when nothing waits. It keeps what it has taken, and only a drain that has taken
nothing can fail. -/
theorem drainTurn_done {pieces : List Bytes} {result : Except LinkError (List Bytes)} {c c' : Pipe}
    (h : c.drainTurn pieces = (.done result, c')) :
    c' = c ∧ c.waiting = [] ∧ result =
      if c.hasSender = false ∧ pieces = [] then .error .disconnected else .ok pieces := by
  unfold drainTurn at h
  split at h
  · cases h
  · next htake =>
    obtain ⟨rfl, hwaiting, hsender⟩ := take_error htake
    cases h
    exact ⟨rfl, hwaiting, by simp [hsender]⟩
  · next htake =>
    obtain ⟨rfl, hwaiting, hsender⟩ := take_error htake
    cases h
    exact ⟨rfl, hwaiting, by simp [hsender]⟩

/-- A drain that nobody interrupts takes all that waits. -/
theorem drain_eq (pieces : List Bytes) (c : Pipe) :
    c.drain pieces = (if c.hasSender = false ∧ pieces ++ c.waiting = [] then .error .disconnected
      else .ok (pieces ++ c.waiting), { c with waiting := [] }) := by
  induction pieces, c using drain.induct with
  | case1 pieces c all c' h ih =>
    obtain ⟨bytes, rest, hwaiting, rfl, rfl⟩ := drainTurn_more h
    rw [drain, h]
    simpa [hwaiting] using ih
  | case2 pieces c result c' h =>
    obtain ⟨rfl, hwaiting, rfl⟩ := drainTurn_done h
    have hempty : { c' with waiting := [] } = c' := by rw [← hwaiting]
    rw [drain, h, hempty, hwaiting, List.append_nil]

end Pipe

/-! ## Sessions -/

/-- What an end has done. -/
structure EndRecord where
  sent : List Bytes := []
  received : List Bytes := []
  /-- What a drain has taken that is not over. -/
  draining? : Option (List Bytes) := none
  isDropped : Bool := false

/-- The pieces that an end has out of its pipe: those that it received, and those that it has taken
in a drain. -/
def EndRecord.has (r : EndRecord) : List Bytes := r.received ++ r.draining?.getD []

/-- An action of one end. -/
inductive EndAction where
  | transmit (bytes : Bytes)
  | receive
  /-- A drain that nobody interrupts. -/
  | drain
  | beginDrain
  | drainTurn
  | drop

/-- A pair with the records of its two ends. -/
structure PairSession where
  pair : MemoryPair := {}
  record : Side → EndRecord := fun _ => {}

namespace PairSession

/-- An end has acted: this is its record now, and this is the pair. -/
def note (side : Side) (r : EndRecord) (pair : MemoryPair) (s : PairSession) : PairSession :=
  { pair, record := Function.update s.record side r }

def transmit (side : Side) (bytes : Bytes) (s : PairSession) : PairSession :=
  let r := s.record side
  match s.pair.transmit side bytes with
  | (.ok (), pair) => s.note side { r with sent := r.sent ++ [bytes] } pair
  | (.error _, pair) => s.note side r pair

def receive (side : Side) (s : PairSession) : PairSession :=
  let r := s.record side
  match s.pair.receive side with
  | (.ok piece?, pair) => s.note side { r with received := r.received ++ piece?.toList } pair
  | (.error _, pair) => s.note side r pair

def drain (side : Side) (s : PairSession) : PairSession :=
  let r := s.record side
  match s.pair.drain side with
  | (.ok pieces, pair) => s.note side { r with received := r.received ++ pieces } pair
  | (.error _, pair) => s.note side r pair

def beginDrain (side : Side) (s : PairSession) : PairSession :=
  s.note side { s.record side with draining? := some [] } s.pair

/-- A drain that has taken some pieces takes one turn. -/
def drainTurn (side : Side) (pieces : List Bytes) (s : PairSession) : PairSession :=
  let r := s.record side
  match (s.pair.pipeTo side).drainTurn pieces with
  | (.more pieces, c) => s.note side { r with draining? := some pieces } (s.pair.setPipeTo side c)
  | (.done (.ok pieces), c) =>
    s.note side { r with draining? := none, received := r.received ++ pieces }
      (s.pair.setPipeTo side c)
  | (.done (.error _), c) =>
    s.note side { r with draining? := none } (s.pair.setPipeTo side c)

def drop (side : Side) (s : PairSession) : PairSession :=
  s.note side { s.record side with isDropped := true } (s.pair.close side)

def step (s : PairSession) (side : Side) (action : EndAction) : PairSession :=
  match (s.record side).isDropped, (s.record side).draining?, action with
  | false, none, .transmit bytes => s.transmit side bytes
  | false, none, .receive => s.receive side
  | false, none, .drain => s.drain side
  | false, none, .beginDrain => s.beginDrain side
  | false, some pieces, .drainTurn => s.drainTurn side pieces
  | false, none, .drop => s.drop side
  | _, _, _ => s

def run (s : PairSession) (actions : List (Side × EndAction)) : PairSession :=
  actions.foldl (fun s (side, action) => s.step side action) s

/-- What an action of an end can come to. -/
inductive Acts (s : PairSession) (side : Side) : EndRecord → MemoryPair → Prop
  | sends (bytes : Bytes) (hreceiver : (s.pair.pipeTo side.other).hasReceiver = true) :
    Acts s side { s.record side with sent := (s.record side).sent ++ [bytes] }
      (s.pair.setPipeTo side.other { s.pair.pipeTo side.other with
        waiting := (s.pair.pipeTo side.other).waiting ++ [bytes] })
  | takes {r : EndRecord} (pieces rest : List Bytes)
    (hwaiting : (s.pair.pipeTo side).waiting = pieces ++ rest)
    (hsent : r.sent = (s.record side).sent) (hhas : r.has = (s.record side).has ++ pieces)
    (hdropped : r.isDropped = false) :
    Acts s side r (s.pair.setPipeTo side { s.pair.pipeTo side with waiting := rest })
  | drops : Acts s side { s.record side with isDropped := true } (s.pair.close side)

/-- An end that takes nothing leaves the pair as it was. -/
theorem Acts.idle {s : PairSession} {side : Side} {r : EndRecord}
    (hsent : r.sent = (s.record side).sent) (hhas : r.has = (s.record side).has)
    (hdropped : r.isDropped = false) : s.Acts side r s.pair := by
  have htakes := Acts.takes [] _ rfl hsent (hhas.trans (List.append_nil _).symm) hdropped
  rwa [MemoryPair.setPipeTo_pipeTo] at htakes

section

variable {s : PairSession} {side : Side}

theorem transmit_acts (bytes : Bytes) (hthere : (s.record side).isDropped = false) :
    ∃ r pair, s.transmit side bytes = s.note side r pair ∧ s.Acts side r pair := by
  rcases hsend : (s.pair.pipeTo side.other).send bytes with ⟨_ | _, c⟩
  · obtain ⟨rfl, -, -⟩ := Pipe.send_error hsend
    simp only [transmit, MemoryPair.transmit, hsend, MemoryPair.setPipeTo_pipeTo]
    exact ⟨_, _, rfl, .idle rfl rfl hthere⟩
  · obtain ⟨hreceiver, rfl⟩ := Pipe.send_ok hsend
    simp only [transmit, MemoryPair.transmit, hsend]
    exact ⟨_, _, rfl, .sends bytes hreceiver⟩

theorem receive_acts (hthere : (s.record side).isDropped = false)
    (hidle : (s.record side).draining? = none) :
    ∃ r pair, s.receive side = s.note side r pair ∧ s.Acts side r pair := by
  rcases htake : (s.pair.pipeTo side).take with ⟨(_ | _) | bytes, c⟩
  · obtain ⟨rfl, -, -⟩ := Pipe.take_error htake
    simp only [receive, MemoryPair.receive, htake, MemoryPair.setPipeTo_pipeTo]
    exact ⟨_, _, rfl, .idle rfl (by simp [EndRecord.has]) hthere⟩
  · obtain ⟨rfl, -, -⟩ := Pipe.take_error htake
    simp only [receive, MemoryPair.receive, htake, MemoryPair.setPipeTo_pipeTo]
    exact ⟨_, _, rfl, .idle rfl rfl hthere⟩
  · obtain ⟨rest, hwaiting, rfl⟩ := Pipe.take_ok htake
    simp only [receive, MemoryPair.receive, htake]
    exact ⟨_, _, rfl, .takes [bytes] rest hwaiting rfl (by simp [EndRecord.has, hidle]) hthere⟩

theorem drain_acts (hthere : (s.record side).isDropped = false)
    (hidle : (s.record side).draining? = none) :
    ∃ r pair, s.drain side = s.note side r pair ∧ s.Acts side r pair := by
  have hwaiting := (List.append_nil (s.pair.pipeTo side).waiting).symm
  simp only [drain, MemoryPair.drain, Pipe.drain_eq, List.nil_append]
  by_cases hgone : (s.pair.pipeTo side).hasSender = false ∧ (s.pair.pipeTo side).waiting = []
  · rw [if_pos hgone]
    exact ⟨_, _, rfl, .takes _ _ hwaiting rfl (by rw [hgone.2, List.append_nil]) hthere⟩
  · rw [if_neg hgone]
    exact ⟨_, _, rfl, .takes _ _ hwaiting rfl (by simp [EndRecord.has, hidle]) hthere⟩

theorem drainTurn_acts (hthere : (s.record side).isDropped = false) {pieces : List Bytes}
    (hpieces : (s.record side).draining? = some pieces) :
    ∃ r pair, s.drainTurn side pieces = s.note side r pair ∧ s.Acts side r pair := by
  rcases hturn : (s.pair.pipeTo side).drainTurn pieces with ⟨all | result, c⟩
  · obtain ⟨bytes, rest, hwaiting, rfl, rfl⟩ := Pipe.drainTurn_more hturn
    simp only [drainTurn, hturn]
    exact ⟨_, _, rfl, .takes [bytes] rest hwaiting rfl (by simp [EndRecord.has, hpieces]) hthere⟩
  · obtain ⟨rfl, -, rfl⟩ := Pipe.drainTurn_done hturn
    simp only [drainTurn, hturn]
    by_cases hgone : (s.pair.pipeTo side).hasSender = false ∧ pieces = []
    · simp only [if_pos hgone, MemoryPair.setPipeTo_pipeTo]
      exact ⟨_, _, rfl, .idle rfl (by simp [EndRecord.has, hpieces, hgone.2]) hthere⟩
    · simp only [if_neg hgone, MemoryPair.setPipeTo_pipeTo]
      exact ⟨_, _, rfl, .idle rfl (by simp [EndRecord.has, hpieces]) hthere⟩

end

/-- A step does nothing, or is an action of an end that is there. -/
theorem step_cases (s : PairSession) (side : Side) (action : EndAction) :
    s.step side action = s ∨ (s.record side).isDropped = false ∧
      ∃ r pair, s.step side action = s.note side r pair ∧ s.Acts side r pair := by
  unfold step
  cases hthere : (s.record side).isDropped with
  | true => exact .inl rfl
  | false =>
    cases hdraining : (s.record side).draining? with
    | none =>
      cases action with
      | transmit bytes => exact .inr ⟨rfl, transmit_acts bytes hthere⟩
      | receive => exact .inr ⟨rfl, receive_acts hthere hdraining⟩
      | drain => exact .inr ⟨rfl, drain_acts hthere hdraining⟩
      | beginDrain =>
        exact .inr ⟨rfl, _, _, rfl, .idle rfl (by simp [EndRecord.has, hdraining]) hthere⟩
      | drainTurn => exact .inl rfl
      | drop => exact .inr ⟨rfl, _, _, rfl, .drops⟩
    | some pieces =>
      cases action with
      | drainTurn => exact .inr ⟨rfl, drainTurn_acts hthere hdraining⟩
      | _ => exact .inl rfl

end PairSession

/-! ## One way -/

/-- What the sender has sent through a pipe is what the receiver has, and what waits for it. -/
structure Faithful (sender receiver : EndRecord) (c : Pipe) : Prop where
  hasSender : c.hasSender = !sender.isDropped
  hasReceiver : c.hasReceiver = !receiver.isDropped
  present : receiver.isDropped = false → sender.sent = receiver.has ++ c.waiting
  gone : receiver.isDropped = true → receiver.has <+: sender.sent

namespace Faithful

variable {sender receiver : EndRecord} {c : Pipe}

theorem front (h : Faithful sender receiver c) : receiver.has <+: sender.sent := by
  cases hdropped : receiver.isDropped with
  | true => exact h.gone hdropped
  | false => exact ⟨c.waiting, (h.present hdropped).symm⟩

/-- What an end has makes no difference to the way from it. -/
theorem of_sender (h : Faithful sender receiver c) {sender' : EndRecord}
    (hsent : sender'.sent = sender.sent) (hdropped : sender'.isDropped = sender.isDropped) :
    Faithful sender' receiver c :=
  ⟨hdropped ▸ h.hasSender, h.hasReceiver, hsent ▸ h.present, hsent ▸ h.gone⟩

/-- What an end sends makes no difference to the way to it. -/
theorem of_receiver (h : Faithful sender receiver c) {receiver' : EndRecord}
    (hhas : receiver'.has = receiver.has) (hdropped : receiver'.isDropped = receiver.isDropped) :
    Faithful sender receiver' c :=
  ⟨h.hasSender, hdropped ▸ h.hasReceiver, hdropped ▸ hhas ▸ h.present, hdropped ▸ hhas ▸ h.gone⟩

theorem send (h : Faithful sender receiver c) (bytes : Bytes) (hreceiver : c.hasReceiver = true) :
    Faithful { sender with sent := sender.sent ++ [bytes] } receiver
      { c with waiting := c.waiting ++ [bytes] } := by
  have hthere : receiver.isDropped = false := by simpa [hreceiver] using h.hasReceiver
  refine ⟨h.hasSender, h.hasReceiver, fun _ => ?_, fun hdropped => ?_⟩
  · simp only [h.present hthere, List.append_assoc]
  · rw [hthere] at hdropped
    cases hdropped

/-- The receiver has more of what waited. -/
theorem advance (h : Faithful sender receiver c) (hthere : receiver.isDropped = false)
    {pieces rest : List Bytes} (hwaiting : c.waiting = pieces ++ rest) {receiver' : EndRecord}
    (hhas : receiver'.has = receiver.has ++ pieces) (hdropped : receiver'.isDropped = false) :
    Faithful sender receiver' { c with waiting := rest } := by
  refine ⟨h.hasSender, ?_, fun _ => ?_, fun hgone => ?_⟩
  · rw [hdropped, ← hthere]
    exact h.hasReceiver
  · simp only [hhas, h.present hthere, hwaiting, List.append_assoc]
  · rw [hdropped] at hgone
    cases hgone

theorem dropReceiver (h : Faithful sender receiver c) :
    Faithful sender { receiver with isDropped := true } c.dropReceiver :=
  ⟨h.hasSender, rfl, fun hthere => (Bool.noConfusion hthere), fun _ => h.front⟩

theorem dropSender (h : Faithful sender receiver c) :
    Faithful { sender with isDropped := true } receiver c.dropSender :=
  ⟨rfl, h.hasReceiver, h.present, h.gone⟩

end Faithful

/-! ## Both ways -/

namespace PairSession

/-- Both ways of a pair are faithful. -/
def Orderly (s : PairSession) : Prop :=
  ∀ side, Faithful (s.record side.other) (s.record side) (s.pair.pipeTo side)

theorem orderly_new : ({} : PairSession).Orderly := by
  intro side
  cases side <;> exact ⟨rfl, rfl, fun _ => rfl, fun hdropped => by cases hdropped⟩

namespace Orderly

variable {s : PairSession} {side : Side}

/-- An end acts on the way to it and on the way from it. -/
theorem note {r : EndRecord} {pair : MemoryPair}
    (hto : Faithful (s.record side.other) r (pair.pipeTo side))
    (hfrom : Faithful r (s.record side.other) (pair.pipeTo side.other)) :
    (s.note side r pair).Orderly := by
  intro end'
  have hne : side.other ≠ side := by cases side <;> decide
  obtain rfl | rfl : end' = side ∨ end' = side.other := by cases end' <;> cases side <;> decide
  · simpa [PairSession.note, Function.update_of_ne hne] using hto
  · simpa [PairSession.note, Function.update_of_ne hne] using hfrom

theorem acts (h : s.Orderly) (hthere : (s.record side).isDropped = false) {r : EndRecord}
    {pair : MemoryPair} (hacts : s.Acts side r pair) : (s.note side r pair).Orderly := by
  have hto := h side
  have hfrom := h side.other
  rw [Side.other_other] at hfrom
  cases hacts with
  | sends bytes hreceiver =>
    refine note ?_ ?_
    · rw [MemoryPair.pipeTo_setPipeTo_other_same]
      exact hto.of_receiver rfl rfl
    · rw [MemoryPair.pipeTo_setPipeTo_same]
      exact hfrom.send bytes hreceiver
  | takes pieces rest hwaiting hsent hhas hdropped =>
    refine note ?_ ?_
    · rw [MemoryPair.pipeTo_setPipeTo_same]
      exact hto.advance hthere hwaiting hhas hdropped
    · rw [MemoryPair.pipeTo_setPipeTo_other]
      exact hfrom.of_sender hsent (hdropped.trans hthere.symm)
  | drops =>
    refine note ?_ ?_
    · rw [MemoryPair.close, MemoryPair.pipeTo_setPipeTo_other_same,
        MemoryPair.pipeTo_setPipeTo_same]
      exact hto.dropReceiver
    · rw [MemoryPair.close, MemoryPair.pipeTo_setPipeTo_same]
      exact hfrom.dropSender

theorem step (h : s.Orderly) (side : Side) (action : EndAction) :
    (s.step side action).Orderly := by
  obtain hsame | ⟨hthere, r, pair, hstep, hacts⟩ := s.step_cases side action
  · rwa [hsame]
  · rw [hstep]
    exact h.acts hthere hacts

theorem run (h : s.Orderly) (actions : List (Side × EndAction)) : (s.run actions).Orderly := by
  induction actions generalizing s with
  | nil => exact h
  | cons action actions ih => exact ih (h.step action.1 action.2)

end Orderly

/-! ## What is delivered -/

/-- What an end has, it keeps. -/
theorem has_step (s : PairSession) (side : Side) (action : EndAction) (end' : Side) :
    (s.record end').has <+: ((s.step side action).record end').has := by
  obtain hsame | ⟨-, r, pair, hstep, hacts⟩ := s.step_cases side action
  · simp [hsame]
  · rw [hstep]
    simp only [note]
    by_cases hend : end' = side
    · subst hend
      rw [Function.update_self]
      cases hacts with
      | sends bytes hreceiver => exact List.prefix_rfl
      | takes pieces rest hwaiting hsent hhas hdropped => exact ⟨pieces, hhas.symm⟩
      | drops => exact List.prefix_rfl
    · simp [Function.update_of_ne hend]

/-- The pieces that were sent to an end and that it does not have. -/
def due (s : PairSession) (side : Side) : List Bytes :=
  (s.record side.other).sent.drop (s.record side).has.length

/-- The other end is gone and has sent nothing more. -/
def Exhausted (s : PairSession) (side : Side) : Prop :=
  (s.record side.other).isDropped = true ∧ s.due side = []

instance (s : PairSession) (side : Side) : Decidable (s.Exhausted side) :=
  inferInstanceAs (Decidable (_ ∧ _))

/-- What an end has, and what its operations give it. -/
structure Delivers (s : PairSession) (side : Side) : Prop where
  /-- An end has, piece by piece and in order, what the other end has sent, up to some point. -/
  sent : (s.record side.other).sent = (s.record side).has ++ s.due side
  transmit (bytes : Bytes) : (s.pair.transmit side bytes).1 =
    if (s.record side.other).isDropped then .error .disconnected else .ok ()
  receive (hthere : (s.record side).isDropped = false) : (s.pair.receive side).1 =
    if s.Exhausted side then .error .disconnected else .ok (s.due side).head?
  drain (hthere : (s.record side).isDropped = false) : (s.pair.drain side).1 =
    if s.Exhausted side then .error .disconnected else .ok (s.due side)
  /-- A turn of a drain takes the next piece, and without one the drain is over. -/
  drainTurn (hthere : (s.record side).isDropped = false) (pieces : List Bytes) :
    ((s.pair.pipeTo side).drainTurn pieces).1 =
      match s.due side with
      | bytes :: _ => .more (pieces ++ [bytes])
      | [] => .done (if s.Exhausted side ∧ pieces = [] then .error .disconnected else .ok pieces)

namespace Orderly

variable {s : PairSession} {side : Side}

theorem sent_eq (h : s.Orderly) (side : Side) :
    (s.record side.other).sent = (s.record side).has ++ s.due side := by
  obtain ⟨rest, hrest⟩ := (h side).front
  rw [due, ← hrest, List.drop_left]

/-- What an end does not have waits for it. -/
theorem waiting_eq (h : s.Orderly) (hthere : (s.record side).isDropped = false) :
    (s.pair.pipeTo side).waiting = s.due side := by
  have hpresent := (h side).present hthere
  rw [h.sent_eq side] at hpresent
  exact (List.append_cancel_left hpresent).symm

theorem exhausted_iff (h : s.Orderly) (hthere : (s.record side).isDropped = false) :
    (s.pair.pipeTo side).hasSender = false ∧ (s.pair.pipeTo side).waiting = [] ↔
      s.Exhausted side := by
  rw [Exhausted, h.waiting_eq hthere, (h side).hasSender, Bool.not_eq_false']

theorem transmit_fst (h : s.Orderly) (bytes : Bytes) : (s.pair.transmit side bytes).1 =
    if (s.record side.other).isDropped then .error .disconnected else .ok () := by
  have hreceiver := (h side.other).hasReceiver
  cases hdropped : (s.record side.other).isDropped with
  | false => simp [MemoryPair.transmit, Pipe.send, hreceiver, hdropped]
  | true => simp [MemoryPair.transmit, Pipe.send, hreceiver, hdropped]

theorem receive_fst (h : s.Orderly) (hthere : (s.record side).isDropped = false) :
    (s.pair.receive side).1 =
      if s.Exhausted side then .error .disconnected else .ok (s.due side).head? := by
  rw [← h.waiting_eq hthere, MemoryPair.receive]
  simp only [← h.exhausted_iff hthere]
  rcases htake : (s.pair.pipeTo side).take with ⟨absence | bytes, c⟩
  · obtain ⟨rfl, hwaiting, hsender⟩ := Pipe.take_error htake
    cases absence with
    | empty => simp [hwaiting, hsender]
    | disconnected => simp [hwaiting, hsender]
  · obtain ⟨rest, hwaiting, rfl⟩ := Pipe.take_ok htake
    simp [hwaiting]

theorem drain_fst (h : s.Orderly) (hthere : (s.record side).isDropped = false) :
    (s.pair.drain side).1 =
      if s.Exhausted side then .error .disconnected else .ok (s.due side) := by
  rw [← h.waiting_eq hthere, MemoryPair.drain, Pipe.drain_eq, List.nil_append]
  simp only [h.exhausted_iff hthere]

theorem drainTurn_fst (h : s.Orderly) (hthere : (s.record side).isDropped = false)
    (pieces : List Bytes) : ((s.pair.pipeTo side).drainTurn pieces).1 =
      match s.due side with
      | bytes :: _ => .more (pieces ++ [bytes])
      | [] => .done (if s.Exhausted side ∧ pieces = [] then .error .disconnected
        else .ok pieces) := by
  have hexhausted := h.exhausted_iff hthere
  rw [← h.waiting_eq hthere]
  rcases hturn : (s.pair.pipeTo side).drainTurn pieces with ⟨all | result, c⟩
  · obtain ⟨bytes, rest, hwaiting, rfl, rfl⟩ := Pipe.drainTurn_more hturn
    rw [hwaiting]
  · obtain ⟨rfl, hwaiting, rfl⟩ := Pipe.drainTurn_done hturn
    rw [hwaiting] at hexhausted ⊢
    simp only [← hexhausted, and_true]

end Orderly

/-- A pair of ends is a pair of lossless queues. However the two ends act in turn, and wherever a
drain of one is interrupted by the other, each end has the first of the pieces that the other end
has sent, whole and in order, and keeps what it has. To send fails exactly if the other end is gone.
To receive gives the next piece that is still due, and to drain gives all of them. An end hears that
the other is gone only when that one has been dropped and nothing of what it sent is due, and a drain
that has taken something gives that instead. -/
theorem pair_delivers (actions : List (Side × EndAction)) (side : Side) :
    (({} : PairSession).run actions).Delivers side ∧
      ∀ (end' : Side) (action : EndAction),
        ((({} : PairSession).run actions).record side).has <+:
          (((({} : PairSession).run actions).step end' action).record side).has := by
  have h := orderly_new.run actions
  refine ⟨?_, fun end' action => has_step _ end' action side⟩
  exact ⟨h.sent_eq side, h.transmit_fst, h.receive_fst, h.drain_fst, h.drainTurn_fst⟩

/-- An end that is dropped in the middle of a drain has sent all that the drain gives. -/
example : ((({} : PairSession).run [(.left, .transmit [1]), (.right, .beginDrain),
    (.right, .drainTurn), (.left, .transmit [2]), (.left, .drop), (.right, .drainTurn),
    (.right, .drainTurn)]).record .right).received = [[1], [2]] := by
  rfl

end PairSession

end HarnessLink
