import HarnessLink.Proofs.Link.Lossless

/-!
# Links that lose answers

A lossy link hands every transmission to the slaves of a bus, and any of their answers never
arrive. Those that do arrive come in order, in whatever pieces, and before the time for which
they are waited for has passed. A medium whose plan only delivers transmissions and loses
answers is one.
-/
namespace HarnessLink

/-- `holds s waiting` says that in the state `s` the bytes `waiting` of answers have not been
received, and `bus` is what is behind the link. -/
structure Link.Lossy {σ : Type} (behavior : Link σ) (bus : σ → SlaveBus)
    (holds : σ → Bytes → Prop) : Prop where
  /-- Of the answers the link keeps some. -/
  transmit : ∀ {s waiting}, holds s waiting → ∀ bytes, ∃ (s' : σ) (kept : List Bytes),
    behavior.transmit bytes s = (.ok (), s') ∧ bus s' = ((bus s).receive bytes).2 ∧
      kept.Sublist ((bus s).receive bytes).1 ∧ holds s' (waiting ++ kept.flatten)
  /-- Who waits gets a piece in time, unless nothing is left. -/
  receive : ∀ {s waiting}, holds s waiting → ∀ timeout,
    (∃ s', behavior.receive timeout s = (.ok none, s') ∧ bus s' = bus s ∧ holds s' waiting ∧
      (timeout ≠ .zero → waiting = [])) ∨
    ∃ piece rest s', behavior.receive timeout s = (.ok (some piece), s') ∧
      waiting = piece ++ rest ∧ bus s' = bus s ∧ holds s' rest ∧
      (timeout ≠ .zero → ((behavior.clock s).add timeout).sub (behavior.clock s') ≠ .zero)
  watch : ∀ {s waiting}, holds s waiting → ∀ phase,
    bus (behavior.watch phase s) = bus s ∧ holds (behavior.watch phase s) waiting

namespace Medium

/-- The medium delivers every transmission, loses answers or brings them in pieces, and never
hangs up. -/
structure Dropping (m : Medium) (waiting : Bytes) : Prop where
  inbox : ∃ arrived : List Bytes, m.inbox = arrived.map .ok ∧ arrived.flatten = waiting
  late : m.late = []
  plan : ∀ fate ∈ m.plan, fate = .delivered ∨ fate = .answersLost
  noise : m.noise = []
  staysUp : m.hangsUpAfterSync = false
  isUp : m.hungUp = false

theorem flatten_pieces (size : Nat) (bytes : Bytes) : (pieces size bytes).flatten = bytes := by
  fun_induction pieces size bytes with
  | case1 bytes _ => exact List.append_nil bytes
  | case2 bytes _ ih => rw [List.flatten_cons, ih, List.take_append_drop]

/-- The answers that are not lost. -/
def kept (fate : Fate) (answers : List Bytes) : List Bytes :=
  if fate = .answersLost then [] else answers

theorem flatten_kept {fate : Fate} (h : fate = .delivered ∨ fate = .answersLost) (size : Nat)
    (answers : List Bytes) :
    (answers.flatMap (arriving fate size)).flatten = (kept fate answers).flatten := by
  obtain rfl | rfl := h
  · rw [kept, if_neg (by decide)]
    induction answers with
    | nil => rfl
    | cons answer rest ih =>
      rw [List.flatMap_cons, List.flatten_append, ih, List.flatten_cons]
      exact congrArg (· ++ rest.flatten) (flatten_pieces size answer)
  · rw [kept, if_pos rfl]
    simp [arriving]

theorem sublist_kept (fate : Fate) (answers : List Bytes) : (kept fate answers).Sublist answers := by
  rw [kept]
  split
  · exact List.nil_sublist answers
  · exact List.Sublist.refl answers

/-- The slaves hear what is transmitted, and their answers arrive or are lost. -/
theorem deliver_dropping {m : Medium} {waiting : Bytes} (h : m.Dropping waiting) {fate : Fate}
    (hfate : fate = .delivered ∨ fate = .answersLost) (bytes : Bytes) :
    (m.deliver fate bytes).Dropping (waiting ++ (kept fate (m.bus.receive bytes).1).flatten) := by
  obtain ⟨arrived, hinbox, harrived⟩ := h.inbox
  have hdeferred : (m.bus.receive bytes).1.flatMap (deferred fate m.pieceSize) = [] := by
    rw [List.flatMap_eq_nil_iff]
    obtain rfl | rfl := hfate <;> exact fun _ _ => rfl
  have hinterrupted : fate ≠ .interrupted := by
    obtain rfl | rfl := hfate <;> decide
  constructor
  · refine ⟨arrived ++ (m.bus.receive bytes).1.flatMap (arriving fate m.pieceSize), ?_, ?_⟩
    · simp [deliver, enqueue, hinterrupted, hinbox, h.noise]
    · rw [List.flatten_append, harrived, flatten_kept hfate]
  · simp only [deliver, enqueue, hdeferred, h.late, List.append_nil]
  · exact h.plan
  · exact h.noise
  · exact h.staysUp
  · simp only [deliver, enqueue, h.staysUp, Bool.false_and]

theorem transmit_dropping {m : Medium} {waiting : Bytes} (h : m.Dropping waiting)
    (bytes : Bytes) :
    ∃ fate m', m.transmit bytes = (.ok (), m') ∧ m'.bus = (m.bus.receive bytes).2 ∧
      m'.Dropping (waiting ++ (kept fate (m.bus.receive bytes).1).flatten) := by
  have hfate : m.plan.headD .delivered = .delivered ∨ m.plan.headD .delivered = .answersLost := by
    cases hplan : m.plan with
    | nil => exact Or.inl rfl
    | cons fate rest => exact h.plan fate (by rw [hplan]; exact List.mem_cons_self ..)
  let m₁ : Medium := { m with sent := m.sent ++ [bytes], plan := m.plan.drop 1, late := [] }
  have hm₁ : (m₁.enqueue m.late).Dropping waiting := by
    refine { h with inbox := ?_, late := rfl, plan := ?_ }
    · simpa [m₁, enqueue, h.late] using h.inbox
    · exact fun fate hmem => h.plan fate (List.mem_of_mem_drop hmem)
  refine ⟨m.plan.headD .delivered, (m₁.enqueue m.late).deliver (m.plan.headD .delivered) bytes,
    ?_, rfl, deliver_dropping hm₁ hfate bytes⟩
  have hup : ¬m.hungUp = true := by simp [h.isUp]
  rw [transmit, if_neg hup]
  obtain hdelivered | hlost := hfate
  · simp only [hdelivered]
    rfl
  · simp only [hlost]
    rfl

/-- A medium that only drops answers is a lossy link. -/
theorem link_lossy : link.Lossy Medium.bus Dropping where
  transmit := by
    intro m waiting h bytes
    obtain ⟨fate, m', htransmit, hbus, hm'⟩ := transmit_dropping h bytes
    exact ⟨m', kept fate (m.bus.receive bytes).1, htransmit, hbus, sublist_kept _ _, hm'⟩
  receive := by
    intro m waiting h timeout
    obtain ⟨arrived, hinbox, harrived⟩ := h.inbox
    have hreceive : link.receive timeout m = m.receive := rfl
    rw [hreceive, receive, hinbox]
    cases arrived with
    | nil =>
      refine Or.inl ⟨m, ?_, rfl, h, fun _ => harrived.symm⟩
      simp [h.isUp]
    | cons piece rest =>
      refine Or.inr ⟨piece, rest.flatten, { m with inbox := rest.map .ok }, rfl,
        harrived.symm, rfl, { h with inbox := ⟨rest, rfl, rfl⟩ }, fun hpos => ?_⟩
      show (m.time.add timeout).sub m.time ≠ .zero
      rwa [Duration.sub_add]
  watch := by
    intro m waiting h phase
    exact ⟨rfl, h⟩

end Medium

end HarnessLink
