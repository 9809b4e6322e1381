import HarnessLink.Packet.Message
import Mathlib.Algebra.GroupWithZero.Nat
import Mathlib.Tactic.SplitIfs

/-!
# What a body calls for

The body of each message is a row of fields: words, data behind its length, entries behind
their count. A body tells part by part how many bytes its fields call for. It is read if it holds
that many, whatever stands behind them, and otherwise the first part that is not there is at fault.
-/
namespace HarnessLink

/-- A field of a body. -/
inductive Field where
  | word (width : Nat)
  /-- A two-byte length and as many bytes. -/
  | blob
  /-- A one-byte count and as many entries, each a row of words. -/
  | entries (widths : List Nat)
  deriving DecidableEq

namespace Field

/-- The parts that a field at the front of `body` asks for, in bytes. A length or a count that
is not there is zero. -/
def asks (body : Bytes) : Field → List Nat
  | word width => [width]
  | blob => [2, (Word.ofLe16 (body.getD 0 0) (body.getD 1 0)).toNat]
  | entries widths => 1 :: (List.replicate (body.getD 0 0).toNat widths).flatten

/-- The parts that a row of fields asks for. -/
def asksAll : List Field → Bytes → List Nat
  | [], _ => []
  | f :: rest, body => f.asks body ++ asksAll rest (body.drop (f.asks body).sum)

theorem asksAll_append (fields more : List Field) (body : Bytes) :
    asksAll (fields ++ more) body =
      asksAll fields body ++ asksAll more (body.drop (asksAll fields body).sum) := by
  induction fields generalizing body with
  | nil => rfl
  | cons f rest ih =>
    simp only [List.cons_append, asksAll, ih, List.append_assoc, List.sum_append, List.drop_drop]

/-- Words ask for their widths. -/
theorem asksAll_words (widths : List Nat) (body : Bytes) :
    asksAll (widths.map word) body = widths := by
  induction widths generalizing body with
  | nil => rfl
  | cons width rest ih => simp only [List.map_cons, asksAll, asks, ih, List.singleton_append]

end Field

/-- The first of the parts that is not there when so many bytes are left. -/
def Shortfall.first? : List Nat → Nat → Option Shortfall
  | [], _ => none
  | needed :: rest, available =>
    if needed ≤ available then first? rest (available - needed) else some ⟨needed, available⟩

theorem Shortfall.first?_eq_none_iff {parts : List Nat} {available : Nat} :
    first? parts available = none ↔ parts.sum ≤ available := by
  induction parts generalizing available with
  | nil => simp [first?]
  | cons needed rest ih =>
    rw [first?, List.sum_cons]
    split_ifs with h
    · rw [ih]
      omega
    · simp only [false_iff]
      omega

theorem Shortfall.first?_append (parts more : List Nat) (available : Nat) :
    first? (parts ++ more) available =
      (first? parts available).or (first? more (available - parts.sum)) := by
  induction parts generalizing available with
  | nil => rfl
  | cons needed rest ih =>
    rw [List.cons_append, first?, first?]
    split_ifs with h
    · rw [ih, List.sum_cons, Nat.sub_sub]
    · rfl

/-! ## Readers -/

/-- A reader takes fields: it stops at the first part that is not there, and otherwise takes the
bytes that are asked for and sees no others. -/
structure Field.Takes (fields : List Field) (read : Bytes → Except Shortfall (α × Bytes)) :
    Prop where
  short : ∀ {body s}, Shortfall.first? (asksAll fields body) body.length = some s →
    read body = .error s
  whole : ∀ {body}, (asksAll fields body).sum ≤ body.length → ∃ a, ∀ more,
    read (body ++ more) = .ok (a, body.drop (asksAll fields body).sum ++ more)

namespace Field.Takes

/-- Without anything behind the body. -/
theorem exact {fields : List Field} {read : Bytes → Except Shortfall (α × Bytes)}
    (h : Takes fields read) {body : Bytes} (hbody : (asksAll fields body).sum ≤ body.length) :
    ∃ a, read body = .ok (a, body.drop (asksAll fields body).sum) := by
  obtain ⟨a, ha⟩ := h.whole hbody
  exact ⟨a, by simpa using ha []⟩

theorem nothing (a : α) : Takes [] fun body => .ok (a, body) where
  short h := by cases h
  whole _ := ⟨a, fun _ => rfl⟩

/-- One reader behind the other. -/
theorem both {fields more : List Field} {read : Bytes → Except Shortfall (α × Bytes)}
    {read' : Bytes → Except Shortfall (β × Bytes)} (h : Takes fields read) (h' : Takes more read')
    (f : α → β → γ) :
    Takes (fields ++ more) fun body =>
      read body >>= fun x => read' x.2 >>= fun y => pure (f x.1 y.1, y.2) := by
  refine ⟨fun {body s} hshort => ?_, fun {body} hwhole => ?_⟩
  · rw [asksAll_append, Shortfall.first?_append, ← List.length_drop] at hshort
    cases hfirst : Shortfall.first? (asksAll fields body) body.length with
    | some s' =>
      rw [hfirst] at hshort
      obtain rfl := Option.some.inj hshort
      simp only [h.short hfirst]
      rfl
    | none =>
      rw [hfirst, Option.none_or] at hshort
      obtain ⟨a, ha⟩ := h.exact (Shortfall.first?_eq_none_iff.mp hfirst)
      simp only [ha]
      show (read' (body.drop _) >>= _) = _
      rw [h'.short hshort]
      rfl
  · rw [asksAll_append, List.sum_append] at hwhole ⊢
    have hfirst : (asksAll fields body).sum ≤ body.length := by omega
    have hsecond : (asksAll more (body.drop (asksAll fields body).sum)).sum ≤
        (body.drop (asksAll fields body).sum).length := by
      rw [List.length_drop]
      omega
    obtain ⟨a, ha⟩ := h.whole hfirst
    obtain ⟨b, hb⟩ := h'.whole hsecond
    refine ⟨f a b, fun rest => ?_⟩
    simp only [ha]
    show (read' (body.drop _ ++ rest) >>= _) = _
    rw [hb, List.drop_drop]
    rfl

/-- The same bytes read as another type. -/
theorem map {fields : List Field} {read : Bytes → Except Shortfall (α × Bytes)}
    (h : Takes fields read) (f : α → β) :
    Takes fields fun body => (read body).map fun x => (f x.1, x.2) := by
  refine ⟨fun {body s} hshort => ?_, fun {body} hwhole => ?_⟩
  · simp only [h.short hshort]
    rfl
  · obtain ⟨a, ha⟩ := h.whole hwhole
    refine ⟨f a, fun more => ?_⟩
    simp only [ha]
    rfl

end Field.Takes

/-! ## Layouts -/

namespace Layout

/-- Reading a value of the layout takes fields. -/
abbrev Takes (l : Layout α) (fields : List Field) : Prop := Field.Takes fields l.read

theorem Takes.pair {l : Layout α} {m : Layout β} {fields more : List Field} (h : l.Takes fields)
    (h' : m.Takes more) : (l.pair m).Takes (fields ++ more) :=
  h.both h' Prod.mk

theorem Takes.via {l : Layout α} {fields : List Field} (h : l.Takes fields) (build : α → β)
    (view : β → α) : (l.via build view).Takes fields :=
  h.map build

/-- A word of `width` bytes, of which any spell one. -/
theorem takes_word {l : Layout α} {width : Nat}
    (hshort : ∀ short, short.length < width → l.read short = .error ⟨width, short.length⟩)
    (hread : ∀ front, front.length = width → ∃ a, ∀ rest, l.read (front ++ rest) = .ok (a, rest)) :
    l.Takes [.word width] := by
  refine ⟨fun {body s} h => ?_, fun {body} h => ?_⟩
  · simp only [Field.asksAll, Field.asks, List.append_nil, Shortfall.first?] at h
    split_ifs at h with hwidth
    obtain rfl := Option.some.inj h
    exact hshort body (Nat.lt_of_not_le hwidth)
  · simp only [Field.asksAll, Field.asks, List.append_nil, List.sum_singleton] at h ⊢
    obtain ⟨a, ha⟩ := hread (body.take width) (List.length_take_of_le h)
    refine ⟨a, fun more => ?_⟩
    rw [← ha, ← List.append_assoc, List.take_append_drop]

theorem u8_takes : u8.Takes [.word 1] := by
  apply takes_word
  · intro short h
    obtain rfl := List.length_eq_zero_iff.mp (Nat.lt_one_iff.mp h)
    rfl
  · intro front h
    obtain ⟨b, rfl⟩ := List.length_eq_one_iff.mp h
    exact ⟨b, fun _ => rfl⟩

theorem u16_takes : u16.Takes [.word 2] := by
  apply takes_word
  · intro short h
    match short with
    | [] | [_] => rfl
    | _ :: _ :: _ =>
      simp only [List.length_cons] at h
      omega
  · intro front h
    match front with
    | [a, b] => exact ⟨Word.ofLe16 a b, fun _ => rfl⟩

/-- Four bytes, in whatever order they spell a word. -/
theorem takes_four {l : Layout α} (build : UInt8 → UInt8 → UInt8 → UInt8 → α)
    (hshort : ∀ short, short.length < 4 → l.read short = .error ⟨4, short.length⟩)
    (hread : ∀ a b c d rest, l.read (a :: b :: c :: d :: rest) = .ok (build a b c d, rest)) :
    l.Takes [.word 4] := by
  apply takes_word hshort
  intro front h
  match front with
  | [a, b, c, d] => exact ⟨build a b c d, hread a b c d⟩

theorem u32_takes : u32.Takes [.word 4] := by
  refine takes_four Word.ofLe32 (fun short h => ?_) fun _ _ _ _ _ => rfl
  match short with
  | [] | [_] | [_, _] | [_, _, _] => rfl
  | _ :: _ :: _ :: _ :: _ =>
    simp only [List.length_cons] at h
    omega

theorem u32be_takes : u32be.Takes [.word 4] := by
  refine takes_four Word.ofBe32 (fun short h => ?_) fun _ _ _ _ _ => rfl
  match short with
  | [] | [_] | [_, _] | [_, _, _] => rfl
  | _ :: _ :: _ :: _ :: _ =>
    simp only [List.length_cons] at h
    omega

theorem deviceId_takes : deviceId.Takes [.word 4] := u32_takes.via _ _

theorem status_takes : status.Takes [.word 2] := u16_takes.via _ _

theorem flag_takes : flag.Takes [.word 1] := u8_takes.via _ _

/-- Data behind a whole length. -/
theorem read_blob (what : String) (a b : UInt8) (rest : Bytes) :
    (blob what).read (a :: b :: rest) =
      if (Word.ofLe16 a b).toNat ≤ rest.length then
        .ok (rest.take (Word.ofLe16 a b).toNat, rest.drop (Word.ofLe16 a b).toNat)
      else .error ⟨(Word.ofLe16 a b).toNat, rest.length⟩ := by
  have hlength : (rest.take (Word.ofLe16 a b).toNat).length = (Word.ofLe16 a b).toNat ↔
      (Word.ofLe16 a b).toNat ≤ rest.length := by
    rw [List.length_take]
    omega
  show (if (rest.take (Word.ofLe16 a b).toNat).length = (Word.ofLe16 a b).toNat then _ else _) = _
  simp only [hlength]
  rfl

theorem blob_takes (what : String) : (blob what).Takes [.blob] := by
  refine ⟨fun {body s} h => ?_, fun {body} h => ?_⟩
  · match body with
    | [] | [_] => exact congrArg Except.error (Option.some.inj h)
    | a :: b :: rest =>
      simp only [Field.asksAll, Field.asks, List.append_nil, List.getD_cons_zero,
        List.getD_cons_succ, Shortfall.first?, List.length_cons, Nat.le_add_left, if_true] at h
      split_ifs at h with hlength
      obtain rfl := Option.some.inj h
      exact (read_blob what a b rest).trans (if_neg hlength)
  · match body with
    | [] => simp [Field.asksAll, Field.asks] at h
    | [_] =>
      simp [Field.asksAll, Field.asks] at h
      omega
    | a :: b :: rest =>
      simp only [Field.asksAll, Field.asks, List.append_nil, List.getD_cons_zero,
        List.getD_cons_succ, List.length_cons, List.sum_cons, List.sum_nil, Nat.add_zero] at h ⊢
      have hlength : (Word.ofLe16 a b).toNat ≤ rest.length := by omega
      refine ⟨rest.take (Word.ofLe16 a b).toNat, fun more => ?_⟩
      rw [List.cons_append, List.cons_append, read_blob,
        if_pos (by rw [List.length_append]; omega), List.take_append_of_le_length hlength,
        List.drop_append_of_le_length hlength, Nat.add_comm 2]
      rfl

/-- As many entries as counted are as many rows of words. -/
theorem readMany_takes {entry : Layout α} {widths : List Nat}
    (h : entry.Takes (widths.map .word)) (count : Nat) :
    Field.Takes ((List.replicate count widths).flatten.map .word) (entry.readMany count) := by
  induction count with
  | zero => exact .nothing []
  | succ count ih =>
    rw [List.replicate_succ, List.flatten_cons, List.map_append]
    exact h.both ih List.cons

theorem counted_takes {entry : Layout α} {widths : List Nat} (h : entry.Takes (widths.map .word))
    (what : String) : (counted what entry).Takes [.entries widths] := by
  refine ⟨fun {body s} hshort => ?_, fun {body} hwhole => ?_⟩
  · match body with
    | [] => exact congrArg Except.error (Option.some.inj hshort)
    | count :: rest =>
      have hmany := readMany_takes h count.toNat
      simp only [Field.asksAll, Field.asks, List.append_nil, List.getD_cons_zero,
        Shortfall.first?, List.length_cons, Nat.add_sub_cancel, Nat.le_add_left, if_true] at hshort
      rw [← Field.asksAll_words (List.replicate count.toNat widths).flatten rest] at hshort
      exact hmany.short hshort
  · match body with
    | [] => simp [Field.asksAll, Field.asks] at hwhole
    | count :: rest =>
      have hmany := readMany_takes h count.toNat
      simp only [Field.asksAll, Field.asks, List.append_nil, List.getD_cons_zero, List.sum_cons,
        List.length_cons] at hwhole ⊢
      rw [← Field.asksAll_words (List.replicate count.toNat widths).flatten rest] at hwhole ⊢
      have hrest : (Field.asksAll ((List.replicate count.toNat widths).flatten.map .word)
          rest).sum ≤ rest.length := by omega
      obtain ⟨values, hvalues⟩ := hmany.whole hrest
      refine ⟨values, fun more => ?_⟩
      rw [Nat.add_comm 1]
      exact hvalues more

end Layout

/-! ## Bodies of the catalogue -/

/-- The fields of a body, under the name that the body has in faults. -/
structure Shape where
  name : String
  fields : List Field
  deriving DecidableEq

namespace Shape

/-- The first part of a body that is not there. -/
def shortfall? (shape : Shape) (body : Bytes) : Option Shortfall :=
  Shortfall.first? (Field.asksAll shape.fields body) body.length

/-- The bytes that the fields, counts and lengths of a body call for. -/
def demand (shape : Shape) (body : Bytes) : Nat := (Field.asksAll shape.fields body).sum

theorem shortfall?_eq_none_iff {shape : Shape} {body : Bytes} :
    shape.shortfall? body = none ↔ shape.demand body ≤ body.length :=
  Shortfall.first?_eq_none_iff

def window (name : String) : Shape := ⟨name, [.word 1, .word 1, .word 2, .word 2, .word 2]⟩

def readOrder : Shape := ⟨"ReadData", [.word 1]⟩

def windowInfo (name : String) : Shape := ⟨name, .word 1 :: (window name).fields⟩

def report : Shape := ⟨"DataReport", [.word 2, .blob]⟩

def slaves : List Field := [.entries [4, 1, 1, 1, 2]]

def resets : List Field := [.entries [4, 1, 2]]

def upload : Shape := ⟨"UploadData", [.blob]⟩

/-- The bodies of a direction, by the ids of their messages. -/
def catalogue : Direction → List (UInt8 × Shape)
  | .masterToSlave =>
    [(0x00, ⟨"Sync", [.word 1, .word 4]⟩), (0x10, window "CondCfg"), (0x11, window "ResCfg"),
     (0x12, ⟨"ClipCfg", [.word 1, .word 1, .word 2]⟩), (0x20, readOrder), (0x21, readOrder),
     (0x22, readOrder), (0x30, ⟨"Rst", [.word 1, .word 2]⟩), (0x40, ⟨"PingReq", [.word 2, .word 4]⟩)]
  | .slaveToMaster =>
    [(0x10, windowInfo "CondInfo"), (0x11, windowInfo "ResInfo"),
     (0x12, ⟨"ClipInfo", [.word 1, .word 1, .word 1, .word 2]⟩), (0x20, report), (0x21, report),
     (0x22, ⟨"ClipReport", [.word 2, .word 2]⟩), (0x30, ⟨"RstAck", [.word 1, .word 1, .word 2]⟩),
     (0x40, ⟨"PingRsp", [.word 2, .word 4]⟩)]
  | .backendToMaster =>
    [(0x00, ⟨"SlaveCfg", slaves⟩), (0x01, ⟨"ModeCfg", [.word 1]⟩), (0x02, ⟨"ResetCmd", resets⟩),
     (0x03, ⟨"Ctrl", [.word 1]⟩), (0x04, ⟨"DeviceListReq", [.word 1]⟩)]
  | .masterToBackend =>
    [(0x00, ⟨"SlaveCfgRsp", .word 1 :: slaves⟩), (0x01, ⟨"ModeCfgRsp", [.word 1, .word 1]⟩),
     (0x02, ⟨"ResetRsp", .word 1 :: resets⟩), (0x03, ⟨"CtrlRsp", [.word 1, .word 1]⟩),
     (0x04, ⟨"DeviceListRsp", [.entries [4, 1, 1, 1, 1, 2]]⟩)]
  | .slaveToBackend =>
    [(0x20, upload), (0x21, upload), (0x22, ⟨"UploadClip", [.word 2]⟩)]

/-- The body of a message, if the direction knows the id. -/
def of? (direction : Direction) (id : UInt8) : Option Shape := (catalogue direction).lookup id

/-- What a reader makes of a body: the fault of the first part that is not there, or a value
that bytes behind the last part do not change. -/
structure Describes (shape : Shape) (read : Bytes → Except PacketError α) : Prop where
  short : ∀ {body s}, shape.shortfall? body = some s →
    read body = .error (.truncated shape.name s.needed s.available)
  whole : ∀ {body}, shape.shortfall? body = none → ∃ a, ∀ more, read (body ++ more) = .ok a

theorem Describes.map {shape : Shape} {read : Bytes → Except PacketError α}
    (h : shape.Describes read) (f : α → β) : shape.Describes fun body => (read body).map f := by
  refine ⟨fun {body s} hshort => ?_, fun {body} hwhole => ?_⟩
  · simp only [h.short hshort]
    rfl
  · obtain ⟨a, ha⟩ := h.whole hwhole
    refine ⟨f a, fun more => ?_⟩
    simp only [ha]
    rfl

end Shape

/-- A layout reads the bodies of its fields. -/
theorem Layout.Takes.describes {l : Layout α} {fields : List Field} (h : l.Takes fields)
    (name : String) (build : α → β) :
    (Shape.mk name fields).Describes fun body => (l.readBody name body).map build := by
  apply Shape.Describes.map
  refine ⟨fun {body s} hshort => ?_, fun {body} hwhole => ?_⟩
  · rw [readBody, h.short hshort]
  · obtain ⟨a, ha⟩ := h.whole (Shape.shortfall?_eq_none_iff.mp hwhole)
    exact ⟨a, fun more => by rw [readBody, ha]⟩

/-- What a direction makes of bodies under an id. -/
def Shape.Rules (direction : Direction) (id : UInt8) (read : Bytes → Except PacketError α) : Prop :=
  match of? direction id with
  | some shape => shape.Describes read
  | none => ∀ body, read body = .error (.unknownMessage direction id)

theorem Shape.Rules.map {direction : Direction} {id : UInt8}
    {read : Bytes → Except PacketError α} (h : Rules direction id read) (f : α → β) :
    Rules direction id fun body => (read body).map f := by
  unfold Rules at h ⊢
  split
  · next heq =>
    rw [heq] at h
    exact Describes.map h f
  · next heq =>
    rw [heq] at h
    intro body
    simp only [h body]
    rfl

theorem TestWindow.layout_takes (name : String) : layout.Takes (Shape.window name).fields :=
  (Layout.u8_takes.pair (Layout.u8_takes.pair (Layout.u16_takes.pair
    (Layout.u16_takes.pair Layout.u16_takes)))).via _ _

theorem ClipSetting.layout_takes : layout.Takes [.word 1, .word 1, .word 2] :=
  (Layout.u8_takes.pair (Layout.u8_takes.pair Layout.u16_takes)).via _ _

theorem ResetOrder.layout_takes : layout.Takes [.word 1, .word 2] :=
  (Layout.u8_takes.pair Layout.u16_takes).via _ _

theorem Ping.layout_takes : layout.Takes [.word 2, .word 4] :=
  (Layout.u16_takes.pair Layout.u32_takes).via _ _

theorem BackendToMaster.slaves_takes : slaves.Takes Shape.slaves := by
  apply Layout.counted_takes
  exact (Layout.deviceId_takes.pair (Layout.u8_takes.pair (Layout.u8_takes.pair
    (Layout.u8_takes.pair Layout.u16_takes)))).via _ _

theorem BackendToMaster.resets_takes : resets.Takes Shape.resets := by
  apply Layout.counted_takes
  exact (Layout.deviceId_takes.pair (Layout.u8_takes.pair Layout.u16_takes)).via _ _

theorem MasterToBackend.devices_takes : devices.Takes [.entries [4, 1, 1, 1, 1, 2]] := by
  apply Layout.counted_takes
  exact (Layout.deviceId_takes.pair (Layout.u8_takes.pair (Layout.flag_takes.pair
    (Layout.u8_takes.pair (Layout.u8_takes.pair Layout.u16_takes))))).via _ _

theorem MasterToSlave.rules (id : UInt8) : Shape.Rules .masterToSlave id (read id) := by
  unfold read
  split_ifs with h0 h1 h2 h3 h4 h5 h6 h7 h8
  all_goals try subst id
  · exact ((Layout.u8_takes.pair Layout.u32be_takes).via _ _).describes "Sync" sync
  · exact (TestWindow.layout_takes "CondCfg").describes "CondCfg" configureConduction
  · exact (TestWindow.layout_takes "ResCfg").describes "ResCfg" configureResistance
  · exact ClipSetting.layout_takes.describes "ClipCfg" configureClip
  · exact Layout.u8_takes.describes "ReadData" readConduction
  · exact Layout.u8_takes.describes "ReadData" readResistance
  · exact Layout.u8_takes.describes "ReadData" readClip
  · exact ResetOrder.layout_takes.describes "Rst" reset
  · exact Ping.layout_takes.describes "PingReq" ping
  · simp [Shape.Rules, Shape.of?, Shape.catalogue, List.lookup_cons, beq_false_of_ne, *]

theorem SlaveToMaster.rules (id : UInt8) : Shape.Rules .slaveToMaster id (read id) := by
  unfold read
  split_ifs with h0 h1 h2 h3 h4 h5 h6 h7
  all_goals try subst id
  · exact (Layout.u8_takes.pair (TestWindow.layout_takes "CondInfo")).describes "CondInfo" _
  · exact (Layout.u8_takes.pair (TestWindow.layout_takes "ResInfo")).describes "ResInfo" _
  · exact (Layout.u8_takes.pair ClipSetting.layout_takes).describes "ClipInfo" _
  · exact (Layout.status_takes.pair (Layout.blob_takes "report data")).describes "DataReport" _
  · exact (Layout.status_takes.pair (Layout.blob_takes "report data")).describes "DataReport" _
  · exact (Layout.status_takes.pair Layout.u16_takes).describes "ClipReport" _
  · exact (Layout.u8_takes.pair ResetOrder.layout_takes).describes "RstAck" _
  · exact Ping.layout_takes.describes "PingRsp" _
  · simp [Shape.Rules, Shape.of?, Shape.catalogue, List.lookup_cons, beq_false_of_ne, *]

theorem BackendToMaster.rules (id : UInt8) : Shape.Rules .backendToMaster id (read id) := by
  unfold read
  split_ifs with h0 h1 h2 h3 h4
  all_goals try subst id
  · exact slaves_takes.describes "SlaveCfg" configure
  · exact Layout.u8_takes.describes "ModeCfg" selectMode
  · exact resets_takes.describes "ResetCmd" reset
  · exact Layout.u8_takes.describes "Ctrl" control
  · exact Layout.u8_takes.describes "DeviceListReq" listDevices
  · simp [Shape.Rules, Shape.of?, Shape.catalogue, List.lookup_cons, beq_false_of_ne, *]

theorem MasterToBackend.rules (id : UInt8) : Shape.Rules .masterToBackend id (read id) := by
  unfold read
  split_ifs with h0 h1 h2 h3 h4
  all_goals try subst id
  · exact (Layout.u8_takes.pair BackendToMaster.slaves_takes).describes "SlaveCfgRsp" _
  · exact (Layout.u8_takes.pair Layout.u8_takes).describes "ModeCfgRsp" _
  · exact (Layout.u8_takes.pair BackendToMaster.resets_takes).describes "ResetRsp" _
  · exact (Layout.u8_takes.pair Layout.u8_takes).describes "CtrlRsp" _
  · exact devices_takes.describes "DeviceListRsp" _
  · simp [Shape.Rules, Shape.of?, Shape.catalogue, List.lookup_cons, beq_false_of_ne, *]

theorem SlaveToBackend.rules (id : UInt8) : Shape.Rules .slaveToBackend id (read id) := by
  unfold read
  split_ifs with h0 h1 h2
  all_goals try subst id
  · exact (Layout.blob_takes "upload data").describes "UploadData" conductionData
  · exact (Layout.blob_takes "upload data").describes "UploadData" resistanceData
  · exact Layout.u16_takes.describes "UploadClip" clipData
  · simp [Shape.Rules, Shape.of?, Shape.catalogue, List.lookup_cons, beq_false_of_ne, *]

/-- Every direction reads the bodies of its catalogue and no others. -/
theorem Message.rules (direction : Direction) (id : UInt8) :
    Shape.Rules direction id (read direction id) := by
  cases direction with
  | masterToSlave => exact (MasterToSlave.rules id).map _
  | slaveToMaster => exact (SlaveToMaster.rules id).map _
  | backendToMaster => exact (BackendToMaster.rules id).map _
  | masterToBackend => exact (MasterToBackend.rules id).map _
  | slaveToBackend => exact (SlaveToBackend.rules id).map _

end HarnessLink
