import HarnessLink.Json.Record
import HarnessLink.Proofs.Packet.DeviceText
import HarnessLink.Proofs.Packet.Layouts

/-!
# Records are read by name

An object lists its fields in any order, among others that the record does not have. As long as
no name is there twice, and setting one field of the record does not touch what another sets, the
record that is read depends only on what the object has under each name: it is the one that
setting the record's fields in their own order gives.
-/
namespace HarnessLink.Json

variable {ρ α β : Type}

/-! ## Fields that do not touch each other -/

namespace Field

/-- A record that setting `f` and then `g` gives is also given by setting `g` first. -/
def Before (f g : Field ρ) : Prop :=
  ∀ v w r r', (f.set v r >>= g.set w) = .ok r' → (g.set w r >>= f.set v) = .ok r'

/-- Two fields may be set in either order when their values may be put in either order. -/
theorem before_of_put {f g : Field ρ} {readf : Json → Except Fault α} {putf : α → ρ → ρ}
    {readg : Json → Except Fault β} {putg : β → ρ → ρ}
    (hf : f.set = (needed f.name readf putf).set) (hg : g.set = (needed g.name readg putg).set)
    (hput : ∀ a b r, putg b (putf a r) = putf a (putg b r)) : f.Before g := by
  intro v w r r' h
  rw [hf, hg] at h ⊢
  obtain ⟨r₁, hfirst, hsecond⟩ := ok_of_bind h
  obtain ⟨a, ha, rfl⟩ := ok_of_map hfirst
  obtain ⟨b, hb, rfl⟩ := ok_of_map hsecond
  simp only [needed, ha, hb, hput]
  rfl

/-- Set a field to what the object has under its name, if it has something there. -/
def setFrom (values : List (String × Json)) (f : Field ρ) (r : ρ) : Except Fault ρ :=
  match values.lookup f.name with
  | some v => f.set v r
  | none => .ok r

variable {values : List (String × Json)} {name : String} {v : Json}

theorem setFrom_cons_self (f : Field ρ) (r : ρ) :
    f.setFrom ((f.name, v) :: values) r = f.set v r := by
  rw [setFrom, List.lookup_cons_self]

theorem setFrom_cons_of_ne {f : Field ρ} (h : f.name ≠ name) (r : ρ) :
    f.setFrom ((name, v) :: values) r = f.setFrom values r := by
  have hname : (f.name == name) = false := beq_eq_false_iff_ne.mpr h
  rw [setFrom, List.lookup_cons, hname, setFrom]

theorem setFrom_of_lookup_eq_none {f : Field ρ} (h : values.lookup f.name = none) (r : ρ) :
    f.setFrom values r = .ok r := by
  rw [setFrom, h]

theorem Before.setFrom {f g : Field ρ} (h : f.Before g) {r r₁ r₂ : ρ}
    (hf : f.setFrom values r = .ok r₁) (hg : g.set v r₁ = .ok r₂) :
    ∃ r₀, g.set v r = .ok r₀ ∧ f.setFrom values r₀ = .ok r₂ := by
  cases hw : values.lookup f.name with
  | none =>
    simp only [Field.setFrom, hw] at hf ⊢
    obtain rfl := Except.ok.inj hf
    exact ⟨r₂, hg, rfl⟩
  | some w =>
    simp only [Field.setFrom, hw] at hf ⊢
    have hboth : (f.set w r >>= g.set v) = .ok r₂ := by
      rw [hf]
      exact hg
    exact ok_of_bind (h w v r r₂ hboth)

end Field

namespace Shape

/-- No two fields have one name, and each may be set before those in front of it. -/
def Independent (fields : List (Field ρ)) : Prop :=
  fields.Pairwise fun f g => f.name ≠ g.name ∧ f.Before g

/-- Set the fields in their own order, each to what the object has under its name. -/
def setEach (values : List (String × Json)) : List (Field ρ) → ρ → Except Fault ρ
  | [], r => .ok r
  | f :: fields, r => f.setFrom values r >>= setEach values fields

variable {fields : List (Field ρ)} {values : List (String × Json)} {name : String} {v : Json}

/-- A field with a value gets it. -/
theorem setEach_needed {read : Json → Except Fault α} {put : α → ρ → ρ} {a : α}
    (hv : values.lookup name = some v) (hread : read v = .ok a) (r : ρ) :
    setEach values (.needed name read put :: fields) r = setEach values fields (put a r) := by
  have hset : (Field.needed name read put).setFrom values r = .ok (put a r) := by
    simp only [Field.setFrom, Field.needed, hv, hread]
    rfl
  rw [setEach, hset]
  rfl

theorem setEach_optional {read : Json → Except Fault α} {put : α → ρ → ρ} {a : α}
    (hv : values.lookup name = some v) (hread : read v = .ok a) (r : ρ) :
    setEach values (.optional name read put :: fields) r = setEach values fields (put a r) :=
  setEach_needed hv hread r

/-- A field without a value stays as it is. -/
theorem setEach_optional_of_lookup_eq_none {read : Json → Except Fault α} {put : α → ρ → ρ}
    (hv : values.lookup name = none) (r : ρ) :
    setEach values (.optional name read put :: fields) r = setEach values fields r := by
  rw [setEach, Field.setFrom_of_lookup_eq_none hv]
  rfl

/-- A field that must be there is not missed if it has a value. -/
theorem missing?_needed {read : Json → Except Fault α} {put : α → ρ → ρ}
    (hv : values.lookup name = some v) :
    missing? (.needed name read put :: fields) values = missing? fields values := by
  have hthere : ((Field.needed name read put).required &&
      (values.lookup (Field.needed name read put).name).isNone) = false := by
    simp only [Field.needed, hv, Option.isNone_some, Bool.and_false]
  rw [missing?, List.find?_cons, hthere, missing?]

theorem setEach_nil (fields : List (Field ρ)) (r : ρ) : setEach [] fields r = .ok r := by
  induction fields with
  | nil => rfl
  | cons f fields ih => exact ih

/-- A value of a name that no field has is passed over. -/
theorem setEach_cons_of_ne (h : ∀ f ∈ fields, f.name ≠ name) (r : ρ) :
    setEach ((name, v) :: values) fields r = setEach values fields r := by
  induction fields generalizing r with
  | nil => rfl
  | cons f fields ih =>
    have hrest := ih fun g hg => h g (List.mem_cons_of_mem f hg)
    rw [setEach, setEach, Field.setFrom_cons_of_ne (h f List.mem_cons_self), funext hrest]

/-- A field that has a value may be set first. -/
theorem setEach_cons_of_mem (hfields : Independent fields) (hvalues : values.lookup name = none)
    {f : Field ρ} (hf : f ∈ fields) (hname : f.name = name) {r r' : ρ}
    (h : setEach ((name, v) :: values) fields r = .ok r') :
    ∃ r₀, f.set v r = .ok r₀ ∧ setEach values fields r₀ = .ok r' := by
  subst hname
  induction fields generalizing r with
  | nil => cases hf
  | cons g fields ih =>
    obtain ⟨hfirst, hrest⟩ := List.pairwise_cons.mp hfields
    obtain ⟨r₁, hset, hthen⟩ := ok_of_bind h
    rcases List.mem_cons.mp hf with rfl | hf
    · rw [Field.setFrom_cons_self] at hset
      rw [setEach_cons_of_ne fun g hg => (hfirst g hg).1.symm] at hthen
      refine ⟨r₁, hset, ?_⟩
      rw [setEach, Field.setFrom_of_lookup_eq_none hvalues]
      exact hthen
    · obtain ⟨hne, hbefore⟩ := hfirst f hf
      rw [Field.setFrom_cons_of_ne hne] at hset
      obtain ⟨r₂, hnext, hthen⟩ := ih hrest hf hthen
      -- `f` was set behind `g`, and may as well be set before it.
      obtain ⟨r₀, hf₀, hg₀⟩ := hbefore.setFrom hset hnext
      refine ⟨r₀, hf₀, ?_⟩
      rw [setEach, hg₀]
      exact hthen

/-- The order of an object's fields does not matter. -/
theorem setNamed_of_setEach (hfields : Independent fields)
    (hvalues : (values.map Prod.fst).Nodup) {r r' : ρ} (h : setEach values fields r = .ok r') :
    setNamed fields values r = .ok r' := by
  induction values generalizing r with
  | nil => rwa [setEach_nil] at h
  | cons entry values ih =>
    obtain ⟨name, v⟩ := entry
    obtain ⟨hname, hrest⟩ := List.nodup_cons.mp hvalues
    rw [setNamed]
    cases hfind : fields.find? fun f => f.name = name with
    | none =>
      rw [setEach_cons_of_ne] at h
      · exact ih hrest h
      · intro f hf
        simpa using List.find?_eq_none.mp hfind f hf
    | some f =>
      have habsent : values.lookup name = none := by
        rw [List.lookup_eq_none_iff]
        rintro ⟨other, w⟩ hw
        have hother : other ∈ values.map Prod.fst := List.mem_map_of_mem hw
        rw [bne_iff_ne]
        rintro rfl
        exact hname hother
      obtain ⟨r₁, hset, h⟩ := setEach_cons_of_mem hfields habsent
        (List.mem_of_find?_eq_some hfind) (by simpa using List.find?_some hfind) h
      simp only [hset]
      exact ih hrest h

/-- An object is read as the record that its fields give, in whatever order it has them. -/
theorem read_object {shape : Shape ρ} (hfields : Independent shape.fields)
    (hvalues : (values.map Prod.fst).Nodup) {r : ρ}
    (hset : setEach values shape.fields shape.blank = .ok r)
    (hneeded : missing? shape.fields values = none) : shape.read (.object values) = .ok r := by
  simp only [read, setNamed_of_setEach hfields hvalues hset, hneeded]
  rfl

end Shape

/-! ## Values of a known shape -/

theorem byteOf_byte (b : UInt8) : byteOf (.byte b) = .ok b := by
  have hb : 0 ≤ (b.toNat : Int) ∧ (b.toNat : Int) ≤ 255 := by
    have := b.toNat_lt
    omega
  simp only [byteOf, byte, natural, if_pos hb, Int.toNat_natCast, UInt8.ofNat_toNat]

theorem wordOf_word (w : UInt16) : wordOf (.word w) = .ok w := by
  have hw : 0 ≤ (w.toNat : Int) ∧ (w.toNat : Int) ≤ 65535 := by
    have := w.toNat_lt
    omega
  simp only [wordOf, word, natural, if_pos hw, Int.toNat_natCast, UInt16.ofNat_toNat]

theorem wordOf_byte (b : UInt8) : wordOf (.byte b) = .ok b.toUInt16 := by
  have hword : Json.byte b = .word b.toUInt16 := by
    rw [byte, word, UInt8.toNat_toUInt16]
  rw [hword, wordOf_word]

theorem deviceIdOf_text (id : DeviceId) : deviceIdOf (.string id.text) = .ok id := by
  have htext : textOf (.string id.text) = .ok id.text := rfl
  simp only [deviceIdOf, htext, bind, Except.bind, DeviceId.ofText_text, pure, Except.pure]

/-- A list is read item by item. -/
theorem listOf_array {read : Json → Except Fault β} {f : α → β} {as : List α} {items : List Json}
    (h : List.Forall₂ (fun a v => read v = .ok (f a)) as items) :
    listOf read (.array items) = .ok (as.map f) := by
  rw [listOf]
  induction h with
  | nil => rfl
  | cons hv _ ih =>
    rw [List.mapM_cons, hv, ih]
    rfl

end HarnessLink.Json
