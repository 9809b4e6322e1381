import HarnessLink.Proofs.Json.Records
import Mathlib.Data.List.Nodup

/-!
# What a record is read from

A value is read as a record if it is one in writing, and only then: an object, or an array with no
item too many, in which every field that must be there has a value, and every value of a field has
the right form. What the record has in a field is what the value has there, or the usual where the
field is absent. This is said of one field at a time, whatever order an object has its fields in.
An object that has a name twice may be read as a record of the later value, so only values without
such objects are read whenever they are records.
-/
namespace HarnessLink.Json

variable {ρ α : Type}

/-! ## Fields in writing -/

/-- No object has a name twice, here or deeper. -/
inductive Distinct : Json → Prop
  | null : Distinct .null
  | boolean (b : Bool) : Distinct (.boolean b)
  | integer (n : Int) : Distinct (.integer n)
  | real (x : Binary64) : Distinct (.real x)
  | string (s : String) : Distinct (.string s)
  | array {items : List Json} (h : ∀ w ∈ items, Distinct w) : Distinct (.array items)
  | object {fields : List (String × Json)} (names : (fields.map Prod.fst).Nodup)
      (h : ∀ name w, (name, w) ∈ fields → Distinct w) : Distinct (.object fields)

/-- An object has the value under the name, an array at the place. -/
inductive Holds (name : String) (place : Nat) : Json → Json → Prop
  | named {fields : List (String × Json)} {w : Json} (h : (name, w) ∈ fields) :
      Holds name place (.object fields) w
  | placed {items : List Json} {w : Json} (h : items[place]? = some w) :
      Holds name place (.array items) w

theorem Distinct.holds {name : String} {place : Nat} {v w : Json} (h : v.Distinct)
    (hw : Holds name place v w) : w.Distinct := by
  cases hw with
  | named hw =>
    cases h with
    | object _ hfields => exact hfields _ _ hw
  | placed hw =>
    cases h with
    | array hitems => exact hitems w (List.mem_of_getElem? hw)

theorem Distinct.holds_unique {name : String} {place : Nat} {v w w' : Json} (h : v.Distinct)
    (hw : Holds name place v w) (hw' : Holds name place v w') : w = w' := by
  cases hw with
  | named hw =>
    cases hw' with
    | named hw' =>
      cases h with
      | object hnames _ => exact congrArg Prod.snd (List.inj_on_of_nodup_map hnames hw hw' rfl)
  | placed hw =>
    cases hw' with
    | placed hw' => exact Option.some.inj (hw.symm.trans hw')

/-- An object, or an array of no more items than a record has fields. -/
inductive IsRecord (size : Nat) : Json → Prop
  | object (fields : List (String × Json)) : IsRecord size (.object fields)
  | array {items : List Json} (h : items.length ≤ size) : IsRecord size (.array items)

/-- A field that has to be there, with a value that means `a`. -/
def Needs (name : String) (place : Nat) (means : Json → α → Prop) (v : Json) (a : α) : Prop :=
  ∃ w, Holds name place v w ∧ means w a

/-- A field that may be absent, and means the usual then. -/
inductive May (name : String) (place : Nat) (means : Json → α → Prop) (usual : α) (v : Json) :
    α → Prop
  | given {w : Json} {a : α} (held : Holds name place v w) (meant : means w a) :
      May name place means usual v a
  | absent (h : ∀ w, ¬ Holds name place v w) : May name place means usual v usual

/-! ## Values of a known form -/

def IsByte (v : Json) (b : UInt8) : Prop := v = .byte b

def IsWord (v : Json) (w : UInt16) : Prop := v = .word w

def IsText (v : Json) (s : String) : Prop := v = .string s

/-- A list, item by item. -/
inductive IsList (means : Json → α → Prop) : Json → List α → Prop
  | array {items : List Json} {as : List α} (h : List.Forall₂ means items as) :
      IsList means (.array items) as

/-- A value that may be null. -/
inductive IsOption (means : Json → α → Prop) : Json → Option α → Prop
  | null : IsOption means .null none
  | value {v : Json} {a : α} (h : means v a) : IsOption means v (some a)

/-- A reader gives what values mean. -/
structure Meaning (read : Json → Except Fault α) (means : Json → α → Prop) : Prop where
  sound : ∀ v a, read v = .ok a → means v a
  complete : ∀ v a, v.Distinct → means v a → read v = .ok a

theorem byteOf_meaning : Meaning byteOf IsByte where
  sound v b h := by
    unfold byteOf at h
    split at h
    · next n =>
      split at h
      · next hn =>
        cases h
        have hsame : ((UInt8.ofNat n.toNat).toNat : Int) = n := by
          rw [UInt8.toNat_ofNat']
          omega
        rw [IsByte, byte, natural, hsame]
      · cases h
    · cases h
  complete v b _ h := by
    rw [h, byteOf_byte]

theorem wordOf_meaning : Meaning wordOf IsWord where
  sound v w h := by
    unfold wordOf at h
    split at h
    · next n =>
      split at h
      · next hn =>
        cases h
        have hsame : ((UInt16.ofNat n.toNat).toNat : Int) = n := by
          rw [UInt16.toNat_ofNat']
          omega
        rw [IsWord, word, natural, hsame]
      · cases h
    · cases h
  complete v w _ h := by
    rw [h, wordOf_word]

theorem textOf_meaning : Meaning textOf IsText where
  sound v s h := by
    unfold textOf at h
    split at h <;> cases h
    rfl
  complete v s _ h := by
    rw [h, textOf]

/-- What is read item by item. -/
theorem forall₂_of_mapM {ε β : Type} {f : α → Except ε β} {as : List α} {bs : List β}
    (h : as.mapM f = .ok bs) : List.Forall₂ (fun a b => f a = .ok b) as bs := by
  induction as generalizing bs with
  | nil =>
    cases h
    exact .nil
  | cons a as ih =>
    rw [List.mapM_cons] at h
    obtain ⟨b, hb, hrest⟩ := ok_of_bind h
    obtain ⟨later, hlater, hall⟩ := ok_of_bind hrest
    cases hall
    exact .cons hb (ih hlater)

theorem mapM_of_forall₂ {ε β : Type} {f : α → Except ε β} {as : List α} {bs : List β}
    (h : List.Forall₂ (fun a b => f a = .ok b) as bs) : as.mapM f = .ok bs := by
  induction h with
  | nil => rfl
  | cons hb _ ih =>
    rw [List.mapM_cons, hb, ih]
    rfl

section

variable {read : Json → Except Fault α} {means : Json → α → Prop}

theorem Meaning.list (h : Meaning read means) : Meaning (listOf read) (IsList means) where
  sound v as hread := by
    unfold listOf at hread
    split at hread
    · exact .array ((forall₂_of_mapM hread).imp h.sound)
    · cases hread
  complete v as hv hmeans := by
    obtain @⟨items, as, hall⟩ := hmeans
    cases hv with
    | array hitems =>
      exact mapM_of_forall₂ <| ((List.forall₂_and_left items as).mpr ⟨hitems, hall⟩).imp
        fun v a hva => h.complete v a hva.1 hva.2

/-- If null means nothing by itself, it may stand for nothing. -/
theorem Meaning.option (h : Meaning read means) (hnull : ∀ a, ¬ means .null a) :
    Meaning (optionOf read) (IsOption means) where
  sound v a? hread := by
    unfold optionOf at hread
    split at hread
    · cases hread
      exact .null
    · obtain ⟨a, ha, rfl⟩ := ok_of_map hread
      exact .value (h.sound _ a ha)
  complete v a? hv hmeans := by
    cases hmeans with
    | null => rfl
    | @value v a ha =>
      have hread := h.complete v a hv ha
      unfold optionOf
      split
      · exact absurd ha (hnull a)
      · rw [hread]
        rfl

end

/-! ## One field of a record -/

namespace Field

/-- The field is set to what is read, and that is found in the record. -/
structure Gives (f : Field ρ) (read : Json → Except Fault α) (get : ρ → α) : Prop where
  found : ∀ v r r', f.set v r = .ok r' → read v = .ok (get r')
  taken : ∀ v a r, read v = .ok a → ∃ r', f.set v r = .ok r'

/-- To set the field leaves this part of the record alone. -/
def Keeps (f : Field ρ) (get : ρ → α) : Prop := ∀ v r r', f.set v r = .ok r' → get r' = get r

theorem gives_of_put {f : Field ρ} {read : Json → Except Fault α} {put : α → ρ → ρ} {get : ρ → α}
    (hset : f.set = (needed f.name read put).set) (h : ∀ a r, get (put a r) = a) :
    f.Gives read get := by
  constructor
  · intro v r r' hput
    rw [hset] at hput
    obtain ⟨a, ha, rfl⟩ := ok_of_map hput
    rw [h, ha]
  · intro v a r hread
    refine ⟨put a r, ?_⟩
    simp only [hset, needed, hread]
    rfl

theorem keeps_of_put {β : Type} {f : Field ρ} {read : Json → Except Fault β} {put : β → ρ → ρ}
    {get : ρ → α} (hset : f.set = (needed f.name read put).set)
    (h : ∀ b r, get (put b r) = get r) : f.Keeps get := by
  intro v r r' hput
  rw [hset] at hput
  obtain ⟨b, -, rfl⟩ := ok_of_map hput
  exact h b r

end Field

namespace Shape

/-- The field at this place has this name and sets one part of the record, which no other field
touches. -/
structure Component (fields : List (Field ρ)) (place : Nat) (name : String) (required : Bool)
    (read : Json → Except Fault α) (get : ρ → α) : Prop where
  here : ∃ f, fields[place]? = some f ∧ f.name = name ∧ f.required = required ∧ f.Gives read get
  others : ∀ g ∈ fields.eraseIdx place, g.name ≠ name ∧ g.Keeps get

variable {fields : List (Field ρ)} {place : Nat} {name : String} {required : Bool}
  {read : Json → Except Fault α} {get : ρ → α} {r r' : ρ}

/-- A field that puts what it reads into a part, among others that leave this part alone. -/
theorem Component.of_put {f : Field ρ} {put : α → ρ → ρ} (here : fields[place]? = some f)
    (hname : f.name = name) (hrequired : f.required = required)
    (hset : f.set = (Field.needed f.name read put).set) (hget : ∀ a r, get (put a r) = a)
    (others : (fields.eraseIdx place).Forall fun g => g.name ≠ name ∧ g.Keeps get) :
    Component fields place name required read get :=
  ⟨⟨f, here, hname, hrequired, Field.gives_of_put hset hget⟩, List.forall_iff_forall_mem.mp others⟩

/-- A field of this name sets this part. -/
theorem Component.of_name_eq (h : Component fields place name required read get) {g : Field ρ}
    (hg : g ∈ fields) (hname : g.name = name) : g.Gives read get := by
  obtain ⟨f, hf, -, -, hgives⟩ := h.here
  obtain ⟨i, hi⟩ := List.mem_iff_getElem?.mp hg
  by_cases hplace : i = place
  · subst hplace
    obtain rfl := Option.some.inj (hi.symm.trans hf)
    exact hgives
  · exact absurd hname (h.others g (List.mem_eraseIdx_iff_getElem?.mpr ⟨i, hplace, hi⟩)).1

/-- A field of another name touches other parts. -/
theorem Component.of_name_ne (h : Component fields place name required read get) {g : Field ρ}
    (hg : g ∈ fields) (hname : g.name ≠ name) : g.Keeps get := by
  obtain ⟨f, hf, hsame, -, -⟩ := h.here
  obtain ⟨i, hi⟩ := List.mem_iff_getElem?.mp hg
  have hplace : i ≠ place := by
    rintro rfl
    obtain rfl := Option.some.inj (hi.symm.trans hf)
    exact hname hsame
  exact (h.others g (List.mem_eraseIdx_iff_getElem?.mpr ⟨i, hplace, hi⟩)).2

/-- The first entry of an object sets the field of its name, if there is one. -/
theorem setNamed_cons {v : Json} {values : List (String × Json)}
    (h : setNamed fields ((name, v) :: values) r = .ok r') :
    ∃ r₁, setNamed fields values r₁ = .ok r' ∧
      ((∃ g ∈ fields, g.name = name ∧ g.set v r = .ok r₁) ∨
        (∀ g ∈ fields, g.name ≠ name) ∧ r₁ = r) := by
  rw [setNamed] at h
  cases hfind : fields.find? fun g => g.name = name with
  | none =>
    rw [hfind] at h
    refine ⟨r, h, Or.inr ⟨fun g hg => ?_, rfl⟩⟩
    simpa using List.find?_eq_none.mp hfind g hg
  | some g =>
    rw [hfind] at h
    obtain ⟨r₁, hfirst, hrest⟩ := ok_of_bind h
    exact ⟨r₁, hrest, Or.inl ⟨g, List.mem_of_find?_eq_some hfind,
      by simpa using List.find?_some hfind, hfirst⟩⟩

/-- In an object the last value of the name counts, and without one the part stays. -/
theorem Component.of_setNamed (h : Component fields place name required read get)
    {values : List (String × Json)} (hset : setNamed fields values r = .ok r') :
    (∃ w, (name, w) ∈ values ∧ read w = .ok (get r')) ∨
      (∀ w, (name, w) ∉ values) ∧ get r' = get r := by
  induction values generalizing r with
  | nil =>
    cases hset
    exact Or.inr ⟨by simp, rfl⟩
  | cons entry rest ih =>
    obtain ⟨key, v⟩ := entry
    obtain ⟨r₁, hrest, hfirst⟩ := setNamed_cons hset
    obtain ⟨w, hw, hread⟩ | ⟨habsent, hkept⟩ := ih hrest
    · exact Or.inl ⟨w, List.mem_cons_of_mem _ hw, hread⟩
    by_cases hkey : key = name
    · subst hkey
      obtain ⟨g, hg, hsame, hown⟩ | ⟨hnone, -⟩ := hfirst
      · have hread := (h.of_name_eq hg hsame).found v r r₁ hown
        exact Or.inl ⟨v, List.mem_cons_self, by rw [hread, hkept]⟩
      · obtain ⟨f, hf, hsame, -⟩ := h.here
        exact absurd hsame (hnone f (List.mem_of_getElem? hf))
    · have hbefore : get r₁ = get r := by
        obtain ⟨g, hg, rfl, hother⟩ | ⟨-, rfl⟩ := hfirst
        · exact h.of_name_ne hg hkey v r r₁ hother
        · rfl
      refine Or.inr ⟨fun w hw => ?_, hkept.trans hbefore⟩
      rcases List.mem_cons.mp hw with hsame | hlater
      · exact hkey (congrArg Prod.fst hsame).symm
      · exact habsent w hlater

/-- Fields that leave a part alone leave it alone together. -/
theorem keeps_setOrdered {whole : String} {index : Nat} {items : List Json}
    (h : ∀ g ∈ fields, g.Keeps get) (hset : setOrdered whole index fields items r = .ok r') :
    get r' = get r := by
  induction fields generalizing index items r with
  | nil =>
    cases items <;> cases hset
    rfl
  | cons g fields ih =>
    have hrest : ∀ g ∈ fields, g.Keeps get := fun g' hg' => h g' (List.mem_cons_of_mem g hg')
    cases items with
    | nil =>
      rw [setOrdered] at hset
      split at hset
      · cases hset
      · exact ih hrest hset
    | cons v items =>
      rw [setOrdered] at hset
      obtain ⟨r₁, hfirst, hlater⟩ := ok_of_bind hset
      exact (ih hrest hlater).trans (h g List.mem_cons_self v r r₁ hfirst)

/-- In an array the item at the place counts, and if it ends before the part stays, unless the
field has to be there. -/
theorem Component.of_setOrdered (h : Component fields place name required read get)
    {whole : String} {index : Nat} {items : List Json}
    (hset : setOrdered whole index fields items r = .ok r') :
    (∃ w, items[place]? = some w ∧ read w = .ok (get r')) ∨
      required = false ∧ items[place]? = none ∧ get r' = get r := by
  obtain ⟨⟨f, here, -, rfl, own⟩, others⟩ := h
  induction fields generalizing place index items r with
  | nil => cases here
  | cons g fields ih =>
    cases place with
    | zero =>
      obtain rfl := Option.some.inj here
      have hrest : ∀ g ∈ fields, g.Keeps get := fun g hg => (others g hg).2
      cases items with
      | nil =>
        rw [setOrdered] at hset
        split at hset
        · cases hset
        · next hrequired =>
          exact Or.inr ⟨by simpa using hrequired, rfl, keeps_setOrdered hrest hset⟩
      | cons v items =>
        rw [setOrdered] at hset
        obtain ⟨r₁, hfirst, hlater⟩ := ok_of_bind hset
        refine Or.inl ⟨v, rfl, ?_⟩
        rw [own.found v r r₁ hfirst, keeps_setOrdered hrest hlater]
    | succ place =>
      have hthere : fields[place]? = some f := here
      have hrest : ∀ g ∈ fields.eraseIdx place, g.name ≠ name ∧ g.Keeps get :=
        fun g' hg' => others g' (List.mem_cons_of_mem g hg')
      cases items with
      | nil =>
        rw [setOrdered] at hset
        split at hset
        · cases hset
        · simpa using ih hset hrest hthere
      | cons v items =>
        rw [setOrdered] at hset
        obtain ⟨r₁, hfirst, hlater⟩ := ok_of_bind hset
        have hkept := (others g List.mem_cons_self).2 v r r₁ hfirst
        simpa [hkept] using ih hlater hrest hthere

/-- An array that is read has no item too many. -/
theorem length_of_setOrdered {whole : String} {index : Nat} {items : List Json}
    (hset : setOrdered whole index fields items r = .ok r') : items.length ≤ fields.length := by
  induction fields generalizing index items r with
  | nil =>
    cases items with
    | nil => exact Nat.le_refl 0
    | cons v items => cases hset
  | cons g fields ih =>
    cases items with
    | nil => exact Nat.zero_le _
    | cons v items =>
      rw [setOrdered] at hset
      obtain ⟨r₁, -, hlater⟩ := ok_of_bind hset
      exact Nat.succ_le_succ (ih hlater)

variable {shape : Shape ρ} {v : Json}

/-- Only records in writing are read. -/
theorem isRecord_of_read (h : shape.read v = .ok r) : IsRecord shape.fields.length v := by
  unfold Shape.read at h
  split at h
  · exact .object _
  · exact .array (length_of_setOrdered h)
  · cases h

/-- A part of a record that is read is what the value has in its field, or the usual where the
field is absent and may be. -/
theorem Component.of_read (h : Component shape.fields place name required read get)
    (hread : shape.read v = .ok r) :
    (∃ w, Holds name place v w ∧ read w = .ok (get r)) ∨
      required = false ∧ (∀ w, ¬ Holds name place v w) ∧ get r = get shape.blank := by
  unfold Shape.read at hread
  split at hread
  · next values =>
    obtain ⟨r₁, hset, hmissing⟩ := ok_of_bind hread
    cases hmiss : missing? shape.fields values with
    | some missing =>
      rw [hmiss] at hmissing
      cases hmissing
    | none =>
      rw [hmiss] at hmissing
      cases hmissing
      obtain ⟨w, hw, hvalue⟩ | ⟨habsent, hkept⟩ := h.of_setNamed hset
      · exact Or.inl ⟨w, .named hw, hvalue⟩
      · refine Or.inr ⟨?_, ?_, hkept⟩
        · have hlookup : values.lookup name = none := by
            rw [List.lookup_eq_none_iff]
            rintro ⟨key, w⟩ hw
            rw [bne_iff_ne]
            rintro rfl
            exact habsent w hw
          obtain ⟨f, hf, rfl, rfl, -⟩ := h.here
          rw [missing?, Option.map_eq_none_iff] at hmiss
          simpa [hlookup] using List.find?_eq_none.mp hmiss f (List.mem_of_getElem? hf)
        · intro w hw
          cases hw with
          | named hw => exact habsent w hw
  · next items =>
    obtain ⟨w, hw, hvalue⟩ | ⟨hrequired, habsent, hkept⟩ := h.of_setOrdered hread
    · exact Or.inl ⟨w, .placed hw, hvalue⟩
    · refine Or.inr ⟨hrequired, ?_, hkept⟩
      intro w hw
      cases hw with
      | placed hw =>
        rw [habsent] at hw
        cases hw
  · cases hread

variable {means : Json → α → Prop} {a usual : α}

/-- A field that has to be there is there. -/
theorem Component.needs (h : Component shape.fields place name true read get)
    (hmeans : Meaning read means) (hread : shape.read v = .ok r) :
    Needs name place means v (get r) := by
  obtain ⟨w, hw, hvalue⟩ | ⟨hoptional, -⟩ := h.of_read hread
  · exact ⟨w, hw, hmeans.sound w _ hvalue⟩
  · cases hoptional

theorem Component.may (h : Component shape.fields place name false read get)
    (hmeans : Meaning read means) (hread : shape.read v = .ok r) :
    May name place means (get shape.blank) v (get r) := by
  obtain ⟨w, hw, hvalue⟩ | ⟨-, habsent, hkept⟩ := h.of_read hread
  · exact .given hw (hmeans.sound w _ hvalue)
  · rw [hkept]
    exact .absent habsent

/-! ## Records that are read -/

/-- The value has for the field at this place what can be read, and has something if it must. -/
def Suits (fields : List (Field ρ)) (v : Json) (place : Nat) : Prop :=
  ∀ f, fields[place]? = some f →
    (∀ w, Holds f.name place v w → ∀ r, ∃ r', f.set w r = .ok r') ∧
      (f.required = true → ∃ w, Holds f.name place v w)

theorem exists_setNamed {values : List (String × Json)}
    (h : ∀ f ∈ fields, ∀ w, (f.name, w) ∈ values → ∀ r, ∃ r', f.set w r = .ok r') (r : ρ) :
    ∃ r', setNamed fields values r = .ok r' := by
  induction values generalizing r with
  | nil => exact ⟨r, rfl⟩
  | cons entry rest ih =>
    obtain ⟨key, v⟩ := entry
    have hrest := ih fun f hf w hw => h f hf w (List.mem_cons_of_mem _ hw)
    rw [setNamed]
    cases hfind : fields.find? fun g => g.name = key with
    | none => exact hrest r
    | some g =>
      have hname : g.name = key := by simpa using List.find?_some hfind
      obtain ⟨r₁, hfirst⟩ :=
        h g (List.mem_of_find?_eq_some hfind) v (by rw [hname]; exact List.mem_cons_self) r
      simp only [hfirst]
      exact hrest r₁

theorem exists_setOrdered {items : List Json} (hlength : items.length ≤ fields.length)
    (h : ∀ (place : Nat) (f : Field ρ), fields[place]? = some f →
      (∀ w, items[place]? = some w → ∀ r, ∃ r', f.set w r = .ok r') ∧
        (f.required = true → ∃ w, items[place]? = some w))
    (whole : String) (index : Nat) (r : ρ) :
    ∃ r', setOrdered whole index fields items r = .ok r' := by
  induction fields generalizing index items r with
  | nil =>
    obtain rfl := List.eq_nil_of_length_eq_zero (Nat.le_zero.mp hlength)
    exact ⟨r, rfl⟩
  | cons f fields ih =>
    obtain ⟨hset, hthere⟩ := h 0 f rfl
    cases items with
    | nil =>
      have hoptional : f.required = false := by
        cases hrequired : f.required with
        | false => rfl
        | true =>
          obtain ⟨w, hw⟩ := hthere hrequired
          cases hw
      rw [setOrdered, hoptional]
      exact ih (Nat.zero_le _) (fun place g hg => by simpa using h (place + 1) g hg) _ _
    | cons v items =>
      obtain ⟨r₁, hfirst⟩ := hset v rfl r
      rw [setOrdered]
      simp only [hfirst]
      exact ih (Nat.le_of_succ_le_succ hlength)
        (fun place g hg => by simpa using h (place + 1) g hg) _ _

/-- A record that suits all fields is read. -/
theorem exists_read (hrecord : IsRecord shape.fields.length v)
    (h : ∀ place, Suits shape.fields v place) : ∃ r, shape.read v = .ok r := by
  cases hrecord with
  | object values =>
    have hset : ∀ f ∈ shape.fields, ∀ w, (f.name, w) ∈ values → ∀ r, ∃ r', f.set w r = .ok r' := by
      intro f hf w hw
      obtain ⟨place, hplace⟩ := List.mem_iff_getElem?.mp hf
      exact (h place f hplace).1 w (.named hw)
    have hmissing : missing? shape.fields values = none := by
      rw [missing?, Option.map_eq_none_iff, List.find?_eq_none]
      intro f hf
      obtain ⟨place, hplace⟩ := List.mem_iff_getElem?.mp hf
      cases hrequired : f.required with
      | false => simp
      | true =>
        obtain ⟨w, hw⟩ := (h place f hplace).2 hrequired
        cases hw with
        | named hw =>
          have hlookup : values.lookup f.name ≠ none := by
            rw [Ne, List.lookup_eq_none_iff]
            intro hnone
            simpa using hnone _ hw
          simpa [Option.isNone_iff_eq_none] using hlookup
    obtain ⟨r, hr⟩ := exists_setNamed hset shape.blank
    refine ⟨r, ?_⟩
    simp only [Shape.read, hr, hmissing]
    rfl
  | array hlength =>
    refine exists_setOrdered hlength (fun place f hf => ⟨fun w hw => ?_, fun hrequired => ?_⟩) _ _ _
    · exact (h place f hf).1 w (.placed hw)
    · obtain ⟨w, hw⟩ := (h place f hf).2 hrequired
      cases hw with
      | placed hw => exact ⟨w, hw⟩

/-- If it is read as nothing else, it is read as this. -/
theorem read_of_suits (hrecord : IsRecord shape.fields.length v)
    (h : ∀ place, Suits shape.fields v place) (hsame : ∀ r', shape.read v = .ok r' → r' = r) :
    shape.read v = .ok r := by
  obtain ⟨r', hread⟩ := exists_read hrecord h
  rw [hread, hsame r' hread]

/-- A field that has to be there suits, and is read as what it means. -/
theorem Component.of_needs (h : Component shape.fields place name true read get)
    (hmeans : Meaning read means) (hv : v.Distinct) (hneeds : Needs name place means v a) :
    Suits shape.fields v place ∧ ∀ r, shape.read v = .ok r → get r = a := by
  obtain ⟨w, hw, ha⟩ := hneeds
  have hread : ∀ w', Holds name place v w' → read w' = .ok a := by
    intro w' hw'
    obtain rfl := hv.holds_unique hw hw'
    exact hmeans.complete w a (hv.holds hw) ha
  refine ⟨?_, fun r hr => ?_⟩
  · intro f hf
    obtain ⟨f', hf', rfl, -, hgives⟩ := h.here
    obtain rfl := Option.some.inj (hf.symm.trans hf')
    exact ⟨fun w' hw' r => hgives.taken w' a r (hread w' hw'), fun _ => ⟨w, hw⟩⟩
  · obtain ⟨w', hw', hvalue⟩ | ⟨hoptional, -⟩ := h.of_read hr
    · exact Except.ok.inj (hvalue.symm.trans (hread w' hw'))
    · cases hoptional

theorem Component.of_may (h : Component shape.fields place name false read get)
    (hmeans : Meaning read means) (hv : v.Distinct)
    (hmay : May name place means (get shape.blank) v a) :
    Suits shape.fields v place ∧ ∀ r, shape.read v = .ok r → get r = a := by
  have hread : ∀ w', Holds name place v w' → read w' = .ok a := by
    intro w' hw'
    cases hmay with
    | @given w _ hw ha =>
      obtain rfl := hv.holds_unique hw hw'
      exact hmeans.complete w a (hv.holds hw) ha
    | absent habsent => exact absurd hw' (habsent w')
  refine ⟨?_, fun r hr => ?_⟩
  · intro f hf
    obtain ⟨f', hf', rfl, hrequired, hgives⟩ := h.here
    obtain rfl := Option.some.inj (hf.symm.trans hf')
    exact ⟨fun w' hw' r => hgives.taken w' a r (hread w' hw'), by simp [hrequired]⟩
  · obtain ⟨w', hw', hvalue⟩ | ⟨-, habsent, hkept⟩ := h.of_read hr
    · exact Except.ok.inj (hvalue.symm.trans (hread w' hw'))
    · cases hmay with
      | given hw _ => exact absurd hw (habsent _)
      | absent _ => exact hkept

end Shape

end HarnessLink.Json
