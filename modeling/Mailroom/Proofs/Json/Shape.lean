import Mailroom.Json.Shape
import Mailroom.Proofs.Journal
import Mailroom.Proofs.Json.Ordered
import Mathlib.Data.List.Nodup

/-!
# What a shape takes

A record is read from an object or from an array, and the two come to one thing: an array stands
for the object that has its items under the names of the fields in the same places (`asObject`).
What that object has under the name of a field is all that the field looks at (`Field.Takes`), so
the answers of the readers of a record are put together from those of its fields.
-/

namespace Mailroom.Json

/-- The object that a value is as a record whose fields have the given names. An array with too
many items stays an array. -/
def asObject (names : List String) : Json → Json
  | .arr items => if items.length ≤ names.length then ofMembers (names.zip items) else .arr items
  | v => v

@[simp]
theorem asObject_obj (names : List String) (ms : Members) :
    asObject names (.obj ms) = .obj ms := rfl

/-! ## Members by key -/

namespace Members

/-- With different keys it does not matter which member of a key stays. -/
theorem get?_ofList {l : List (String × Json)} (h : (l.map Prod.fst).Nodup) (key : String) :
    (ofList l).get? key = l.lookup key := by
  suffices hacc : ∀ acc : Members, (l.foldl (fun acc m ↦ acc.insert m.1 m.2) acc).get? key =
      (l.lookup key).or (acc.get? key) from (hacc []).trans Option.or_none
  induction l with
  | nil => exact fun acc ↦ rfl
  | cons m l ih =>
    intro acc
    obtain ⟨hm, hl⟩ := List.nodup_cons.mp h
    rw [List.foldl_cons, ih hl, get?_insert]
    by_cases hkey : key = m.1
    · have hnone : l.lookup key = none :=
        List.lookup_eq_none_iff.mpr fun e he ↦
          bne_iff_ne.mpr fun heq ↦ hm (List.mem_map.mpr ⟨e, he, heq.symm.trans hkey⟩)
      rw [if_pos hkey, hnone, Option.none_or, hkey, List.lookup_cons_self, Option.some_or]
    · rw [if_neg hkey, lookup_cons_of_ne hkey]

end Members

/-- The items of an array get different names where the fields of the record have them. -/
theorem nodup_map_fst_zip {names : List String} (h : names.Nodup) (items : List Json) :
    ((names.zip items).map Prod.fst).Nodup := by
  refine h.sublist ?_
  clear h
  induction names generalizing items with
  | nil => exact List.Sublist.slnil
  | cons name names ih =>
    cases items with
    | nil => exact List.nil_sublist _
    | cons v items => exact (ih items).cons_cons name

/-! ## Single values -/

namespace Shape

variable {α β : Type} {shape : Json → Shaped α} {is : Json → α → Prop} {v : Json}

theorem text_eq_ok_iff {s : String} : text v = .ok s ↔ v = .str s := by
  cases v with
  | str t => exact ⟨fun h ↦ congrArg _ (Except.ok.inj h), fun h ↦ congrArg _ (Json.str.inj h)⟩
  | null | bool | num | arr | obj => exact iff_of_false nofun nofun

theorem members_eq_ok_iff {ms : Members} : members v = .ok ms ↔ v = .obj ms := by
  cases v with
  | obj t => exact ⟨fun h ↦ congrArg _ (Except.ok.inj h), fun h ↦ congrArg _ (Json.obj.inj h)⟩
  | null | bool | num | arr | str => exact iff_of_false nofun nofun

/-- A value, or `null` for none. -/
def OrNull (is : Json → α → Prop) (v : Json) : Option α → Prop
  | some a => is v a
  | none => v = .null

theorem optional_eq_ok_iff (hshape : ∀ {v a}, shape v = .ok a ↔ is v a)
    (hnull : ∀ a, ¬is .null a) {o : Option α} : optional shape v = .ok o ↔ OrNull is v o := by
  cases v with
  | null =>
    cases o with
    | none => exact iff_of_true rfl rfl
    | some a => exact iff_of_false nofun (hnull a)
  | bool | num | str | arr | obj =>
    cases o with
    | none =>
      refine iff_of_false (fun h ↦ ?_) nofun
      dsimp only [optional] at h
      cases hv : shape _ <;> rw [hv] at h <;> cases h
    | some a =>
      rw [OrNull, ← hshape]
      dsimp only [optional]
      cases shape _ <;> simp [Except.map]

theorem optional_text_eq_ok_iff {o : Option String} :
    optional text v = .ok o ↔ OrNull (fun w t ↦ w = .str t) v o :=
  optional_eq_ok_iff text_eq_ok_iff fun _ h ↦ by cases h

theorem mapM_text_eq_ok_iff {items : List Json} {ts : List String} :
    items.mapM text = .ok ts ↔ items = ts.map .str := by
  induction items generalizing ts with
  | nil => cases ts <;> simp [pure, Except.pure]
  | cons v vs ih =>
    simp only [List.mapM_cons, bind_eq_ok, text_eq_ok_iff, ih]
    constructor
    · rintro ⟨t, rfl, us, rfl, ⟨⟩⟩
      rfl
    · intro h
      obtain ⟨t, us, rfl, rfl, rfl⟩ := List.map_eq_cons_iff.mp h.symm
      exact ⟨t, rfl, us, rfl, rfl⟩

theorem list_text_eq_ok_iff {ts : List String} : list text v = .ok ts ↔ v = .arr (ts.map .str) := by
  cases v with
  | arr items => exact mapM_text_eq_ok_iff.trans ⟨congrArg _, Json.arr.inj⟩
  | null | bool | num | str | obj => exact iff_of_false nofun nofun

/-! ## Records -/

/-- A field takes what is found under its name. -/
def Field.Takes (f : Field) : Option Json → Prop
  | some v => f.check v = .ok ()
  | none => f.required = false

theorem Field.takes_iff {f : Field} {o : Option Json} :
    f.Takes o ↔ (∀ v, o = some v → f.check v = .ok ()) ∧ (o = none → f.required = false) := by
  cases o with
  | some v => exact ⟨fun h ↦ ⟨fun _ hw ↦ Option.some_inj.mp hw ▸ h, nofun⟩, fun h ↦ h.1 v rfl⟩
  | none => exact ⟨fun h ↦ ⟨nofun, fun _ ↦ h⟩, fun h ↦ h.2 rfl⟩

theorem check_eq_ok_iff : (shape v).map (fun _ ↦ ()) = .ok () ↔ ∃ a, shape v = .ok a := by
  cases shape v <;> simp [Except.map]

theorem must_takes_iff {name : String} {ms : Members} :
    (Field.must name shape).Takes (ms.get? name) ↔ ∃ a, get ms name shape = .ok a := by
  unfold get
  cases ms.get? name with
  | none => exact iff_of_false nofun nofun
  | some v => exact check_eq_ok_iff

theorem may_takes_iff {name : String} {ms : Members} {default : α} :
    (Field.may name shape).Takes (ms.get? name) ↔ ∃ a, getD ms name shape default = .ok a := by
  unfold getD
  cases ms.get? name with
  | none => exact iff_of_true rfl ⟨default, rfl⟩
  | some v => exact check_eq_ok_iff

/-- What is found under the name of a field, or that nothing is, stands for a value. -/
def Stands (is : Json → α → Prop) (absent : α) : Option Json → α → Prop
  | some v, a => is v a
  | none, a => a = absent

theorem getD_eq_ok_iff (hshape : ∀ {v a}, shape v = .ok a ↔ is v a) {ms : Members} {name : String}
    {default a : α} :
    getD ms name shape default = .ok a ↔ Stands is default (ms.get? name) a := by
  unfold getD
  cases ms.get? name with
  | none => exact ⟨fun h ↦ (Except.ok.inj h).symm, fun h ↦ congrArg _ (Eq.symm h)⟩
  | some v => exact hshape

theorem get_eq_ok_iff {ms : Members} {name : String} {a : α} :
    get ms name shape = .ok a ↔ ∃ w, ms.get? name = some w ∧ shape w = .ok a := by
  unfold get
  cases ms.get? name with
  | none => exact iff_of_false nofun nofun
  | some v => exact ⟨fun h ↦ ⟨v, rfl, h⟩, fun ⟨_, hw, h⟩ ↦ Option.some_inj.mp hw ▸ h⟩

section Records

variable {fields : List Field} (hnames : (fields.map (·.name)).Nodup)

include hnames in
theorem find?_name_eq_some_iff {f : Field} {key : String} :
    fields.find? (·.name == key) = some f ↔ f ∈ fields ∧ f.name = key := by
  constructor
  · intro h
    exact ⟨List.mem_of_find?_eq_some h, by simpa using List.find?_some h⟩
  · rintro ⟨hf, rfl⟩
    obtain ⟨g, hg⟩ : ∃ g, fields.find? (·.name == f.name) = some g :=
      Option.isSome_iff_exists.mp (List.find?_isSome.mpr ⟨f, hf, beq_self_eq_true _⟩)
    have hname : g.name = f.name := by simpa using List.find?_some hg
    rw [hg, List.inj_on_of_nodup_map hnames (List.mem_of_find?_eq_some hg) hf hname]

include hnames in
theorem checkMembers_eq_ok_iff {ms : Members} : checkMembers fields ms = .ok () ↔
    ∀ m ∈ ms, ∀ f ∈ fields, f.name = m.1 → f.check m.2 = .ok () := by
  induction ms with
  | nil => exact iff_of_true rfl nofun
  | cons m ms ih =>
    rw [checkMembers, List.forall_mem_cons, ← ih]
    cases hfind : fields.find? (·.name == m.1) with
    | none =>
      refine (and_iff_right fun f hf hname ↦ ?_).symm
      exact absurd (beq_iff_eq.mpr hname) (List.find?_eq_none.mp hfind f hf)
    | some f =>
      obtain ⟨hf, hname⟩ := (find?_name_eq_some_iff hnames).mp hfind
      have honly : (∀ g ∈ fields, g.name = m.1 → g.check m.2 = .ok ()) ↔ f.check m.2 = .ok () := by
        refine ⟨fun h ↦ h f hf hname, fun h g hg hgname ↦ ?_⟩
        rwa [← List.inj_on_of_nodup_map hnames hf hg (hname.trans hgname.symm)]
      rw [honly]
      dsimp only
      cases f.check m.2 with
      | ok u => exact (and_iff_right rfl).symm
      | error e => exact iff_of_false nofun fun h ↦ nomatch h.1

theorem checkItems_eq_ok_iff {expected : String} {n : Nat} {items : List Json}
    (hnames : (fields.map (·.name)).Nodup) : checkItems expected n fields items = .ok () ↔
      ∀ f ∈ fields, f.Takes (((fields.map (·.name)).zip items).lookup f.name) := by
  induction fields generalizing n items with
  | nil => exact iff_of_true rfl nofun
  | cons f fs ih =>
    obtain ⟨hf, hfs⟩ := List.nodup_cons.mp hnames
    rw [List.forall_mem_cons]
    cases items with
    | nil =>
      rw [checkItems, List.zip_nil_right]
      cases hrequired : f.required with
      | true => exact iff_of_false nofun fun h ↦ Bool.noConfusion (hrequired.symm.trans h.1)
      | false =>
        rw [if_neg Bool.false_ne_true, ih hfs, List.zip_nil_right]
        exact (and_iff_right hrequired).symm
    | cons v vs =>
      rw [checkItems, List.map_cons, List.zip_cons_cons, List.lookup_cons_self]
      have hrest : (∀ g ∈ fs, g.Takes (((f.name, v) :: (fs.map (·.name)).zip vs).lookup g.name)) ↔
          checkItems expected (n + 1) fs vs = .ok () := by
        rw [ih hfs]
        refine forall₂_congr fun g hg ↦ ?_
        have hne : g.name ≠ f.name := fun heq ↦ hf (List.mem_map.mpr ⟨g, hg, heq⟩)
        rw [lookup_cons_of_ne hne]
      rw [hrest]
      change (f.check v >>= fun _ ↦ _) = _ ↔ f.check v = .ok () ∧ _
      cases f.check v with
      | ok u => exact (and_iff_right rfl).symm
      | error e => exact iff_of_false nofun fun h ↦ nomatch h.1

/-- A record is read from what is an object of its fields where every field takes its value. -/
theorem record_eq_ok_iff {name : String} {ms : Members}
    (hnames : (fields.map (·.name)).Nodup) (hv : v.Ordered) :
    record name fields v = .ok ms ↔ asObject (fields.map (·.name)) v = .obj ms ∧
      ∀ f ∈ fields, f.Takes (ms.get? f.name) := by
  cases hv with
  | @obj members hsorted _ =>
    have hchecked : checkMembers fields members = .ok () ↔
        ∀ f ∈ fields, ∀ w, members.get? f.name = some w → f.check w = .ok () := by
      rw [checkMembers_eq_ok_iff hnames]
      constructor
      · exact fun h f hf w hw ↦ h _ (hsorted.mem_iff.mpr hw) f hf rfl
      · exact fun h m hm f hf hname ↦ h f hf _ (hname ▸ hsorted.mem_iff.mp hm)
    have hthere : fields.find? (fun f ↦ f.required && (members.get? f.name).isNone) = none ↔
        ∀ f ∈ fields, members.get? f.name = none → f.required = false := by
      rw [List.find?_eq_none]
      refine forall₂_congr fun f _ ↦ ?_
      cases f.required <;> simp
    have htakes : (∀ f ∈ fields, f.Takes (members.get? f.name)) ↔
        checkMembers fields members = .ok () ∧
          fields.find? (fun f ↦ f.required && (members.get? f.name).isNone) = none := by
      simp only [hchecked, hthere, ← forall₂_and, Field.takes_iff]
    rw [asObject_obj, record, bind_eq_ok]
    constructor
    · rintro ⟨⟨⟩, hc, h⟩
      cases hfind : fields.find? (fun f ↦ f.required && (members.get? f.name).isNone) with
      | some f =>
        rw [hfind] at h
        cases h
      | none =>
        rw [hfind] at h
        cases h
        exact ⟨rfl, htakes.mpr ⟨hc, hfind⟩⟩
    · rintro ⟨⟨⟩, h⟩
      obtain ⟨hc, hfind⟩ := htakes.mp h
      exact ⟨(), hc, by rw [hfind]; rfl⟩
  | @arr items _ =>
    have hkeys := nodup_map_fst_zip hnames items
    have htakes : (∀ f ∈ fields,
        f.Takes (Members.get? (Members.ofList ((fields.map (·.name)).zip items)) f.name)) ↔
          ∀ f ∈ fields, f.Takes (((fields.map (·.name)).zip items).lookup f.name) := by
      simp only [Members.get?_ofList hkeys]
    rw [asObject, record, bind_eq_ok, List.length_map, ofMembers]
    by_cases hlength : items.length ≤ fields.length
    · rw [if_pos hlength, if_neg (not_lt.mpr hlength)]
      constructor
      · rintro ⟨⟨⟩, hc, ⟨⟩⟩
        exact ⟨rfl, htakes.mpr ((checkItems_eq_ok_iff hnames).mp hc)⟩
      · rintro ⟨⟨⟩, h⟩
        exact ⟨(), (checkItems_eq_ok_iff hnames).mpr (htakes.mp h), rfl⟩
    · rw [if_neg hlength, if_pos (not_le.mp hlength)]
      exact iff_of_false (fun ⟨_, _, h⟩ ↦ nomatch h) fun h ↦ nomatch h.1
  | null | bool | num | str => exact iff_of_false nofun nofun

end Records

end Shape

end Mailroom.Json
