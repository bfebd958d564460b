import Mailroom.Proofs.Json.Ordered
import Mailroom.Proofs.Json.Shape
import Mailroom.Service.Sending

/-!
# What is taken for a submission

A value is taken for a submission when it is an object of the documented form (`Documented`), and
otherwise the problems name the places at fault (`faults`). There is one more way to write a
submission: its record, and that of the further addresses, may also be an array that has the values
of the fields in their order. Such a value is read as the object it stands for (`spelled`), and the
places of its problems are the places in that object.
-/

namespace Mailroom.Submission

open Json Json.Shape

variable {v : Json} {s : Submission}

/-! ## The documented form -/

/-- The value is a text that is an address. -/
def IsAddress (v : Json) : Prop := ∃ a, v = .str a ∧ Mail.isAddress a = true

/-- The value is an array of addresses. -/
def AreAddresses (v : Json) : Prop := ∃ items, v = .arr items ∧ ∀ w ∈ items, IsAddress w

/-- The object holds further addresses in the documented form. -/
structure Extras.Documented (v : Json) : Prop where
  object : v.isObject = true
  replyTo : ∀ w, v.get? "reply_to" = some w → w = .null ∨ IsAddress w
  cc : ∀ w, v.get? "cc" = some w → AreAddresses w
  bcc : ∀ w, v.get? "bcc" = some w → AreAddresses w

/-- The value is a submission in the documented form. -/
structure Documented (v : Json) : Prop where
  object : v.isObject = true
  addressees : ∃ w ws, v.get? "to" = some (.arr (w :: ws)) ∧ AreAddresses (.arr (w :: ws))
  locale : ∀ w, v.get? "locale" = some w → ∃ t, w = .str t
  subject : ∀ w, v.get? "subject" = some w → w = .null ∨ ∃ t, w = .str t
  payload : ∀ w, v.get? "data" = some w → w.isObject = true
  extras : ∀ w, v.get? "meta" = some w → w = .null ∨ Extras.Documented w

/-! ## Places -/

/-- The value at a place. -/
def valueAt : Json → List Place → Option Json
  | v, [] => some v
  | .obj ms, .member name :: path => (Members.get? ms name).bind (valueAt · path)
  | .arr items, .item index :: path => items[index]?.bind (valueAt · path)
  | _, _ => none

/-- The places of the items of the array at a place. -/
def itemPlaces (v : Json) (path : List Place) : List (List Place) :=
  match valueAt v path with
  | some (.arr items) => (List.range items.length).map fun n ↦ path ++ [.item n]
  | _ => []

/-- The places where further addresses stand, in their order. -/
def Extras.addressPlaces (v : Json) : List (List Place) :=
  [[.member "meta", .member "reply_to"]] ++ itemPlaces v [.member "meta", .member "cc"] ++
    itemPlaces v [.member "meta", .member "bcc"]

/-- The places where addresses stand, in their order. -/
def addressPlaces (v : Json) : List (List Place) :=
  itemPlaces v [.member "to"] ++ Extras.addressPlaces v

/-- A text that is no address stands at the place. -/
def offends (v : Json) (path : List Place) : Bool :=
  match valueAt v path with
  | some (.str a) => !Mail.isAddress a
  | _ => false

/-- The problem of a list of recipients that is empty. -/
def recipientFaults (v : Json) : List Problem :=
  match valueAt v [.member "to"] with
  | some (.arr []) => [⟨[.member "to"], "At least one recipient is required"⟩]
  | _ => []

/-- The problems of a value: one where there is no recipient, and one at each place where a text
stands that is no address. -/
def faults (v : Json) : List Problem :=
  recipientFaults v ++ ((addressPlaces v).filter (offends v)).map badAddress

/-! ## The object that a value stands for -/

/-- The fields of the further addresses, in their order. -/
def Extras.fieldNames : List String := ["reply_to", "cc", "bcc"]

/-- The fields of a submission, in their order. -/
def fieldNames : List String := ["to", "locale", "subject", "data", "meta"]

/-- The value with its records as objects. -/
def spelled (v : Json) : Json :=
  match asObject fieldNames v with
  | .obj ms => .obj <| ms.map fun m ↦
      (m.1, if m.1 = "meta" then asObject Extras.fieldNames m.2 else m.2)
  | w => w

theorem exists_asObject_eq {names : List String} (h : (asObject names v).isObject = true) :
    ∃ ms, asObject names v = .obj ms := by
  cases hv : asObject names v with
  | obj ms => exact ⟨ms, rfl⟩
  | null | bool | num | str | arr => rw [hv] at h; cases h

theorem isObject_spelled : (spelled v).isObject = (asObject fieldNames v).isObject := by
  unfold spelled
  cases asObject fieldNames v <;> rfl

section Fields

variable {ms : Members} (h : asObject fieldNames v = .obj ms)

include h

theorem get?_spelled (key : String) : (spelled v).get? key =
    (ms.get? key).map fun w ↦ if key = "meta" then asObject Extras.fieldNames w else w := by
  unfold spelled
  rw [h]
  exact lookup_map_snd (fun k w ↦ if k = "meta" then asObject Extras.fieldNames w else w) key

theorem get?_spelled_meta :
    (spelled v).get? "meta" = (ms.get? "meta").map (asObject Extras.fieldNames) :=
  get?_spelled h "meta"

theorem get?_spelled_of_ne {key : String} (hkey : key ≠ "meta") :
    (spelled v).get? key = ms.get? key := by
  rw [get?_spelled h]
  simp only [if_neg hkey, Option.map_id']

end Fields

theorem ordered_of_get?_asObject {names : List String} (hnames : names.Nodup) (hv : v.Ordered)
    {key : String} {w : Json} (h : (asObject names v).get? key = some w) : w.Ordered := by
  cases hv with
  | arr hitems =>
    rw [asObject] at h
    split at h
    · rw [ofMembers, Json.get?, Members.get?_ofList (nodup_map_fst_zip hnames _)] at h
      obtain ⟨before, after, hzip, -⟩ := List.lookup_eq_some_iff.mp h
      have hmem : (key, w) ∈ names.zip _ := hzip ▸ List.mem_append_right _ List.mem_cons_self
      exact hitems w (List.of_mem_zip hmem).2
    · cases h
  | obj hsorted hall => exact (Ordered.obj hsorted hall).of_get? h
  | null | bool | num | str => cases h

/-! ## What an object holds -/

/-- The object holds these further addresses. -/
structure Extras.Holds (v : Json) (e : Extras) : Prop where
  object : v.isObject = true
  replyTo : Stands (OrNull fun w a ↦ w = .str a) none (v.get? "reply_to") e.replyTo
  cc : Stands (fun w as ↦ w = .arr (as.map .str)) [] (v.get? "cc") e.cc
  bcc : Stands (fun w as ↦ w = .arr (as.map .str)) [] (v.get? "bcc") e.bcc

/-- The object holds this submission. -/
structure Holds (v : Json) (s : Submission) : Prop where
  object : v.isObject = true
  addressees : v.get? "to" = some (.arr (s.addressees.map .str))
  locale : Stands (fun w t ↦ w = .str t) "tr" (v.get? "locale") s.locale
  subject : Stands (OrNull fun w t ↦ w = .str t) none (v.get? "subject") s.subject
  payload : Stands (fun w ms ↦ w = .obj ms) [] (v.get? "data") s.payload
  extras : Stands (OrNull Extras.Holds) none (v.get? "meta") s.extras

theorem Extras.ofJson_eq_ok_iff {e : Extras} (hv : v.Ordered) :
    Extras.ofJson v = .ok e ↔ Extras.Holds (asObject Extras.fieldNames v) e := by
  simp only [Extras.ofJson, bind_eq_ok]
  constructor
  · rintro ⟨ms, hms, r, hr, cc, hcc, bcc, hbcc, ⟨⟩⟩
    obtain ⟨hobject, -⟩ := (record_eq_ok_iff (by decide) hv).mp hms
    exact hobject ▸ ⟨rfl, (getD_eq_ok_iff optional_text_eq_ok_iff).mp hr,
      (getD_eq_ok_iff list_text_eq_ok_iff).mp hcc, (getD_eq_ok_iff list_text_eq_ok_iff).mp hbcc⟩
  · intro h
    obtain ⟨ms, hobject⟩ := exists_asObject_eq h.object
    rw [hobject] at h
    have hreplyTo := (getD_eq_ok_iff optional_text_eq_ok_iff).mpr h.replyTo
    have hcc := (getD_eq_ok_iff list_text_eq_ok_iff).mpr h.cc
    have hbcc := (getD_eq_ok_iff list_text_eq_ok_iff).mpr h.bcc
    refine ⟨ms, (record_eq_ok_iff (by decide) hv).mpr ⟨hobject, ?_⟩, _, hreplyTo, _, hcc, _, hbcc,
      rfl⟩
    rw [List.forall_mem_cons, List.forall_mem_cons, List.forall_mem_singleton]
    exact ⟨may_takes_iff.mpr ⟨_, hreplyTo⟩, may_takes_iff.mpr ⟨_, hcc⟩,
      may_takes_iff.mpr ⟨_, hbcc⟩⟩

/-- Further addresses in a member are read from the object that the value of the member stands
for. -/
theorem stands_extras_iff {o : Option Json} (ho : ∀ w, o = some w → w.Ordered)
    {x : Option Extras} :
    Stands (OrNull fun w e ↦ Extras.ofJson w = .ok e) none o x ↔
      Stands (OrNull Extras.Holds) none (o.map (asObject Extras.fieldNames)) x := by
  cases o with
  | none => exact Iff.rfl
  | some w =>
    cases x with
    | some e => exact Extras.ofJson_eq_ok_iff (ho w rfl)
    | none =>
      cases w with
      | arr items =>
        refine iff_of_false nofun fun h ↦ ?_
        dsimp only [Option.map, Stands, OrNull, asObject] at h
        split at h <;> cases h
      | null | bool | num | str | obj => exact Iff.rfl

/-- A submission is read from the object that the value stands for. -/
theorem ofShape_eq_ok_iff (hv : v.Ordered) : ofShape v = .ok s ↔ Holds (spelled v) s := by
  have hextras_iff {ms : Members} (hobject : asObject fieldNames v = .obj ms) {x : Option Extras} :
      getD ms "meta" (optional Extras.ofJson) none = .ok x ↔
        Stands (OrNull Extras.Holds) none ((spelled v).get? "meta") x := by
    have hordered : ∀ w, ms.get? "meta" = some w → w.Ordered := fun w hw ↦
      ordered_of_get?_asObject (by decide : fieldNames.Nodup) hv
        (show (asObject fieldNames v).get? "meta" = some w from hobject ▸ hw)
    rw [get?_spelled_meta hobject, ← stands_extras_iff hordered]
    exact getD_eq_ok_iff (optional_eq_ok_iff Iff.rfl (by rintro _ ⟨⟩))
  simp only [ofShape, bind_eq_ok]
  constructor
  · rintro ⟨ms, hms, _, hto, _, hlocale, _, hsubject, _, hpayload, _, hextras, ⟨⟩⟩
    obtain ⟨hobject : asObject fieldNames v = .obj ms, -⟩ :=
      (record_eq_ok_iff (by decide) hv).mp hms
    obtain ⟨w, hw, hlist⟩ := get_eq_ok_iff.mp hto
    obtain rfl := list_text_eq_ok_iff.mp hlist
    refine ⟨by rw [isObject_spelled, hobject]; rfl, ?_, ?_, ?_, ?_,
      (hextras_iff hobject).mp hextras⟩
    all_goals rw [get?_spelled_of_ne hobject (by decide)]
    · exact hw
    · exact (getD_eq_ok_iff text_eq_ok_iff).mp hlocale
    · exact (getD_eq_ok_iff optional_text_eq_ok_iff).mp hsubject
    · exact (getD_eq_ok_iff members_eq_ok_iff).mp hpayload
  · rintro ⟨hobject, hto, hlocale, hsubject, hpayload, hextras⟩
    obtain ⟨ms, hobject⟩ := exists_asObject_eq (isObject_spelled ▸ hobject)
    rw [get?_spelled_of_ne hobject (by decide)] at hto hlocale hsubject hpayload
    replace hto := get_eq_ok_iff.mpr ⟨_, hto, list_text_eq_ok_iff.mpr rfl⟩
    replace hlocale := (getD_eq_ok_iff text_eq_ok_iff).mpr hlocale
    replace hsubject := (getD_eq_ok_iff optional_text_eq_ok_iff).mpr hsubject
    replace hpayload := (getD_eq_ok_iff members_eq_ok_iff).mpr hpayload
    replace hextras := (hextras_iff hobject).mpr hextras
    refine ⟨ms, (record_eq_ok_iff (by decide) hv).mpr ⟨hobject, ?_⟩, _, hto, _, hlocale, _,
      hsubject, _, hpayload, _, hextras, rfl⟩
    simp only [List.forall_mem_cons]
    exact ⟨must_takes_iff.mpr ⟨_, hto⟩, may_takes_iff.mpr ⟨_, hlocale⟩,
      may_takes_iff.mpr ⟨_, hsubject⟩, may_takes_iff.mpr ⟨_, hpayload⟩,
      may_takes_iff.mpr ⟨_, hextras⟩, nofun⟩

/-! ## No problems -/

theorem addressProblems_eq_nil_iff {path : List Place} {as : List String} :
    addressProblems path as = [] ↔ ∀ a ∈ as, Mail.isAddress a = true := by
  unfold addressProblems
  rw [List.map_eq_nil_iff, List.filter_eq_nil_iff]
  constructor
  · intro h a ha
    obtain ⟨n, hn⟩ := List.getElem?_of_mem ha
    simpa using h (a, n) (List.mem_zipIdx_iff_getElem?.mpr hn)
  · intro h a ha
    simpa using h a.1 (List.fst_mem_of_mem_zipIdx ha)

theorem areAddresses_iff :
    AreAddresses v ↔ ∃ as : List String, v = .arr (as.map .str) ∧ ∀ a ∈ as, Mail.isAddress a := by
  constructor
  · rintro ⟨items, rfl, h⟩
    induction items with
    | nil => exact ⟨[], rfl, nofun⟩
    | cons w ws ih =>
      obtain ⟨⟨a, rfl, ha⟩, hws⟩ := List.forall_mem_cons.mp h
      obtain ⟨as, has, hall⟩ := ih hws
      exact ⟨a :: as, by rw [List.map_cons, ← Json.arr.inj has],
        List.forall_mem_cons.mpr ⟨ha, hall⟩⟩
  · rintro ⟨as, rfl, h⟩
    refine ⟨_, rfl, fun w hw ↦ ?_⟩
    obtain ⟨a, ha, rfl⟩ := List.mem_map.mp hw
    exact ⟨a, rfl, h a ha⟩

section Presence

variable {α : Type} {is : Json → α → Prop} {good : α → Prop} {P : Json → Prop}
  (h : ∀ w, P w ↔ ∃ a, is w a ∧ good a)

include h

theorem forall_iff_exists_stands {d : α} (hd : good d) (o : Option Json) :
    (∀ w, o = some w → P w) ↔ ∃ a, Stands is d o a ∧ good a := by
  cases o with
  | none => exact iff_of_true nofun ⟨d, rfl, hd⟩
  | some w =>
    exact ⟨fun hw ↦ (h w).mp (hw w rfl), fun ha _ hw ↦ Option.some_inj.mp hw ▸ (h w).mpr ha⟩

theorem null_or_iff_exists_orNull (w : Json) :
    w = .null ∨ P w ↔ ∃ o, OrNull is w o ∧ ∀ a ∈ o, good a := by
  rw [h]
  constructor
  · rintro (hnull | ⟨a, ha, hgood⟩)
    · exact ⟨none, hnull, nofun⟩
    · exact ⟨some a, ha, fun _ hb ↦ Option.some_inj.mp hb ▸ hgood⟩
  · rintro ⟨_ | a, ha, hgood⟩
    · exact .inl ha
    · exact .inr ⟨a, ha, hgood a rfl⟩

end Presence

theorem Extras.problems_eq_nil_iff {e : Extras} : e.problems = [] ↔
    (∀ a ∈ e.replyTo, Mail.isAddress a = true) ∧ (∀ a ∈ e.cc, Mail.isAddress a = true) ∧
      ∀ a ∈ e.bcc, Mail.isAddress a = true := by
  unfold Extras.problems
  rw [List.append_eq_nil_iff, List.append_eq_nil_iff, addressProblems_eq_nil_iff,
    addressProblems_eq_nil_iff, and_assoc]
  refine and_congr_left fun _ ↦ ?_
  cases e.replyTo with
  | none => exact iff_of_true rfl nofun
  | some a => cases ha : Mail.isAddress a <;> simp [Option.filter, ha]

theorem problems_eq_nil_iff : s.problems = [] ↔ s.addressees ≠ [] ∧
    (∀ a ∈ s.addressees, Mail.isAddress a = true) ∧ ∀ e ∈ s.extras, e.problems = [] := by
  unfold problems
  rw [List.append_eq_nil_iff, List.append_eq_nil_iff, addressProblems_eq_nil_iff, and_assoc]
  refine and_congr ?_ (and_congr_right fun _ ↦ ?_)
  · cases s.addressees <;> simp
  · cases s.extras <;> simp

/-- A value is in the documented form of further addresses when it holds some without problems. -/
theorem Extras.documented_iff : Extras.Documented v ↔ ∃ e, Extras.Holds v e ∧ e.problems = [] := by
  have hreplyTo_iff := forall_iff_exists_stands
    (null_or_iff_exists_orNull (P := IsAddress) fun _ ↦ Iff.rfl) (d := none) nofun
  have hlist_iff := forall_iff_exists_stands (fun w ↦ areAddresses_iff (v := w))
    (List.forall_mem_nil _)
  simp only [Extras.problems_eq_nil_iff]
  constructor
  · rintro ⟨hobject, hreplyTo, hcc, hbcc⟩
    obtain ⟨r, hr, hrgood⟩ := (hreplyTo_iff _).mp hreplyTo
    obtain ⟨cc, hcc, hccgood⟩ := (hlist_iff _).mp hcc
    obtain ⟨bcc, hbcc, hbccgood⟩ := (hlist_iff _).mp hbcc
    exact ⟨⟨r, cc, bcc⟩, ⟨hobject, hr, hcc, hbcc⟩, hrgood, hccgood, hbccgood⟩
  · rintro ⟨e, ⟨hobject, hr, hcc, hbcc⟩, hrgood, hccgood, hbccgood⟩
    exact ⟨hobject, (hreplyTo_iff _).mpr ⟨_, hr, hrgood⟩, (hlist_iff _).mpr ⟨_, hcc, hccgood⟩,
      (hlist_iff _).mpr ⟨_, hbcc, hbccgood⟩⟩

/-- A value is in the documented form when it holds a submission without problems. -/
theorem documented_iff : Documented v ↔ ∃ s, Holds v s ∧ s.problems = [] := by
  have htext (w : Json) : (∃ t, w = .str t) ↔ ∃ t, w = .str t ∧ True := by
    simp only [and_true]
  have hobject (w : Json) : w.isObject = true ↔ ∃ ms, w = .obj ms ∧ True := by
    cases w <;> simp [isObject]
  have hlocale_iff := forall_iff_exists_stands htext (d := "tr") trivial
  have hsubject_iff := forall_iff_exists_stands (null_or_iff_exists_orNull htext)
    (d := none) nofun
  have hpayload_iff := forall_iff_exists_stands hobject (d := []) trivial
  have hextras_iff := forall_iff_exists_stands
    (null_or_iff_exists_orNull fun w ↦ Extras.documented_iff (v := w)) (d := none) nofun
  simp only [problems_eq_nil_iff]
  constructor
  · rintro ⟨hobject, ⟨w, ws, hto, haddresses⟩, hlocale, hsubject, hpayload, hextras⟩
    obtain ⟨as, has, hasgood⟩ := areAddresses_iff.mp haddresses
    obtain ⟨locale, hlocale, -⟩ := (hlocale_iff _).mp hlocale
    obtain ⟨subject, hsubject, -⟩ := (hsubject_iff _).mp hsubject
    obtain ⟨payload, hpayload, -⟩ := (hpayload_iff _).mp hpayload
    obtain ⟨extras, hextras, hgood⟩ := (hextras_iff _).mp hextras
    refine ⟨⟨as, locale, subject, payload, extras⟩,
      ⟨hobject, hto.trans (congrArg _ has), hlocale, hsubject, hpayload, hextras⟩, ?_, hasgood,
      hgood⟩
    rintro rfl
    cases has
  · rintro ⟨s, ⟨hobject, hto, hlocale, hsubject, hpayload, hextras⟩, hsome, hasgood, hgood⟩
    obtain ⟨a, as, has⟩ := List.exists_cons_of_ne_nil hsome
    rw [has] at hto
    exact ⟨hobject, ⟨_, _, hto, areAddresses_iff.mpr ⟨a :: as, rfl, has ▸ hasgood⟩⟩,
      (hlocale_iff _).mpr ⟨_, hlocale, trivial⟩,
      (hsubject_iff _).mpr ⟨_, hsubject, fun _ _ ↦ trivial⟩,
      (hpayload_iff _).mpr ⟨_, hpayload, trivial⟩, (hextras_iff _).mpr ⟨_, hextras, hgood⟩⟩

/-! ## Problems by place -/

@[simp]
theorem valueAt_nil (v : Json) : valueAt v [] = some v := by
  cases v <;> rfl

theorem valueAt_member (v : Json) (name : String) (path : List Place) :
    valueAt v (.member name :: path) = (v.get? name).bind (valueAt · path) := by
  cases v <;> rfl

theorem valueAt_append (v : Json) (path rest : List Place) :
    valueAt v (path ++ rest) = (valueAt v path).bind (valueAt · rest) := by
  induction path generalizing v with
  | nil => cases v <;> rfl
  | cons p path ih =>
    cases p with
    | member name =>
      rw [List.cons_append, valueAt_member, valueAt_member, Option.bind_assoc]
      exact Option.bind_congr fun w _ ↦ ih w
    | item n =>
      cases v with
      | arr items =>
        rw [List.cons_append, valueAt, valueAt, Option.bind_assoc]
        exact Option.bind_congr fun w _ ↦ ih w
      | null | bool | num | str | obj => rfl

/-- The problems of the addresses at a place stand where the texts are that are none. -/
theorem addressProblems_eq {path : List Place} {as : List String}
    (h : Stands (fun w as ↦ w = .arr (as.map .str)) [] (valueAt v path) as) :
    addressProblems path as = ((itemPlaces v path).filter (offends v)).map badAddress := by
  cases hpath : valueAt v path with
  | none =>
    rw [hpath] at h
    rw [h, itemPlaces, hpath]
    rfl
  | some w =>
    rw [hpath] at h
    obtain rfl : w = .arr (as.map .str) := h
    have hoffends : ∀ a ∈ as.zipIdx, offends v (path ++ [.item a.2]) = !Mail.isAddress a.1 := by
      intro a ha
      have hitem : valueAt v (path ++ [.item a.2]) = some (.str a.1) := by
        rw [valueAt_append, hpath, Option.bind_some, valueAt, List.getElem?_map,
          List.mem_zipIdx_iff_getElem?.mp ha]
        rfl
      rw [offends, hitem]
    have hnumbers : List.range (as.map Json.str).length = as.zipIdx.map Prod.snd := by
      rw [List.zipIdx_map_snd, List.length_map, List.range_eq_range']
    rw [addressProblems, itemPlaces, hpath]
    dsimp only
    rw [hnumbers, List.map_map, List.filter_map, List.map_map]
    exact congrArg _ (List.filter_congr fun a ha ↦ (hoffends a ha).symm)

theorem optionalProblem_eq {path : List Place} {o : Option String}
    (h : Stands (OrNull fun w a ↦ w = .str a) none (valueAt v path) o) :
    ((o.filter fun a ↦ !Mail.isAddress a).map fun _ ↦ badAddress path).toList =
      ([path].filter (offends v)).map badAddress := by
  have hoffends : offends v path = o.any fun a ↦ !Mail.isAddress a := by
    unfold offends
    cases hpath : valueAt v path with
    | none =>
      rw [hpath] at h
      obtain rfl : o = none := h
      rfl
    | some w =>
      rw [hpath] at h
      cases o with
      | none =>
        obtain rfl : w = .null := h
        rfl
      | some a =>
        obtain rfl : w = .str a := h
        rfl
  cases o with
  | none => rw [List.filter_cons_of_neg (by simp [hoffends])]; rfl
  | some a => cases ha : Mail.isAddress a <;> simp [hoffends, ha, Option.filter]

theorem Extras.Holds.problems_eq {w : Json} {e : Extras} (h : Extras.Holds w e)
    (hmeta : v.get? "meta" = some w) :
    e.problems = ((Extras.addressPlaces v).filter (offends v)).map badAddress := by
  have hmember (name : String) : valueAt v [.member "meta", .member name] = w.get? name := by
    simp only [valueAt_member, hmeta, Option.bind_some, valueAt_nil, Option.bind_fun_some]
  rw [Extras.problems, optionalProblem_eq (hmember "reply_to" ▸ h.replyTo),
    addressProblems_eq (hmember "cc" ▸ h.cc), addressProblems_eq (hmember "bcc" ▸ h.bcc)]
  simp only [Extras.addressPlaces, List.filter_append, List.map_append]

/-- Where there is nothing further, no text stands in its places. -/
theorem filter_extraPlaces_eq_nil (h : ∀ w ∈ v.get? "meta", w = .null) :
    (Extras.addressPlaces v).filter (offends v) = [] := by
  have hmember (name : String) : valueAt v [.member "meta", .member name] = none := by
    rw [valueAt_member]
    refine Option.bind_eq_none_iff.mpr fun w hw ↦ ?_
    rw [h w hw]
    rfl
  simp [Extras.addressPlaces, itemPlaces, hmember, offends]

/-- The problems of a submission are those of the object that holds it. -/
theorem Holds.problems_eq (h : Holds v s) : s.problems = faults v := by
  have hto : valueAt v [.member "to"] = some (.arr (s.addressees.map .str)) := by
    rw [valueAt_member, h.addressees, Option.bind_some, valueAt_nil]
  have hnone : (if s.addressees.isEmpty then
      [(⟨[.member "to"], "At least one recipient is required"⟩ : Problem)] else []) =
        recipientFaults v := by
    rw [recipientFaults, hto]
    cases s.addressees <;> rfl
  have hstands : Stands (fun w as ↦ w = .arr (as.map .str)) [] (valueAt v [.member "to"])
      s.addressees := by
    rw [hto]
    rfl
  have hextras : (s.extras.map Extras.problems).getD [] =
      ((Extras.addressPlaces v).filter (offends v)).map badAddress := by
    have hstands := h.extras
    cases hmeta : v.get? "meta" with
    | none =>
      rw [hmeta] at hstands
      have hx : s.extras = none := hstands
      rw [hx, filter_extraPlaces_eq_nil (by simp [hmeta])]
      rfl
    | some w =>
      rw [hmeta] at hstands
      cases hx : s.extras with
      | none =>
        rw [hx] at hstands
        rw [filter_extraPlaces_eq_nil fun _ hw ↦ Option.some_inj.mp (hmeta ▸ hw) ▸ hstands]
        rfl
      | some e =>
        rw [hx] at hstands
        exact Extras.Holds.problems_eq hstands hmeta
  rw [problems, faults, hnone, hextras, addressProblems_eq hstands, addressPlaces,
    List.filter_append, List.map_append, List.append_assoc]

theorem exists_of_mem_itemPlaces {path place : List Place} (h : place ∈ itemPlaces v path) :
    ∃ n, place = path ++ [.item n] := by
  unfold itemPlaces at h
  split at h
  · obtain ⟨n, -, rfl⟩ := List.mem_map.mp h
    exact ⟨n, rfl⟩
  · cases h

theorem nodup_itemPlaces (v : Json) (path : List Place) : (itemPlaces v path).Nodup := by
  unfold itemPlaces
  split
  · exact List.nodup_range.map fun m n h ↦ by simpa using h
  · exact List.nodup_nil

theorem disjoint_itemPlaces {path path' : List Place} (h : path ≠ path') :
    (itemPlaces v path).Disjoint (itemPlaces v path') := by
  refine List.disjoint_left.mpr fun place hplace hplace' ↦ ?_
  obtain ⟨m, rfl⟩ := exists_of_mem_itemPlaces hplace
  obtain ⟨n, heq⟩ := exists_of_mem_itemPlaces hplace'
  exact h (List.append_inj_left' heq rfl)

theorem nodup_addressPlaces (v : Json) : (addressPlaces v).Nodup := by
  have hreplyTo (path : List Place) : [.member "meta", .member "reply_to"] ∉ itemPlaces v path := by
    intro h
    obtain ⟨n, heq⟩ := exists_of_mem_itemPlaces h
    have hends : [Place.member "meta"] ++ [.member "reply_to"] = path ++ [.item n] := heq
    exact absurd (List.append_inj_right' hends rfl) (by simp)
  unfold addressPlaces Extras.addressPlaces
  rw [List.nodup_append', List.nodup_append', List.nodup_append', List.disjoint_append_right,
    List.disjoint_append_right, List.disjoint_append_left, List.singleton_disjoint,
    List.singleton_disjoint, List.disjoint_singleton]
  exact ⟨nodup_itemPlaces _ _, ⟨⟨List.nodup_singleton _, nodup_itemPlaces _ _, hreplyTo _⟩,
    nodup_itemPlaces _ _, hreplyTo _, disjoint_itemPlaces (by decide)⟩,
    ⟨hreplyTo _, disjoint_itemPlaces (by decide)⟩, disjoint_itemPlaces (by decide)⟩

/-- No place is named twice. -/
theorem nodup_path_faults (v : Json) : ((faults v).map (·.path)).Nodup := by
  have hpaths : (((addressPlaces v).filter (offends v)).map badAddress).map (·.path) =
      (addressPlaces v).filter (offends v) := by
    rw [List.map_map]
    exact List.map_id _
  rw [faults, List.map_append, hpaths]
  refine List.nodup_append'.mpr ⟨?_, (nodup_addressPlaces v).filter _, ?_⟩
  · unfold recipientFaults
    split
    · exact List.nodup_singleton _
    · exact List.nodup_nil
  · refine List.disjoint_left.mpr fun place hplace hfilter ↦ ?_
    have hlong : ∀ place ∈ addressPlaces v, place.length ≠ 1 := by
      intro place hmem
      simp only [addressPlaces, Extras.addressPlaces, List.mem_append, List.mem_singleton] at hmem
      rcases hmem with h | (rfl | h) | h
      · obtain ⟨n, rfl⟩ := exists_of_mem_itemPlaces h
        exact nofun
      · exact nofun
      all_goals
        obtain ⟨n, rfl⟩ := exists_of_mem_itemPlaces h
        exact nofun
    refine hlong place (List.mem_of_mem_filter hfilter) ?_
    unfold recipientFaults at hplace
    split at hplace
    · rw [List.mem_singleton.mp hplace, List.length_singleton]
    · cases hplace

/-- Every place that is named leads to what is at fault. -/
theorem leads_of_mem_faults {p : Problem} (h : p ∈ faults v) :
    valueAt v p.path = some (.arr []) ∨
      ∃ a, valueAt v p.path = some (.str a) ∧ Mail.isAddress a = false := by
  rcases List.mem_append.mp h with h | h
  · unfold recipientFaults at h
    split at h
    · rename_i hto
      rw [List.mem_singleton.mp h]
      exact .inl hto
    · cases h
  · obtain ⟨path, hpath, rfl⟩ := List.mem_map.mp h
    have hoffends := (List.mem_filter.mp hpath).2
    unfold offends at hoffends
    split at hoffends
    · rename_i a ha
      exact .inr ⟨a, ha, by simpa using hoffends⟩
    · cases hoffends

/-! ## Records as arrays -/

theorem Documented.spelled_eq (hv : v.Ordered) (h : Documented v) : spelled v = v := by
  cases hv with
  | @obj ms hsorted _ =>
    refine congrArg Json.obj (List.map_congr_left (fun m hm ↦ ?_) |>.trans (List.map_id _))
    obtain ⟨key, w⟩ := m
    have hget : ms.get? key = some w := hsorted.mem_iff.mp hm
    refine congrArg (key, ·) ?_
    split_ifs with hkey
    · rcases h.extras w (hkey ▸ hget) with rfl | hdocumented
      · rfl
      · cases w with
        | obj => rfl
        | null | bool | num | str | arr => cases hdocumented.object
    · rfl
  | null | bool | num | str | arr => cases h.object

/-! ## Acceptance -/

theorem ofJson_eq_ok_iff : ofJson v = .ok s ↔ ofShape v = .ok s ∧ s.problems = [] := by
  unfold ofJson
  cases ofShape v with
  | error e => exact iff_of_false nofun nofun
  | ok found =>
    dsimp only
    split
    · rename_i hproblems
      constructor
      · rintro ⟨⟩
        exact ⟨rfl, List.isEmpty_iff.mp hproblems⟩
      · rintro ⟨⟨⟩, -⟩
        rfl
    · rename_i hproblems
      refine iff_of_false nofun ?_
      rintro ⟨⟨⟩, hnone⟩
      exact hproblems (List.isEmpty_iff.mpr hnone)

theorem accepts_iff (hv : v.Ordered) : (∃ s, ofJson v = .ok s) ↔ Documented (spelled v) := by
  simp only [documented_iff, ofJson_eq_ok_iff, ofShape_eq_ok_iff hv]

/-- What is taken for a submission is what stands for an object in the documented form, so just the
objects in that form are where no record is written as an array. A value that has the shape of a
submission is refused for the faults of the object it stands for, each at a place of its own that
leads to what is at fault in that object. -/
theorem accepts_iff_documented (hv : v.Ordered) :
    ((∃ s, ofJson v = .ok s) ↔ Documented (spelled v)) ∧
    (Documented v ↔ (∃ s, ofJson v = .ok s) ∧ spelled v = v) ∧
    (∀ s, ofShape v = .ok s → ofJson v =
      if faults (spelled v) = [] then .ok s else .error (faults (spelled v))) ∧
    ((faults (spelled v)).map (·.path)).Nodup ∧
    ∀ p ∈ faults (spelled v), valueAt (spelled v) p.path = some (.arr []) ∨
      ∃ a, valueAt (spelled v) p.path = some (.str a) ∧ Mail.isAddress a = false := by
  refine ⟨accepts_iff hv, ⟨fun h ↦ ?_, fun ⟨h, hspelled⟩ ↦ hspelled ▸ (accepts_iff hv).mp h⟩,
    fun s hs ↦ ?_, nodup_path_faults _, fun _ ↦ leads_of_mem_faults⟩
  · have hspelled := h.spelled_eq hv
    exact ⟨(accepts_iff hv).mpr (hspelled.symm ▸ h), hspelled⟩
  · rw [ofJson, hs]
    dsimp only
    rw [((ofShape_eq_ok_iff hv).mp hs).problems_eq]
    simp only [List.isEmpty_iff]

/-- The only recipient and the reply address are no addresses. -/
theorem accepts_iff_documented_misaddressed :
    Ordered (.obj [("meta", .obj [("cc", .arr []), ("reply_to", .str "bad")]),
      ("to", .arr [.str "nope"])]) ∧
    ofJson (.obj [("meta", .obj [("cc", .arr []), ("reply_to", .str "bad")]),
      ("to", .arr [.str "nope"])]) =
        .error [badAddress [.member "to", .item 0],
          badAddress [.member "meta", .member "reply_to"]] := by
  have hmeta : Ordered (.obj [("cc", .arr []), ("reply_to", .str "bad")]) := by
    refine .obj (by decide) (List.forall_mem_cons.mpr ⟨.arr nofun, ?_⟩)
    exact List.forall_mem_singleton.mpr (.str _)
  have hordered : Ordered (.obj [("meta", .obj [("cc", .arr []), ("reply_to", .str "bad")]),
      ("to", .arr [.str "nope"])]) := by
    refine .obj (by decide) (List.forall_mem_cons.mpr ⟨hmeta, List.forall_mem_singleton.mpr ?_⟩)
    exact .arr (List.forall_mem_singleton.mpr (.str _))
  exact ⟨hordered, ((accepts_iff_documented hordered).2.2.1 _ rfl).trans rfl⟩

/-- Written as an array, a submission is accepted although the value is no object, and the place of
a problem in it leads nowhere. -/
theorem accepts_unnamed_fields :
    (∃ s, ofJson (.arr [.arr [.str "a@example.com"]]) = .ok s) ∧
    ¬Documented (.arr [.arr [.str "a@example.com"]]) ∧
    ofJson (.arr [.arr [.str "a@example.com", .str "nope"]]) =
      .error [badAddress [.member "to", .item 1]] ∧
    valueAt (.arr [.arr [.str "a@example.com", .str "nope"]]) [.member "to", .item 1] = none :=
  ⟨⟨_, rfl⟩, (nomatch ·.object), rfl, rfl⟩

end Mailroom.Submission

/-! ## Requests -/

namespace Mailroom.Service

/-- A request brings a submission just if its body is read as what stands for an object in the
documented form. -/
theorem submissionOf_isOk_iff {limit : Nat} {r : Http.Request} :
    (∃ s, submissionOf limit r = .ok s) ↔
      ∃ v, documentOf limit r = .ok v ∧ Submission.Documented (Submission.spelled v) := by
  have hordered {v : Json} (h : documentOf limit r = .ok v) : v.Ordered := by
    unfold documentOf at h
    split at h
    · cases h
    · split at h
      · cases h
      · cases hread : Json.read r.body with
        | error e =>
          rw [hread] at h
          cases h
        | ok w =>
          rw [hread] at h
          cases h
          exact Json.ordered_of_read hread
  unfold submissionOf
  cases hdocument : documentOf limit r with
  | error reason => simp
  | ok v => simp [Submission.accepts_iff (hordered hdocument)]

end Mailroom.Service
