import Mailroom.Payload.Payment
import Mailroom.Proofs.Json.Members
import Mailroom.Proofs.Lookup
import Mathlib.Data.List.Induction

/-!
# Payment details under their names

A detail is the first of its candidates that says something, and it is written back under the one
name that templates know. The names under which different details are sought and kept are apart, so
writing one detail back changes no other, and what a reconciled payload has under each name can be
told one name at a time (`get?_reconcile_name` and the lemmas after it).
-/

namespace Mailroom.Payload

variable {payload : Json.Members} {name : String} {d : Detail} {v : Json}

/-! ## The first value -/

/-- Absent, `null`, or the empty string. -/
def SaysNothing (c : Option Json) : Prop := c = none ∨ c = some .null ∨ c = some (.str "")

/-- A value is the first of several that says something. -/
def IsFirst (v : Json) (values : List (Option Json)) : Prop :=
  ∃ before after, values = before ++ some v :: after ∧
    (∀ c ∈ before, SaysNothing c) ∧ ¬ SaysNothing (some v)

theorem isAbsent_iff {c : Option Json} : isAbsent c = true ↔ SaysNothing c := by
  rcases c with - | ⟨- | - | - | - | - | -⟩ <;> simp [SaysNothing, isAbsent, isEmpty]

/-- The first of several values that says something. -/
def first? (values : List (Option Json)) : Option Json :=
  (values.find? fun c ↦ !isAbsent c).join

section

variable {values : List (Option Json)}

theorem first?_eq_none_iff : first? values = none ↔ ∀ c ∈ values, SaysNothing c := by
  rw [first?, Option.join_eq_none_iff]
  constructor
  · rintro (h | h)
    · simpa [isAbsent_iff] using h
    · cases List.find?_some h
  · intro h
    exact .inl (by simpa [isAbsent_iff] using h)

theorem first?_eq_some_iff : first? values = some v ↔ IsFirst v values := by
  rw [first?, Option.join_eq_some_iff, List.find?_eq_some_iff_append]
  simp only [IsFirst, ← isAbsent_iff, Bool.not_not, Bool.not_eq_true', Bool.not_eq_true]
  constructor
  · rintro ⟨hv, before, after, heq, hbefore⟩
    exact ⟨before, after, heq, hbefore, hv⟩
  · rintro ⟨before, after, heq, hbefore, hv⟩
    exact ⟨hv, before, after, heq, hbefore⟩

theorem first?_append (values later : List (Option Json)) :
    first? (values ++ later) = (first? values).or (first? later) := by
  rw [first?, List.find?_append]
  cases h : values.find? fun c ↦ !isAbsent c with
  | none => simp [first?, h]
  | some c =>
    cases c with
    | none => cases List.find?_some h
    | some v => simp [first?, h]

theorem firstUnder_eq (ms : Json.Members) (names : List String) :
    firstUnder ms names = first? (names.map ms.get?) := by
  induction names with
  | nil => rfl
  | cons name names ih =>
    rw [firstUnder, List.findSome?_cons, ← firstUnder, ih]
    cases h : ms.get? name with
    | none => simp [first?, h, isAbsent]
    | some v => cases hv : isEmpty v <;> simp [first?, h, hv, isAbsent, Option.filter]

end

/-! ## Candidates -/

/-- The object in a payload that holds payment details, if there is one. -/
def payment? (payload : Json.Members) : Option Json.Members :=
  (payload.get? "payment").bind Json.members?

/-- The values that may be meant by a detail, the most trusted first. -/
def candidates (payload : Json.Members) (d : Detail) : List (Option Json) :=
  d.aliases.map payload.get? ++
    (payment? payload).elim [] (fun payment ↦ d.nestedAliases.map payment.get?) ++
    d.standIns.map payload.get?

theorem detail?_eq (payload : Json.Members) (d : Detail) :
    detail? payload d = first? (candidates payload d) := by
  have hnested : firstUnder (nestedPayment payload) d.nestedAliases =
      first? ((payment? payload).elim [] fun payment ↦ d.nestedAliases.map payment.get?) := by
    rw [nestedPayment, ← payment?, firstUnder_eq]
    cases payment? payload with
    | none => exact first?_eq_none_iff.mpr (by simp [SaysNothing, Json.Members.get?])
    | some payment => rfl
  simp only [detail?, candidates, first?_append, hnested, firstUnder_eq payload,
    Option.orElse_eq_orElse, Option.orElse_eq_or, Option.or_assoc]

theorem detail?_eq_some_iff : detail? payload d = some v ↔ IsFirst v (candidates payload d) := by
  rw [detail?_eq, first?_eq_some_iff]

theorem detail?_eq_none_iff :
    detail? payload d = none ↔ ∀ c ∈ candidates payload d, SaysNothing c := by
  rw [detail?_eq, first?_eq_none_iff]

theorem mem_candidates_iff {c : Option Json} :
    c ∈ candidates payload d ↔
      (∃ name ∈ d.aliases ++ d.standIns, payload.get? name = c) ∨
      ∃ payment, payment? payload = some payment ∧
        ∃ name ∈ d.nestedAliases, payment.get? name = c := by
  cases h : payment? payload with
  | none => simp [candidates, h, or_and_right, exists_or]
  | some payment =>
    simp only [candidates, h, List.mem_append, List.mem_map, Option.elim_some, Option.some_inj,
      exists_eq_left', or_and_right, exists_or]
    exact or_right_comm

/-- The name that templates know is the most trusted one. -/
theorem aliases_eq (d : Detail) : d.aliases = d.name :: d.aliases.tail := by
  cases d <;> rfl

theorem detail?_of_get?_name (h : payload.get? d.name = some v) (hv : ¬ SaysNothing (some v)) :
    detail? payload d = some v := by
  rw [detail?_eq_some_iff, candidates, aliases_eq, List.map_cons, h]
  exact ⟨[], _, rfl, nofun, hv⟩

/-! ## Names -/

theorem mem_all (d : Detail) : d ∈ Detail.all := by cases d <;> decide

/-- A detail is not sought under the name of another one. -/
theorem eq_of_name_mem : ∀ d e : Detail, e.name ∈ d.aliases ++ d.standIns → e = d := by
  have h : ∀ d ∈ Detail.all, ∀ e ∈ Detail.all, e.name ∈ d.aliases ++ d.standIns → e = d := by decide
  exact fun d e ↦ h d (mem_all d) e (mem_all e)

theorem name_injective : Function.Injective Detail.name := by
  intro d e h
  apply eq_of_name_mem
  rw [h, aliases_eq]
  exact List.mem_cons_self

theorem payment_not_mem (d : Detail) : "payment" ∉ d.aliases ++ d.standIns := by
  cases d <;> decide

theorem payment_not_mem_aliases : "payment" ∉ d.aliases := fun h ↦
  payment_not_mem d (List.mem_append_left _ h)

theorem name_ne_payment (d : Detail) : d.name ≠ "payment" := fun h ↦
  payment_not_mem_aliases (h ▸ aliases_eq d ▸ List.mem_cons_self)

/-! ## Writing details back -/

theorem writeBack_append (payload : Json.Members) (details later : List Detail) :
    writeBack payload (details ++ later) = later.foldl (fun out d ↦
      match detail? payload d with
      | some v => out.insert d.name v
      | none => out) (writeBack payload details) :=
  List.foldl_append

/-- Under the other names nothing is written. -/
theorem get?_writeBack_of_ne {details : List Detail} (h : ∀ d ∈ details, name ≠ d.name) :
    (writeBack payload details).get? name = payload.get? name := by
  unfold writeBack
  refine List.foldlRecOn (motive := fun out : Json.Members ↦ out.get? name = payload.get? name)
    details _ rfl fun out hout d hd ↦ ?_
  split
  · rw [Json.Members.get?_insert, if_neg (h d hd), hout]
  · exact hout

/-- A detail that has a value stands under its name. -/
theorem get?_writeBack_name {details : List Detail} (hd : d ∈ details) :
    (writeBack payload details).get? d.name = (detail? payload d).or (payload.get? d.name) := by
  induction details using List.reverseRecOn with
  | nil => cases hd
  | append_singleton details e ih =>
    rw [writeBack_append, List.foldl_cons, List.foldl_nil]
    by_cases heq : d = e
    · subst heq
      cases hv : detail? payload d with
      | some v => exact Json.Members.get?_insert_self ..
      | none =>
        -- Nothing is written now; whether the detail was written before makes no difference.
        by_cases hin : d ∈ details
        · exact (ih hin).trans (by rw [hv])
        · exact get?_writeBack_of_ne fun e he h ↦ hin (name_injective h ▸ he)
    · have hin : d ∈ details := (List.mem_append.mp hd).resolve_right (heq ∘ List.mem_singleton.mp)
      have hne : d.name ≠ e.name := fun h ↦ heq (name_injective h)
      rw [← ih hin]
      split
      · rw [Json.Members.get?_insert, if_neg hne]
      · rfl

theorem sorted_writeBack (h : payload.Sorted) (details : List Detail) :
    (writeBack payload details).Sorted := by
  unfold writeBack
  refine List.foldlRecOn (motive := Json.Members.Sorted) details _ h fun out hout d _ ↦ ?_
  split
  · exact hout.insert _ _
  · exact hout

/-- If each detail stands under its name already, writing it back changes nothing. -/
theorem writeBack_eq_self (hsorted : payload.Sorted)
    (h : ∀ d v, detail? payload d = some v → payload.get? d.name = some v)
    (details : List Detail) : writeBack payload details = payload := by
  refine List.foldl_fixed' (fun d ↦ ?_) details
  split
  · rename_i v hv
    exact hsorted.insert_eq_self (h d v hv)
  · rfl

/-! ## Removing a logo -/

theorem get?_eraseAll_of_mem {names : List String} (h : name ∈ names) (ms : Json.Members) :
    Json.Members.get? (eraseAll ms names) name = none :=
  lookup_filter_key_eq_none (fun key ↦ !names.contains key) (by simpa using h)

theorem get?_eraseAll_of_not_mem {names : List String} (h : name ∉ names) (ms : Json.Members) :
    Json.Members.get? (eraseAll ms names) name = ms.get? name :=
  lookup_filter_key (fun key ↦ !names.contains key) (by simpa using h)

/-- An object without a logo in it. -/
def withoutLogo : Json → Json
  | .obj ms => .obj (eraseAll ms Detail.logo.nestedAliases)
  | v => v

theorem withoutLogo_of_not_object (h : v.members? = none) : withoutLogo v = v := by
  cases v with
  | obj ms => cases h
  | _ => rfl

theorem stripLogo_eq (payload : Json.Members) :
    stripLogo payload = (eraseAll payload Detail.logo.aliases).map fun m ↦
      (m.1, if m.1 = "payment" then withoutLogo m.2 else m.2) := by
  refine List.map_congr_left fun ⟨key, v⟩ _ ↦ ?_
  cases v with
  | obj ms =>
    dsimp only [withoutLogo]
    split
    · rfl
    · rfl
  | _ => simp [withoutLogo]

theorem get?_stripLogo (payload : Json.Members) (name : String) :
    (stripLogo payload).get? name =
      (Json.Members.get? (eraseAll payload Detail.logo.aliases) name).map fun v ↦
        if name = "payment" then withoutLogo v else v := by
  rw [stripLogo_eq]
  exact lookup_map_snd (fun key v ↦ if key = "payment" then withoutLogo v else v) name

theorem sorted_stripLogo (h : payload.Sorted) : (stripLogo payload).Sorted := by
  rw [stripLogo_eq]
  exact (h.filter _).map fun _ ↦ rfl

/-! ## Reconciled payloads -/

/-- The logo of a payload leads elsewhere. -/
def LeadsAway (payload : Json.Members) : Prop :=
  ∃ v, IsFirst v (candidates payload .logo) ∧ isSafeLogo v = false

theorem isSafeLogo_of_not_leadsAway (h : ¬ LeadsAway payload)
    (hv : IsFirst v (candidates payload .logo)) : isSafeLogo v = true := by
  by_contra hunsafe
  exact h ⟨v, hv, Bool.not_eq_true _ ▸ hunsafe⟩

theorem reconcile_of_leadsAway (h : LeadsAway payload) :
    reconcile payload = stripLogo (writeBack payload (Detail.all.erase .logo)) := by
  obtain ⟨v, hfirst, hsafe⟩ := h
  rw [reconcile, detail?_eq_some_iff.mpr hfirst]
  dsimp only
  rw [hsafe, if_neg Bool.false_ne_true]

theorem reconcile_of_not_leadsAway (h : ¬ LeadsAway payload) :
    reconcile payload = writeBack payload Detail.all := by
  have hall : Detail.all = Detail.all.erase .logo ++ [.logo] := by decide
  rw [reconcile, hall, writeBack_append, ← hall, List.foldl_cons, List.foldl_nil]
  cases hv : detail? payload .logo with
  | none => rfl
  | some v =>
    dsimp only
    rw [isSafeLogo_of_not_leadsAway h (detail?_eq_some_iff.mp hv), if_pos rfl]

theorem sorted_reconcile (h : payload.Sorted) : (reconcile payload).Sorted := by
  by_cases haway : LeadsAway payload
  · rw [reconcile_of_leadsAway haway]
    exact sorted_stripLogo (sorted_writeBack h _)
  · rw [reconcile_of_not_leadsAway haway]
    exact sorted_writeBack h _

/-- A detail stands under its name, unless it is a logo that leads elsewhere. -/
theorem get?_reconcile_name (h : d = .logo → ¬ LeadsAway payload) :
    (reconcile payload).get? d.name = (detail? payload d).or (payload.get? d.name) := by
  by_cases haway : LeadsAway payload
  · have hd : d ≠ .logo := fun hd ↦ h hd haway
    have halias : d.name ∉ Detail.logo.aliases := fun hmem ↦
      hd (eq_of_name_mem _ _ (List.mem_append_left _ hmem))
    rw [reconcile_of_leadsAway haway, get?_stripLogo, get?_eraseAll_of_not_mem halias,
      get?_writeBack_name ((List.mem_erase_of_ne hd).mpr (mem_all d))]
    simp [name_ne_payment]
  · rw [reconcile_of_not_leadsAway haway]
    exact get?_writeBack_name (mem_all d)

theorem get?_reconcile_of_leadsAway (h : LeadsAway payload) (hname : name ∈ Detail.logo.aliases) :
    (reconcile payload).get? name = none := by
  rw [reconcile_of_leadsAway h, get?_stripLogo, get?_eraseAll_of_mem hname, Option.map_none]

theorem get?_reconcile_payment_of_leadsAway (h : LeadsAway payload) :
    (reconcile payload).get? "payment" = (payload.get? "payment").map withoutLogo := by
  rw [reconcile_of_leadsAway h, get?_stripLogo, get?_eraseAll_of_not_mem payment_not_mem_aliases,
    get?_writeBack_of_ne fun d _ ↦ (name_ne_payment d).symm]
  simp

/-- A member that is no detail is left as it is, unless it is a logo that leads elsewhere. -/
theorem get?_reconcile_of_ne (hname : ∀ d : Detail, name ≠ d.name)
    (h : LeadsAway payload → name ∉ "payment" :: Detail.logo.aliases) :
    (reconcile payload).get? name = payload.get? name := by
  by_cases haway : LeadsAway payload
  · obtain ⟨hpayment, halias⟩ := not_or.mp (mt List.mem_cons.mpr (h haway))
    rw [reconcile_of_leadsAway haway, get?_stripLogo, get?_eraseAll_of_not_mem halias,
      get?_writeBack_of_ne fun d _ ↦ hname d]
    simp [hpayment]
  · rw [reconcile_of_not_leadsAway haway]
    exact get?_writeBack_of_ne fun d _ ↦ hname d

theorem payment?_reconcile_of_leadsAway (h : LeadsAway payload) :
    payment? (reconcile payload) =
      (payment? payload).map fun payment ↦ eraseAll payment Detail.logo.nestedAliases := by
  have hmembers (v : Json) : (withoutLogo v).members? =
      v.members?.map fun payment ↦ eraseAll payment Detail.logo.nestedAliases := by
    cases v <;> rfl
  rw [payment?, payment?, get?_reconcile_payment_of_leadsAway h, Option.bind_map, Option.map_bind]
  exact congrArg _ (funext hmembers)

theorem get?_reconcile_payment_of_not_leadsAway (h : ¬ LeadsAway payload) :
    (reconcile payload).get? "payment" = payload.get? "payment" :=
  get?_reconcile_of_ne (fun d ↦ (name_ne_payment d).symm) (absurd · h)

/-- What the object that holds payment details has under a name is what it had, or nothing. -/
theorem get?_payment?_reconcile {payment : Json.Members}
    (h : payment? (reconcile payload) = some payment) (name : String) :
    payment.get? name = none ∨
      ∃ before, payment? payload = some before ∧ payment.get? name = before.get? name := by
  by_cases haway : LeadsAway payload
  · rw [payment?_reconcile_of_leadsAway haway, Option.map_eq_some_iff] at h
    obtain ⟨before, hbefore, rfl⟩ := h
    by_cases hmem : name ∈ Detail.logo.nestedAliases
    · exact .inl (get?_eraseAll_of_mem hmem before)
    · exact .inr ⟨before, hbefore, get?_eraseAll_of_not_mem hmem before⟩
  · rw [payment?, get?_reconcile_payment_of_not_leadsAway haway] at h
    exact .inr ⟨payment, h, rfl⟩

end Mailroom.Payload
