import Mailroom.Proofs.Journal
import Mailroom.Proofs.Payload.Details

/-!
# Normalized payloads

What becomes of a payload when it is normalized is told one name at a time (`Normalized`), and
everything that is neither a detail nor a logo that leads elsewhere is left alone.

Normalizing once more changes nothing, since each detail then stands under the most trusted of its
names, no detail gets a value by what was written for another, and a logo that leads elsewhere is
gone under all of its names, so that none that was less trusted comes to light.
-/

namespace Mailroom.Payload

variable {payload : Json.Members} {name : String} {d : Detail} {v : Json}

/-! ## What a payload becomes -/

/-- The members of an object without those under some names: the others are as before and in the
same order. -/
structure Stripped (names : List String) (before after : Json.Members) : Prop where
  sublist : after.Sublist before
  removed : ∀ name ∈ names, after.get? name = none
  kept : ∀ name ∉ names, after.get? name = before.get? name

theorem stripped_eraseAll (names : List String) (ms : Json.Members) :
    Stripped names ms (eraseAll ms names) where
  sublist := List.filter_sublist
  removed _ h := get?_eraseAll_of_mem h ms
  kept _ h := get?_eraseAll_of_not_mem h ms

/-- What a payload becomes when it is normalized. -/
structure Normalized (payload out : Json.Members) : Prop where
  sorted : payload.Sorted → out.Sorted
  /-- Under the name of a detail stands the first of its candidates that says something. Without
  one the name is left alone. -/
  detail : ∀ d ≠ Detail.logo,
    (∃ v, IsFirst v (candidates payload d) ∧ out.get? d.name = some v) ∨
    ((∀ c ∈ candidates payload d, SaysNothing c) ∧ out.get? d.name = payload.get? d.name)
  /-- So it is with a logo that does not lead elsewhere. -/
  logo : LeadsAway payload ∨
    (∃ v, IsFirst v (candidates payload .logo) ∧ isSafeLogo v = true ∧
      out.get? Detail.logo.name = some v) ∨
    ((∀ c ∈ candidates payload .logo, SaysNothing c) ∧
      out.get? Detail.logo.name = payload.get? Detail.logo.name)
  logo_safe : SaysNothing (out.get? Detail.logo.name) ∨
    ∃ v, out.get? Detail.logo.name = some v ∧ isSafeLogo v = true
  /-- One that does is removed under all names, ... -/
  aliases_of_leadsAway : LeadsAway payload → ∀ name ∈ Detail.logo.aliases, out.get? name = none
  /-- ... also in the object that holds payment details. -/
  payment_of_leadsAway : LeadsAway payload →
    ∀ payment, payload.get? "payment" = some (.obj payment) →
      ∃ payment', out.get? "payment" = some (.obj payment') ∧
        Stripped Detail.logo.nestedAliases payment payment'
  /-- Everything else is left alone. -/
  aliases_of_not_leadsAway : ¬ LeadsAway payload →
    ∀ name ∈ Detail.logo.aliases, name ≠ Detail.logo.name → out.get? name = payload.get? name
  payment_of_kept : (LeadsAway payload → payment? payload = none) →
    out.get? "payment" = payload.get? "payment"
  rest : ∀ name, (∀ d : Detail, name ≠ d.name) → name ∉ "payment" :: Detail.logo.aliases →
    out.get? name = payload.get? name

theorem normalize_gives (payload : Json.Members) (now : Int) :
    Journal.Gives now (normalize payload) (· = reconcile payload) := by
  unfold normalize
  dsimp only
  split
  · split
    · exact Journal.Gives.log.bind fun _ _ ↦ .pure rfl
    · exact .pure rfl
  · exact .pure rfl

theorem normalize_fst (payload : Json.Members) (journal : Journal) :
    ((normalize payload).run journal).1 = reconcile payload :=
  (normalize_gives payload journal.now journal rfl).1

/-- Under the name of a detail stands the first of its candidates that says something, or what stood
there before. -/
theorem detail_normalized (h : d = .logo → ¬ LeadsAway payload) :
    (∃ v, IsFirst v (candidates payload d) ∧ (reconcile payload).get? d.name = some v) ∨
    ((∀ c ∈ candidates payload d, SaysNothing c) ∧
      (reconcile payload).get? d.name = payload.get? d.name) := by
  rw [get?_reconcile_name h]
  cases hv : detail? payload d with
  | none => exact .inr ⟨detail?_eq_none_iff.mp hv, Option.none_or⟩
  | some v => exact .inl ⟨v, detail?_eq_some_iff.mp hv, Option.some_or⟩

theorem logo_normalized (h : ¬ LeadsAway payload) :
    (∃ v, IsFirst v (candidates payload .logo) ∧ isSafeLogo v = true ∧
      (reconcile payload).get? Detail.logo.name = some v) ∨
    ((∀ c ∈ candidates payload .logo, SaysNothing c) ∧
      (reconcile payload).get? Detail.logo.name = payload.get? Detail.logo.name) := by
  refine (detail_normalized fun _ ↦ h).imp_left ?_
  rintro ⟨v, hfirst, hv⟩
  exact ⟨v, hfirst, isSafeLogo_of_not_leadsAway h hfirst, hv⟩

/-- A payload becomes what its names say, one name at a time. -/
theorem normalize_normalized (payload : Json.Members) (journal : Journal) :
    Normalized payload ((normalize payload).run journal).1 := by
  have hname : Detail.logo.name ∈ Detail.logo.aliases := by decide
  have htop : payload.get? Detail.logo.name ∈ candidates payload .logo :=
    mem_candidates_iff.mpr (.inl ⟨_, List.mem_append_left _ hname, rfl⟩)
  rw [normalize_fst]
  exact {
    sorted := sorted_reconcile
    detail := fun d hd ↦ detail_normalized (absurd · hd)
    logo := or_iff_not_imp_left.mpr logo_normalized
    logo_safe := by
      by_cases haway : LeadsAway payload
      · exact .inl (.inl (get?_reconcile_of_leadsAway haway hname))
      · rcases logo_normalized haway with ⟨v, -, hsafe, hv⟩ | ⟨hnothing, heq⟩
        · exact .inr ⟨v, hv, hsafe⟩
        · rw [heq]
          exact .inl (hnothing _ htop)
    aliases_of_leadsAway := fun haway _ ↦ get?_reconcile_of_leadsAway haway
    payment_of_leadsAway := fun haway payment hpayment ↦ by
      rw [get?_reconcile_payment_of_leadsAway haway, hpayment]
      exact ⟨_, rfl, stripped_eraseAll _ _⟩
    aliases_of_not_leadsAway := fun haway name hmem hne ↦ by
      refine get?_reconcile_of_ne (fun d hd ↦ hne ?_) (absurd · haway)
      rw [hd, eq_of_name_mem .logo d (List.mem_append_left _ (hd ▸ hmem))]
    payment_of_kept := fun h ↦ by
      by_cases haway : LeadsAway payload
      · have hnone := h haway
        rw [get?_reconcile_payment_of_leadsAway haway]
        cases hpayment : payload.get? "payment" with
        | none => rfl
        | some v =>
          rw [payment?, hpayment, Option.bind_some] at hnone
          rw [Option.map_some, withoutLogo_of_not_object hnone]
      · exact get?_reconcile_payment_of_not_leadsAway haway
    rest := fun name hname hmem ↦ get?_reconcile_of_ne hname fun _ ↦ hmem }

/-! ## Normalizing twice -/

theorem saysNothing_get?_reconcile (hname : name ≠ "payment")
    (hdetail : ∀ d : Detail, name = d.name → detail? payload d = none)
    (h : SaysNothing (payload.get? name)) : SaysNothing ((reconcile payload).get? name) := by
  by_cases hremoved : LeadsAway payload ∧ name ∈ Detail.logo.aliases
  · exact .inl (get?_reconcile_of_leadsAway hremoved.1 hremoved.2)
  by_cases hd : ∃ d : Detail, name = d.name
  · obtain ⟨d, rfl⟩ := hd
    rw [get?_reconcile_name, hdetail d rfl, Option.none_or]
    · exact h
    · rintro rfl haway
      exact hremoved ⟨haway, by decide⟩
  · rw [get?_reconcile_of_ne (not_exists.mp hd) fun haway hmem ↦ ?_]
    · exact h
    · exact hremoved ⟨haway, (List.mem_cons.mp hmem).resolve_left hname⟩

/-- A detail without a value does not get one by what is written for the others. -/
theorem detail?_reconcile_of_none (h : detail? payload d = none) :
    detail? (reconcile payload) d = none := by
  rw [detail?_eq_none_iff] at h ⊢
  intro c hc
  rcases mem_candidates_iff.mp hc with ⟨name, hname, rfl⟩ | ⟨payment, hpayment, name, hname, rfl⟩
  -- No other detail is written under a name of this one.
  · have hne : name ≠ "payment" := fun heq ↦ payment_not_mem d (heq ▸ hname)
    refine saysNothing_get?_reconcile hne ?_ (h _ (mem_candidates_iff.mpr (.inl ⟨_, hname, rfl⟩)))
    rintro e rfl
    rw [eq_of_name_mem d e hname, detail?_eq_none_iff.mpr h]
  · rcases get?_payment?_reconcile hpayment name with hnone | ⟨before, hbefore, heq⟩
    · exact .inl hnone
    · rw [heq]
      exact h _ (mem_candidates_iff.mpr (.inr ⟨before, hbefore, name, hname, rfl⟩))

/-- A logo that leads elsewhere leaves no other one behind. -/
theorem detail?_reconcile_of_leadsAway (h : LeadsAway payload) :
    detail? (reconcile payload) .logo = none := by
  rw [detail?_eq_none_iff]
  intro c hc
  rcases mem_candidates_iff.mp hc with ⟨name, hname, rfl⟩ | ⟨payment, hpayment, name, hname, rfl⟩
  · exact .inl (get?_reconcile_of_leadsAway h hname)
  · obtain ⟨before, -, rfl⟩ : ∃ before, payment? payload = some before ∧
        eraseAll before Detail.logo.nestedAliases = payment := by
      rwa [payment?_reconcile_of_leadsAway h, Option.map_eq_some_iff] at hpayment
    exact .inl (get?_eraseAll_of_mem hname before)

/-- After the details were written back, each stands under its name. -/
theorem get?_reconcile_of_detail? (h : detail? (reconcile payload) d = some v) :
    (reconcile payload).get? d.name = some v ∧ (d = .logo → isSafeLogo v = true) := by
  have hkept : d = .logo → ¬ LeadsAway payload := by
    rintro rfl haway
    exact Option.some_ne_none v (h.symm.trans (detail?_reconcile_of_leadsAway haway))
  cases hw : detail? payload d with
  | none => exact absurd (h.symm.trans (detail?_reconcile_of_none hw)) (Option.some_ne_none v)
  | some w =>
    have hname : (reconcile payload).get? d.name = some w := by
      rw [get?_reconcile_name hkept, hw, Option.some_or]
    have hfirst := detail?_eq_some_iff.mp hw
    obtain rfl : w = v := by
      obtain ⟨-, -, -, -, hsays⟩ := hfirst
      exact Option.some.inj ((detail?_of_get?_name hname hsays).symm.trans h)
    refine ⟨hname, ?_⟩
    rintro rfl
    exact isSafeLogo_of_not_leadsAway (hkept rfl) hfirst

/-- A payload whose details stand under their names, with a logo that does not lead elsewhere, is
left as it is. -/
theorem normalize_eq_pure (hsorted : payload.Sorted)
    (h : ∀ d v, detail? payload d = some v →
      payload.get? d.name = some v ∧ (d = .logo → isSafeLogo v = true)) :
    normalize payload = pure payload := by
  have hkept : ¬ LeadsAway payload := fun ⟨v, hv, hunsafe⟩ ↦
    Bool.noConfusion (((h _ v (detail?_eq_some_iff.mpr hv)).2 rfl).symm.trans hunsafe)
  have hself : reconcile payload = payload := by
    rw [reconcile_of_not_leadsAway hkept]
    exact writeBack_eq_self hsorted (fun d v hv ↦ (h d v hv).1) _
  unfold normalize
  rw [hself]
  cases hv : detail? payload .logo with
  | none => rfl
  | some v =>
    dsimp only
    rw [(h _ v hv).2 rfl]
    rfl

/-- What was normalized is left as it is when it is normalized once more, and nothing is logged. -/
theorem normalize_idempotent (h : payload.Sorted) (journal : Journal) :
    normalize ((normalize payload).run journal).1 = pure ((normalize payload).run journal).1 := by
  rw [normalize_fst]
  exact normalize_eq_pure (sorted_reconcile h) fun _ _ ↦ get?_reconcile_of_detail?

/-- Paid for with a card whose logo lies elsewhere under one name, and on the same site under
another. -/
def paidElsewhere : Json.Members := [
  ("cardLogo", .str "//elsewhere/a.png"),
  ("currency", .str ""),
  ("payment", .obj [("amount", .ofNat 0), ("logoUrl", .str "/b.png")])]

theorem normalize_idempotent_paidElsewhere :
    paidElsewhere.Sorted ∧
      normalize ((normalize paidElsewhere).run {}).1 =
        pure ((normalize paidElsewhere).run {}).1 := by
  have hsorted : paidElsewhere.Sorted := by decide
  exact ⟨hsorted, normalize_idempotent hsorted {}⟩

/-- The other logo does not take the place of the removed one. -/
example : reconcile paidElsewhere = [
    ("currency", .str ""), ("payment", .obj [("amount", .ofNat 0)]), ("totalAmount", .ofNat 0)] :=
  rfl

end Mailroom.Payload
