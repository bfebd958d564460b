import Mailroom.Http.Origin
import Mathlib.Data.List.Basic
import Mathlib.Tactic.Common

/-!
# Which origins are allowed

A response allows an origin when a header of it names every origin or this one (`Response.Grants`).
Headers of other names do not count, so what the origins of the service say decides, and nothing
that was answered before (`Origins.grants_withHeaders_iff`). What they say is read off the settings
(`Origins.allows_iff`): entries that no header can hold count for nothing, and when there are no
others every origin is allowed.
-/

namespace Mailroom.Http

variable {response : Response} {r : Request} {name value origin : String} {hs : Headers}

/-- A text that a header can hold. -/
def IsHeaderText (text : String) : Prop := text.toList.all isHeaderChar = true

instance : DecidablePred IsHeaderText := fun text ↦
  inferInstanceAs (Decidable (text.toList.all isHeaderChar = true))

/-! ## Responses -/

namespace Response

/-- The response lets the pages of an origin read it. -/
def Grants (response : Response) (origin : String) : Prop :=
  ∃ allowed, ("access-control-allow-origin", allowed) ∈ response.headers ∧
    (allowed = Origins.wildcard ∨ allowed = origin)

theorem not_grants_of_ne
    (h : ∀ header ∈ response.headers, header.1 ≠ "access-control-allow-origin") :
    ¬response.Grants origin := fun ⟨_, hmem, _⟩ ↦ h _ hmem rfl

theorem not_grants_ofJson (status : Nat) (v : Json) : ¬(ofJson status v).Grants origin :=
  not_grants_of_ne (by simp [ofJson])

theorem not_grants_ofText (status : Nat) (text : String) : ¬(ofText status text).Grants origin :=
  not_grants_of_ne (by simp [ofText])

theorem grants_withHeader_self :
    (response.withHeader "access-control-allow-origin" value).Grants origin ↔
      value = Origins.wildcard ∨ value = origin := by
  simp [Grants, withHeader]

theorem grants_withHeader_of_ne (h : name ≠ "access-control-allow-origin") :
    (response.withHeader name value).Grants origin ↔ response.Grants origin := by
  simp [Grants, withHeader, Ne.symm h]

/-- Headers of other names do not count. -/
theorem grants_withHeaders_of_ne (h : ∀ header ∈ hs, header.1 ≠ "access-control-allow-origin") :
    (response.withHeaders hs).Grants origin ↔ response.Grants origin := by
  induction hs generalizing response with
  | nil => exact Iff.rfl
  | cons header hs ih =>
    obtain ⟨hheader, hrest⟩ := List.forall_mem_cons.mp h
    exact (ih hrest).trans (grants_withHeader_of_ne hheader)

end Response

/-! ## Origins -/

namespace Origins

variable {o : Origins} {entries : List String}

/-- The pages of an origin may read answers. -/
def Allows (o : Origins) (origin : String) : Prop :=
  match o with
  | .any => True
  | .listed origins => origin ∈ origins

theorem ofSettings?_eq_none_iff : ofSettings? entries = none ↔ wildcard ∈ entries := by
  have hwildcard : wildcard ∈ entries.filter (fun o ↦ o.toList.all isHeaderChar) ↔
      wildcard ∈ entries := by
    rw [List.mem_filter]
    exact and_iff_left (by decide)
  rw [← hwildcard, ofSettings?]
  split
  · rename_i hnone
    rw [hnone]
    exact iff_of_false nofun List.not_mem_nil
  · split
    · rename_i hmem
      exact iff_of_true rfl hmem
    · rename_i hmem
      exact iff_of_false nofun hmem

/-- Those entries are allowed that a header can hold, or all origins if there is no such entry. -/
theorem allows_iff (h : ofSettings? entries = some o) :
    o.Allows origin ↔
      (∀ e ∈ entries, ¬IsHeaderText e) ∨ origin ∈ entries ∧ IsHeaderText origin := by
  unfold ofSettings? at h
  split at h
  · rename_i hnone
    cases h
    exact iff_of_true trivial (.inl (List.filter_eq_nil_iff.mp hnone))
  · rename_i hsome
    split at h
    · cases h
    · cases h
      have husable : ¬∀ e ∈ entries, ¬IsHeaderText e := fun hall ↦
        hsome (List.filter_eq_nil_iff.mpr hall)
      rw [or_iff_right husable]
      exact List.mem_filter

/-- What is added to an answer names the origin of the request, or every origin, just when that
origin is allowed. -/
theorem allowance_cases (horigin : r.header? "origin" = some origin) :
    (o.allowance r = [] ∧ ¬o.Allows origin) ∨
      ∃ allowed, o.allowance r = [("access-control-allow-origin", allowed)] ∧
        (allowed = wildcard ∨ allowed = origin) ∧ o.Allows origin := by
  cases o with
  | any => exact .inr ⟨wildcard, rfl, .inl rfl, trivial⟩
  | listed origins =>
    unfold allowance
    rw [horigin]
    dsimp only
    split
    · rename_i hmem
      exact .inr ⟨origin, rfl, .inr rfl, hmem⟩
    · rename_i hmem
      exact .inl ⟨rfl, hmem⟩

/-- An answer that allows nobody by itself allows the origin of the request just when the origins of
the service do. -/
theorem grants_withHeaders_iff (h : ¬response.Grants origin)
    (horigin : r.header? "origin" = some origin) :
    (response.withHeaders (o.headers r)).Grants origin ↔ o.Allows origin := by
  have hvary : ¬(response.withHeaders vary).Grants origin :=
    fun hgrants ↦ h ((Response.grants_withHeaders_of_ne (by decide)).mp hgrants)
  rw [headers, Response.withHeaders, List.foldl_append]
  obtain ⟨hallowance, hnot⟩ | ⟨allowed, hallowance, hnames, hallows⟩ := allowance_cases horigin
  · rw [hallowance]
    exact iff_of_false hvary hnot
  · rw [hallowance]
    exact iff_of_true (Response.grants_withHeader_self.mpr hnames) hallows

/-- So does the answer to a browser that asks beforehand. -/
theorem grants_preflight_iff (horigin : r.header? "origin" = some origin) :
    (o.preflight r).Grants origin ↔ o.Allows origin := by
  obtain ⟨hallowance, hnot⟩ | ⟨allowed, hallowance, hnames, hallows⟩ := allowance_cases horigin
  · refine iff_of_false (Response.not_grants_of_ne ?_) hnot
    rw [preflight, headers, hallowance]
    decide
  · refine iff_of_true ⟨allowed, ?_, hnames⟩ hallows
    rw [preflight, headers, hallowance]
    simp

end Origins

end Mailroom.Http
