import Mailroom.Proofs.Service.Admission
import Mailroom.Settings.Load

/-!
# Who knows the key

Settings are fit for the service only if they have a key that is not blank. A request shows the key
in a header, which has to be of visible characters, and what it shows loses the blanks around it
before it is compared. The key itself does not. So the key has to be visible and to have no blanks
around it if the requests that show it are to pass (`serve_shown_key`).
-/

namespace Mailroom

namespace Http

/-- What a header shows that consists of the scheme and a text. -/
theorem bearerToken?_bearer (text : String) :
    bearerToken? ("Bearer " ++ text) =
      if Text.trim text ≠ "" then some (Text.trim text) else none := by
  have hsplit : Text.splitOnce [' '] ("Bearer " ++ text).toList =
      some ("Bearer".toList, text.toList) := by
    rw [String.toList_append]
    rfl
  rw [bearerToken?, hsplit]
  simp

end Http

namespace Service

open Http (Request)

variable {s : Service} {r : Request} {key token : String}

theorem key_of_validate {settings : Settings} (h : settings.validate = .ok ()) :
    ∃ key, settings.api.key = some key ∧ Text.isBlankText key = false := by
  unfold Settings.validate at h
  split at h
  · cases h
  · rename_i hkey
    cases hsome : settings.api.key with
    | none =>
      rw [hsome] at hkey
      exact absurd rfl hkey
    | some key =>
      rw [hsome] at hkey
      exact ⟨key, rfl, Bool.eq_false_iff.mpr hkey⟩

theorem ne_empty_of_not_isBlankText (h : Text.isBlankText key = false) : key ≠ "" := by
  rintro rfl
  cases h

/-- A request passes if the token that it shows is the key, character by character. -/
theorem admitted_iff_token_eq (hkey : s.settings.api.key = some key) (hne : key ≠ "")
    (htoken : (r.visible? "authorization").bind Http.bearerToken? = some token) :
    s.Admitted r ↔ token = key := by
  unfold Admitted
  rw [hkey, htoken]
  constructor
  · rintro ⟨_, ⟨rfl⟩, -, ⟨rfl⟩⟩
    rfl
  · rintro rfl
    exact ⟨token, rfl, hne, rfl⟩

/-- A request that shows the key passes if the key can be shown and is left as it is. -/
theorem admitted_iff_shown (hkey : s.settings.api.key = some key) (hne : key ≠ "")
    (hheader : r.header? "authorization" = some ("Bearer " ++ key)) :
    s.Admitted r ↔ key.toList.all Http.isVisible = true ∧ Text.trim key = key := by
  have hvisible : ("Bearer " ++ key).toList.all Http.isVisible = key.toList.all Http.isVisible := by
    rw [String.toList_append]
    rfl
  have hshown : (r.visible? "authorization").bind Http.bearerToken? = some key ↔
      key.toList.all Http.isVisible = true ∧ Text.trim key = key := by
    rw [Request.visible?, hheader, Option.filter_some, hvisible]
    split
    · rename_i hall
      rw [Option.bind_some, Http.bearerToken?_bearer, and_iff_right hall]
      split
      · rw [Option.some.injEq]
      · rename_i hempty
        refine iff_of_false (Option.some_ne_none _).symm fun htrim ↦ hempty ?_
        rwa [htrim]
    · rename_i hall
      exact iff_of_false (Option.some_ne_none _).symm fun h ↦ hall h.1
  rw [← hshown]
  constructor
  · rintro ⟨token, htoken, -, hshows⟩
    rwa [Option.some.inj (hkey.symm.trans htoken)]
  · exact fun hshows ↦ ⟨key, hkey, hne, hshows⟩

/-- Settings that are fit have a key. A request is turned away for it just if it asks for something
that stands behind the key, comes as far as that and does not show the key. If its header consists
of the scheme and the key, then it shows the key just if the key is visible and has no blanks around
it. If a token other than the key is read off its header, then it does not show the key. -/
theorem serve_shown_key {s : Service} (h : s.settings.validate = .ok ()) :
    ∃ key, s.settings.api.key = some key ∧ ∀ (fresh : Fresh) (r : Request) (journal : Journal),
      (((s.serve fresh r).run journal).1.2.status = 401 ↔
        r.method ≠ "OPTIONS" ∧ isTooLong s.settings.server.bodyLimit r = false ∧
          (Route.ofPath r.path).isProtected = true ∧ s.WithinLimit journal.now r ∧
            ¬s.Admitted r) ∧
      (r.header? "authorization" = some ("Bearer " ++ key) →
        (s.Admitted r ↔ key.toList.all Http.isVisible = true ∧ Text.trim key = key)) ∧
      ∀ token, (r.visible? "authorization").bind Http.bearerToken? = some token →
        (s.Admitted r ↔ token = key) := by
  obtain ⟨key, hkey, hblank⟩ := key_of_validate h
  have hne : key ≠ "" := ne_empty_of_not_isBlankText hblank
  refine ⟨key, hkey, fun fresh r journal ↦ ⟨?_, ?_, fun token htoken ↦ ?_⟩⟩
  · exact (serve_refuses s fresh r journal rfl).1
  · exact admitted_iff_shown hkey hne
  · exact admitted_iff_token_eq hkey hne htoken

/-- A service with a key. -/
def keyService (key : String) : Service :=
  { noteService with settings := { api := { key := some key } } }

/-- A request for the templates to be read again. -/
def clearRequest (authorization : String) : Request where
  method := "POST"
  path := "/api/templates/cache/clear"
  headers := [("authorization", authorization)]

/-- With a key that has no blanks around it, the request that shows it passes. -/
theorem serve_shown_key_secret :
    (keyService "secret").settings.validate = .ok () ∧
      (keyService "secret").Admitted (clearRequest "Bearer secret") ∧
      (((keyService "secret").serve ⟨"first", "1", "a"⟩ (clearRequest "Bearer secret")).run
        {}).1.2.status ≠ 401 := by
  have hvalid : (keyService "secret").settings.validate = .ok () := by decide +kernel
  obtain ⟨key, hkey, hserved⟩ := serve_shown_key hvalid
  obtain rfl : "secret" = key := Option.some.inj hkey
  obtain ⟨hrefused, hshown, -⟩ :=
    hserved ⟨"first", "1", "a"⟩ (clearRequest "Bearer secret") {}
  have hadmitted := (hshown rfl).mpr (by decide +kernel)
  exact ⟨hvalid, hadmitted, hrefused.not.mpr fun h ↦ h.2.2.2.2 hadmitted⟩

/-- With a blank in front of the key, no request that shows it passes. -/
theorem serve_shown_key_blank :
    (keyService " secret").settings.validate = .ok () ∧
      (clearRequest "Bearer  secret").header? "authorization" = some ("Bearer " ++ " secret") ∧
      ¬(keyService " secret").Admitted (clearRequest "Bearer  secret") ∧
      (((keyService " secret").serve ⟨"first", "1", "a"⟩ (clearRequest "Bearer  secret")).run
        {}).1.2.status = 401 := by
  have hkept : ¬(keyService " secret").Admitted (clearRequest "Bearer  secret") :=
    (admitted_iff_shown rfl (by decide) rfl).not.mpr (by decide +kernel)
  exact ⟨by decide +kernel, rfl, hkept, by decide +kernel⟩

end Service

end Mailroom
