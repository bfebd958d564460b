import Mailroom.Locale.SubjectLine
import Mailroom.Proofs.Json.Shape
import Mailroom.Proofs.Template.Translating
import Mailroom.Proofs.Text.Splitting

/-!
# Subject lines and texts

The subject lines of a document are taken out of it when it is read, into a table of their own.
They stay in the document as well, where a template finds them by their path like any other text.
Both ways lead to one line, since whatever document is accepted has nothing but texts among its
subject lines, and both go along the same chain of locales (`subject_eq_text`). They part at an
empty line: the table passes it over, and the path ends at it.
-/

namespace Mailroom

variable {v : Json} {key : String}

theorem findSome?_congr {α β : Type} {f g : α → Option β} {as : List α}
    (h : ∀ a ∈ as, f a = g a) : as.findSome? f = as.findSome? g := by
  induction as with
  | nil => rfl
  | cons a as ih =>
    obtain ⟨ha, has⟩ := List.forall_mem_cons.mp h
    rw [List.findSome?_cons, List.findSome?_cons, ha, ih has]

/-! ## Tables of texts -/

namespace Json

open Shape (Stands)

theorem Shape.mapM_member_text_eq_ok_iff {ms : Members} {entries : List (String × String)} :
    ms.mapM (fun m ↦ do return (m.1, ← text m.2)) = Except.ok (ε := ShapeError) entries ↔
      ms = entries.map fun e ↦ (e.1, .str e.2) := by
  induction ms generalizing entries with
  | nil => cases entries <;> simp [pure, Except.pure]
  | cons m ms ih =>
    simp only [List.mapM_cons, bind_eq_ok, text_eq_ok_iff, ih]
    constructor
    · rintro ⟨_, ⟨line, hline, ⟨⟩⟩, rest, rfl, ⟨⟩⟩
      rw [List.map_cons, ← hline]
    · intro h
      obtain ⟨e, rest, rfl, rfl, rfl⟩ := List.map_eq_cons_iff.mp h.symm
      exact ⟨e, ⟨e.2, rfl, rfl⟩, rest, rfl, rfl⟩

theorem Shape.table_text_eq_ok_iff {entries : List (String × String)} :
    table text v = .ok entries ↔ v = .obj (entries.map fun e ↦ (e.1, .str e.2)) := by
  unfold table
  simp only [bind_eq_ok, members_eq_ok_iff]
  constructor
  · rintro ⟨ms, rfl, h⟩
    exact congrArg Json.obj (mapM_member_text_eq_ok_iff.mp h)
  · rintro rfl
    exact ⟨_, rfl, mapM_member_text_eq_ok_iff.mpr rfl⟩

theorem Members.get?_map_str (entries : List (String × String)) (key : String) :
    Members.get? (entries.map fun e ↦ (e.1, .str e.2)) key = (entries.lookup key).map .str := by
  induction entries with
  | nil => rfl
  | cons e entries ih =>
    rw [List.map_cons, Members.get?, List.lookup_cons, List.lookup_cons]
    split
    · rfl
    · exact ih

end Json

namespace Locale

/-! ## Subject lines of a document -/

namespace Bundle

variable {b : Bundle}

/-- The bundle is read from a document that is an object. -/
def IsRead (b : Bundle) : Prop := ∃ ms, Bundle.ofJson (.obj ms) = .ok b

/-- What a document has in the place of a subject line. -/
def subjectIn? (b : Bundle) (key : String) : Option Json :=
  (b.document.get? "subjects").bind (·.get? key)

/-- The table of subject lines has the lines of the document. -/
theorem IsRead.subjectIn?_eq (h : b.IsRead) (key : String) :
    b.subjectIn? key = (b.subjects.lookup key).map .str := by
  obtain ⟨ms, h⟩ := h
  unfold Bundle.ofJson at h
  simp only [bind_eq_ok] at h
  obtain ⟨fields, hrecord, layout, -, subjects, hsubjects, ⟨⟩⟩ := h
  obtain rfl : ms = fields := by
    rw [Json.Shape.record, bind_eq_ok] at hrecord
    obtain ⟨-, -, hfields⟩ := hrecord
    split at hfields
    · cases hfields
    · exact Except.ok.inj hfields
  rw [Json.Shape.getD_eq_ok_iff Json.Shape.table_text_eq_ok_iff] at hsubjects
  change (Json.Members.get? ms "subjects").bind _ = _
  cases hms : Json.Members.get? ms "subjects" with
  | none =>
    rw [hms] at hsubjects
    obtain rfl : subjects = [] := hsubjects
    rfl
  | some v =>
    rw [hms] at hsubjects
    obtain rfl : v = .obj (subjects.map fun e ↦ (e.1, .str e.2)) := hsubjects
    exact Json.Members.get?_map_str subjects key

/-- The key of a text that is the subject line under a name. -/
def subjectPath (key : String) : String := "subjects." ++ key

theorem lookup_subjectPath (hkey : '.' ∉ key.toList) :
    b.lookup (subjectPath key) = (b.subjectIn? key).bind Json.text? := by
  have hparts : keyParts (subjectPath key) = ["subjects", key] := by
    have hpath : (subjectPath key).toList = "subjects".toList ++ '.' :: key.toList := by
      rw [subjectPath, String.toList_append]
      rfl
    rw [keyParts, hpath, Text.splitAt_append_cons_self (by decide), Text.splitAt_of_not_mem hkey]
    simp
  rw [lookup, hparts, subjectIn?]
  simp only [follow, Option.bind_fun_some]

/-- A line that is not empty is the same in the table and at the end of its path. -/
theorem IsRead.subject_eq (h : b.IsRead) (hkey : '.' ∉ key.toList)
    (hne : b.subjectIn? key ≠ some (.str "")) : b.subject key = b.lookup (subjectPath key) := by
  rw [lookup_subjectPath hkey, h.subjectIn?_eq]
  rw [h.subjectIn?_eq] at hne
  unfold subject
  cases hline : b.subjects.lookup key with
  | none => rfl
  | some line =>
    have hline : line ≠ "" := by
      rintro rfl
      exact hne (by rw [hline]; rfl)
    rw [Option.filter_some, if_pos (bne_iff_ne.mpr hline)]
    rfl

end Bundle

/-! ## Subjects of messages -/

theorem mem_subjectKeys {template : String} (h : subjectKey? template = some key) :
    (template, key) ∈ subjectKeys := mem_of_lookup h

theorem dot_not_mem_of_subjectKey? {template : String} (h : subjectKey? template = some key) :
    '.' ∉ key.toList := by
  have hall : ∀ e ∈ subjectKeys, '.' ∉ e.2.toList := by decide
  exact hall _ (mem_subjectKeys h)

namespace Store

open Locale.Bundle (subjectPath)

variable {s : Store} {locale template : String}

/-- The subject of a message is the text under the path of its line, and the name of the template
where there is none. -/
theorem subject_eq_getD (hs : ∀ l, (s.bundle l).IsRead) (hkey : subjectKey? template = some key)
    (hne : ∀ l ∈ chain locale, (s.bundle l).subjectIn? key ≠ some (.str "")) :
    s.subject locale template = (s.lookup locale (subjectPath key)).text?.getD template := by
  have hdot := dot_not_mem_of_subjectKey? hkey
  rw [subject, hkey, lookup, text?_search]
  refine congrArg (Option.getD · template) ?_
  exact findSome?_congr fun l hl ↦ (hs l).subject_eq hdot (hne l hl)

/-- The text that the search finds is no empty line. -/
theorem text?_ne_empty (hs : ∀ l, (s.bundle l).IsRead) (hkey : subjectKey? template = some key)
    (hne : ∀ l ∈ chain locale, (s.bundle l).subjectIn? key ≠ some (.str "")) :
    (s.lookup locale (subjectPath key)).text? ≠ some "" := by
  intro hempty
  rw [lookup, text?_search] at hempty
  obtain ⟨l, hl, hline⟩ := List.exists_of_findSome?_eq_some hempty
  rw [Bundle.lookup_subjectPath (dot_not_mem_of_subjectKey? hkey), (hs l).subjectIn?_eq] at hline
  refine hne l hl ?_
  rw [(hs l).subjectIn?_eq]
  cases hlookup : (s.bundle l).subjects.lookup key with
  | none => rw [hlookup] at hline; cases hline
  | some line =>
    rw [hlookup] at hline
    obtain rfl : line = "" := Option.some.inj hline
    rfl

theorem missing_iff_text? (w : Wording) : w = .missing ↔ w.text? = none := by
  cases w with
  | missing => exact iff_of_true rfl rfl
  | found value => exact iff_of_false nofun nofun
  | fallback value origin => exact iff_of_false nofun nofun

/-- A message from a template that has a subject line is given the text that stands under the path
of the line, if no document on the way has an empty line there. Where the text is missing it is
given the name of the template, and in no other case unless the text is that name. -/
theorem subject_eq_text {s : Store} {locale template key : String}
    (hs : ∀ l, (s.bundle l).IsRead) (hkey : subjectKey? template = some key)
    (hne : ∀ l ∈ chain locale, (s.bundle l).subjectIn? key ≠ some (.str "")) (journal : Journal) :
    let text := ((s.textFor locale (subjectPath key) []).run journal).1
    (text = "" ↔ s.lookup locale (subjectPath key) = .missing) ∧
      (text ≠ "" → s.subject locale template = text) ∧
      (s.subject locale template = template ↔
        s.lookup locale (subjectPath key) = .missing ∨ text = template) := by
  intro text
  have htext : text = (s.lookup locale (subjectPath key)).text?.getD "" := by
    obtain ⟨h, -⟩ := s.textFor_gives locale (subjectPath key) [] journal.now journal rfl
    rw [lookup, text?_search]
    refine h.trans ?_
    rw [translation]
    cases (chain locale).findSome? fun l ↦ (s.bundle l).lookup (subjectPath key) <;> rfl
  rw [subject_eq_getD hs hkey hne, missing_iff_text?, htext]
  have hfound : (s.lookup locale (subjectPath key)).text? ≠ some "" :=
    text?_ne_empty hs hkey hne
  have htemplate : template ≠ "" := by
    have hall : ∀ e ∈ subjectKeys, e.1 ≠ "" := by decide
    exact hall _ (mem_subjectKeys hkey)
  cases hline : (s.lookup locale (subjectPath key)).text? with
  | none => exact ⟨iff_of_true rfl rfl, fun h ↦ absurd rfl h, iff_of_true rfl (.inl rfl)⟩
  | some line =>
    have hline : line ≠ "" := fun h ↦ hfound (hline.trans (congrArg some h))
    exact ⟨iff_of_false hline nofun, fun _ ↦ rfl, (or_iff_right nofun).symm⟩

/-- A document with one subject line. -/
def lineDocument (key line : String) : Json := .obj [("subjects", .obj [(key, .str line)])]

/-- A store whose Turkish and English documents have one subject line, and that has no others. -/
def lineStore (key turkish english : String) : Store where
  bundle
    | .tr => ⟨none, [(key, turkish)], lineDocument key turkish⟩
    | .en => ⟨none, [(key, english)], lineDocument key english⟩
    | .ar | .he => ⟨none, [], .obj []⟩

theorem lineStore_isRead (key turkish english : String) (l : Locale) :
    ((lineStore key turkish english).bundle l).IsRead := by
  cases l with
  | tr => exact ⟨[("subjects", .obj [(key, .str turkish)])], rfl⟩
  | en => exact ⟨[("subjects", .obj [(key, .str english)])], rfl⟩
  | ar | he => exact ⟨[], rfl⟩

theorem lineStore_subjectIn? (key : String) {turkish english : String} (hturkish : turkish ≠ "")
    (henglish : english ≠ "") (l : Locale) :
    ((lineStore key turkish english).bundle l).subjectIn? key ≠ some (.str "") := by
  have hline (line : String) (h : line ≠ "") :
      ((lineDocument key line).get? "subjects").bind (·.get? key) ≠ some (.str "") := by
    change List.lookup key [(key, Json.str line)] ≠ _
    rw [List.lookup_cons_self]
    exact fun heq ↦ h (Json.str.inj (Option.some.inj heq))
  cases l with
  | tr => exact hline turkish hturkish
  | en => exact hline english henglish
  | ar | he => exact nofun

theorem subject_eq_text_hebrew :
    (∀ l, ((lineStore "passwordReset" "Şifre" "Password").bundle l).IsRead) ∧
      (lineStore "passwordReset" "Şifre" "Password").subject " HE" "password-reset" =
        "Password" := by
  have hs := lineStore_isRead "passwordReset" "Şifre" "Password"
  have hkey : subjectKey? "password-reset" = some "passwordReset" := by decide
  have hne : ∀ l ∈ chain " HE",
      ((lineStore "passwordReset" "Şifre" "Password").bundle l).subjectIn? "passwordReset" ≠
        some (.str "") := fun l _ ↦ lineStore_subjectIn? _ (by decide) (by decide) l
  have htext : (((lineStore "passwordReset" "Şifre" "Password").textFor " HE"
      (subjectPath "passwordReset") []).run {}).1 = "Password" := by decide +kernel
  obtain ⟨-, hsubject, -⟩ := subject_eq_text hs hkey hne {}
  rw [htext] at hsubject
  exact ⟨hs, hsubject (by decide)⟩

/-- A line that reads like the name of the template is taken for the subject, and is not missing. -/
theorem subject_eq_template_of_found :
    (∀ l, ((lineStore "welcome" "Merhaba" "welcome").bundle l).IsRead) ∧
      (∀ l, ((lineStore "welcome" "Merhaba" "welcome").bundle l).subjectIn? "welcome" ≠
        some (.str "")) ∧
      subjectKey? "welcome" = some "welcome" ∧
      (lineStore "welcome" "Merhaba" "welcome").subject "en" "welcome" = "welcome" ∧
      (lineStore "welcome" "Merhaba" "welcome").lookup "en" (subjectPath "welcome") =
        .found "welcome" := by
  refine ⟨lineStore_isRead _ _ _, lineStore_subjectIn? _ (by decide) (by decide), by decide, ?_, ?_⟩
  all_goals decide +kernel

end Store

end Locale

end Mailroom
