import Mailroom.Proofs.Json.Members
import Mailroom.Proofs.Payload.Normalizing
import Mailroom.Proofs.Template.Fitting
import Mailroom.Proofs.Template.Keeping
import Mailroom.Proofs.Template.Spelling

/-!
# Texts of the locale in a message

A tag that asks for a text shows what the store has under the key for the locale of the message. On
its way to the store the locale is a member of the data: it is put there with the rest of the
presentation, found again from the scope of the tag, and taken for absent if it is empty. So a
message for the empty text, which is to be written in English like all other messages for a name
that stands for no locale, shows none of the texts that its template asks for.
-/

namespace Mailroom

open Journal (Gives answerAt)

/-! ## Texts of a store -/

namespace Locale

/-- The text that a search has come to, if any. -/
def Wording.text? : Wording → Option String
  | .found value => some value
  | .fallback value _ => some value
  | .missing => none

namespace Store

variable (s : Store) (locale key : String) (params : Json.Members)

/-- The first text under a key along the chain of a locale, with parameters put in. If there is
none, it is the empty text. -/
def translation : String :=
  ((chain locale).findSome? fun l ↦ (s.bundle l).lookup key).elim "" (interpolate · params)

theorem text?_search (requested : Option Locale) (locales : List Locale) :
    (s.search requested key locales).text? =
      locales.findSome? fun l ↦ (s.bundle l).lookup key := by
  induction locales with
  | nil => rfl
  | cons l locales ih =>
    rw [search, List.findSome?_cons]
    cases (s.bundle l).lookup key with
    | none => exact ih
    | some value =>
      dsimp only
      split
      · rfl
      · rfl

theorem textFor_gives (now : Int) :
    Gives now (s.textFor locale key params) (· = s.translation locale key params) := by
  have htext : (s.lookup locale key).text?.elim "" (interpolate · params) =
      s.translation locale key params :=
    congrArg (Option.elim · "" (interpolate · params)) (s.text?_search key _ _)
  rw [← htext]
  unfold textFor
  cases s.lookup locale key with
  | found value => exact .pure rfl
  | fallback value origin => exact Gives.log.bind fun _ _ ↦ Gives.count.bind fun _ _ ↦ .pure rfl
  | missing => exact Gives.log.bind fun _ _ ↦ Gives.count.bind fun _ _ ↦ .pure rfl

/-- The text that a message for a locale shows under a key. For the empty text it is not looked for
in the store. -/
def shownText : String := if locale = "" then "" else s.translation locale key params

theorem elim_shownText :
    (if locale = "" then none else some locale).elim "" (s.translation · key params) =
      s.shownText locale key params := by
  unfold shownText
  by_cases h : locale = ""
  · rw [if_pos h, if_pos h, Option.elim_none]
  · rw [if_neg h, if_neg h, Option.elim_some]

theorem presentation_locale (logoUrl : Option String) :
    (s.presentation logoUrl locale).locale = locale := by
  unfold presentation
  split
  · rfl
  · rfl

theorem shownText_eq_translation_iff :
    s.shownText locale key params = s.translation locale key params ↔
      (locale = "" → s.translation locale key params = "") := by
  unfold shownText
  split
  · rename_i h
    exact ⟨fun heq _ ↦ heq.symm, fun hempty ↦ (hempty h).symm⟩
  · rename_i h
    exact ⟨fun _ hempty ↦ absurd hempty h, fun _ ↦ rfl⟩

end Store

end Locale

/-! ## The locale of a message -/

namespace Template

open Mailroom.Locale (Presentation)
open Rendering (Tells Yields)

variable {now : Int}

/-- What a step tells at every stage with an invariant, it yields. -/
theorem Rendering.Yields.ofTells {α : Type} {I : Stage → Prop} {act : Rendering α} {P : α → Prop}
    (h : ∀ s, I s → Tells now s act P) : Yields now I act P := by
  intro s hs
  have hstep : Gives now (act.run s).run fun o ↦ ∃ x s', o = .ok (x, s') ∧ s' = s ∧ P x := h s hs
  refine hstep.weaken ?_
  rintro _ ⟨x, _, rfl, rfl, hx⟩ _ _ ⟨⟩
  exact ⟨hx, hs⟩

/-- What a template is told of its locale. -/
theorem presentation_get? (p : Presentation) : p.toJson.get? "locale" = some (.str p.locale) ∧
    p.toJson.get? "intlLocale" = some (.str p.numberTag) := by
  unfold Presentation.toJson
  cases p.logoUrl with
  | none => simp [Json.ofMembers, Json.get?, Json.Members.ofList, Json.Members.get?_insert]
  | some url => simp [Json.ofMembers, Json.get?, Json.Members.ofList, Json.Members.get?_insert]

/-- Data in which a presentation stands in its place. -/
def Presents (root : Json) (p : Presentation) : Prop :=
  ∃ members : Json.Members, root = .obj members ∧ members.get? presentationKey = some p.toJson

/-- Outside of the scopes of blocks, the presentation of the data is in force. -/
theorem Presents.presentation_eq {root : Json} {p : Presentation} (h : Presents root p)
    (store : Locale.Store) : Setting.presentation ⟨root, [{}], store⟩ = p.toJson := by
  obtain ⟨members, rfl, hget⟩ := h
  have hfind : find (.obj members) [{}] ⟨presentationKey, [.into presentationKey]⟩ =
      .ok { value := p.toJson, place := some [presentationKey] } := by
    change atPlace (.obj members) [presentationKey] = _
    rw [atPlace, descend, child, hget]
    rfl
  unfold Setting.presentation
  dsimp only
  rw [hfind]
  rfl

/-- A text that is not empty comes through. -/
theorem Presents.presented_eq {root : Json} {p : Presentation} (h : Presents root p)
    (store : Locale.Store) {field text : String} (hget : p.toJson.get? field = some (.str text)) :
    Setting.presented ⟨root, [{}], store⟩ field = if text = "" then none else some text := by
  unfold Setting.presented
  rw [h.presentation_eq, hget]
  split
  · rename_i hempty
    simp [Json.text?, hempty]
  · rename_i hempty
    simp [Json.text?, hempty]

/-- The helper for texts shows the text for the locale that is in force, and none without one. -/
theorem localized_gives (s : Setting) {c : Call} {key : String} {params : Json.Members}
    (hkey : c.values = [.str key]) (hparams : c.named.map (fun (k, f) ↦ (k, f.value)) = params)
    (now : Int) :
    Gives now (localized s c).run (· = .ok (.str
      ((s.presented "locale").elim "" fun locale ↦ s.store.translation locale key params))) := by
  obtain ⟨⟨_, place, missing, source⟩, hargs, rfl⟩ := List.map_eq_singleton_iff.mp hkey
  have hrequire : c.require "t" 0 = .ok ⟨.str key, place, missing, source⟩ := by
    rw [Call.require, hargs]
    rfl
  unfold localized
  rw [hrequire, hparams]
  refine Gives.bindExcept (P := (· = .ok ⟨.str key, place, missing, source⟩)) (.pure rfl) ?_
    (by rintro _ ⟨⟩)
  rintro _ ⟨⟩
  refine Gives.bindExcept (P := (· = .ok key)) (.pure rfl) ?_ (by rintro _ ⟨⟩)
  rintro _ ⟨⟩
  generalize s.presented "locale" = presented
  cases presented with
  | none => exact Gives.lift Gives.log fun _ _ ↦ .pure rfl
  | some locale =>
    have htext := s.store.textFor_gives locale key params now
    refine Gives.lift htext fun text hshown ↦ ?_
    rw [hshown, Option.elim_some]
    exact .pure rfl

/-- In a message the helper for texts shows the text for the locale of the message. -/
theorem Presents.localized_gives {root : Json} {p : Presentation} (h : Presents root p)
    (store : Locale.Store) {c : Call} {key : String} {params : Json.Members}
    (hkey : c.values = [.str key]) (hparams : c.named.map (fun (k, f) ↦ (k, f.value)) = params)
    (now : Int) :
    Gives now (localized ⟨root, [{}], store⟩ c).run
      (· = .ok (.str (store.shownText p.locale key params))) := by
  have htext := Template.localized_gives ⟨root, [{}], store⟩ hkey hparams now
  rw [h.presented_eq store (presentation_get? p).1] at htext
  rw [← store.elim_shownText]
  exact htext

/-! ## Tags that ask for a text -/

/-- Outside of the scopes of blocks, an argument stands for a value. -/
def Repertoire.Means (r : Repertoire) (now : Int) (a : Argument Json) (v : Json) : Prop :=
  ∀ s : Stage, s.scopes = [{}] → Tells now s (r.evaluate a) (·.value = v)

/-- A tag calls the helper for texts with a key and with some parameters. -/
structure Line.AsksFor (r : Repertoire) (now : Int) (line : Line Json) (key : String)
    (params : Json.Members) : Prop where
  isName : line.callee.isName = true
  title_eq : line.callee.title = "t"
  keyed : List.Forall₂ (r.Means now) line.positional [.str key]
  given : List.Forall₂ (fun a p ↦ a.1 = p.1 ∧ r.Means now a.2 p.2) (namedArguments line.given)
    params

theorem Repertoire.means_literal (r : Repertoire) (v : Json) : r.Means now (.literal v) v := by
  intro s _
  rw [evaluate]
  exact .pure rfl

theorem Repertoire.means_path (r : Repertoire) {p : Path} {f : Found}
    (h : find r.root [{}] p = .ok f) : r.Means now (.path p) f.value := by
  intro s hs
  rw [evaluate]
  refine Tells.get.bind ?_
  rintro _ rfl
  rw [hs]
  refine (Tells.ofExcept h).bind ?_
  rintro _ rfl
  exact Tells.pure rfl

/-- Outside of the scopes of blocks, a tag with a plain name makes a call with the values that its
arguments stand for. -/
theorem Repertoire.call_means (r : Repertoire) {line : Line Json} {values : List Json}
    {params : Json.Members} (hname : line.callee.isName = true)
    (hvalues : List.Forall₂ (r.Means now) line.positional values)
    (hgiven : List.Forall₂ (fun a p ↦ a.1 = p.1 ∧ r.Means now a.2 p.2) (namedArguments line.given)
      params) {s : Stage} (hs : s.scopes = [{}]) :
    Tells now s (r.call line) fun c ↦ c.name = line.callee.title ∧ c.values = values ∧
      c.named.map (fun (k, f) ↦ (k, f.value)) = params := by
  refine (calleeName_tells hname).bind ?_
  rintro _ rfl
  refine (Tells.mapM (R := fun v f ↦ f.value = v) hvalues fun a v ha ↦ ha s hs).bind ?_
  intro args hargs
  refine (Tells.mapM (R := fun p f ↦ (f.1, f.2.value) = p) hgiven ?_).bind ?_
  · rintro ⟨_, a⟩ ⟨k, v⟩ ⟨rfl, ha⟩
    refine (ha s hs).bind ?_
    rintro f rfl
    exact Tells.pure rfl
  intro named hnamed
  refine Tells.pure ⟨rfl, ?_, ?_⟩
  · exact List.forall₂_eq_eq_eq ▸ List.forall₂_map_left_iff.mpr hargs.flip
  · exact List.forall₂_eq_eq_eq ▸ List.forall₂_map_left_iff.mpr hnamed.flip

/-- A text as it stands at a stage. -/
def Stage.lay (s : Stage) (text : String) : String :=
  s.indent.elim text fun blanks ↦ String.ofList (indented blanks.toList text.toList)

theorem Stage.lay_of_indent_eq_none {s : Stage} (h : s.indent = none) (text : String) :
    s.lay text = text := by
  rw [lay, h, Option.elim_none]

theorem write_tells_lay (s : Stage) (text : String) :
    Tells now s (write text) (· = s.lay text) := by
  refine Tells.get.bind ?_
  rintro s rfl
  unfold Stage.lay
  cases s.indent with
  | none => exact Tells.pure rfl
  | some blanks => exact Tells.pure rfl

theorem writeValue_tells_escaped {s : Stage} (hplain : s.plain = false) (v : Json) :
    Tells now s (writeValue v) (· = s.lay (escaped (shown v))) := by
  refine Tells.get.bind ?_
  rintro s rfl
  rw [hplain]
  exact write_tells_lay s _

namespace Line.AsksFor

variable {r : Repertoire} {line : Line Json} {key : String} {params : Json.Members} {s : Stage}

theorem call_tells (h : line.AsksFor r now key params) (hs : s.scopes = [{}]) :
    Tells now s (r.call line) fun c ↦ c.name = "t" ∧ c.values = [.str key] ∧
      c.named.map (fun (k, f) ↦ (k, f.value)) = params :=
  h.title_eq ▸ r.call_means h.isName h.keyed h.given hs

theorem isBare_eq_false (h : line.AsksFor r now key params) : line.isBare = false := by
  obtain ⟨callee, given, names⟩ := line
  cases given with
  | nil => cases h.keyed
  | cons => rfl

/-- A tag that asks for a text shows it, with no character that has a meaning in a page. -/
theorem showElement_tells (h : line.AsksFor r now key params) (hs : s.scopes = [{}])
    (hplain : s.plain = false) {p : Presentation} (hroot : Presents r.root p) (sub : Show) :
    Tells now s (r.showElement sub (.value line true))
      (· = s.lay (escaped (r.store.shownText p.locale key params))) := by
  change Tells now s (r.showValue sub line) _
  unfold Repertoire.showValue
  rw [h.isBare_eq_false]
  refine (h.call_tells hs).bind fun c ⟨hname, hkey, hparams⟩ ↦ ?_
  have hhelper : helper? c.name = some (.value localized) := by
    rw [hname]
    rfl
  rw [hhelper]
  refine Tells.get.bind ?_
  rintro s rfl
  rw [hs]
  have htext := hroot.localized_gives r.store hkey hparams now
  refine (Tells.ofAttempt (htext.weaken fun _ ho ↦ ⟨_, ho, rfl⟩)).bind ?_
  rintro _ rfl
  exact writeValue_tells_escaped hplain _

end Line.AsksFor

/-! ## Messages -/

namespace Renderer

variable (r : Renderer) (locale : String) (payload : Json.Members)

/-- What there is at hand when a template is shown with the data of a message. -/
def repertoire (now : Int) : Repertoire where
  root := answerAt now (r.context locale payload)
  store := r.store
  templates := r.library.kept

theorem repertoire_store (now : Int) : (r.repertoire locale payload now).store = r.store := rfl

/-- The data of a message is the payload in the form that templates know, with two members of its
own beside it. -/
theorem context_gives (now : Int) : Gives now (r.context locale payload)
    (· = .obj (((Payload.reconcile payload).insert textsKey (r.store.textsOf locale)).insert
      presentationKey (r.store.presentation r.logoUrl locale).toJson)) := by
  refine (Payload.normalize_gives payload now).bind fun normalized hnormalized ↦ ?_
  refine (r.store.textsFor_gives locale now).bind fun texts htexts ↦ ?_
  rw [hnormalized, htexts]
  exact .pure rfl

theorem repertoire_presents (now : Int) :
    Presents (r.repertoire locale payload now).root (r.store.presentation r.logoUrl locale) := by
  unfold repertoire
  rw [(r.context_gives locale payload now).answerAt_eq]
  exact ⟨_, rfl, Json.Members.get?_insert_self ..⟩

end Renderer

namespace Repertoire

/-- A template is shown as the texts of its elements. Whatever an element yields where no block is
open and no part is shown, its text is. -/
theorem render_texts (r : Repertoire) (t : Compiled) (now : Int) :
    Gives now (r.render t).run fun o ↦ ∀ page, o = .ok page → ∃ texts, page = String.join texts ∧
      List.Forall₂ (fun e text ↦ ∀ P : String → Prop,
        Yields now (Stage.At [{}] none) (r.showElement (r.showBody (nestingLimit - 1)) e.2) P →
          P text) t.body texts := by
  have hstart : Stage.At [{}] none {} := ⟨rfl, rfl, rfl⟩
  have hcurrent s current (hs : Stage.At [{}] none s) : Stage.At [{}] none { s with current } :=
    ⟨hs.scopes_eq, hs.indent_eq, hs.escapes⟩
  refine r.render_yields hstart (r.showBody_yields_texts hcurrent (fun e _ ↦ ?_) t.name now)
  have hsub := r.showBody_keeps (nestingLimit - 1)
  exact r.showElement_keeps hsub nests_around (r.within_around hsub e.2) ([{}], none)

end Repertoire

namespace Renderer

variable (r : Renderer) (locale : String) (payload : Json.Members)

theorem pageAt_eq (t : Compiled) (now : Int) :
    r.pageAt locale payload t now =
      answerAt now ((r.repertoire locale payload now).render t).run := by
  unfold pageAt page repertoire
  rfl

/-- A tag that asks for a text shows it wherever no block has a scope of its own. -/
theorem showElement_translates {line : Line Json} {key : String} {params : Json.Members} {s : Stage}
    (h : line.AsksFor (r.repertoire locale payload now) now key params) (hs : s.scopes = [{}])
    (hplain : s.plain = false) (sub : Show) :
    Tells now s ((r.repertoire locale payload now).showElement sub (.value line true))
      (· = s.lay (escaped (r.store.shownText locale key params))) := by
  have hroot := r.repertoire_presents locale payload now
  have hshown := h.showElement_tells hs hplain hroot sub
  rw [Locale.Store.presentation_locale, repertoire_store] at hshown
  exact hshown

/-- In a page, a tag that asks for a text outside of all blocks and parts has been shown as it. -/
theorem pageAt_translates {t : Compiled} {page : String}
    (h : r.pageAt locale payload t now = .ok page) :
    ∃ texts, page = String.join texts ∧
      List.Forall₂ (fun e text ↦ ∀ line key params, e.2 = .value line true →
        line.AsksFor (r.repertoire locale payload now) now key params →
          text = escaped (r.store.shownText locale key params)) t.body texts := by
  rw [pageAt_eq] at h
  obtain ⟨hrender, -⟩ := (r.repertoire locale payload now).render_texts t now { now } rfl
  obtain ⟨texts, hpage, htexts⟩ := hrender page h
  refine ⟨texts, hpage, htexts.imp ?_⟩
  rintro ⟨position, e⟩ text htext line key params rfl hasks
  refine htext (· = escaped (r.store.shownText locale key params)) (.ofTells fun s hs ↦ ?_)
  have hshown := r.showElement_translates locale payload hasks hs.scopes_eq hs.escapes
    ((r.repertoire locale payload now).showBody (nestingLimit - 1))
  rw [Stage.lay_of_indent_eq_none hs.indent_eq] at hshown
  exact hshown

/-- A tag that asks for a text shows the text that the store has for the locale of the message,
with no character that has a meaning in a page: wherever no block has a scope of its own, and so in
every page. If the locale is the empty text it shows none, which is another one unless the store has
none either. -/
theorem render_translates (files : Files.Tree) (name : String) (journal : Journal) :
    (∀ (line : Line Json) (key : String) (params : Json.Members),
      line.AsksFor (r.repertoire locale payload journal.now) journal.now key params →
        ∀ (sub : Show) (s : Stage), s.scopes = [{}] → s.plain = false →
          Tells journal.now s
            ((r.repertoire locale payload journal.now).showElement sub (.value line true))
            (· = s.lay (escaped (r.store.shownText locale key params)))) ∧
    (∀ page, ((r.render files name locale payload).run journal).1.2 = .ok page →
      ∃ t library texts, r.library.fetched files name = .ok (t, library) ∧
        page = String.join texts ∧
        List.Forall₂ (fun e text ↦ ∀ line key params, e.2 = .value line true →
          line.AsksFor ({ r with library }.repertoire locale payload journal.now) journal.now key
            params → text = escaped (r.store.shownText locale key params)) t.body texts) ∧
    ∀ (key : String) (params : Json.Members),
      ((r.store.textFor locale key params).run journal).1 = r.store.translation locale key params ∧
        (r.store.shownText locale key params = r.store.translation locale key params ↔
          (locale = "" → r.store.translation locale key params = "")) := by
  refine ⟨fun line key params hasks sub s hs hplain ↦ ?_, fun page hpage ↦ ?_, fun key params ↦ ?_⟩
  · exact r.showElement_translates locale payload hasks hs hplain sub
  · obtain ⟨hrendered, -⟩ := r.render_gives files name locale payload journal.now journal rfl
    rw [hrendered] at hpage
    obtain ⟨t, library, hfetched, hpageAt⟩ := r.rendered_eq_ok files name locale payload hpage
    obtain ⟨texts, hjoin, htexts⟩ := pageAt_translates { r with library } locale payload hpageAt
    exact ⟨t, library, texts, hfetched, hjoin, htexts⟩
  · obtain ⟨htext, -⟩ := r.store.textFor_gives locale key params journal.now journal rfl
    exact ⟨htext, r.store.shownText_eq_translation_iff locale key params⟩

/-- Texts that greet by name. -/
def politeGreetings : Locale.Store where
  bundle l := {
    layout := none
    subjects := []
    document := .obj [("greeting", .str
      ((if l = .tr then "Merhaba" else "Hello") ++ " \x7b\x7bname\x7d\x7d"))] }

/-- A renderer that greets by name. -/
def politeGreeter : Renderer :=
  { library := { dir := "", partsDir := "partials" }, store := politeGreetings }

/-- A tag that greets the user. -/
def greetingLine : Line Json where
  callee := .path ⟨"t", [.into "t"]⟩
  given := [(none, .literal (.str "greeting")), (some "name", .path ⟨"user", [.into "user"]⟩)]

theorem render_translates_greeting :
    greetingLine.AsksFor (politeGreeter.repertoire "xx" [("user", .str "Tom & Co")] 0) 0 "greeting"
        [("name", .str "Tom & Co")] ∧
      Tells 0 {} ((politeGreeter.repertoire "xx" [("user", .str "Tom & Co")] 0).showElement
        (fun _ _ ↦ pure "") (.value greetingLine true)) (· = "Hello Tom &amp; Co") := by
  have hasks : greetingLine.AsksFor
      (politeGreeter.repertoire "xx" [("user", .str "Tom & Co")] 0) 0 "greeting"
        [("name", .str "Tom & Co")] := by
    have hfind : find (politeGreeter.repertoire "xx" [("user", .str "Tom & Co")] 0).root [{}]
        ⟨"user", [.into "user"]⟩ = .ok { value := .str "Tom & Co", place := some ["user"] } := by
      rfl
    have hgiven : namedArguments greetingLine.given =
        [("name", .path ⟨"user", [.into "user"]⟩)] := by
      simp [namedArguments, greetingLine]
    refine ⟨rfl, rfl, .cons (Repertoire.means_literal _ _) .nil, ?_⟩
    rw [hgiven]
    exact .cons ⟨rfl, Repertoire.means_path _ hfind⟩ .nil
  obtain ⟨hshown, -⟩ := politeGreeter.render_translates "xx" [("user", .str "Tom & Co")]
    { nodes := [] } "note" {}
  refine ⟨hasks, ?_⟩
  have h := hshown greetingLine _ _ hasks (fun _ _ ↦ pure "") {} rfl rfl
  have htext : Stage.lay {} (escaped (politeGreeter.store.shownText "xx" "greeting"
    [("name", .str "Tom & Co")])) = "Hello Tom &amp; Co" := by decide +kernel
  rw [htext] at h
  exact h

/-- The file of a template that shows a text of the locale and nothing else. -/
def greetingAlone : Files.Tree where
  nodes := [(["welcome.hbs"], .file "\x7b\x7bt 'greeting'\x7d\x7d".toUTF8)]

/-- A message for the empty text has the English subject line, and a blank in place of the English
text, which the store has for every other name that stands for no locale. -/
theorem render_nameless :
    ((greeter.render greetingAlone "welcome" "" []).run {}).1.2 = .ok "" ∧
      ((greeter.store.textFor "" "greeting" []).run {}).1 = "Hello" ∧
      greeter.subject "" "welcome" = "Hello" ∧
      ((greeter.render greetingAlone "welcome" "xx" []).run {}).1.2 = .ok "Hello" := by
  refine ⟨?_, ?_, ?_, ?_⟩
  all_goals decide +kernel

end Renderer

end Template

end Mailroom
