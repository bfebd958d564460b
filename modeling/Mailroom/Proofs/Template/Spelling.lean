import Mailroom.Proofs.Template.Desk
import Mailroom.Proofs.Template.Registry
import Mailroom.Proofs.Template.Renderer
import Mathlib.Tactic

/-!
# Spellings of a locale

A message names its locale in any case and with blanks around it. Texts, layout and subject lines
are found by the locale that is named, whatever the spelling is. Two things go by the spelling
itself: the tag for numbers, which only the bare tag of a locale brings about, and whether there is
a name at all, which is so for blanks and not for the empty text. Where two spellings agree in
these, the messages are the same, unless the template looks at the name that it is told.

That a template does not look at the name is a matter of one locale: it shows the same page when it
is told another name, while the helper for texts goes on using the locale of the message.
-/

namespace Mailroom

open Journal (Gives Steady answerAt)

/-! ## Names of a locale -/

namespace Locale

/-- Two texts that differ in nothing but the case of letters and the blanks around them. -/
def SameName (a b : String) : Prop := Text.asciiLower (Text.trim a) = Text.asciiLower (Text.trim b)

instance (a b : String) : Decidable (SameName a b) :=
  inferInstanceAs (Decidable (Text.asciiLower (Text.trim a) = Text.asciiLower (Text.trim b)))

/-- All texts that are shown for a locale. -/
def Store.textsOf (s : Store) (locale : String) : Json :=
  ((s.bundleFor? locale).getD (s.bundle .en)).document

theorem Store.textsFor_gives (s : Store) (locale : String) (now : Int) :
    Gives now (s.textsFor locale) (· = s.textsOf locale) := by
  unfold textsFor textsOf bundleFor?
  cases ofText? locale with
  | none => exact Gives.log.bind fun _ _ ↦ .pure rfl
  | some l => exact .pure rfl

/-- The text under a key for a locale, which goes by another name in the journal. -/
def Store.textNamed (s : Store) (name locale key : String) (params : Json.Members) :
    Journaled String := do
  match s.lookup locale key with
  | .found value => return interpolate value params
  | .fallback value origin =>
    Journal.log {
      level := .warn
      target := "ara_email_service::locale::translator"
      message := "Translation fallback"
      fields := [("key", .plain key), ("requested", .plain name),
        ("resolved", .plain origin.tag)] }
    Journal.count (.fellBack name origin.tag)
    return interpolate value params
  | .missing =>
    Journal.log {
      level := .warn
      target := "ara_email_service::locale::translator"
      message := "Translation not found in any locale"
      fields := [("key", .plain key), ("locale", .plain name)] }
    Journal.count .textMissing
    return ""

theorem Store.textNamed_self (s : Store) (locale key : String) (params : Json.Members) :
    s.textNamed locale locale key params = s.textFor locale key params := by
  unfold textNamed textFor
  cases s.lookup locale key with
  | found value => rfl
  | fallback value origin => rfl
  | missing => rfl

/-- The presentation of a locale that goes by another name. -/
def Store.presentationTold (s : Store) (told : String) (logoUrl : Option String) (locale : String) :
    Presentation := { s.presentation logoUrl locale with locale := told }

theorem Store.presentationTold_self (s : Store) (logoUrl : Option String) (locale : String) :
    s.presentationTold locale logoUrl locale = s.presentation logoUrl locale := by
  unfold presentationTold presentation
  split
  · rfl
  · rfl

namespace SameName

variable {a b : String}

theorem ofText?_eq (h : SameName a b) : ofText? a = ofText? b := by
  unfold ofText?
  rw [h]

theorem chain_eq (h : SameName a b) : chain a = chain b := by
  unfold chain
  rw [h.ofText?_eq]

theorem bundleFor?_eq (h : SameName a b) (s : Store) : s.bundleFor? a = s.bundleFor? b := by
  unfold Store.bundleFor?
  rw [h.ofText?_eq]

theorem subject_eq (h : SameName a b) (s : Store) (template : String) :
    s.subject a template = s.subject b template := by
  unfold Store.subject
  rw [h.chain_eq]

theorem textsOf_eq (h : SameName a b) (s : Store) : s.textsOf a = s.textsOf b := by
  unfold Store.textsOf
  rw [h.bundleFor?_eq]

theorem textNamed_eq (h : SameName a b) (s : Store) (name key : String) (params : Json.Members) :
    s.textNamed name a key params = s.textNamed name b key params := by
  unfold Store.textNamed Store.lookup
  rw [h.ofText?_eq, h.chain_eq]

/-- Under one name, the presentations of two spellings differ at most in the tag for numbers. -/
theorem presentationTold_eq (h : SameName a b) (s : Store) (told : String) (logoUrl : Option String)
    (hnumber : (s.presentation logoUrl a).numberTag = (s.presentation logoUrl b).numberTag) :
    s.presentationTold told logoUrl a = s.presentationTold told logoUrl b := by
  unfold Store.presentationTold
  unfold Store.presentation at hnumber ⊢
  rw [h.bundleFor?_eq] at hnumber ⊢
  split at hnumber
  · simpa using hnumber
  · rfl

end SameName

end Locale

/-! ## Being told another name -/

namespace Template

open Mailroom.Locale (SameName)

/-- The name to go by in place of the one that is told. -/
def trueName (told locale name : String) : String := if name = told then locale else name

theorem trueName_self (locale name : String) : trueName locale locale name = name := by
  unfold trueName
  split
  · rename_i h
    exact h.symm
  · rfl

/-- The helper for texts, where the presentation tells another name than the one to go by. -/
def localizedTold (told locale : String) (s : Setting) (c : Call) : Attempt Fault Json := do
  let key ← match ← ExceptT.mk (pure (c.require "t" 0)) with
    | { value := .str key, .. } => pure key
    | _ => throw (.wrongType "string")
  match (s.presented "locale").filter fun name ↦ trueName told locale name != "" with
  | none =>
    Journal.log {
      level := .warn
      target := helperTarget ++ "::translate"
      message := "t helper missing locale"
      fields := [("key", .plain key)] }
    return .str ""
  | some name =>
    let params := c.named.map fun (k, f) ↦ (k, f.value)
    return .str (← s.store.textNamed name (trueName told locale name) key params)

/-- A name that is told is not empty. -/
theorem Setting.presented_filter (s : Setting) (field : String) :
    (s.presented field).filter (· != "") = s.presented field := by
  unfold Setting.presented
  rw [Option.filter_filter]
  simp

theorem localizedTold_self (locale : String) : localizedTold locale locale = localized := by
  funext s c
  unfold localizedTold
  simp only [trueName_self, Locale.Store.textNamed_self, s.presented_filter]
  rfl

theorem localizedTold_eq {a b : String} (h : SameName a b) (hempty : a = "" ↔ b = "")
    (told : String) : localizedTold told a = localizedTold told b := by
  funext s c
  have hname name : (trueName told a name != "") = (trueName told b name != "") := by
    unfold trueName
    split
    · by_cases ha : a = ""
      · rw [ha, hempty.mp ha]
      · rw [bne_iff_ne.mpr ha, bne_iff_ne.mpr fun hb ↦ ha (hempty.mpr hb)]
    · rfl
  have htext name key params : s.store.textNamed name (trueName told a name) key params =
      s.store.textNamed name (trueName told b name) key params := by
    unfold trueName
    split
    · exact h.textNamed_eq s.store name key params
    · rfl
  unfold localizedTold
  simp only [hname, htext]

/-- The helpers, of which the one for texts does not go by the name that is told. -/
def helperTold? (told locale name : String) : Option Helper :=
  if name = "t" then some (.value (localizedTold told locale)) else helper? name

theorem helperTold?_self (locale : String) : helperTold? locale locale = helper? := by
  funext name
  unfold helperTold?
  split
  · rename_i h
    rw [h, localizedTold_self]
    rfl
  · rfl

namespace Renderer

variable (files : Files.Tree) (key locale : String) (payload : Json.Members) (r : Renderer)

/-- The data that a template is shown with when it is told another name of the locale. -/
def contextTold (told : String) : Journaled Json := do
  let normalized ← Payload.normalize payload
  let texts ← r.store.textsFor locale
  return .obj ((normalized.insert textsKey texts).insert presentationKey
    (r.store.presentationTold told r.logoUrl locale).toJson)

/-- What a template is shown as at an instant when it is told another name of the locale. -/
def pageTold (told : String) (t : Compiled) (now : Int) : Except RenderError String :=
  let registry : Registry := {
    root := answerAt now (r.contextTold locale payload told)
    store := r.store
    templates := r.library.kept
    helpers := helperTold? told locale }
  answerAt now (registry.render t).run

theorem pageTold_self (t : Compiled) (now : Int) :
    r.pageTold locale payload locale t now = r.pageAt locale payload t now := by
  have hcontext : r.contextTold locale payload locale = r.context locale payload := by
    unfold contextTold context
    simp only [Locale.Store.presentationTold_self]
  unfold pageTold
  rw [hcontext, helperTold?_self]
  exact congrArg (fun shown : Attempt RenderError String ↦ answerAt now shown.run)
    (Repertoire.withHelpers_render _ t)

theorem contextTold_gives (told : String) (now : Int) :
    Gives now (r.contextTold locale payload told)
      (· = .obj (((answerAt now (Payload.normalize payload)).insert textsKey
        (r.store.textsOf locale)).insert presentationKey
          (r.store.presentationTold told r.logoUrl locale).toJson)) := by
  refine ((Payload.normalize_steady payload).gives now).bind fun normalized hnormalized ↦ ?_
  refine (r.store.textsFor_gives locale now).bind fun texts htexts ↦ ?_
  rw [hnormalized, htexts]
  exact .pure rfl

/-- Two spellings to which the same tag for numbers belongs. -/
def SameNumbers (a b : String) : Prop :=
  (r.store.presentation r.logoUrl a).numberTag = (r.store.presentation r.logoUrl b).numberTag

instance (a b : String) : Decidable (r.SameNumbers a b) :=
  inferInstanceAs (Decidable (_ = (r.store.presentation r.logoUrl b).numberTag))

/-- When it is told another name, a template is shown alike for two spellings of a locale. -/
theorem pageTold_eq {a b : String} (h : SameName a b) (hempty : a = "" ↔ b = "")
    (hnumbers : r.SameNumbers a b) (told : String) (t : Compiled) (now : Int) :
    r.pageTold a payload told t now = r.pageTold b payload told t now := by
  have hcontext : answerAt now (r.contextTold a payload told) =
      answerAt now (r.contextTold b payload told) := by
    rw [(r.contextTold_gives a payload told now).answerAt_eq,
      (r.contextTold_gives b payload told now).answerAt_eq, h.textsOf_eq,
      h.presentationTold_eq r.store told r.logoUrl hnumbers]
  have hhelpers : helperTold? told a = helperTold? told b := by
    funext name
    unfold helperTold?
    rw [localizedTold_eq h hempty]
  unfold pageTold
  rw [hcontext, hhelpers]

/-! ## Messages -/

/-- The template of a message shows at an instant what it would show if it were told another name of
the locale. -/
def Overlooks (told : String) (now : Int) : Prop :=
  ∀ found, r.library.fetched files key = .ok found →
    { r with library := found.2 }.pageTold locale payload told found.1 now =
      { r with library := found.2 }.pageAt locale payload found.1 now

instance (told : String) (now : Int) :
    Decidable (r.Overlooks files key locale payload told now) :=
  inferInstanceAs (Decidable (∀ found, _ = Except.ok found → _))

end Renderer

/-- A failure, without the name of the locale that it quotes. -/
def LibraryError.unnamed : LibraryError → LibraryError
  | .notRendered key _ reason => .notRendered key "" reason
  | e => e

namespace Renderer

variable (files : Files.Tree) (key : String) (payload : Json.Members) (r : Renderer)

theorem rendered_eq {a b : String} (h : SameName a b) (hempty : a = "" ↔ b = "")
    (hnumbers : r.SameNumbers a b) {told : String} {now : Int}
    (ha : r.Overlooks files key a payload told now)
    (hb : r.Overlooks files key b payload told now) :
    (r.rendered files key a payload now).1 = (r.rendered files key b payload now).1 ∧
      (r.rendered files key a payload now).2.mapError LibraryError.unnamed =
        (r.rendered files key b payload now).2.mapError LibraryError.unnamed := by
  unfold rendered
  cases hfetched : r.library.fetched files key with
  | error e => exact ⟨rfl, rfl⟩
  | ok found =>
    refine ⟨rfl, ?_⟩
    have hpage :=
      pageTold_eq payload { r with library := found.2 } h hempty hnumbers told found.1 now
    rw [ha found hfetched, hb found hfetched] at hpage
    dsimp only
    rw [hpage]
    cases { r with library := found.2 }.pageAt b payload found.1 now with
    | error e => rfl
    | ok page => rfl

/-- Two spellings of a locale have the same subject lines. They have the same messages, apart from
the name that a failure quotes, if the same tag for numbers belongs to both, if both are empty or
neither is, and if the template does not look at the name of the locale. -/
theorem render_sameName {a b : String} (h : SameName a b) :
    r.subject a key = r.subject b key ∧
      (r.SameNumbers a b → (a = "" ↔ b = "") → ∀ told (journal journal' : Journal),
        journal.now = journal'.now →
        r.Overlooks files key a payload told journal.now →
        r.Overlooks files key b payload told journal.now →
        ((r.render files key a payload).run journal).1.1 =
            ((r.render files key b payload).run journal').1.1 ∧
          ((r.render files key a payload).run journal).1.2.mapError LibraryError.unnamed =
            ((r.render files key b payload).run journal').1.2.mapError LibraryError.unnamed) := by
  refine ⟨h.subject_eq r.store key, fun hnumbers hempty told journal journal' hnow ha hb ↦ ?_⟩
  obtain ⟨hrendered, -⟩ := r.render_gives files key a payload journal.now journal rfl
  obtain ⟨hrendered', -⟩ := r.render_gives files key b payload journal.now journal' hnow.symm
  rw [hrendered, hrendered']
  exact r.rendered_eq files key payload h hempty hnumbers ha hb

/-- Texts with a layout, and a greeting that is Turkish for a Turkish message alone. -/
def greetings : Locale.Store where
  bundle l := {
    layout := some ⟨.ltr, .left, "Arial"⟩
    subjects := [("welcome", if l = .tr then "Merhaba" else "Hello")]
    document := .obj [("greeting", .str (if l = .tr then "Merhaba" else "Hello"))] }

/-- A renderer that has read nothing yet. -/
def greeter : Renderer := { library := { dir := "", partsDir := "partials" }, store := greetings }

/-- The file of a template that greets, and tells how it writes numbers. -/
def greetingFiles : Files.Tree where
  nodes := [(["welcome.hbs"],
    .file "\x7b\x7bt 'greeting'\x7d\x7d \x7b\x7b__meta.intlLocale\x7d\x7d".toUTF8)]

theorem render_sameName_greeter :
    SameName "TR" " Tr\n" ∧ greeter.subject "TR" "welcome" = greeter.subject " Tr\n" "welcome" ∧
      ((greeter.render greetingFiles "welcome" "TR" []).run {}).1.2 = .ok "Merhaba en-US" ∧
      ((greeter.render greetingFiles "welcome" "TR" []).run {}).1.2.mapError
          LibraryError.unnamed =
        ((greeter.render greetingFiles "welcome" " Tr\n" []).run {}).1.2.mapError
          LibraryError.unnamed := by
  have hname : SameName "TR" " Tr\n" := by decide +kernel
  obtain ⟨hsubject, hrender⟩ := greeter.render_sameName greetingFiles "welcome" [] hname
  have hnumbers : greeter.SameNumbers "TR" " Tr\n" := by decide +kernel
  have hempty : "TR" = "" ↔ " Tr\n" = "" := by decide
  obtain ⟨-, hpage⟩ := hrender hnumbers hempty "elsewhere" {} {} rfl (by decide +kernel)
    (by decide +kernel)
  exact ⟨hname, hsubject, by decide +kernel, hpage⟩

/-- The template greets in Turkish for both spellings, and does not look at the name of the locale;
but numbers are written as in Turkish for one of them alone. To the empty text it says nothing,
and to blanks it says something. -/
theorem spellings_differ :
    (SameName "tr" " TR " ∧
      greeter.Overlooks greetingFiles "welcome" "tr" [] "elsewhere" 0 ∧
      greeter.Overlooks greetingFiles "welcome" " TR " [] "elsewhere" 0 ∧
      ((greeter.render greetingFiles "welcome" "tr" []).run {}).1.2 = .ok "Merhaba tr-TR" ∧
      ((greeter.render greetingFiles "welcome" " TR " []).run {}).1.2 = .ok "Merhaba en-US") ∧
    SameName "" " " ∧
      greeter.Overlooks greetingFiles "welcome" "" [] "elsewhere" 0 ∧
      greeter.Overlooks greetingFiles "welcome" " " [] "elsewhere" 0 ∧
      ((greeter.render greetingFiles "welcome" "" []).run {}).1.2 = .ok " tr-TR" ∧
      ((greeter.render greetingFiles "welcome" " " []).run {}).1.2 = .ok "Hello tr-TR" := by
  refine ⟨⟨?_, ?_, ?_, ?_, ?_⟩, ?_, ?_, ?_, ?_, ?_⟩
  all_goals decide +kernel

end Renderer

end Template

end Mailroom
