import Mailroom.Proofs.Lookup
import Mailroom.Proofs.Template.Ensuring
import Mailroom.Proofs.Template.Harmless
import Mailroom.Proofs.Template.Desk
import Mailroom.Proofs.Template.Renderer

/-!
# Values cannot bring markup into a page

Texts of a template are shown as they stand, and everything else that is shown is a value in its
escaped form or the word for a truth value. So a character that is masked by escaping and that
stands in no text of a template does not stand in the page either, whatever the data, the texts of
the locales and the helpers are. The stage of a rendering carries bodies from one place of a
template to another, and the indent of a part; the invariant is that all of them are harmless, and
that values are not being shown as they are.
-/

namespace Mailroom.Template

open Journal (Gives Steady answerAt)
open Rendering (Ensures Reads ofExcept ofAttempt)

/-! ## Characters -/

/-- A character that does not stand in escaped text. -/
def Masked (c : Char) : Prop := ∀ d, c ∉ escapedChar d

theorem masked_of_special {c : Char} (h : c = '<' ∨ c = '"') : Masked c := by
  intro d
  unfold escapedChar
  rcases h with rfl | rfl
  all_goals
    split_ifs
    all_goals first
    | decide
    | rw [List.mem_singleton]; rintro rfl; contradiction

variable {c : Char}

/-- A text without a character. -/
def Lacks (c : Char) (text : String) : Prop := c ∉ text.toList

theorem Lacks.escaped (hc : Masked c) (text : String) : Lacks c (escaped text) := by
  rw [Lacks, Template.escaped, String.toList_ofList, List.mem_flatMap]
  rintro ⟨d, -, hd⟩
  exact hc d hd

/-- A masked character does not stand in a text that is its own escaped form. -/
theorem Masked.not_mem (hc : Masked c) {text : List Char}
    (htext : text.flatMap escapedChar = text) : c ∉ text := by
  rw [← htext, List.mem_flatMap]
  rintro ⟨d, -, hd⟩
  exact hc d hd

theorem Masked.lacks_true (hc : Masked c) : Lacks c "true" := hc.not_mem (by decide)

theorem Masked.lacks_false (hc : Masked c) : Lacks c "false" := hc.not_mem (by decide)

theorem Masked.isLineBlank (hc : Masked c) : Cursor.isLineBlank c = false := by
  have hblanks : c ∉ [' ', '\t'] := hc.not_mem (by decide)
  simpa [Cursor.isLineBlank] using hblanks

theorem lacks_empty : Lacks c "" := List.not_mem_nil

theorem Lacks.join {texts : List String} (h : ∀ t ∈ texts, Lacks c t) :
    Lacks c (String.join texts) := by
  rw [Lacks, String.toList_join, List.mem_flatMap]
  rintro ⟨t, ht, hmem⟩
  exact h t ht hmem

theorem not_mem_indented {indent cs : List Char} (hindent : c ∉ indent) (hcs : c ∉ cs) :
    c ∉ indented indent cs := by
  fun_induction indented indent cs with
  | case1 => exact hcs
  | case2 => exact hcs
  | case3 cs _ ih => simp_all
  | case4 d cs _ _ ih => simp_all

/-! ## Output -/

/-- A stage that holds harmless bodies and on which values are escaped. -/
structure Stage.Harmless (c : Char) (s : Stage) : Prop where
  escapes : s.plain = false
  defined : ∀ d ∈ s.defined, Body.Harmless c d.2
  given : ∀ body ∈ s.given, Body.Harmless c body
  indent : ∀ blanks, s.indent = some blanks → Lacks c blanks

theorem write_ensures {text : String} (h : Lacks c text) :
    Ensures (Stage.Harmless c) (write text) (Lacks c) := by
  apply Ensures.get.bind
  intro s hs
  split
  · rename_i blanks hblanks
    refine .pure ?_
    rw [Lacks, String.toList_ofList]
    exact not_mem_indented (hs.indent blanks hblanks) h
  · exact .pure h

theorem writeValue_ensures (hc : Masked c) (v : Json) :
    Ensures (Stage.Harmless c) (writeValue v) (Lacks c) := by
  apply Ensures.get.bind
  intro s hs
  rw [hs.escapes]
  exact write_ensures (.escaped hc _)

/-! ## Blocks -/

section

variable {sub : Show}
  (hsub : ∀ name body, Body.Harmless c body → Ensures (Stage.Harmless c) (sub name body) (Lacks c))

include hsub

theorem Show.optional_ensures {body : Option Body}
    (hbody : ∀ b, body = some b → Body.Harmless c b) :
    Ensures (Stage.Harmless c) (sub.optional body) (Lacks c) := by
  cases body with
  | none => exact .pure lacks_empty
  | some body => exact hsub none body (hbody body rfl)

omit hsub in
theorem inScope_ensures {act : Rendering String}
    (h : Ensures (Stage.Harmless c) act (Lacks c)) (scope : Scope) :
    Ensures (Stage.Harmless c) (inScope scope act) (Lacks c) := by
  have hscopes (scopes : Stage → List Scope) (s : Stage) (hs : s.Harmless c) :
      Stage.Harmless c { s with scopes := scopes s } :=
    ⟨hs.escapes, hs.defined, hs.given, hs.indent⟩
  refine Ensures.get.bind fun outer _ ↦ (Ensures.modify (hscopes _)).bind fun _ _ ↦ ?_
  exact h.bind fun text htext ↦ (Ensures.modify (hscopes _)).bind fun _ _ ↦ .pure htext

theorem eachItem_ensures (line : Line Json) (place : Option (List String)) {body : Body}
    (hbody : Body.Harmless c body) (counter : String) (items : List (String × Json × Json)) :
    Ensures (Stage.Harmless c) (eachItem sub line place body counter items) (Lacks c) :=
  (Ensures.mapIdxM (fun _ _ ↦ inScope_ensures (hsub none body hbody) _) items).bind fun _ htexts ↦
    .pure (.join htexts)

theorem showEach_ensures (line : Line Json) (call : Call) {body : Body} {otherwise : Option Body}
    (hbody : Body.Harmless c body) (hotherwise : ∀ b, otherwise = some b → Body.Harmless c b) :
    Ensures (Stage.Harmless c) (showEach sub line call body otherwise) (Lacks c) := by
  apply (Reads.ofExcept _).ensures.bind
  intro found _
  dsimp only
  split
  · exact Show.optional_ensures hsub hotherwise
  · exact Show.optional_ensures hsub hotherwise
  · exact eachItem_ensures hsub line _ hbody _ _
  · exact eachItem_ensures hsub line _ hbody _ _
  · exact Show.optional_ensures hsub hotherwise

theorem showInside_ensures (line : Line Json) (call : Call) {body : Body} {otherwise : Option Body}
    (hbody : Body.Harmless c body) (hotherwise : ∀ b, otherwise = some b → Body.Harmless c b) :
    Ensures (Stage.Harmless c) (showInside sub line call body otherwise) (Lacks c) := by
  apply (Reads.ofExcept _).ensures.bind
  intro found _
  dsimp only
  split
  · exact inScope_ensures (hsub none body hbody) _
  · exact Show.optional_ensures hsub hotherwise

namespace Repertoire

variable (r : Repertoire)

/-- A tag that calls a helper shows a value in its escaped form, a truth value, or one of its
bodies. -/
theorem showCall_ensures (hc : Masked c) (line : Line Json) {body otherwise : Option Body}
    (hbody : ∀ b, body = some b → Body.Harmless c b)
    (hotherwise : ∀ b, otherwise = some b → Body.Harmless c b) :
    Ensures (Stage.Harmless c) (r.showCall sub line body otherwise) (Lacks c) := by
  apply (r.call_reads r.templates line).ensures.bind
  intro call _
  split
  · exact .fail _
  · rename_i helper hh
    apply (r.setting_reads r.templates).ensures.bind
    intro s _
    split
    · refine (Reads.ofAttempt (helper?_steady hh s call)).ensures.bind fun v _ ↦ ?_
      exact writeValue_ensures hc v
    · refine .pure ?_
      split
      · exact hc.lacks_true
      · exact hc.lacks_false
    · split
      · exact hsub none _ (hbody _ rfl)
      · exact Show.optional_ensures hsub hotherwise
    · apply (Reads.ofExcept _).ensures.bind
      intro b _
      split
      · exact hsub none _ (hbody _ rfl)
      · exact Show.optional_ensures hsub hotherwise
    · exact showEach_ensures hsub line call (hbody _ rfl) hotherwise
    · exact showInside_ensures hsub line call (hbody _ rfl) hotherwise
    · exact hsub none _ (hbody _ rfl)
    · exact (Helper.bodiless_reads _ s call).ensures.bind fun _ _ ↦ .pure lacks_empty

theorem showValue_ensures (hc : Masked c) (line : Line Json) :
    Ensures (Stage.Harmless c) (r.showValue sub line) (Lacks c) := by
  have hcall : Ensures (Stage.Harmless c) (r.showCall sub line none none) (Lacks c) :=
    r.showCall_ensures hsub hc line nofun nofun
  unfold showValue
  split
  · apply (r.calleeName_reads r.templates _).ensures.bind
    intro name _
    split
    · exact hcall
    · apply (r.evaluate_reads r.templates _).ensures.bind
      intro found _
      split
      · exact .pure lacks_empty
      · exact writeValue_ensures hc _
  · exact hcall

/-! ## Parts -/

omit hsub in
theorem definePart_ensures (call : Call) {body : Option Body}
    (hbody : ∀ b, body = some b → Body.Harmless c b) :
    Ensures (Stage.Harmless c) (definePart call body) fun _ ↦ True := by
  apply (Reads.ofExcept _).ensures.bind
  intro found _
  split
  · cases body with
    | none => exact .fail _
    | some body =>
      refine .modify fun s hs ↦ ⟨hs.escapes, ?_, hs.given, hs.indent⟩
      exact List.forall_mem_cons.mpr ⟨hbody body rfl, hs.defined⟩
  · exact .fail _

omit hsub in
theorem decorate_ensures (line : Line Json) {body : Option Body}
    (hbody : ∀ b, body = some b → Body.Harmless c b) :
    Ensures (Stage.Harmless c) (r.decorate line body) fun _ ↦ True := by
  rw [decorate_eq]
  apply (r.call_reads r.templates line).ensures.bind
  intro call _
  split
  · exact (Ensures.fail (P := fun _ ↦ True) _).bind fun _ _ ↦ definePart_ensures call hbody
  · exact definePart_ensures call hbody

omit hsub in
theorem decorateAll_ensures {body : Body} (hbody : Body.Harmless c body) :
    Ensures (Stage.Harmless c) (r.decorateAll body) fun _ ↦ True := by
  induction body using Repertoire.decorateAll.induct with
  | case1 =>
    rw [decorateAll]
    exact .pure trivial
  | case2 position line inner rest ih =>
    rw [decorateAll]
    cases hbody.head with
    | decorator _ hinner =>
      have hdecorate := r.decorate_ensures line hinner
      exact (hdecorate.adapt (RenderError.locate position)).bind fun _ _ ↦ ih hbody.tail
  | case3 head rest hne ih =>
    rw [decorateAll]
    · exact ih hbody.tail
    · exact hne

/-- What can be put in is harmless. -/
def Harmless (c : Char) (r : Repertoire) : Prop := ∀ t ∈ r.templates, t.2.Harmless c

omit hsub in
/-- Wherever a part is found, it is harmless. -/
theorem part?_harmless (hr : r.Harmless c) {s : Stage} (hs : s.Harmless c) {name : String}
    {body : Option Body} (hbody : ∀ b, body = some b → Body.Harmless c b) {part : Compiled}
    (h : r.part? s name body = some part) : part.Harmless c := by
  simp only [part?, Option.orElse_eq_some, Option.map_eq_some_iff] at h
  rcases h with ⟨found, hfound, rfl⟩ | ⟨-, hkept | ⟨-, own, hown, rfl⟩⟩
  · split at hfound
    · exact hs.given found (List.mem_of_getElem? hfound)
    · exact hs.defined _ (mem_of_lookup hfound)
  · exact hr _ (mem_of_lookup hkept)
  · exact hbody own hown

theorem showIn_ensures (indent : Option String) (hindent : ∀ i, indent = some i → Lacks c i)
    {body : Option Body} (hbody : ∀ b, body = some b → Body.Harmless c b) (call : Call)
    {stage : Stage} (hstage : stage.Harmless c) {part : Option Compiled}
    (hpart : ∀ t, part = some t → t.Harmless c) :
    Ensures (Stage.Harmless c) (r.showIn sub indent body call stage part) (Lacks c) := by
  cases part with
  | none => exact .fail _
  | some part =>
    apply (Reads.ofExcept _).ensures.bind
    intro scopes _
    have hgiven : ∀ b ∈ body.toList ++ stage.given, Body.Harmless c b := by
      intro b hb
      rcases List.mem_append.mp hb with hb | hb
      · exact hbody b (Option.mem_toList.mp hb)
      · exact hstage.given b hb
    refine (Ensures.set ⟨hstage.escapes, hstage.defined, hgiven, hindent⟩).bind fun _ _ ↦ ?_
    refine (hsub part.name part.body (hpart part rfl)).bind fun text htext ↦ ?_
    exact (Ensures.set hstage).bind fun _ _ ↦ .pure htext

theorem putIn_ensures (hr : r.Harmless c) {indent : Option String}
    (hindent : ∀ i, indent = some i → Lacks c i) {body : Option Body}
    (hbody : ∀ b, body = some b → Body.Harmless c b) (call : Call) :
    Ensures (Stage.Harmless c) (r.putIn sub indent body call) (Lacks c) := by
  have hinner : Body.Harmless c (body.getD []) := by
    cases body with
    | none => exact .nil
    | some body => exact hbody body rfl
  refine (r.decorateAll_ensures hinner).bind fun _ _ ↦ Ensures.get.bind fun stage hstage ↦ ?_
  have hpart : ∀ t, r.part? stage call.name body = some t → t.Harmless c :=
    fun t ht ↦ r.part?_harmless hr hstage hbody ht
  have hshow := r.showIn_ensures hsub indent hindent hbody call hstage hpart
  dsimp only
  split
  · exact (Ensures.fail (P := fun _ ↦ True) _).bind fun _ _ ↦ hshow
  · exact hshow

/-! ## Elements -/

theorem showElement_ensures (hc : Masked c) (hr : r.Harmless c) {e : Element}
    (he : e.Harmless c) : Ensures (Stage.Harmless c) (r.showElement sub e) (Lacks c) := by
  cases he with
  | text hs => exact write_ensures hs
  | value line => exact r.showValue_ensures hsub hc line
  | block line hbody hotherwise =>
    refine r.showCall_ensures hsub hc line ?_ hotherwise
    rintro _ ⟨⟩
    exact hbody
  | decorator line hbody =>
    exact (r.decorate_ensures line hbody).bind fun _ _ ↦ .pure lacks_empty
  | part line hindent hbody =>
    exact (r.call_reads r.templates line).ensures.bind fun call _ ↦
      r.putIn_ensures hsub hr hindent hbody call
  | comment => exact .pure lacks_empty

end Repertoire

end

/-! ## Whole templates -/

namespace Repertoire

variable (r : Repertoire)

/-- A harmless body is shown without the character, however deeply bodies are nested. -/
theorem showBody_ensures (hc : Masked c) (hr : r.Harmless c) (n : Nat) (name : Option String)
    {body : Body} (hbody : Body.Harmless c body) :
    Ensures (Stage.Harmless c) (r.showBody n name body) (Lacks c) := by
  induction n generalizing name body with
  | zero => exact .fail _
  | succ n ih =>
    have hcurrent (s : Stage) (hs : s.Harmless c) : Stage.Harmless c { s with current := name } :=
      ⟨hs.escapes, hs.defined, hs.given, hs.indent⟩
    refine (Ensures.modify hcurrent).bind fun _ _ ↦ ?_
    refine (Ensures.mapM fun e he ↦ ?_).bind fun texts htexts ↦ .pure (.join htexts)
    have helement := r.showElement_ensures (fun name body hbody ↦ ih name hbody) hc hr (hbody e he)
    exact (helement.adapt (RenderError.locate e.1)).adapt (RenderError.inTemplate name)

/-- A harmless template is shown without the character. -/
theorem render_ensures (hc : Masked c) (hr : r.Harmless c) {t : Compiled} (ht : t.Harmless c)
    (now : Int) :
    Gives now (r.render t).run fun o ↦ ∀ page, o = .ok page → Lacks c page := by
  have hempty : Stage.Harmless c {} :=
    ⟨rfl, List.forall_mem_nil _, List.forall_mem_nil _, nofun⟩
  refine (r.showBody_ensures hc hr nestingLimit t.name ht {} now hempty).bindExcept ?_ ?_
  · rintro ⟨text, s⟩ htext
    refine .pure ?_
    rintro _ ⟨⟩
    exact (htext text s rfl).1
  · rintro e - _ ⟨⟩

/-- What is never asked for need not be harmless. -/
theorem render_lacks_of_avoids (hc : Masked c) {barred : String → Bool}
    (hr : ∀ t ∈ r.templates, barred t.1 = false → t.2.Harmless c) {t : Compiled}
    (ht : t.Harmless c) {now : Int} (havoids : r.Avoids barred t now) {page : String}
    (h : answerAt now (r.render t).run = .ok page) : Lacks c page := by
  have hsame name (hname : barred name = false) : r.templates.lookup name =
      (r.templates.filter fun t ↦ !barred t.1).lookup name := by
    rw [lookup_filter_key (fun name ↦ !barred name) (by rw [hname]; rfl)]
  rw [← r.render_eq_of_avoids _ havoids hsame] at h
  have hfiltered : Repertoire.Harmless c
      { r with templates := r.templates.filter fun t ↦ !barred t.1 } := by
    intro t ht
    obtain ⟨hmem, hname⟩ := List.mem_filter.mp ht
    exact hr t hmem (by simpa using hname)
  exact ((render_ensures _ hc hfiltered ht now) { now } rfl).1 page h

end Repertoire

/-! ## Messages -/

namespace Renderer

variable (files : Files.Tree) (key locale : String) (payload : Json.Members) (r : Renderer)

/-- The rendering of a message at an instant asks for nothing under a barred name. -/
def Avoids (barred : String → Bool) (now : Int) : Prop :=
  ∀ t lib, r.library.fetched files key = .ok (t, lib) →
    (lib.repertoire r.store (answerAt now (r.context locale payload))).Avoids barred t now

/-- A character that is special in a page, and that stands in no text of a template and of what it
may put in, where all values are escaped, does not get into the page of a message, whatever the
texts, the locale, the payload and the journal are. What a template may put in are the templates
that the library keeps, apart from those under names that the rendering does not ask for. -/
theorem render_lacks {c : Char} (hc : c = '<' ∨ c = '"') (journal : Journal)
    (barred : String → Bool)
    (hparts : ∀ part ∈ r.library.kept, barred part.1 = false → part.2.FromHarmless c)
    (havoids : r.Avoids files key locale payload barred journal.now)
    (htemplate : ∀ t lib, r.library.fetched files key = .ok (t, lib) → t.FromHarmless c) :
    ∀ page, ((r.render files key locale payload).run journal).1.2 = .ok page →
      c ∉ page.toList := by
  intro page hpage
  have hmasked := masked_of_special hc
  obtain ⟨hrendered, -⟩ := r.render_gives files key locale payload journal.now journal rfl
  rw [hrendered] at hpage
  obtain ⟨t, lib, hfetched, hshown⟩ := r.rendered_eq_ok files key locale payload hpage
  have ht := htemplate t lib hfetched
  have hkept : ∀ k ∈ lib.kept, barred k.1 = false → k.2.Harmless c := by
    intro k hk hname
    refine Compiled.FromHarmless.harmless hmasked.isLineBlank ?_
    cases Library.fetched_ends hfetched with
    | kept => exact hparts k hk hname
    | compiled =>
      rcases List.mem_cons.mp hk with rfl | hk
      · exact ht
      · exact hparts k (List.mem_of_mem_filter hk) hname
  exact Repertoire.render_lacks_of_avoids _ hmasked hkept (ht.harmless hmasked.isLineBlank)
    (havoids t lib hfetched) hshown

/-- A part that shows a label. -/
def entrySource : String := "(\x7b\x7blabel\x7d\x7d)"

/-- A template that shows its items by that part, and something of its own. -/
def listSource : String :=
  "\x7b\x7b#each items\x7d\x7d\x7b\x7b> entry label=(concat this '<')\x7d\x7d" ++
    "\x7b\x7b/each\x7d\x7d \x7b\x7bformatDate day\x7d\x7d"

/-- A renderer that has the part. -/
def listRenderer : Renderer where
  library := { dir := "", partsDir := "partials"
               kept := [("entry", (compile (some "entry") entrySource).toOption.getD {})] }
  store := Desk.noTexts

/-- The file of the template. -/
def listFiles : Files.Tree := { nodes := [(["list.hbs"], .file listSource.toUTF8)] }

/-- Items with markup, and no day. -/
def listPayload : Json.Members :=
  [("day", .str "<today>"), ("items", .arr [.str "<b>", .str "c"])]

theorem render_lacks_list :
    ((listRenderer.render listFiles "list" "en" listPayload).run {}).1.2 =
        .ok "(&lt;b&gt;&lt;)(c&lt;) &lt;today&gt;" ∧
      '<' ∉ "(&lt;b&gt;&lt;)(c&lt;) &lt;today&gt;".toList := by
  have hpage : ((listRenderer.render listFiles "list" "en" listPayload).run {}).1.2 =
      .ok "(&lt;b&gt;&lt;)(c&lt;) &lt;today&gt;" := by
    decide +kernel
  refine ⟨hpage, ?_⟩
  refine render_lacks listFiles "list" "en" listPayload listRenderer (.inl rfl) {} (fun _ ↦ false)
    ?_ ?_ ?_ _ hpage
  · intro part hpart _
    obtain rfl := List.mem_singleton.mp hpart
    have hcompile : ∃ t, compile (some "entry") entrySource = .ok t := by decide +kernel
    obtain ⟨t, ht⟩ := hcompile
    refine ⟨some "entry", entrySource, ?_, by decide +kernel⟩
    rw [ht]
    rfl
  · rintro t lib - e - ⟨name, -, hbarred⟩
    cases hbarred
  · intro t lib hfetched
    have hread : listFiles.readText (listRenderer.library.pathOf "list") = .ok listSource := by
      decide +kernel
    have hnone : listRenderer.library.kept.lookup (keptName "list") = none := rfl
    cases Library.fetched_ends hfetched with
    | kept _ hkept =>
      rw [hnone] at hkept
      cases hkept
    | compiled _ _ hread' hcompile =>
      obtain rfl := Except.ok.inj (hread.symm.trans hread')
      exact ⟨none, listSource, hcompile, by decide +kernel⟩

end Renderer

end Mailroom.Template
