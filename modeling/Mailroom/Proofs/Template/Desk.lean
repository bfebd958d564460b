import Mailroom.Proofs.Template.Inclusion
import Mailroom.Proofs.Template.Library
import Mailroom.Template.Renderer

/-!
# Working with a library

A library is asked for templates while its files and the clock change. A `Desk` holds what there
is: the files, the texts, the library and the journal; an `Act` is a change of files, a move of the
clock or a request; and a run is a list of acts with what comes of them.

Two desks with the same files, the same texts and the same time are `Level` if their libraries are
alike. Desks that are level answer alike, whatever is done at them and whatever has been written in
their journals.
-/

namespace Mailroom.Template

open Mailroom.Files (Tree)
open Journal (Gives Steady answerAt)

/-! ## Requests -/

/-- What can be asked of a library. -/
inductive Desk.Request where
  /-- Have a template in the library. -/
  | compile (key : String)
  /-- Show a template with some data. -/
  | render (key : String) (context : Json)
  /-- Whether there is a file for a template. -/
  | has (key : String)
  /-- The number of templates, of parts and of compilations. -/
  | figures
  /-- Forget the templates, and read the parts again. -/
  | clear

/-- What comes of an act. -/
inductive Desk.Reply where
  | done
  | page (text : String)
  | found (there : Bool)
  | figures (cached parts compilations : Nat)
  | cleared (parts : Nat)
  | refused (e : LibraryError)
  | notShown (e : RenderError)

deriving instance DecidableEq for RenderError, LibraryError, Desk.Reply

open Desk (Request Reply)

/-- Answer a request. -/
def Library.answer (files : Tree) (store : Locale.Store) (lib : Library) :
    Request → Journaled (Library × Reply)
  | .compile key => do
    match ← lib.fetch files key with
    | .error e => return (lib, .refused e)
    | .ok (_, lib) => return (lib, .done)
  | .render key context => do
    match ← lib.fetch files key with
    | .error e => return (lib, .refused e)
    | .ok (t, lib) =>
      match ← ({ library := lib, store } : Renderer).page t context with
      | .error e => return (lib, .notShown e)
      | .ok text => return (lib, .page text)
  | .has key => return (lib, .found (lib.has files key))
  | .figures => return (lib, .figures lib.cached lib.parts lib.compilations)
  | .clear => do
    match ← lib.clear files with
    | (lib, .error e) => return (lib, .refused e)
    | (lib, .ok n) => return (lib, .cleared n)

/-- What a library shows its templates with. -/
def Library.repertoire (lib : Library) (store : Locale.Store) (context : Json) : Repertoire :=
  { root := context, store, templates := lib.kept }

/-- What comes of showing a template. -/
def Desk.Reply.ofShown : Except RenderError String → Reply
  | .error e => .notShown e
  | .ok text => .page text

/-- What comes of clearing a library. -/
def Desk.Reply.ofCleared : Except LibraryError Nat → Reply
  | .error e => .refused e
  | .ok n => .cleared n

/-- The answer to a request and the library behind it, as they are at an instant. -/
def Library.answered (now : Int) (files : Tree) (store : Locale.Store) (lib : Library) :
    Request → Library × Reply
  | .compile key =>
    match lib.fetched files key with
    | .error e => (lib, .refused e)
    | .ok (_, lib) => (lib, .done)
  | .render key context =>
    match lib.fetched files key with
    | .error e => (lib, .refused e)
    | .ok (t, lib) => (lib, .ofShown (answerAt now ((lib.repertoire store context).render t).run))
  | .has key => (lib, .found (lib.has files key))
  | .figures => (lib, .figures lib.cached lib.parts lib.compilations)
  | .clear => ((lib.cleared files).1, .ofCleared (lib.cleared files).2)

theorem Library.answer_gives (now : Int) (files : Tree) (store : Locale.Store) (lib : Library)
    (request : Request) :
    Gives now (lib.answer files store request) (· = lib.answered now files store request) := by
  cases request with
  | compile key =>
    apply fetch_gives.bind
    intro o h
    dsimp only [answered]
    rw [← h]
    cases o with
    | error e => exact .pure rfl
    | ok found => exact .pure rfl
  | render key context =>
    apply fetch_gives.bind
    intro o h
    dsimp only [answered]
    rw [← h]
    cases o with
    | error e => exact .pure rfl
    | ok found =>
      have hpage := ((found.2.repertoire store context).render_steady found.1).gives now
      apply hpage.bind
      intro o h
      dsimp only
      rw [← h]
      cases o with
      | error e => exact .pure rfl
      | ok text => exact .pure rfl
  | has key => exact .pure rfl
  | figures => exact .pure rfl
  | clear =>
    apply clear_gives.bind
    intro o h
    dsimp only [answered]
    rw [← h]
    rcases o with ⟨lib', e | n⟩
    · exact .pure rfl
    · exact .pure rfl

namespace Desk.Reply

/-- The same answer from a library that has compiled some more templates. -/
def ahead (n : Nat) : Reply → Reply
  | .figures cached parts compilations => .figures cached parts (compilations + n)
  | reply => reply

@[simp] theorem ahead_zero (reply : Reply) : reply.ahead 0 = reply := by
  cases reply with
  | figures => rfl
  | _ => rfl

theorem ahead_ofShown (n : Nat) (o : Except RenderError String) :
    (ofShown o).ahead n = ofShown o := by
  cases o with
  | error e => rfl
  | ok text => rfl

theorem ahead_ofCleared (n : Nat) (o : Except LibraryError Nat) :
    (ofCleared o).ahead n = ofCleared o := by
  cases o with
  | error e => rfl
  | ok parts => rfl

end Desk.Reply

theorem Library.Distinct.answered {lib : Library} (h : lib.Distinct) (now : Int) (files : Tree)
    (store : Locale.Store) (request : Request) :
    (lib.answered now files store request).1.Distinct := by
  cases request with
  | compile key =>
    dsimp only [Library.answered]
    cases hf : lib.fetched files key with
    | error e => exact h
    | ok found => exact h.fetched hf
  | render key context =>
    dsimp only [Library.answered]
    cases hf : lib.fetched files key with
    | error e => exact h
    | ok found => exact h.fetched hf
  | has key => exact h
  | figures => exact h
  | clear => exact h.cleared

namespace Library.Alike

variable {n : Nat} {lib lib' : Library}

/-- Libraries that are alike show a template alike. -/
theorem render_eq (h : Alike n lib lib') (store : Locale.Store) (context : Json) (t : Compiled)
    (now : Int) :
    answerAt now ((lib.repertoire store context).render t).run =
      answerAt now ((lib'.repertoire store context).render t).run := by
  have hsame (name : String) : lib'.kept.lookup name = lib.kept.lookup name :=
    (h.lookup_eq name).symm
  exact (lib'.repertoire store context).render_eq_of_lookup lib.kept hsame t now

/-- Libraries that are alike answer alike, and they stay alike. -/
theorem answered (h : Alike n lib lib') (now : Int) (files : Tree) (store : Locale.Store)
    (request : Request) :
    Alike n (lib.answered now files store request).1 (lib'.answered now files store request).1 ∧
      (lib.answered now files store request).2 =
        (lib'.answered now files store request).2.ahead n := by
  cases request with
  | compile key =>
    dsimp only [Library.answered]
    obtain ⟨e, he, he'⟩ | ⟨t, l, l', hl, hl', hlike⟩ := h.fetched files key
    · rw [he, he']
      exact ⟨h, rfl⟩
    · rw [hl, hl']
      exact ⟨hlike, rfl⟩
  | render key context =>
    dsimp only [Library.answered]
    obtain ⟨e, he, he'⟩ | ⟨t, l, l', hl, hl', hlike⟩ := h.fetched files key
    · rw [he, he']
      exact ⟨h, rfl⟩
    · rw [hl, hl']
      refine ⟨hlike, ?_⟩
      dsimp only
      rw [Reply.ahead_ofShown, hlike.render_eq]
  | has key =>
    refine ⟨h, ?_⟩
    dsimp only [Library.answered, has]
    rw [h.pathOf_eq]
    rfl
  | figures =>
    refine ⟨h, ?_⟩
    dsimp only [Library.answered, Reply.ahead]
    rw [h.cached_eq, h.parts_eq, h.compilations_eq]
  | clear =>
    obtain ⟨hlike, hend⟩ := h.cleared files
    refine ⟨hlike, ?_⟩
    dsimp only [Library.answered]
    rw [Reply.ahead_ofCleared, hend]

end Library.Alike

/-! ## Desks -/

/-- What there is to work with. -/
structure Desk where
  files : Tree
  store : Locale.Store
  library : Library
  journal : Journal := {}

namespace Desk

/-- A change of files. -/
inductive Change where
  /-- Write a file, and make the folders above it. -/
  | write (path : String) (content : ByteArray)
  /-- Make a folder, and those above it. -/
  | makeFolder (path : String)
  /-- Remove a file, or a folder with all that is in it. -/
  | remove (path : String)

/-- The files after a change. -/
def Change.made (files : Tree) : Change → Tree
  | .write path content => files.write path content
  | .makeFolder path => files.makeFolder (Files.Path.ofText path)
  | .remove path => files.remove path

/-- What can happen at a desk. -/
inductive Act where
  /-- Change the files. -/
  | change (c : Change)
  /-- Move the clock. -/
  | clock (now : Int)
  /-- Ask the library. -/
  | ask (request : Request)

/-- Do something. -/
def step (d : Desk) : Act → Desk × Reply
  | .change c => ({ d with files := c.made d.files }, .done)
  | .clock now => ({ d with journal := { d.journal with now } }, .done)
  | .ask request =>
    let done := (d.library.answer d.files d.store request).run d.journal
    ({ d with library := done.1.1, journal := done.2 }, done.1.2)

/-- The desk after some acts. -/
def after (d : Desk) (acts : List Act) : Desk := acts.foldl (fun d act ↦ (d.step act).1) d

/-- What comes of some acts. -/
def run (d : Desk) : List Act → List Reply
  | [] => []
  | act :: acts => (d.step act).2 :: (d.step act).1.run acts

/-- What comes of asking goes by the files, the texts, the library and the time. -/
theorem step_ask (d : Desk) (request : Request) :
    (d.step (.ask request)).1.files = d.files ∧ (d.step (.ask request)).1.store = d.store ∧
      (d.step (.ask request)).1.journal.now = d.journal.now ∧
      ((d.step (.ask request)).1.library, (d.step (.ask request)).2) =
        d.library.answered d.journal.now d.files d.store request := by
  obtain ⟨h, hnow⟩ := d.library.answer_gives d.journal.now d.files d.store request d.journal rfl
  exact ⟨rfl, rfl, hnow, h⟩

theorem library_ask (d : Desk) (request : Request) : (d.step (.ask request)).1.library =
    (d.library.answered d.journal.now d.files d.store request).1 :=
  congrArg Prod.fst (d.step_ask request).2.2.2

theorem reply_ask (d : Desk) (request : Request) : (d.step (.ask request)).2 =
    (d.library.answered d.journal.now d.files d.store request).2 :=
  congrArg Prod.snd (d.step_ask request).2.2.2

theorem reply_compile {d : Desk} {key : String} {t : Compiled} {lib : Library}
    (h : d.library.fetched d.files key = .ok (t, lib)) :
    (d.step (.ask (.compile key))).2 = .done := by
  rw [reply_ask]
  dsimp only [Library.answered]
  rw [h]

theorem reply_compile_error {d : Desk} {key : String} {e : LibraryError}
    (h : d.library.fetched d.files key = .error e) :
    (d.step (.ask (.compile key))).2 = .refused e := by
  rw [reply_ask]
  dsimp only [Library.answered]
  rw [h]

/-- Desks at which the same happens, but that in the first library `n` templates more have been
compiled. -/
structure Level (n : Nat) (d d' : Desk) : Prop where
  files_eq : d.files = d'.files
  store_eq : d.store = d'.store
  now_eq : d.journal.now = d'.journal.now
  alike : d.library.Alike n d'.library

namespace Level

variable {n : Nat} {d d' : Desk}

theorem step (h : Level n d d') (act : Act) :
    Level n (d.step act).1 (d'.step act).1 ∧ (d.step act).2 = (d'.step act).2.ahead n := by
  cases act with
  | change c => exact ⟨⟨congrArg (Change.made · c) h.files_eq, h.store_eq, h.now_eq, h.alike⟩, rfl⟩
  | clock now => exact ⟨⟨h.files_eq, h.store_eq, rfl, h.alike⟩, rfl⟩
  | ask request =>
    obtain ⟨hf, hs, hn, ha⟩ := d.step_ask request
    obtain ⟨hf', hs', hn', ha'⟩ := d'.step_ask request
    obtain ⟨hlike, hreply⟩ := h.alike.answered d.journal.now d.files d.store request
    rw [← ha] at hlike hreply
    rw [h.now_eq, h.files_eq, h.store_eq, ← ha'] at hlike hreply
    refine ⟨⟨?_, ?_, ?_, hlike⟩, hreply⟩
    · rw [hf, hf', h.files_eq]
    · rw [hs, hs', h.store_eq]
    · rw [hn, hn', h.now_eq]

theorem run (h : Level n d d') (acts : List Act) :
    d.run acts = (d'.run acts).map (.ahead n) := by
  induction acts generalizing d d' with
  | nil => rfl
  | cons act acts ih =>
    obtain ⟨hlevel, hreply⟩ := h.step act
    rw [Desk.run, Desk.run, List.map_cons, hreply, ih hlevel]

end Level

/-! ## Clearing and opening -/

/-- The journal behind the opening of a library. -/
def openingJournal (files : Tree) (dir partsDir : String) (journal : Journal) : Journal :=
  ((Library.opened files dir partsDir).run.run journal).2

/-- A desk with a library that is opened now. -/
def opened (files : Tree) (store : Locale.Store) (dir partsDir : String) (journal : Journal) :
    Except LibraryError Desk :=
  ((Library.opened files dir partsDir).run.run journal).1.map fun library ↦
    { files, store, library, journal := openingJournal files dir partsDir journal }

theorem opened_eq (files : Tree) (store : Locale.Store) (dir partsDir : String)
    (journal : Journal) :
    opened files store dir partsDir journal = (Library.begun files dir partsDir).map fun library ↦
      { files, store, library, journal := openingJournal files dir partsDir journal } := by
  obtain ⟨h, -⟩ := Library.opened_gives journal rfl
  rw [opened, h]

theorem openingJournal_now (files : Tree) (dir partsDir : String) (journal : Journal) :
    (openingJournal files dir partsDir journal).now = journal.now :=
  (Library.opened_gives journal rfl).2

/-- A desk like this one, with its library opened anew. -/
def reopened (d : Desk) : Except LibraryError Desk :=
  opened d.files d.store d.library.dir d.library.partsDir d.journal

theorem step_figures (d : Desk) :
    (d.step (.ask .figures)).2 =
      .figures d.library.cached d.library.parts d.library.compilations := by
  obtain ⟨-, -, -, h⟩ := d.step_ask .figures
  exact congrArg Prod.snd h

theorem step_clear (d : Desk) :
    (d.step (.ask .clear)).1.library = (d.library.cleared d.files).1 ∧
      (d.step (.ask .clear)).2 = .ofCleared (d.library.cleared d.files).2 := by
  obtain ⟨-, -, -, h⟩ := d.step_ask .clear
  exact ⟨congrArg Prod.fst h, congrArg Prod.snd h⟩

/-- Clearing is the same as opening anew. Either both fail, for the same reason, or both succeed and
whatever is done then comes to the same, but that the compilations made before the clearing keep
being counted. -/
theorem clear_eq_reopened (d : Desk) :
    (∃ e, (d.step (.ask .clear)).2 = .refused e ∧ d.reopened = .error e) ∨
      ∃ parts fresh, (d.step (.ask .clear)).2 = .cleared parts ∧ d.reopened = .ok fresh ∧
        ∀ acts, (d.step (.ask .clear)).1.run acts =
          (fresh.run acts).map (.ahead d.library.compilations) := by
  obtain ⟨hfiles, hstore, hnow, -⟩ := d.step_ask .clear
  obtain ⟨hlibrary, hreply⟩ := d.step_clear
  have hreopened : d.reopened = _ :=
    opened_eq d.files d.store d.library.dir d.library.partsDir d.journal
  obtain ⟨e, he, he'⟩ | ⟨parts, library, hparts, hbegun, hlike⟩ :=
    d.library.cleared_begun d.files
  · rw [he'] at hreopened
    rw [he] at hreply
    exact .inl ⟨e, hreply, hreopened⟩
  · rw [hbegun] at hreopened
    rw [hparts] at hreply
    refine .inr ⟨parts, _, hreply, hreopened, fun acts ↦ Level.run ?_ acts⟩
    rw [← hlibrary] at hlike
    exact ⟨hfiles, hstore, hnow.trans (openingJournal_now ..).symm, hlike⟩

/-! ## Clearings that fail -/

/-- A desk at which work has begun with the opening of its library. -/
def Reachable (d : Desk) : Prop :=
  ∃ files store dir partsDir journal start acts,
    opened files store dir partsDir journal = .ok start ∧ d = start.after acts

theorem step_distinct {d : Desk} (h : d.library.Distinct) (act : Act) :
    (d.step act).1.library.Distinct := by
  cases act with
  | change c => exact h
  | clock now => exact h
  | ask request =>
    obtain ⟨-, -, -, ha⟩ := d.step_ask request
    have hlibrary := congrArg Prod.fst ha
    dsimp only at hlibrary
    rw [hlibrary]
    exact h.answered _ _ _ _

theorem after_distinct {d : Desk} (h : d.library.Distinct) (acts : List Act) :
    (d.after acts).library.Distinct := by
  induction acts generalizing d with
  | nil => exact h
  | cons act acts ih => exact ih (step_distinct h act)

/-- The names in a library that has been opened are distinct, whatever has been done since. -/
theorem Reachable.distinct {d : Desk} (h : d.Reachable) : d.library.Distinct := by
  obtain ⟨files, store, dir, partsDir, journal, start, acts, hstart, rfl⟩ := h
  refine after_distinct ?_ acts
  have hopened := opened_eq files store dir partsDir journal
  rw [hstart] at hopened
  cases hb : Library.begun files dir partsDir with
  | error e =>
    rw [hb] at hopened
    cases hopened
  | ok library =>
    rw [hb] at hopened
    cases hopened
    exact .begun hb

/-- A clearing does no harm if it fails for this reason: because a part could not be read, or while
the library held nothing but the parts in front of the one that is out of order. -/
def Spared (d : Desk) (e : LibraryError) : Prop :=
  (∃ path reason, e = .unreadable path reason) ∨
    ∃ sources, Library.partSources d.files d.library.partsDir = .ok sources ∧
      (d.library.withParts (sources.takeWhile Library.compiles)).kept.Perm d.library.kept

/-- No file of a part has a name like that of a template. -/
def OnlyPartsOnDisk (d : Desk) : Prop :=
  ∀ sources, Library.partSources d.files d.library.partsDir = .ok sources →
    Library.Plain (sources.map Prod.fst)

instance (d : Desk) : Decidable d.OnlyPartsOnDisk :=
  inferInstanceAs (Decidable (∀ sources, _ = Except.ok sources → Library.Plain _))

theorem cleared_of_refused {d : Desk} {e : LibraryError}
    (h : (d.step (.ask .clear)).2 = .refused e) : (d.library.cleared d.files).2 = .error e := by
  obtain ⟨-, hreply⟩ := d.step_clear
  rw [h] at hreply
  cases ho : (d.library.cleared d.files).2 with
  | ok n =>
    rw [ho] at hreply
    cases hreply
  | error e' =>
    rw [ho] at hreply
    cases hreply
    rfl

/-- A clearing that fails leaves the library the same just if it does no harm. -/
theorem alike_iff_spared {d : Desk} (hd : d.library.Distinct) {e : LibraryError}
    (h : (d.step (.ask .clear)).2 = .refused e) :
    (d.step (.ask .clear)).1.library.Alike 0 d.library ↔ d.Spared e := by
  obtain ⟨hlibrary, -⟩ := d.step_clear
  rw [hlibrary]
  obtain ⟨hread, hsame⟩ | ⟨sources, name, reason, hs, rfl, hkept⟩ :=
    Library.cleared_error (cleared_of_refused h)
  · rw [hsame]
    exact iff_of_true (.refl hd) (.inl hread)
  · rw [hkept]
    constructor
    · intro hlike
      exact .inr ⟨sources, hs, hlike.kept_perm⟩
    · rintro (⟨path, reason', hread⟩ | ⟨sources', hs', hperm⟩)
      · cases hread
      · rw [hs] at hs'
        cases hs'
        obtain ⟨kept, heq⟩ := { d.library with kept := [] }.keepParts_eq
          (sources.takeWhile Library.compiles)
        rw [Library.withParts, heq] at hperm ⊢
        exact ⟨rfl, rfl, hperm, (hperm.map Prod.fst).nodup_iff.mpr hd, rfl⟩

theorem run_eq_of_alike {d d' : Desk} (hfiles : d.files = d'.files) (hstore : d.store = d'.store)
    (hnow : d.journal.now = d'.journal.now) (h : d.library.Alike 0 d'.library) (acts : List Act) :
    d.run acts = d'.run acts := by
  rw [Level.run ⟨hfiles, hstore, hnow, h⟩ acts,
    List.map_congr_left fun reply _ ↦ Reply.ahead_zero reply, List.map_id']

/-- A clearing that fails after the parts have been read forgets all templates. -/
theorem cached_of_refused {d : Desk} {e : LibraryError}
    (h : (d.step (.ask .clear)).2 = .refused e) (hparts : d.OnlyPartsOnDisk) :
    (∃ path reason, e = .unreadable path reason) ∨
      (d.step (.ask .clear)).1.library.cached = 0 := by
  obtain ⟨hlibrary, -⟩ := d.step_clear
  rw [hlibrary]
  obtain ⟨hread, -⟩ | ⟨sources, name, reason, hs, rfl, hkept⟩ :=
    Library.cleared_error (cleared_of_refused h)
  · exact .inl hread
  · rw [hkept]
    refine .inr (Library.cached_withParts fun name hname ↦ hparts sources hs name ?_)
    exact ((List.takeWhile_sublist _).map Prod.fst).mem hname

/-- After a clearing that failed the library is the same as before just if the clearing does no
harm, and then whatever is done comes to what it would have come to without the clearing. If there
was a template in the library, this is so just if the failure was one of reading. -/
theorem refused_clear {d : Desk} (hd : d.Reachable) {e : LibraryError}
    (h : (d.step (.ask .clear)).2 = .refused e) :
    ((d.step (.ask .clear)).1.library.Alike 0 d.library ↔ d.Spared e) ∧
      (d.Spared e → ∀ acts, (d.step (.ask .clear)).1.run acts = d.run acts) ∧
      (0 < d.library.cached → d.OnlyPartsOnDisk →
        ((∀ acts, (d.step (.ask .clear)).1.run acts = d.run acts) ↔
          ∃ path reason, e = .unreadable path reason)) := by
  obtain ⟨hfiles, hstore, hnow, -⟩ := d.step_ask .clear
  have halike := alike_iff_spared hd.distinct h
  have hspared (hs : d.Spared e) (acts : List Act) :
      (d.step (.ask .clear)).1.run acts = d.run acts :=
    run_eq_of_alike hfiles hstore hnow (halike.mpr hs) acts
  refine ⟨halike, hspared, fun hcached hparts ↦ ?_⟩
  constructor
  · intro hsame
    rcases cached_of_refused h hparts with hread | hzero
    · exact hread
    · -- the figures tell that the templates are gone
      have hfigures := hsame [.ask .figures]
      simp only [run, step_figures, List.cons.injEq, Reply.figures.injEq, and_true] at hfigures
      omega
  · intro hread
    exact hspared (.inl hread)

/-- Files with one template and no parts. -/
def noteFiles : Tree := { nodes := [(["note.hbs"], .file "Hello".toUTF8)] }

/-- Texts for every locale, all of them empty. -/
def noTexts : Locale.Store := ⟨fun _ ↦ { layout := none, subjects := [], document := .obj [] }⟩

/-- A desk with one template and no parts. -/
def noteDesk : Desk where
  files := noteFiles
  store := noTexts
  library := { dir := "", partsDir := "partials" }
  journal := openingJournal noteFiles "" "partials" {}

/-- The desk after the template has been read and a part has been written that is out of order. -/
def spoiledDesk : Desk :=
  noteDesk.after
    [.ask (.compile "note"), .change (.write "partials/bad.hbs" "\x7b\x7b#each\x7d\x7d".toUTF8)]

theorem opened_noteDesk : opened noteFiles noTexts "" "partials" {} = .ok noteDesk := by
  rw [opened_eq, Library.begun_of_not_isFolder (by decide +kernel)]
  rfl

theorem spoiledDesk_reachable : spoiledDesk.Reachable :=
  ⟨_, _, _, _, _, _, _, opened_noteDesk, rfl⟩

/-- Where the template was, there is none after a clearing that met a part out of order. -/
theorem refused_clear_spoiledDesk :
    (spoiledDesk.step (.ask .clear)).2 = .refused (.partNotCompiled "bad" .notATemplate) ∧
      ¬∀ acts, (spoiledDesk.step (.ask .clear)).1.run acts = spoiledDesk.run acts := by
  have hrefused :
      (spoiledDesk.step (.ask .clear)).2 = .refused (.partNotCompiled "bad" .notATemplate) := by
    decide +kernel
  have hparts : spoiledDesk.OnlyPartsOnDisk := by decide +kernel
  obtain ⟨-, -, hiff⟩ := refused_clear spoiledDesk_reachable hrefused
  constructor
  · exact hrefused
  · intro hsame
    obtain ⟨path, reason, hread⟩ := (hiff (by decide +kernel) hparts).mp hsame
    cases hread

/-- The figures before the clearing, and those after it. -/
theorem figures_spoiledDesk :
    spoiledDesk.Reachable ∧
      (spoiledDesk.step (.ask .clear)).2 = .refused (.partNotCompiled "bad" .notATemplate) ∧
      spoiledDesk.run [.ask .figures] = [.figures 1 0 1] ∧
      (spoiledDesk.step (.ask .clear)).1.run [.ask .figures] = [.figures 0 0 1] :=
  ⟨spoiledDesk_reachable, by decide +kernel⟩

end Desk

end Mailroom.Template
