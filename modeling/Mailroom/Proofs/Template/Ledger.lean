import Mailroom.Proofs.Files.Tree
import Mailroom.Proofs.Template.Snapshot

/-!
# What a library has read

A library keeps its templates and its parts in one collection and tells them apart by their names:
that of a template begins with `templatePrefix`. A `Ledger` is kept beside a desk and lists what the
library has read since it was cleared last, the parts apart from the templates.

Whatever is done at a desk, templates and parts stay apart, in what the library answers and in what
it counts, just if no part that was read has the name of a template (`apart_iff`). Nothing keeps a
file in the folder of the parts from having such a name.
-/

namespace Mailroom.Template

open Mailroom.Files (Tree)
open Journal (answerAt)
open Desk (Act Change Request Reply)

/-- What a template comes to at a desk, in the library that it leaves behind. -/
def Desk.shown (d : Desk) (key : String) (context : Json) (t : Compiled) : Reply :=
  .ofShown (answerAt d.journal.now
    (((d.step (.ask (.render key context))).1.library.repertoire d.store context).render t).run)

/-! ## The ledger -/

/-- What a library has read since it was cleared: the parts, and the templates with their keys, the
last one first, each with its source as it was then. -/
structure Ledger where
  parts : List (String × String) := []
  read : List (String × String) := []

namespace Ledger

/-- The parts are read, up to one that is out of order, and the templates are forgotten. Nothing
happens where a part cannot be read. -/
def cleared (l : Ledger) (files : Tree) (partsDir : String) : Ledger :=
  match Library.partSources files partsDir with
  | .error _ => l
  | .ok sources => { parts := sources.takeWhile Library.compiles }

/-- A template is asked for. It is read if that is counted as a compilation. -/
def asked (l : Ledger) (d : Desk) (key : String) (request : Request) : Ledger :=
  match d.files.readText (d.library.pathOf key) with
  | .error _ => l
  | .ok source =>
    if d.library.compilations < (d.step (.ask request)).1.library.compilations then
      { l with read := (key, source) :: l.read }
    else l

/-- Something is done. -/
def step (l : Ledger) (d : Desk) : Act → Ledger
  | .ask (.compile key) => l.asked d key (.compile key)
  | .ask (.render key context) => l.asked d key (.render key context)
  | .ask .clear => l.cleared d.files d.library.partsDir
  | _ => l

/-- The ledger after some acts. -/
def after (l : Ledger) (d : Desk) : List Act → Ledger
  | [] => l
  | act :: acts => (l.step d act).after (d.step act).1 acts

/-- The ledger has been kept since the library was opened. -/
def IsOf (l : Ledger) (d : Desk) : Prop :=
  ∃ files store dir partsDir journal start acts, files.Proper ∧
    Desk.opened files store dir partsDir journal = .ok start ∧
    d = start.after acts ∧ l = (cleared {} files partsDir).after start acts

/-- The number of parts with the name of a template. -/
def misnamed (l : Ledger) : Nat := l.parts.countP fun p ↦ p.1.startsWith templatePrefix

/-- The template is what the file of the key says, or said when it was read. -/
def OfFile (l : Ledger) (d : Desk) (key : String) (t : Compiled) : Prop :=
  ∃ source, compile none source = .ok t ∧
    ((key, source) ∈ l.read ∨ d.files.readText (d.library.pathOf key) = .ok source)

/-- What is had and shown for a key comes of the file of the key. -/
structure FromFile (l : Ledger) (d : Desk) (key : String) : Prop where
  compile : (d.step (.ask (.compile key))).2 = .done → ∃ t, l.OfFile d key t
  render : ∀ context, (∀ e, (d.step (.ask (.render key context))).2 ≠ .refused e) →
    ∃ t, l.OfFile d key t ∧ (d.step (.ask (.render key context))).2 = d.shown key context t

/-- What is had and shown for a key comes of a part. -/
structure FromPart (l : Ledger) (d : Desk) (key : String) : Prop where
  compile : (d.step (.ask (.compile key))).2 = .done
  render : ∀ context, ∃ source t, (keptName key, source) ∈ l.parts ∧
    Template.compile (some (keptName key)) source = .ok t ∧
      (d.step (.ask (.render key context))).2 = d.shown key context t

/-- Templates and parts stay apart: the figures are those of the ledger, and what comes of asking
for a template comes of its own file. -/
structure Apart (l : Ledger) (d : Desk) : Prop where
  figures : (d.step (.ask .figures)).2 =
    .figures l.read.length l.parts.length d.library.compilations
  fromFile : ∀ key, l.FromFile d key

end Ledger

/-! ## The names of parts -/

namespace Library

variable {files : Tree} {dir : String} {sources : List (String × String)}

/-- What is made of different things is different if each thing can be told from it. -/
theorem nodup_filterMap {α β : Type} {f : α → Option β} {g : β → α}
    (hf : ∀ a, ∀ b ∈ f a, a = g b) {l : List α} (h : l.Nodup) : (l.filterMap f).Nodup :=
  h.filterMap fun a a' b hb hb' ↦ (hf a b hb).trans (hf a' b hb').symm

theorem nodup_partFiles (h : files.Proper) (dir : String) :
    ((partFiles files dir).map Prod.fst).Nodup := by
  unfold partFiles
  rw [List.map_filterMap]
  refine nodup_filterMap (g := (· ++ "." ++ fileEnding)) (fun file name hname ↦ ?_)
    (h.nodup_names dir)
  split at hname
  · rename_i name' ending hsplit
    split at hname
    · rename_i hending
      cases hname
      exact hending ▸ Files.eq_of_splitExtension hsplit
    · cases hname
  · cases hname

theorem map_fst_of_mapM {α ε : Type} {f : String × α → Except ε (String × α)}
    (hf : ∀ x y, f x = .ok y → y.1 = x.1) {l l' : List (String × α)} (h : l.mapM f = .ok l') :
    l'.map Prod.fst = l.map Prod.fst := by
  induction l generalizing l' with
  | nil =>
    cases h
    rfl
  | cons x l ih =>
    rw [List.mapM_cons] at h
    cases hx : f x with
    | error e =>
      rw [hx] at h
      cases h
    | ok y =>
      rw [hx] at h
      cases hl : l.mapM f with
      | error e =>
        rw [hl] at h
        cases h
      | ok ys =>
        rw [hl] at h
        cases h
        rw [List.map_cons, List.map_cons, ih hl, hf x y hx]

/-- Parts that have been read have names of their own. -/
theorem nodup_partSources (h : files.Proper) (hsources : partSources files dir = .ok sources) :
    (sources.map Prod.fst).Nodup := by
  unfold partSources at hsources
  split at hsources
  · rw [map_fst_of_mapM (fun part named hpart ↦ ?_) hsources]
    · exact nodup_partFiles h dir
    · unfold partSource at hpart
      split at hpart
      · cases hpart
        rfl
      · cases hpart
  · cases hsources
    exact List.nodup_nil

theorem exists_compile_of_compiles {part : String × String} (h : compiles part = true) :
    ∃ t, compile (some part.1) part.2 = .ok t := by
  unfold compiles at h
  cases hc : compile (some part.1) part.2 with
  | ok t => exact ⟨t, rfl⟩
  | error e =>
    rw [hc] at h
    cases h

theorem filter_ne_eq_self {lib : Library} {name : String} (h : lib.kept.lookup name = none) :
    (lib.kept.filter fun k ↦ k.1 != name) = lib.kept := by
  refine List.filter_eq_self.mpr fun k hk ↦ ?_
  rw [bne_comm]
  exact List.lookup_eq_none_iff.mp h k hk

/-- Parts in order that have new names of their own are all kept. -/
theorem names_keepParts {parts : List (String × String)} (hparts : ∀ p ∈ parts, compiles p = true)
    (hdistinct : (parts.map Prod.fst).Nodup) (lib : Library)
    (hnew : ∀ p ∈ parts, lib.kept.lookup p.1 = none) :
    ((lib.keepParts parts).1.kept.map Prod.fst).Perm
      (parts.map Prod.fst ++ lib.kept.map Prod.fst) := by
  induction parts generalizing lib with
  | nil => exact .refl _
  | cons p parts ih =>
    obtain ⟨hp, hparts⟩ := List.forall_mem_cons.mp hparts
    obtain ⟨hname, hdistinct⟩ := List.nodup_cons.mp hdistinct
    obtain ⟨hfree, hnew⟩ := List.forall_mem_cons.mp hnew
    obtain ⟨t, ht⟩ := exists_compile_of_compiles hp
    have hrest : ∀ q ∈ parts, (lib.keep p.1 t).kept.lookup q.1 = none := fun q hq ↦ by
      have hne : q.1 ≠ p.1 := fun heq ↦ hname (List.mem_map.mpr ⟨q, hq, heq⟩)
      rw [lookup_keep_of_ne hne, hnew q hq]
    rw [keepParts, ht]
    refine (ih hparts hdistinct _ hrest).trans ?_
    rw [keep, filter_ne_eq_self hfree]
    exact List.perm_middle

end Library

/-- The library after a template has been asked for. -/
def Library.behind (files : Tree) (key : String) (lib : Library) : Library :=
  match lib.fetched files key with
  | .error _ => lib
  | .ok (_, lib) => lib

namespace Desk

variable (d : Desk)

theorem library_compile (key : String) :
    (d.step (.ask (.compile key))).1.library = d.library.behind d.files key := by
  rw [library_ask]
  dsimp only [Library.answered, Library.behind]
  cases d.library.fetched d.files key with
  | error e => rfl
  | ok found => rfl

theorem library_render (key : String) (context : Json) :
    (d.step (.ask (.render key context))).1.library = d.library.behind d.files key := by
  rw [library_ask]
  dsimp only [Library.answered, Library.behind]
  cases d.library.fetched d.files key with
  | error e => rfl
  | ok found => rfl

variable {d} {key : String} {t : Compiled} {lib : Library} {e : LibraryError}

theorem reply_render (h : d.library.fetched d.files key = .ok (t, lib)) (context : Json) :
    (d.step (.ask (.render key context))).2 = d.shown key context t := by
  have hlibrary := d.library_render key context
  rw [Library.behind, h] at hlibrary
  rw [shown, hlibrary, reply_ask]
  dsimp only [Library.answered]
  rw [h]

theorem reply_render_error (h : d.library.fetched d.files key = .error e) (context : Json) :
    (d.step (.ask (.render key context))).2 = .refused e := by
  rw [reply_ask]
  dsimp only [Library.answered]
  rw [h]

end Desk

namespace Ledger

/-! ## What the ledger says of a library -/

/-- The library keeps what the ledger lists. -/
structure Covers (l : Ledger) (lib : Library) : Prop where
  names : (lib.kept.map Prod.fst).Perm (l.read.map (keptName ·.1) ++ l.parts.map Prod.fst)
  distinct : lib.Distinct
  read : ∀ r ∈ l.read, ∃ t, Template.compile none r.2 = .ok t ∧
    lib.kept.lookup (keptName r.1) = some t
  parts : ∀ p ∈ l.parts, ∃ t, Template.compile (some p.1) p.2 = .ok t ∧
    lib.kept.lookup p.1 = some t

theorem covers_withParts {parts : List (String × String)}
    (hparts : ∀ p ∈ parts, Library.compiles p = true) (hdistinct : (parts.map Prod.fst).Nodup)
    (lib : Library) : Covers { parts } (lib.withParts parts) where
  names := by
    have hnames := Library.names_keepParts hparts hdistinct { lib with kept := [] } fun _ _ ↦ rfl
    rwa [List.map_nil, List.append_nil] at hnames
  distinct := by
    have hempty : { lib with kept := [] }.Distinct := List.nodup_nil
    exact hempty.keepParts parts
  read := nofun
  parts := fun p hp ↦ by
    obtain ⟨t, ht⟩ := Library.exists_compile_of_compiles (hparts p hp)
    obtain ⟨-, hkept⟩ := Library.keepParts_ok { lib with kept := [] }
      (fun q hq ↦ Library.exists_compile_of_compiles (hparts q hq)) hdistinct
    exact ⟨t, ht, hkept p hp t ht⟩

theorem covers_keepParts {sources : List (String × String)} (h : (sources.map Prod.fst).Nodup)
    (lib : Library) : Covers { parts := sources.takeWhile Library.compiles }
      ({ lib with kept := [] }.keepParts sources).1 := by
  have hkept : Covers { parts := sources.takeWhile Library.compiles } _ :=
    covers_withParts (List.all_eq_true.mp List.all_takeWhile)
      (h.sublist ((List.takeWhile_sublist _).map Prod.fst)) lib
  rwa [Library.withParts, Library.keepParts_takeWhile] at hkept

variable {l : Ledger} {lib : Library} {files : Tree} {key : String}

theorem Covers.cleared (h : l.Covers lib) (hfiles : files.Proper) :
    (l.cleared files lib.partsDir).Covers (lib.cleared files).1 := by
  unfold Ledger.cleared Library.cleared
  cases hsources : Library.partSources files lib.partsDir with
  | error e => exact h
  | ok sources => exact covers_keepParts (Library.nodup_partSources hfiles hsources) lib

/-- A template that is read is a new one. -/
theorem Covers.compiled (h : l.Covers lib) {source : String} {t : Compiled}
    (hcompile : Template.compile none source = .ok t)
    (hkept : lib.kept.lookup (keptName key) = none) :
    Covers { l with read := (key, source) :: l.read }
      { lib.keep (keptName key) t with compilations := lib.compilations + 1 } where
  names := by
    have hnames : (lib.keep (keptName key) t).kept.map Prod.fst =
        keptName key :: lib.kept.map Prod.fst := by
      rw [Library.keep, Library.filter_ne_eq_self hkept, List.map_cons]
    exact hnames ▸ h.names.cons _
  distinct := h.distinct.keep _ _
  read := by
    refine List.forall_mem_cons.mpr ⟨⟨t, hcompile, lib.lookup_keep_self _ t⟩, fun r hr ↦ ?_⟩
    obtain ⟨u, hu, hlookup⟩ := h.read r hr
    refine ⟨u, hu, (Library.lookup_keep_of_ne (fun heq ↦ ?_) t).trans hlookup⟩
    rw [heq, hkept] at hlookup
    cases hlookup
  parts := fun p hp ↦ by
    obtain ⟨u, hu, hlookup⟩ := h.parts p hp
    refine ⟨u, hu, (Library.lookup_keep_of_ne (fun heq ↦ ?_) t).trans hlookup⟩
    rw [heq, hkept] at hlookup
    cases hlookup

/-- The parts are counted as templates if they have the name of one. -/
theorem Covers.cached_eq (h : l.Covers lib) : lib.cached = l.read.length + l.misnamed := by
  have hcached : lib.cached = (lib.kept.map Prod.fst).countP (·.startsWith templatePrefix) := by
    rw [List.countP_map]
    rfl
  have hread : (l.read.map (keptName ·.1)).countP (·.startsWith templatePrefix) =
      l.read.length := by
    rw [List.countP_map, List.countP_eq_length.mpr fun r _ ↦ startsWith_keptName r.1]
  rw [hcached, h.names.countP_eq, List.countP_append, hread, List.countP_map]
  rfl

theorem Covers.parts_eq (h : l.Covers lib) : lib.parts = l.parts.length - l.misnamed := by
  have hlength : lib.kept.length = l.read.length + l.parts.length := by
    have hnames := h.names.length_eq
    rwa [List.length_map, List.length_append, List.length_map, List.length_map] at hnames
  rw [Library.parts, h.cached_eq, hlength, Nat.add_sub_add_left]

theorem misnamed_le (l : Ledger) : l.misnamed ≤ l.parts.length := List.countP_le_length

theorem misnamed_eq_zero_iff : l.misnamed = 0 ↔ Library.Plain (l.parts.map Prod.fst) := by
  rw [misnamed, List.countP_eq_zero, Library.Plain, List.forall_mem_map]
  simp only [Bool.not_eq_true]

/-- No key is listed twice. -/
theorem Covers.nodup_keys (h : l.Covers lib) : (l.read.map Prod.fst).Nodup := by
  have hkeys : l.read.map (keptName ·.1) = (l.read.map Prod.fst).map keptName := by
    rw [List.map_map]
    rfl
  have hnames := (List.nodup_append.mp (h.names.nodup_iff.mp h.distinct)).1
  exact (hkeys ▸ hnames).of_map _

/-- What is kept under the name of a template is a template that was read, unless a part has the
name. -/
theorem Covers.read_of_lookup (h : l.Covers lib) {t : Compiled}
    (hkept : lib.kept.lookup (keptName key) = some t)
    (hpart : keptName key ∉ l.parts.map Prod.fst) :
    ∃ source, Template.compile none source = .ok t ∧ (key, source) ∈ l.read := by
  obtain ⟨before, after, heq, -⟩ := List.lookup_eq_some_iff.mp hkept
  have hmem : keptName key ∈ lib.kept.map Prod.fst := by
    rw [heq]
    simp
  have hread := (List.mem_append.mp (h.names.mem_iff.mp hmem)).resolve_right hpart
  obtain ⟨⟨key', source⟩, hr, hname⟩ := List.mem_map.mp hread
  obtain rfl : key' = key := keptName_inj.mp hname
  obtain ⟨u, hu, hlookup⟩ := h.read _ hr
  obtain rfl : u = t := Option.some_inj.mp (hlookup.symm.trans hkept)
  exact ⟨source, hu, hr⟩

/-! ## Acts -/

variable {d : Desk}

theorem Covers.asked {request : Request} (h : l.Covers d.library)
    (hrequest : (d.step (.ask request)).1.library = d.library.behind d.files key) :
    (l.asked d key request).Covers (d.step (.ask request)).1.library := by
  have hends := Library.fetching_fetched d.files key d.library
  rw [Ledger.asked, hrequest, Library.behind]
  generalize d.library.fetched d.files key = o at hends
  cases hends with
  | refused | kept | missing | broken =>
    simp only [Nat.lt_irrefl, if_false]
    split <;> exact h
  | compiled _ hkept hread hcompile =>
    rw [hread]
    simp only [Nat.lt_add_one, if_true]
    exact h.compiled hcompile hkept

theorem Covers.step (h : l.Covers d.library) (hfiles : d.files.Proper) (act : Act) :
    (l.step d act).Covers (d.step act).1.library := by
  cases act with
  | change c => exact h
  | clock now => exact h
  | ask request =>
    cases request with
    | compile key => exact h.asked (d.library_compile key)
    | render key context => exact h.asked (d.library_render key context)
    | clear => exact (d.library_ask .clear).symm ▸ h.cleared hfiles
    | has key => exact (d.library_ask (.has key)).symm ▸ h
    | figures => exact (d.library_ask .figures).symm ▸ h

theorem proper_step (h : d.files.Proper) (act : Act) : (d.step act).1.files.Proper := by
  cases act with
  | change c =>
    cases c with
    | write path content => exact h.write path content
    | makeFolder path => exact h.makeFolder _
    | remove path => exact h.remove path
  | clock now => exact h
  | ask request => exact (d.step_ask request).1 ▸ h

theorem Covers.after (h : l.Covers d.library) (hfiles : d.files.Proper) (acts : List Act) :
    (l.after d acts).Covers (d.after acts).library := by
  induction acts generalizing l d with
  | nil => exact h
  | cons act acts ih => exact ih (h.step hfiles act) (proper_step hfiles act)

/-- A library that is opened keeps the parts that it has read. -/
theorem covers_opened {store : Locale.Store} {dir partsDir : String} {journal : Journal}
    {start : Desk} (hfiles : files.Proper)
    (hstart : Desk.opened files store dir partsDir journal = .ok start) :
    (Ledger.cleared {} files partsDir).Covers start.library ∧ start.files.Proper := by
  rw [Desk.opened_eq, Library.begun] at hstart
  rw [Ledger.cleared]
  cases hsources : Library.partSources files partsDir with
  | error e =>
    rw [hsources] at hstart
    cases hstart
  | ok sources =>
    rw [hsources] at hstart
    have hcovers := covers_keepParts (Library.nodup_partSources hfiles hsources) { dir, partsDir }
    simp only [bind, Except.bind] at hstart
    rcases hkept : Library.keepParts { dir, partsDir } sources with ⟨library, e | ⟨⟩⟩
    · rw [hkept] at hstart
      cases hstart
    · rw [hkept] at hstart hcovers
      cases hstart
      exact ⟨hcovers, hfiles⟩

theorem IsOf.covers (h : l.IsOf d) : l.Covers d.library := by
  obtain ⟨files, store, dir, partsDir, journal, start, acts, hfiles, hstart, rfl, rfl⟩ := h
  obtain ⟨hcovers, hproper⟩ := covers_opened hfiles hstart
  exact hcovers.after hproper acts

/-! ## Templates and parts -/

theorem Covers.ofFile (h : l.Covers d.library) {t : Compiled}
    (hf : d.library.fetched d.files key = .ok (t, lib))
    (hpart : keptName key ∉ l.parts.map Prod.fst) : l.OfFile d key t := by
  cases Library.fetched_ends hf with
  | kept _ hkept =>
    obtain ⟨source, hcompile, hread⟩ := h.read_of_lookup hkept hpart
    exact ⟨source, hcompile, .inl hread⟩
  | compiled _ _ hread hcompile => exact ⟨_, hcompile, .inr hread⟩

/-- Where no part has the name of the template of a key, the file of the key is what counts. -/
theorem Covers.fromFile (h : l.Covers d.library) (hpart : keptName key ∉ l.parts.map Prod.fst) :
    l.FromFile d key := by
  cases hf : d.library.fetched d.files key with
  | error e =>
    refine ⟨fun hdone ↦ ?_, fun context hrefused ↦ absurd (Desk.reply_render_error hf context)
      (hrefused e)⟩
    rw [Desk.reply_compile_error hf] at hdone
    cases hdone
  | ok found =>
    have hfile := h.ofFile hf hpart
    exact ⟨fun _ ↦ ⟨_, hfile⟩, fun context _ ↦ ⟨_, hfile, Desk.reply_render hf context⟩⟩

/-- A part with the name of the template of a key is what counts for the key. -/
theorem Covers.fromPart (h : l.Covers d.library) (hkey : checkKey key = .ok ())
    (hpart : keptName key ∈ l.parts.map Prod.fst) : l.FromPart d key := by
  obtain ⟨⟨name, source⟩, hp, rfl⟩ := List.mem_map.mp hpart
  obtain ⟨t, hcompile, hkept⟩ := h.parts _ hp
  have hfetching : Library.Fetching d.files key d.library _ := .kept hkey hkept
  have hf := hfetching.eq
  exact ⟨Desk.reply_compile hf, fun context ↦
    ⟨source, t, hp, hcompile, Desk.reply_render hf context⟩⟩

/-- Templates and parts stay apart just if no part that was read has the name of a template. A part
with such a name is counted as a template, and it is what is had and shown for the key, whether the
key has a file or not. For the other keys it does no harm. -/
theorem IsOf.apart_iff (h : l.IsOf d) :
    (l.Apart d ↔ Library.Plain (l.parts.map Prod.fst)) ∧
    (d.step (.ask .figures)).2 = .figures (l.read.length + l.misnamed)
      (l.parts.length - l.misnamed) d.library.compilations ∧
    (l.read.map Prod.fst).Nodup ∧
    ∀ key, (keptName key ∉ l.parts.map Prod.fst → l.FromFile d key) ∧
      (keptName key ∈ l.parts.map Prod.fst → checkKey key = .ok () → l.FromPart d key) := by
  have hcovers := h.covers
  have hfigures : (d.step (.ask .figures)).2 = .figures (l.read.length + l.misnamed)
      (l.parts.length - l.misnamed) d.library.compilations := by
    rw [d.step_figures, hcovers.cached_eq, hcovers.parts_eq]
  refine ⟨?_, hfigures, hcovers.nodup_keys, fun key ↦
    ⟨hcovers.fromFile, fun hpart hkey ↦ hcovers.fromPart hkey hpart⟩⟩
  rw [← misnamed_eq_zero_iff]
  constructor
  · intro hapart
    have hsame := hfigures.symm.trans hapart.figures
    rw [Reply.figures.injEq] at hsame
    omega
  · intro hzero
    refine ⟨?_, fun key ↦ hcovers.fromFile fun hpart ↦ ?_⟩
    · rw [hfigures, hzero]
      rfl
    · have hplain := misnamed_eq_zero_iff.mp hzero _ hpart
      rw [startsWith_keptName] at hplain
      cases hplain

/-- The ledger of a desk with one template, which has been read. -/
def noteLedger : Ledger :=
  (cleared {} Desk.noteFiles "partials").after Desk.noteDesk [.ask (.compile "note")]

theorem isOf_noteLedger :
    noteLedger.IsOf (Desk.noteDesk.after [.ask (.compile "note")]) :=
  ⟨_, _, _, _, _, _, _, by decide, Desk.opened_noteDesk, rfl, rfl⟩

/-- There are no parts, and the template is counted. -/
theorem apart_iff_noteLedger :
    noteLedger.IsOf (Desk.noteDesk.after [.ask (.compile "note")]) ∧
      noteLedger.read = [("note", "Hello")] ∧
      noteLedger.Apart (Desk.noteDesk.after [.ask (.compile "note")]) :=
  ⟨isOf_noteLedger, by decide +kernel, isOf_noteLedger.apart_iff.1.mpr (by decide +kernel)⟩

/-- No template, and a part with the name of one. -/
def mislaidFiles : Tree where
  nodes := [(["partials"], .folder), (["partials", "template:note.hbs"], .file "Part".toUTF8)]

/-- A desk with these files. -/
def mislaidDesk : Desk :=
  (Desk.opened mislaidFiles Desk.noTexts "" "partials" {}).toOption.getD Desk.noteDesk

theorem opened_mislaidDesk :
    Desk.opened mislaidFiles Desk.noTexts "" "partials" {} = .ok mislaidDesk := by
  have hok : (Desk.opened mislaidFiles Desk.noTexts "" "partials" {}).isOk = true := by
    decide +kernel
  unfold mislaidDesk
  cases h : Desk.opened mislaidFiles Desk.noTexts "" "partials" {} with
  | ok d => rfl
  | error e =>
    rw [h] at hok
    cases hok

/-- The part is counted as a template, and it is had and shown for a key that has no file. -/
theorem mixed_mislaidDesk :
    IsOf (cleared {} mislaidFiles "partials") mislaidDesk ∧
      ¬Apart (cleared {} mislaidFiles "partials") mislaidDesk ∧
      mislaidDesk.run [.ask .figures, .ask (.has "note"), .ask (.compile "note"),
        .ask (.render "note" (.obj []))] =
          [.figures 1 0 0, .found false, .done, .page "Part"] := by
  refine ⟨⟨_, _, _, _, _, _, [], by decide, opened_mislaidDesk, rfl, rfl⟩, fun h ↦ ?_,
    by decide +kernel⟩
  have hfigures : (mislaidDesk.step (.ask .figures)).2 = .figures 1 0 0 := by decide +kernel
  have hparts : (cleared {} mislaidFiles "partials").parts.length = 1 := by decide +kernel
  have hsame := hfigures.symm.trans h.figures
  rw [hparts, Reply.figures.injEq] at hsame
  exact absurd hsame.2.1 (by decide)

end Ledger

end Mailroom.Template
