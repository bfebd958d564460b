import Mathlib.Data.List.AList
import Mailroom.Proofs.Template.Desk

/-!
# A library is a snapshot of its sources

To those who work with it a library is no more than two maps and a counter: the sources of the
templates that have been read, by key; the sources of the parts, by name; and the number of
compilations. Templates and parts stand in one collection in a library, and they are kept compiled;
a `Snapshot` keeps them apart, and keeps nothing but their sources.

A library and a snapshot answer every request alike, as long as no part has the name of a template
and no rendering asks for a part by such a name. The names of templates begin with `templatePrefix`.
-/

namespace Mailroom.Template

open Mailroom.Files (Tree)
open Journal (answerAt)
open Desk (Act Request Reply)

/-! ## Snapshots -/

/-- Sources by key or by name. -/
abbrev Sources := AList fun _ : String ↦ String

/-- What a library holds, as sources. -/
structure Snapshot where
  held : Sources := ∅
  parts : Sources := ∅
  compilations : Nat := 0

/-- What is around a library. -/
structure Surroundings where
  files : Tree
  store : Locale.Store
  dir : String
  partsDir : String
  now : Int

/-- The surroundings after an act. -/
def Surroundings.after (w : Surroundings) : Act → Surroundings
  | .change c => { w with files := c.made w.files }
  | .clock now => { w with now }
  | .ask _ => w

/-- The template that a source is read into. Sources that are out of order are not held anywhere. -/
def compiledAs (name : Option String) (source : String) : Compiled :=
  (compile name source).toOption.getD {}

theorem compiledAs_eq {name : Option String} {source : String} {t : Compiled}
    (h : compile name source = .ok t) : compiledAs name source = t := by
  rw [compiledAs, h]
  rfl

/-- A held template as a library keeps it. -/
def heldEntry (e : Σ _ : String, String) : String × Compiled :=
  (keptName e.1, compiledAs none e.2)

/-- A part as a library keeps it. -/
def partEntry (e : Σ _ : String, String) : String × Compiled :=
  (e.1, compiledAs (some e.1) e.2)

namespace Snapshot

/-- The sources of parts, where of two parts of one name the later one counts. -/
def ofParts (parts : List (String × String)) : Sources :=
  parts.foldl (fun m part ↦ m.insert part.1 part.2) ∅

/-- What a snapshot shows its templates with: the parts, and no template. -/
def repertoire (s : Snapshot) (store : Locale.Store) (context : Json) : Repertoire :=
  { root := context, store, templates := s.parts.entries.map partEntry }

/-- The path of a template. -/
def pathIn (w : Surroundings) (key : String) : String :=
  Files.join w.dir (key ++ "." ++ fileEnding)

/-- The source of a template: the one that is held, or else the one in the file, which is held from
now on if it can be compiled. -/
def sourceOf (w : Surroundings) (key : String) (s : Snapshot) :
    Except LibraryError (String × Snapshot) := do
  checkKey key
  match s.held.lookup key with
  | some source => return (source, s)
  | none =>
    match w.files.readText (pathIn w key) with
    | .error _ => throw (.notFound key)
    | .ok source =>
      match compile none source with
      | .error e => throw (.notCompiled key e)
      | .ok _ =>
        return (source,
          { s with held := s.held.insert key source, compilations := s.compilations + 1 })

/-- The answer to a request, and the snapshot behind it. -/
def answered (w : Surroundings) (s : Snapshot) : Request → Snapshot × Reply
  | .compile key =>
    match s.sourceOf w key with
    | .error e => (s, .refused e)
    | .ok (_, s) => (s, .done)
  | .render key context =>
    match s.sourceOf w key with
    | .error e => (s, .refused e)
    | .ok (source, s) =>
      let shown := (s.repertoire w.store context).render (compiledAs none source)
      (s, .ofShown (answerAt w.now shown.run))
  | .has key => (s, .found ((checkKey key).isOk && w.files.isFile (pathIn w key)))
  | .figures => (s, .figures s.held.keys.length s.parts.keys.length s.compilations)
  | .clear =>
    match Library.partSources w.files w.partsDir with
    | .error e => (s, .refused e)
    | .ok parts => ({ s with held := ∅, parts := ofParts parts }, .cleared parts.length)

/-- Do something. -/
def step (w : Surroundings) (s : Snapshot) : Act → Snapshot × Reply
  | .change _ => (s, .done)
  | .clock _ => (s, .done)
  | .ask request => s.answered w request

/-- What comes of some acts. -/
def run (w : Surroundings) (s : Snapshot) : List Act → List Reply
  | [] => []
  | act :: acts => (s.step w act).2 :: run (w.after act) (s.step w act).1 acts

end Snapshot

/-! ## Names -/

theorem startsWith_keptName (key : String) : (keptName key).startsWith templatePrefix = true := by
  rw [String.startsWith_string_iff, keptName, String.toList_append]
  exact List.prefix_append _ _

theorem keptName_inj {key key' : String} : keptName key = keptName key' ↔ key = key' :=
  String.append_right_inj templatePrefix

/-- Among templates a template is found under its name. -/
theorem lookup_map_heldEntry (l : List (Σ _ : String, String)) (key : String) :
    (l.map heldEntry).lookup (keptName key) = (l.dlookup key).map (compiledAs none) := by
  induction l with
  | nil => rfl
  | cons e l ih =>
    obtain ⟨key', source⟩ := e
    rw [List.map_cons, heldEntry]
    by_cases h : key = key'
    · subst h
      rw [List.lookup_cons_self, List.dlookup_cons_eq]
      rfl
    · have hne : (keptName key == keptName key') = false :=
        beq_false_of_ne (mt keptName_inj.mp h)
      rw [List.lookup_cons, hne, List.dlookup_cons_ne l ⟨key', source⟩ h]
      exact ih

/-- Among templates nothing but templates is found. -/
theorem lookup_map_heldEntry_of_plain (l : List (Σ _ : String, String)) {name : String}
    (h : name.startsWith templatePrefix = false) : (l.map heldEntry).lookup name = none := by
  refine List.lookup_eq_none_iff.mpr fun k hk ↦ bne_iff_ne.mpr ?_
  obtain ⟨e, -, rfl⟩ := List.mem_map.mp hk
  rintro rfl
  rw [heldEntry, startsWith_keptName] at h
  cases h

/-- Among parts no template is found. -/
theorem lookup_map_partEntry {l : List (Σ _ : String, String)} (h : Library.Plain l.keys)
    (key : String) :
    (l.map partEntry).lookup (keptName key) = none := by
  refine List.lookup_eq_none_iff.mpr fun k hk ↦ bne_iff_ne.mpr ?_
  obtain ⟨e, he, rfl⟩ := List.mem_map.mp hk
  intro heq
  have hname : keptName key = e.1 := heq
  have hplain := h e.1 (List.mem_keys_of_mem he)
  rw [← hname, startsWith_keptName] at hplain
  cases hplain

/-- A part that gives way to another one of its name. -/
theorem filter_map_partEntry {l : List (Σ _ : String, String)} (h : l.NodupKeys) (name : String) :
    ((l.map partEntry).filter fun k ↦ k.1 != name) = (l.kerase name).map partEntry := by
  induction l with
  | nil => rfl
  | cons e l ih =>
    rw [List.nodupKeys_cons] at h
    rw [List.map_cons, List.filter_cons]
    by_cases heq : name = e.1
    · subst heq
      have hrest := ih h.2
      rw [List.kerase_of_notMem_keys h.1] at hrest
      rw [List.kerase_cons_eq rfl, if_neg (by simp [partEntry]), hrest]
    · rw [List.kerase_cons_ne heq, if_pos (by simpa [partEntry] using Ne.symm heq), ih h.2]
      rfl

/-! ## Libraries and snapshots -/

/-- A library that holds what a snapshot holds. -/
structure Mirrors (w : Surroundings) (lib : Library) (s : Snapshot) : Prop where
  dir_eq : lib.dir = w.dir
  partsDir_eq : lib.partsDir = w.partsDir
  kept_eq : lib.kept = s.held.entries.map heldEntry ++ s.parts.entries.map partEntry
  plain : Library.Plain s.parts.keys
  compilations_eq : lib.compilations = s.compilations

/-- Parts that are kept one after the other. -/
theorem keepParts_kept {lib : Library} {m : Sources} (h : lib.kept = m.entries.map partEntry)
    {parts : List (String × String)} (hparts : (lib.keepParts parts).2 = .ok ()) :
    (lib.keepParts parts).1.kept =
      (parts.foldl (fun m part ↦ m.insert part.1 part.2) m).entries.map partEntry := by
  induction parts generalizing lib m with
  | nil => exact h
  | cons part rest ih =>
    rw [Library.keepParts] at hparts ⊢
    cases hc : compile (some part.1) part.2 with
    | error e =>
      rw [hc] at hparts
      cases hparts
    | ok t =>
      rw [hc] at hparts
      refine ih ?_ hparts
      rw [Library.keep, AList.entries_insert, List.map_cons, ← filter_map_partEntry m.nodupKeys, h,
        partEntry, compiledAs_eq hc]

theorem plain_foldl_insert {m : Sources} (h : Library.Plain m.keys)
    {parts : List (String × String)} (hparts : Library.Plain (parts.map Prod.fst)) :
    Library.Plain (parts.foldl (fun m part ↦ m.insert part.1 part.2) m).keys := by
  induction parts generalizing m with
  | nil => exact h
  | cons part rest ih =>
    refine ih ?_ fun name hname ↦ hparts name (List.mem_cons_of_mem _ hname)
    intro name hname
    rw [AList.keys_insert] at hname
    rcases List.mem_cons.mp hname with rfl | hname
    · exact hparts _ (List.mem_cons_self ..)
    · exact h name (List.mem_of_mem_erase hname)

namespace Mirrors

variable {w : Surroundings} {lib : Library} {s : Snapshot}

/-- What is kept of a template. -/
theorem lookup_keptName (h : Mirrors w lib s) (key : String) :
    lib.kept.lookup (keptName key) = (s.held.lookup key).map (compiledAs none) := by
  rw [h.kept_eq, List.lookup_append, lookup_map_heldEntry, lookup_map_partEntry h.plain,
    Option.or_none]
  rfl

/-- What is kept of a part. -/
theorem lookup_of_plain (h : Mirrors w lib s) {name : String}
    (hname : name.startsWith templatePrefix = false) :
    lib.kept.lookup name = (s.parts.entries.map partEntry).lookup name := by
  rw [h.kept_eq, List.lookup_append, lookup_map_heldEntry_of_plain _ hname, Option.none_or]

theorem cached_eq (h : Mirrors w lib s) : lib.cached = s.held.keys.length := by
  have hheld : ∀ k ∈ s.held.entries.map heldEntry, k.1.startsWith templatePrefix = true := by
    intro k hk
    obtain ⟨e, -, rfl⟩ := List.mem_map.mp hk
    exact startsWith_keptName e.1
  have hparts : ∀ k ∈ s.parts.entries.map partEntry, ¬k.1.startsWith templatePrefix = true := by
    intro k hk
    obtain ⟨e, he, rfl⟩ := List.mem_map.mp hk
    exact Bool.eq_false_iff.mp (h.plain e.1 (List.mem_keys_of_mem he))
  rw [Library.cached, h.kept_eq, List.countP_append, List.countP_eq_length.mpr hheld,
    List.countP_eq_zero.mpr hparts, AList.keys, List.keys, List.length_map, List.length_map,
    Nat.add_zero]

theorem parts_eq (h : Mirrors w lib s) : lib.parts = s.parts.keys.length := by
  rw [Library.parts, h.cached_eq, h.kept_eq]
  simp [AList.keys, List.keys]

theorem pathOf_eq (h : Mirrors w lib s) (key : String) :
    lib.pathOf key = Snapshot.pathIn w key := by
  rw [Library.pathOf, h.dir_eq, Snapshot.pathIn]

/-- A template that is read now is kept beside what is there. -/
theorem keep (h : Mirrors w lib s) {key source : String} {t : Compiled}
    (hheld : s.held.lookup key = none) (hcompile : compile none source = .ok t) :
    Mirrors w { lib.keep (keptName key) t with compilations := lib.compilations + 1 }
      { s with held := s.held.insert key source, compilations := s.compilations + 1 } where
  dir_eq := h.dir_eq
  partsDir_eq := h.partsDir_eq
  kept_eq := by
    have hkeep : (lib.kept.filter fun k ↦ k.1 != keptName key) = lib.kept := by
      refine List.filter_eq_self.mpr fun k hk ↦ bne_iff_ne.mpr ?_
      rintro hname
      have hnone : lib.kept.lookup (keptName key) = none := by rw [h.lookup_keptName, hheld]; rfl
      have hne := List.lookup_eq_none_iff.mp hnone k hk
      rw [hname] at hne
      simp at hne
    have hnew := AList.lookup_eq_none.mp hheld
    rw [Library.keep, hkeep, h.kept_eq, AList.entries_insert_of_notMem hnew, List.map_cons,
      heldEntry, compiledAs_eq hcompile]
    rfl
  plain := h.plain
  compilations_eq := congrArg (· + 1) h.compilations_eq

/-- A template is fetched where its source is had, and they belong together. -/
theorem fetched (h : Mirrors w lib s) (key : String) :
    (∃ e, lib.fetched w.files key = .error e ∧ s.sourceOf w key = .error e) ∨
      ∃ source l s', lib.fetched w.files key = .ok (compiledAs none source, l) ∧
        s.sourceOf w key = .ok (source, s') ∧ Mirrors w l s' := by
  have hf := Library.fetching_fetched w.files key lib
  generalize lib.fetched w.files key = o at hf
  unfold Snapshot.sourceOf
  cases hf with
  | refused hkey =>
    rw [hkey]
    exact .inl ⟨_, rfl, rfl⟩
  | kept hkey hkept =>
    rw [h.lookup_keptName] at hkept
    obtain ⟨source, hsource, rfl⟩ := Option.map_eq_some_iff.mp hkept
    rw [hkey, hsource]
    exact .inr ⟨source, lib, s, rfl, rfl, h⟩
  | missing hkey hkept hread =>
    rw [h.lookup_keptName] at hkept
    rw [h.pathOf_eq] at hread
    rw [hkey, Option.map_eq_none_iff.mp hkept, hread]
    exact .inl ⟨_, rfl, rfl⟩
  | broken hkey hkept hread hcompile =>
    rw [h.lookup_keptName] at hkept
    rw [h.pathOf_eq] at hread
    rw [hkey, Option.map_eq_none_iff.mp hkept, hread]
    dsimp only [bind, Except.bind]
    rw [hcompile]
    exact .inl ⟨_, rfl, rfl⟩
  | compiled hkey hkept hread hcompile =>
    rw [h.lookup_keptName] at hkept
    rw [h.pathOf_eq] at hread
    have hheld := Option.map_eq_none_iff.mp hkept
    rw [hkey, hheld, hread]
    dsimp only [bind, Except.bind]
    rw [hcompile, ← compiledAs_eq hcompile]
    refine .inr ⟨_, _, _, rfl, rfl, ?_⟩
    rw [compiledAs_eq hcompile]
    exact h.keep hheld hcompile

/-- A template is shown alike, if it asks for no part by the name of a template. -/
theorem render_eq (h : Mirrors w lib s) (store : Locale.Store) (context : Json) {t : Compiled}
    {now : Int}
    (havoids : (lib.repertoire store context).Avoids (·.startsWith templatePrefix) t now) :
    answerAt now ((lib.repertoire store context).render t).run =
      answerAt now ((s.repertoire store context).render t).run :=
  ((lib.repertoire store context).render_eq_of_avoids (s.parts.entries.map partEntry) havoids
    fun _ hname ↦ h.lookup_of_plain hname).symm

/-- A library whose parts have just been read. -/
theorem ofParts {parts : List (String × String)} (hdir : lib.dir = w.dir)
    (hpartsDir : lib.partsDir = w.partsDir) (hkept : lib.kept = [])
    (hplain : Library.Plain (parts.map Prod.fst))
    (hparts : (lib.keepParts parts).2 = .ok ()) :
    Mirrors w (lib.keepParts parts).1
      { parts := Snapshot.ofParts parts, compilations := lib.compilations } := by
  have hmap : lib.kept = (∅ : Sources).entries.map partEntry := hkept
  have hnone : Library.Plain (∅ : Sources).keys := nofun
  obtain ⟨kept, hrest⟩ := lib.keepParts_eq parts
  refine ⟨?_, ?_, keepParts_kept hmap hparts, plain_foldl_insert hnone hplain, ?_⟩
  · rw [hrest, hdir]
  · rw [hrest, hpartsDir]
  · rw [hrest]

end Mirrors

/-! ## Steps -/

/-- What may be asked of a library if it is to be a snapshot: a clearing must succeed, and find no
part with the name of a template; and no rendering may ask for a part by such a name. -/
def Library.Permits (files : Tree) (store : Locale.Store) (now : Int) (lib : Library) :
    Request → Prop
  | .render key context => ∀ found, lib.fetched files key = .ok found →
    (found.2.repertoire store context).Avoids (·.startsWith templatePrefix) found.1 now
  | .clear => (∃ n, (lib.cleared files).2 = .ok n) ∧
    ∀ parts, partSources files lib.partsDir = .ok parts → Plain (parts.map Prod.fst)
  | _ => True

instance (files : Tree) (store : Locale.Store) (now : Int) (lib : Library) :
    ∀ request, Decidable (lib.Permits files store now request)
  | .compile _ => isTrue trivial
  | .render _ _ => inferInstanceAs (Decidable (∀ found, _ = Except.ok found →
      Repertoire.Avoids _ _ _ _))
  | .has _ => isTrue trivial
  | .figures => isTrue trivial
  | .clear => inferInstanceAs (Decidable ((∃ n, _ = Except.ok n) ∧
      ∀ parts, _ = Except.ok parts → Library.Plain _))

/-- A library and a snapshot of it answer alike, and the one stays a snapshot of the other. -/
theorem Mirrors.answered {w : Surroundings} {lib : Library} {s : Snapshot} (h : Mirrors w lib s)
    {request : Request} (hrequest : lib.Permits w.files w.store w.now request) :
    Mirrors w (lib.answered w.now w.files w.store request).1 (s.answered w request).1 ∧
      (lib.answered w.now w.files w.store request).2 = (s.answered w request).2 := by
  cases request with
  | compile key =>
    dsimp only [Library.answered, Snapshot.answered]
    obtain ⟨e, he, he'⟩ | ⟨source, l, s', hl, hs', hmirrors⟩ := h.fetched key
    · rw [he, he']
      exact ⟨h, rfl⟩
    · rw [hl, hs']
      exact ⟨hmirrors, rfl⟩
  | render key context =>
    dsimp only [Library.answered, Snapshot.answered]
    obtain ⟨e, he, he'⟩ | ⟨source, l, s', hl, hs', hmirrors⟩ := h.fetched key
    · rw [he, he']
      exact ⟨h, rfl⟩
    · rw [hl, hs']
      have havoids : (l.repertoire w.store context).Avoids (·.startsWith templatePrefix)
        (compiledAs none source) w.now := hrequest (compiledAs none source, l) hl
      exact ⟨hmirrors, congrArg Reply.ofShown (hmirrors.render_eq _ _ havoids)⟩
  | has key =>
    refine ⟨h, ?_⟩
    dsimp only [Library.answered, Snapshot.answered, Library.has]
    rw [h.pathOf_eq]
  | figures =>
    refine ⟨h, ?_⟩
    dsimp only [Library.answered, Snapshot.answered]
    rw [h.cached_eq, h.parts_eq, h.compilations_eq]
  | clear =>
    obtain ⟨⟨n, hn⟩, hplain⟩ := hrequest
    have hsources : Library.partSources w.files lib.partsDir =
        Library.partSources w.files w.partsDir := congrArg _ h.partsDir_eq
    dsimp only [Library.answered, Snapshot.answered]
    unfold Library.cleared at hn ⊢
    rw [hsources] at hn hplain ⊢
    cases hs : Library.partSources w.files w.partsDir with
    | error e =>
      rw [hs] at hn
      cases hn
    | ok parts =>
      rw [hs] at hn
      dsimp only at hn ⊢
      cases hok : ({ lib with kept := [] }.keepParts parts).2 with
      | error e =>
        rw [hok] at hn
        cases hn
      | ok _ =>
        refine ⟨?_, rfl⟩
        rw [← h.compilations_eq]
        exact .ofParts h.dir_eq h.partsDir_eq rfl (hplain parts hs) hok

/-! ## Runs -/

namespace Desk

/-- An act that does not go beyond what a snapshot can tell. -/
def Permits (d : Desk) : Act → Prop
  | .ask request => d.library.Permits d.files d.store d.journal.now request
  | _ => True

/-- Acts that do not go beyond what a snapshot can tell. -/
def Regular (d : Desk) : List Act → Prop
  | [] => True
  | act :: acts => d.Permits act ∧ (d.step act).1.Regular acts

instance (d : Desk) : ∀ act, Decidable (d.Permits act)
  | .change _ => isTrue trivial
  | .clock _ => isTrue trivial
  | .ask request => inferInstanceAs (Decidable (d.library.Permits _ _ _ request))

instance instDecidableRegular : ∀ (d : Desk) (acts : List Act), Decidable (d.Regular acts)
  | _, [] => isTrue trivial
  | d, act :: acts =>
    have := instDecidableRegular (d.step act).1 acts
    inferInstanceAs (Decidable (_ ∧ _))

/-- A desk in its surroundings, with the snapshot of its library. -/
structure Follows (w : Surroundings) (d : Desk) (s : Snapshot) : Prop where
  files_eq : d.files = w.files
  store_eq : d.store = w.store
  now_eq : d.journal.now = w.now
  mirrors : Mirrors w d.library s

namespace Follows

variable {w : Surroundings} {d : Desk} {s : Snapshot}

theorem step (h : Follows w d s) {act : Act} (hact : d.Permits act) :
    Follows (w.after act) (d.step act).1 (s.step w act).1 ∧
      (d.step act).2 = (s.step w act).2 := by
  cases act with
  | change c =>
    have hfiles : c.made d.files = c.made w.files := by rw [h.files_eq]
    exact ⟨⟨hfiles, h.store_eq, h.now_eq, { h.mirrors with }⟩, rfl⟩
  | clock now => exact ⟨⟨h.files_eq, h.store_eq, rfl, { h.mirrors with }⟩, rfl⟩
  | ask request =>
    obtain ⟨hf, hs, hn, ha⟩ := d.step_ask request
    rw [h.files_eq] at hf
    rw [h.store_eq] at hs
    rw [h.now_eq] at hn
    rw [h.now_eq, h.files_eq, h.store_eq] at ha
    rw [Permits, h.now_eq, h.files_eq, h.store_eq] at hact
    obtain ⟨hmirrors, hreply⟩ := h.mirrors.answered hact
    rw [← ha] at hmirrors hreply
    exact ⟨⟨hf, hs, hn, hmirrors⟩, hreply⟩

theorem run (h : Follows w d s) {acts : List Act} (hacts : d.Regular acts) :
    d.run acts = s.run w acts := by
  induction acts generalizing w d s with
  | nil => rfl
  | cons act acts ih =>
    obtain ⟨hfollows, hreply⟩ := h.step hacts.1
    rw [Desk.run, Snapshot.run, hreply, ih hfollows hacts.2]

end Follows

/-- What comes of asking a library, from its opening on, is what comes of asking the snapshot that
holds no template and the sources of the parts that were there at the opening. -/
theorem run_eq_snapshot {files : Tree} {store : Locale.Store} {dir partsDir : String}
    {journal : Journal} {start : Desk}
    (hstart : opened files store dir partsDir journal = .ok start)
    (hplain : ∀ parts, Library.partSources files partsDir = .ok parts →
      Library.Plain (parts.map Prod.fst))
    {acts : List Act} (hacts : start.Regular acts) :
    ∃ parts, Library.partSources files partsDir = .ok parts ∧
      start.run acts = Snapshot.run { files, store, dir, partsDir, now := journal.now }
        { parts := Snapshot.ofParts parts } acts := by
  have hopened := opened_eq files store dir partsDir journal
  rw [hstart, Library.begun] at hopened
  cases hs : Library.partSources files partsDir with
  | error e =>
    rw [hs] at hopened
    cases hopened
  | ok parts =>
    rw [hs] at hopened
    dsimp only [bind, Except.bind] at hopened
    cases hok : (Library.keepParts { dir, partsDir } parts).2 with
    | error e =>
      rw [hok] at hopened
      cases hopened
    | ok _ =>
      rw [hok] at hopened
      cases hopened
      refine ⟨parts, rfl, Follows.run ⟨rfl, rfl, openingJournal_now .., ?_⟩ hacts⟩
      exact .ofParts rfl rfl rfl (hplain parts hs) hok

/-- A template that is written anew, with a part, while it is in use. -/
def noteActs : List Act :=
  [.ask (.compile "note"),
    .change (.write "note.hbs" "\x7b\x7b> sign\x7d\x7d".toUTF8),
    .change (.write "partials/sign.hbs" "Bye".toUTF8),
    .ask (.render "note" (.obj [])),
    .ask .clear,
    .ask (.render "note" (.obj [])),
    .change (.remove "note.hbs"),
    .ask (.has "note"),
    .ask (.render "note" (.obj [])),
    .ask .figures]

theorem run_noteActs :
    noteDesk.run noteActs =
      [.done, .done, .done, .page "Hello", .cleared 1, .page "Bye", .done, .found false,
        .page "Bye", .figures 1 1 2] ∧
      ∃ parts, Library.partSources noteFiles "partials" = .ok parts ∧
        noteDesk.run noteActs =
          Snapshot.run ⟨noteFiles, noTexts, "", "partials", 0⟩ { parts := Snapshot.ofParts parts }
            noteActs := by
  refine ⟨by decide +kernel, run_eq_snapshot opened_noteDesk ?_ ?_⟩
  · decide +kernel
  · decide +kernel

end Desk

end Mailroom.Template
