import Mailroom.Proofs.Journal
import Mailroom.Proofs.Lookup
import Mailroom.Template.Library

/-!
# What the library does

The operations of the library log and count on the way. What they answer, and which library they
leave behind, goes by the files alone: for every operation there is a function that says so.

* `partSources`: the sources of the parts in a folder;
* `begun`: a library that is opened;
* `fetched`: a template, and the library that has it;
* `cleared`: the library behind a clearing, and the number of parts.

A library is `Alike` another one if it holds the same under every name and has compiled some more
templates. Libraries that are alike stay so, whatever is done with them.
-/

namespace Mailroom.Template.Library

open Mailroom.Files (Tree)
open Journal (Gives)

variable {now : Int} {files : Tree} {dir partsDir key : String} {lib lib' : Library}

/-! ## Parts in a folder -/

/-- The files of the parts, with their names. -/
def partFiles (files : Tree) (dir : String) : List (String × String) :=
  (files.names dir).filterMap fun file ↦
    match Files.splitExtension file with
    | (name, some ending) => if ending = fileEnding then some (name, file) else none
    | _ => none

/-- The source of a part. -/
def partSource (files : Tree) (dir : String) (part : String × String) :
    Except LibraryError (String × String) :=
  match files.readText (Files.join dir part.2) with
  | .ok source => .ok (part.1, source)
  | .error fault => .error (.unreadable (files.shown (Files.join dir part.2)) fault.message)

/-- The sources of the parts in a folder, by name. -/
def partSources (files : Tree) (dir : String) : Except LibraryError (List (String × String)) :=
  if files.isFolder dir then (partFiles files dir).mapM (partSource files dir) else .ok []

theorem readParts_gives : Gives now (readParts files dir).run (· = partSources files dir) := by
  unfold readParts partSources
  cases files.isFolder dir with
  | false => exact .lift .log fun _ _ ↦ .pure rfl
  | true =>
    apply Gives.mapM
    rintro ⟨name, file⟩ _
    dsimp only [partSource]
    cases files.readText (Files.join dir file) with
    | ok source => exact .pure rfl
    | error fault => exact .pure rfl

/-- A list of operations fails with the failure of one of them. -/
theorem exists_of_mapM_error {α β ε : Type} {f : α → Except ε β} {l : List α} {e : ε}
    (h : l.mapM f = .error e) : ∃ x ∈ l, f x = .error e := by
  induction l with
  | nil => cases h
  | cons x l ih =>
    rw [List.mapM_cons] at h
    cases hx : f x with
    | error e' =>
      rw [hx] at h
      cases h
      exact ⟨x, by simp, hx⟩
    | ok y =>
      rw [hx] at h
      cases hl : l.mapM f with
      | error e' =>
        rw [hl] at h
        cases h
        obtain ⟨z, hz, hfz⟩ := ih hl
        exact ⟨z, by simp [hz], hfz⟩
      | ok ys =>
        rw [hl] at h
        cases h

/-- The source of a part has been read from a file. -/
theorem exists_readText_of_partSources {sources : List (String × String)}
    (h : partSources files dir = .ok sources) :
    ∀ part ∈ sources, ∃ path, files.readText path = .ok part.2 := by
  unfold partSources at h
  split at h
  · intro part hpart
    obtain ⟨found, -, hfound⟩ := exists_of_mapM_ok h part hpart
    unfold partSource at hfound
    split at hfound
    · rename_i hread
      cases hfound
      exact ⟨_, hread⟩
    · cases hfound
  · cases h
    exact List.forall_mem_nil _

/-- Reading the parts fails at a file that cannot be read, and for no other reason. -/
theorem partSources_error {e : LibraryError} (h : partSources files dir = .error e) :
    ∃ path reason, e = .unreadable path reason := by
  unfold partSources at h
  split at h
  · obtain ⟨part, -, hpart⟩ := exists_of_mapM_error h
    unfold partSource at hpart
    split at hpart
    · cases hpart
    · cases hpart
      exact ⟨_, _, rfl⟩
  · cases h

/-! ## Opening and clearing -/

/-- A library that is opened. -/
def begun (files : Tree) (dir partsDir : String) : Except LibraryError Library := do
  let sources ← partSources files partsDir
  let (lib, o) := keepParts { dir, partsDir } sources
  o.map fun _ ↦ lib

theorem begun_of_not_isFolder (h : files.isFolder partsDir = false) :
    begun files dir partsDir = .ok { dir, partsDir } := by
  rw [begun, partSources, h]
  rfl

theorem opened_gives :
    Gives now (opened files dir partsDir).run (· = begun files dir partsDir) := by
  unfold opened begun
  refine readParts_gives.bindExcept ?_ ?_
  · intro sources h
    rw [← h]
    simp only [bind, Except.bind]
    rcases keepParts { dir, partsDir } sources with ⟨lib, e | ⟨⟩⟩
    · exact .pure rfl
    · exact .lift .log fun _ _ ↦ .pure rfl
  · intro e h
    rw [← h]
    rfl

/-- The library behind a clearing, and the number of parts. -/
def cleared (files : Tree) (lib : Library) : Library × Except LibraryError Nat :=
  match partSources files lib.partsDir with
  | .error e => (lib, .error e)
  | .ok sources =>
    let (lib, o) := keepParts { lib with kept := [] } sources
    (lib, o.map fun _ ↦ sources.length)

theorem clear_gives : Gives now (lib.clear files) (· = lib.cleared files) := by
  unfold clear cleared
  apply readParts_gives.bind
  intro o h
  rw [← h]
  cases o with
  | error e => exact .pure rfl
  | ok sources =>
    dsimp only
    rcases keepParts { lib with kept := [] } sources with ⟨lib', e | ⟨⟩⟩
    · exact .pure rfl
    · exact Gives.count.bind fun _ _ ↦ Gives.log.bind fun _ _ ↦ .pure rfl

/-! ## Fetching -/

/-- The source of a template. -/
def sourceOf (files : Tree) (key : String) (lib : Library) : Except LibraryError String :=
  (files.readText (lib.pathOf key)).mapError fun _ ↦ .notFound key

theorem sourceOf_ok {key text : String} (hread : files.readText (lib.pathOf key) = .ok text) :
    lib.sourceOf files key = .ok text := by
  rw [sourceOf, hread]
  rfl

theorem sourceOf_error {key : String} {fault : Files.ReadFault}
    (hread : files.readText (lib.pathOf key) = .error fault) :
    lib.sourceOf files key = .error (.notFound key) := by
  rw [sourceOf, hread]
  rfl

theorem source_gives : Gives now (lib.source files key).run (· = lib.sourceOf files key) := by
  dsimp only [source, sourceOf]
  cases files.readText (lib.pathOf key) with
  | ok text => exact .pure rfl
  | error fault => exact .lift .log fun _ _ ↦ .pure rfl

/-- A template, and the library that has it. -/
def fetched (files : Tree) (key : String) (lib : Library) :
    Except LibraryError (Compiled × Library) := do
  checkKey key
  match lib.kept.lookup (keptName key) with
  | some t => return (t, lib)
  | none =>
    match compile none (← lib.sourceOf files key) with
    | .error e => throw (.notCompiled key e)
    | .ok t => return (t, { lib.keep (keptName key) t with compilations := lib.compilations + 1 })

theorem fetch_gives : Gives now (lib.fetch files key).run (· = lib.fetched files key) := by
  unfold fetch fetched
  refine Gives.bindExcept (P := (· = checkKey key)) (.pure rfl) ?_ ?_
  · intro _ h
    rw [← h]
    simp only [bind, Except.bind]
    cases lib.kept.lookup (keptName key) with
    | some t => exact .pure rfl
    | none =>
      refine source_gives.bindExcept ?_ ?_
      · intro text h
        rw [← h]
        dsimp only
        cases compile none text with
        | error e => exact .pure rfl
        | ok t => exact .lift .count fun _ _ ↦ .lift .log fun _ _ ↦ .pure rfl
      · intro e h
        rw [← h]
  · intro e h
    rw [← h]
    rfl

/-- The ways in which a fetch can end. -/
inductive Fetching (files : Tree) (key : String) (lib : Library) :
    Except LibraryError (Compiled × Library) → Prop where
  /-- The key is none. -/
  | refused {e : LibraryError} (hkey : checkKey key = .error e) : Fetching files key lib (.error e)
  /-- The template has been read before. -/
  | kept {t : Compiled} (hkey : checkKey key = .ok ())
    (hkept : lib.kept.lookup (keptName key) = some t) : Fetching files key lib (.ok (t, lib))
  /-- There is no source. -/
  | missing {fault : Files.ReadFault} (hkey : checkKey key = .ok ())
    (hkept : lib.kept.lookup (keptName key) = none)
    (hread : files.readText (lib.pathOf key) = .error fault) :
    Fetching files key lib (.error (.notFound key))
  /-- The source is out of order. -/
  | broken {text : String} {e : CompileError} (hkey : checkKey key = .ok ())
    (hkept : lib.kept.lookup (keptName key) = none)
    (hread : files.readText (lib.pathOf key) = .ok text) (hcompile : compile none text = .error e) :
    Fetching files key lib (.error (.notCompiled key e))
  /-- The template is read now. -/
  | compiled {text : String} {t : Compiled} (hkey : checkKey key = .ok ())
    (hkept : lib.kept.lookup (keptName key) = none)
    (hread : files.readText (lib.pathOf key) = .ok text) (hcompile : compile none text = .ok t) :
    Fetching files key lib
      (.ok (t, { lib.keep (keptName key) t with compilations := lib.compilations + 1 }))

theorem fetching_fetched (files : Tree) (key : String) (lib : Library) :
    Fetching files key lib (lib.fetched files key) := by
  unfold fetched
  cases hkey : checkKey key with
  | error e => exact .refused hkey
  | ok _ =>
    cases hkept : lib.kept.lookup (keptName key) with
    | some t => exact .kept hkey hkept
    | none =>
      cases hread : files.readText (lib.pathOf key) with
      | error fault =>
        rw [sourceOf_error hread]
        exact .missing hkey hkept hread
      | ok text =>
        rw [sourceOf_ok hread]
        simp only [bind, Except.bind]
        cases hcompile : compile none text with
        | error e => exact .broken hkey hkept hread hcompile
        | ok t => exact .compiled hkey hkept hread hcompile

theorem fetched_ends {o : Except LibraryError (Compiled × Library)}
    (h : lib.fetched files key = o) : Fetching files key lib o :=
  h ▸ fetching_fetched files key lib

theorem fetched_dir {t : Compiled} (h : lib.fetched files key = .ok (t, lib')) :
    lib'.dir = lib.dir := by
  cases fetched_ends h with
  | kept => rfl
  | compiled => rfl

/-- A fetch ends in one way only. -/
theorem Fetching.eq {o : Except LibraryError (Compiled × Library)} (h : Fetching files key lib o) :
    lib.fetched files key = o := by
  unfold fetched
  cases h with
  | refused hkey =>
    rw [hkey]
    rfl
  | kept hkey hkept =>
    rw [hkey, hkept]
    rfl
  | missing hkey hkept hread =>
    rw [hkey, hkept, sourceOf_error hread]
    rfl
  | broken hkey hkept hread hcompile =>
    rw [hkey, hkept, sourceOf_ok hread]
    simp only [bind, Except.bind]
    rw [hcompile]
    rfl
  | compiled hkey hkept hread hcompile =>
    rw [hkey, hkept, sourceOf_ok hread]
    simp only [bind, Except.bind]
    rw [hcompile]
    rfl

/-! ## Names -/

/-- What is kept has names that are distinct from each other. -/
def Distinct (lib : Library) : Prop := (lib.kept.map Prod.fst).Nodup

theorem Distinct.keep (h : lib.Distinct) (name : String) (t : Compiled) :
    (lib.keep name t).Distinct := by
  refine List.nodup_cons.mpr ⟨?_, ?_⟩
  · simp
  · exact h.sublist (List.filter_sublist.map _)

theorem Distinct.keepParts (h : lib.Distinct) (sources : List (String × String)) :
    (lib.keepParts sources).1.Distinct := by
  induction sources generalizing lib with
  | nil => exact h
  | cons part rest ih =>
    rw [Library.keepParts]
    split
    · exact ih (h.keep _ _)
    · exact h

theorem Distinct.fetched {t : Compiled} (h : lib.Distinct)
    (hf : lib.fetched files key = .ok (t, lib')) : lib'.Distinct := by
  cases fetched_ends hf with
  | kept => exact h
  | compiled => exact h.keep _ _

theorem Distinct.cleared (h : lib.Distinct) : (lib.cleared files).1.Distinct := by
  unfold Library.cleared
  cases partSources files lib.partsDir with
  | error e => exact h
  | ok sources =>
    have hempty : { lib with kept := [] }.Distinct := List.nodup_nil
    exact hempty.keepParts sources

theorem Distinct.begun (h : begun files dir partsDir = .ok lib) : lib.Distinct := by
  unfold Library.begun at h
  cases hs : partSources files partsDir with
  | error e =>
    rw [hs] at h
    cases h
  | ok sources =>
    rw [hs] at h
    have hempty : { dir, partsDir : Library }.Distinct := List.nodup_nil
    have hkept := hempty.keepParts sources
    simp only [bind, Except.bind] at h
    rcases hk : Library.keepParts { dir, partsDir } sources with ⟨lib', e | ⟨⟩⟩
    · rw [hk] at h
      cases h
    · rw [hk] at h hkept
      cases h
      exact hkept

/-- In a list with distinct names the order does not count. -/
theorem lookup_eq_of_perm {α : Type} {l l' : List (String × α)} (h : l.Perm l')
    (hl : (l.map Prod.fst).Nodup) (name : String) : l.lookup name = l'.lookup name := by
  induction h with
  | nil => rfl
  | cons x _ ih =>
    rw [List.lookup_cons, List.lookup_cons, ih (List.nodup_cons.mp hl).2]
  | swap x y l =>
    have hne : x.1 ≠ y.1 := by
      rintro heq
      simp [heq] at hl
    rw [List.lookup_cons, List.lookup_cons, List.lookup_cons, List.lookup_cons]
    cases hx : name == x.1 with
    | false => rfl
    | true =>
      have hy : (name == y.1) = false := by
        rw [eq_of_beq hx]
        exact beq_false_of_ne hne
      rw [hy]
  | trans h₁ _ ih₁ ih₂ => exact (ih₁ hl).trans (ih₂ ((h₁.map Prod.fst).nodup_iff.mp hl))

/-! ## Libraries that are alike -/

/-- Both libraries hold the same under every name, and the first one has compiled `n` templates
more. -/
structure Alike (n : Nat) (lib lib' : Library) : Prop where
  dir_eq : lib.dir = lib'.dir
  partsDir_eq : lib.partsDir = lib'.partsDir
  kept_perm : lib.kept.Perm lib'.kept
  distinct : lib.Distinct
  compilations_eq : lib.compilations = lib'.compilations + n

namespace Alike

variable {n : Nat}

theorem refl (h : lib.Distinct) : Alike 0 lib lib := ⟨rfl, rfl, .refl _, h, rfl⟩

theorem symm (h : Alike 0 lib lib') : Alike 0 lib' lib :=
  ⟨h.dir_eq.symm, h.partsDir_eq.symm, h.kept_perm.symm,
    (h.kept_perm.map Prod.fst).nodup_iff.mp h.distinct, h.compilations_eq.symm⟩

theorem lookup_eq (h : Alike n lib lib') (name : String) :
    lib.kept.lookup name = lib'.kept.lookup name := lookup_eq_of_perm h.kept_perm h.distinct name

theorem cached_eq (h : Alike n lib lib') : lib.cached = lib'.cached := h.kept_perm.countP_eq _

theorem parts_eq (h : Alike n lib lib') : lib.parts = lib'.parts := by
  rw [parts, parts, h.cached_eq, h.kept_perm.length_eq]

theorem pathOf_eq (h : Alike n lib lib') (key : String) : lib.pathOf key = lib'.pathOf key := by
  rw [pathOf, pathOf, h.dir_eq]

theorem keep (h : Alike n lib lib') (name : String) (t : Compiled) :
    Alike n (lib.keep name t) (lib'.keep name t) where
  dir_eq := h.dir_eq
  partsDir_eq := h.partsDir_eq
  kept_perm := (h.kept_perm.filter _).cons _
  distinct := h.distinct.keep name t
  compilations_eq := h.compilations_eq

theorem keepParts (h : Alike n lib lib') (sources : List (String × String)) :
    Alike n (lib.keepParts sources).1 (lib'.keepParts sources).1 ∧
      (lib.keepParts sources).2 = (lib'.keepParts sources).2 := by
  induction sources generalizing lib lib' with
  | nil => exact ⟨h, rfl⟩
  | cons part rest ih =>
    rw [Library.keepParts, Library.keepParts]
    cases compile (some part.1) part.2 with
    | ok t => exact ih (h.keep part.1 t)
    | error e => exact ⟨h, rfl⟩

/-- Fetching a template ends in the same way, and what it leaves behind is alike. -/
theorem fetched (h : Alike n lib lib') (files : Tree) (key : String) :
    (∃ e, lib.fetched files key = .error e ∧ lib'.fetched files key = .error e) ∨
      ∃ t l l', lib.fetched files key = .ok (t, l) ∧ lib'.fetched files key = .ok (t, l') ∧
        Alike n l l' := by
  have hf := fetching_fetched files key lib'
  generalize lib'.fetched files key = o at hf
  cases hf with
  | refused hkey => exact .inl ⟨_, (Fetching.refused hkey).eq, rfl⟩
  | kept hkey hkept =>
    rw [← h.lookup_eq] at hkept
    exact .inr ⟨_, _, _, (Fetching.kept hkey hkept).eq, rfl, h⟩
  | missing hkey hkept hread =>
    rw [← h.lookup_eq] at hkept
    rw [← h.pathOf_eq] at hread
    exact .inl ⟨_, (Fetching.missing hkey hkept hread).eq, rfl⟩
  | broken hkey hkept hread hcompile =>
    rw [← h.lookup_eq] at hkept
    rw [← h.pathOf_eq] at hread
    exact .inl ⟨_, (Fetching.broken hkey hkept hread hcompile).eq, rfl⟩
  | @compiled _ t hkey hkept hread hcompile =>
    rw [← h.lookup_eq] at hkept
    rw [← h.pathOf_eq] at hread
    refine .inr ⟨_, _, _, (Fetching.compiled hkey hkept hread hcompile).eq, rfl, ?_⟩
    have hkeep := h.keep (keptName key) t
    exact { hkeep with compilations_eq := by rw [h.compilations_eq, Nat.add_right_comm] }

/-- Clearing ends in the same way, and what it leaves behind is alike. -/
theorem cleared (h : Alike n lib lib') (files : Tree) :
    Alike n (lib.cleared files).1 (lib'.cleared files).1 ∧
      (lib.cleared files).2 = (lib'.cleared files).2 := by
  have hsources : partSources files lib.partsDir = partSources files lib'.partsDir :=
    congrArg _ h.partsDir_eq
  unfold Library.cleared
  rw [hsources]
  cases partSources files lib'.partsDir with
  | error e => exact ⟨h, rfl⟩
  | ok sources =>
    have hempty : Alike n { lib with kept := [] } { lib' with kept := [] } :=
      ⟨h.dir_eq, h.partsDir_eq, .nil, List.nodup_nil, h.compilations_eq⟩
    obtain ⟨hkept, hend⟩ := hempty.keepParts sources
    exact ⟨hkept, congrArg (Except.map fun _ ↦ sources.length) hend⟩

end Alike

/-- Clearing a library is opening it anew, but for what has been compiled before. -/
theorem cleared_begun (files : Tree) (lib : Library) :
    (∃ e, (lib.cleared files).2 = .error e ∧ begun files lib.dir lib.partsDir = .error e) ∨
      ∃ n fresh, (lib.cleared files).2 = .ok n ∧ begun files lib.dir lib.partsDir = .ok fresh ∧
        Alike lib.compilations (lib.cleared files).1 fresh := by
  unfold cleared begun
  cases partSources files lib.partsDir with
  | error e => exact .inl ⟨e, rfl, rfl⟩
  | ok sources =>
    have hempty : Alike lib.compilations { lib with kept := [] }
        { dir := lib.dir, partsDir := lib.partsDir } :=
      ⟨rfl, rfl, .nil, List.nodup_nil, (Nat.zero_add _).symm⟩
    obtain ⟨hkept, hend⟩ := hempty.keepParts sources
    dsimp only [bind, Except.bind]
    rw [hend]
    cases (keepParts { dir := lib.dir, partsDir := lib.partsDir } sources).2 with
    | error e => exact .inl ⟨e, rfl, rfl⟩
    | ok _ => exact .inr ⟨_, _, rfl, rfl, hkept⟩

/-! ## Clearings that fail -/

/-- Whether a part is in order. -/
def compiles (part : String × String) : Bool := (compile (some part.1) part.2).isOk

/-- A library that holds some parts and nothing else. -/
def withParts (lib : Library) (parts : List (String × String)) : Library :=
  ({ lib with kept := [] }.keepParts parts).1

/-- The parts in front of the first one that is out of order are those that are kept. -/
theorem keepParts_takeWhile (lib : Library) (sources : List (String × String)) :
    (lib.keepParts (sources.takeWhile compiles)).1 = (lib.keepParts sources).1 := by
  induction sources generalizing lib with
  | nil => rfl
  | cons part rest ih =>
    rw [List.takeWhile_cons, compiles]
    cases hc : compile (some part.1) part.2 with
    | error e => simp [keepParts, hc, Except.isOk, Except.toBool]
    | ok t =>
      simp only [Except.isOk, Except.toBool, if_true]
      rw [keepParts, keepParts, hc]
      exact ih _

/-- Keeping parts changes what is kept, and nothing else. -/
theorem keepParts_eq (lib : Library) (sources : List (String × String)) :
    ∃ kept, (lib.keepParts sources).1 = { lib with kept } := by
  induction sources generalizing lib with
  | nil => exact ⟨lib.kept, rfl⟩
  | cons part rest ih =>
    rw [keepParts]
    split
    · exact ih _
    · exact ⟨lib.kept, rfl⟩

theorem cleared_dir : (lib.cleared files).1.dir = lib.dir := by
  unfold cleared
  cases partSources files lib.partsDir with
  | error e => rfl
  | ok sources =>
    obtain ⟨kept, heq⟩ := keepParts_eq { lib with kept := [] } sources
    exact (congrArg Library.dir heq :)

/-- What is kept among parts was there, or it is one of them. -/
theorem name_of_mem_keepParts {sources : List (String × String)} {k : String × Compiled}
    (h : k ∈ (lib.keepParts sources).1.kept) : k ∈ lib.kept ∨ k.1 ∈ sources.map Prod.fst := by
  induction sources generalizing lib with
  | nil => exact .inl h
  | cons part rest ih =>
    rw [keepParts] at h
    split at h
    · rcases ih h with hk | hk
      · rcases List.mem_cons.mp hk with rfl | hk
        · exact .inr (by simp)
        · exact .inl (List.mem_filter.mp hk).1
      · exact .inr (List.mem_cons_of_mem _ hk)
    · exact .inl h

/-- None of the names is that of a template. -/
def Plain (names : List String) : Prop := ∀ name ∈ names, name.startsWith templatePrefix = false

instance (names : List String) : Decidable (Plain names) :=
  inferInstanceAs (Decidable (∀ name ∈ names, name.startsWith templatePrefix = false))

/-- There is no template in a library of parts, unless a part has the name of one. -/
theorem cached_withParts {parts : List (String × String)} (h : Plain (parts.map Prod.fst)) :
    (lib.withParts parts).cached = 0 := by
  apply List.countP_eq_zero.mpr
  intro k hk
  rcases name_of_mem_keepParts hk with hk | hk
  · cases hk
  · rw [h k.1 hk]
    exact Bool.false_ne_true

theorem keepParts_error {sources : List (String × String)} {e : LibraryError}
    (h : (lib.keepParts sources).2 = .error e) :
    ∃ name reason, e = .partNotCompiled name reason := by
  induction sources generalizing lib with
  | nil => cases h
  | cons part rest ih =>
    rw [keepParts] at h
    split at h
    · exact ih h
    · cases h
      exact ⟨_, _, rfl⟩

/-- A clearing that fails has not begun, or it ends with the parts in front of the one that is out
of order. -/
theorem cleared_error {e : LibraryError} (h : (lib.cleared files).2 = .error e) :
    ((∃ path reason, e = .unreadable path reason) ∧ (lib.cleared files).1 = lib) ∨
      ∃ sources name reason, partSources files lib.partsDir = .ok sources ∧
        e = .partNotCompiled name reason ∧
        (lib.cleared files).1 = lib.withParts (sources.takeWhile compiles) := by
  unfold cleared at h ⊢
  cases hs : partSources files lib.partsDir with
  | error e' =>
    rw [hs] at h
    cases h
    exact .inl ⟨partSources_error hs, rfl⟩
  | ok sources =>
    rw [hs] at h
    dsimp only at h
    cases hk : ({ lib with kept := [] }.keepParts sources).2 with
    | ok _ =>
      rw [hk] at h
      cases h
    | error e' =>
      rw [hk] at h
      cases h
      obtain ⟨name, reason, he⟩ := keepParts_error hk
      exact .inr ⟨sources, name, reason, rfl, he, (keepParts_takeWhile _ sources).symm⟩

/-! ## What is kept under a name -/

theorem lookup_keep_self (lib : Library) (name : String) (t : Compiled) :
    (lib.keep name t).kept.lookup name = some t := List.lookup_cons_self

theorem lookup_keep_of_ne {name name' : String} (h : name' ≠ name) (t : Compiled) :
    (lib.keep name t).kept.lookup name' = lib.kept.lookup name' := by
  rw [keep, lookup_cons_of_ne h, lookup_filter_key (fun k ↦ k != name) (bne_iff_ne.mpr h)]

theorem lookup_keepParts_of_not_mem {sources : List (String × String)} {name : String}
    (h : name ∉ sources.map Prod.fst) :
    (lib.keepParts sources).1.kept.lookup name = lib.kept.lookup name := by
  induction sources generalizing lib with
  | nil => rfl
  | cons p sources ih =>
    obtain ⟨hp, hsources⟩ := not_or.mp (mt List.mem_cons.mpr h)
    rw [keepParts]
    split
    · rw [ih hsources, lookup_keep_of_ne hp]
    · rfl

/-- If all parts are in order, all of them are kept. -/
theorem keepParts_ok (lib : Library) {sources : List (String × String)}
    (h : ∀ p ∈ sources, ∃ t, compile (some p.1) p.2 = .ok t)
    (hdistinct : (sources.map Prod.fst).Nodup) :
    (lib.keepParts sources).2 = .ok () ∧ ∀ p ∈ sources, ∀ t, compile (some p.1) p.2 = .ok t →
      (lib.keepParts sources).1.kept.lookup p.1 = some t := by
  induction sources generalizing lib with
  | nil => exact ⟨rfl, List.forall_mem_nil _⟩
  | cons p sources ih =>
    obtain ⟨⟨t, ht⟩, hsources⟩ := List.forall_mem_cons.mp h
    obtain ⟨hp, hdistinct⟩ := List.nodup_cons.mp hdistinct
    obtain ⟨hok, hkept⟩ := ih (lib.keep p.1 t) hsources hdistinct
    rw [keepParts, ht]
    refine ⟨hok, List.forall_mem_cons.mpr ⟨fun t' ht' ↦ ?_, hkept⟩⟩
    cases ht.symm.trans ht'
    exact (lookup_keepParts_of_not_mem hp).trans (lookup_keep_self lib p.1 t)

theorem begun_of_sources {sources : List (String × String)}
    (hsources : partSources files partsDir = .ok sources)
    (hok : (keepParts { dir, partsDir } sources).2 = .ok ()) :
    begun files dir partsDir = .ok (keepParts { dir, partsDir } sources).1 := by
  rw [begun, hsources]
  simp only [bind, Except.bind]
  rw [hok]
  rfl

theorem cleared_of_sources {sources : List (String × String)}
    (hsources : partSources files lib.partsDir = .ok sources) :
    (lib.cleared files).1 = (keepParts { lib with kept := [] } sources).1 := by
  rw [cleared, hsources]

end Mailroom.Template.Library
