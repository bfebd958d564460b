import Mailroom.Files.Tree
import Mailroom.Proofs.Journal
import Mailroom.Proofs.Lookup
import Mathlib.Data.List.Nodup
import Mathlib.Data.String.Basic

/-!
# Writing files

What is found in a tree after files have been written. A file is found where it was written last,
and writing another file leaves it there: the folders that are made on the way are only made where
there is nothing.
-/

namespace Mailroom.Files.Tree

variable (t : Tree) {p q : Path} {path : String}

theorem find?_put_self (hp : p ≠ []) (node : Node) : (t.put p node).find? p = some node := by
  rw [find?, put, if_neg (by simpa using hp), List.lookup_cons_self]

theorem find?_put_of_ne (h : q ≠ p) (node : Node) : (t.put p node).find? q = t.find? q := by
  rw [find?, find?, put, lookup_cons_of_ne h,
    lookup_filter_key (fun r ↦ r != p) (bne_iff_ne.mpr h)]

/-- Making folders leaves what is there. -/
theorem find?_makeFolder (h : (t.find? q).isSome = true) (p : Path) :
    (t.makeFolder p).find? q = t.find? q := by
  unfold makeFolder
  generalize p.above ++ [p] = folders
  induction folders generalizing t with
  | nil => rfl
  | cons r folders ih =>
    rw [List.foldl_cons]
    split
    · exact ih t h
    · rename_i hr
      have hne : q ≠ r := by
        rintro rfl
        exact hr h
      have hput := t.find?_put_of_ne hne .folder
      rw [ih _ (hput ▸ h), hput]

theorem find?_write_self (hp : Path.ofText path ≠ []) (content : ByteArray) :
    (t.write path content).find? (Path.ofText path) = some (.file content) :=
  find?_put_self _ hp _

/-- Writing a file leaves what is there at other paths. -/
theorem find?_write_of_ne (h : (t.find? q).isSome = true) (hne : q ≠ Path.ofText path)
    (content : ByteArray) : (t.write path content).find? q = t.find? q := by
  rw [write, find?_put_of_ne _ hne, t.find?_makeFolder h]

/-- Write several files, given by their paths and texts. -/
def writeAll (t : Tree) (files : List (String × String)) : Tree :=
  files.foldl (fun t (path, text) ↦ t.write path text.toUTF8) t

theorem writeAll_cons (f : String × String) (files : List (String × String)) :
    t.writeAll (f :: files) = (t.write f.1 f.2.toUTF8).writeAll files := List.foldl_cons ..

/-- The paths of some files. -/
def pathsOf (files : List (String × String)) : List Path := files.map fun f ↦ Path.ofText f.1

theorem find?_writeAll_of_not_mem {files : List (String × String)} (h : (t.find? q).isSome = true)
    (hq : q ∉ pathsOf files) : (t.writeAll files).find? q = t.find? q := by
  induction files generalizing t with
  | nil => rfl
  | cons f files ih =>
    obtain ⟨hf, hfiles⟩ := not_or.mp (mt List.mem_cons.mpr hq)
    have hwrite := t.find?_write_of_ne h hf f.2.toUTF8
    rw [writeAll_cons, ih _ (hwrite ▸ h) hfiles, hwrite]

/-- Files that are written at paths of their own are all there. -/
theorem find?_writeAll {files : List (String × String)} (hdistinct : (pathsOf files).Nodup)
    (hroot : [] ∉ pathsOf files) {f : String × String} (hf : f ∈ files) :
    (t.writeAll files).find? (Path.ofText f.1) = some (.file f.2.toUTF8) := by
  induction files generalizing t with
  | nil => cases hf
  | cons g files ih =>
    obtain ⟨hg, hfiles⟩ := List.nodup_cons.mp hdistinct
    obtain ⟨hne, hroot⟩ := not_or.mp (mt List.mem_cons.mpr hroot)
    rw [writeAll_cons]
    obtain rfl | hf := List.mem_cons.mp hf
    · have hwrite := t.find?_write_self (Ne.symm hne) f.2.toUTF8
      rw [find?_writeAll_of_not_mem _ (by rw [hwrite]; rfl) hg, hwrite]
    · exact ih _ hfiles hroot hf

theorem readText_of_find? {t : Tree} {text : String}
    (h : t.find? (Path.ofText path) = some (.file text.toUTF8)) : t.readText path = .ok text := by
  have hread : t.read path = .ok text.toUTF8 := by rw [read, h]
  have htext : String.fromUTF8? text.toUTF8 = some text := dif_pos text.isValidUTF8
  unfold readText
  rw [hread]
  simp only [bind, Except.bind]
  rw [htext]

/-! ## Reading files -/

/-- There is a file at the path, and its bytes are those of no text. -/
def Garbled (t : Tree) (path : String) : Prop :=
  ∃ content, t.read path = .ok content ∧ String.fromUTF8? content = none

/-- What is read is the content of a file. -/
theorem isFile_iff {t : Tree} : t.isFile path = true ↔ ∃ content, t.read path = .ok content := by
  unfold isFile read
  cases t.find? (Path.ofText path) with
  | none => cases t.leadsThroughFile (Path.ofText path) <;> simp
  | some node => cases node <;> simp

/-- A file is read as a text unless it is garbled. -/
theorem isFile_iff_readText {t : Tree} :
    t.isFile path = true ↔ (∃ text, t.readText path = .ok text) ∨ t.Garbled path := by
  rw [isFile_iff]
  unfold Garbled readText
  cases t.read path with
  | error fault => simp [bind, Except.bind]
  | ok content => cases h : String.fromUTF8? content <;> simp [bind, Except.bind, h]

/-- What is read as a text is the content of one of the files. -/
theorem exists_mem_nodes_of_readText {t : Tree} {text : String}
    (h : t.readText path = .ok text) :
    ∃ node ∈ t.nodes, ∃ content, node.2 = .file content ∧ String.fromUTF8? content = some text := by
  unfold readText read at h
  obtain ⟨content, hread, htext⟩ := bind_eq_ok.mp h
  split at hread
  · rename_i hfind
    cases hread
    unfold find? at hfind
    split at hfind
    · cases hfind
    · refine ⟨_, mem_of_lookup hfind, content, rfl, ?_⟩
      split at htext
      · rename_i hutf8
        cases htext
        exact hutf8
      · cases htext
  · cases hread
  · split at hread
    · cases hread
    · cases hread

theorem Garbled.readText {t : Tree} (h : t.Garbled path) :
    ∃ fault, t.readText path = .error fault := by
  obtain ⟨content, hread, htext⟩ := h
  refine ⟨.notText, ?_⟩
  unfold Tree.readText
  rw [hread]
  simp only [bind, Except.bind]
  rw [htext]

/-- How a root is shown says nothing of what stands below it. -/
theorem put_root (root : String) (p : Path) (node : Node) :
    ({ t with root } : Tree).put p node = { t.put p node with root } := rfl

theorem makeFolder_root (root : String) (p : Path) :
    ({ t with root } : Tree).makeFolder p = { t.makeFolder p with root } := by
  unfold makeFolder
  generalize p.above ++ [p] = folders
  induction folders generalizing t with
  | nil => rfl
  | cons r folders ih =>
    rw [List.foldl_cons, List.foldl_cons]
    have hfind : ({ t with root } : Tree).find? r = t.find? r := rfl
    rw [hfind]
    split
    · exact ih t
    · exact ih (t.put r .folder)

theorem writeAll_root (root : String) (files : List (String × String)) :
    ({ t with root } : Tree).writeAll files = { t.writeAll files with root } := by
  induction files generalizing t with
  | nil => rfl
  | cons f files ih =>
    rw [writeAll_cons, write, makeFolder_root, put_root, ih, writeAll_cons, write]

theorem isFolder_root (root dir : String) :
    ({ t with root } : Tree).isFolder dir = t.isFolder dir := rfl

theorem names_root (root dir : String) : ({ t with root } : Tree).names dir = t.names dir := rfl

/-! ## One node at a path -/

/-- There is one node at a path. -/
def Proper (t : Tree) : Prop := (t.nodes.map Prod.fst).Nodup

instance : DecidablePred Proper := fun t ↦
  inferInstanceAs (Decidable (t.nodes.map Prod.fst).Nodup)

namespace Proper

variable {t}

theorem put (h : t.Proper) (p : Path) (node : Node) : (t.put p node).Proper := by
  refine List.nodup_cons.mpr ⟨?_, h.sublist (List.filter_sublist.map _)⟩
  simp

theorem makeFolder (h : t.Proper) (p : Path) : (t.makeFolder p).Proper := by
  refine List.foldlRecOn (motive := Proper) _ _ h fun t ht q _ ↦ ?_
  split
  · exact ht
  · exact ht.put q .folder

theorem write (h : t.Proper) (path : String) (content : ByteArray) :
    (t.write path content).Proper := (h.makeFolder _).put _ _

theorem remove (h : t.Proper) (path : String) : (t.remove path).Proper :=
  h.sublist (List.filter_sublist.map _)

/-- The names in a folder are distinct. -/
theorem nodup_names (h : t.Proper) (dir : String) : (t.names dir).Nodup := by
  have hnames : ((t.nodes.map Prod.fst).filterMap fun p ↦
      if p.dropLast = Path.ofText dir ∧ p ≠ [] then p.getLast? else none).Nodup := by
    refine h.filterMap fun p q name hp hq ↦ ?_
    simp only [Option.mem_def, Option.ite_none_right_eq_some] at hp hq
    rw [← List.dropLast_append_getLast? name hp.2, ← List.dropLast_append_getLast? name hq.2,
      hp.1.1, hq.1.1]
  rw [List.filterMap_map] at hnames
  exact (List.mergeSort_perm _ _).nodup_iff.mpr hnames

end Proper

end Mailroom.Files.Tree

namespace Mailroom.Files

/-- A name is put together from its two parts. -/
theorem eq_of_splitExtension {file name ending : String}
    (h : splitExtension file = (name, some ending)) : file = name ++ "." ++ ending := by
  have hboth := List.takeWhile_append_dropWhile (p := (· != '.')) (l := file.toList.reverse)
  have hdot := List.head?_dropWhile_not (· != '.') file.toList.reverse
  unfold splitExtension at h
  dsimp only at h
  split at h
  · rename_i d c rest hbefore
    rw [hbefore] at hboth hdot
    obtain rfl : d = '.' := by simpa using hdot
    generalize file.toList.reverse.takeWhile (· != '.') = behind at h hboth
    obtain ⟨rfl, hending⟩ := Prod.mk.inj h
    obtain rfl := Option.some_inj.mp hending
    rw [← String.toList_inj, ← List.reverse_inj, ← hboth]
    simp
  · cases h

end Mailroom.Files
