import Mailroom.Proofs.Settings.Fields
import Mailroom.Proofs.Settings.Spelling
import Mailroom.Proofs.Lookup

/-!
# A value among the layers

A value that is laid at an entry of a section changes that section, and in it that entry alone
(`Beside.place_self`), and so it remains when values are laid upon it that belong elsewhere
(`Beside.lay`).
-/

namespace Mailroom.Settings

open Node

variable {es : List (String × Node)} {k name sec : String} {u v x y : Node} {steps : List Step}

/-! ## Entries -/

theorem lookup_setEntry :
    (setEntry name v es).lookup k = if k = name then some v else es.lookup k := by
  induction es with
  | nil =>
    by_cases hk : k = name
    · rw [if_pos hk, hk]
      exact List.lookup_cons_self
    · rw [if_neg hk]
      exact lookup_cons_of_ne hk v
  | cons e es ih =>
    obtain ⟨n, w⟩ := e
    rw [setEntry]
    by_cases hn : n = name
    · rw [if_pos hn, hn]
      by_cases hk : k = name
      · rw [if_pos hk, hk, List.lookup_cons_self]
      · rw [if_neg hk, lookup_cons_of_ne hk, lookup_cons_of_ne hk]
    · rw [if_neg hn]
      by_cases hk : k = n
      · rw [if_neg (hk ▸ hn), hk, List.lookup_cons_self, List.lookup_cons_self]
      · rw [lookup_cons_of_ne hk, lookup_cons_of_ne hk, ih]

namespace Node

/-- The entry under a name. -/
def get? (x : Node) (k : String) : Option Node := x.entries.lookup k

/-- The section under a name, which is empty if there is none. -/
def part (x : Node) (k : String) : Node := (x.get? k).getD empty

/-- Whether a value is a table. -/
def IsTable (x : Node) : Prop := ∃ source es, x = .table source es

theorem isTable_change (f : Option Node → Node) : (x.change name f).IsTable := by
  cases x <;> exact ⟨_, _, rfl⟩

theorem get?_change (f : Option Node → Node) : (x.change name f).get? k =
    if k = Text.lower name then some (f (x.get? (Text.lower name))) else x.get? k := by
  rw [get?, get?, get?, ← lookup_setEntry]
  cases x <;> rfl

theorem part_change_self (f : Option Node → Node) :
    (x.change name f).part (Text.lower name) = f (x.get? (Text.lower name)) := by
  rw [part, get?_change, if_pos rfl, Option.getD_some]

theorem part_change_of_ne (f : Option Node → Node) (h : k ≠ Text.lower name) :
    (x.change name f).part k = x.part k := by
  rw [part, get?_change, if_neg h, part]

theorem get?_place {s : String} : (place u (.entry s :: steps) (some x)).get? k =
    if k = Text.lower s then some (place u steps (x.get? (Text.lower s))) else x.get? k :=
  get?_change _

theorem part_place_self {s n : String} :
    (place u (.entry s :: .entry n :: steps) (some x)).part (Text.lower s) =
      (x.part (Text.lower s)).change n (place u steps) :=
  part_change_self _

theorem part_place_of_ne {s : String} (h : k ≠ Text.lower s) :
    (place u (.entry s :: steps) (some x)).part k = x.part k :=
  part_change_of_ne _ h

end Node

/-! ## Ways -/

/-- A way leads elsewhere than to an entry of a section: into another section, or to another entry
of this one. -/
inductive LeadsElsewhere (sec name : String) : List Step → Prop
  | otherSection {s : String} {steps : List Step} (h : Text.lower s ≠ sec) :
    LeadsElsewhere sec name (.entry s :: steps)
  | otherEntry {s n : String} {steps : List Step} (h : Text.lower n ≠ name) :
    LeadsElsewhere sec name (.entry s :: .entry n :: steps)

/-- A document is another one but for an entry of a section, which has a property. -/
structure Beside (sec name : String) (Q : Node → Prop) (x y : Node) : Prop where
  sections : ∀ k ≠ sec, y.get? k = x.get? k
  isTable : (y.part sec).IsTable
  entry : ∃ v, (y.part sec).get? name = some v ∧ Q v
  entries : ∀ k ≠ name, (y.part sec).get? k = (x.part sec).get? k

namespace Beside

variable {Q : Node → Prop}

/-- A value that is laid upon an entry. -/
theorem place_self {s n : String} (hQ : ∀ old, Q (place v steps old)) :
    Beside (Text.lower s) (Text.lower n) Q x
      (place v (.entry s :: .entry n :: steps) (some x)) := by
  refine ⟨fun k hk ↦ get?_place.trans (if_neg hk), ?_, ?_, fun k hk ↦ ?_⟩
  · rw [part_place_self]
    exact isTable_change _
  · rw [part_place_self, get?_change, if_pos rfl]
    exact ⟨_, rfl, hQ _⟩
  · rw [part_place_self, get?_change, if_neg hk]

/-- The other sections do not tell the documents apart, whatever is laid upon both. -/
theorem get?_place_eq {s : String} (h : Beside sec name Q x y) (hk : k ≠ sec) :
    (Node.place u (.entry s :: steps) (some y)).get? k =
      (Node.place u (.entry s :: steps) (some x)).get? k := by
  rw [get?_place, get?_place, h.sections k hk]
  by_cases heq : k = Text.lower s
  · rw [if_pos heq, if_pos heq, ← heq, h.sections k hk]
  · rw [if_neg heq, if_neg heq]

/-- A value that is laid elsewhere upon both documents. -/
theorem place (h : Beside sec name Q x y) {path : List Step}
    (helsewhere : LeadsElsewhere sec name path) :
    Beside sec name Q (Node.place u path (some x)) (Node.place u path (some y)) := by
  have haway {s : String} (steps : List Step) (hs : Text.lower s ≠ sec) :
      Beside sec name Q (Node.place u (.entry s :: steps) (some x))
        (Node.place u (.entry s :: steps) (some y)) := by
    refine ⟨fun k hk ↦ h.get?_place_eq hk, ?_, ?_, ?_⟩
    · rw [part_place_of_ne hs.symm]
      exact h.isTable
    · rw [part_place_of_ne hs.symm]
      exact h.entry
    · rw [part_place_of_ne hs.symm, part_place_of_ne hs.symm]
      exact h.entries
  cases helsewhere with
  | otherSection hs => exact haway _ hs
  | @otherEntry s n steps hn =>
    by_cases hs : Text.lower s = sec
    · subst hs
      refine ⟨fun k hk ↦ h.get?_place_eq hk, ?_, ?_, fun k hk ↦ ?_⟩
      · rw [part_place_self]
        exact isTable_change _
      · rw [part_place_self, get?_change, if_neg hn.symm]
        exact h.entry
      · rw [part_place_self, part_place_self, get?_change, get?_change, h.entries k hk,
          h.entries _ hn]
    · exact haway _ hs

/-- The values of a source that are laid upon both documents. -/
theorem lay (h : Beside sec name Q x y) {source : List (String × Node)}
    (helsewhere : ∀ e ∈ source, LeadsElsewhere sec name (pathOf e.1)) :
    Beside sec name Q (Node.lay source x) (Node.lay source y) := by
  induction source generalizing x y with
  | nil => exact h
  | cons e source ih =>
    obtain ⟨hfirst, hrest⟩ := List.forall_mem_cons.mp helsewhere
    exact ih (h.place hfirst) hrest

/-- A value of a source that is laid upon an entry, when those behind it are laid elsewhere. -/
theorem lay_insert {before after : List (String × Node)} {path s n : String}
    (hpath : pathOf path = .entry s :: .entry n :: steps) (hQ : ∀ old, Q (Node.place v steps old))
    (helsewhere : ∀ e ∈ after, LeadsElsewhere (Text.lower s) (Text.lower n) (pathOf e.1)) :
    Beside (Text.lower s) (Text.lower n) Q (Node.lay (before ++ after) x)
      (Node.lay (before ++ (path, v) :: after) x) := by
  rw [Node.lay, Node.lay, List.foldl_append, List.foldl_append, List.foldl_cons]
  dsimp only
  rw [hpath]
  exact Beside.lay (Beside.place_self hQ) helsewhere

end Beside

/-! ## Documents -/

theorem isTable_lay {source : List (String × Node)} (h : x.IsTable) : (lay source x).IsTable := by
  induction source generalizing x with
  | nil => exact h
  | cons e source ih =>
    refine ih ?_
    obtain ⟨s, steps, hpath⟩ : ∃ s steps, pathOf e.1 = .entry s :: steps := by
      rw [pathOf]
      split
      · exact ⟨_, _, rfl⟩
      · split <;> exact ⟨_, _, rfl⟩
    change (Node.place e.2 (pathOf e.1) (some x)).IsTable
    rw [hpath]
    exact isTable_change _

/-- The document that the settings are taken from. -/
def document (files : Files.Tree) (environment : Variables) : Except Fault Node := do
  let common ← documentEntries files "config/default"
  let special ← documentEntries files s!"config/{modeOf environment}"
  return lay (variableEntries environment) (lay special (lay common (lay usualEntries empty)))

theorem load_eq (files : Files.Tree) (environment : Variables) :
    load files environment = document files environment >>= dialect.settings := by
  simp only [load, document, bind_assoc, pure_bind]
  rfl

theorem lookup_append_cons {before after : Variables} {n m text : String} (h : n ≠ m) :
    (before ++ (m, text) :: after).lookup n = (before ++ after).lookup n := by
  rw [List.lookup_append, List.lookup_append, lookup_cons_of_ne h]

theorem forall_variableEntries {environment : Variables} {P : String → Prop}
    (h : ∀ e ∈ environment, P (settingName e.1)) : ∀ e ∈ variableEntries environment, P e.1 :=
  List.forall_mem_map.mpr h

/-- The document in an environment with one variable more, the name of which leads to an entry of a
section, when the names of those behind it lead elsewhere. -/
theorem exists_document {files : Files.Tree} {before after : Variables} {n text s m : String}
    {Q : Node → Prop} (hmode : "RUN_MODE" ≠ n)
    (hpath : pathOf (settingName n) = .entry s :: .entry m :: steps)
    (hQ : ∀ old, Q (place (variableNode text) steps old))
    (helsewhere : ∀ e ∈ after,
      LeadsElsewhere (Text.lower s) (Text.lower m) (pathOf (settingName e.1)))
    (hx : document files (before ++ after) = .ok x) :
    ∃ y, document files (before ++ (n, text) :: after) = .ok y ∧
      Beside (Text.lower s) (Text.lower m) Q x y ∧ x.IsTable ∧ y.IsTable := by
  have hmode : modeOf (before ++ (n, text) :: after) = modeOf (before ++ after) := by
    rw [modeOf, modeOf, lookup_append_cons hmode]
  obtain ⟨common, hcommon, hx⟩ := bind_eq_ok.mp hx
  obtain ⟨special, hspecial, hx⟩ := bind_eq_ok.mp hx
  have hbelow : (lay special (lay common (lay usualEntries empty))).IsTable :=
    isTable_lay (isTable_lay (isTable_lay ⟨_, _, rfl⟩))
  have hnew : document files (before ++ (n, text) :: after) =
      .ok (lay (variableEntries (before ++ (n, text) :: after))
        (lay special (lay common (lay usualEntries empty)))) := by
    rw [document, hcommon, hmode]
    exact bind_eq_ok.mpr ⟨common, rfl, bind_eq_ok.mpr ⟨special, hspecial, rfl⟩⟩
  have hafter := forall_variableEntries
    (P := fun path ↦ LeadsElsewhere (Text.lower s) (Text.lower m) (pathOf path)) helsewhere
  obtain rfl := Except.ok.inj hx
  refine ⟨_, hnew, ?_, isTable_lay hbelow, isTable_lay hbelow⟩
  rw [variableEntries, variableEntries, List.map_append, List.map_append, List.map_cons]
  exact .lay_insert hpath hQ hafter

end Mailroom.Settings
