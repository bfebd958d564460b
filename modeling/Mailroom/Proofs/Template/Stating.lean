import Mailroom.Proofs.Files.Tree
import Mailroom.Proofs.Payload.Normalizing
import Mailroom.Proofs.Template.Asking
import Mailroom.Proofs.Template.Translating

/-!
# Messages that name no locales but some

The data of a message is its payload in the form that templates know, with the texts of the locale
and its presentation put beside it; the templates are those that a library keeps or reads from
files. Where the payload, the texts and the files name no locales but some, so does all that a page
is made of.
-/

namespace Mailroom.Template

open Journal (answerAt)
open Mailroom.Files (Tree)

variable {names : List String}

/-! ## Libraries -/

/-- Whatever can be read as a template names no locales but some. -/
def SourcesStateOnly (names : List String) (files : Tree) : Prop :=
  ∀ path text, files.readText path = .ok text → ∀ name t, compile name text = .ok t →
    Body.statesOnly names t.body = true

/-- Whether a text, read as a template and as a part, names no locales but some. -/
def sourceStatesOnly (names : List String) (text : String) : Bool :=
  [none, some ""].all fun name ↦
    (compile name text).toOption.all fun t ↦ Body.statesOnly names t.body

/-- Whether the texts in the files of a tree name no locales but some. -/
def filesStateOnly (names : List String) (files : Tree) : Bool :=
  files.nodes.all fun node ↦
    match node.2 with
    | .file content => (String.fromUTF8? content).all (sourceStatesOnly names)
    | .folder => true

/-- The lines of a part do not depend on its name. -/
theorem compile_some_body {name text : String} {t : Compiled}
    (h : compile (some name) text = .ok t) (name' : String) :
    ∃ t', compile (some name') text = .ok t' ∧ t'.body = t.body := by
  unfold compile at h ⊢
  split at h
  · cases h
  · rename_i ps hps
    rw [Option.isSome_some] at hps ⊢
    rw [hps]
    split at h
    · cases h
    · rename_i hmatched
      dsimp only
      rw [if_neg hmatched]
      obtain ⟨w, hw, hcompiled⟩ := bind_eq_ok.mp h
      cases hcompiled
      exact ⟨_, bind_eq_ok.mpr ⟨w, hw, rfl⟩, rfl⟩

/-- It is enough to go through the files. -/
theorem sourcesStateOnly_of_files {files : Tree} (h : filesStateOnly names files = true) :
    SourcesStateOnly names files := by
  intro path text hread name t hcompile
  obtain ⟨node, hnode, content, hfile, htext⟩ := Files.Tree.exists_mem_nodes_of_readText hread
  have hsource := List.all_eq_true.mp h node hnode
  rw [hfile] at hsource
  dsimp only at hsource
  rw [htext, Option.all_some] at hsource
  have hall (name : Option String) (t : Compiled) (hname : name ∈ [none, some ""])
      (hcompile : compile name text = .ok t) : Body.statesOnly names t.body = true := by
    have hnamed := List.all_eq_true.mp hsource name hname
    rwa [hcompile] at hnamed
  cases name with
  | none => exact hall none t (by simp) hcompile
  | some name =>
    obtain ⟨t', hcompile', hbody⟩ := compile_some_body hcompile ""
    exact hbody ▸ hall (some "") t' (by simp) hcompile'

namespace Library

variable {files : Tree} {lib : Library}

/-- What is kept in a library names no locales but some. -/
def StatesOnly (names : List String) (lib : Library) : Prop :=
  ∀ k ∈ lib.kept, Body.statesOnly names k.2.body = true

namespace StatesOnly

theorem keep (h : lib.StatesOnly names) {t : Compiled} (ht : Body.statesOnly names t.body = true)
    (name : String) : (lib.keep name t).StatesOnly names :=
  List.forall_mem_cons.mpr ⟨ht, fun k hk ↦ h k (List.mem_filter.mp hk).1⟩

/-- A template that is fetched names no locales but some, nor does the library that has it. -/
theorem fetched (h : lib.StatesOnly names) (hfiles : SourcesStateOnly names files) {key : String}
    {t : Compiled} {lib' : Library} (hfetched : lib.fetched files key = .ok (t, lib')) :
    Body.statesOnly names t.body = true ∧ lib'.StatesOnly names := by
  cases fetched_ends hfetched with
  | kept hkey hkept => exact ⟨h _ (mem_of_lookup hkept), h⟩
  | compiled hkey hkept hread hcompile =>
    have ht := hfiles _ _ hread _ _ hcompile
    exact ⟨ht, h.keep ht _⟩

theorem keepParts (h : lib.StatesOnly names) {sources : List (String × String)}
    (hsources : ∀ part ∈ sources, ∀ name t, compile name part.2 = .ok t →
      Body.statesOnly names t.body = true) : (lib.keepParts sources).1.StatesOnly names := by
  induction sources generalizing lib with
  | nil => exact h
  | cons part rest ih =>
    obtain ⟨hpart, hrest⟩ := List.forall_mem_cons.mp hsources
    rw [Library.keepParts]
    split
    · rename_i hcompile
      exact ih (h.keep (hpart _ _ hcompile) _) hrest
    · exact h

theorem cleared (h : lib.StatesOnly names) (hfiles : SourcesStateOnly names files) :
    (lib.cleared files).1.StatesOnly names := by
  unfold Library.cleared
  cases hsources : partSources files lib.partsDir with
  | error e => exact h
  | ok sources =>
    have hnone : StatesOnly names { lib with kept := [] } := List.forall_mem_nil _
    refine hnone.keepParts fun part hpart ↦ ?_
    obtain ⟨path, hread⟩ := exists_readText_of_partSources hsources part hpart
    exact hfiles path _ hread

end StatesOnly

end Library

/-! ## Payloads -/

namespace MembersStateOnly

variable {payload : Json.Members} {key : String} {v : Json}

theorem get? (h : MembersStateOnly names payload) (hget : payload.get? key = some v) :
    statesOnly names v = true :=
  h _ (mem_of_lookup hget)

theorem detail? (h : MembersStateOnly names payload) {d : Payload.Detail}
    (hv : Payload.detail? payload d = some v) : statesOnly names v = true := by
  obtain ⟨before, behind, heq, -⟩ := Payload.detail?_eq_some_iff.mp hv
  have hmem : some v ∈ Payload.candidates payload d := by simp [heq]
  rcases Payload.mem_candidates_iff.mp hmem with
    ⟨name, -, hget⟩ | ⟨payment, hpayment, name, -, hget⟩
  · exact h.get? hget
  · obtain ⟨nested, hnested, hmembers⟩ := Option.bind_eq_some_iff.mp hpayment
    have hobject := h.get? hnested
    cases nested with
    | obj members =>
      cases hmembers
      exact statesOnly_get? hobject hget
    | _ => cases hmembers

theorem writeBack (h : MembersStateOnly names payload) (details : List Payload.Detail) :
    MembersStateOnly names (Payload.writeBack payload details) := by
  unfold Payload.writeBack
  refine List.foldlRecOn (motive := MembersStateOnly names) details _ h fun out hout d _ ↦ ?_
  split
  · rename_i v hv
    exact hout.insert (h.detail? hv) _
  · exact hout

/-- What is taken out of an object does not change the locale that it names. -/
theorem stripLogo (h : MembersStateOnly names payload) :
    MembersStateOnly names (Payload.stripLogo payload) := by
  have hwithout {v : Json} (hv : statesOnly names v = true) :
      statesOnly names (Payload.withoutLogo v) = true := by
    cases v with
    | obj members =>
      obtain ⟨hlocale, hmembers⟩ := statesOnly_obj_iff.mp hv
      refine statesOnly_obj_iff.mpr ⟨fun name hname ↦ hlocale name ?_, fun m hm ↦ ?_⟩
      · rwa [statedLocale?, Payload.get?_eraseAll_of_not_mem (by decide)] at hname
      · exact hmembers m (List.mem_filter.mp hm).1
    | _ => exact hv
  rw [Payload.stripLogo_eq]
  intro m hm
  obtain ⟨n, hn, rfl⟩ := List.mem_map.mp hm
  have hvalue := h n (List.mem_filter.mp hn).1
  dsimp only
  split
  · exact hwithout hvalue
  · exact hvalue

/-- A payload names the same locales in the form that templates know. -/
theorem reconcile (h : MembersStateOnly names payload) :
    MembersStateOnly names (Payload.reconcile payload) := by
  by_cases haway : Payload.LeadsAway payload
  · rw [Payload.reconcile_of_leadsAway haway]
    exact (h.writeBack _).stripLogo
  · rw [Payload.reconcile_of_not_leadsAway haway]
    exact h.writeBack _

end MembersStateOnly

/-! ## Messages -/

theorem statesOnly_ofMembers {members : List (String × Json)}
    (h : ∀ m ∈ members, m.1 ≠ presentationKey ∧ statesOnly names m.2 = true) :
    statesOnly names (Json.ofMembers members) = true :=
  List.foldlRecOn (motive := fun ms : Json.Members ↦ statesOnly names (.obj ms) = true) members _
    rfl fun _ hms m hm ↦ statesOnly_insert hms (h m hm).1 (h m hm).2

/-- A presentation holds no other. -/
theorem statesOnly_presentation (p : Locale.Presentation) :
    statesOnly names p.toJson = true := by
  refine statesOnly_ofMembers ?_
  cases p.logoUrl with
  | none => simp [presentationKey, statesOnly]
  | some url => simp [presentationKey, statesOnly]

namespace Renderer

variable {r : Renderer} {locale : String} {payload : Json.Members}

/-- The data of a message names no locales but some. -/
theorem statesOnly_context (hstore : ∀ l, statesOnly names (r.store.bundle l).document = true)
    (hlocale : locale = "" ∨ locale ∈ names) (hpayload : MembersStateOnly names payload)
    (now : ℤ) : statesOnly names (answerAt now (r.context locale payload)) = true := by
  have htexts : statesOnly names (r.store.textsOf locale) = true := by
    unfold Locale.Store.textsOf Locale.Store.bundleFor?
    cases Locale.ofText? locale with
    | none => exact hstore .en
    | some l => exact hstore l
  rw [(r.context_gives locale payload now).answerAt_eq, statesOnly_obj_iff]
  constructor
  · intro name hname
    rw [statedLocale?, Json.Members.get?_insert_self, Option.bind_some, (presentation_get? _).1,
      Locale.Store.presentation_locale] at hname
    cases hname
    exact hlocale
  · exact (hpayload.reconcile.insert htexts _).insert (statesOnly_presentation _) _

/-- Showing a page asks for texts in those locales only that the data and the templates name. -/
theorem page_upholds {J : Metrics → Prop} (hJ : Metrics.Allows (· ∈ names) J)
    (hlibrary : r.library.StatesOnly names) {context : Json}
    (hcontext : statesOnly names context = true) {t : Compiled}
    (ht : Body.statesOnly names t.body = true) :
    Journal.Upholds J (r.page t context) fun _ ↦ True := by
  have hr : Repertoire.StatesOnly names
      { root := context, store := r.store, templates := r.library.kept } := ⟨hcontext, hlibrary⟩
  exact Repertoire.render_upholds hJ hr ht

end Renderer

end Mailroom.Template
