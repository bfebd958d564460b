import Mailroom.Proofs.Journal
import Mailroom.Proofs.Json.Members
import Mailroom.Template.Render
import Mathlib.Data.Option.Basic

/-!
# Locales that are named in the data and in templates

A text is looked up in the locale that the presentation in force names, and the presentation is
found by its name: first in the scope of the tag, then in the data as a whole. So each object in the
data that has a member of that name may decide which locale is asked for. `statesOnly` says of a
value that no such object in it names a locale but some. It is passed on to all that is found in the
value, and from the members of an object to an object with other members, as long as none of them
is put in under the name of the presentation.

A template may hold such objects too, as literals, and it may give something under the name of the
presentation itself: as an argument of a part, or as the variable of a block. Of a template it is
asked that it does neither. Then the scopes and the values of arguments that there are while it is
shown name no locales but those that the data and its literals name.
-/

namespace Mailroom.Template

variable {names : List String} {v w : Json} {members : Json.Members} {key : String}

/-! ## Values -/

/-- The locale that an object names in its presentation, if it does. -/
def statedLocale? (members : Json.Members) : Option String :=
  ((members.get? presentationKey).bind (·.get? "locale")).bind Json.text?

mutual

/-- Whether the presentations in a value name no locales but some. The empty text names none. -/
def statesOnly (names : List String) : Json → Bool
  | .arr items => itemsStateOnly names items
  | .obj members =>
    (statedLocale? members).all (fun name ↦ name == "" || names.contains name) &&
      membersStateOnly names members
  | _ => true

@[inherit_doc statesOnly]
def itemsStateOnly (names : List String) : List Json → Bool
  | [] => true
  | v :: rest => statesOnly names v && itemsStateOnly names rest

@[inherit_doc statesOnly]
def membersStateOnly (names : List String) : List (String × Json) → Bool
  | [] => true
  | (_, v) :: rest => statesOnly names v && membersStateOnly names rest

end

/-- The members of an object state no locales but some, whatever stands in the presentation. -/
def MembersStateOnly (names : List String) (members : Json.Members) : Prop :=
  ∀ m ∈ members, statesOnly names m.2 = true

theorem itemsStateOnly_iff {items : List Json} :
    itemsStateOnly names items = true ↔ ∀ v ∈ items, statesOnly names v = true := by
  induction items with
  | nil => simp [itemsStateOnly]
  | cons v items ih => rw [itemsStateOnly, Bool.and_eq_true, ih, List.forall_mem_cons]

theorem membersStateOnly_iff :
    membersStateOnly names members = true ↔ MembersStateOnly names members := by
  unfold MembersStateOnly
  induction members with
  | nil => simp [membersStateOnly]
  | cons m members ih => rw [membersStateOnly, Bool.and_eq_true, ih, List.forall_mem_cons]

theorem statesOnly_obj_iff : statesOnly names (.obj members) = true ↔
    (∀ name, statedLocale? members = some name → name = "" ∨ name ∈ names) ∧
      MembersStateOnly names members := by
  rw [statesOnly, Bool.and_eq_true, membersStateOnly_iff, Option.all_eq_true]
  simp

theorem statesOnly_item {items : List Json} (h : statesOnly names (.arr items) = true)
    (hv : v ∈ items) : statesOnly names v = true := by
  rw [statesOnly, itemsStateOnly_iff] at h
  exact h v hv

theorem statesOnly_get? (h : statesOnly names v = true) (hget : v.get? key = some w) :
    statesOnly names w = true := by
  cases v with
  | obj members => exact (statesOnly_obj_iff.mp h).2 _ (mem_of_lookup hget)
  | _ => cases hget

theorem MembersStateOnly.insert (h : MembersStateOnly names members)
    (hv : statesOnly names v = true) (key : String) :
    MembersStateOnly names (members.insert key v) := by
  intro m hm
  rcases Json.Members.eq_or_mem_of_mem_insert hm with rfl | hm
  · exact hv
  · exact h m hm

/-- What is put in under another name than that of the presentation leaves what an object states. -/
theorem statesOnly_insert (h : statesOnly names (.obj members) = true)
    (hkey : key ≠ presentationKey) (hv : statesOnly names v = true) :
    statesOnly names (.obj (members.insert key v)) = true := by
  rw [statesOnly_obj_iff] at h ⊢
  refine ⟨fun name hname ↦ h.1 name ?_, h.2.insert hv key⟩
  rwa [statedLocale?, Json.Members.get?_insert, if_neg hkey.symm] at hname

theorem statesOnly_insertAll {named : List (String × Found)}
    (h : statesOnly names (.obj members) = true)
    (hnamed : ∀ n ∈ named, n.1 ≠ presentationKey ∧ statesOnly names n.2.value = true) :
    statesOnly names
      (.obj (named.foldl (fun ms n ↦ Json.Members.insert n.1 n.2.value ms) members)) = true := by
  induction named generalizing members with
  | nil => exact h
  | cons n named ih =>
    obtain ⟨hn, hnamed⟩ := List.forall_mem_cons.mp hnamed
    exact ih (statesOnly_insert h hn.1 hn.2) hnamed

/-! ## Scopes -/

theorem statesOnly_child {name : String} (h : statesOnly names v = true)
    (hchild : child name v = .ok (some w)) : statesOnly names w = true := by
  unfold child at hchild
  split at hchild
  · split at hchild
    · exact statesOnly_item h (List.mem_of_getElem? (Except.ok.inj hchild))
    · cases hchild
  · exact statesOnly_get? h (Except.ok.inj hchild)
  · cases hchild

theorem descend_append_singleton {path : List String} {name : String}
    (h : descend (path ++ [name]) v = .ok (some w)) :
    ∃ u, descend path v = .ok (some u) ∧ child name u = .ok (some w) := by
  induction path generalizing v with
  | nil =>
    refine ⟨v, rfl, ?_⟩
    rw [List.nil_append, descend] at h
    split at h
    · rename_i hchild
      cases h
      exact hchild
    · cases h
    · cases h
  | cons first path ih =>
    rw [List.cons_append, descend] at h
    split at h
    · rename_i hchild
      rw [descend, hchild]
      exact ih h
    · cases h
    · cases h

theorem statesOnly_descend {path : List String} (h : statesOnly names v = true)
    (hdescend : descend path v = .ok (some w)) : statesOnly names w = true := by
  induction path generalizing v with
  | nil =>
    cases hdescend
    exact h
  | cons name path ih =>
    rw [descend] at hdescend
    split at hdescend
    · rename_i hchild
      exact ih (statesOnly_child h hchild) hdescend
    · cases hdescend
    · cases hdescend

/-- The values of a scope name no locales but some, and nothing is bound to the name of the
presentation. -/
structure Scope.StatesOnly (names : List String) (s : Scope) : Prop where
  own : ∀ v, s.own = some v → statesOnly names v = true
  locals : ∀ p ∈ s.locals, statesOnly names p.2 = true
  names_ne : ∀ b ∈ s.names, b.1 ≠ presentationKey
  names_values : ∀ b ∈ s.names, ∀ v, b.2 = .value v → statesOnly names v = true

variable {root : Json} {scopes : List Scope} {found : Found} {path : List String}

theorem atPlace_value (h : atPlace root path = .ok found) :
    found.value = .null ∨ descend path root = .ok (some found.value) := by
  unfold atPlace at h
  cases hdescend : descend path root with
  | error e =>
    rw [hdescend] at h
    cases h
  | ok o =>
    rw [hdescend] at h
    cases o with
    | none =>
      cases h
      exact .inl rfl
    | some value =>
      cases h
      exact .inr rfl

theorem below_value (h : below v path = .ok found) :
    found.value = .null ∨ descend path v = .ok (some found.value) := by
  unfold below at h
  cases hdescend : descend path v with
  | error e =>
    rw [hdescend] at h
    cases h
  | ok o =>
    rw [hdescend] at h
    cases o with
    | none =>
      cases h
      exact .inl rfl
    | some value =>
      cases h
      exact .inr rfl

/-- What is found at the end of a path, if anything is, lies in a value. -/
theorem statesOnly_of_descend (hv : statesOnly names v = true)
    (h : w = .null ∨ descend path v = .ok (some w)) : statesOnly names w = true := by
  rcases h with rfl | hdescend
  · rfl
  · exact statesOnly_descend hv hdescend

/-- What is found from a scope, if anything is, lies in the data or in the value of the scope. -/
theorem exists_descend_of_fromScope (hroot : statesOnly names root = true) {scope : Option Scope}
    (hscope : ∀ s, scope = some s → s.StatesOnly names)
    (h : fromScope root scope path = .ok found) :
    ∃ v before, statesOnly names v = true ∧
      (found.value = .null ∨ descend (before ++ path) v = .ok (some found.value)) := by
  unfold fromScope at h
  split at h
  · exact ⟨root, [], hroot, atPlace_value h⟩
  · rename_i s
    split at h
    · rename_i v hown
      exact ⟨v, [], (hscope s rfl).own v hown, below_value h⟩
    · exact ⟨root, s.base, hroot, atPlace_value h⟩

/-- What a name is bound to is bound to it in one of the scopes. -/
theorem mem_of_binding? {name : String} {b : Binding × List String}
    (h : binding? name scopes = some b) : ∃ s ∈ scopes, (name, b.1) ∈ s.names := by
  obtain ⟨s, hs, hb⟩ := List.exists_of_findSome?_eq_some h
  obtain ⟨binding, hbinding, rfl⟩ := Option.map_eq_some_iff.mp hb
  exact ⟨s, hs, mem_of_lookup hbinding⟩

theorem statesOnly_follow (hroot : statesOnly names root = true)
    (hscopes : ∀ s ∈ scopes, s.StatesOnly names) {steps : List Step}
    (h : follow root scopes steps = .ok found) : statesOnly names found.value = true := by
  have hscope (scope : Option Scope) (further : List String)
      (hscope : ∀ s, scope = some s → s ∈ scopes)
      (hfrom : fromScope root scope further = .ok found) :
      statesOnly names found.value = true := by
    obtain ⟨v, before, hv, hvalue⟩ :=
      exists_descend_of_fromScope hroot (fun s hs ↦ hscopes s (hscope s hs)) hfrom
    exact statesOnly_of_descend hv hvalue
  unfold follow at h
  dsimp only at h
  split at h
  · rename_i value base further hbound
    split at hbound
    · obtain ⟨b, hb, heq⟩ := Option.map_eq_some_iff.mp hbound
      obtain ⟨s, hs, hmem⟩ := mem_of_binding? hb
      cases heq
      exact statesOnly_of_descend ((hscopes s hs).names_values _ hmem _ rfl) (below_value h)
    · cases hbound
  · exact statesOnly_of_descend hroot (atPlace_value h)
  · split at h
    · refine hscope _ _ (fun s hs ↦ ?_) h
      rcases (Option.orElse_eq_some _ _ _).mp hs with hs | ⟨-, hs⟩
      · exact List.mem_of_getElem? hs
      · exact List.mem_of_head? hs
    · split at h
      · exact statesOnly_of_descend hroot (atPlace_value h)
      · exact hscope _ _ (fun s hs ↦ List.mem_of_head? hs) h

/-- Whatever a path stands for names no locales but those that the data and the scopes name. -/
theorem statesOnly_find (hroot : statesOnly names root = true)
    (hscopes : ∀ s ∈ scopes, s.StatesOnly names) {p : Path}
    (h : find root scopes p = .ok found) : statesOnly names found.value = true := by
  unfold find at h
  split at h
  · split at h
    · rename_i hlocal
      cases h
      obtain ⟨s, hs, hv⟩ := Option.bind_eq_some_iff.mp hlocal
      exact (hscopes s (List.mem_of_getElem? hs)).locals _ (mem_of_lookup hv)
    · cases h
      rfl
  · exact statesOnly_follow hroot hscopes h

/-! ## The presentation in force -/

/-- What lies under the name of the presentation is what an object has there. -/
theorem exists_members_of_child (h : child presentationKey v = .ok (some w)) :
    ∃ members : Json.Members, v = .obj members ∧ members.get? presentationKey = some w := by
  have hnumber : Number.readUnsigned? 64 presentationKey.toList = none := by decide
  unfold child at h
  split at h
  · rw [hnumber] at h
    cases h
  · exact ⟨_, rfl, Except.ok.inj h⟩
  · cases h

/-- The presentation that is found from a scope is a member of an object. -/
theorem exists_members_of_find (hroot : statesOnly names root = true)
    (hscopes : ∀ s ∈ scopes, s.StatesOnly names)
    (h : find root scopes ⟨presentationKey, [.into presentationKey]⟩ = .ok found)
    (hobject : found.value.isObject = true) :
    ∃ members : Json.Members, statesOnly names (.obj members) = true ∧
      members.get? presentationKey = some found.value := by
  have hbound : binding? presentationKey scopes = none := by
    rw [Option.eq_none_iff_forall_ne_some]
    intro b hb
    obtain ⟨s, hs, hmem⟩ := mem_of_binding? hb
    exact (hscopes s hs).names_ne _ hmem rfl
  have hfind : find root scopes ⟨presentationKey, [.into presentationKey]⟩ =
      fromScope root scopes.head? [presentationKey] := by
    simp [find, Path.variable?, follow, countOutward, hbound, memberNames]
  rw [hfind] at h
  obtain ⟨v, before, hv, hnull | hdescend⟩ :=
    exists_descend_of_fromScope hroot (fun s hs ↦ hscopes s (List.mem_of_head? hs)) h
  · rw [hnull] at hobject
    cases hobject
  · obtain ⟨u, hu, hchild⟩ := descend_append_singleton hdescend
    obtain ⟨members, rfl, hget⟩ := exists_members_of_child hchild
    exact ⟨members, statesOnly_descend hv hu, hget⟩

/-- The data and the scopes of a setting name no locales but some. -/
structure Setting.StatesOnly (names : List String) (s : Setting) : Prop where
  root : statesOnly names s.root = true
  scopes : ∀ scope ∈ s.scopes, scope.StatesOnly names

/-- The presentation in force, if there is one, is a member of an object. -/
theorem Setting.StatesOnly.exists_members {s : Setting} (h : s.StatesOnly names) :
    s.presentation = .null ∨ ∃ members : Json.Members,
      Template.statesOnly names (.obj members) = true ∧
        members.get? presentationKey = some s.presentation := by
  have hdata (o : Option Json) (ho : (s.root.get? presentationKey).filter Json.isObject = o) :
      o.getD .null = .null ∨ ∃ members : Json.Members,
        Template.statesOnly names (.obj members) = true ∧
          members.get? presentationKey = some (o.getD .null) := by
    cases o with
    | none => exact .inl rfl
    | some v =>
      obtain ⟨hget, -⟩ := Option.filter_eq_some_iff.mp ho
      have hroot := h.root
      cases hdata : s.root with
      | obj members =>
        rw [hdata] at hget hroot
        exact .inr ⟨members, hroot, hget⟩
      | _ =>
        rw [hdata] at hget
        cases hget
  unfold Setting.presentation
  dsimp only
  split
  · rename_i found hfind
    split
    · rename_i hobject
      exact .inr (exists_members_of_find h.root h.scopes hfind hobject)
    · exact hdata _ rfl
  · exact hdata _ rfl

/-- The locale that a text is looked up in is one of those that the data and the scopes name. -/
theorem Setting.StatesOnly.mem_of_presented {s : Setting} (h : s.StatesOnly names) {name : String}
    (hname : s.presented "locale" = some name) : name ∈ names := by
  obtain ⟨hstated, hne⟩ := Option.filter_eq_some_iff.mp hname
  rcases h.exists_members with hnull | ⟨members, hmembers, hget⟩
  · rw [hnull] at hstated
    cases hstated
  · have hlocale : statedLocale? members = some name := by
      rw [statedLocale?, hget]
      exact hstated
    exact ((statesOnly_obj_iff.mp hmembers).1 name hlocale).resolve_left (by simpa using hne)

/-! ## Calls -/

/-- The arguments of a call name no locales but some, and none of them is given under the name of
the presentation. -/
structure Call.StatesOnly (names : List String) (c : Call) : Prop where
  args : ∀ a ∈ c.args, statesOnly names a.value = true
  named : ∀ a ∈ c.named, a.1 ≠ presentationKey ∧ statesOnly names a.2.value = true

namespace Call.StatesOnly

variable {c : Call}

theorem arg (h : c.StatesOnly names) (index : ℕ) : statesOnly names (c.arg index) = true := by
  unfold Call.arg
  cases hget : c.args[index]? with
  | none => rfl
  | some a => exact h.args a (List.mem_of_getElem? hget)

theorem require (h : c.StatesOnly names) {helper : String} {index : ℕ} {found : Found}
    (hfound : c.require helper index = .ok found) : statesOnly names found.value = true := by
  unfold Call.require at hfound
  split at hfound
  · rename_i hget
    cases hfound
    exact h.args _ (List.mem_of_getElem? hget)
  · cases hfound

theorem find? (h : c.StatesOnly names) (p : Json → Bool) :
    statesOnly names ((c.values.find? p).getD (.str "")) = true := by
  cases hfind : c.values.find? p with
  | none => rfl
  | some v =>
    obtain ⟨a, ha, rfl⟩ := List.mem_map.mp (List.mem_of_find?_eq_some hfind)
    exact h.args a ha

theorem lookedUp (h : c.StatesOnly names) {v : Json} (hv : lookedUp c = .ok v) :
    statesOnly names v = true := by
  obtain ⟨collection, hcollection, hv⟩ := bind_eq_ok.mp hv
  obtain ⟨key, -, hv⟩ := bind_eq_ok.mp hv
  cases hv
  have hall := h.require hcollection
  split
  · rename_i items i heq _
    rw [heq] at hall
    split
    · cases hget : items[i.toNat]? with
      | none => rfl
      | some v => exact statesOnly_item hall (List.mem_of_getElem? hget)
    · rfl
  · rename_i members k heq _
    rw [heq] at hall
    cases hget : Json.Members.get? members k with
    | none => rfl
    | some v => exact statesOnly_get? hall hget
  · rfl

end Call.StatesOnly

/-! ## Templates -/

mutual

/-- Whether the literals in an argument name no locales but some, and nothing in it is given under
the name of the presentation. -/
def Argument.statesOnly (names : List String) : Argument Json → Bool
  | .literal v => Template.statesOnly names v
  | .call _ given => Argument.givenStateOnly names given
  | _ => true

@[inherit_doc Argument.statesOnly]
def Argument.givenStateOnly (names : List String) : List (Option String × Argument Json) → Bool
  | [] => true
  | (key, a) :: rest =>
    key != some presentationKey && a.statesOnly names && Argument.givenStateOnly names rest

end

/-- Whether a line names no locales but some, and nothing in it has the name of the
presentation. -/
def Line.statesOnly (names : List String) (l : Line Json) : Bool :=
  l.callee.statesOnly names && Argument.givenStateOnly names l.given &&
    !l.names.contains presentationKey

mutual

/-- Whether the lines of an element, those in its bodies included, name no locales but some. -/
def Element.statesOnly (names : List String) : Element → Bool
  | .value line _ => line.statesOnly names
  | .block line body otherwise =>
    line.statesOnly names && Body.statesOnly names body && Body.otherwiseStatesOnly names otherwise
  | .decorator line body => line.statesOnly names && Body.otherwiseStatesOnly names body
  | .part line _ body => line.statesOnly names && Body.otherwiseStatesOnly names body
  | _ => true

/-- Whether the lines of a body name no locales but some. -/
def Body.statesOnly (names : List String) : List (Option Position × Element) → Bool
  | [] => true
  | (_, e) :: rest => e.statesOnly names && Body.statesOnly names rest

/-- Whether the lines of a body that may be missing name no locales but some. -/
def Body.otherwiseStatesOnly (names : List String) :
    Option (List (Option Position × Element)) → Bool
  | some body => Body.statesOnly names body
  | none => true

end

theorem Argument.givenStateOnly_iff {given : List (Option String × Argument Json)} :
    givenStateOnly names given = true ↔
      ∀ g ∈ given, g.1 ≠ some presentationKey ∧ g.2.statesOnly names = true := by
  induction given with
  | nil => simp [givenStateOnly]
  | cons g given ih =>
    rw [givenStateOnly, Bool.and_eq_true, Bool.and_eq_true, ih, List.forall_mem_cons, bne_iff_ne]

theorem Body.statesOnly_iff {body : Body} :
    Body.statesOnly names body = true ↔ ∀ e ∈ body, e.2.statesOnly names = true := by
  induction body with
  | nil => simp [statesOnly]
  | cons e body ih => rw [statesOnly, Bool.and_eq_true, ih, List.forall_mem_cons]

theorem Line.statesOnly_iff {l : Line Json} : l.statesOnly names = true ↔
    l.callee.statesOnly names = true ∧
      (∀ g ∈ l.given, g.1 ≠ some presentationKey ∧ g.2.statesOnly names = true) ∧
      presentationKey ∉ l.names := by
  rw [statesOnly, Bool.and_eq_true, Bool.and_eq_true, Argument.givenStateOnly_iff, and_assoc]
  simp

/-- What there is at hand for a rendering names no locales but some. -/
structure Repertoire.StatesOnly (names : List String) (r : Repertoire) : Prop where
  root : statesOnly names r.root = true
  templates : ∀ t ∈ r.templates, Body.statesOnly names t.2.body = true

/-- What a stage holds names no locales but some. -/
structure Stage.StatesOnly (names : List String) (s : Stage) : Prop where
  scopes : ∀ scope ∈ s.scopes, scope.StatesOnly names
  defined : ∀ d ∈ s.defined, Body.statesOnly names d.2 = true
  given : ∀ body ∈ s.given, Body.statesOnly names body = true

end Mailroom.Template
