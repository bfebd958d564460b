import Mailroom.Proofs.Template.Inclusion
import Mailroom.Proofs.Template.Kind
import Mailroom.Proofs.Template.Succeeding

/-!
# Templates that fit their data

Whether a template can be shown with all data of a kind is looked up in the template. Every path in
it must lead to something that has a kind, every helper must be given arguments for which it has an
answer, and every list that is gone through must be one. `fits` says so, tag by tag; it knows the
data as a whole and, inside of a list, the item that is shown. What it does not know, it refuses.

A body that fits is shown, and leaves the scopes as they were (`Repertoire.showBody_shows`). This is
by induction on the number of bodies one inside of the other, with one lemma for each sort of tag.
Parts that put in nothing themselves are shown first, and then the templates that put them in.
-/

namespace Mailroom.Template

open Journal (Gives)
open Rendering (Succeeds Tells write_tells writeValue_tells ofExcept ofAttempt)

/-! ## What fits -/

/-- The kind of what a path leads to. -/
def Path.kind? (root : Kind) (item : Option Kind) (p : Path) : Option Kind :=
  match p.steps with
  | [.locals, .into "index"] => item.map fun _ ↦ .whole (itemLimit - 2)
  | .root :: steps => root.along (memberNames steps)
  | [] => some (item.getD root)
  | .into name :: steps => (item.getD root).along (name :: memberNames steps)
  | _ => none

/-- What is given without a name. -/
def unnamed {α : Type} (given : List (Option String × α)) : List α :=
  given.filterMap fun g ↦ if g.1.isNone then some g.2 else none

mutual

/-- The kind of what an argument stands for. -/
def Argument.kind? (root : Kind) (item : Option Kind) : Argument Json → Option Kind
  | .word _ => some .any
  | .path p => p.kind? root item
  | .literal value => some (.ofLiteral value)
  | .call callee given =>
    (kinds? root item given).bind fun kinds ↦ Kind.ofAnswer callee.title (unnamed kinds)

/-- The kinds of arguments, all of which must have one. -/
def kinds? (root : Kind) (item : Option Kind) :
    List (Option String × Argument Json) → Option (List (Option String × Kind))
  | [] => some []
  | (key, a) :: rest => do return (key, ← a.kind? root item) :: (← kinds? root item rest)

end

theorem kinds?_cons {root : Kind} {item : Option Kind} {key : Option String} {a : Argument Json}
    {rest : List (Option String × Argument Json)} {kinds : List (Option String × Kind)}
    (h : kinds? root item ((key, a) :: rest) = some kinds) :
    ∃ k, a.kind? root item = some k ∧
      ∃ ks, kinds? root item rest = some ks ∧ kinds = (key, k) :: ks := by
  rw [kinds?] at h
  simp only [Option.bind_eq_bind, Option.bind_eq_some_iff, Option.pure_def, Option.some.injEq] at h
  obtain ⟨k, hk, ks, hks, rfl⟩ := h
  exact ⟨k, hk, ks, hks, rfl⟩

theorem kinds?_forall₂ {root : Kind} {item : Option Kind}
    {given : List (Option String × Argument Json)} {kinds : List (Option String × Kind)}
    (h : kinds? root item given = some kinds) :
    List.Forall₂ (fun g k ↦ g.1 = k.1 ∧ g.2.kind? root item = some k.2) given kinds := by
  induction given generalizing kinds with
  | nil =>
    rw [kinds?] at h
    cases h
    exact .nil
  | cons g rest ih =>
    obtain ⟨k, hk, ks, hks, rfl⟩ := kinds?_cons h
    exact .cons ⟨rfl, hk⟩ (ih hks)

theorem forall₂_unnamed {α β : Type} {R : α → β → Prop} {l : List (Option String × α)}
    {l' : List (Option String × β)} (h : List.Forall₂ (fun x y ↦ x.1 = y.1 ∧ R x.2 y.2) l l') :
    List.Forall₂ R (unnamed l) (unnamed l') := by
  induction h with
  | nil => exact .nil
  | @cons x y l l' hxy _ ih =>
    unfold unnamed at ih ⊢
    rw [List.filterMap_cons, List.filterMap_cons, ← hxy.1]
    cases x.1 with
    | none => exact .cons hxy.2 ih
    | some key => exact ih

/-- What stands in one of two lists has its like in the other one. -/
theorem exists_of_forall₂ {α β : Type} {R : α → β → Prop} {l : List α} {l' : List β}
    (h : List.Forall₂ R l l') {x : α} (hx : x ∈ l) : ∃ y, y ∈ l' ∧ R x y := by
  induction h with
  | nil => cases hx
  | cons hxy _ ih =>
    obtain rfl | hx := List.mem_cons.mp hx
    · exact ⟨_, List.mem_cons_self, hxy⟩
    · obtain ⟨y, hy, hR⟩ := ih hx
      exact ⟨y, List.mem_cons_of_mem _ hy, hR⟩

/-- Whether an argument is a plain name. -/
def Argument.isName : Argument Json → Bool
  | .word _ => true
  | .path _ => true
  | _ => false

namespace Line

/-- The kinds of the arguments without a name. -/
def kinds? (root : Kind) (item : Option Kind) (line : Line Json) : Option (List Kind) :=
  if line.callee.isName then (Template.kinds? root item line.given).map unnamed else none

theorem isName_of_kinds? {root : Kind} {item : Option Kind} {line : Line Json} {kinds : List Kind}
    (h : line.kinds? root item = some kinds) : line.callee.isName = true := by
  unfold kinds? at h
  split at h
  · assumption
  · cases h

/-- Whether a tag shows a value, or what a helper makes of some values. -/
def fitsValue (root : Kind) (item : Option Kind) (line : Line Json) : Bool :=
  if line.isBare && (helper? line.callee.title).isNone then
    line.callee.isName && (line.callee.kind? root item).isSome
  else ((line.kinds? root item).bind (Kind.ofAnswer line.callee.title)).isSome

/-- Whether a block chooses between two bodies that fit, or goes through a list. -/
def fitsBlock (root : Kind) (item : Option Kind) (sub : Option Kind → Body → Bool)
    (line : Line Json) (body : Body) (otherwise : Option Body) : Bool :=
  match line.kinds? root item, line.names with
  | some (k :: _), [] =>
    otherwise.all (sub item) &&
      match line.callee.title, k with
      | "if", _ => sub item body
      | "unless", _ => sub item body
      | "each", .list inner => sub (some inner) body
      | _, _ => false
  | _, _ => false

/-- Whether a tag puts in one of some parts, and adds nothing to the data but members of which
nothing is known. -/
def fitsPart (root : Kind) (parts : List String) (line : Line Json) : Bool :=
  match line.kinds? root none with
  | some [] => parts.contains line.callee.title && line.given.all fun g ↦ g.1.all root.leavesOpen
  | _ => false

end Line

/-- How deep the bodies of a part may be nested. -/
def partDepth : Nat := 8

/-- Whether an element fits the data, when at most `n` bodies can be nested inside of it and it is
known which of them fit. -/
def Element.fits (root : Kind) (parts : List String) (n : Nat) (sub : Option Kind → Body → Bool)
    (item : Option Kind) : Element → Bool
  | .text _ => true
  | .comment => true
  | .value line true => line.fitsValue root item
  | .block line body otherwise => line.fitsBlock root item sub body otherwise
  | .part line _ none => decide (partDepth ≤ n) && item.isNone && line.fitsPart root parts
  | _ => false

/-- Whether a body fits the data, with at most `n` bodies one inside of the other. -/
def fits (root : Kind) (parts : List String) : Nat → Option Kind → Body → Bool
  | 0, _, _ => false
  | n + 1, item, body => body.all fun e ↦ e.2.fits root parts n (fits root parts n) item

/-! ## Paths -/

/-- A value lies where it is said to lie. -/
def Found.Lies (root : Json) (f : Found) : Prop :=
  ∀ path, f.place = some path → descend path root = .ok (some f.value)

/-- A search ends with a value of a kind. -/
def Leads (root : Json) (k : Kind) (search : Except Fault Found) : Prop :=
  ∃ f, search = .ok f ∧ k.Holds f.value ∧ f.Lies root

/-- The value that paths begin at in a scope. -/
def Scope.Presents (root : Json) (s : Scope) (v : Json) : Prop :=
  match s.own with
  | some w => w = v
  | none => descend s.base root = .ok (some v)

/-- The scopes are those in which the item of a list is shown, or else all of the data. No scope has
names of its own. -/
structure Placed (root : Json) (kind : Kind) (item : Option Kind) (scopes : List Scope) : Prop where
  unnamed : ∀ s ∈ scopes, s.names = []
  presents : ∃ s v, scopes.head? = some s ∧ s.Presents root v ∧ (item.getD kind).Holds v
  counted : item.isSome = true → ∃ s i, scopes.head? = some s ∧ i ≤ itemLimit - 2 ∧
    s.locals.lookup "index" = some (Json.ofNat i)

section

variable {root : Json} {kind k k' : Kind} {item : Option Kind} {scopes : List Scope}

/-- A value that lies nowhere is not said to lie anywhere. -/
theorem Found.Lies.of_nowhere {f : Found} (h : f.place = none) : f.Lies root := by
  intro path hpath
  rw [h] at hpath
  cases hpath

theorem below_leads {v : Json} {names : List String} (h : k.Holds v)
    (hk : k.along names = some k') : Leads root k' (below v names) := by
  obtain ⟨o, ho, hv⟩ := h.descend hk
  cases o with
  | some w =>
    refine ⟨.derived w, ?_, hv, .of_nowhere rfl⟩
    rw [below, ho]
    rfl
  | none =>
    refine ⟨.nothing, ?_, hv, .of_nowhere rfl⟩
    rw [below, ho]
    rfl

theorem atPlace_leads {base names : List String} {v : Json}
    (hbase : descend base root = .ok (some v)) (h : k.Holds v) (hk : k.along names = some k') :
    Leads root k' (atPlace root (base ++ names)) := by
  obtain ⟨o, ho, hv⟩ := h.descend hk
  rw [← descend_append hbase] at ho
  cases o with
  | some w =>
    refine ⟨{ value := w, place := some (base ++ names) }, ?_, hv, ?_⟩
    · rw [atPlace, ho]
      rfl
    · rintro _ ⟨⟩
      exact ho
  | none =>
    refine ⟨.nothing, ?_, hv, .of_nowhere rfl⟩
    rw [atPlace, ho]
    rfl

theorem fromScope_leads {s : Scope} {v : Json} {names : List String} (hs : s.Presents root v)
    (h : k.Holds v) (hk : k.along names = some k') :
    Leads root k' (fromScope root (some s) names) := by
  unfold Scope.Presents at hs
  unfold fromScope
  dsimp only
  cases hown : s.own with
  | some w =>
    rw [hown] at hs
    dsimp only at hs ⊢
    rw [hs]
    exact below_leads h hk
  | none =>
    rw [hown] at hs
    exact atPlace_leads hs h hk

theorem Placed.binding?_eq_none (h : Placed root kind item scopes) (name : String) :
    binding? name scopes = none := by
  refine List.findSome?_eq_none_iff.mpr fun s hs ↦ ?_
  rw [h.unnamed s hs]
  rfl

/-- The scope of the item of a list, inside of other scopes. -/
theorem Placed.inner {inner : Kind} {s : Scope} {v : Json} (h : Placed root kind item scopes)
    (hnames : s.names = []) (hs : s.Presents root v) (hv : inner.Holds v)
    (hindex : ∃ i ≤ itemLimit - 2, s.locals.lookup "index" = some (Json.ofNat i)) :
    Placed root kind (some inner) (s :: scopes) where
  unnamed := List.forall_mem_cons.mpr ⟨hnames, h.unnamed⟩
  presents := ⟨s, v, rfl, hs, hv⟩
  counted := fun _ ↦ hindex.elim fun i hi ↦ ⟨s, i, rfl, hi⟩

theorem scopeOf_presents {place : Option (List String)} {v : Json} {s : Scope}
    (hbase : s.base = (scopeOf place v).base) (hown : s.own = (scopeOf place v).own)
    (h : ∀ path, place = some path → descend path root = .ok (some v)) : s.Presents root v := by
  unfold Scope.Presents
  rw [hbase, hown]
  cases place with
  | none => rfl
  | some path => exact h path rfl

/-- A path whose end has a kind can be followed. -/
theorem find_leads (hroot : kind.Holds root) (h : Placed root kind item scopes) {p : Path}
    (hp : p.kind? kind item = some k) : Leads root k (find root scopes p) := by
  obtain ⟨source, steps⟩ := p
  obtain ⟨s, v, hhead, hs, hv⟩ := h.presents
  unfold Path.kind? at hp
  dsimp only at hp
  split at hp
  case h_1 =>
    cases item with
    | none => cases hp
    | some inner =>
      cases hp
      obtain ⟨s', i, hhead', hi, hlookup⟩ := h.counted rfl
      have hfound : (scopes[0]?).bind (fun s ↦ s.locals.lookup "index") =
          some (Json.ofNat i) := by
        rw [← List.head?_eq_getElem?, hhead', Option.bind_some, hlookup]
      refine ⟨.derived (Json.ofNat i), ?_, ⟨i, hi, rfl⟩, .of_nowhere rfl⟩
      simp only [find, Path.variable?, countOutward, hfound]
  case h_2 steps =>
    have hbase : descend [] root = .ok (some root) := rfl
    exact atPlace_leads hbase hroot hp
  case h_3 =>
    cases hp
    change Leads root _ (fromScope root scopes.head? [])
    rw [hhead]
    exact fromScope_leads hs hv rfl
  case h_4 name steps =>
    have hfind : find root scopes ⟨source, .into name :: steps⟩ =
        fromScope root scopes.head? (name :: memberNames steps) := by
      change follow root scopes (.into name :: steps) = _
      simp only [follow, countOutward, h.binding?_eq_none name, Option.map_none]
      rfl
    rw [hfind, hhead]
    exact fromScope_leads hs hv hp
  case h_5 => cases hp

end

/-! ## Arguments -/

section

variable {r : Repertoire} {kind : Kind} {item : Option Kind} {now : Int} {s : Stage}

theorem setting_tells : Tells now s r.setting fun _ ↦ True :=
  Tells.get.bind fun _ _ ↦ Tells.pure trivial

/-- An argument stands for a value of its kind. -/
theorem evaluate_tells (hroot : kind.Holds r.root) (h : Placed r.root kind item s.scopes)
    {a : Argument Json} {k : Kind} (ha : a.kind? kind item = some k) :
    Tells now s (r.evaluate a) fun f ↦ k.Holds f.value ∧ f.Lies r.root := by
  induction a using Repertoire.evaluate.induct
    (motive_2 := fun wanted given ↦ ∀ kinds, kinds? kind item given = some kinds →
      Tells now s (r.evaluateSome wanted given)
        (List.Forall₂ (fun k f ↦ k.Holds f.2.value)
          (kinds.filterMap fun k ↦ if wanted k.1 then some k.2 else none)))
    generalizing k with
  | case1 name =>
    rw [Argument.kind?] at ha
    cases ha
    rw [Repertoire.evaluate]
    exact .pure ⟨trivial, .of_nowhere rfl⟩
  | case2 p =>
    rw [Argument.kind?] at ha
    obtain ⟨f, hf, hk, hlies⟩ := find_leads hroot h ha
    rw [Repertoire.evaluate]
    refine Tells.get.bind ?_
    rintro _ rfl
    refine (Tells.ofExcept hf).bind ?_
    rintro _ rfl
    exact Tells.pure ⟨hk, hlies⟩
  | case3 value =>
    rw [Argument.kind?] at ha
    cases ha
    rw [Repertoire.evaluate]
    exact .pure ⟨Kind.holds_ofLiteral value, .of_nowhere rfl⟩
  | case4 callee given positional named =>
    rw [Argument.kind?] at ha
    obtain ⟨kinds, hkinds, hanswer⟩ := Option.bind_eq_some_iff.mp ha
    obtain ⟨f, hhelper, hf⟩ := Kind.ofAnswer_answers hanswer
    rw [Repertoire.evaluate]
    refine (positional kinds hkinds).bind fun args hargs ↦ (named kinds hkinds).bind fun ns _ ↦ ?_
    dsimp only
    rw [hhelper]
    have hall : Kind.AllHold (unnamed kinds) (args.map Prod.snd) :=
      List.forall₂_map_right_iff.mpr hargs
    refine setting_tells.bind fun setting _ ↦ ?_
    exact (Tells.ofAttempt (hf setting _ hall now)).bind fun v hv ↦
      Tells.pure ⟨hv, .of_nowhere rfl⟩
  | case5 wanted kinds hkinds =>
    rw [kinds?] at hkinds
    cases hkinds
    rw [Repertoire.evaluateSome]
    exact .pure .nil
  | case6 wanted key argument rest hw ih hrest kinds hkinds =>
    obtain ⟨k, hk, ks, hks, rfl⟩ := kinds?_cons hkinds
    rw [Repertoire.evaluateSome, if_pos hw]
    simp only [List.filterMap_cons, if_pos hw]
    refine (ih hk).bind fun f hf ↦ (hrest ks hks).bind fun fs hfs ↦ ?_
    exact Tells.pure (.cons hf.1 hfs)
  | case7 wanted key argument rest hw hrest kinds hkinds =>
    obtain ⟨k, hk, ks, hks, rfl⟩ := kinds?_cons hkinds
    rw [Repertoire.evaluateSome, if_neg hw]
    simp only [List.filterMap_cons, if_neg hw]
    exact hrest ks hks

theorem calleeName_tells {a : Argument Json} (ha : a.isName = true) :
    Tells now s (r.calleeName a) (· = a.title) := by
  cases a with
  | word name => exact Tells.pure rfl
  | path p => exact Tells.pure rfl
  | literal value => cases ha
  | call callee given => cases ha

/-- What is given by name to a call is given by name in the tag. -/
theorem mem_namedArguments {α : Type} {given : List (Option String × α)} {a : String × α}
    (h : a ∈ namedArguments given) : (some a.1, a.2) ∈ given := by
  have hfold : ∀ l kept : List (String × α), ∀ a ∈ l.foldl (fun kept a ↦
      if kept.any (·.1 == a.1) then kept else a :: kept) kept, a ∈ l ∨ a ∈ kept := by
    intro l
    induction l with
    | nil => exact fun kept a ha ↦ .inr ha
    | cons b l ih =>
      intro kept a ha
      rw [List.foldl_cons] at ha
      obtain ha | ha := ih _ a ha
      · exact .inl (List.mem_cons_of_mem b ha)
      · split at ha
        · exact .inr ha
        · obtain rfl | ha := List.mem_cons.mp ha
          · exact .inl List.mem_cons_self
          · exact .inr ha
  unfold namedArguments at h
  obtain h | h := hfold _ _ a (List.mem_mergeSort.mp h)
  · obtain ⟨⟨key, b⟩, hb, hkey⟩ := List.mem_filterMap.mp (List.mem_reverse.mp h)
    obtain ⟨k, rfl, rfl⟩ := Option.map_eq_some_iff.mp hkey
    exact hb
  · cases h

/-- The call that a tag makes has arguments of the kinds that are known. -/
theorem call_tells (hroot : kind.Holds r.root) (h : Placed r.root kind item s.scopes)
    {line : Line Json} {kinds : List Kind} (hkinds : line.kinds? kind item = some kinds) :
    Tells now s (r.call line) fun c ↦ c.name = line.callee.title ∧
      List.Forall₂ (fun k f ↦ k.Holds f.value ∧ f.Lies r.root) kinds c.args ∧
      ∀ n ∈ c.named, ∃ g ∈ line.given, g.1 = some n.1 := by
  unfold Line.kinds? at hkinds
  split at hkinds
  · rename_i hname
    obtain ⟨all, hall, rfl⟩ := Option.map_eq_some_iff.mp hkinds
    have hgiven := kinds?_forall₂ hall
    unfold Repertoire.call
    refine (calleeName_tells hname).bind ?_
    rintro _ rfl
    have hpositional : List.Forall₂ (fun a k ↦ a.kind? kind item = some k) line.positional
        (unnamed all) := forall₂_unnamed (R := fun a k ↦ Argument.kind? kind item a = some k) hgiven
    have hnamed : List.Forall₂ (fun a b ↦ a = b ∧ (some a.1, a.2) ∈ line.given)
        (namedArguments line.given) (namedArguments line.given) :=
      List.forall₂_same.mpr fun a ha ↦ ⟨rfl, mem_namedArguments ha⟩
    refine (Tells.mapM hpositional fun a k hk ↦ evaluate_tells hroot h hk).bind fun args hargs ↦ ?_
    refine (Tells.mapM (R := fun a (n : String × Found) ↦ (some n.1, a.2) ∈ line.given)
      hnamed ?_).bind fun named hnamed ↦ ?_
    · rintro a _ ⟨rfl, ha⟩
      obtain ⟨k, -, -, hk⟩ := exists_of_forall₂ hgiven ha
      exact (evaluate_tells hroot h hk).bind fun f _ ↦ Tells.pure ha
    · refine Tells.pure ⟨rfl, hargs, fun n hn ↦ ?_⟩
      obtain ⟨a, -, ha⟩ := exists_of_forall₂ hnamed.flip hn
      exact ⟨_, ha, rfl⟩
  · cases hkinds

end

/-! ## Bodies -/

/-- The stage has some scopes, and no part has been defined on the way. Where there are parts to be
put in, no part is being shown. -/
structure Stage.Ready (parts : List String) (scopes : List Scope) (s : Stage) : Prop where
  scopes_eq : s.scopes = scopes
  defined_eq : s.defined = []
  current_eq : parts = [] ∨ s.current = none

namespace Repertoire

/-- Something is shown wherever the data, or the item of a list, is of its kind. -/
def Shows (r : Repertoire) (root : Kind) (parts : List String) (now : Int) (item : Option Kind)
    (act : Rendering String) : Prop :=
  ∀ scopes, Placed r.root root item scopes → ∀ s : Stage, s.Ready parts scopes →
    Succeeds now s act fun _ s' ↦ s'.Ready parts scopes

section

variable {r : Repertoire} {root : Kind} {parts : List String} {now : Int} {item : Option Kind}

theorem Shows.ofTells {act : Rendering String}
    (h : ∀ s : Stage, Placed r.root root item s.scopes → Tells now s act fun _ ↦ True) :
    r.Shows root parts now item act := by
  intro scopes hplaced s hs
  refine Succeeds.weaken (h s (hs.scopes_eq ▸ hplaced)) ?_
  rintro _ _ ⟨rfl, -⟩
  exact hs

theorem Shows.bind {α : Type} {act : Rendering α} {f : α → Rendering String} {P : α → Prop}
    (h : ∀ s : Stage, Placed r.root root item s.scopes → Tells now s act P)
    (hf : ∀ x, P x → r.Shows root parts now item (f x)) :
    r.Shows root parts now item (act >>= f) := by
  intro scopes hplaced s hs
  exact (h s (hs.scopes_eq ▸ hplaced)).bind fun x hx ↦ hf x hx scopes hplaced s hs

theorem Shows.adapt {act : Rendering String} (note : RenderError → RenderError)
    (h : r.Shows root parts now item act) :
    r.Shows root parts now item fun s ↦ ExceptT.adapt note (act s) :=
  fun scopes hplaced s hs ↦ (h scopes hplaced s hs).adapt note

/-! ### Values -/

variable (hroot : root.Holds r.root)

include hroot

/-- A tag with a helper that has an answer shows it. -/
theorem showCall_value_shows (sub : Show) {line : Line Json} {kinds : List Kind} {k : Kind}
    (hkinds : line.kinds? root item = some kinds)
    (hanswer : Kind.ofAnswer line.callee.title kinds = some k) :
    r.Shows root parts now item (r.showCall sub line none none) := by
  obtain ⟨f, hhelper, hf⟩ := Kind.ofAnswer_answers hanswer
  refine .ofTells fun s hs ↦ (call_tells hroot hs hkinds).bind ?_
  rintro c ⟨hname, hargs, -⟩
  rw [hname, hhelper]
  have hall : Kind.AllHold kinds c.args := hargs.imp fun _ _ ↦ And.left
  refine setting_tells.bind fun setting _ ↦ ?_
  exact (Tells.ofAttempt (hf setting c hall now)).bind fun v _ ↦ writeValue_tells v

theorem showValue_shows (sub : Show) {line : Line Json} (h : line.fitsValue root item = true) :
    r.Shows root parts now item (r.showValue sub line) := by
  unfold Line.fitsValue at h
  split at h
  · rename_i hbare
    obtain ⟨hbare, hhelper⟩ := Bool.and_eq_true_iff.mp hbare
    obtain ⟨hname, hkind⟩ := Bool.and_eq_true_iff.mp h
    obtain ⟨k, hk⟩ := Option.isSome_iff_exists.mp hkind
    unfold showValue
    rw [if_pos hbare]
    refine .ofTells fun s hs ↦ (calleeName_tells hname).bind ?_
    rintro _ rfl
    rw [Option.isNone_iff_eq_none.mp hhelper]
    refine (evaluate_tells hroot hs hk).bind fun f _ ↦ ?_
    split
    · exact Tells.pure trivial
    · exact writeValue_tells _
  · obtain ⟨k, hk⟩ := Option.isSome_iff_exists.mp h
    obtain ⟨kinds, hkinds, hanswer⟩ := Option.bind_eq_some_iff.mp hk
    have hcall : r.Shows root parts now item (r.showCall sub line none none) :=
      showCall_value_shows hroot sub hkinds hanswer
    obtain ⟨f, hhelper, -⟩ := Kind.ofAnswer_answers hanswer
    unfold showValue
    split
    · refine .bind (fun s _ ↦ calleeName_tells (Line.isName_of_kinds? hkinds)) ?_
      rintro _ rfl
      rw [hhelper]
      exact hcall
    · exact hcall

/-! ### Blocks -/

omit hroot in
theorem optional_shows {sub : Show} {otherwise : Option Body}
    (h : ∀ b, otherwise = some b → r.Shows root parts now item (sub none b)) :
    r.Shows root parts now item (sub.optional otherwise) := by
  cases otherwise with
  | none => exact .ofTells fun _ _ ↦ Tells.pure trivial
  | some b => exact h b rfl

omit hroot in
theorem inScope_shows {scope : Scope} {inner : Kind} {act : Rendering String}
    (hact : r.Shows root parts now (some inner) act) {scopes : List Scope} {s : Stage}
    (hs : s.Ready parts scopes) (h : Placed r.root root (some inner) (scope :: scopes)) :
    Succeeds now s (inScope scope act) fun _ s' ↦ s'.Ready parts scopes := by
  have hinner : Stage.Ready parts (scope :: scopes) { s with scopes := scope :: s.scopes } :=
    ⟨congrArg _ hs.scopes_eq, hs.defined_eq, hs.current_eq⟩
  exact Succeeds.inScope ((hact _ h _ hinner).weaken fun _ s' h ↦
    ⟨hs.scopes_eq, h.defined_eq, h.current_eq⟩)

omit hroot in
/-- The items of a list are shown, wherever the list lies. -/
theorem eachItem_shows {sub : Show} {line : Line Json} (hnames : line.names = [])
    {place : Option (List String)} {items : List Json} {inner : Kind} {body : Body}
    (hsub : r.Shows root parts now (some inner) (sub none body))
    (hplace : ∀ path, place = some path → descend path r.root = .ok (some (.arr items)))
    (hlimit : items.length < itemLimit) (hitems : ∀ v ∈ items, inner.Holds v) :
    r.Shows root parts now item (eachItem sub line place body "index"
      (items.mapIdx fun i v ↦ (String.ofList (Number.natText i), Json.ofNat i, v))) := by
  intro scopes hplaced s hs
  refine (Succeeds.mapIdxM (I := Stage.Ready parts scopes) hs ?_).bind fun _ _ h ↦ .pure h
  rintro i ⟨key, keyValue, v⟩ hi s hs
  rw [List.getElem?_mapIdx, Option.map_eq_some_iff] at hi
  obtain ⟨w, hw, heq⟩ := hi
  cases heq
  rw [hnames]
  have hv : inner.Holds v := hitems v (List.mem_of_getElem? hw)
  refine inScope_shows hsub hs (hplaced.inner rfl ?_ hv ?_)
  · refine scopeOf_presents rfl rfl fun path hpath ↦ ?_
    obtain ⟨outer, houter, rfl⟩ := Option.map_eq_some_iff.mp hpath
    exact descend_item (hplace outer houter) hw hlimit
  · refine ⟨i, ?_, rfl⟩
    have hlt : i < items.length := (List.getElem?_eq_some_iff.mp hw).1
    unfold itemLimit at hlimit ⊢
    omega

omit hroot in
theorem showEach_shows {sub : Show} {line : Line Json} (hnames : line.names = []) {c : Call}
    {f : Found} {rest : List Found} (hargs : c.args = f :: rest) {inner : Kind}
    (hf : (Kind.list inner).Holds f.value) (hlies : f.Lies r.root) {body : Body}
    {otherwise : Option Body} (hbody : r.Shows root parts now (some inner) (sub none body))
    (hotherwise : ∀ b, otherwise = some b → r.Shows root parts now item (sub none b)) :
    r.Shows root parts now item (showEach sub line c body otherwise) := by
  have hrequire : c.require "each" 0 = .ok f := by rw [Call.require, hargs]; rfl
  unfold showEach
  refine .bind (fun s _ ↦ Tells.ofExcept hrequire) ?_
  rintro f rfl
  obtain ⟨value, place, missing, source⟩ := f
  dsimp only
  obtain rfl | ⟨items, rfl, hlimit, hitems⟩ := hf
  · exact optional_shows hotherwise
  · cases items with
    | nil => exact optional_shows hotherwise
    | cons v items => exact eachItem_shows hnames hbody hlies hlimit hitems

omit hroot in
/-- What a block chooses by is there. -/
theorem condition_ok {c : Call} {f : Found} {rest : List Found} (hargs : c.args = f :: rest) :
    ∃ b, condition c = .ok b := by
  have hrequire : c.require "if" 0 = .ok f := by rw [Call.require, hargs]; rfl
  rw [condition, hrequire]
  exact ⟨_, rfl⟩

omit hroot in
/-- A block that chooses between two bodies shows one of them. -/
theorem choice_shows {sub : Show} {o : Except Fault Bool} {b : Bool} (ho : o = .ok b) {body : Body}
    {otherwise : Option Body} (hbody : r.Shows root parts now item (sub none body))
    (hotherwise : ∀ b, otherwise = some b → r.Shows root parts now item (sub none b)) :
    r.Shows root parts now item (do
      if ← ofExcept o then sub none body else sub.optional otherwise) := by
  refine .bind (fun s _ ↦ Tells.ofExcept ho) ?_
  rintro _ rfl
  split
  · exact hbody
  · exact optional_shows hotherwise

theorem showBlock_shows {fitsSub : Option Kind → Body → Bool} {sub : Show}
    (hsub : ∀ item body, fitsSub item body = true → r.Shows root parts now item (sub none body))
    {line : Line Json} {body : Body} {otherwise : Option Body}
    (h : line.fitsBlock root item fitsSub body otherwise = true) :
    r.Shows root parts now item (r.showCall sub line (some body) otherwise) := by
  unfold Line.fitsBlock at h
  split at h
  · rename_i k kinds hkinds hnames
    obtain ⟨hotherwise, hbody⟩ := Bool.and_eq_true_iff.mp h
    replace hotherwise : ∀ b, otherwise = some b → r.Shows root parts now item (sub none b) := by
      rintro b rfl
      exact hsub item b hotherwise
    refine .bind (fun s hs ↦ call_tells hroot hs hkinds) ?_
    rintro c ⟨hname, hargs, -⟩
    generalize hc : c.args = args at hargs
    obtain _ | ⟨⟨hf, hlies⟩, -⟩ := hargs
    obtain ⟨b, hb⟩ := condition_ok hc
    rw [hname]
    split at hbody
    · rename_i htitle
      rw [htitle]
      exact .bind (fun _ _ ↦ setting_tells) fun _ _ ↦ choice_shows hb (hsub _ _ hbody) hotherwise
    · rename_i htitle
      rw [htitle]
      have hnot : (condition c).map not = .ok !b := by rw [hb]; rfl
      exact .bind (fun _ _ ↦ setting_tells) fun _ _ ↦ choice_shows hnot (hsub _ _ hbody) hotherwise
    · rename_i inner htitle
      rw [htitle]
      exact .bind (fun _ _ ↦ setting_tells) fun _ _ ↦
        showEach_shows hnames hc hf hlies (hsub _ _ hbody) hotherwise
    · cases hbody
  · cases h

/-! ### Parts -/

/-- A part that puts in nothing is there, and is shown with all data of a kind. -/
def Offers (r : Repertoire) (root : Kind) (now : Int) (name : String) : Prop :=
  name ≠ givenBody ∧ ∃ t, r.templates.lookup name = some t ∧
    ∀ n, partDepth ≤ n → r.Shows root [] now none (r.showBody n t.name t.body)

omit hroot in
/-- The data with some more members, of which nothing is known, is of the same kind. -/
theorem partScopes_placed {c : Call} {scopes : List Scope} (h : Placed r.root root none scopes)
    (hargs : c.args = []) (hnamed : ∀ n ∈ c.named, root.leavesOpen n.1 = true) :
    ∃ scopes', r.partScopes c scopes = .ok scopes' ∧ Placed r.root root none scopes' := by
  unfold partScopes
  rw [hargs]
  dsimp only [List.head?_nil, Option.bind_none, Option.map_none]
  split
  · exact ⟨scopes, rfl, h⟩
  · rename_i hempty
    obtain ⟨s, v, hhead, hs, hv⟩ := h.presents
    obtain ⟨outer, rfl⟩ := List.head?_eq_some_iff.mp hhead
    have hleads : Leads r.root root (follow r.root [s] []) := fromScope_leads (k := root) hs hv rfl
    obtain ⟨f, hfollow, hvalue, -⟩ := hleads
    have hmerged : root.Holds (.obj (c.named.foldl
        (fun ms n ↦ Json.Members.insert n.1 n.2.value ms) (f.value.members?.getD []))) := by
      obtain ⟨n, hn⟩ := List.exists_mem_of_ne_nil c.named fun h ↦ hempty (by rw [h]; rfl)
      obtain ⟨ms, hms⟩ := hvalue.isObject (hnamed n hn)
      rw [hms] at hvalue ⊢
      exact hvalue.insertAll hnamed
    refine ⟨_, by rw [List.headD_cons, hfollow]; rfl, ?_, ?_, nofun⟩
    · rintro s' hs'
      cases List.mem_singleton.mp hs'
      exact h.unnamed s List.mem_cons_self
    · exact ⟨_, _, rfl, rfl, hmerged⟩

theorem showPart_shows {n : Nat} (hn : partDepth ≤ n)
    (hparts : ∀ name ∈ parts, r.Offers root now name) {line : Line Json}
    (h : line.fitsPart root parts = true) (indent : Option String) :
    r.Shows root parts now none (r.showPart (r.showBody n) line indent none) := by
  unfold Line.fitsPart at h
  split at h
  · rename_i hkinds
    obtain ⟨hpart, hgiven⟩ := Bool.and_eq_true_iff.mp h
    have hmem : line.callee.title ∈ parts := List.contains_iff_mem.mp hpart
    refine .bind (fun s hs ↦ call_tells hroot hs hkinds) ?_
    rintro c ⟨hname, hargs, hnamed⟩
    replace hargs : c.args = [] := List.forall₂_nil_left_iff.mp hargs
    replace hnamed : ∀ n ∈ c.named, root.leavesOpen n.1 = true := by
      intro n hn
      obtain ⟨g, hg, hkey⟩ := hnamed n hn
      have hopen := List.all_eq_true.mp hgiven g hg
      rw [hkey] at hopen
      exact hopen
    rw [← hname] at hmem
    obtain ⟨hother, t, hlookup, hshows⟩ := hparts c.name hmem
    intro scopes hplaced s hs
    obtain ⟨scopes', hscopes, hplaced'⟩ := partScopes_placed (hs.scopes_eq ▸ hplaced) hargs hnamed
    have hpart : r.part? s c.name none = some t := by
      rw [part?, if_neg hother, hs.defined_eq, hlookup]
      rfl
    have hcurrent : s.current = none := hs.current_eq.resolve_left (List.ne_nil_of_mem hmem)
    rw [Option.getD_none, decorateAll]
    refine (Tells.pure (P := fun _ ↦ True) trivial).bind fun _ _ ↦ Tells.get.bind ?_
    rintro s rfl
    rw [if_neg (by simp [hcurrent]), hpart]
    refine (Tells.ofExcept hscopes).bind ?_
    rintro scopes' rfl
    refine (Succeeds.set (P := fun _ s' ↦ s'.Ready [] scopes') ?_).bind fun _ s' hs' ↦ ?_
    · exact ⟨rfl, hs.defined_eq, .inl rfl⟩
    · exact (hshows n hn scopes' hplaced' s' hs').bind fun text _ _ ↦
        (Succeeds.set hs).bind fun _ _ hs ↦ Succeeds.pure hs
  · cases h

/-! ### Whole templates -/

theorem showElement_shows {fitsSub : Option Kind → Body → Bool} {n m : Nat} (hnm : n ≤ m)
    (hsub : ∀ item body, fitsSub item body = true →
      r.Shows root parts now item (r.showBody m none body))
    (hparts : ∀ name ∈ parts, r.Offers root now name) {e : Element}
    (h : e.fits root parts n fitsSub item = true) :
    r.Shows root parts now item (r.showElement (r.showBody m) e) := by
  cases e with
  | text text => exact .ofTells fun _ _ ↦ write_tells text
  | comment => exact .ofTells fun _ _ ↦ Tells.pure trivial
  | value line escaped =>
    cases escaped with
    | true => exact showValue_shows hroot _ h
    | false => cases h
  | block line body otherwise => exact showBlock_shows hroot hsub h
  | decorator line body => cases h
  | part line indent body =>
    cases body with
    | some body => cases h
    | none =>
      simp only [Element.fits, Bool.and_eq_true, decide_eq_true_eq] at h
      obtain ⟨⟨hdepth, hitem⟩, hline⟩ := h
      cases Option.isNone_iff_eq_none.mp hitem
      exact showPart_shows hroot (Nat.le_trans hdepth hnm) hparts hline indent

/-- A body that fits the data is shown, however many more bodies may be nested. -/
theorem showBody_shows (hparts : ∀ name ∈ parts, r.Offers root now name) {n m : Nat} (hnm : n ≤ m)
    {name : Option String} (hname : parts = [] ∨ name = none) {body : Body}
    (h : fits root parts n item body = true) :
    r.Shows root parts now item (r.showBody m name body) := by
  induction n generalizing m name item body with
  | zero => cases h
  | succ n ih =>
    obtain ⟨m, rfl⟩ := Nat.exists_eq_add_of_le' (Nat.le_trans (Nat.le_add_left 1 n) hnm)
    have hnm : n ≤ m := Nat.le_of_succ_le_succ hnm
    intro scopes hplaced s hs
    rw [showBody]
    refine (Succeeds.modify (P := fun _ s' ↦ s'.Ready parts scopes) ?_).bind fun _ s hs ↦ ?_
    · exact ⟨hs.scopes_eq, hs.defined_eq, hname⟩
    · refine (Succeeds.mapM (I := Stage.Ready parts scopes) hs ?_).bind fun _ _ hs ↦
        Succeeds.pure hs
      rintro ⟨position, e⟩ he s hs
      have hfits := List.all_eq_true.mp h _ he
      have hshows := showElement_shows hroot hnm (fun _ _ h ↦ ih hnm (.inr rfl) h) hparts hfits
      exact ((hshows.adapt (RenderError.locate position)).adapt (RenderError.inTemplate name))
        scopes hplaced s hs

/-- A part that fits the data, and puts in nothing, is one to be put in. -/
theorem offers_of_fits {name : String} (hname : name ≠ givenBody) {t : Compiled}
    (hlookup : r.templates.lookup name = some t) (h : fits root [] partDepth none t.body = true) :
    r.Offers root now name :=
  ⟨hname, t, hlookup, fun _ hn ↦ showBody_shows hroot (List.forall_mem_nil _) hn (.inl rfl) h⟩

/-- A template that fits the data is shown. -/
theorem render_succeeds (hparts : ∀ name ∈ parts, r.Offers root now name) {n : Nat}
    (hn : n ≤ nestingLimit) {t : Compiled} (hname : t.name = none)
    (h : fits root parts n none t.body = true) :
    Gives now (r.render t).run fun o ↦ ∃ page, o = .ok page := by
  have hplaced : Placed r.root root none [{}] :=
    ⟨by simp, ⟨{}, r.root, rfl, rfl, hroot⟩, nofun⟩
  have hshown := showBody_shows hroot hparts hn (.inr hname) h [{}] hplaced {} ⟨rfl, rfl, .inr rfl⟩
  refine Gives.bindExcept hshown ?_ ?_
  · rintro x -
    exact .pure ⟨x.1, rfl⟩
  · rintro e ⟨_, _, ⟨⟩, _⟩

end

end Repertoire

end Mailroom.Template
