import Mailroom.Proofs.Template.Fitting
import Mailroom.Proofs.Template.Naming
import Mailroom.Proofs.Template.Upholding

/-!
# Locales that texts are asked for in

While a template is shown, texts are asked for by one helper, in the locale that is named by the
presentation in force. If the data and the templates name no locales but some, all texts are asked
for in one of them, and the counters keep each property that allows for that. What a step has to
uphold besides is that the values and scopes it leaves behind name no others: the induction follows
the template, and the depth to which templates are shown in each other.
-/

namespace Mailroom

open Journal (Leaves)

variable {names : List String} {J : Metrics → Prop}

theorem Locale.Store.textFor_leaves (hJ : Metrics.Allows (· ∈ names) J) (s : Store)
    {locale : String} (hlocale : locale ∈ names) (key : String) (params : Json.Members)
    {m : Metrics} (hm : J m) :
    Leaves m (s.textFor locale key params) fun _ m' ↦ J m' ∧ True := by
  unfold textFor
  split
  · exact .pure ⟨hm, trivial⟩
  · refine Leaves.log.bind ?_
    rintro _ _ rfl
    refine Leaves.count.bind ?_
    rintro _ _ rfl
    exact .pure ⟨hJ.fellBack _ _ _ hlocale hm, trivial⟩
  · refine Leaves.log.bind ?_
    rintro _ _ rfl
    refine Leaves.count.bind ?_
    rintro _ _ rfl
    exact .pure ⟨hJ.textMissing _ hm, trivial⟩

namespace Template

/-! ## Helpers -/

section

open Journal (Upholds)

theorem emptyFor_upholds (hJ : Metrics.Allows (· ∈ names) J) {helper : String}
    (h : helper ∈ Metrics.notingHelpers) :
    Upholds J (emptyFor helper) (statesOnly names · = true) := by
  refine Upholds.bind (P := fun _ ↦ True) (.lift fun m hm ↦ Leaves.log.bind ?_) fun _ _ ↦ .pure rfl
  rintro _ _ rfl
  exact Leaves.count.weaken fun _ _ heq ↦ ⟨heq ▸ hJ.emptyValue _ _ h hm, trivial⟩

theorem localized_upholds (hJ : Metrics.Allows (· ∈ names) J) {s : Setting}
    (hs : s.StatesOnly names) (c : Call) :
    Upholds J (localized s c) (statesOnly names · = true) := by
  refine Upholds.bind (P := fun _ ↦ True) (.ofExcept fun _ _ ↦ trivial) fun found _ ↦ ?_
  dsimp only
  split
  all_goals
    refine Upholds.bind (P := fun _ ↦ True) (.ofExcept fun _ _ ↦ trivial) fun key _ ↦ ?_
    split
    · exact (Upholds.log _).bind fun _ _ ↦ .pure rfl
    · rename_i locale hlocale
      exact (Upholds.lift fun m hm ↦ s.store.textFor_leaves hJ (hs.mem_of_presented hlocale) _ _
        hm).bind fun _ _ ↦ .pure rfl

theorem dated_upholds (hJ : Metrics.Allows (· ∈ names) J) {helper : String}
    (h : helper ∈ Metrics.notingHelpers) (form : Json → String) (c : Call) :
    Upholds J (dated helper form c) (statesOnly names · = true) := by
  unfold dated
  split
  · exact emptyFor_upholds hJ h
  · exact .pure rfl

theorem presentTime_upholds : Upholds J presentTime (statesOnly names · = true) :=
  Upholds.bind (P := fun _ ↦ True)
    (.lift fun _ hm ↦ Leaves.clock.weaken fun _ _ heq ↦ ⟨heq ▸ hm, trivial⟩) fun _ _ ↦ .pure rfl

theorem priced_upholds (hJ : Metrics.Allows (· ∈ names) J) (s : Setting) (c : Call) :
    Upholds J (priced s c) (statesOnly names · = true) := by
  unfold priced
  split
  · exact emptyFor_upholds hJ (by decide)
  · split
    · exact .fail _
    · exact .pure rfl

theorem Payload.exists_num_of_add {a b sum : Json} (h : Payload.add a b = some sum) :
    ∃ n, sum = .num n := by
  obtain ⟨x, -, h⟩ := Option.bind_eq_some_iff.mp h
  obtain ⟨y, -, h⟩ := Option.bind_eq_some_iff.mp h
  have hinexact (h : (Json.Number.ofFloat? (x.toFloat + y.toFloat)).map Json.num = some sum) :
      ∃ n, sum = .num n := by
    obtain ⟨n, -, rfl⟩ := Option.map_eq_some_iff.mp h
    exact ⟨n, rfl⟩
  dsimp only at h
  split at h
  · split at h
    · cases h
      exact ⟨_, rfl⟩
    · exact hinexact h
  · exact hinexact h

theorem summed_upholds (c : Call) : Upholds J (summed c) (statesOnly names · = true) := by
  unfold summed
  split
  · rename_i sum hsum
    obtain ⟨n, rfl⟩ := Payload.exists_num_of_add hsum
    exact .pure rfl
  · exact .fail _

theorem safe_upholds (hJ : Metrics.Allows (· ∈ names) J) {c : Call} (hc : c.StatesOnly names) :
    Upholds J (safe c) (statesOnly names · = true) := by
  unfold safe
  split
  · exact (Upholds.log _).bind fun _ _ ↦ emptyFor_upholds hJ (by decide)
  · exact .pure (hc.arg 0)

/-! ### Helpers that do not look at the journal -/

section

variable {c : Call} {v : Json}

theorem statesOnly_test {holds : Json → Json → Bool} (h : test c holds = .ok v) :
    statesOnly names v = true := by
  obtain ⟨x, -, h⟩ := bind_eq_ok.mp h
  obtain ⟨y, -, h⟩ := bind_eq_ok.mp h
  cases h
  rfl

theorem statesOnly_comparison {holds : ℤ → ℤ → Bool} (h : comparison c holds = .ok v) :
    statesOnly names v = true := by
  obtain ⟨x, -, h⟩ := bind_eq_ok.mp h
  obtain ⟨y, -, h⟩ := bind_eq_ok.mp h
  cases h
  rfl

theorem statesOnly_applied {f : Json → Json} (hf : ∀ x, statesOnly names (f x) = true)
    (h : applied c f = .ok v) : statesOnly names v = true := by
  obtain ⟨x, -, h⟩ := bind_eq_ok.mp h
  cases h
  exact hf x

end

/-- A helper that gives a value asks for texts in certain locales only, and its value names none
but them. -/
theorem helper?_upholds (hJ : Metrics.Allows (· ∈ names) J) {name : String}
    {f : Setting → Call → Attempt Fault Json} (h : helper? name = some (.value f)) {s : Setting}
    (hs : s.StatesOnly names) {c : Call} (hc : c.StatesOnly names) :
    Upholds J (f s c) (statesOnly names · = true) := by
  unfold helper? at h
  split at h
  all_goals cases h
  all_goals
    first
    | with_reducible exact localized_upholds hJ hs c
    | with_reducible exact dated_upholds hJ (by decide) _ c
    | with_reducible exact presentTime_upholds
    | with_reducible exact priced_upholds hJ s c
    | with_reducible exact summed_upholds c
    | with_reducible exact safe_upholds hJ hc
    | exact .ofExcept fun _ hv ↦ hc.lookedUp hv
    | exact .ofExcept fun _ hv ↦ statesOnly_test hv
    | exact .ofExcept fun _ hv ↦ statesOnly_comparison hv
    | exact .ofExcept fun _ hv ↦ statesOnly_applied (fun _ ↦ rfl) hv
    | exact .ofExcept fun _ hv ↦ Except.ok.inj hv ▸ hc.find? _
    | exact .ofExcept fun _ hv ↦ Except.ok.inj hv ▸ rfl

end

/-! ## Arguments -/

open Rendering (Upholds)

theorem logArguments_upholds (c : Call) :
    Upholds J (Stage.StatesOnly names) (logArguments c) fun _ ↦ True := by
  unfold logArguments
  dsimp only
  split
  · exact .fail _
  · exact .ofAttempt (.log _)

theorem Helper.bodiless_upholds (h : Helper) (s : Setting) (c : Call) :
    Upholds J (Stage.StatesOnly names) (h.bodiless s c) fun _ ↦ True := by
  cases h with
  | choice test =>
    exact Upholds.bind (P := fun _ ↦ True) (.ofExcept fun _ _ ↦ trivial) fun _ _ ↦ .pure trivial
  | each =>
    exact Upholds.bind (P := fun _ ↦ True) (.ofExcept fun _ _ ↦ trivial) fun _ _ ↦ .pure trivial
  | inside =>
    exact Upholds.bind (P := fun _ ↦ True) (.ofExcept fun _ _ ↦ trivial) fun _ _ ↦ .pure trivial
  | log => exact logArguments_upholds c
  | value f => exact .pure trivial
  | equality test => exact .pure trivial
  | verbatim => exact .pure trivial

theorem Helper.result_upholds (hJ : Metrics.Allows (· ∈ names) J) {name : String} {h : Helper}
    (hh : helper? name = some h) {s : Setting} (hs : s.StatesOnly names) {c : Call}
    (hc : c.StatesOnly names) :
    Upholds J (Stage.StatesOnly names) (h.result s c) (statesOnly names · = true) := by
  cases h with
  | value f => exact .ofAttempt (helper?_upholds hJ hh hs hc)
  | equality test => exact .pure rfl
  | choice test => exact (Helper.bodiless_upholds (.choice test) s c).bind fun _ _ ↦ .pure rfl
  | each => exact (Helper.bodiless_upholds .each s c).bind fun _ _ ↦ .pure rfl
  | inside => exact (Helper.bodiless_upholds .inside s c).bind fun _ _ ↦ .pure rfl
  | log => exact (Helper.bodiless_upholds .log s c).bind fun _ _ ↦ .pure rfl
  | verbatim => exact (Helper.bodiless_upholds .verbatim s c).bind fun _ _ ↦ .pure rfl

namespace Repertoire

variable {r : Repertoire}

theorem setting_upholds (hr : r.StatesOnly names) :
    Upholds J (Stage.StatesOnly names) r.setting (Setting.StatesOnly names) :=
  Upholds.get.bind fun _ hs ↦ .pure ⟨hr.root, hs.scopes⟩

theorem evaluate_upholds (hJ : Metrics.Allows (· ∈ names) J) (hr : r.StatesOnly names)
    (a : Argument Json) (ha : a.statesOnly names = true) :
    Upholds J (Stage.StatesOnly names) (r.evaluate a) (statesOnly names ·.value = true) := by
  induction a using Repertoire.evaluate.induct
    (motive_2 := fun wanted given ↦ Argument.givenStateOnly names given = true →
      Upholds J (Stage.StatesOnly names) (r.evaluateSome wanted given) fun found ↦
        ∀ f ∈ found, f.1 ≠ some presentationKey ∧ statesOnly names f.2.value = true) with
  | case1 name =>
    rw [evaluate]
    exact .pure rfl
  | case2 p =>
    rw [evaluate]
    refine Upholds.get.bind fun s hs ↦ ?_
    exact Upholds.bind (.ofExcept fun _ hfound ↦ statesOnly_find hr.root hs.scopes hfound)
      fun found hfound ↦ .pure hfound
  | case3 value =>
    rw [evaluate]
    exact .pure ha
  | case4 callee given positional named =>
    rw [evaluate]
    refine (positional ha).bind fun args hargs ↦ (named ha).bind fun ns hns ↦ ?_
    dsimp only
    split
    · exact .fail _
    · rename_i hh
      refine (setting_upholds hr).bind fun s hs ↦ ?_
      have hcall : Call.StatesOnly names
          { name := callee.title, args := args.map (·.2), named := namedArguments ns } := by
        refine ⟨fun a ha ↦ ?_, fun a ha ↦ ?_⟩
        · obtain ⟨b, hb, rfl⟩ := List.mem_map.mp ha
          exact (hargs b hb).2
        · obtain ⟨hkey, hvalue⟩ := hns _ (mem_namedArguments ha)
          exact ⟨fun heq ↦ hkey (congrArg some heq), hvalue⟩
      exact (Helper.result_upholds hJ hh hs hcall).bind fun _ hv ↦ .pure hv
  | case5 wanted =>
    rw [evaluateSome]
    exact .pure (List.forall_mem_nil _)
  | case6 wanted key argument rest hw ha hrest hgiven =>
    obtain ⟨hfirst, hothers⟩ := List.forall_mem_cons.mp (Argument.givenStateOnly_iff.mp hgiven)
    rw [evaluateSome, if_pos hw]
    refine (ha hfirst.2).bind fun f hf ↦ ?_
    refine (hrest (Argument.givenStateOnly_iff.mpr hothers)).bind fun fs hfs ↦ ?_
    exact .pure (List.forall_mem_cons.mpr ⟨⟨hfirst.1, hf⟩, hfs⟩)
  | case7 wanted key argument rest hw hrest hgiven =>
    obtain ⟨-, hothers⟩ := List.forall_mem_cons.mp (Argument.givenStateOnly_iff.mp hgiven)
    rw [evaluateSome, if_neg hw]
    exact hrest (Argument.givenStateOnly_iff.mpr hothers)

theorem calleeName_upholds (hJ : Metrics.Allows (· ∈ names) J) (hr : r.StatesOnly names)
    {a : Argument Json} (ha : a.statesOnly names = true) :
    Upholds J (Stage.StatesOnly names) (r.calleeName a) fun _ ↦ True := by
  cases a with
  | call callee given => exact (evaluate_upholds hJ hr _ ha).bind fun _ _ ↦ .pure trivial
  | word name => exact .pure trivial
  | path p => exact .pure trivial
  | literal value => exact .pure trivial

theorem call_upholds (hJ : Metrics.Allows (· ∈ names) J) (hr : r.StatesOnly names)
    {line : Line Json} (hline : line.statesOnly names = true) :
    Upholds J (Stage.StatesOnly names) (r.call line) (Call.StatesOnly names) := by
  obtain ⟨hcallee, hgiven, -⟩ := Line.statesOnly_iff.mp hline
  have hpositional : ∀ a ∈ line.positional, a.statesOnly names = true := by
    intro a ha
    obtain ⟨g, hg, hsome⟩ := List.mem_filterMap.mp ha
    split at hsome
    · cases hsome
      exact (hgiven g hg).2
    · cases hsome
  refine (calleeName_upholds hJ hr hcallee).bind fun name _ ↦ ?_
  refine (Upholds.mapM fun a ha ↦ evaluate_upholds hJ hr a (hpositional a ha)).bind
    fun args hargs ↦ ?_
  refine (Upholds.mapM (Q := fun a : String × Found ↦
    a.1 ≠ presentationKey ∧ statesOnly names a.2.value = true) fun a ha ↦ ?_).bind
      fun named hnamed ↦ .pure ⟨hargs, hnamed⟩
  obtain ⟨hkey, hvalue⟩ := hgiven _ (mem_namedArguments ha)
  exact (evaluate_upholds hJ hr a.2 hvalue).bind fun f hf ↦
    .pure ⟨fun heq ↦ hkey (congrArg some heq), hf⟩

end Repertoire

/-! ## Blocks -/

theorem write_upholds (text : String) :
    Upholds J (Stage.StatesOnly names) (write text) fun _ ↦ True := by
  refine Upholds.get.bind fun s _ ↦ ?_
  split
  · exact .pure trivial
  · exact .pure trivial

theorem writeValue_upholds (v : Json) :
    Upholds J (Stage.StatesOnly names) (writeValue v) fun _ ↦ True := by
  refine Upholds.get.bind fun s _ ↦ ?_
  split
  · exact write_upholds _
  · exact write_upholds _

theorem inScope_upholds {act : Rendering String}
    (h : Upholds J (Stage.StatesOnly names) act fun _ ↦ True) {scope : Scope}
    (hscope : scope.StatesOnly names) :
    Upholds J (Stage.StatesOnly names) (inScope scope act) fun _ ↦ True := by
  refine Upholds.get.bind fun outer houter ↦ ?_
  refine (Upholds.modify fun s hs ↦ ?_).bind fun _ _ ↦ h.bind fun _ _ ↦ ?_
  · exact ⟨List.forall_mem_cons.mpr ⟨hscope, houter.scopes⟩, hs.defined, hs.given⟩
  · exact (Upholds.modify fun s hs ↦ ⟨houter.scopes, hs.defined, hs.given⟩).bind fun _ _ ↦
      .pure trivial

/-- The scope of a value, with variables and names that the line has for it. -/
theorem statesOnly_scopeOf {line : Line Json} (hline : line.statesOnly names = true)
    (place : Option (List String)) {v : Json} (hv : statesOnly names v = true)
    {locals : List (String × Json)} (hlocals : ∀ p ∈ locals, statesOnly names p.2 = true)
    {bound : List (String × Binding)}
    (hbound : ∀ b ∈ bound, b.1 ∈ line.names ∧
      (b.2 = bindingOf place v ∨ ∃ w, statesOnly names w = true ∧ b.2 = .value w)) :
    Scope.StatesOnly names { scopeOf place v with locals, names := bound } := by
  obtain ⟨-, -, hnames⟩ := Line.statesOnly_iff.mp hline
  have hown (w : Json) (hw : (scopeOf place v).own = some w ∨ bindingOf place v = .value w) :
      statesOnly names w = true := by
    cases place with
    | none =>
      obtain ⟨⟨⟩⟩ | ⟨⟨⟩⟩ := hw
      · exact hv
      · exact hv
    | some path => obtain ⟨⟨⟩⟩ | ⟨⟨⟩⟩ := hw
  refine ⟨fun w hw ↦ hown w (.inl hw), hlocals, fun b hb heq ↦ ?_, fun b hb w hw ↦ ?_⟩
  · exact hnames (heq ▸ (hbound b hb).1)
  · rcases (hbound b hb).2 with heq | ⟨u, hu, heq⟩
    · exact hown w (.inr (heq.symm.trans hw))
    · cases heq.symm.trans hw
      exact hu

section

variable {sub : Show} (hsub : ∀ name body, Body.statesOnly names body = true →
  Upholds J (Stage.StatesOnly names) (sub name body) fun _ ↦ True)

include hsub

theorem Show.optional_upholds {body : Option Body}
    (hbody : Body.otherwiseStatesOnly names body = true) :
    Upholds J (Stage.StatesOnly names) (sub.optional body) fun _ ↦ True := by
  cases body with
  | none => exact .pure trivial
  | some body => exact hsub none body hbody

theorem eachItem_upholds {line : Line Json} (hline : line.statesOnly names = true)
    (place : Option (List String)) {body : Body} (hbody : Body.statesOnly names body = true)
    (counter : String) {items : List (String × Json × Json)}
    (hitems : ∀ x ∈ items, statesOnly names x.2.1 = true ∧ statesOnly names x.2.2 = true) :
    Upholds J (Stage.StatesOnly names) (eachItem sub line place body counter items)
      fun _ ↦ True := by
  refine (Upholds.mapIdxM fun i x hx ↦ ?_).bind fun _ _ ↦ .pure trivial
  obtain ⟨hkey, hvalue⟩ := hitems x hx
  refine inScope_upholds (hsub none body hbody) (statesOnly_scopeOf hline _ hvalue ?_ ?_)
  · exact List.forall_mem_cons.mpr ⟨rfl, List.forall_mem_cons.mpr ⟨rfl,
      List.forall_mem_singleton.mpr hkey⟩⟩
  · split
    · rename_i v hnames
      rw [hnames]
      exact List.forall_mem_singleton.mpr ⟨List.mem_singleton_self v, .inl rfl⟩
    · rename_i v k hnames
      rw [hnames]
      exact List.forall_mem_cons.mpr ⟨⟨by simp, .inr ⟨_, hkey, rfl⟩⟩,
        List.forall_mem_singleton.mpr ⟨by simp, .inl rfl⟩⟩
    · exact List.forall_mem_nil _

theorem showEach_upholds {line : Line Json} (hline : line.statesOnly names = true) {c : Call}
    (hc : c.StatesOnly names) {body : Body} (hbody : Body.statesOnly names body = true)
    {otherwise : Option Body} (hotherwise : Body.otherwiseStatesOnly names otherwise = true) :
    Upholds J (Stage.StatesOnly names) (showEach sub line c body otherwise) fun _ ↦ True := by
  refine (Upholds.ofExcept fun _ hfound ↦ hc.require hfound).bind fun found hfound ↦ ?_
  dsimp only
  split
  · exact Show.optional_upholds hsub hotherwise
  · exact Show.optional_upholds hsub hotherwise
  · rename_i items hitems
    rw [hitems] at hfound
    refine eachItem_upholds hsub hline _ hbody _ fun x hx ↦ ?_
    obtain ⟨i, hi, rfl⟩ := List.mem_mapIdx.mp hx
    exact ⟨rfl, statesOnly_item hfound (List.getElem_mem hi)⟩
  · rename_i members hmembers
    rw [hmembers] at hfound
    refine eachItem_upholds hsub hline _ hbody _ fun x hx ↦ ?_
    obtain ⟨m, hm, rfl⟩ := List.mem_map.mp hx
    exact ⟨rfl, (statesOnly_obj_iff.mp hfound).2 m hm⟩
  · exact Show.optional_upholds hsub hotherwise

theorem showInside_upholds {line : Line Json} (hline : line.statesOnly names = true) {c : Call}
    (hc : c.StatesOnly names) {body : Body} (hbody : Body.statesOnly names body = true)
    {otherwise : Option Body} (hotherwise : Body.otherwiseStatesOnly names otherwise = true) :
    Upholds J (Stage.StatesOnly names) (showInside sub line c body otherwise) fun _ ↦ True := by
  refine (Upholds.ofExcept fun _ hfound ↦ hc.require hfound).bind fun found hfound ↦ ?_
  dsimp only
  split
  · refine inScope_upholds (hsub none body hbody)
      (statesOnly_scopeOf hline _ hfound ?_ ?_)
    · cases found.place with
      | none => exact List.forall_mem_nil _
      | some path => exact List.forall_mem_nil _
    · split
      · rename_i v hnames
        rw [hnames]
        exact List.forall_mem_singleton.mpr ⟨List.mem_singleton_self v, .inl rfl⟩
      · exact List.forall_mem_nil _
  · exact Show.optional_upholds hsub hotherwise

namespace Repertoire

variable {r : Repertoire}

theorem showCall_upholds (hJ : Metrics.Allows (· ∈ names) J) (hr : r.StatesOnly names)
    {line : Line Json} (hline : line.statesOnly names = true) {body otherwise : Option Body}
    (hbody : Body.otherwiseStatesOnly names body = true)
    (hotherwise : Body.otherwiseStatesOnly names otherwise = true) :
    Upholds J (Stage.StatesOnly names) (r.showCall sub line body otherwise) fun _ ↦ True := by
  refine (call_upholds hJ hr hline).bind fun c hc ↦ ?_
  split
  · exact .fail _
  · rename_i helper hh
    refine (setting_upholds hr).bind fun s hs ↦ ?_
    split
    · exact (Upholds.ofAttempt (helper?_upholds hJ hh hs hc)).bind fun v _ ↦ writeValue_upholds v
    · exact .pure trivial
    · split
      · exact hsub none _ hbody
      · exact Show.optional_upholds hsub hotherwise
    · refine Upholds.bind (P := fun _ ↦ True) (.ofExcept fun _ _ ↦ trivial) fun b _ ↦ ?_
      split
      · exact hsub none _ hbody
      · exact Show.optional_upholds hsub hotherwise
    · exact showEach_upholds hsub hline hc hbody hotherwise
    · exact showInside_upholds hsub hline hc hbody hotherwise
    · exact hsub none _ hbody
    · exact (Helper.bodiless_upholds _ s c).bind fun _ _ ↦ .pure trivial

theorem showValue_upholds (hJ : Metrics.Allows (· ∈ names) J) (hr : r.StatesOnly names)
    {line : Line Json} (hline : line.statesOnly names = true) :
    Upholds J (Stage.StatesOnly names) (r.showValue sub line) fun _ ↦ True := by
  have hcall : Upholds J (Stage.StatesOnly names) (r.showCall sub line none none) fun _ ↦ True :=
    showCall_upholds hsub hJ hr hline rfl rfl
  have hcallee := (Line.statesOnly_iff.mp hline).1
  unfold showValue
  split
  · refine (calleeName_upholds hJ hr hcallee).bind fun name _ ↦ ?_
    split
    · exact hcall
    · refine (evaluate_upholds hJ hr _ hcallee).bind fun found _ ↦ ?_
      split
      · exact .pure trivial
      · exact writeValue_upholds _
  · exact hcall

/-! ## Parts -/

omit hsub in
theorem definePart_upholds (c : Call) {body : Option Body}
    (hbody : Body.otherwiseStatesOnly names body = true) :
    Upholds J (Stage.StatesOnly names) (definePart c body) fun _ ↦ True := by
  refine Upholds.bind (P := fun _ ↦ True) (.ofExcept fun _ _ ↦ trivial) fun found _ ↦ ?_
  split
  · cases body with
    | none => exact .fail _
    | some body =>
      exact .modify fun s hs ↦
        ⟨hs.scopes, List.forall_mem_cons.mpr ⟨hbody, hs.defined⟩, hs.given⟩
  · exact .fail _

omit hsub in
theorem decorate_upholds (hJ : Metrics.Allows (· ∈ names) J) (hr : r.StatesOnly names)
    {line : Line Json} (hline : line.statesOnly names = true) {body : Option Body}
    (hbody : Body.otherwiseStatesOnly names body = true) :
    Upholds J (Stage.StatesOnly names) (r.decorate line body) fun _ ↦ True := by
  rw [decorate_eq]
  refine (call_upholds hJ hr hline).bind fun c _ ↦ ?_
  split
  · exact (Upholds.fail (P := fun _ ↦ True) _).bind fun _ _ ↦ definePart_upholds c hbody
  · exact definePart_upholds c hbody

omit hsub in
theorem decorateAll_upholds (hJ : Metrics.Allows (· ∈ names) J) (hr : r.StatesOnly names)
    {body : Body} (hbody : Body.statesOnly names body = true) :
    Upholds J (Stage.StatesOnly names) (r.decorateAll body) fun _ ↦ True := by
  induction body using Repertoire.decorateAll.induct with
  | case1 =>
    rw [decorateAll]
    exact .pure trivial
  | case2 position line inner rest ih =>
    rw [Body.statesOnly, Bool.and_eq_true, Element.statesOnly, Bool.and_eq_true] at hbody
    obtain ⟨⟨hline, hinner⟩, hrest⟩ := hbody
    rw [decorateAll]
    exact ((decorate_upholds hJ hr hline hinner).adapt (RenderError.locate position)).bind
      fun _ _ ↦ ih hrest
  | case3 head rest hne ih =>
    rw [Body.statesOnly, Bool.and_eq_true] at hbody
    rw [decorateAll]
    · exact ih hbody.2
    · exact hne

omit hsub in
/-- Wherever a part is found, it names no locales but some. -/
theorem part?_statesOnly (hr : r.StatesOnly names) {s : Stage} (hs : s.StatesOnly names)
    {name : String} {body : Option Body} (hbody : Body.otherwiseStatesOnly names body = true)
    {part : Compiled} (h : r.part? s name body = some part) :
    Body.statesOnly names part.body = true := by
  simp only [part?, Option.orElse_eq_some, Option.map_eq_some_iff] at h
  rcases h with ⟨found, hfound, rfl⟩ | ⟨-, hkept | ⟨-, own, rfl, rfl⟩⟩
  · split at hfound
    · exact hs.given found (List.mem_of_getElem? hfound)
    · exact hs.defined _ (mem_of_lookup hfound)
  · exact hr.templates _ (mem_of_lookup hkept)
  · exact hbody

omit hsub in
/-- An argument with a place in the data makes a new scope. -/
theorem statesOnly_begun {scopes : List Scope} (hscopes : ∀ s ∈ scopes, s.StatesOnly names)
    (place : Option (List String)) :
    ∀ s ∈ (match place.map fun path ↦ ({ base := path } : Scope) with
      | some s => [s]
      | none => scopes), s.StatesOnly names := by
  cases place with
  | none => exact hscopes
  | some path =>
    exact List.forall_mem_singleton.mpr
      ⟨nofun, List.forall_mem_nil _, List.forall_mem_nil _, List.forall_mem_nil _⟩

omit hsub in
/-- Arguments given by name are put among the members of the present value. -/
theorem statesOnly_merged (hr : r.StatesOnly names) {c : Call} (hc : c.StatesOnly names)
    {scopes : List Scope} (hscopes : ∀ s ∈ scopes, s.StatesOnly names) {present : Found}
    (hpresent : follow r.root [scopes.headD {}] [] = .ok present) :
    Scope.StatesOnly names { scopes.headD {} with
      own := some (.obj (c.named.foldl (fun ms (k, f) ↦ Json.Members.insert k f.value ms)
        (present.value.members?.getD []))) } := by
  have hscope : (scopes.headD {}).StatesOnly names := by
    cases scopes with
    | nil => exact ⟨nofun, List.forall_mem_nil _, List.forall_mem_nil _, List.forall_mem_nil _⟩
    | cons s scopes => exact hscopes s List.mem_cons_self
  have hvalue := statesOnly_follow hr.root (List.forall_mem_singleton.mpr hscope) hpresent
  have hmembers : statesOnly names (.obj (present.value.members?.getD [])) = true := by
    cases hpresented : present.value with
    | obj members => exact hpresented ▸ hvalue
    | _ => rfl
  refine ⟨?_, hscope.locals, hscope.names_ne, hscope.names_values⟩
  rintro _ ⟨⟩
  exact statesOnly_insertAll hmembers hc.named

omit hsub in
theorem partScopes_statesOnly (hr : r.StatesOnly names) {c : Call} (hc : c.StatesOnly names)
    {scopes inner : List Scope} (hscopes : ∀ s ∈ scopes, s.StatesOnly names)
    (h : r.partScopes c scopes = .ok inner) : ∀ s ∈ inner, s.StatesOnly names := by
  have hbegun := statesOnly_begun hscopes (c.args.head?.bind Found.place)
  unfold partScopes at h
  dsimp only at h
  split at h
  · cases h
    exact hbegun
  · obtain ⟨present, hpresent, heq⟩ := bind_eq_ok.mp h
    cases heq
    exact List.forall_mem_singleton.mpr (statesOnly_merged hr hc hbegun hpresent)

theorem showIn_upholds (hr : r.StatesOnly names) (indent : Option String) {body : Option Body}
    (hbody : Body.otherwiseStatesOnly names body = true) {c : Call} (hc : c.StatesOnly names)
    {stage : Stage} (hstage : stage.StatesOnly names) {part : Option Compiled}
    (hpart : ∀ t, part = some t → Body.statesOnly names t.body = true) :
    Upholds J (Stage.StatesOnly names) (r.showIn sub indent body c stage part) fun _ ↦ True := by
  cases part with
  | none => exact .fail _
  | some part =>
    refine (Upholds.ofExcept fun _ h ↦ partScopes_statesOnly hr hc hstage.scopes h).bind
      fun scopes hscopes ↦ ?_
    have hgiven : ∀ b ∈ body.toList ++ stage.given, Body.statesOnly names b = true := by
      intro b hb
      rcases List.mem_append.mp hb with hb | hb
      · obtain rfl := Option.mem_toList.mp hb
        exact hbody
      · exact hstage.given b hb
    refine (Upholds.set ⟨hscopes, hstage.defined, hgiven⟩).bind fun _ _ ↦ ?_
    exact (hsub part.name part.body (hpart part rfl)).bind fun _ _ ↦
      (Upholds.set hstage).bind fun _ _ ↦ .pure trivial

theorem putIn_upholds (hJ : Metrics.Allows (· ∈ names) J) (hr : r.StatesOnly names)
    (indent : Option String) {body : Option Body}
    (hbody : Body.otherwiseStatesOnly names body = true) {c : Call} (hc : c.StatesOnly names) :
    Upholds J (Stage.StatesOnly names) (r.putIn sub indent body c) fun _ ↦ True := by
  have hinner : Body.statesOnly names (body.getD []) = true := by
    cases body with
    | none => rfl
    | some body => exact hbody
  refine (decorateAll_upholds hJ hr hinner).bind fun _ _ ↦ Upholds.get.bind fun stage hstage ↦ ?_
  have hshow : Upholds J (Stage.StatesOnly names)
      (r.showIn sub indent body c stage (r.part? stage c.name body)) fun _ ↦ True :=
    showIn_upholds hsub hr indent hbody hc hstage fun _ ht ↦ part?_statesOnly hr hstage hbody ht
  dsimp only
  split
  · exact (Upholds.fail (P := fun _ ↦ True) _).bind fun _ _ ↦ hshow
  · exact hshow

/-! ## Elements -/

theorem showElement_upholds (hJ : Metrics.Allows (· ∈ names) J) (hr : r.StatesOnly names)
    {e : Element} (he : e.statesOnly names = true) :
    Upholds J (Stage.StatesOnly names) (r.showElement sub e) fun _ ↦ True := by
  cases e with
  | text s => exact write_upholds s
  | comment => exact .pure trivial
  | value line escaped =>
    cases escaped with
    | true => exact showValue_upholds hsub hJ hr he
    | false =>
      have hplain (plain : Bool) (s : Stage) (hs : s.StatesOnly names) :
          Stage.StatesOnly names { s with plain } := ⟨hs.scopes, hs.defined, hs.given⟩
      exact (Upholds.modify (hplain true)).bind fun _ _ ↦
        (showValue_upholds hsub hJ hr he).bind fun _ _ ↦
          (Upholds.modify (hplain false)).bind fun _ _ ↦ .pure trivial
  | block line body otherwise =>
    rw [Element.statesOnly, Bool.and_eq_true, Bool.and_eq_true] at he
    exact showCall_upholds hsub hJ hr he.1.1 he.1.2 he.2
  | decorator line body =>
    rw [Element.statesOnly, Bool.and_eq_true] at he
    exact (decorate_upholds hJ hr he.1 he.2).bind fun _ _ ↦ .pure trivial
  | part line indent body =>
    rw [Element.statesOnly, Bool.and_eq_true] at he
    exact (call_upholds hJ hr he.1).bind fun c hc ↦ putIn_upholds hsub hJ hr indent he.2 hc

end Repertoire

end

/-! ## Whole templates -/

namespace Repertoire

variable {r : Repertoire}

theorem showBody_upholds (hJ : Metrics.Allows (· ∈ names) J) (hr : r.StatesOnly names) (n : ℕ)
    (name : Option String) {body : Body} (hbody : Body.statesOnly names body = true) :
    Upholds J (Stage.StatesOnly names) (r.showBody n name body) fun _ ↦ True := by
  induction n generalizing name body with
  | zero => exact .fail _
  | succ n ih =>
    have hcurrent (s : Stage) (hs : s.StatesOnly names) :
        Stage.StatesOnly names { s with current := name } := ⟨hs.scopes, hs.defined, hs.given⟩
    refine (Upholds.modify hcurrent).bind fun _ _ ↦ ?_
    refine (Upholds.mapM (Q := fun _ ↦ True) fun e he ↦ ?_).bind fun _ _ ↦ .pure trivial
    have helement := showElement_upholds (fun name _ hbody ↦ ih name hbody) hJ hr
      (Body.statesOnly_iff.mp hbody e he)
    exact (helement.adapt (RenderError.locate e.1)).adapt (RenderError.inTemplate name)

/-- Showing a template asks for texts in those locales only that its lines, the parts and the data
name. -/
theorem render_upholds (hJ : Metrics.Allows (· ∈ names) J) (hr : r.StatesOnly names) {t : Compiled}
    (ht : Body.statesOnly names t.body = true) :
    Journal.Upholds J (r.render t) fun _ ↦ True := by
  have hempty : Stage.StatesOnly names {} :=
    ⟨List.forall_mem_singleton.mpr ⟨nofun, List.forall_mem_nil _, List.forall_mem_nil _,
      List.forall_mem_nil _⟩, List.forall_mem_nil _, List.forall_mem_nil _⟩
  exact (showBody_upholds hJ hr nestingLimit t.name ht {} hempty).bind fun _ _ ↦ .pure trivial

end Repertoire

end Template

end Mailroom
