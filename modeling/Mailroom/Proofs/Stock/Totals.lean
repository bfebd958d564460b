import Mailroom.Proofs.Money.Amount
import Mailroom.Proofs.Payload.Details
import Mailroom.Proofs.Stock.Rendering
import Mailroom.Proofs.Template.Carrying

/-!
# Totals are shown

Every shipped template that puts in the table of payment details has the total of the payload on its
page, if the total is an amount of money; a total of zero is one. The value passes through the names
that it may have, the first of some values that says something, and two conditions, each of which
has its own notion of what counts as nothing. An amount counts as something under all of them.
-/

namespace Mailroom

open Journal (Gives)

/-! ## Amounts say something -/

namespace Money

variable {v : Json} {x : Float}

theorem isEmpty_of_amount? (h : amount? v = some x) : Payload.isEmpty v = false := by
  cases v with
  | null => cases h
  | str s =>
    refine decide_eq_false ?_
    rintro rfl
    have hnone : amount? (.str "") = none := rfl
    cases hnone.symm.trans h
  | _ => rfl

/-- Where zero counts as true, every finite amount does. -/
theorem truthy_of_amount? (h : amount? v = some x) (hfinite : x.isFinite = true) :
    Template.truthy true v = true := by
  cases v with
  | num n =>
    cases n with
    | int i => rfl
    | float y =>
      cases h
      have hnan : y.isNaN = false := not_isNaN_of_isFinite hfinite
      rw [Template.truthy, if_pos rfl, hnan]
      rfl
  | str s =>
    have hempty := isEmpty_of_amount? h
    exact bne_iff_ne.mpr (of_decide_eq_false hempty)
  | _ => cases h

end Money

/-! ## Arguments that stand for members of the data -/

namespace Template

open Mailroom.Locale (Presentation)
open Rendering (Tells Yields)

variable {r : Repertoire} {now : Int} {members : Json.Members}

/-- The member of the data that a plain name stands for where no block has a scope of its own. -/
def Argument.memberName? : Argument Json → Option String
  | .path ⟨_, [.into name]⟩ => some name
  | _ => none

theorem Repertoire.means_member (hroot : r.root = .obj members) {a : Argument Json} {name : String}
    (h : a.memberName? = some name) : r.Means now a ((members.get? name).getD .null) := by
  unfold Argument.memberName? at h
  split at h
  · rename_i source name'
    cases h
    have hfind : find r.root [{}] ⟨source, [.into name]⟩ = atPlace (.obj members) [name] := by
      rw [hroot]
      rfl
    cases hget : members.get? name with
    | none =>
      refine r.means_path (f := .nothing) ?_
      rw [hfind, atPlace, descend, child, hget]
      rfl
    | some v =>
      refine r.means_path (f := { value := v, place := some [name] }) ?_
      rw [hfind, atPlace, descend, child, hget]
      rfl
  · cases h

/-- The arguments of a call that gives none by name are evaluated one after the other. -/
theorem Repertoire.evaluateSome_means {given : List (Option String × Argument Json)}
    {values : List Json} (hnone : ∀ g ∈ given, g.1 = none)
    (hvalues : List.Forall₂ (r.Means now) (given.map Prod.snd) values) {s : Stage}
    (hs : s.scopes = [{}]) :
    Tells now s (r.evaluateSome Option.isNone given) (fun args ↦
        args.map (fun a ↦ a.2.value) = values) ∧
      Tells now s (r.evaluateSome Option.isSome given) (· = []) := by
  induction given generalizing values with
  | nil =>
    cases hvalues
    rw [evaluateSome, evaluateSome]
    exact ⟨.pure rfl, .pure rfl⟩
  | cons g rest ih =>
    obtain ⟨key, a⟩ := g
    obtain ⟨rfl, hrest⟩ := List.forall_mem_cons.mp hnone
    cases hvalues with
    | @cons _ v _ values ha hvalues =>
      obtain ⟨hargs, hnamed⟩ := ih hrest hvalues
      rw [evaluateSome, evaluateSome]
      refine ⟨(ha s hs).bind ?_, hnamed⟩
      rintro f rfl
      refine hargs.bind ?_
      rintro args rfl
      exact Tells.pure rfl

/-- A call for the first of some values that says something stands for it. -/
theorem Repertoire.means_or {callee : Argument Json} {given : List (Option String × Argument Json)}
    (htitle : callee.title = "or") (hnone : ∀ g ∈ given, g.1 = none) {values : List Json}
    (hvalues : List.Forall₂ (r.Means now) (given.map Prod.snd) values) {v : Json}
    (hfirst : Payload.firstPresent values = some v) : r.Means now (.call callee given) v := by
  intro s hs
  obtain ⟨hargs, hnamed⟩ := r.evaluateSome_means hnone hvalues hs
  rw [evaluate]
  refine hargs.bind fun args hargs ↦ hnamed.bind ?_
  rintro _ rfl
  rw [htitle]
  refine setting_tells.bind fun setting _ ↦ ?_
  let c : Call := { name := "or", args := args.map (·.2), named := [] }
  have hc : c.values = values := by
    rw [← hargs, Call.values, List.map_map]
    rfl
  have hresult : (.ok ((Payload.firstPresent c.values).getD (.str "")) : Except Fault Json) =
      .ok v := by
    rw [hc, hfirst]
    rfl
  refine (Tells.ofAttempt (P := (· = v)) (.pure ⟨v, hresult, rfl⟩)).bind ?_
  rintro _ rfl
  exact Tells.pure rfl

/-! ## What helpers make of an amount -/

theorem Call.arg_eq (c : Call) (index : Nat) : c.arg index = (c.values[index]?).getD .null := by
  rw [arg, values, List.getElem?_map]

/-- Where zero is asked for, a condition holds if its value is one that counts as true then. -/
theorem condition_of_values {c : Call} {v : Json} {rest : List Json}
    (hvalues : c.values = v :: rest)
    (hnamed : c.named.map (fun (k, f) ↦ (k, f.value)) = [("includeZero", .bool true)]) :
    condition c = .ok (truthy true v) := by
  obtain ⟨f, args, hargs, rfl, -⟩ := List.map_eq_cons_iff.mp hvalues
  obtain ⟨⟨key, g⟩, hlist, hg⟩ := List.map_eq_singleton_iff.mp hnamed
  obtain ⟨rfl, hvalue⟩ := Prod.mk.inj hg
  have hoption : c.option? "includeZero" = some (.bool true) := by
    rw [Call.option?, hlist, List.lookup_cons_self, Option.map_some, hvalue]
  rw [condition, Call.require, hargs, hoption]
  rfl

/-- In a message, the helper for amounts writes them in the style of the presentation. -/
theorem Presents.priced_gives {root : Json} {p : Presentation} (h : Presents root p)
    (hp : p.numberTag ≠ "") (store : Locale.Store) {c : Call} {v currency : Json}
    (hvalues : c.values = [v, currency]) {x : Float} (hx : Money.amount? v = some x) (now : Int) :
    Gives now (priced ⟨root, [{}], store⟩ c).run
      (· = .ok (.str (Money.format x (currencyOf currency) p.numberTag))) := by
  have hv : c.arg 0 = v := by rw [c.arg_eq, hvalues]; rfl
  have hcurrency : c.arg 1 = currency := by rw [c.arg_eq, hvalues]; rfl
  have hempty : ¬ Payload.isEmpty v = true := by simp [Money.isEmpty_of_amount? hx]
  unfold priced
  rw [hv, if_neg hempty, hx, hcurrency, h.presented_eq store (presentation_get? p).2, if_neg hp]
  exact .pure rfl

/-! ## The total in a template -/

/-- Whether an argument stands for the total, or for the first of some members that says something,
of which the total is the first one. -/
def Argument.isTotal : Argument Json → Bool
  | .call callee given =>
    callee.title == "or" && given.all (fun g ↦ g.1.isNone && g.2.memberName?.isSome) &&
      given.head?.any fun g ↦ g.2.memberName? == some "totalAmount"
  | a => a.memberName? == some "totalAmount"

namespace Line

/-- Whether a tag shows the total as an amount in the currency of the payload. -/
def showsTotal (line : Line Json) : Bool :=
  line.callee.isName && line.callee.title == "formatCurrency" &&
    line.given.map (fun g ↦ (g.1, g.2.memberName?)) ==
      [(none, some "totalAmount"), (none, some "currency")]

/-- Whether a block shows its body if there is a total, though it may be zero. -/
def opensForTotal (line : Line Json) : Bool :=
  line.callee.isName && line.callee.title == "if" &&
    match line.given with
    | [(none, a), (some "includeZero", .literal (.bool true))] => a.isTotal
    | _ => false

end Line

/-- By what it is seen that the total is shown. -/
def totalMarks (parts : List String) : Marks where
  tag := Line.showsTotal
  opens := Line.opensForTotal
  parts

/-- Data in which a presentation stands, and a total that is a finite amount in a currency. -/
structure Charges (members : Json.Members) (p : Presentation) (v : Json) (x : Float)
    (currency : String) : Prop where
  presents : Presents (.obj members) p
  tagged : p.numberTag ≠ ""
  total : members.get? "totalAmount" = some v
  amount : Money.amount? v = some x
  finite : x.isFinite = true
  currency_eq : currencyOf ((members.get? "currency").getD .null) = currency

namespace Charges

variable {p : Presentation} {v : Json} {x : Float} {currency : String}
  (h : Charges members p v x currency) (hroot : r.root = .obj members)

include h hroot

theorem means_name {a : Argument Json} (ha : a.memberName? = some "totalAmount") :
    r.Means now a v := by
  have hmeans : r.Means now a _ := r.means_member hroot ha
  rw [h.total] at hmeans
  exact hmeans

/-- An argument for the total stands for it, as nothing else comes first. -/
theorem means_total {a : Argument Json} (ha : a.isTotal = true) : r.Means now a v := by
  cases a with
  | call callee given =>
    simp only [Argument.isTotal, Bool.and_eq_true, beq_iff_eq, List.all_eq_true,
      Option.isNone_iff_eq_none, Option.isSome_iff_exists] at ha
    obtain ⟨⟨htitle, hall⟩, hhead⟩ := ha
    cases given with
    | nil => cases hhead
    | cons g rest =>
      obtain ⟨-, hrest⟩ := List.forall_mem_cons.mp hall
      have hfirst : g.2.memberName? = some "totalAmount" := beq_iff_eq.mp hhead
      let value (g : Option String × Argument Json) : Json :=
        (g.2.memberName?.bind members.get?).getD .null
      have hmeans : List.Forall₂ (r.Means now) (rest.map Prod.snd) (rest.map value) := by
        refine List.forall₂_map_left_iff.mpr (List.forall₂_map_right_iff.mpr ?_)
        refine List.forall₂_same.mpr fun g hg ↦ ?_
        obtain ⟨name, hname⟩ := (hrest g hg).2
        have hvalue : value g = (members.get? name).getD .null := by
          dsimp only [value]
          rw [hname]
          rfl
        rw [hvalue]
        exact r.means_member hroot hname
      refine r.means_or htitle (fun g hg ↦ (hall g hg).1)
        (.cons (h.means_name hroot hfirst) hmeans) ?_
      exact List.find?_cons_of_pos (by rw [Money.isEmpty_of_amount? h.amount]; rfl)
  | word name => cases ha
  | literal w => cases ha
  | path p => exact h.means_name hroot (beq_iff_eq.mp ha)

/-- The condition of a block that asks for the total holds. -/
theorem call_of_opensForTotal {line : Line Json} (hline : line.opensForTotal = true) {s : Stage}
    (hs : s.scopes = [{}]) :
    Tells now s (r.call line) fun c ↦ c.name = "if" ∧ condition c = .ok true := by
  simp only [Line.opensForTotal, Bool.and_eq_true, beq_iff_eq] at hline
  obtain ⟨⟨hname, htitle⟩, hgiven⟩ := hline
  split at hgiven
  · rename_i a hlist
    have hvalues : List.Forall₂ (r.Means now) line.positional [v] := by
      rw [Line.positional, hlist]
      exact .cons (h.means_total hroot hgiven) .nil
    have hnamed : List.Forall₂ (fun a p ↦ a.1 = p.1 ∧ r.Means now a.2 p.2)
        (namedArguments line.given) [("includeZero", .bool true)] := by
      have hnames : namedArguments line.given = [("includeZero", .literal (.bool true))] := by
        rw [hlist]
        simp [namedArguments]
      rw [hnames]
      exact .cons ⟨rfl, r.means_literal _⟩ .nil
    refine (r.call_means hname hvalues hnamed hs).weaken ?_
    rintro c _ ⟨rfl, hc, hcvalues, hcnamed⟩
    refine ⟨rfl, hc.trans htitle, ?_⟩
    rw [condition_of_values hcvalues hcnamed, Money.truthy_of_amount? h.amount h.finite]
  · cases hgiven

/-- The call of a tag that shows the total has the total and the currency for its values. -/
theorem call_of_showsTotal {line : Line Json} (hline : line.showsTotal = true) {s : Stage}
    (hs : s.scopes = [{}]) :
    Tells now s (r.call line) fun c ↦
      c.name = "formatCurrency" ∧ c.values = [v, (members.get? "currency").getD .null] := by
  simp only [Line.showsTotal, Bool.and_eq_true, beq_iff_eq] at hline
  obtain ⟨⟨hname, htitle⟩, hgiven⟩ := hline
  obtain ⟨⟨_, a⟩, rest, hlist, ha, hrest⟩ := List.map_eq_cons_iff.mp hgiven
  obtain ⟨⟨_, b⟩, rfl, hb⟩ := List.map_eq_singleton_iff.mp hrest
  obtain ⟨rfl, ha⟩ := Prod.mk.inj ha
  obtain ⟨rfl, hb⟩ := Prod.mk.inj hb
  have hvalues : List.Forall₂ (r.Means now) line.positional
      [v, (members.get? "currency").getD .null] := by
    rw [Line.positional, hlist]
    exact .cons (h.means_name hroot ha) (.cons (r.means_member hroot hb) .nil)
  have hnamed : List.Forall₂ (fun (a : String × Argument Json) (p : String × Json) ↦
      a.1 = p.1 ∧ r.Means now a.2 p.2) (namedArguments line.given) [] := by
    rw [hlist]
    simp [namedArguments]
  refine (r.call_means hname hvalues hnamed hs).weaken ?_
  rintro c _ ⟨rfl, hc, hcvalues, -⟩
  exact ⟨rfl, hc.trans htitle, hcvalues⟩

/-- A tag that shows the total writes it in its currency and in the style of the presentation. -/
theorem showValue_of_showsTotal {line : Line Json} (hline : line.showsTotal = true) (sub : Show)
    {s : Stage} (hs : s.Bare) :
    Tells now s (r.showValue sub line)
      (· = escaped (Money.format x currency p.numberTag)) := by
  have hbare : line.isBare = false := by
    unfold Line.showsTotal at hline
    cases hgiven : line.given with
    | nil => simp [hgiven] at hline
    | cons g rest => rw [Line.isBare, hgiven]; rfl
  unfold Repertoire.showValue
  rw [hbare]
  refine (h.call_of_showsTotal hroot hline hs.scopes_eq).bind ?_
  rintro c ⟨hname, hvalues⟩
  have hhelper : helper? c.name = some (.value priced) := by
    rw [hname]
    rfl
  rw [hhelper]
  refine Tells.get.bind ?_
  rintro s rfl
  have hpresents : Presents r.root p := hroot.symm ▸ h.presents
  have hpriced := hpresents.priced_gives h.tagged r.store hvalues h.amount now
  rw [h.currency_eq] at hpriced
  rw [hs.scopes_eq]
  refine (Tells.ofAttempt (hpriced.weaken fun _ ho ↦ ⟨_, ho, rfl⟩)).bind ?_
  rintro _ rfl
  have hshown : Tells now s (writeValue (.str (Money.format x currency p.numberTag))) _ :=
    writeValue_tells_escaped hs.escapes _
  rw [Stage.lay_of_indent_eq_none hs.indent_eq] at hshown
  exact hshown

/-- The marks of the total are right. -/
theorem bears {text : String} (htext : escaped (Money.format x currency p.numberTag) = text)
    {parts : List String} (hparts : ∀ name ∈ parts, name ≠ givenBody ∧
      ∃ t, r.templates.lookup name = some t ∧
        ∀ n, Yields now Stage.Bare (r.showBody n t.name t.body) (text.toList <:+: ·.toList)) :
    r.Bears now (totalMarks parts) text where
  tag line hline sub := by
    refine Yields.ofTells fun s hs ↦ ?_
    refine (h.showValue_of_showsTotal hroot hline sub hs).weaken ?_
    rintro _ _ ⟨rfl, rfl⟩
    exact ⟨rfl, htext ▸ List.infix_rfl⟩
  opens line hline s hs := h.call_of_opensForTotal hroot hline hs.scopes_eq
  parts := hparts

end Charges

/-! ## The data of a message -/

namespace Renderer

variable (r : Renderer) (locale : String) (payload : Json.Members)

/-- A detail of the payload stands under its name in the data of a message, unless it is a logo. -/
theorem repertoire_detail (now : Int) :
    ∃ members : Json.Members, (r.repertoire locale payload now).root = .obj members ∧
      ∀ d : Payload.Detail, d ≠ .logo →
        members.get? d.name = (Payload.detail? payload d).or (payload.get? d.name) := by
  unfold repertoire
  rw [(r.context_gives locale payload now).answerAt_eq]
  refine ⟨_, rfl, fun d hd ↦ ?_⟩
  have htexts : d.name ≠ textsKey := by cases d <;> decide
  have hpresentation : d.name ≠ presentationKey := by cases d <;> decide
  rw [Json.Members.get?_insert, if_neg hpresentation, Json.Members.get?_insert, if_neg htexts,
    Payload.get?_reconcile_name (absurd · hd)]

end Renderer

end Template

/-! ## The shipped templates -/

namespace Stock

open Template

/-- A template of a message puts in a part. -/
def PutsIn (name source : String) : Prop :=
  ∃ t, compile none source = .ok t ∧ name ∈ Body.partNames t.body

/-- The messages that put in the table of payment details. -/
def billed : List String := [
  "flight-ticket", "hotel-reservation", "package-reservation", "reservation-confirmation",
  "transfer-reservation"]

/-- Whether the total can be seen to be shown by a template that puts in some parts which show
it. -/
def carriesTotal (parts : List String) (t : Compiled) : Bool :=
  Body.definesNone t.body && Body.carries (totalMarks parts) t.body

/-- A message puts in the table of payment details if it is one of those that do, and then the total
can be seen to be shown by it. -/
def Bills (m : String × String) : Prop :=
  ∃ t, compile none m.2 = .ok t ∧
    ((Body.partNames t.body).contains "payment" == billed.contains m.1 &&
      (!billed.contains m.1 || carriesTotal ["payment"] t)) = true

theorem payment_carriesTotal :
    ∃ t, compile (some "payment") payment = .ok t ∧ carriesTotal [] t = true :=
  passes_page (by repeat' constructor) (by decide +kernel)

theorem messages_bill : ∀ m ∈ messages, Bills m := by
  refine List.forall_iff_forall_mem.mp ⟨?_, ?_, ?_, ?_, ?_, ?_, ?_, ?_⟩
  all_goals exact passes_page (by repeat' constructor) (by decide +kernel)

/-- Five of the messages put in the table of payment details. -/
theorem putsIn_payment_iff {m : String × String} (hm : m ∈ messages) :
    PutsIn "payment" m.2 ↔ m.1 ∈ billed := by
  obtain ⟨t, ht, hbills⟩ := messages_bill m hm
  obtain ⟨hparts, -⟩ := Bool.and_eq_true_iff.mp hbills
  have hiff : "payment" ∈ Body.partNames t.body ↔ m.1 ∈ billed := by
    rw [← List.contains_iff_mem, beq_iff_eq.mp hparts, List.contains_iff_mem]
  refine ⟨?_, fun hbilled ↦ ⟨t, ht, hiff.mpr hbilled⟩⟩
  rintro ⟨t', ht', hname⟩
  cases ht.symm.trans ht'
  exact hiff.mp hname

/-- A message that puts in the table of payment details can be seen to show the total. -/
theorem carriesTotal_of_putsIn {m : String × String} (hm : m ∈ messages)
    (hparts : PutsIn "payment" m.2) {t : Compiled} (ht : compile none m.2 = .ok t) :
    carriesTotal ["payment"] t = true := by
  obtain ⟨t', ht', hbills⟩ := messages_bill m hm
  cases ht.symm.trans ht'
  obtain ⟨-, hshows⟩ := Bool.and_eq_true_iff.mp hbills
  have hbilled : billed.contains m.1 = true :=
    List.contains_iff_mem.mpr ((putsIn_payment_iff hm).mp hparts)
  rw [hbilled] at hshows
  exact hshows

/-! ## Pages -/

variable {root : String} {store : Locale.Store} {logoUrl : Option String} {r : Renderer}
  {payload : Json.Members} {v : Json} {x : Float} {now : Int}

/-- However it has been used, a renderer has the texts and the logo that it was opened with. -/
theorem texts_of_inUse {files : Files.Tree} {dir partsDir : String}
    (h : r.InUse files dir partsDir store logoUrl) : r.store = store ∧ r.logoUrl = logoUrl := by
  induction h with
  | opened journal h =>
    have hopened : Gives journal.now (Renderer.opened files dir partsDir store logoUrl).run
        fun o ↦ ∀ r, o = .ok r → r.store = store ∧ r.logoUrl = logoUrl := by
      refine Library.opened_gives.bindExcept (fun lib _ ↦ .pure ?_) nofun
      rintro _ ⟨⟩
      exact ⟨rfl, rfl⟩
    exact (hopened journal rfl).1 _ h
  | @rendered r h key locale payload journal ih =>
    obtain ⟨hrendered, -⟩ := r.render_gives files key locale payload journal.now journal rfl
    rw [hrendered, Renderer.rendered]
    split
    · exact ih
    · exact ih
  | cleared h journal ih => exact ih

theorem numberTag_ne_empty (store : Locale.Store) (logoUrl : Option String) (locale : String) :
    (store.presentation logoUrl locale).numberTag ≠ "" := by
  unfold Locale.Store.presentation
  split
  · dsimp only
    unfold Locale.numberTag
    split_ifs <;> decide
  · change Locale.defaultNumberTag ≠ ""
    decide

/-- A currency that is not stated is left out as one that is blank. -/
theorem currencyOf_of_saysNothing {c : Option Json} (h : Payload.SaysNothing c) :
    currencyOf (c.getD .null) = currencyOf .null := by
  obtain rfl | rfl | rfl := h
  · rfl
  · rfl
  · rfl

/-- Wherever the currency of a payload stands, it is the one in which the total is written. -/
theorem currencyOf_detail {members : Json.Members}
    (h : members.get? "currency" =
      (Payload.detail? payload .currency).or (payload.get? "currency")) :
    currencyOf ((members.get? "currency").getD .null) =
      currencyOf ((Payload.detail? payload .currency).getD .null) := by
  rw [h]
  cases hcurrency : Payload.detail? payload .currency with
  | some c => rfl
  | none =>
    have hmem : payload.get? "currency" ∈ Payload.candidates payload .currency :=
      Payload.mem_candidates_iff.mpr (.inl ⟨"currency", by decide, rfl⟩)
    exact currencyOf_of_saysNothing (Payload.detail?_eq_none_iff.mp hcurrency _ hmem)

/-- A template that can be seen to show the total, with a part that can be seen to do so, has the
total on its page. -/
theorem page_shows_total {r : Repertoire} {members : Json.Members} {p : Locale.Presentation}
    {currency : String} (h : Charges members p v x currency) (hroot : r.root = .obj members)
    {part t : Compiled} (hlookup : r.templates.lookup "payment" = some part)
    (hpart : carriesTotal [] part = true) (ht : carriesTotal ["payment"] t = true) :
    Gives now (r.render t).run fun o ↦ ∀ page, o = .ok page →
      (escaped (Money.format x currency p.numberTag)).toList <:+: page.toList := by
  obtain ⟨hdefines, hcarries⟩ := Bool.and_eq_true_iff.mp hpart
  obtain ⟨hdefines', hcarries'⟩ := Bool.and_eq_true_iff.mp ht
  have hbears : r.Bears now (totalMarks []) _ := h.bears hroot rfl (List.forall_mem_nil _)
  refine r.render_carries (h.bears hroot rfl ?_) hdefines' hcarries'
  intro name hname
  cases List.mem_singleton.mp hname
  exact ⟨by decide, part, hlookup, fun n ↦ r.showBody_carries hbears hdefines hcarries n part.name⟩

/-- The data of a message has the total of the payload in it, if that is a finite amount. -/
theorem charges_of_isFirst (r : Renderer) (locale : String)
    (hv : Payload.IsFirst v (Payload.candidates payload .total)) (hx : Money.amount? v = some x)
    (hfinite : x.isFinite = true) (now : Int) :
    ∃ members : Json.Members, (r.repertoire locale payload now).root = .obj members ∧
      Charges members (r.store.presentation r.logoUrl locale) v x
        (currencyOf ((Payload.detail? payload .currency).getD .null)) := by
  obtain ⟨members, hroot, hmembers⟩ := r.repertoire_detail locale payload now
  have htotal := hmembers .total (by decide)
  rw [Payload.detail?_eq_some_iff.mpr hv, Option.some_or] at htotal
  refine ⟨members, hroot, ?_, numberTag_ne_empty _ _ _, htotal, hx, hfinite,
    currencyOf_detail (hmembers .currency (by decide))⟩
  exact hroot ▸ r.repertoire_presents locale payload now

/-- No total is swallowed. Whatever the locale is, a message that puts in the table of payment
details has the total of the payload on its page, written in the currency of the payload and in the
style of the locale, if the total is a finite number or a text that reads as one. It may stand under
any of its names, and it may be zero. -/
theorem render_shows_total
    (hr : r.InUse (tree root) "templates" "templates/partials" store logoUrl)
    {m : String × String} (hm : m ∈ messages) (hparts : PutsIn "payment" m.2)
    (hv : Payload.IsFirst v (Payload.candidates payload .total)) (hx : Money.amount? v = some x)
    (hfinite : x.isFinite = true) (locale : String) (journal : Journal) {page : String}
    (hpage : ((r.render (tree root) m.1 locale payload).run journal).1.2 = .ok page) :
    (escaped (Money.format x (currencyOf ((Payload.detail? payload .currency).getD .null))
      (store.presentation logoUrl locale).numberTag)).toList <:+: page.toList := by
  obtain ⟨hstore, hlogo⟩ := texts_of_inUse hr
  obtain ⟨t, lib, hfetched, hcompile, hlib⟩ := (stocks_of_inUse hr).exists_fetched root hm
  obtain ⟨hrendered, -⟩ := r.render_gives (tree root) m.1 locale payload journal.now journal rfl
  rw [hrendered] at hpage
  obtain ⟨t', lib', hfetched', hpageAt⟩ := r.rendered_eq_ok (tree root) m.1 locale payload hpage
  cases hfetched.symm.trans hfetched'
  rw [Renderer.pageAt_eq] at hpageAt
  obtain ⟨members, hroot, hcharges⟩ :=
    charges_of_isFirst { r with library := lib } locale hv hx hfinite journal.now
  obtain ⟨part, hpart, hcarries⟩ := payment_carriesTotal
  have hlookup := hlib.part ("payment", payment) (by simp [parts]) part hpart
  have hshown : Gives journal.now _ _ :=
    page_shows_total hcharges hroot hlookup hcarries (carriesTotal_of_putsIn hm hparts hcompile)
  rw [← hstore, ← hlogo]
  exact (hshown { now := journal.now } rfl).1 page hpageAt

/-- A ride that costs nothing, which is written with digits and blanks where a total is only
estimated. -/
def freeRide : Json.Members := [("approxAmount", .str " 0.00 "), ("totalAmount", .str "")]

theorem freeRide_isBooking : Payload.IsBooking freeRide where
  flights := trivial
  passengers := trivial
  travellers := trivial
  rooms := trivial
  priceItems := trivial
  totalAmount := .inr ⟨0, rfl, by decide +kernel⟩

theorem render_shows_total_freeRide :
    ("transfer-reservation", transferReservation) ∈ messages ∧
      PutsIn "payment" transferReservation ∧
      Payload.IsFirst (.str " 0.00 ") (Payload.candidates freeRide .total) ∧
      Money.amount? (.str " 0.00 ") = some 0 ∧ (0 : Float).isFinite = true ∧
      ∃ r : Renderer, r.InUse (tree "") "templates" "templates/partials" Desk.noTexts none ∧
        ∃ page, ((r.render (tree "") "transfer-reservation" "en" freeRide).run {}).1.2 = .ok page ∧
          "₺0,00".toList <:+: page.toList := by
  have hm : ("transfer-reservation", transferReservation) ∈ messages := by simp [messages]
  have hparts : PutsIn "payment" transferReservation := (putsIn_payment_iff hm).mpr (by decide)
  have hv : Payload.IsFirst (.str " 0.00 ") (Payload.candidates freeRide .total) :=
    Payload.detail?_eq_some_iff.mp rfl
  have hx : Money.amount? (.str " 0.00 ") = some 0 := rfl
  have hfinite : (0 : Float).isFinite = true := by decide +kernel
  obtain ⟨⟨r, hr, -⟩, -⟩ := opened_stocks "" Desk.noTexts none {} rfl
  have hinUse : r.InUse (tree "") "templates" "templates/partials" Desk.noTexts none :=
    .opened {} hr
  obtain ⟨page, hpage⟩ :=
    ((stocks_of_inUse hinUse).render_ok "" hm "en" freeRide_isBooking {} rfl).1
  have hshown := render_shows_total hinUse hm hparts hv hx hfinite "en" {} hpage
  have htext : escaped (Money.format 0
      (currencyOf ((Payload.detail? freeRide .currency).getD .null))
      (Desk.noTexts.presentation none "en").numberTag) = "₺0,00" := by decide +kernel
  rw [htext] at hshown
  exact ⟨hm, hparts, hv, hx, hfinite, r, hinUse, page, hpage, hshown⟩

end Stock

end Mailroom
