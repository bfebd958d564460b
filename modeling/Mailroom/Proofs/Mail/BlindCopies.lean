import Mathlib.Algebra.Order.BigOperators.Group.List
import Mailroom.Proofs.Mail.Acceptance
import Mailroom.Proofs.Mail.Containment

/-!
# Blind copies

Who gets a blind copy is named to the relay, and stands in no header of the message. So two messages
that differ in that are the same data.

Who is named is read back from headers, though, and a header is read back whenever a mailbox is
added to it. A bare address is read as it is. Any other becomes a shorter one (`Stems`), and if that
cannot be read, everybody in the header is lost. So all whom a message goes to are named just if
their addresses are bare (`Courier.send_blind`).
-/

namespace Mailroom.Mail

variable {c : Char} {cs rest left : List Char} {s : String} {a : Address} {m : Mailbox}
  {ms : List Mailbox}

/-! ## Addresses that are read back -/

namespace Address

instance : DecidablePred IsBare := fun _ ↦ inferInstanceAs (Decidable (_ ∧ _ ∧ _))

/-- An address of a mailbox that has been read without a name. -/
structure IsHeld (a : Address) : Prop where
  user : isUser a.user = true
  domain : Domain.isAccepted a.domain = true
  dotted : IsDotted a.domain.toList

end Address

namespace Mailbox

/-- The parts that are read of an address: no name, and no other user if the address is bare.
Otherwise the user is no longer than it was. -/
structure ReadsAs (a : Address) (p : Option (List Char) × List Char × List Char) : Prop where
  name : p.1 = none
  user : p.2.1.length ≤ a.user.toList.length
  bare : a.IsBare → p.2.1 = a.user.toList
  domain : p.2.2 = a.domain.toList

theorem parts_append {u d : List Char} (hu : IsDotted u) (hd : IsDotted d)
    (hrest : EndsDotted rest) : parts (u ++ '@' :: (d ++ rest)) = some ((none, u, d), rest) := by
  rw [parts_of_user (owner_append hu _) (user_append hu (endsDotted_at _)),
    domain_append hd hrest]
  rfl

/-- An address in front of what ends it, with the blanks before it or without them, is taken and
what follows is left. -/
theorem parts_of_held {p : Option (List Char) × List Char × List Char} (ha : a.IsHeld)
    (hrest : EndsDotted rest)
    (hcs : cs = a.text.toList ++ rest ∨ cs = Text.trimLeft (a.text.toList ++ rest))
    (h : parts cs = some (p, left)) : ReadsAs a p ∧ left = rest := by
  have hwhole : a.text.toList ++ rest = a.user.toList ++ '@' :: (a.domain.toList ++ rest) := by
    rw [a.toList_text, List.append_assoc, List.cons_append]
  rw [hwhole] at hcs
  cases hquoted : Address.unquoted? a.user.toList with
  | some inner =>
    obtain ⟨hne, hcontent⟩ := Address.isQuotedContent_of_isUser ha.user hquoted
    have huser := Address.eq_of_unquoted? hquoted hne
    rw [huser, List.cons_append, List.append_assoc,
      Text.trimLeft_of_notBlank (Text.notBlank_cons.mpr (by decide)), or_self_iff] at hcs
    have htakes := quotation_append hcontent ('@' :: (a.domain.toList ++ rest))
    rw [hcs] at h
    rw [List.singleton_append, parts_of_user (owner_of_quotation htakes) (user_of_quotation htakes),
      domain_append ha.dotted hrest] at h
    cases h
    have hlength := length_said_le [] inner
    refine ⟨⟨rfl, ?_, fun hbare ↦ absurd hbare.2.1 (by simp [hquoted]), rfl⟩, rfl⟩
    dsimp only
    rw [huser, List.length_cons, List.length_append]
    rw [List.length_nil] at hlength
    omega
  | none =>
    have hdotted := Address.isDotted_of_isUser ha.user hquoted
    rw [Text.trimLeft_append_cons (by decide)] at hcs
    obtain rfl | rfl := hcs
    · rw [parts_append hdotted ha.dotted hrest] at h
      cases h
      exact ⟨⟨rfl, Nat.le_refl _, fun _ ↦ rfl, rfl⟩, rfl⟩
    · obtain htrimmed | hblank := Address.trimLeft_cases hdotted
      · rw [parts_append htrimmed ha.dotted hrest] at h
        cases h
        exact ⟨⟨rfl, length_dropWhile_le _ _, fun hbare ↦ Text.trimLeft_of_notBlank hbare.2.2, rfl⟩,
          rfl⟩
      · obtain hnil | ⟨cs, hdot⟩ := hblank
        · rw [hnil, List.nil_append, parts_of_head (.inl rfl)] at h
          cases h
        · rw [hdot, List.cons_append, parts_of_head (.inr rfl)] at h
          cases h

/-! ### Lists -/

/-- A mailbox without a name. -/
def unnamed (a : Address) : Mailbox := { address := a }

theorem text_unnamed (a : Address) : (unnamed a).text = a.text := by
  have hname : Text.trim "" = "" := by decide
  unfold text
  exact if_pos hname

/-- The text of a list of mailboxes without names. -/
def listed (as : List Address) : List Char := [',', ' '].intercalate (as.map (·.text.toList))

theorem toList_listText (as : List Address) : (listText (as.map unnamed)).toList = listed as := by
  have hcomma : ", ".toList = [',', ' '] := by decide
  rw [listText, String.toList_intercalate, hcomma, List.map_map, List.map_map, listed]
  exact congrArg _ (List.map_congr_left fun a _ ↦ congrArg String.toList (text_unnamed a))

variable {as bs : List Address} {b : Address}

theorem listed_singleton (a : Address) : listed [a] = a.text.toList := List.intercalate_singleton

theorem listed_cons_cons (a b : Address) (as : List Address) :
    listed (a :: b :: as) = a.text.toList ++ ',' :: ' ' :: listed (b :: as) := by
  rw [listed, List.map_cons, List.map_cons, List.intercalate_cons_cons, List.append_assoc]
  rfl

theorem endsDotted_comma (cs : List Char) : EndsDotted (',' :: cs) := by
  rintro _ ⟨⟩
  decide

/-- Behind an address and a comma the list goes on, without the blanks in front of it. -/
theorem listParts_comma {n : Nat} {p : Option (List Char) × List Char × List Char}
    (h : parts cs = some (p, ',' :: ' ' :: rest)) :
    listParts (n + 1) cs = match listParts n (Text.trimLeft rest) with
      | some (ps, rest) => some (p :: ps, rest)
      | none => some ([p], ',' :: ' ' :: rest) := by
  rw [listParts, h]
  dsimp only [Option.bind_eq_bind, Option.bind_some]
  rw [Text.trimLeft_of_notBlank (Text.notBlank_cons.mpr (by decide))]
  rfl

theorem listParts_end {n : Nat} {p : Option (List Char) × List Char × List Char}
    (h : parts cs = some (p, [])) : listParts (n + 1) cs = some ([p], []) := by
  rw [listParts, h]
  rfl

theorem listParts_of_held {n : Nat} {ps : List (Option (List Char) × List Char × List Char)}
    (has : ∀ b ∈ a :: as, b.IsHeld)
    (hcs : cs = listed (a :: as) ∨ cs = Text.trimLeft (listed (a :: as)))
    (h : listParts n cs = some (ps, [])) : List.Forall₂ ReadsAs (a :: as) ps := by
  induction as generalizing a n cs ps with
  | nil =>
    cases n with
    | zero => cases h
    | succ n =>
      obtain ⟨⟨p, rest⟩, hp, -⟩ := Option.bind_eq_some_iff.mp h
      rw [listed_singleton, ← List.append_nil a.text.toList] at hcs
      obtain ⟨hreads, rfl⟩ := parts_of_held (has a List.mem_cons_self) endsDotted_nil hcs hp
      rw [listParts_end hp] at h
      cases h
      exact .cons hreads .nil
  | cons b as ih =>
    obtain ⟨ha, has⟩ := List.forall_mem_cons.mp has
    cases n with
    | zero => cases h
    | succ n =>
      obtain ⟨⟨p, rest⟩, hp, -⟩ := Option.bind_eq_some_iff.mp h
      rw [listed_cons_cons] at hcs
      obtain ⟨hreads, rfl⟩ := parts_of_held ha (endsDotted_comma _) hcs hp
      rw [listParts_comma hp] at h
      split at h
      · rename_i ps' rest' hmore
        cases h
        exact .cons hreads (ih has (.inr rfl) hmore)
      · cases h

theorem parts_of_bare (ha : a.IsHeld) (hbare : a.IsBare) (hrest : EndsDotted rest) :
    parts (a.text.toList ++ rest) =
      some ((none, a.user.toList, a.domain.toList), rest) := by
  rw [a.toList_text, List.append_assoc]
  exact parts_append (Address.isDotted_of_isUser ha.user hbare.2.1) ha.dotted hrest

theorem notBlank_listed (hbare : a.IsBare) (as : List Address) :
    Text.NotBlank (listed (a :: as)) := by
  cases as with
  | nil =>
    rw [listed_singleton, a.toList_text]
    exact Text.notBlank_append_cons hbare.2.2 (by decide)
  | cons b as =>
    rw [listed_cons_cons, a.toList_text, List.append_assoc]
    exact Text.notBlank_append_cons hbare.2.2 (by decide)

/-- A list of bare addresses is read back to its end. -/
theorem listParts_of_bare {n : Nat} (has : ∀ b ∈ a :: as, b.IsHeld)
    (hbare : ∀ b ∈ a :: as, b.IsBare) (hn : (a :: as).length ≤ n) :
    listParts n (listed (a :: as)) =
      some ((a :: as).map fun b ↦ (none, b.user.toList, b.domain.toList), []) := by
  induction as generalizing a n with
  | nil =>
    cases n with
    | zero => cases hn
    | succ n =>
      have hp := parts_of_bare (has a List.mem_cons_self) (hbare a List.mem_cons_self)
        endsDotted_nil
      rw [List.append_nil] at hp
      rw [listed_singleton, listParts_end hp]
      rfl
  | cons b as ih =>
    obtain ⟨ha, has⟩ := List.forall_mem_cons.mp has
    obtain ⟨hbare, hbares⟩ := List.forall_mem_cons.mp hbare
    cases n with
    | zero => cases hn
    | succ n =>
      have hp := parts_of_bare ha hbare (endsDotted_comma (' ' :: listed (b :: as)))
      rw [listed_cons_cons, listParts_comma hp,
        Text.trimLeft_of_notBlank (notBlank_listed (hbares b List.mem_cons_self) as),
        ih has hbares (Nat.le_of_succ_le_succ hn)]
      rfl

/-- What an address may have become when it is read back: itself if it is bare, and otherwise an
address that is no longer. -/
structure Becomes (a b : Address) : Prop where
  held : b.IsHeld
  length : b.text.length ≤ a.text.length
  bare : a.IsBare → b = a

theorem ReadsAs.becomes {p : Option (List Char) × List Char × List Char} (ha : a.IsHeld)
    (hp : ReadsAs a p) (h : ofParts p = .ok m) : ∃ b, m = unnamed b ∧ Becomes a b := by
  obtain ⟨name, u, d⟩ := p
  obtain ⟨rfl, hlength, hbare, rfl⟩ := hp
  obtain ⟨b, hb, ⟨⟩⟩ := bind_eq_ok.mp h
  obtain ⟨huser, hdomain, rfl⟩ := Address.ofParts_eq_ok.mp hb
  rw [String.ofList_toList] at hdomain ⊢
  refine ⟨_, rfl, ⟨huser, hdomain, ha.dotted⟩, ?_, fun ha ↦ ?_⟩
  · rw [← String.length_toList, ← String.length_toList, Address.toList_text, Address.toList_text,
      String.toList_ofList, List.length_append, List.length_append]
    exact Nat.add_le_add_right hlength _
  · dsimp only at hbare
    rw [hbare ha, String.ofList_toList]

theorem mapM_becomes {ps : List (Option (List Char) × List Char × List Char)}
    (has : ∀ a ∈ as, a.IsHeld) (hps : List.Forall₂ ReadsAs as ps) (h : ps.mapM ofParts = .ok ms) :
    ∃ bs : List Address, ms = bs.map unnamed ∧ ∀ b ∈ bs, ∃ a ∈ as, Becomes a b := by
  induction hps generalizing ms with
  | nil =>
    cases h
    exact ⟨[], rfl, nofun⟩
  | cons hp _ ih =>
    obtain ⟨ha, has⟩ := List.forall_mem_cons.mp has
    rw [List.mapM_cons] at h
    obtain ⟨m, hm, h⟩ := bind_eq_ok.mp h
    obtain ⟨ms', hms, ⟨⟩⟩ := bind_eq_ok.mp h
    obtain ⟨b, rfl, hb⟩ := hp.becomes ha hm
    obtain ⟨bs, rfl, hbs⟩ := ih has hms
    refine ⟨b :: bs, rfl, List.forall_mem_cons.mpr ⟨⟨_, List.mem_cons_self, hb⟩, fun c hc ↦ ?_⟩⟩
    obtain ⟨a, ha, hac⟩ := hbs c hc
    exact ⟨a, List.mem_cons_of_mem _ ha, hac⟩

/-- What is read back of a list is what some of its addresses have become. -/
theorem listOfText_becomes (has : ∀ a ∈ as, a.IsHeld)
    (h : listOfText (listText (as.map unnamed)) = .ok ms) :
    ∃ bs : List Address, ms = bs.map unnamed ∧ ∀ b ∈ bs, ∃ a ∈ as, Becomes a b := by
  cases as with
  | nil => cases h
  | cons a as =>
    unfold listOfText at h
    split at h
    · rename_i ps hps
      rw [toList_listText] at hps
      exact mapM_becomes has (listParts_of_held has (.inl rfl) hps) h
    · cases h

theorem length_le_listed (as : List Address) : as.length ≤ (listed as).length := by
  induction as with
  | nil => exact Nat.zero_le _
  | cons a as ih =>
    have hpos : 0 < a.text.toList.length := by
      rw [a.toList_text, List.length_append, List.length_cons]
      omega
    cases as with
    | nil =>
      rw [listed_singleton]
      exact hpos
    | cons b as =>
      simp only [listed_cons_cons, List.length_append, List.length_cons] at ih ⊢
      omega

theorem mapM_ofParts (has : ∀ a ∈ as, a.IsHeld) :
    (as.map fun b ↦ (none, b.user.toList, b.domain.toList)).mapM ofParts =
      .ok (as.map unnamed) := by
  induction as with
  | nil => rfl
  | cons a as ih =>
    obtain ⟨ha, has⟩ := List.forall_mem_cons.mp has
    have hparts : ofParts (none, a.user.toList, a.domain.toList) = .ok (unnamed a) := by
      rw [ofParts_eq ha.domain, String.ofList_toList, if_pos ha.user]
      rfl
    rw [List.map_cons, List.mapM_cons, hparts, ih has]
    rfl

/-- Bare addresses are read back as they are. -/
theorem listOfText_bare (hne : as ≠ []) (has : ∀ a ∈ as, a.IsHeld) (hbare : ∀ a ∈ as, a.IsBare) :
    listOfText (listText (as.map unnamed)) = .ok (as.map unnamed) := by
  obtain ⟨a, as, rfl⟩ := List.exists_cons_of_ne_nil hne
  have hlength : (a :: as).length ≤ (listText ((a :: as).map unnamed)).length + 1 := by
    rw [← String.length_toList, toList_listText]
    exact Nat.le_succ_of_le (length_le_listed _)
  have hparts := listParts_of_bare has hbare hlength
  unfold listOfText
  rw [toList_listText, hparts]
  exact mapM_ofParts has

end Mailbox

/-! ## What stems from an address -/

/-- A bare address. -/
def IsBareAddress (s : String) : Prop := ∃ a, Address.ofText s = .ok a ∧ a.IsBare

instance : DecidablePred IsBareAddress := fun s ↦
  match h : Address.ofText s with
  | .ok a => decidable_of_iff a.IsBare
      ⟨fun ha ↦ ⟨a, h, ha⟩, fun ⟨_, hb, ha⟩ ↦ Except.ok.inj (h.symm.trans hb) ▸ ha⟩
  | .error _ => isFalse fun ⟨_, hb, _⟩ ↦ nomatch h.symm.trans hb

/-- An address that stems from a given one: that address itself if it is bare, and otherwise a
shorter one. -/
inductive Stems (s : String) (a : Address) : Prop where
  | same (h : Address.ofText s = .ok a) (hbare : a.IsBare)
  | shorter (h : ¬IsBareAddress s) (hlength : a.text.length < s.length)

theorem Stems.becomes {b : Address} (h : Stems s a) (hb : Mailbox.Becomes a b) : Stems s b := by
  cases h with
  | same h hbare => exact hb.bare hbare ▸ .same h hbare
  | shorter h hlength => exact .shorter h (Nat.lt_of_le_of_lt hb.length hlength)

theorem Stems.isBare (h : Stems s a) (hs : IsBareAddress s) : a.IsBare ∧ a.text = s := by
  cases h with
  | same h hbare => exact ⟨hbare, Address.text_of_ofText h⟩
  | shorter h _ => exact absurd hs h

theorem length_readUser_lt (h : Address.isUser a.user = true) (hne : a.readUser ≠ a.user.toList) :
    a.readUser.length < a.user.toList.length := by
  unfold Address.readUser at hne ⊢
  cases hquoted : Address.unquoted? a.user.toList with
  | some inner =>
    have hlength := length_said_le [] inner
    rw [List.length_nil] at hlength
    rw [Address.eq_of_unquoted? hquoted (Address.isQuotedContent_of_isUser h hquoted).1,
      List.length_cons, List.length_append]
    dsimp only
    omega
  | none =>
    rw [hquoted] at hne
    have hsuffix : Text.trimLeft a.user.toList <:+ a.user.toList := List.dropWhile_suffix _
    exact Nat.lt_of_le_of_ne hsuffix.length_le fun heq ↦ hne (hsuffix.eq_of_length heq)

/-- What is read of an address that is accepted stems from it. -/
theorem stems_of_ofText (h : Address.ofText s = .ok a) (hm : Mailbox.ofText s = .ok m) :
    ∃ b, m = Mailbox.unnamed b ∧ b.IsHeld ∧ Stems s b := by
  obtain ⟨hs, huser, hdomain⟩ := Address.ofText_eq_ok h
  have hreadable := (Mailbox.ofText_ok_iff h).mp ⟨m, hm⟩
  by_cases hbare : a.IsBare
  · have hread := (Mailbox.ofText_eq_bare_iff h).mpr hbare
    cases hm.symm.trans hread
    exact ⟨a, rfl, ⟨huser, hdomain, hbare.1⟩, .same h hbare⟩
  · have hread := (Mailbox.ofText_readable h).1 hreadable
    cases hm.symm.trans hread
    refine ⟨_, rfl, ⟨hreadable.2, hdomain, hreadable.1⟩, .shorter ?_ ?_⟩
    · rintro ⟨a', ha', hbare'⟩
      cases h.symm.trans ha'
      exact hbare hbare'
    · have hne : a.readUser ≠ a.user.toList := fun heq ↦
        hbare ⟨hreadable.1, (Mailbox.readUser_eq_iff huser).mp heq⟩
      have hlength := length_readUser_lt huser hne
      rw [← String.length_toList, ← String.length_toList, hs, Address.toList_text,
        String.toList_ofList, List.length_append, List.length_append]
      exact Nat.add_lt_add_right hlength _

/-- The addresses that a header has for some texts. -/
structure HeldFor (as : List String) (bs : List Address) : Prop where
  held : ∀ b ∈ bs, b.IsHeld
  stems : ∀ b ∈ bs, ∃ s ∈ as, Stems s b
  bare : (∀ s ∈ as, IsBareAddress s) → bs.map Address.text = as

namespace HeldFor

variable {as as' : List String} {bs bs' : List Address} {b : Address}

theorem nil : HeldFor [] [] := ⟨nofun, nofun, fun _ ↦ rfl⟩

theorem append (h : HeldFor as bs) (h' : HeldFor as' bs') : HeldFor (as ++ as') (bs ++ bs') := by
  refine ⟨List.forall_mem_append.mpr ⟨h.held, h'.held⟩,
    List.forall_mem_append.mpr ⟨fun b hb ↦ ?_, fun b hb ↦ ?_⟩, fun hbare ↦ ?_⟩
  · obtain ⟨s, hs, hstems⟩ := h.stems b hb
    exact ⟨s, List.mem_append_left _ hs, hstems⟩
  · obtain ⟨s, hs, hstems⟩ := h'.stems b hb
    exact ⟨s, List.mem_append_right _ hs, hstems⟩
  · obtain ⟨has, has'⟩ := List.forall_mem_append.mp hbare
    rw [List.map_append, h.bare has, h'.bare has']

theorem singleton (hb : b.IsHeld) (h : Stems s b) : HeldFor [s] [b] where
  held := List.forall_mem_singleton.mpr hb
  stems := List.forall_mem_singleton.mpr ⟨s, List.mem_singleton_self s, h⟩
  bare hbare := congrArg ([·]) (h.isBare (hbare s (List.mem_singleton_self s))).2

theorem isBare (h : HeldFor as bs) (has : ∀ s ∈ as, IsBareAddress s) : ∀ b ∈ bs, b.IsBare := by
  intro b hb
  obtain ⟨s, hs, hstems⟩ := h.stems b hb
  exact (hstems.isBare (has s hs)).1

/-- What a header has for some texts it still has when its mailboxes are read back. -/
theorem reread (h : HeldFor as bs) (hne : bs ≠ []) : ∃ bs',
    (Mailbox.listOfText (Mailbox.listText (bs.map Mailbox.unnamed))).toOption.getD [] =
      bs'.map Mailbox.unnamed ∧ HeldFor as bs' := by
  have hbare (has : ∀ s ∈ as, IsBareAddress s) :=
    Mailbox.listOfText_bare hne h.held (h.isBare has)
  cases hlist : Mailbox.listOfText (Mailbox.listText (bs.map Mailbox.unnamed)) with
  | error e =>
    refine ⟨[], rfl, nofun, nofun, fun has ↦ ?_⟩
    cases hlist.symm.trans (hbare has)
  | ok ms =>
    obtain ⟨bs', rfl, hfrom⟩ := Mailbox.listOfText_becomes h.held hlist
    refine ⟨bs', rfl, fun b' hb' ↦ ?_, fun b' hb' ↦ ?_, fun has ↦ ?_⟩
    · obtain ⟨b, -, hb⟩ := hfrom b' hb'
      exact hb.held
    · obtain ⟨b, hb, hbb'⟩ := hfrom b' hb'
      obtain ⟨s, hs, hstems⟩ := h.stems b hb
      exact ⟨s, hs, hstems.becomes hbb'⟩
    · have hinjective : Function.Injective Mailbox.unnamed :=
        fun a b hab ↦ congrArg Mailbox.address hab
      have hsame := Except.ok.inj (hlist.symm.trans (hbare has))
      rw [← h.bare has, List.map_injective_iff.mpr hinjective hsame]

/-- The longest address that is not bare stems from none of them. -/
theorem forall_mem_iff (h : HeldFor as bs) :
    (∀ s ∈ as, s ∈ bs.map Address.text) ↔ ∀ s ∈ as, IsBareAddress s := by
  constructor
  · intro hall
    by_contra hnone
    have hgrow : ∀ n, ∃ s ∈ as, ¬IsBareAddress s ∧ n ≤ s.length := by
      intro n
      induction n with
      | zero =>
        obtain ⟨s, hs⟩ := not_forall.mp hnone
        obtain ⟨hs, hbare⟩ := Classical.not_imp.mp hs
        exact ⟨s, hs, hbare, Nat.zero_le _⟩
      | succ n ih =>
        obtain ⟨s, hs, hbare, hn⟩ := ih
        obtain ⟨b, hb, rfl⟩ := List.mem_map.mp (hall s hs)
        obtain ⟨t, ht, hstems⟩ := h.stems b hb
        cases hstems with
        | same heq hb => exact absurd ⟨b, Address.text_of_ofText heq ▸ heq, hb⟩ hbare
        | shorter hbare hlength => exact ⟨t, ht, hbare, Nat.lt_of_le_of_lt hn hlength⟩
    obtain ⟨s, hs, -, hlength⟩ := hgrow ((as.map String.length).sum + 1)
    exact absurd (List.le_sum_of_mem (List.mem_map_of_mem hs)) (Nat.not_le.mpr hlength)
  · intro hbare
    rw [h.bare hbare]
    exact fun s hs ↦ hs

end HeldFor

/-! ## Headers for addresses -/

namespace Headers

variable {name other : String} {h : Header} {hs hs' : Headers} {as before : List String}
  {bs : List Address}

/-- The mailboxes that a header holds, or none if it cannot be read. -/
def held (name : String) (hs : Headers) : List Mailbox := (hs.mailboxes? name).getD []

theorem find?_set (h : Header) (hs : Headers) :
    (hs.set h).find? (·.name == h.name) = some h := by
  induction hs with
  | nil => exact List.find?_cons_of_pos (beq_self_eq_true _)
  | cons g hs ih =>
    rw [set]
    split
    · exact List.find?_cons_of_pos (beq_self_eq_true _)
    · rename_i hne
      rw [List.find?_cons_of_neg (by simpa using hne), ih]

theorem find?_set_of_ne (hne : h.name ≠ name) (hs : Headers) :
    (hs.set h).find? (·.name == name) = hs.find? (·.name == name) := by
  induction hs with
  | nil => exact List.find?_cons_of_neg (by simpa using hne)
  | cons g hs ih =>
    rw [set]
    split
    · rename_i hsame
      rw [List.find?_cons_of_neg (by simpa using hne),
        List.find?_cons_of_neg (by simpa [hsame] using hne)]
    · rw [List.find?_cons, List.find?_cons, ih]

theorem held_addMailbox (name : String) (m : Mailbox) (hs : Headers) :
    (hs.addMailbox name m).held name =
      (Mailbox.listOfText (Mailbox.listText (hs.held name ++ [m]))).toOption.getD [] := by
  rw [held, mailboxes?, addMailbox]
  have hfind := find?_set (.ofMailboxes name ((hs.mailboxes? name).getD [] ++ [m])) hs
  exact congrArg (fun o : Option Header ↦
    (do let h ← o; (Mailbox.listOfText h.value).toOption).getD []) hfind

theorem mailboxes?_addMailbox_of_ne (hne : name ≠ other) (m : Mailbox) (hs : Headers) :
    (hs.addMailbox name m).mailboxes? other = hs.mailboxes? other := by
  rw [mailboxes?, addMailbox, find?_set_of_ne (by exact hne)]
  rfl

theorem held_addAll_of_ne (hne : name ≠ other) (h : hs.addAll name as = .ok hs') :
    hs'.held other = hs.held other :=
  addAll_preserves (P := (held other · = hs.held other)) h
    (fun g m _ hg ↦ (congrArg (·.getD []) (mailboxes?_addMailbox_of_ne hne m g)).trans hg) rfl

/-- The mailboxes that a header holds when some have been added. -/
theorem held_addAll (h : hs.addAll name as = .ok hs')
    (has : ∀ s ∈ as, ∃ a, Address.ofText s = .ok a) (hhs : hs.held name = bs.map Mailbox.unnamed)
    (hbefore : HeldFor before bs) :
    ∃ bs', hs'.held name = bs'.map Mailbox.unnamed ∧ HeldFor (before ++ as) bs' := by
  induction as generalizing hs before bs with
  | nil =>
    cases h
    exact ⟨bs, hhs, by rwa [List.append_nil]⟩
  | cons s as ih =>
    obtain ⟨⟨a, ha⟩, has⟩ := List.forall_mem_cons.mp has
    obtain ⟨m, hm, h⟩ := addAll_cons h
    obtain ⟨b, rfl, hb, hstems⟩ := stems_of_ofText ha hm
    obtain ⟨bs', hbs', hheld⟩ := (hbefore.append (.singleton hb hstems)).reread (by simp)
    have hadded : (hs.addMailbox name (.unnamed b)).held name = bs'.map Mailbox.unnamed := by
      rw [held_addMailbox, hhs, ← hbs', List.map_append]
      rfl
    obtain ⟨bs'', hbs'', hheld'⟩ := ih h has hadded hheld
    rw [List.append_assoc] at hheld'
    exact ⟨bs'', hbs'', hheld'⟩

theorem held_addAll_of_nil (h : hs.addAll name as = .ok hs')
    (has : ∀ s ∈ as, ∃ a, Address.ofText s = .ok a) (hhs : hs.held name = []) :
    ∃ bs', hs'.held name = bs'.map Mailbox.unnamed ∧ HeldFor as bs' :=
  have hnone : hs.held name = ([] : List Address).map Mailbox.unnamed := hhs
  held_addAll h has hnone .nil

/-- A header that is left out is left out before other mailboxes are added or afterwards. -/
theorem filter_set_of_ne (hne : h.name ≠ other) :
    (hs.set h).filter (·.name != other) = Headers.set h (hs.filter (·.name != other)) := by
  induction hs with
  | nil => exact List.filter_cons_of_pos (by simpa using hne)
  | cons g hs ih =>
    rw [set]
    split
    · rename_i hsame
      rw [List.filter_cons_of_pos (by simpa using hne),
        List.filter_cons_of_pos (by simpa [hsame] using hne), set, if_pos hsame]
    · rename_i hdiffer
      rw [List.filter_cons, List.filter_cons, ih]
      split
      · rw [set, if_neg hdiffer]
      · rfl

theorem mailboxes?_filter (hne : name ≠ other) (hs : Headers) :
    mailboxes? name (hs.filter (·.name != other)) = hs.mailboxes? name := by
  have hfind : (hs.filter (·.name != other)).find? (·.name == name) =
      hs.find? (·.name == name) := by
    rw [List.find?_filter]
    refine congrArg (hs.find? ·) (funext fun h ↦ ?_)
    by_cases heq : h.name = name
    · simp [heq, hne]
    · simp [heq]
  rw [mailboxes?, hfind]
  rfl

theorem filter_addMailbox_of_ne (hne : name ≠ other) (m : Mailbox) (hs : Headers) :
    (hs.addMailbox name m).filter (·.name != other) =
      addMailbox name m (hs.filter (·.name != other)) := by
  rw [addMailbox, addMailbox, mailboxes?_filter hne]
  exact filter_set_of_ne hne

theorem addAll_filter (hne : name ≠ other) (h : hs.addAll name as = .ok hs') :
    addAll name as (hs.filter (·.name != other)) = .ok (hs'.filter (·.name != other)) := by
  induction as generalizing hs with
  | nil =>
    cases h
    rfl
  | cons s as ih =>
    obtain ⟨m, hm, h⟩ := addAll_cons h
    rw [addAll, List.foldlM_cons, hm]
    have hrest := ih h
    rw [filter_addMailbox_of_ne hne] at hrest
    exact hrest

end Headers

/-! ## Messages -/

namespace Message

open Headers (held)

variable {sender : Mailbox} {image : Option InlineImage} {stamp : Stamp} {m : Outgoing}
  {message message' : Message} {hs hs' : Headers} {bcc : List String}

theorem recipients_of_envelopeOf {e : Envelope} (h : envelopeOf hs = .ok e) :
    e.recipients = (hs.held "To" ++ hs.held "Cc" ++ hs.held "Bcc").map Mailbox.address := by
  rw [List.map_append, List.map_append]
  unfold envelopeOf at h
  split at h
  · change (if _ then _ else _) = _ at h
    split at h
    · cases h
    · cases h
      rfl
  · cases h

theorem held_heading (h : heading sender stamp m = .ok hs)
    (has : ∀ s ∈ m.recipients, ∃ a, Address.ofText s = .ok a) :
    ∃ bs, hs.held "To" ++ hs.held "Cc" ++ hs.held "Bcc" = bs.map Mailbox.unnamed ∧
      HeldFor m.recipients bs := by
  obtain ⟨hs₁, hs₂, hs₃, h₁, h₂, h₃, h₄⟩ := heading_eq_ok.mp h
  simp only [Outgoing.recipients, List.forall_mem_append] at has
  obtain ⟨⟨hto, hcc⟩, hbcc⟩ := has
  obtain ⟨tos, htos, hheldTo⟩ := Headers.held_addAll_of_nil h₁ hto rfl
  have hnoCc : hs₁.held "Cc" = [] := Headers.held_addAll_of_ne (by decide) h₁
  obtain ⟨ccs, hccs, hheldCc⟩ := Headers.held_addAll_of_nil h₂ hcc hnoCc
  have hnoBcc : hs₂.held "Bcc" = [] :=
    (Headers.held_addAll_of_ne (by decide) h₂).trans (Headers.held_addAll_of_ne (by decide) h₁)
  obtain ⟨bccs, hbccs, hheldBcc⟩ := Headers.held_addAll_of_nil h₃ hbcc hnoBcc
  refine ⟨tos ++ ccs ++ bccs, ?_, (hheldTo.append hheldCc).append hheldBcc⟩
  rw [Headers.held_addAll_of_ne (by decide) h₄, Headers.held_addAll_of_ne (by decide) h₃,
    Headers.held_addAll_of_ne (by decide) h₂, htos, Headers.held_addAll_of_ne (by decide) h₄,
    Headers.held_addAll_of_ne (by decide) h₃, hccs, Headers.held_addAll_of_ne (by decide) h₄, hbccs,
    List.map_append, List.map_append]

/-- The envelope of a message has what its headers have for the addresses that it goes to. -/
theorem heldFor_recipients (h : make sender image stamp m = .ok message)
    (has : ∀ s ∈ m.recipients, ∃ a, Address.ofText s = .ok a) :
    HeldFor m.recipients message.envelope.recipients := by
  obtain ⟨hs, text, hheading, henvelope, -, -⟩ := make_eq_ok h
  obtain ⟨bs, hbs, hheld⟩ := held_heading hheading has
  rw [recipients_of_envelopeOf henvelope, hbs, List.map_map]
  exact (List.map_id' bs).symm ▸ hheld

/-- Who gets a blind copy makes no difference to the other headers. -/
theorem filter_heading (h : heading sender stamp m = .ok hs)
    (h' : heading sender stamp { m with bcc } = .ok hs') :
    hs.filter (·.name != "Bcc") = hs'.filter (·.name != "Bcc") := by
  obtain ⟨hs₁, hs₂, hs₃, h₁, h₂, h₃, h₄⟩ := heading_eq_ok.mp h
  obtain ⟨hs₁', hs₂', hs₃', h₁', h₂', h₃', h₄'⟩ := heading_eq_ok.mp h'
  cases h₁.symm.trans h₁'
  cases h₂.symm.trans h₂'
  have hbcc {g : Headers} {as : List String} (hg : hs₂.addAll "Bcc" as = .ok g) :
      g.filter (·.name != "Bcc") = hs₂.filter (·.name != "Bcc") :=
    Headers.addAll_preserves (P := fun g ↦ g.filter (·.name != "Bcc") = _) hg
      (fun g m _ hg ↦ (Headers.filter_addMailbox "Bcc" m g).trans hg) rfl
  have hkept : "Reply-To" ≠ "Bcc" := by decide
  have hreplyTo := Headers.addAll_filter hkept h₄
  have hreplyTo' := Headers.addAll_filter hkept h₄'
  rw [hbcc h₃] at hreplyTo
  rw [hbcc h₃'] at hreplyTo'
  exact Except.ok.inj (hreplyTo.symm.trans hreplyTo')

theorem text_eq_of_bcc (h : make sender image stamp m = .ok message)
    (h' : make sender image stamp { m with bcc } = .ok message') :
    message.text = message'.text := by
  obtain ⟨hs, text, hheading, -, hcontent, htext⟩ := make_eq_ok h
  obtain ⟨hs', text', hheading', -, hcontent', htext'⟩ := make_eq_ok h'
  cases hcontent.symm.trans hcontent'
  rw [htext, htext', sentHeaders, sentHeaders, filter_heading hheading hheading']

theorem data_eq (h : message.text = message'.text) : message.data = message'.data := by
  cases message
  cases message'
  cases h
  rfl

end Message

/-! ## Couriers -/

namespace Courier

open Journal (answerAt)

/-- A message is handed over when everybody in its envelope has been named. All addresses that it
goes to are named just if they are all bare, and then these are the ones that are named. -/
def NamesRecipients (m : Outgoing) (said : List Said) (d : String) : Prop :=
  ∃ message opening options, Commands opening ∧ said = opening ++ Talk.deliveryOf message options ∧
    d = message.data ∧
    ((∀ s ∈ m.recipients, s ∈ message.envelope.recipients.map Address.text) ↔
      ∀ s ∈ m.recipients, IsBareAddress s) ∧
    ((∀ s ∈ m.recipients, IsBareAddress s) →
      message.envelope.recipients.map Address.text = m.recipients)

theorem send_namesRecipients (c : Courier) (relay : Relay) (fresh : Fresh) (now : Int)
    {m : Outgoing} (has : ∀ s ∈ m.recipients, isAddress s = true) {d : String}
    (hd : .data d ∈ (answerAt now (c.send relay fresh m)).1) :
    NamesRecipients m (answerAt now (c.send relay fresh m)).1 d := by
  obtain ⟨message, opening, options, hopening, hmake, rfl, hsaid⟩ := exists_of_mem_send hd
  have hheld := Message.heldFor_recipients hmake
    fun s hs ↦ Submission.isAddress_eq_true_iff.mp (has s hs)
  exact ⟨message, opening, options, hopening, hsaid, rfl, hheld.forall_mem_iff, hheld.bare⟩

/-- Two messages that differ in who gets a blind copy are handed over as the same data. For each
everybody is named to the relay before, if all addresses that it goes to are bare. -/
theorem send_blind (c : Courier) (relay relay' : Relay) (fresh : Fresh) (now : Int) (m : Outgoing)
    (bcc : List String) (has : ∀ s ∈ m.recipients, isAddress s = true)
    (hbcc : ∀ s ∈ bcc, isAddress s = true) {d d' : String}
    (hd : .data d ∈ (answerAt now (c.send relay fresh m)).1)
    (hd' : .data d' ∈ (answerAt now (c.send relay' fresh { m with bcc })).1) :
    d = d' ∧ NamesRecipients m (answerAt now (c.send relay fresh m)).1 d ∧
      NamesRecipients { m with bcc } (answerAt now (c.send relay' fresh { m with bcc })).1 d' := by
  obtain ⟨message, -, -, -, hmake, rfl, -⟩ := exists_of_mem_send hd
  obtain ⟨message', -, -, -, hmake', rfl, -⟩ := exists_of_mem_send hd'
  have has' : ∀ s ∈ ({ m with bcc } : Outgoing).recipients, isAddress s = true :=
    List.forall_mem_append.mpr ⟨(List.forall_mem_append.mp has).1, hbcc⟩
  exact ⟨Message.data_eq (Message.text_eq_of_bcc hmake hmake'),
    send_namesRecipients c relay fresh now has hd, send_namesRecipients c relay' fresh now has' hd'⟩

/-- A message in the name of a service, with a blind copy for one reader. -/
def blindCopyFor (reader : String) : Outgoing where
  addressees := ["ann@example.org"]
  subject := "Hello"
  html := "<p>"
  cc := ["bob@example.org"]
  bcc := [reader]

/-- The courier of the service. -/
def serviceCourier : Courier where
  sender := Submission.serviceMailbox

/-- One is handed over with a blind copy for Carol and the other with one for Dave. -/
theorem send_blind_carol_dave :
    ∃ d, .data d ∈ (answerAt 0
        (serviceCourier.send .accepting ⟨"1", "b"⟩ (blindCopyFor "carol@example.org"))).1 ∧
      .data d ∈ (answerAt 0
        (serviceCourier.send .accepting ⟨"1", "b"⟩ (blindCopyFor "dave@example.org"))).1 ∧
      .command "RCPT TO:<carol@example.org>" ∈ (answerAt 0
        (serviceCourier.send .accepting ⟨"1", "b"⟩ (blindCopyFor "carol@example.org"))).1 := by
  have hmake : ∃ message, Message.make serviceCourier.sender serviceCourier.image
      (serviceCourier.stampAt ⟨"1", "b"⟩ 0) (blindCopyFor "carol@example.org") = .ok message := by
    decide +kernel
  have hmake' : ∃ message, Message.make serviceCourier.sender serviceCourier.image
      (serviceCourier.stampAt ⟨"1", "b"⟩ 0) (blindCopyFor "dave@example.org") = .ok message := by
    decide +kernel
  obtain ⟨message, hmake⟩ := hmake
  obtain ⟨message', hmake'⟩ := hmake'
  have hd := mem_send_accepting rfl hmake
  have hd' := mem_send_accepting rfl hmake'
  obtain ⟨hsame, ⟨_, opening, options, -, hsaid, -, -, hbare⟩, -⟩ :=
    send_blind serviceCourier .accepting .accepting ⟨"1", "b"⟩ 0 (blindCopyFor "carol@example.org")
      ["dave@example.org"] (by decide +kernel) (by decide +kernel) hd hd'
  have hbares : ∀ s ∈ (blindCopyFor "carol@example.org").recipients, IsBareAddress s := by
    decide +kernel
  have hcarol : "carol@example.org" ∈ (blindCopyFor "carol@example.org").recipients := by decide
  rw [← hbare hbares] at hcarol
  obtain ⟨a, ha, hcarol⟩ := List.mem_map.mp hcarol
  have hnamed := List.mem_append_right opening (Talk.mem_deliveryOf ha options)
  rw [hcarol, ← hsaid] at hnamed
  rw [← hsame] at hd'
  exact ⟨_, hd, hd', hnamed⟩

/-- The address of a user whose name is quotation marks and words: its own written form is another
quoted text, and what that says is no user. -/
def twiceQuoted : String := "\"\\\"q q\\\"\"@b.c"

/-- The message is made, and its envelope does not name who should get the blind copy. -/
theorem send_blind_dropped :
    isAddress twiceQuoted = true ∧ (∃ m, Mailbox.ofText twiceQuoted = .ok m) ∧
      ∃ message, Message.make serviceCourier.sender none (serviceCourier.stampAt ⟨"1", "b"⟩ 0)
        (blindCopyFor twiceQuoted) = .ok message ∧
        message.envelope.recipients.map Address.text = ["ann@example.org", "bob@example.org"] := by
  have hmake : ∃ message, Message.make serviceCourier.sender none
      (serviceCourier.stampAt ⟨"1", "b"⟩ 0) (blindCopyFor twiceQuoted) = .ok message := by
    decide +kernel
  have hrecipients : ∀ message, Message.make serviceCourier.sender none
      (serviceCourier.stampAt ⟨"1", "b"⟩ 0) (blindCopyFor twiceQuoted) = .ok message →
        message.envelope.recipients.map Address.text = ["ann@example.org", "bob@example.org"] := by
    decide +kernel
  obtain ⟨message, hmake⟩ := hmake
  exact ⟨by decide +kernel, by decide +kernel, message, hmake, hrecipients message hmake⟩

end Courier

end Mailroom.Mail
