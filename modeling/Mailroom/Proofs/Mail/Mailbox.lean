import Mailroom.Mail.Mailbox
import Mailroom.Proofs.Mail.Domain
import Mailroom.Proofs.Text.Trimming

/-!
# Reading mailboxes

The readers take what they can from the front of a text, and their choice is final. So it is enough
to say of each of them what it takes from a text that begins with what it looks for, and what it
leaves (`Takes`). Words between dots are taken as they are. In the other direction, what has been
taken for a domain from a text without gaps is words between dots, and no character is left over
that could go on with the last of them (`Divided`).
-/

namespace Mailroom.Mail

open Text (separated)

variable {c : Char} {w cs text rest : List Char} {ws : List (List Char)}

/-! ## Words -/

/-- A word: one or more characters that may stand in one. -/
def IsWord (w : List Char) : Prop := w ≠ [] ∧ ∀ c ∈ w, isAtomChar c = true

instance : DecidablePred IsWord := fun w ↦
  decidable_of_iff (w ≠ [] ∧ w.all isAtomChar = true) (and_congr_right fun _ ↦ List.all_eq_true)

/-- One or more words between dots. -/
def IsDotted (cs : List Char) : Prop := ∀ w ∈ Text.splitAt '.' cs, IsWord w

instance : DecidablePred IsDotted := fun cs ↦ List.decidableBAll IsWord (Text.splitAt '.' cs)

/-- No character stands in front of a text that could go on with a word. -/
def EndsWord (cs : List Char) : Prop := ∀ c ∈ cs.head?, isAtomChar c = false

/-- Nor is there a dot with which another word could follow. -/
def EndsDotted (cs : List Char) : Prop := ∀ c ∈ cs.head?, isAtomChar c = false ∧ c ≠ '.'

theorem endsDotted_nil : EndsDotted [] := nofun

theorem endsDotted_at (cs : List Char) : EndsDotted ('@' :: cs) := by
  rintro _ ⟨⟩
  decide

theorem EndsDotted.endsWord (h : EndsDotted rest) : EndsWord rest := fun c hc ↦ (h c hc).1

theorem EndsWord.separated (h : EndsWord rest) (ws : List (List Char)) :
    EndsWord (separated '.' ws ++ rest) := by
  cases ws with
  | nil => exact h
  | cons w ws =>
    rintro _ ⟨⟩
    decide

theorem IsWord.not_mem_dot (h : IsWord w) : '.' ∉ w := fun hdot ↦ nomatch h.2 _ hdot

theorem IsWord.exists_cons (h : IsWord w) :
    ∃ c cs, w = c :: cs ∧ isAtomChar c = true ∧ ∀ d ∈ cs, isAtomChar d = true := by
  obtain ⟨c, cs, rfl⟩ := List.exists_cons_of_ne_nil h.1
  exact ⟨c, cs, rfl, List.forall_mem_cons.mp h.2⟩

theorem isDotted_append (hw : IsWord w) (hws : ∀ v ∈ ws, IsWord v) :
    IsDotted (w ++ separated '.' ws) := by
  rw [IsDotted, Text.splitAt_append hw.not_mem_dot fun v hv ↦ (hws v hv).not_mem_dot]
  exact List.forall_mem_cons.mpr ⟨hw, hws⟩

theorem IsDotted.exists_words (h : IsDotted cs) :
    ∃ w ws, IsWord w ∧ (∀ v ∈ ws, IsWord v) ∧ cs = w ++ separated '.' ws := by
  obtain ⟨w, ws, hsplit, hcs⟩ := Text.exists_splitAt_eq '.' cs
  rw [IsDotted, hsplit] at h
  obtain ⟨hw, hws⟩ := List.forall_mem_cons.mp h
  exact ⟨w, ws, hw, hws, hcs⟩

theorem head_separated (h : separated '.' ws = c :: cs) : c = '.' := by
  cases ws with
  | nil => cases h
  | cons v ws => exact (List.cons.inj h).1.symm

/-- What is left of words between dots is words between dots, unless it begins at a dot. -/
theorem IsDotted.of_suffix {before : List Char} (h : IsDotted (before ++ c :: cs)) (hc : c ≠ '.') :
    IsDotted (c :: cs) := by
  obtain ⟨w, ws, hw, hws, heq⟩ := h.exists_words
  clear h
  induction ws generalizing before w with
  | nil =>
    rw [Text.separated_nil, List.append_nil] at heq
    have hword : IsWord (c :: cs) :=
      ⟨nofun, fun d hd ↦ hw.2 d (heq ▸ List.mem_append_right _ hd)⟩
    have hdotted := isDotted_append hword (List.forall_mem_nil IsWord)
    rwa [Text.separated_nil, List.append_nil] at hdotted
  | cons v ws ih =>
    obtain ⟨hv, hws'⟩ := List.forall_mem_cons.mp hws
    obtain ⟨w', rfl, hw'⟩ | ⟨before', rfl, hbefore⟩ := List.append_eq_append_iff.mp heq
    · -- the suffix begins in the first word, or right behind it
      cases w' with
      | nil => exact absurd (head_separated hw'.symm) hc
      | cons d w' =>
        have hword : IsWord (d :: w') :=
          ⟨nofun, fun e he ↦ hw.2 e (List.mem_append_right _ he)⟩
        rw [hw']
        exact isDotted_append hword hws
    · -- the first word stands before the suffix
      cases before' with
      | nil => exact absurd (head_separated hbefore) hc
      | cons d before' =>
        rw [Text.separated_cons, List.cons_append] at hbefore
        exact ih v hv hws' (List.cons.inj hbefore).2.symm

/-! ## What readers take -/

namespace Mailbox

variable {item : Reader (List Char)}

/-- A reader takes something from a text, and leaves the rest of it. -/
def Takes (item : Reader (List Char)) (cs text rest : List Char) : Prop :=
  ∃ h, item cs = some (text, ⟨rest, h⟩)

theorem takes_of_eq {left : { rest : List Char // rest.length < cs.length }}
    (h : item cs = some (text, left)) : Takes item cs text left.1 := ⟨left.2, h⟩

theorem takeWhile_append (hw : ∀ c ∈ w, isAtomChar c = true) (hrest : EndsWord rest) :
    (w ++ rest).takeWhile isAtomChar = w ∧ (w ++ rest).dropWhile isAtomChar = rest := by
  rw [List.takeWhile_append_of_pos hw, List.dropWhile_append_of_pos hw]
  cases rest with
  | nil => exact ⟨List.append_nil w, rfl⟩
  | cons c rest =>
    have hc : ¬isAtomChar c = true := by simp [hrest c rfl]
    rw [List.takeWhile_cons_of_neg hc, List.dropWhile_cons_of_neg hc, List.append_nil]
    exact ⟨rfl, rfl⟩

theorem run_takes (hw : IsWord w) (hrest : EndsWord rest) : Takes run (w ++ rest) w rest := by
  obtain ⟨c, w, rfl, hc, hw⟩ := hw.exists_cons
  obtain ⟨htaken, hleft⟩ := takeWhile_append hw hrest
  have hshorter : rest.length < (c :: (w ++ rest)).length := by
    rw [List.length_cons, List.length_append]
    omega
  exact ⟨hshorter, (if_pos hc).trans
    (congrArg some (Prod.ext (congrArg (c :: ·) htaken) (Subtype.ext hleft)))⟩

theorem run_eq_none (hc : isAtomChar c = false) : run (c :: cs) = none :=
  if_neg (by simp [hc])

theorem gap_of_not_isGap (hc : isGap c = false) : gap (c :: cs) = ([], c :: cs) := by
  have hneg : ¬isGap c = true := by simp [hc]
  rw [gap, List.take_succ_cons, List.take_zero, List.filter_cons_of_neg hneg,
    List.dropWhile_cons_of_neg hneg, List.filter_nil]

/-- A word is taken with the gap in front of it. -/
theorem word_takes {held behind : List Char} (hgap : gap cs = (held, behind))
    (h : Takes run behind text rest) : Takes word cs (held ++ text) rest := by
  obtain ⟨rfl, rfl⟩ := Prod.ext_iff.mp hgap
  obtain ⟨hshorter, heq⟩ := h
  refine ⟨Nat.lt_of_lt_of_le hshorter (length_dropWhile_le isGap cs), ?_⟩
  rw [word, heq]
  rfl

theorem word_eq_none (hgap : isGap c = false) (hc : isAtomChar c = false) :
    word (c :: cs) = none := by
  have hrun : run (gap (c :: cs)).2 = none := by
    rw [gap_of_not_isGap hgap]
    exact run_eq_none hc
  rw [word, hrun]
  rfl

theorem ne_quote_of_isAtomChar (hc : isAtomChar c = true) : c ≠ '"' := by
  rintro rfl
  cases hc

theorem not_isGap_of_isAtomChar (hc : isAtomChar c = true) : isGap c = false := by
  rw [isGap, Bool.or_eq_false_iff, decide_eq_false_iff_not, decide_eq_false_iff_not]
  constructor
  · rintro rfl
    cases hc
  · rintro rfl
    cases hc

/-- A reader that takes a word in front of what ends it. -/
def TakesWords (item : Reader (List Char)) : Prop :=
  ∀ w rest, IsWord w → EndsWord rest → Takes item (w ++ rest) w rest

theorem run_takesWords : TakesWords run := fun _ _ ↦ run_takes

theorem word_takesWords : TakesWords word := by
  intro w rest hw hrest
  have htakes := run_takes hw hrest
  obtain ⟨c, w, rfl, hc, -⟩ := hw.exists_cons
  exact word_takes (gap_of_not_isGap (not_isGap_of_isAtomChar hc)) htakes

theorem quotation_eq_none (hc : c ≠ '"') : quotation (c :: cs) = none := by
  rw [quotation]
  intro inner heq
  exact hc (List.cons.inj heq).1

theorem term_eq_word (hc : c ≠ '"') : term (c :: cs) = word (c :: cs) := by
  rw [term, quotation_eq_none hc]
  rfl

theorem term_takesWords : TakesWords term := by
  intro w rest hw hrest
  obtain ⟨hshorter, heq⟩ := word_takesWords w rest hw hrest
  obtain ⟨c, w, rfl, hc, -⟩ := hw.exists_cons
  exact ⟨hshorter, (term_eq_word (ne_quote_of_isAtomChar hc)).trans heq⟩

theorem term_eq_none (hquote : c ≠ '"') (hgap : isGap c = false) (hc : isAtomChar c = false) :
    term (c :: cs) = none := by
  rw [term_eq_word hquote, word_eq_none hgap hc]

theorem dotted_takes (h : Takes item cs text rest) :
    Takes (dotted item) ('.' :: cs) ('.' :: text) rest := by
  obtain ⟨hshorter, heq⟩ := h
  refine ⟨Nat.lt_succ_of_lt hshorter, ?_⟩
  rw [dotted, heq]
  rfl

theorem dotted_eq_none (h : EndsDotted cs) : dotted item cs = none := by
  unfold dotted
  split
  · exact absurd rfl (h _ rfl).2
  · rfl

/-! ## One item after the other -/

theorem many_of_none (h : item cs = none) : many item cs = ([], cs) := by
  rw [many, h]

theorem many_of_takes (h : Takes item cs text rest) :
    many item cs = (text ++ (many item rest).1, (many item rest).2) := by
  obtain ⟨hshorter, heq⟩ := h
  rw [many, heq]

theorem many_dotted (hitem : TakesWords item) (hws : ∀ w ∈ ws, IsWord w) (hrest : EndsDotted rest) :
    many (dotted item) (separated '.' ws ++ rest) = (separated '.' ws, rest) := by
  induction ws with
  | nil => exact many_of_none (dotted_eq_none hrest)
  | cons w ws ih =>
    obtain ⟨hw, hws⟩ := List.forall_mem_cons.mp hws
    have htakes := dotted_takes (hitem w _ hw (hrest.endsWord.separated ws))
    rw [Text.separated_cons, List.cons_append, List.append_assoc, many_of_takes htakes, ih hws]
    rfl

theorem followed_of_takes {first next : Reader (List Char)} (h : Takes first cs text rest) :
    followed first next cs = some (text ++ (many next rest).1, (many next rest).2) := by
  obtain ⟨hshorter, heq⟩ := h
  rw [followed, heq]
  rfl

theorem followed_of_none {first next : Reader (List Char)} (h : first cs = none) :
    followed first next cs = none := by
  rw [followed, h]
  rfl

theorem followed_dotted (hitem : TakesWords item) (hcs : IsDotted cs) (hrest : EndsDotted rest) :
    followed item (dotted item) (cs ++ rest) = some (cs, rest) := by
  obtain ⟨w, ws, hw, hws, rfl⟩ := hcs.exists_words
  have htakes := hitem w _ hw (hrest.endsWord.separated ws)
  rw [List.append_assoc, followed_of_takes htakes, many_dotted hitem hws hrest]

theorem dottedWords_of_takes {first second : List Char} {rest' : List Char}
    (hfirst : Takes word cs first rest) (hsecond : Takes (dotted run) rest second rest') :
    dottedWords cs = some (first ++ second ++ (many (dotted run) rest').1,
      (many (dotted run) rest').2) := by
  obtain ⟨_, hfirst⟩ := hfirst
  obtain ⟨_, hsecond⟩ := hsecond
  simp only [dottedWords, hfirst, Option.bind_eq_bind, Option.bind_some, hsecond]

theorem dottedWords_of_single {first : List Char} (hfirst : Takes word cs first rest)
    (hsecond : dotted run rest = none) : dottedWords cs = none := by
  obtain ⟨_, hfirst⟩ := hfirst
  simp only [dottedWords, hfirst, Option.bind_eq_bind, Option.bind_some, hsecond, Option.bind_none]

theorem dottedWords_of_none (h : word cs = none) : dottedWords cs = none := by
  rw [dottedWords, h]
  rfl

/-- Two or more words between dots are taken as they are, and one is left to other readers. -/
theorem dottedWords_append (hcs : IsDotted cs) (hrest : EndsDotted rest) :
    dottedWords (cs ++ rest) = none ∨ dottedWords (cs ++ rest) = some (cs, rest) := by
  obtain ⟨w, ws, hw, hws, rfl⟩ := hcs.exists_words
  have hfirst := word_takesWords w _ hw (hrest.endsWord.separated ws)
  rw [List.append_assoc]
  cases ws with
  | nil => exact .inl (dottedWords_of_single hfirst (dotted_eq_none hrest))
  | cons v ws =>
    obtain ⟨hv, hws⟩ := List.forall_mem_cons.mp hws
    have hsecond := dotted_takes (run_takes hv (hrest.endsWord.separated ws))
    rw [Text.separated_cons, List.cons_append, List.append_assoc] at hfirst ⊢
    rw [dottedWords_of_takes hfirst hsecond, many_dotted run_takesWords hws hrest,
      List.append_assoc, List.cons_append]
    exact .inr rfl

/-! ## Users and domains -/

/-- The user of an address is taken as it is if it consists of words between dots. -/
theorem user_append (hcs : IsDotted cs) (hrest : EndsDotted rest) :
    user (cs ++ rest) = some (cs, rest) := by
  obtain hnone | hsome := dottedWords_append hcs hrest
  · have hquotation : quotation (cs ++ rest) = none := by
      obtain ⟨w, ws, hw, -, rfl⟩ := hcs.exists_words
      obtain ⟨c, w, rfl, hc, -⟩ := hw.exists_cons
      exact quotation_eq_none (ne_quote_of_isAtomChar hc)
    rw [user, hnone, hquotation, followed_dotted term_takesWords hcs hrest]
    rfl
  · rw [user, hsome]
    rfl

/-- So is a domain. -/
theorem domain_append (hcs : IsDotted cs) (hrest : EndsDotted rest) :
    domain (cs ++ rest) = some (cs, rest) := by
  obtain hnone | hsome := dottedWords_append hcs hrest
  · rw [domain, hnone, followed_dotted word_takesWords hcs hrest]
    rfl
  · rw [domain, hsome]
    rfl

/-- Of a quoted user, what it says is taken. -/
theorem user_of_quotation (h : Takes quotation ('"' :: cs) text rest) :
    user ('"' :: cs) = some (text, rest) := by
  obtain ⟨_, heq⟩ := h
  rw [user, dottedWords_of_none (word_eq_none (by decide) (by decide)), heq]
  rfl

theorem user_eq_none (hquote : c ≠ '"') (hgap : isGap c = false) (hc : isAtomChar c = false) :
    user (c :: cs) = none := by
  rw [user, dottedWords_of_none (word_eq_none hgap hc), quotation_eq_none hquote,
    followed_of_none (term_eq_none hquote hgap hc)]
  rfl

/-! ## Names of owners -/

/-- A word, a quoted text or a dot of the name of an owner. -/
def piece : Reader (List Char) := fun cs => term cs <|> dot cs

theorem owner_eq (cs : List Char) : owner cs = followed term piece cs := rfl

theorem piece_takes (h : Takes term cs text rest) : Takes piece cs text rest := by
  obtain ⟨hshorter, heq⟩ := h
  refine ⟨hshorter, ?_⟩
  rw [piece, heq]
  rfl

theorem piece_dot (cs : List Char) : Takes piece ('.' :: cs) ['.'] cs := by
  refine ⟨Nat.lt_succ_self _, ?_⟩
  rw [piece, term_eq_none (by decide) (by decide) (by decide)]
  rfl

theorem piece_at (cs : List Char) : piece ('@' :: cs) = none := by
  rw [piece, term_eq_none (by decide) (by decide) (by decide)]
  rfl

theorem many_piece (hws : ∀ w ∈ ws, IsWord w) (rest : List Char) :
    many piece (separated '.' ws ++ '@' :: rest) = (separated '.' ws, '@' :: rest) := by
  induction ws with
  | nil => exact many_of_none (piece_at rest)
  | cons w ws ih =>
    obtain ⟨hw, hws⟩ := List.forall_mem_cons.mp hws
    have htakes := piece_takes (term_takesWords w _ hw ((endsDotted_at rest).endsWord.separated ws))
    rw [Text.separated_cons, List.cons_append, List.append_assoc, many_of_takes (piece_dot _),
      many_of_takes htakes, ih hws]
    rfl

/-- What stands in front of an `@` could be the name of an owner. -/
theorem owner_append (hcs : IsDotted cs) (rest : List Char) :
    owner (cs ++ '@' :: rest) = some (cs, '@' :: rest) := by
  obtain ⟨w, ws, hw, hws, rfl⟩ := hcs.exists_words
  have htakes := term_takesWords w _ hw ((endsDotted_at rest).endsWord.separated ws)
  rw [List.append_assoc, owner_eq, followed_of_takes htakes, many_piece hws]

theorem owner_of_quotation (h : Takes quotation cs text ('@' :: rest)) :
    owner cs = some (text, '@' :: rest) := by
  obtain ⟨hshorter, heq⟩ := h
  have htakes : Takes term cs text ('@' :: rest) := by
    refine ⟨hshorter, ?_⟩
    rw [term, heq]
    rfl
  rw [owner_eq, followed_of_takes htakes, many_of_none (piece_at rest), List.append_nil]

/-- But an address between angle brackets does not follow there. -/
theorem named_of_owner {name : List Char} (h : owner cs = some (name, '@' :: rest)) :
    named cs = none := by
  rw [named, h]
  rfl

theorem named_of_none (howner : owner (c :: cs) = none) (hblank : Text.isBlank c = false)
    (hc : c ≠ '<') : named (c :: cs) = none := by
  rw [named, howner]
  dsimp only
  rw [Text.trimLeft_of_notBlank (Text.notBlank_cons.mpr hblank), Text.after?,
    if_neg (Ne.symm hc)]
  rfl

/-! ## What a domain has been taken from -/

/-- No gap is in a text. -/
def Gapless (cs : List Char) : Prop := ∀ c ∈ cs, isGap c = false

theorem Gapless.of_append_right {before : List Char} (h : Gapless (before ++ cs)) : Gapless cs :=
  fun c hc ↦ h c (List.mem_append_right _ hc)

theorem Gapless.gap_eq (h : Gapless cs) : gap cs = ([], cs) := by
  cases cs with
  | nil => rfl
  | cons c cs => exact gap_of_not_isGap (h c List.mem_cons_self)

/-- A reader that takes nothing but a whole word from a text without gaps. -/
def OnlyWords (item : Reader (List Char)) : Prop :=
  ∀ cs text rest, Gapless cs → Takes item cs text rest →
    IsWord text ∧ cs = text ++ rest ∧ EndsWord rest

theorem run_onlyWords : OnlyWords run := by
  rintro cs text rest - ⟨_, heq⟩
  cases cs with
  | nil => cases heq
  | cons c cs =>
    by_cases hc : isAtomChar c = true
    · rw [run, if_pos hc] at heq
      obtain ⟨htext, hrest⟩ := Prod.mk.inj (Option.some.inj heq)
      have hrest := congrArg Subtype.val hrest
      dsimp only at hrest
      subst htext hrest
      refine ⟨⟨List.cons_ne_nil _ _, ?_⟩, ?_, ?_⟩
      · exact List.forall_mem_cons.mpr ⟨hc, List.all_eq_true.mp List.all_takeWhile⟩
      · rw [List.cons_append, List.takeWhile_append_dropWhile]
      · intro d hd
        have hhead := List.head?_dropWhile_not isAtomChar cs
        rwa [hd] at hhead
    · rw [run, if_neg hc] at heq
      cases heq

theorem word_onlyWords : OnlyWords word := by
  rintro cs text rest hcs ⟨_, heq⟩
  obtain ⟨⟨text', left⟩, hrun, hword⟩ := Option.map_eq_some_iff.mp heq
  obtain ⟨htext, hrest⟩ := Prod.mk.inj hword
  have hrest : left.1 = rest := congrArg Subtype.val hrest
  have htakes := takes_of_eq hrun
  rw [hrest] at htakes
  rw [hcs.gap_eq] at htext htakes
  rw [← htext, List.nil_append]
  exact run_onlyWords cs text' rest hcs htakes

theorem dotted_inv (h : Takes (dotted item) cs text rest) :
    ∃ cs' text', cs = '.' :: cs' ∧ text = '.' :: text' ∧ Takes item cs' text' rest := by
  obtain ⟨_, heq⟩ := h
  unfold dotted at heq
  split at heq
  · rename_i cs' _
    obtain ⟨⟨text', left⟩, hitem, hdotted⟩ := Option.map_eq_some_iff.mp heq
    obtain ⟨htext, hrest⟩ := Prod.mk.inj hdotted
    have hrest : left.1 = rest := congrArg Subtype.val hrest
    exact ⟨cs', text', rfl, htext.symm, hrest ▸ takes_of_eq hitem⟩
  · cases heq

/-- What has been taken of some words behind dots, and what is left. -/
theorem many_dotted_onlyWords (hitem : OnlyWords item) (hcs : Gapless cs) (hends : EndsWord cs) :
    ∃ ws, (∀ w ∈ ws, IsWord w) ∧ (many (dotted item) cs).1 = separated '.' ws ∧
      cs = separated '.' ws ++ (many (dotted item) cs).2 ∧ EndsWord (many (dotted item) cs).2 := by
  fun_induction many (dotted item) cs with
  | case1 cs h => exact ⟨[], nofun, rfl, rfl, hends⟩
  | case2 cs text left h texts rest hmany ih =>
    obtain ⟨cs', w, rfl, rfl, htakes⟩ := dotted_inv (takes_of_eq h)
    have hcs' : Gapless cs' := fun c hc ↦ hcs c (List.mem_cons_of_mem _ hc)
    obtain ⟨hw, hsplit, hleft⟩ := hitem cs' w left.1 hcs' htakes
    have hgapless : Gapless left.1 := Gapless.of_append_right (hsplit ▸ hcs')
    obtain ⟨ws, hws, htexts, hrest, hends⟩ := ih hgapless hleft
    rw [hmany] at htexts hrest hends
    refine ⟨w :: ws, List.forall_mem_cons.mpr ⟨hw, hws⟩, ?_, ?_, hends⟩
    · dsimp only at htexts ⊢
      rw [htexts]
      rfl
    · dsimp only at hrest ⊢
      rw [Text.separated_cons, List.cons_append, List.append_assoc, ← hrest, ← hsplit]

/-- What has been taken of words between dots, and what is left. -/
structure Divided (cs text rest : List Char) : Prop where
  isDotted : IsDotted text
  eq_append : cs = text ++ rest
  endsWord : EndsWord rest

theorem followed_onlyWords (hitem : OnlyWords item) (hcs : Gapless cs)
    (h : followed item (dotted item) cs = some (text, rest)) : Divided cs text rest := by
  obtain ⟨⟨w, left⟩, hw, hfollowed⟩ := Option.map_eq_some_iff.mp h
  obtain ⟨hword, hsplit, hends⟩ := hitem cs w left.1 hcs (takes_of_eq hw)
  have hgapless : Gapless left.1 := Gapless.of_append_right (hsplit ▸ hcs)
  obtain ⟨ws, hws, htexts, hrest, hends⟩ := many_dotted_onlyWords hitem hgapless hends
  obtain ⟨htext, hleft⟩ := Prod.mk.inj hfollowed
  subst htext hleft
  refine ⟨?_, ?_, hends⟩
  · rw [htexts]
    exact isDotted_append hword hws
  · rw [htexts, List.append_assoc, ← hrest, ← hsplit]

theorem dottedWords_onlyWords (hcs : Gapless cs) (h : dottedWords cs = some (text, rest)) :
    Divided cs text rest := by
  obtain ⟨⟨w, left⟩, hw, h⟩ := Option.bind_eq_some_iff.mp h
  obtain ⟨⟨second, left'⟩, hsecond, h⟩ := Option.bind_eq_some_iff.mp h
  obtain ⟨hword, hsplit, hends⟩ := word_onlyWords cs w left.1 hcs (takes_of_eq hw)
  have hgapless : Gapless left.1 := Gapless.of_append_right (hsplit ▸ hcs)
  -- the second word is the first one of those behind dots
  have hmany := many_of_takes (takes_of_eq hsecond)
  obtain ⟨ws, hws, htexts, hrest, hends⟩ := many_dotted_onlyWords run_onlyWords hgapless hends
  rw [hmany] at htexts hrest hends
  dsimp only at htexts hrest hends
  obtain ⟨htext, hleft⟩ := Prod.mk.inj (Option.some.inj h)
  subst htext hleft
  refine ⟨?_, ?_, hends⟩
  · rw [List.append_assoc, htexts]
    exact isDotted_append hword hws
  · rw [List.append_assoc w, htexts, List.append_assoc, ← hrest, ← hsplit]

theorem domain_onlyWords (hcs : Gapless cs) (h : domain cs = some (text, rest)) :
    Divided cs text rest := by
  unfold domain at h
  cases hwords : dottedWords cs with
  | some taken =>
    rw [hwords] at h
    cases h
    exact dottedWords_onlyWords hcs hwords
  | none =>
    rw [hwords] at h
    exact followed_onlyWords word_onlyWords hcs h

end Mailbox

end Mailroom.Mail
