import Mailroom.Proofs.Mail.Mailbox

/-!
# Addresses that are read as mailboxes

An address is judged in one way when it is accepted and in another when it is read for a header. The
first looks for the last `@` and judges what stands on either side. The second goes from the front
to the end, and for it a domain consists of words between dots, a quoted user stands for what it
says, and blanks in front do not count. So there are addresses that are accepted and cannot be read
(`Mailbox.ofText_ok_iff`), and others that are read as another address
(`Mailbox.ofText_eq_bare_iff`).
-/

namespace Mailroom.Mail

open Mailbox (Takes quotedText)

variable {c : Char} {cs inner rest : List Char} {s : String} {a : Address}

/-! ## Quoted texts -/

/-- What is said between quotes, behind a gap of which a character is held: a backslash is not part
of it, and of a gap one character is if something follows. -/
def said (held : List Char) : List Char → List Char
  | [] => []
  | '\\' :: c :: cs => held ++ c :: said [] cs
  | c :: cs =>
    if isGap c then said (if held.isEmpty then [c] else held) cs else held ++ c :: said [] cs

theorem quotedText_quote (held cs : List Char) : Takes (quotedText held) ('"' :: cs) [] cs := by
  refine ⟨Nat.lt_succ_self _, ?_⟩
  rw [quotedText, if_pos rfl]
  exact nofun

theorem quotedText_escaped {held text : List Char} (hc : isVisible c = true)
    (h : Takes (quotedText []) cs text rest) :
    Takes (quotedText held) ('\\' :: c :: cs) (held ++ c :: text) rest := by
  obtain ⟨hshorter, heq⟩ := h
  refine ⟨Nat.lt_succ_of_lt (Nat.lt_succ_of_lt hshorter), ?_⟩
  rw [quotedText, if_pos (by rw [hc, Bool.true_or]), heq]
  rfl

theorem ne_of_content (hc : (isGap c || isQuotable c) = true) : c ≠ '"' ∧ c ≠ '\\' := by
  constructor
  · rintro rfl
    cases hc
  · rintro rfl
    cases hc

theorem quotedText_gap {held text : List Char} (hc : isGap c = true)
    (h : Takes (quotedText (if held.isEmpty then [c] else held)) cs text rest) :
    Takes (quotedText held) (c :: cs) text rest := by
  obtain ⟨hshorter, heq⟩ := h
  obtain ⟨hquote, hbackslash⟩ : c ≠ '"' ∧ c ≠ '\\' := ne_of_content (by rw [hc, Bool.true_or])
  refine ⟨Nat.lt_succ_of_lt hshorter, ?_⟩
  rw [quotedText, if_neg hquote, if_pos hc, heq]
  · rfl
  · exact fun _ _ hc _ ↦ hbackslash hc

theorem quotedText_quotable {held text : List Char} (hc : isQuotable c = true)
    (hgap : isGap c = false) (h : Takes (quotedText []) cs text rest) :
    Takes (quotedText held) (c :: cs) (held ++ c :: text) rest := by
  obtain ⟨hshorter, heq⟩ := h
  obtain ⟨hquote, hbackslash⟩ : c ≠ '"' ∧ c ≠ '\\' := ne_of_content (by rw [hc, Bool.or_true])
  refine ⟨Nat.lt_succ_of_lt hshorter, ?_⟩
  rw [quotedText, if_neg hquote, if_neg (by simp [hgap]), if_pos hc, heq]
  · rfl
  · exact fun _ _ hc _ ↦ hbackslash hc

/-- Of what may stand between quotes, what it says is taken. -/
theorem quotedText_append (h : Address.isQuotedContent inner = true) (held rest : List Char) :
    Takes (quotedText held) (inner ++ '"' :: rest) (said held inner) rest := by
  fun_induction Address.isQuotedContent inner generalizing held with
  | case1 => exact quotedText_quote held rest
  | case2 c cs ih =>
    obtain ⟨hc, hcs⟩ := Bool.and_eq_true_iff.mp h
    exact quotedText_escaped hc (ih hcs [])
  | case3 c cs hescape ih =>
    obtain ⟨hc, hcs⟩ := Bool.and_eq_true_iff.mp h
    rw [said]
    · by_cases hgap : isGap c = true
      · rw [if_pos hgap]
        exact quotedText_gap hgap (ih hcs _)
      · have hquotable : isQuotable c = true :=
          (Bool.or_eq_true_iff.mp hc).resolve_left hgap
        rw [if_neg hgap]
        exact quotedText_quotable hquotable (by simpa using hgap) (ih hcs [])
    · exact hescape

theorem length_said_le (held inner : List Char) :
    (said held inner).length ≤ held.length + inner.length := by
  fun_induction said held inner with
  | case1 => simp
  | case2 held c cs ih =>
    rw [List.length_append, List.length_cons, List.length_cons, List.length_cons]
    rw [List.length_nil] at ih
    omega
  | case3 held c cs hescape hgap ih =>
    have hheld : (if held.isEmpty then [c] else held).length ≤ held.length + 1 := by
      split
      · exact Nat.le_add_left _ _
      · exact Nat.le_succ _
    rw [List.length_cons]
    omega
  | case4 held c cs hescape hgap ih =>
    rw [List.length_append, List.length_cons, List.length_cons]
    rw [List.length_nil] at ih
    omega

/-- A quoted text is taken from one quote to the other. -/
theorem quotation_append (h : Address.isQuotedContent inner = true) (rest : List Char) :
    Takes Mailbox.quotation ('"' :: (inner ++ '"' :: rest)) (said [] inner) rest := by
  obtain ⟨hshorter, heq⟩ := quotedText_append h [] rest
  refine ⟨Nat.lt_succ_of_lt hshorter, ?_⟩
  rw [Mailbox.quotation, heq]
  rfl

/-! ## Users -/

namespace Address

theorem eq_of_unquoted? (h : unquoted? cs = some inner) (hne : inner ≠ []) :
    cs = '"' :: (inner ++ ['"']) := by
  unfold unquoted? at h
  split at h
  · rename_i behind hlast
    cases h
    have hbehind : behind ≠ [] := by
      rintro rfl
      exact hne rfl
    rw [← eq_dropLast_append hbehind hlast]
  · cases h

theorem unquoted?_eq_none (hc : c ≠ '"') : unquoted? (c :: cs) = none := by
  unfold unquoted?
  split
  · rename_i heq _
    exact absurd (List.cons.inj heq).1 hc
  · rfl

variable {user : String}

theorem isQuotedContent_of_isUser (h : isUser user = true)
    (hquoted : unquoted? user.toList = some inner) :
    inner ≠ [] ∧ isQuotedContent inner = true := by
  have hrules := (Bool.and_eq_true_iff.mp h).2
  rw [hquoted] at hrules
  obtain ⟨hne, hcontent⟩ := Bool.and_eq_true_iff.mp hrules
  exact ⟨by simpa using hne, hcontent⟩

theorem all_words_iff :
    ((Text.splitAt '.' cs).all fun w ↦ !w.isEmpty && w.all isAtomChar) = true ↔ IsDotted cs := by
  simp [IsDotted, IsWord]

theorem isDotted_of_isUser (h : isUser user = true) (hquoted : unquoted? user.toList = none) :
    IsDotted user.toList := by
  have hrules := (Bool.and_eq_true_iff.mp h).2
  rw [hquoted] at hrules
  exact all_words_iff.mp hrules

theorem size_le_of_isUser (h : isUser user = true) : Domain.size user.toList ≤ 64 := by
  have hsize := (Bool.and_eq_true_iff.mp (Bool.and_eq_true_iff.mp h).1).2
  exact of_decide_eq_true hsize

/-- Of texts that are short enough and not quoted, those that are words between dots are users. -/
theorem isUser_iff_isDotted (hsize : Domain.size cs ≤ 64) (hquoted : unquoted? cs = none) :
    isUser (String.ofList cs) = true ↔ IsDotted cs := by
  rw [← all_words_iff, isUser, String.toList_ofList, hquoted]
  cases cs with
  | nil => decide
  | cons c cs => simp [hsize]

theorem toList_text (a : Address) : a.text.toList = a.user.toList ++ '@' :: a.domain.toList := by
  have hat : "@".toList = ['@'] := by decide
  rw [text, String.toList_append, String.toList_append, hat, List.append_assoc]
  rfl

/-! ## What is read of an address -/

/-- The user as it is read: what is said between quotes, and otherwise the text without the blanks
in front of it. -/
def readUser (a : Address) : List Char :=
  match unquoted? a.user.toList with
  | some inner => said [] inner
  | none => Text.trimLeft a.user.toList

/-- The address can be read: its domain consists of words between dots, and what is read of its user
is a user. -/
def IsReadable (a : Address) : Prop :=
  IsDotted a.domain.toList ∧ isUser (String.ofList a.readUser) = true

instance : DecidablePred IsReadable := fun _ ↦ inferInstanceAs (Decidable (_ ∧ _))

/-- The address is read as it is: its domain consists of words between dots, and its user is not
quoted and has no blank in front. -/
def IsBare (a : Address) : Prop :=
  IsDotted a.domain.toList ∧ unquoted? a.user.toList = none ∧ Text.NotBlank a.user.toList

theorem splitLast_eq_some {user domain : List Char} (h : splitLast cs = some (user, domain)) :
    cs = user ++ '@' :: domain := by
  have hreverse := List.takeWhile_append_dropWhile (p := (· != '@')) (l := cs.reverse)
  unfold splitLast at h
  split at h
  · cases h
  · rename_i at' before hdrop
    cases h
    have hat : at' = '@' := by
      have hhead := List.head?_dropWhile_not (· != '@') cs.reverse
      rw [hdrop] at hhead
      simpa using hhead
    rw [hdrop, hat] at hreverse
    have hcs := congrArg List.reverse hreverse
    rw [List.reverse_reverse, List.reverse_append, List.reverse_cons, List.append_assoc] at hcs
    exact hcs.symm

theorem ofParts_eq_ok {domain : String} : ofParts user domain = .ok a ↔
    isUser user = true ∧ Domain.isAccepted domain = true ∧ a = ⟨user, domain⟩ := by
  unfold ofParts
  cases isUser user <;> cases Domain.isAccepted domain <;> simp [eq_comm]

theorem ofText_eq_ok (h : ofText s = .ok a) :
    s.toList = a.user.toList ++ '@' :: a.domain.toList ∧ isUser a.user = true ∧
      Domain.isAccepted a.domain = true := by
  unfold ofText at h
  split at h
  · cases h
  · rename_i hsplit
    obtain ⟨huser, hdomain, rfl⟩ := ofParts_eq_ok.mp h
    rw [String.toList_ofList, String.toList_ofList]
    exact ⟨splitLast_eq_some hsplit, huser, hdomain⟩

theorem text_of_ofText (h : ofText s = .ok a) : a.text = s := by
  rw [← String.toList_inj, toList_text, (ofText_eq_ok h).1]

/-- The blanks in front of words between dots may be all that is in front of a dot, or all there
is. -/
theorem trimLeft_cases (h : IsDotted cs) :
    IsDotted (Text.trimLeft cs) ∨ Text.trimLeft cs = [] ∨ ∃ cs', Text.trimLeft cs = '.' :: cs' := by
  obtain ⟨before, hbefore⟩ := List.dropWhile_suffix (p := Text.isBlank) (l := cs)
  change before ++ Text.trimLeft cs = cs at hbefore
  cases htrim : Text.trimLeft cs with
  | nil => exact .inr (.inl rfl)
  | cons c cs' =>
    by_cases hc : c = '.'
    · subst hc
      exact .inr (.inr ⟨cs', rfl⟩)
    · rw [← hbefore, htrim] at h
      exact .inl (h.of_suffix hc)

theorem size_trimLeft_le (cs : List Char) : Domain.size (Text.trimLeft cs) ≤ Domain.size cs := by
  induction cs with
  | nil => exact Nat.le_refl _
  | cons c cs ih =>
    rw [Text.trimLeft, List.dropWhile_cons]
    split
    · exact ih.trans (Nat.le_add_left _ _)
    · exact Nat.le_refl _

end Address

namespace Mailbox

/-! ## What is read of a mailbox -/

theorem bare_of_user {u d : List Char} (h : user cs = some (u, '@' :: d)) :
    bare cs = (domain d).map fun (text, rest) ↦ ((u, text), rest) := by
  have hat : Text.after? ['@'] ('@' :: d) = some d := Text.after?_append ['@'] d
  rw [bare, h, Option.bind_eq_bind, Option.bind_some]
  dsimp only
  rw [hat, Option.bind_eq_bind, Option.bind_some]
  cases domain d <;> rfl

theorem bare_of_none (h : user cs = none) : bare cs = none := by
  rw [bare, h]
  rfl

theorem parts_of_named (h : named cs = none) :
    parts cs = (bare cs).map fun (parts, rest) ↦ ((none, parts), rest) := by
  rw [parts, h]
  rfl

theorem gapless_of_unspaced (h : Unspaced cs) : Gapless cs := by
  intro c hc
  rw [Bool.eq_false_iff]
  intro hgap
  simp only [isGap, Bool.or_eq_true, decide_eq_true_eq] at hgap
  rcases hgap with rfl | rfl
  · exact absurd (h _ hc (by decide)) (by decide)
  · exact absurd (h _ hc (by decide)) (by decide)

/-- Behind a word no blanks are left over: those of ASCII are not there, and all others belong to
the word. -/
theorem eq_nil_of_trimLeft (hrest : EndsWord rest) (hblanks : Unspaced rest)
    (h : Text.trimLeft rest = []) : rest = [] := by
  cases rest with
  | nil => rfl
  | cons c rest =>
    by_cases hblank : Text.isBlank c = true
    · have hatom : isAtomChar c = true := by
        rw [isAtomChar, decide_eq_true ((unspaced_cons.mp hblanks).1 hblank), Bool.or_true]
      cases (hrest c rfl).symm.trans hatom
    · rw [Text.trimLeft_of_notBlank (Text.notBlank_cons.mpr (by simpa using hblank))] at h
      cases h

theorem parts_of_user {u d name : List Char} (howner : owner cs = some (name, '@' :: d))
    (huser : user cs = some (u, '@' :: d)) :
    parts cs = (domain d).map fun (text, rest) ↦ ((none, u, text), rest) := by
  rw [parts_of_named (named_of_owner howner), bare_of_user huser, Option.map_map]
  rfl

/-- An address whose user is read in front of the `@`. -/
theorem ofText_of_user {u d name : List Char} (hcs : Text.trimLeft s.toList = cs)
    (howner : owner cs = some (name, '@' :: d)) (huser : user cs = some (u, '@' :: d))
    (hd : Unspaced d) :
    ofText s = if IsDotted d then ofParts (none, u, d) else .error .unreadable := by
  rw [ofText, hcs, parts_of_user howner huser]
  by_cases hdotted : IsDotted d
  · have hdomain := domain_append hdotted endsDotted_nil
    rw [List.append_nil] at hdomain
    rw [if_pos hdotted, hdomain]
    rfl
  · rw [if_neg hdotted]
    cases hdomain : domain d with
    | none => rfl
    | some taken =>
      obtain ⟨text, rest⟩ := taken
      have hdivided := domain_onlyWords (gapless_of_unspaced hd) hdomain
      have hleft : Text.trimLeft rest ≠ [] := by
        intro hnone
        have hrest : Unspaced rest := (unspaced_append.mp (hdivided.eq_append ▸ hd)).2
        have hnil := eq_nil_of_trimLeft hdivided.endsWord hrest hnone
        rw [hdivided.eq_append, hnil, List.append_nil] at hdotted
        exact hdotted hdivided.isDotted
      exact if_neg (by simpa using hleft)

/-- No mailbox begins at an `@` or at a dot. -/
theorem parts_of_head (hc : c = '@' ∨ c = '.') : parts (c :: cs) = none := by
  obtain ⟨hquote, hgap, hatom, hblank, hangle⟩ : c ≠ '"' ∧ isGap c = false ∧
      isAtomChar c = false ∧ Text.isBlank c = false ∧ c ≠ '<' := by
    rcases hc with rfl | rfl <;> decide
  have howner : owner (c :: cs) = none := followed_of_none (term_eq_none hquote hgap hatom)
  have hnamed : named (c :: cs) = none := named_of_none howner hblank hangle
  have huser : user (c :: cs) = none := user_eq_none hquote hgap hatom
  rw [parts_of_named hnamed, bare_of_none huser, Option.map_none]

theorem ofText_of_head (hcs : Text.trimLeft s.toList = c :: cs) (hc : c = '@' ∨ c = '.') :
    ofText s = .error .unreadable := by
  rw [ofText, hcs, parts_of_head hc]

theorem ofParts_eq {u : List Char} {domain : String} (h : Domain.isAccepted domain = true) :
    ofParts (none, u, domain.toList) =
      if Address.isUser (String.ofList u) then .ok { address := ⟨String.ofList u, domain⟩ }
      else .error .invalidUser := by
  rw [ofParts, String.ofList_toList, Address.ofParts, h]
  cases Address.isUser (String.ofList u) <;> rfl

/-- The mailbox that an address is read as, or why it cannot be read. -/
def ofAddress (a : Address) : Except AddressError Mailbox :=
  if IsDotted a.domain.toList then ofParts (none, a.readUser, a.domain.toList)
  else .error .unreadable

theorem ofAddress_readable (hdomain : Domain.isAccepted a.domain = true) (h : a.IsReadable) :
    ofAddress a = .ok { address := ⟨String.ofList a.readUser, a.domain⟩ } := by
  rw [ofAddress, if_pos h.1, ofParts_eq hdomain, if_pos h.2]

theorem ofAddress_unreadable (hdomain : Domain.isAccepted a.domain = true) (h : ¬a.IsReadable) :
    ∃ e, ofAddress a = .error e := by
  unfold ofAddress
  split
  · rename_i hdotted
    rw [ofParts_eq hdomain, if_neg fun huser ↦ h ⟨hdotted, huser⟩]
    exact ⟨_, rfl⟩
  · exact ⟨_, rfl⟩

theorem ofText_of_quoted (h : Address.ofText s = .ok a)
    (hquoted : Address.unquoted? a.user.toList = some inner) : ofText s = ofAddress a := by
  obtain ⟨hs, huser, hdomain⟩ := Address.ofText_eq_ok h
  obtain ⟨hne, hcontent⟩ := Address.isQuotedContent_of_isUser huser hquoted
  have hcs : Text.trimLeft s.toList = '"' :: (inner ++ '"' :: '@' :: a.domain.toList) := by
    rw [hs, Address.eq_of_unquoted? hquoted hne, List.cons_append, List.append_assoc]
    exact Text.trimLeft_of_notBlank (Text.notBlank_cons.mpr (by decide))
  have htakes := quotation_append hcontent ('@' :: a.domain.toList)
  rw [ofText_of_user hcs (owner_of_quotation htakes) (user_of_quotation htakes)
    (Domain.unspaced_of_isAccepted hdomain), ofAddress, Address.readUser, hquoted]

theorem ofText_of_unquoted (h : Address.ofText s = .ok a)
    (hquoted : Address.unquoted? a.user.toList = none)
    (hdotted : IsDotted (Text.trimLeft a.user.toList)) : ofText s = ofAddress a := by
  obtain ⟨hs, -, hdomain⟩ := Address.ofText_eq_ok h
  have hcs : Text.trimLeft s.toList = Text.trimLeft a.user.toList ++ '@' :: a.domain.toList := by
    rw [hs, Text.trimLeft_append_cons (by decide)]
  rw [ofText_of_user hcs (owner_append hdotted _) (user_append hdotted (endsDotted_at _))
    (Domain.unspaced_of_isAccepted hdomain), ofAddress, Address.readUser, hquoted]

/-- If nothing is left of the first word of the user, then nothing is read. -/
theorem ofText_of_blank (h : Address.ofText s = .ok a)
    (hquoted : Address.unquoted? a.user.toList = none)
    (hblank : Text.trimLeft a.user.toList = [] ∨ ∃ cs, Text.trimLeft a.user.toList = '.' :: cs) :
    ¬a.IsReadable ∧ ofText s = .error .unreadable := by
  obtain ⟨hs, huser, -⟩ := Address.ofText_eq_ok h
  have hcs : Text.trimLeft s.toList = Text.trimLeft a.user.toList ++ '@' :: a.domain.toList := by
    rw [hs, Text.trimLeft_append_cons (by decide)]
  have hsize : Domain.size (Text.trimLeft a.user.toList) ≤ 64 :=
    (Address.size_trimLeft_le _).trans (Address.size_le_of_isUser huser)
  have hread : a.readUser = Text.trimLeft a.user.toList := by
    rw [Address.readUser, hquoted]
  rw [Address.IsReadable, hread]
  obtain hnil | ⟨cs, hdot⟩ := hblank
  · rw [hnil] at hcs ⊢
    refine ⟨fun h ↦ ?_, ofText_of_head hcs (.inl rfl)⟩
    cases h.2
  · rw [hdot] at hcs hsize ⊢
    refine ⟨fun h ↦ ?_, ofText_of_head hcs (.inr rfl)⟩
    have hquoted : Address.unquoted? ('.' :: cs) = none := Address.unquoted?_eq_none (by decide)
    have hdotted := (Address.isUser_iff_isDotted hsize hquoted).mp h.2
    rw [IsDotted, Text.splitAt_cons_self] at hdotted
    exact (hdotted [] List.mem_cons_self).1 rfl

/-- An address that is accepted is read as a mailbox without a name just if it can be read. -/
theorem ofText_readable (h : Address.ofText s = .ok a) :
    (a.IsReadable → ofText s = .ok { address := ⟨String.ofList a.readUser, a.domain⟩ }) ∧
      (¬a.IsReadable → ∃ e, ofText s = .error e) := by
  obtain ⟨-, huser, hdomain⟩ := Address.ofText_eq_ok h
  have heq (hread : ofText s = ofAddress a) :
      (a.IsReadable → ofText s = .ok { address := ⟨String.ofList a.readUser, a.domain⟩ }) ∧
        (¬a.IsReadable → ∃ e, ofText s = .error e) :=
    hread ▸ ⟨ofAddress_readable hdomain, ofAddress_unreadable hdomain⟩
  cases hquoted : Address.unquoted? a.user.toList with
  | some inner => exact heq (ofText_of_quoted h hquoted)
  | none =>
    obtain hdotted | hblank :=
      Address.trimLeft_cases (Address.isDotted_of_isUser huser hquoted)
    · exact heq (ofText_of_unquoted h hquoted hdotted)
    · obtain ⟨hunreadable, hread⟩ := ofText_of_blank h hquoted hblank
      exact ⟨fun hreadable ↦ absurd hreadable hunreadable, fun _ ↦ ⟨_, hread⟩⟩

/-- An address that is accepted is read just if it can be read. -/
theorem ofText_ok_iff (h : Address.ofText s = .ok a) :
    (∃ m, ofText s = .ok m) ↔ a.IsReadable := by
  obtain ⟨hreadable, hunreadable⟩ := ofText_readable h
  refine ⟨fun ⟨m, hm⟩ ↦ ?_, fun ha ↦ ⟨_, hreadable ha⟩⟩
  by_contra ha
  obtain ⟨e, he⟩ := hunreadable ha
  cases hm.symm.trans he

/-- A quoted user says less than stands there, so it is not read as it is. -/
theorem readUser_eq_iff (h : Address.isUser a.user = true) :
    a.readUser = a.user.toList ↔
      Address.unquoted? a.user.toList = none ∧ Text.NotBlank a.user.toList := by
  unfold Address.readUser
  cases hquoted : Address.unquoted? a.user.toList with
  | some inner =>
    refine iff_of_false (fun heq ↦ ?_) nofun
    have hlength := length_said_le [] inner
    dsimp only at heq
    rw [heq, Address.eq_of_unquoted? hquoted (Address.isQuotedContent_of_isUser h hquoted).1,
      List.length_cons, List.length_append, List.length_singleton, List.length_nil] at hlength
    omega
  | none =>
    rw [and_iff_right rfl]
    exact Text.trimLeft_eq_self_iff

/-- An address that is accepted is read as it is just if it is bare. -/
theorem ofText_eq_bare_iff (h : Address.ofText s = .ok a) :
    ofText s = .ok { address := a } ↔ a.IsBare := by
  obtain ⟨-, huser, -⟩ := Address.ofText_eq_ok h
  obtain ⟨hreadable, hunreadable⟩ := ofText_readable h
  rw [Address.IsBare, ← readUser_eq_iff huser]
  constructor
  · intro hs
    by_cases ha : a.IsReadable
    · have hmailbox := Except.ok.inj (hs.symm.trans (hreadable ha))
      have hname : a.user = String.ofList a.readUser :=
        congrArg (fun m : Mailbox ↦ m.address.user) hmailbox
      refine ⟨ha.1, ?_⟩
      conv_rhs => rw [hname, String.toList_ofList]
    · obtain ⟨e, he⟩ := hunreadable ha
      cases hs.symm.trans he
  · rintro ⟨hdomain, hread⟩
    have hsame : String.ofList a.readUser = a.user := by
      rw [hread, String.ofList_toList]
    rw [hreadable ⟨hdomain, hsame ▸ huser⟩, hsame]

end Mailbox

end Mailroom.Mail
