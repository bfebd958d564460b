import Mailroom.Proofs.Mail.Addressing
import Mailroom.Proofs.Mail.Conversation
import Mailroom.Proofs.Mail.Framing

/-!
# Content that stays within a message

The subject, the page and the name of the sender are any texts, with control characters, ends of
lines and lone dots in them. Whatever they are, a relay reads the data of the message to its end
and no further, and the headers that it reads are those that were set: none more, none twice, and
none cut short (`Courier.send_contained`).
-/

namespace Mailroom.Mail

variable {c : Char} {cs : List Char} {s name : String} {a : Address} {m : Mailbox}

/-! ## Addresses -/

theorem unbroken_of_unspaced (h : Unspaced cs) : Unbroken cs := by
  intro c hc
  refine ⟨?_, ?_⟩
  all_goals
    rintro rfl
    exact absurd (h _ hc) (by decide)

namespace Address

theorem unbroken_of_isQuotedContent (h : isQuotedContent cs = true) : Unbroken cs := by
  induction cs using isQuotedContent.induct with
  | case1 => exact unbroken_nil
  | case2 c cs ih =>
    obtain ⟨hc, hcs⟩ := Bool.and_eq_true_iff.mp h
    refine unbroken_cons.mpr ⟨by decide, unbroken_cons.mpr ⟨?_, ih hcs⟩⟩
    exact unbroken_of_isVisible (List.forall_mem_singleton.mpr (.inl hc)) c
      (List.mem_singleton_self c)
  | case3 c cs hc ih =>
    rw [isQuotedContent] at h
    · obtain ⟨hchar, hcs⟩ := Bool.and_eq_true_iff.mp h
      have hshown : isVisible c = true ∨ 0x80 ≤ c.toNat ∨ isGap c = true := by
        simp only [isQuotable, Bool.or_eq_true, Bool.and_eq_true, decide_eq_true_eq] at hchar
        obtain hgap | ⟨⟨hvisible, -⟩, -⟩ | hbeyond := hchar
        · exact .inr (.inr hgap)
        · exact .inl hvisible
        · exact .inr (.inl hbeyond)
      refine unbroken_cons.mpr ⟨?_, ih hcs⟩
      exact unbroken_of_isVisible (List.forall_mem_singleton.mpr hshown) c
        (List.mem_singleton_self c)
    · exact hc

theorem unbroken_of_isUser {user : String} (h : isUser user = true) : Unbroken user.toList := by
  cases hquoted : unquoted? user.toList with
  | some inner =>
    obtain ⟨hne, hcontent⟩ := isQuotedContent_of_isUser h hquoted
    rw [eq_of_unquoted? hquoted hne, unbroken_cons, unbroken_append]
    exact ⟨by decide, unbroken_of_isQuotedContent hcontent, by decide⟩
  | none =>
    have hwords := isDotted_of_isUser h hquoted
    refine unbroken_of_isVisible fun c hc ↦ ?_
    by_cases hdot : c = '.'
    · rw [hdot]
      decide
    · obtain ⟨word, hword, hin⟩ := Text.exists_mem_splitAt hc hdot
      exact (isVisible_or_of_isAtomChar ((hwords word hword).2 c hin)).imp_right .inl

/-- An address stays on a line, however it has come about. -/
theorem unbroken_of_ofParts {user domain : String} (h : ofParts user domain = .ok a) :
    Unbroken a.text.toList := by
  obtain ⟨huser, hdomain, rfl⟩ := ofParts_eq_ok.mp h
  rw [toList_text, unbroken_append, unbroken_cons]
  exact ⟨unbroken_of_isUser huser, by decide,
    unbroken_of_unspaced (Domain.unspaced_of_isAccepted hdomain)⟩

theorem unbroken_of_ofText (h : ofText s = .ok a) : Unbroken a.text.toList := by
  unfold ofText at h
  split at h
  · cases h
  · exact unbroken_of_ofParts h

end Address

namespace Mailbox

/-- The address of a mailbox stays on a line. -/
def IsUnbroken (m : Mailbox) : Prop := Unbroken m.address.text.toList

theorem isUnbroken_of_ofParts {p : Option (List Char) × List Char × List Char}
    (h : ofParts p = .ok m) : m.IsUnbroken := by
  obtain ⟨name, user, domain⟩ := p
  obtain ⟨a, ha, ⟨⟩⟩ := bind_eq_ok.mp h
  exact Address.unbroken_of_ofParts ha

theorem isUnbroken_of_ofText (h : ofText s = .ok m) : m.IsUnbroken := by
  unfold ofText at h
  split at h
  · split at h
    · exact isUnbroken_of_ofParts h
    · cases h
  · cases h

theorem isUnbroken_of_listOfText {ms : List Mailbox} (h : listOfText s = .ok ms) :
    ∀ m ∈ ms, m.IsUnbroken := by
  unfold listOfText at h
  split at h
  · intro m hm
    obtain ⟨p, -, hp⟩ := exists_of_mapM_ok h m hm
    exact isUnbroken_of_ofParts hp
  · cases h

end Mailbox

/-! ## Headers -/

namespace Header

theorem shown_of_folded {h : Header} {v : List Char} (hfolded : Folded h.written.toList v) :
    h.shown.toList = v := by rw [shown, String.toList_ofList, hfolded.filter_eq]

theorem ofText_shown (name value : String) :
    Says (ofText name value).shown.toList value.toList := by
  obtain ⟨v, hfolded, hsays⟩ := HeaderLine.ofText_says name value
  rwa [shown_of_folded (h := ofText name value) hfolded]

theorem ofMailboxes_shown (name : String) (hm : m.IsUnbroken) :
    HeaderLine.Shown (ofMailboxes name [m]).shown.toList m := by
  have hms : ∀ g ∈ [m], Unbroken (g : Mailbox).address.text.toList :=
    List.forall_mem_singleton.mpr hm
  obtain ⟨xs, hxs, hfolded⟩ := HeaderLine.ofMailboxes_shown name hms
  obtain ⟨x, rest, hx, hrest, rfl⟩ := List.forall₂_cons_right_iff.mp hxs
  obtain rfl := List.forall₂_nil_right_iff.mp hrest
  rwa [shown_of_folded (h := ofMailboxes name [m]) hfolded, List.intercalate_singleton]

theorem ofText_sound (hname : IsName name) (value : String) : (ofText name value).Sound := by
  obtain ⟨v, hfolded, -⟩ := HeaderLine.ofText_says name value
  exact ⟨hname, v, hfolded⟩

theorem ofMailboxes_sound (hname : IsName name) {ms : List Mailbox}
    (hms : ∀ m ∈ ms, m.IsUnbroken) : (ofMailboxes name ms).Sound := by
  obtain ⟨xs, -, hfolded⟩ := HeaderLine.ofMailboxes_shown name hms
  exact ⟨hname, _, hfolded⟩

end Header

namespace Headers

variable {h : Header} {hs hs' : Headers} {as : List String}

/-- The names of headers. -/
def names (hs : Headers) : List String := List.map Header.name hs

theorem set_sound (hsound : h.Sound) (hhs : ∀ g ∈ hs, Header.Sound g) :
    ∀ g ∈ hs.set h, g.Sound := by
  induction hs with
  | nil => exact List.forall_mem_singleton.mpr hsound
  | cons g hs ih =>
    obtain ⟨hg, hhs⟩ := List.forall_mem_cons.mp hhs
    rw [set]
    split
    · exact List.forall_mem_cons.mpr ⟨hsound, hhs⟩
    · exact List.forall_mem_cons.mpr ⟨hg, ih hhs⟩

theorem names_set_of_mem (hmem : h.name ∈ hs.names) : (hs.set h).names = hs.names := by
  induction hs with
  | nil => exact absurd hmem List.not_mem_nil
  | cons g hs ih =>
    rw [set]
    split
    · rename_i hsame
      exact congrArg (· :: names hs) hsame.symm
    · rename_i hne
      refine congrArg (g.name :: ·) (ih ?_)
      exact (List.mem_cons.mp hmem).resolve_left (Ne.symm hne)

theorem names_set_of_not_mem (hmem : h.name ∉ hs.names) :
    (hs.set h).names = hs.names ++ [h.name] := by
  induction hs with
  | nil => rfl
  | cons g hs ih =>
    obtain ⟨hne, hhs⟩ := not_or.mp (mt List.mem_cons.mpr hmem)
    rw [set, if_neg (Ne.symm hne)]
    exact congrArg (g.name :: ·) (ih hhs)

/-- Headers of other names stay as they are. -/
theorem filter_set (hname : h.name = name) :
    (hs.set h).filter (·.name != name) = hs.filter (·.name != name) := by
  induction hs with
  | nil => rw [set, List.filter_cons_of_neg (by simp [hname])]
  | cons g hs ih =>
    rw [set]
    split
    · rename_i hsame
      rw [List.filter_cons_of_neg (by simp [hname]),
        List.filter_cons_of_neg (by simp [hsame, hname])]
    · rw [List.filter_cons, List.filter_cons, ih]

/-! ### Headers for addresses -/

theorem addAll_cons {a : String} (h : hs.addAll name (a :: as) = .ok hs') :
    ∃ m, Mailbox.ofText a = .ok m ∧ (hs.addMailbox name m).addAll name as = .ok hs' := by
  obtain ⟨g, hg, h⟩ := bind_eq_ok.mp h
  dsimp only at hg
  split at hg
  · rename_i m hm
    cases hg
    exact ⟨m, hm, h⟩
  · cases hg

theorem filter_addMailbox (name : String) (m : Mailbox) (hs : Headers) :
    (hs.addMailbox name m).filter (·.name != name) = hs.filter (·.name != name) := filter_set rfl

/-- What is preserved when one mailbox is added is preserved when all are. -/
theorem addAll_preserves {P : Headers → Prop} (h : hs.addAll name as = .ok hs')
    (hstep : ∀ g m, m.IsUnbroken → P g → P (g.addMailbox name m)) (hhs : P hs) : P hs' := by
  induction as generalizing hs with
  | nil =>
    cases h
    exact hhs
  | cons a as ih =>
    obtain ⟨m, hm, h⟩ := addAll_cons h
    exact ih h (hstep hs m (Mailbox.isUnbroken_of_ofText hm) hhs)

theorem addAll_sound (hname : Header.IsName name) (h : hs.addAll name as = .ok hs')
    (hhs : ∀ g ∈ hs, Header.Sound g) : ∀ g ∈ hs', Header.Sound g := by
  refine addAll_preserves (P := fun g ↦ ∀ h ∈ g, Header.Sound h) h (fun g m hm hg ↦ ?_) hhs
  refine set_sound (Header.ofMailboxes_sound hname ?_) hg
  refine List.forall_mem_append.mpr ⟨?_, List.forall_mem_singleton.mpr hm⟩
  cases hread : g.mailboxes? name with
  | none => exact nofun
  | some ms =>
    obtain ⟨field, -, hfield⟩ := Option.bind_eq_some_iff.mp hread
    cases hlist : Mailbox.listOfText field.value with
    | error e =>
      rw [hlist] at hfield
      cases hfield
    | ok ms' =>
      rw [hlist] at hfield
      cases hfield
      exact Mailbox.isUnbroken_of_listOfText hlist

/-- The name of the header for some addresses, if there are any. -/
def nameFor (name : String) (as : List String) : List String := if as.isEmpty then [] else [name]

theorem nameFor_sublist (name : String) (as : List String) : (nameFor name as).Sublist [name] := by
  unfold nameFor
  split
  · exact List.nil_sublist _
  · exact List.Sublist.refl _

theorem mem_nameFor {other : String} : other ∈ nameFor name as ↔ as ≠ [] ∧ other = name := by
  cases as with
  | nil => exact iff_of_false List.not_mem_nil fun h ↦ h.1 rfl
  | cons a as => exact List.mem_singleton.trans (and_iff_right nofun).symm

theorem names_addAll {ns : List String} (hnames : hs.names = ns) (hmem : name ∉ ns)
    (h : hs.addAll name as = .ok hs') : hs'.names = ns ++ nameFor name as := by
  subst hnames
  cases as with
  | nil =>
    cases h
    exact (List.append_nil _).symm
  | cons a as =>
    obtain ⟨m, -, h⟩ := addAll_cons h
    refine addAll_preserves (P := (names · = hs.names ++ [name])) h (fun g m _ hg ↦ ?_)
      (names_set_of_not_mem hmem)
    exact (names_set_of_mem (hg ▸ List.mem_append_right _ List.mem_cons_self)).trans hg

theorem mem_addAll {g : Header} (h : hs.addAll name as = .ok hs') (hname : g.name ≠ name)
    (hg : g ∈ hs) : g ∈ hs' := by
  refine addAll_preserves (P := (g ∈ ·)) h (fun gs m _ hgs ↦ ?_) hg
  have hother : g ∈ gs.filter (·.name != name) :=
    List.mem_filter.mpr ⟨hgs, bne_iff_ne.mpr hname⟩
  rw [← filter_addMailbox name m] at hother
  exact (List.mem_filter.mp hother).1

theorem names_append (hs hs' : Headers) : names (hs ++ hs') = hs.names ++ hs'.names :=
  List.map_append

theorem names_filter (hs : Headers) (name : String) :
    names (hs.filter (·.name != name)) = hs.names.filter (· != name) := by
  rw [names, names, List.filter_map]
  rfl

theorem text_append (hs hs' : Headers) : text (hs ++ hs') = hs.text ++ hs'.text := by
  induction hs with
  | nil => exact String.empty_append.symm
  | cons h hs ih => rw [List.cons_append, text_cons, text_cons, ih, String.append_assoc]

end Headers

/-! ## Messages -/

namespace Message

open Headers (names nameFor)

variable {sender : Mailbox} {image : Option InlineImage} {stamp : Stamp} {m : Outgoing}
  {message : Message} {hs : Headers}

/-- The headers of every message: who it is from, what it is about, and its identification. -/
def commonHeaders (sender : Mailbox) (stamp : Stamp) (m : Outgoing) : Headers :=
  [.ofMailboxes "From" [sender], .ofText "Subject" m.subject, .ofText "Message-ID" stamp.id]

theorem heading_eq_ok : heading sender stamp m = .ok hs ↔ ∃ hs₁ hs₂ hs₃,
    (commonHeaders sender stamp m).addAll "To" m.addressees = .ok hs₁ ∧
      hs₁.addAll "Cc" m.cc = .ok hs₂ ∧ hs₂.addAll "Bcc" m.bcc = .ok hs₃ ∧
      hs₃.addAll "Reply-To" m.replyTo.toList = .ok hs := by
  simp only [heading, commonHeaders, bind_eq_ok, exists_and_left]

theorem heading_sound (hsender : sender.IsUnbroken) (h : heading sender stamp m = .ok hs) :
    ∀ g ∈ hs, Header.Sound g := by
  obtain ⟨hs₁, hs₂, hs₃, h₁, h₂, h₃, h₄⟩ := heading_eq_ok.mp h
  have hcommon : ∀ g ∈ commonHeaders sender stamp m, Header.Sound g := by
    refine List.forall_mem_cons.mpr ⟨?_, List.forall_mem_cons.mpr ⟨?_, ?_⟩⟩
    · exact Header.ofMailboxes_sound (by decide) (List.forall_mem_singleton.mpr hsender)
    · exact Header.ofText_sound (by decide) _
    · exact List.forall_mem_singleton.mpr (Header.ofText_sound (by decide) _)
  have hsound₁ := Headers.addAll_sound (by decide) h₁ hcommon
  have hsound₂ := Headers.addAll_sound (by decide) h₂ hsound₁
  have hsound₃ := Headers.addAll_sound (by decide) h₃ hsound₂
  exact Headers.addAll_sound (by decide) h₄ hsound₃

theorem names_heading (h : heading sender stamp m = .ok hs) :
    hs.names = ["From", "Subject", "Message-ID"] ++ nameFor "To" m.addressees ++
      nameFor "Cc" m.cc ++ nameFor "Bcc" m.bcc ++ nameFor "Reply-To" m.replyTo.toList := by
  obtain ⟨hs₁, hs₂, hs₃, h₁, h₂, h₃, h₄⟩ := heading_eq_ok.mp h
  have hcommon : (commonHeaders sender stamp m).names = ["From", "Subject", "Message-ID"] := rfl
  have hnames₁ := Headers.names_addAll hcommon (by decide) h₁
  have hnames₂ := Headers.names_addAll hnames₁ (by simp [Headers.mem_nameFor]) h₂
  have hnames₃ := Headers.names_addAll hnames₂ (by simp [Headers.mem_nameFor]) h₃
  exact Headers.names_addAll hnames₃ (by simp [Headers.mem_nameFor]) h₄

theorem mem_heading (h : heading sender stamp m = .ok hs) {g : Header}
    (hg : g ∈ commonHeaders sender stamp m) : g ∈ hs := by
  have hname : g.name ∈ ["From", "Subject", "Message-ID"] := List.mem_map_of_mem hg
  have hne {name : String} (hnot : name ∉ ["From", "Subject", "Message-ID"]) : g.name ≠ name :=
    fun heq ↦ hnot (heq ▸ hname)
  obtain ⟨hs₁, hs₂, hs₃, h₁, h₂, h₃, h₄⟩ := heading_eq_ok.mp h
  have hg₁ := Headers.mem_addAll h₁ (hne (by decide)) hg
  have hg₂ := Headers.mem_addAll h₂ (hne (by decide)) hg₁
  have hg₃ := Headers.mem_addAll h₃ (hne (by decide)) hg₂
  exact Headers.mem_addAll h₄ (hne (by decide)) hg₃

/-! ### The text of a message -/

/-- The headers of a content, which follow those of the message. -/
def contentHeaders (stamp : Stamp) (image : Option InlineImage) (html : String) : Headers :=
  match image with
  | none => [.ofText "Content-Type" "text/html; charset=utf-8",
      .ofText "Content-Transfer-Encoding" (Transfer.ofText html).1.name]
  | some _ => [.ofText "Content-Type" s!"multipart/related; boundary=\"{stamp.boundary}\""]

/-- The headers that stand in front of the content of a message, when some have been set. -/
def sentHeaders (stamp : Stamp) (hs : Headers) : Headers :=
  hs.filter (·.name != "Bcc") ++ [.ofText "MIME-Version" "1.0",
    .ofText "Date" (Calendar.headerStamp stamp.time)]

theorem content_eq_ok {html text : String} (h : content stamp image html = .ok text) :
    ∃ body, text = (contentHeaders stamp image html).text ++ "\r\n" ++ body := by
  unfold content at h
  split at h
  · cases h
    exact ⟨_, String.append_assoc⟩
  · split at h
    · cases h
    · cases h
      exact ⟨_, String.append_assoc⟩

/-- A message that is made has the envelope that its headers say, and its headers in front of its
content. -/
theorem make_eq_ok (h : make sender image stamp m = .ok message) : ∃ hs text,
    heading sender stamp m = .ok hs ∧ envelopeOf hs = .ok message.envelope ∧
      content stamp image m.html = .ok text ∧
      message.text = (sentHeaders stamp hs).text ++ text := by
  obtain ⟨hs, hheading, h⟩ := bind_eq_ok.mp h
  obtain ⟨text, hcontent, h⟩ := bind_eq_ok.mp h
  obtain ⟨envelope, henvelope, ⟨⟩⟩ := bind_eq_ok.mp h
  exact ⟨hs, text, hheading, henvelope, hcontent, rfl⟩

/-- The names of the headers in the text of a message. Who gets a copy, and where replies go, is
said if somebody is named; with an image every part says how it is encoded, and the whole does
not. -/
def fieldNames (image : Option InlineImage) (m : Outgoing) : List String :=
  ["From", "Subject", "Message-ID"] ++ nameFor "To" m.addressees ++ nameFor "Cc" m.cc ++
    nameFor "Reply-To" m.replyTo.toList ++ ["MIME-Version", "Date", "Content-Type"] ++
    match image with
    | none => ["Content-Transfer-Encoding"]
    | some _ => []

theorem fieldNames_nodup (image : Option InlineImage) (m : Outgoing) :
    (fieldNames image m).Nodup := by
  have hall : (["From", "Subject", "Message-ID"] ++ ["To"] ++ ["Cc"] ++ ["Reply-To"] ++
      ["MIME-Version", "Date", "Content-Type"] ++ ["Content-Transfer-Encoding"]).Nodup := by decide
  have hsome : List.Sublist (match image with
      | none => ["Content-Transfer-Encoding"]
      | some _ => []) ["Content-Transfer-Encoding"] := by
    cases image with
    | none => exact List.Sublist.refl _
    | some _ => exact List.nil_sublist _
  refine List.Sublist.nodup (.append (.append (.append (.append (.append (.refl _) ?_) ?_) ?_)
    (.refl _)) hsome) hall
  all_goals exact Headers.nameFor_sublist _ _

theorem names_textHeaders (h : heading sender stamp m = .ok hs) :
    (sentHeaders stamp hs ++ contentHeaders stamp image m.html).names = fieldNames image m := by
  have hkept {name : String} (as : List String) (hname : name ≠ "Bcc") :
      (nameFor name as).filter (· != "Bcc") = nameFor name as :=
    List.filter_eq_self.mpr fun other hother ↦
      bne_iff_ne.mpr ((Headers.mem_nameFor.mp hother).2.trans_ne hname)
  have hleft : (nameFor "Bcc" m.bcc).filter (· != "Bcc") = [] :=
    List.filter_eq_nil_iff.mpr fun other hother ↦ by simp [Headers.mem_nameFor.mp hother]
  rw [Headers.names_append, sentHeaders, Headers.names_append, Headers.names_filter,
    names_heading h, List.filter_append, List.filter_append, List.filter_append, List.filter_append,
    hkept _ (by decide), hkept _ (by decide), hleft, hkept _ (by decide), List.append_nil]
  cases image <;> simp [fieldNames, contentHeaders, Headers.names, Header.ofText]

theorem textHeaders_sound (hsender : sender.IsUnbroken) (h : heading sender stamp m = .ok hs) :
    ∀ g ∈ sentHeaders stamp hs ++ contentHeaders stamp image m.html, Header.Sound g := by
  have hcontent : ∀ g ∈ contentHeaders stamp image m.html, Header.Sound g := by
    cases image with
    | none =>
      exact List.forall_mem_cons.mpr ⟨Header.ofText_sound (by decide) _,
        List.forall_mem_singleton.mpr (Header.ofText_sound (by decide) _)⟩
    | some image => exact List.forall_mem_singleton.mpr (Header.ofText_sound (by decide) _)
  refine List.forall_mem_append.mpr ⟨List.forall_mem_append.mpr ⟨?_, ?_⟩, hcontent⟩
  · exact fun g hg ↦ heading_sound hsender h g (List.mem_filter.mp hg).1
  · exact List.forall_mem_cons.mpr ⟨Header.ofText_sound (by decide) _,
      List.forall_mem_singleton.mpr (Header.ofText_sound (by decide) _)⟩

/-- A text has the headers of a message: each of them once, as it was set, on lines of its own and
to its end, with the whole subject and the whole name of the sender among them. -/
structure HasHeaders (sender : Mailbox) (image : Option InlineImage) (stamp : Stamp) (m : Outgoing)
    (text : List Char) : Prop where
  names : (fieldsOf text).map Prod.fst = fieldNames image m
  nodup : (fieldNames image m).Nodup
  fields : ∃ hs, heading sender stamp m = .ok hs ∧ fieldsOf text =
    (sentHeaders stamp hs ++ contentHeaders stamp image m.html).map fun h ↦ (h.name, h.shown)
  unbroken : ∀ field ∈ fieldsOf text, Unbroken field.2.toList
  subject : ∃ v, ("Subject", v) ∈ fieldsOf text ∧ Says v.toList m.subject.toList
  sender : ∃ v, ("From", v) ∈ fieldsOf text ∧ HeaderLine.Shown v.toList sender

theorem make_hasHeaders (hsender : sender.IsUnbroken)
    (h : make sender image stamp m = .ok message) :
    HasHeaders sender image stamp m (message.text.toList ++ ['\r', '\n']) := by
  obtain ⟨hs, text, hheading, -, hcontent, htext⟩ := make_eq_ok h
  obtain ⟨body, rfl⟩ := content_eq_ok hcontent
  have hend : "\r\n".toList = ['\r', '\n'] := by decide
  have hlist : message.text.toList ++ ['\r', '\n'] =
      (sentHeaders stamp hs ++ contentHeaders stamp image m.html).text.toList ++
        '\r' :: '\n' :: (body.toList ++ ['\r', '\n']) := by
    rw [htext, Headers.text_append]
    simp [hend]
  have hsound : ∀ g ∈ sentHeaders stamp hs ++ contentHeaders stamp image m.html, Header.Sound g :=
    textHeaders_sound hsender hheading
  have hfields := fieldsOf_text hsound (body.toList ++ ['\r', '\n'])
  rw [← hlist] at hfields
  have hfield {g : Header} (hg : g ∈ commonHeaders sender stamp m) (hname : g.name ≠ "Bcc") :
      (g.name, g.shown) ∈ fieldsOf (message.text.toList ++ ['\r', '\n']) := by
    rw [hfields]
    refine List.mem_map_of_mem (f := fun h : Header ↦ (h.name, h.shown))
      (List.mem_append_left _ (List.mem_append_left _ ?_))
    exact List.mem_filter.mpr ⟨mem_heading hheading hg, bne_iff_ne.mpr hname⟩
  constructor
  · rw [hfields, List.map_map]
    exact names_textHeaders hheading
  · exact fieldNames_nodup image m
  · exact ⟨hs, hheading, hfields⟩
  · rw [hfields]
    intro field hmem
    obtain ⟨g, hg, rfl⟩ := List.mem_map.mp hmem
    obtain ⟨v, hfolded⟩ := (hsound g hg).folded
    rw [Header.shown_of_folded hfolded]
    exact hfolded.unbroken
  · have hsubject : Header.ofText "Subject" m.subject ∈ commonHeaders sender stamp m :=
      List.mem_cons_of_mem _ List.mem_cons_self
    exact ⟨_, hfield hsubject (by simp [Header.ofText]), Header.ofText_shown _ _⟩
  · have hfrom : Header.ofMailboxes "From" [sender] ∈ commonHeaders sender stamp m :=
      List.mem_cons_self
    exact ⟨_, hfield hfrom (by simp [Header.ofMailboxes]), Header.ofMailboxes_shown _ hsender⟩

end Message

/-! ## Couriers -/

namespace Courier

open Journal (answerAt)

theorem isUnbroken_of_senderOf {settings : SmtpSettings} {sender : Mailbox}
    (h : senderOf settings = .ok sender) : sender.IsUnbroken := by
  unfold senderOf at h
  split at h
  · rename_i address haddress
    cases h
    exact Address.unbroken_of_ofText haddress
  · cases h

/-- Whatever a relay answers, all data that it is handed for a message ends at the end mark, which
stands nowhere else in it; and what it receives has the headers of the message, with the whole
subject and the whole name of the sender, and no others. -/
theorem send_contained (c : Courier) {settings : SmtpSettings}
    (hsender : senderOf settings = .ok c.sender) (relay : Relay) (fresh : Fresh) (now : Int)
    (m : Outgoing) {d : String} (hd : .data d ∈ (answerAt now (c.send relay fresh m)).1) :
    (∃ before, d.toList = before ++ endMark) ∧
      (∀ before behind, d.toList = before ++ endMark ++ behind → behind = []) ∧
      ∃ text, received true d.toList = some (text, []) ∧
        Message.HasHeaders c.sender c.image (c.stampAt fresh now) m text := by
  obtain ⟨message, opening, options, -, hmake, rfl, -⟩ := exists_of_mem_send hd
  refine ⟨data_eq_append message, fun before behind ↦ data_ends_once message, _,
    received_data message, ?_⟩
  exact Message.make_hasHeaders (isUnbroken_of_senderOf hsender) hmake

/-- A courier whose name looks like another mailbox. -/
def forgedCourier : Courier where
  sender := { name := some "Eve <eve@example.org>, \"é\"", address := ⟨"noreply", "example.com"⟩ }

/-- A message that takes leave of the relay, and goes on, in its subject and in its page. -/
def forgedMessage : Outgoing where
  addressees := ["bob@example.org"]
  subject := "Hello\r\nBcc: eve@example.org\r\n\r\n.\r\nQUIT"
  html := ".\r\n.\r\nRSET\r\n.\n"

/-- The message is handed over, and it ends where it should. -/
theorem send_contained_forged :
    senderOf { sender := "noreply@example.com", senderName := forgedCourier.sender.name } =
        .ok forgedCourier.sender ∧
      ∃ d, .data d ∈ (answerAt 0 (forgedCourier.send .accepting ⟨"1", "b"⟩ forgedMessage)).1 ∧
        ∃ text, received true d.toList = some (text, []) ∧
          Message.HasHeaders forgedCourier.sender none (forgedCourier.stampAt ⟨"1", "b"⟩ 0)
            forgedMessage text := by
  have hsender : senderOf
      { sender := "noreply@example.com", senderName := forgedCourier.sender.name } =
        .ok forgedCourier.sender := by decide +kernel
  have hmake : ∃ message, Message.make forgedCourier.sender forgedCourier.image
      (forgedCourier.stampAt ⟨"1", "b"⟩ 0) forgedMessage = .ok message := by decide +kernel
  obtain ⟨message, hmake⟩ := hmake
  have hd := mem_send_accepting rfl hmake
  obtain ⟨-, -, hreceived⟩ := send_contained forgedCourier hsender .accepting ⟨"1", "b"⟩ 0 _ hd
  exact ⟨hsender, _, hd, hreceived⟩

end Courier

end Mailroom.Mail
