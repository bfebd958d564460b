import Mailroom.Mail.Message
import Mailroom.Proofs.Journal
import Mailroom.Proofs.Mail.Addressing
import Mailroom.Proofs.Service.Submission

/-!
# Whether what is accepted can be sent

A submission is accepted if all its addresses are addresses, and a message is made for it if all of
them can be read as mailboxes. The second is more than the first (`accepted_iff_readable`).
-/

namespace Mailroom

namespace Mail

variable {α β : Type} {as bs : List String}

/-! ## Making a message -/

/-- A step in the making of a message fails at an address if one of some addresses is not read as a
mailbox, and otherwise it goes on. -/
structure Addressed (as : List String) (o : Except Fault α) : Prop where
  ok : (∀ s ∈ as, ∃ m, Mailbox.ofText s = .ok m) → ∃ a, o = .ok a
  error : (∃ s ∈ as, ∃ e, Mailbox.ofText s = .error e) → ∃ reason, o = .error (.address reason)

theorem Addressed.pure (a : α) : Addressed [] (.ok a : Except Fault α) := ⟨fun _ ↦ ⟨a, rfl⟩, nofun⟩

/-- A failure of two steps is one of the first or of the second. -/
theorem bind_eq_error {o : Except Fault α} {f : α → Except Fault β} {fault : Fault}
    (h : o >>= f = .error fault) : o = .error fault ∨ ∃ a, f a = .error fault := by
  cases o with
  | ok a => exact .inr ⟨a, h⟩
  | error e => exact .inl (congrArg Except.error (Except.error.inj h))

theorem read_or_unread (as : List String) :
    (∀ s ∈ as, ∃ m, Mailbox.ofText s = .ok m) ∨ ∃ s ∈ as, ∃ e, Mailbox.ofText s = .error e := by
  by_cases h : ∃ s ∈ as, ∃ e, Mailbox.ofText s = .error e
  · exact .inr h
  · refine .inl fun s hs ↦ ?_
    cases hread : Mailbox.ofText s with
    | ok m => exact ⟨m, rfl⟩
    | error e => exact absurd ⟨s, hs, e, hread⟩ h

theorem Addressed.bind {o : Except Fault α} {f : α → Except Fault β} (h : Addressed as o)
    (hf : ∀ a, Addressed bs (f a)) : Addressed (as ++ bs) (o >>= f) := by
  constructor
  · intro hall
    obtain ⟨has, hbs⟩ := List.forall_mem_append.mp hall
    obtain ⟨a, rfl⟩ := h.ok has
    exact (hf a).ok hbs
  · intro hsome
    obtain has | has := read_or_unread as
    · obtain ⟨a, rfl⟩ := h.ok has
      refine (hf a).error ?_
      obtain ⟨s, hs, e, he⟩ := hsome
      rcases List.mem_append.mp hs with hs | hs
      · obtain ⟨m, hm⟩ := has s hs
        cases hm.symm.trans he
      · exact ⟨s, hs, e, he⟩
    · obtain ⟨reason, rfl⟩ := h.error has
      exact ⟨reason, rfl⟩

theorem addAll_addressed (name : String) (as : List String) (hs : Headers) :
    Addressed as (hs.addAll name as) := by
  induction as generalizing hs with
  | nil => exact .pure hs
  | cons s as ih =>
    change Addressed ([s] ++ as) _
    rw [Headers.addAll, List.foldlM_cons]
    refine Addressed.bind ?_ fun hs ↦ ih hs
    constructor
    · intro hall
      obtain ⟨m, hm⟩ := hall s List.mem_cons_self
      rw [hm]
      exact ⟨_, rfl⟩
    · rintro ⟨_, hmem, e, he⟩
      rw [List.mem_singleton.mp hmem] at he
      rw [he]
      exact ⟨_, rfl⟩

/-- Every address that a message names. -/
def Outgoing.addresses (m : Outgoing) : List String := m.recipients ++ m.replyTo.toList

theorem heading_addressed (sender : Mailbox) (stamp : Stamp) (m : Outgoing) :
    Addressed m.addresses (Message.heading sender stamp m) := by
  have h := (addAll_addressed "To" m.addressees [.ofMailboxes "From" [sender],
    .ofText "Subject" m.subject, .ofText "Message-ID" stamp.id]).bind fun hs ↦
      (addAll_addressed "Cc" m.cc hs).bind fun hs ↦
        (addAll_addressed "Bcc" m.bcc hs).bind fun hs ↦
          addAll_addressed "Reply-To" m.replyTo.toList hs
  rwa [← List.append_assoc, ← List.append_assoc] at h

theorem content_ne_address {stamp : Stamp} {image : Option InlineImage} {html reason : String} :
    Message.content stamp image html ≠ .error (.address reason) := by
  unfold Message.content
  split
  · exact nofun
  · split <;> exact nofun

theorem envelopeOf_ne_address {hs : Headers} {reason : String} :
    Message.envelopeOf hs ≠ .error (.address reason) := by
  unfold Message.envelopeOf
  cases hs.mailboxes? "From" with
  | none => exact nofun
  | some senders =>
    cases senders with
    | nil => exact nofun
    | cons m senders =>
      change (if _ then _ else _) ≠ _
      split <;> exact nofun

/-- A message fails at an address just if one of its addresses is not read as a mailbox. -/
theorem make_address_iff (sender : Mailbox) (image : Option InlineImage) (stamp : Stamp)
    (m : Outgoing) :
    (∃ reason, Message.make sender image stamp m = .error (.address reason)) ↔
      ∃ s ∈ m.addresses, ∃ e, Mailbox.ofText s = .error e := by
  have h := heading_addressed sender stamp m
  obtain hall | hsome := read_or_unread m.addresses
  · refine iff_of_false ?_ ?_
    · rintro ⟨reason, hmake⟩
      obtain ⟨hs, hheading⟩ := h.ok hall
      rw [Message.make, hheading] at hmake
      obtain hcontent | ⟨content, hmake⟩ :=
        bind_eq_error (o := Message.content stamp image m.html) hmake
      · exact content_ne_address hcontent
      · obtain henvelope | ⟨envelope, hmake⟩ := bind_eq_error (o := Message.envelopeOf hs) hmake
        · exact envelopeOf_ne_address henvelope
        · cases hmake
    · rintro ⟨s, hs, e, he⟩
      obtain ⟨m, hm⟩ := hall s hs
      cases hm.symm.trans he
  · obtain ⟨reason, hheading⟩ := h.error hsome
    refine iff_of_true ⟨reason, ?_⟩ hsome
    rw [Message.make, hheading]
    rfl

end Mail

/-! ## Submissions -/

namespace Submission

open Mail

variable {s : Submission} {v : Json}

/-- Every address of a submission. -/
def addresses (s : Submission) : List String :=
  let extras := s.extras.getD {}
  s.addressees ++ extras.cc ++ extras.bcc ++ extras.replyTo.toList

theorem addresses_toMessage (s : Submission) (subject html : String) :
    (s.toMessage subject html).addresses = s.addresses := rfl

theorem problems_of_ofJson (h : ofJson v = .ok s) : s.problems = [] := by
  unfold ofJson at h
  split at h
  · cases h
  · split at h
    · rename_i hempty
      cases h
      exact List.isEmpty_iff.mp hempty
    · cases h

theorem isAddress_eq_true_iff {s : String} :
    isAddress s = true ↔ ∃ a, Address.ofText s = .ok a := by
  unfold isAddress
  cases Address.ofText s with
  | ok a => exact iff_of_true rfl ⟨a, rfl⟩
  | error e => exact iff_of_false nofun nofun

/-- All addresses of a submission that is accepted are addresses. -/
theorem isAddress_of_ofJson (h : ofJson v = .ok s) : ∀ t ∈ s.addresses, isAddress t = true := by
  obtain ⟨-, hto, hextras⟩ := problems_eq_nil_iff.mp (problems_of_ofJson h)
  unfold addresses
  cases hmeta : s.extras with
  | none =>
    intro t ht
    exact hto t (by simpa using ht)
  | some e =>
    obtain ⟨hreplyTo, hcc, hbcc⟩ := Extras.problems_eq_nil_iff.mp (hextras e hmeta)
    simp only [Option.getD_some, List.forall_mem_append]
    exact ⟨⟨⟨hto, hcc⟩, hbcc⟩, fun t ht ↦ hreplyTo t (by simpa using ht)⟩

/-- An address that is accepted is read as a mailbox just if it can be read, and the mailbox has no
name then. It is read as the address that it is just if it is bare. So for a submission that is
accepted, the making of the message fails at an address just if one of its addresses cannot be
read. -/
theorem accepted_iff_readable (t : String) (v : Json) (s : Submission) :
    (∀ a, Address.ofText t = .ok a → a.text = t ∧
      ((∃ m, Mailbox.ofText t = .ok m) ↔ a.IsReadable) ∧
      (∀ m, Mailbox.ofText t = .ok m →
        m = { address := ⟨String.ofList a.readUser, a.domain⟩ }) ∧
      (Mailbox.ofText t = .ok { address := a } ↔ a.IsBare)) ∧
    (ofJson v = .ok s → ∀ sender image stamp subject html,
      ((∃ reason, Message.make sender image stamp (s.toMessage subject html) =
          .error (.address reason)) ↔
        ∃ t ∈ s.addresses, ∃ a, Address.ofText t = .ok a ∧ ¬a.IsReadable)) := by
  constructor
  · intro a ha
    refine ⟨?_, Mailbox.ofText_ok_iff ha, fun m hm ↦ ?_, Mailbox.ofText_eq_bare_iff ha⟩
    · rw [← String.toList_inj, Address.text, (Address.ofText_eq_ok ha).1]
      simp
    · have hreadable := (Mailbox.ofText_ok_iff ha).mp ⟨m, hm⟩
      exact Except.ok.inj (hm.symm.trans ((Mailbox.ofText_readable ha).1 hreadable))
  · intro hs sender image stamp subject html
    rw [make_address_iff, addresses_toMessage]
    refine exists_congr fun t ↦ and_congr_right fun ht ↦ ?_
    obtain ⟨a, ha⟩ := isAddress_eq_true_iff.mp (isAddress_of_ofJson hs t ht)
    constructor
    · rintro ⟨e, he⟩
      refine ⟨a, ha, fun hreadable ↦ ?_⟩
      obtain ⟨m, hm⟩ := (Mailbox.ofText_ok_iff ha).mpr hreadable
      cases hm.symm.trans he
    · rintro ⟨a', ha', hunreadable⟩
      exact (Mailbox.ofText_readable ha').2 hunreadable

/-- A submission for one address. -/
def submissionTo (address : String) : Json := .obj [("to", .arr [.str address])]

theorem ofJson_submissionTo {address : String} (h : isAddress address = true) :
    ofJson (submissionTo address) = .ok { addressees := [address] } := by
  have hshape : ofShape (submissionTo address) = .ok { addressees := [address] } := rfl
  have hproblems : ({ addressees := [address] } : Submission).problems = [] :=
    problems_eq_nil_iff.mpr ⟨nofun, List.forall_mem_singleton.mpr h, nofun⟩
  rw [ofJson, hshape]
  exact if_pos (List.isEmpty_iff.mpr hproblems)

/-- The mailbox of a service. -/
def serviceMailbox : Mailbox where
  address := ⟨"noreply", "example.com"⟩

/-- The address is bare, so it is read as it is and the message is not given up at it. -/
theorem accepted_iff_readable_ann :
    Mailbox.ofText "ann@example.org" = .ok { address := ⟨"ann", "example.org"⟩ } ∧
      ∃ s, ofJson (submissionTo "ann@example.org") = .ok s ∧ ∀ subject html reason,
        Message.make serviceMailbox none ⟨"<1@example.com>", "b", 0⟩ (s.toMessage subject html) ≠
          .error (.address reason) := by
  have ha : Address.ofText "ann@example.org" = .ok ⟨"ann", "example.org"⟩ := by decide +kernel
  have hs := ofJson_submissionTo (isAddress_eq_true_iff.mpr ⟨_, ha⟩)
  have hbare : (Address.mk "ann" "example.org").IsBare :=
    ⟨by decide +kernel, by decide +kernel, by decide +kernel⟩
  obtain ⟨hall, hmade⟩ := accepted_iff_readable "ann@example.org" (submissionTo "ann@example.org")
    { addressees := ["ann@example.org"] }
  obtain ⟨-, -, -, hread⟩ := hall _ ha
  refine ⟨hread.mpr hbare, _, hs, fun subject html reason hmake ↦ ?_⟩
  obtain ⟨t, ht, a, ha', hunreadable⟩ :=
    (hmade hs serviceMailbox none ⟨"<1@example.com>", "b", 0⟩ subject html).mp ⟨reason, hmake⟩
  obtain rfl := List.mem_singleton.mp ht
  obtain rfl := Except.ok.inj (ha.symm.trans ha')
  exact hunreadable (by decide +kernel)

/-- An address with a quoted user is accepted, and the message for it is given up at the address. -/
theorem accepted_unreadable :
    isAddress "\"q q\"@b.c" = true ∧ Mailbox.ofText "\"q q\"@b.c" = .error .invalidUser ∧
      ∃ s, ofJson (submissionTo "\"q q\"@b.c") = .ok s ∧ ∀ subject html, ∃ reason,
        Message.make serviceMailbox none ⟨"<1@example.com>", "b", 0⟩ (s.toMessage subject html) =
          .error (.address reason) := by
  have haddress : isAddress "\"q q\"@b.c" = true := by decide +kernel
  have hread : Mailbox.ofText "\"q q\"@b.c" = .error .invalidUser := by decide +kernel
  refine ⟨haddress, hread, _, ofJson_submissionTo haddress, fun subject html ↦ ?_⟩
  exact (make_address_iff _ _ _ _).mpr
    ⟨"\"q q\"@b.c", List.mem_singleton_self _, .invalidUser, hread⟩

end Submission

end Mailroom
