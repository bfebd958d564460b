import Mailroom.Mail.Courier
import Mailroom.Proofs.Journal

/-!
# What is said to a relay

A conversation adds to what has been said, and takes nothing back. `Talk.Utters act P` tells of a
step how it ends and what it adds; there is one rule for each way in which steps are put together.

Whatever a relay answers, a courier says nothing but commands until it hands over the message that
it made. By then it has named the sender and every recipient of the envelope
(`Courier.saidFor_cases`). To a relay that accepts everything, every message that is made is handed
over (`Courier.mem_send_accepting`).
-/

namespace Mailroom.Mail

/-- A command, and not a message. -/
def Said.IsCommand : Said → Prop
  | .command _ => True
  | .data _ => False

instance : DecidablePred Said.IsCommand
  | .command _ => .isTrue trivial
  | .data _ => .isFalse id

/-- Nothing but commands. -/
def Commands (said : List Said) : Prop := ∀ s ∈ said, s.IsCommand

theorem Commands.append {said more : List Said} (h : Commands said) (h' : Commands more) :
    Commands (said ++ more) := List.forall_mem_append.mpr ⟨h, h'⟩

theorem commands_map {α : Type} (f : α → String) (l : List α) :
    Commands (l.map fun a ↦ .command (f a)) := by
  intro s hs
  obtain ⟨a, -, rfl⟩ := List.mem_map.mp hs
  trivial

/-- A relay that can do everything, and says so whatever it hears. -/
def Relay.accepting : Relay where
  greeting := .ok "220 relay.example.com"
  reply _ := "250-relay.example.com\r\n250-8BITMIME\r\n250 SMTPUTF8"

namespace Talk

variable {α β : Type}

/-- In a conversation, a step ends in some way, and adds something to what has been said. -/
def UttersAt (c : Conversation) (act : Talk α) (P : Except Trouble α → List Said → Prop) : Prop :=
  ∃ added, (act.run c).2.said = c.said ++ added ∧ P (act.run c).1 added

/-- So it is in every conversation. -/
def Utters (act : Talk α) (P : Except Trouble α → List Said → Prop) : Prop := ∀ c, UttersAt c act P

namespace Utters

variable {act : Talk α} {P : Except Trouble α → List Said → Prop}

/-- A step that says nothing. -/
theorem silent (h : ∀ c : Conversation, (act.run c).2.said = c.said ∧ P (act.run c).1 []) :
    Utters act P := by
  intro c
  obtain ⟨hsaid, hP⟩ := h c
  exact ⟨[], by rw [hsaid, List.append_nil], hP⟩

theorem pure {a : α} (h : P (.ok a) []) : Utters (pure a) P := silent fun _ ↦ ⟨rfl, h⟩

theorem throw {e : Trouble} (h : P (.error e) []) : Utters (throw e) P := silent fun _ ↦ ⟨rfl, h⟩

theorem throw_bind {e : Trouble} {f : α → Talk β} {Q : Except Trouble β → List Said → Prop}
    (h : Q (.error e) []) : Utters (MonadExcept.throw e >>= f) Q := silent fun _ ↦ ⟨rfl, h⟩

/-- A look at the conversation. -/
theorem get_bind {f : Conversation → Talk β} {Q : Except Trouble β → List Said → Prop}
    (h : ∀ c, UttersAt c (f c) Q) : Utters (get >>= f) Q := h

/-- A change of the conversation that leaves what has been said. -/
theorem set_bind {c c' : Conversation} {next : Talk β} {Q : Except Trouble β → List Said → Prop}
    (hc : c'.said = c.said) (h : Utters next Q) : UttersAt c (set c' >>= fun _ ↦ next) Q := by
  rw [UttersAt, ← hc]
  exact h c'

/-- An outcome that is settled before anything is said. -/
theorem except {o : Except Trouble α} (h : P o []) : Utters (ExceptT.mk (Pure.pure o)) P :=
  silent fun _ ↦ ⟨rfl, h⟩

theorem weaken {Q : Except Trouble α → List Said → Prop} (h : Utters act P)
    (hPQ : ∀ o added, P o added → Q o added) : Utters act Q := by
  intro c
  obtain ⟨added, hsaid, hP⟩ := h c
  exact ⟨added, hsaid, hPQ _ _ hP⟩

theorem bind {f : α → Talk β} {Q : Except Trouble β → List Said → Prop} (h : Utters act P)
    (hok : ∀ a added, P (.ok a) added → Utters (f a) fun o more ↦ Q o (added ++ more))
    (herror : ∀ e added, P (.error e) added → Q (.error e) added) : Utters (act >>= f) Q := by
  intro c
  obtain ⟨added, hsaid, hP⟩ := h c
  change ∃ added, (ExceptT.bindCont f (act.run c).1 (act.run c).2).2.said = _ ∧
    Q (ExceptT.bindCont f (act.run c).1 (act.run c).2).1 added
  revert hsaid hP
  rcases act.run c with ⟨e | a, c'⟩
  · intro hsaid hP
    exact ⟨added, hsaid, herror e added hP⟩
  · intro hsaid hP
    obtain ⟨more, hmore, hQ⟩ := hok a added hP c'
    exact ⟨added ++ more, by rw [← List.append_assoc, ← hsaid]; exact hmore, hQ⟩

theorem tryCatch {handle : Trouble → Talk α} {Q : Except Trouble α → List Said → Prop}
    (h : Utters act P) (hok : ∀ a added, P (.ok a) added → Q (.ok a) added)
    (herror : ∀ e added, P (.error e) added →
      Utters (handle e) fun o more ↦ Q o (added ++ more)) : Utters (tryCatch act handle) Q := by
  intro c
  obtain ⟨added, hsaid, hP⟩ := h c
  have hrun : (MonadExcept.tryCatch act handle).run c =
      match act.run c with
      | (.ok a, c') => (.ok a, c')
      | (.error e, c') => (handle e).run c' := by
    rw [ExceptT.run_tryCatch]
    simp only [Bind.bind, StateT.bind]
    rcases act.run c with ⟨e | a, c'⟩ <;> rfl
  rw [UttersAt, hrun]
  revert hsaid hP
  rcases act.run c with ⟨e | a, c'⟩
  · intro hsaid hP
    obtain ⟨more, hmore, hQ⟩ := herror e added hP c'
    exact ⟨added ++ more, by rw [← List.append_assoc, ← hsaid]; exact hmore, hQ⟩
  · intro hsaid hP
    exact ⟨added, hsaid, hok a added hP⟩

/-- The answer is left out. -/
theorem discard {Q : Except Trouble Unit → List Said → Prop} (h : Utters act P)
    (hok : ∀ a added, P (.ok a) added → Q (.ok ()) added)
    (herror : ∀ e added, P (.error e) added → Q (.error e) added) : Utters (discard act) Q := by
  change Utters ((fun _ ↦ ()) <$> act) Q
  rw [map_eq_pure_bind]
  refine h.bind (fun a added ha ↦ .pure ?_) herror
  rw [List.append_nil]
  exact hok a added ha

end Utters

theorem hear_utters : Utters hear fun _ added ↦ added = [] := by
  unfold hear
  refine .get_bind fun c ↦ ?_
  rcases firstReply [] c.unheard with ⟨reply, rest⟩
  refine Utters.set_bind rfl ?_
  refine .bind (P := fun _ added ↦ added = []) (.except rfl) ?_ fun _ _ hadded ↦ hadded
  rintro r _ rfl
  dsimp only
  split
  · exact .pure rfl
  · exact .throw rfl
  · exact .throw rfl

theorem say_utters (s : Said) : Utters (say s) fun _ added ↦ added = [s] := by
  intro c
  obtain ⟨added, hsaid, rfl⟩ := hear_utters {
    c with
    said := c.said ++ [s]
    unheard := c.unheard ++ linesOf (c.relay.reply (c.said ++ [s]) ++ "\r\n").toList }
  exact ⟨[s], hsaid.trans (List.append_nil _), rfl⟩

/-- Taking leave never fails. -/
theorem leave_utters : Utters leave fun o added ↦ o = .ok () ∧ added = [.command "QUIT"] := by
  have hquit : Utters (discard (say (.command "QUIT"))) fun _ added ↦ added = [.command "QUIT"] :=
    (say_utters _).discard (fun _ _ hadded ↦ hadded) fun _ _ hadded ↦ hadded
  refine .bind (P := fun o added ↦ (∃ e, o = .ok e) ∧ added = [.command "QUIT"]) ?_ ?_ ?_
  · refine .tryCatch (P := fun o added ↦ added = [.command "QUIT"]) ?_ ?_ ?_
    · refine .bind hquit ?_ fun _ _ hadded ↦ hadded
      rintro _ _ rfl
      exact .pure rfl
    · rintro e _ rfl
      exact ⟨⟨e, rfl⟩, rfl⟩
    · rintro _ _ rfl
      exact .pure ⟨⟨_, rfl⟩, rfl⟩
  · rintro e _ ⟨-, rfl⟩
    cases e
    · exact .pure ⟨rfl, rfl⟩
    · exact .pure ⟨rfl, rfl⟩
  · rintro _ _ ⟨⟨_, ⟨⟩⟩, _⟩

/-- What is said when something is demanded, which depends on whether it is refused. -/
def demanded (s : Said) : Except Trouble Reply → List Said
  | .ok _ => [s]
  | .error _ => [s, .command "QUIT"]

theorem demand_utters (s : Said) : Utters (demand s) fun o added ↦ added = demanded s o := by
  unfold demand
  refine .tryCatch (say_utters s) (fun _ _ hadded ↦ hadded) ?_
  rintro e _ rfl
  refine .bind leave_utters ?_ ?_
  · rintro _ _ ⟨-, rfl⟩
    exact .throw rfl
  · rintro _ _ ⟨⟨⟩, -⟩

/-! ## The beginning -/

/-- A step that says commands only. -/
abbrev Commanding (act : Talk α) : Prop := Utters act fun _ added ↦ Commands added

theorem Commanding.bind {act : Talk α} {f : α → Talk β} (h : Commanding act)
    (hf : ∀ a, Commanding (f a)) : Commanding (act >>= f) :=
  Utters.bind h (fun a _ hadded ↦ (hf a).weaken fun _ _ ↦ hadded.append) fun _ _ hadded ↦ hadded

theorem Commanding.discard {act : Talk α} (h : Commanding act) : Commanding (discard act) :=
  Utters.discard h (fun _ _ hadded ↦ hadded) fun _ _ hadded ↦ hadded

theorem commands_nil : Commands [] := nofun

theorem hear_commanding : Commanding hear :=
  hear_utters.weaken fun _ _ hadded ↦ hadded ▸ commands_nil

theorem say_commanding (line : String) : Commanding (say (.command line)) :=
  (say_utters _).weaken fun _ _ hadded ↦ hadded ▸ commands_map id [line]

theorem demand_commanding (line : String) : Commanding (demand (.command line)) := by
  refine (demand_utters _).weaken ?_
  rintro o _ rfl
  cases o with
  | ok r => exact commands_map id [line]
  | error e => exact commands_map id [line, "QUIT"]

theorem introduce_commanding : Commanding introduce := by
  unfold introduce
  refine .get_bind fun c ↦ ?_
  cases c.relay.greeting with
  | error reason => exact Utters.throw commands_nil c
  | ok greeting =>
    refine Commanding.bind (.silent fun _ ↦ ⟨rfl, commands_nil⟩) (fun _ ↦ ?_) c
    refine hear_commanding.discard.bind fun _ ↦ (demand_commanding _).bind fun r ↦ ?_
    split
    · exact .throw commands_nil
    · exact .pure commands_nil

theorem answerPrompts_commanding (user password : String) (n : Nat) (r : Reply) :
    Commanding (answerPrompts user password n r) := by
  induction n generalizing r with
  | zero => exact .throw commands_nil
  | succ n ih =>
    rw [answerPrompts]
    split
    · refine .bind (.except commands_nil) fun prompt ↦ .bind (.except commands_nil) fun answer ↦ ?_
      exact .bind (demand_commanding _) ih
    · exact .pure commands_nil

theorem login_commanding (o : Offer) (user password : String) :
    Commanding (login o user password) := by
  unfold login
  split
  · refine .bind (say_commanding _) fun r ↦ ?_
    split
    · exact .bind (.except commands_nil) fun _ ↦ .throw commands_nil
    · exact .pure commands_nil
  · split
    · exact .bind (say_commanding _) fun r ↦ answerPrompts_commanding user password 10 r
    · exact .throw commands_nil

theorem enter_commanding (credentials : Option (String × String)) :
    Commanding (enter credentials) := by
  unfold enter
  refine .bind introduce_commanding fun offer ↦ ?_
  cases credentials with
  | none => exact .pure commands_nil
  | some c => exact .bind (login_commanding offer c.1 c.2) fun _ ↦ .pure commands_nil

/-! ## Delivery -/

/-- What is said to deliver a message. -/
def deliveryOf (m : Message) (options : String) : List Said :=
  .command s!"MAIL FROM:<{m.envelope.sender.text}>{options}" ::
    (m.envelope.recipients.map fun a ↦ .command s!"RCPT TO:<{a.text}>") ++
      [.command "DATA", .data m.data, .command "QUIT"]

theorem eq_data_of_mem {m : Message} {options d : String} (hd : .data d ∈ deliveryOf m options) :
    d = m.data := by simpa [deliveryOf] using hd

theorem mem_deliveryOf {m : Message} {a : Address} (ha : a ∈ m.envelope.recipients)
    (options : String) : .command s!"RCPT TO:<{a.text}>" ∈ deliveryOf m options :=
  List.mem_append_left _ (List.mem_cons_of_mem _
    (List.mem_map_of_mem (f := fun a : Address ↦ Said.command s!"RCPT TO:<{a.text}>") ha))

/-- A step that says some commands, and if it is cut short nothing but commands. -/
def Completes (act : Talk α) (commands : List Said) : Prop :=
  Commands commands ∧ Utters act fun o added ↦
    (∀ a, o = .ok a → added = commands) ∧ ∀ e, o = .error e → Commands added

theorem Completes.bind {act : Talk α} {f : α → Talk β} {commands : List Said}
    {Q : Except Trouble β → List Said → Prop} (h : Completes act commands)
    (hf : ∀ a, Utters (f a) fun o more ↦ Q o (commands ++ more))
    (herror : ∀ e added, Commands added → Q (.error e) added) : Utters (act >>= f) Q := by
  refine h.2.bind ?_ ?_
  · rintro a added ⟨hadded, -⟩
    rw [hadded a rfl]
    exact hf a
  · rintro e added ⟨-, hadded⟩
    exact herror e added (hadded e rfl)

theorem Completes.append {act : Talk α} {f : α → Talk β} {commands more : List Said}
    (h : Completes act commands) (hf : ∀ a, Completes (f a) more) (hmore : Commands more) :
    Completes (act >>= f) (commands ++ more) := by
  refine ⟨h.1.append hmore, h.bind (fun a ↦ (hf a).2.weaken ?_) ?_⟩
  · rintro o added ⟨hok, herror⟩
    exact ⟨fun b ho ↦ by rw [hok b ho], fun e he ↦ h.1.append (herror e he)⟩
  · exact fun e added hadded ↦ ⟨nofun, fun _ _ ↦ hadded⟩

theorem demand_completes (line : String) :
    Completes (discard (demand (.command line))) [.command line] := by
  refine ⟨commands_map id [line], (demand_utters _).discard ?_ ?_⟩
  · rintro r _ rfl
    exact ⟨fun _ _ ↦ rfl, nofun⟩
  · rintro e _ rfl
    exact ⟨nofun, fun _ _ ↦ commands_map id [line, "QUIT"]⟩

theorem recipients_completes (as : List Address) :
    Completes (forIn as PUnit.unit fun a _ ↦ do
        discard (demand (.command s!"RCPT TO:<{a.text}>"))
        return ForInStep.yield PUnit.unit)
      (as.map fun a ↦ .command s!"RCPT TO:<{a.text}>") := by
  induction as with
  | nil => exact ⟨commands_nil, .pure ⟨fun _ _ ↦ rfl, nofun⟩⟩
  | cons a as ih =>
    rw [List.forIn_cons, bind_assoc]
    simp only [pure_bind]
    exact (demand_completes _).append (fun _ ↦ ih) ih.1

/-- A message is handed over as it is, and then leave is taken, whether it is refused or not. -/
theorem handOver_utters (text : String) :
    Utters (do discard (demand (.data text)); leave) fun _ added ↦
      added = [.data text, .command "QUIT"] := by
  have hdata : Utters (discard (demand (.data text))) fun o added ↦
      (o = .ok () ∧ added = [.data text]) ∨
        ((∃ e, o = .error e) ∧ added = [.data text, .command "QUIT"]) := by
    refine (demand_utters _).discard ?_ ?_
    · rintro r _ rfl
      exact .inl ⟨rfl, rfl⟩
    · rintro e _ rfl
      exact .inr ⟨⟨e, rfl⟩, rfl⟩
  refine hdata.bind ?_ ?_
  · rintro _ _ (⟨-, rfl⟩ | ⟨⟨_, ⟨⟩⟩, -⟩)
    refine leave_utters.weaken ?_
    rintro _ _ ⟨-, rfl⟩
    rfl
  · rintro _ _ (⟨⟨⟩, -⟩ | ⟨-, rfl⟩)
    rfl

theorem delivery_utters (m : Message) (options : String) :
    Utters (do
        discard (demand (.command s!"MAIL FROM:<{m.envelope.sender.text}>{options}"))
        for a in m.envelope.recipients do
          discard (demand (.command s!"RCPT TO:<{a.text}>"))
        discard (demand (.command "DATA"))
        discard (demand (.data m.data))
        leave) fun _ added ↦
      Commands added ∨ ∃ options, added = deliveryOf m options := by
  have hsender := demand_completes s!"MAIL FROM:<{m.envelope.sender.text}>{options}"
  have hrecipients := recipients_completes m.envelope.recipients
  have hdata := demand_completes "DATA"
  refine hsender.bind (fun _ ↦ ?_) fun _ _ hadded ↦ .inl hadded
  refine hrecipients.bind (fun _ ↦ ?_) fun _ _ hadded ↦ .inl (hsender.1.append hadded)
  refine hdata.bind (fun _ ↦ ?_) fun _ _ hadded ↦
    .inl (hsender.1.append (hrecipients.1.append hadded))
  refine (handOver_utters m.data).weaken ?_
  rintro _ _ rfl
  exact .inr ⟨options, rfl⟩

/-- A relay is told who a message is from and who it goes to before it is handed over. If the
conversation is cut short before, the message is not handed over at all. -/
theorem deliver_utters (o : Offer) (m : Message) :
    Utters (deliver o m) fun _ added ↦
      Commands added ∨ ∃ options, added = deliveryOf m options := by
  unfold deliver
  dsimp only
  split
  · exact .throw_bind (.inl commands_nil)
  · split
    · exact .throw_bind (.inl commands_nil)
    · exact delivery_utters m _

/-! ## A relay that accepts everything -/

theorem run_bind {act : Talk α} {f : α → Talk β} {c c' : Conversation} {a : α}
    (h : act.run c = (.ok a, c')) : (act >>= f).run c = (f a).run c' := by
  change ExceptT.bindCont f (act.run c).1 (act.run c).2 = _
  rw [h]
  rfl

/-- With a relay that accepts everything a step ends well, and says the same whatever has been said
before. -/
def Succeeds (act : Talk α) (a : α) (added : List Said) : Prop :=
  ∀ said, act.run { relay := .accepting, said } =
    (.ok a, { relay := .accepting, said := said ++ added })

namespace Succeeds

variable {act : Talk α} {a : α} {b : β} {added more : List Said}

theorem pure : Succeeds (pure a) a [] := fun said ↦ by
  rw [List.append_nil]
  rfl

theorem bind {f : α → Talk β} (h : Succeeds act a added) (hf : Succeeds (f a) b more) :
    Succeeds (act >>= f) b (added ++ more) := by
  intro said
  rw [run_bind (h said), hf, List.append_assoc]

theorem tryCatch {handle : Trouble → Talk α} (h : Succeeds act a added) :
    Succeeds (tryCatch act handle) a added := by
  intro said
  rw [ExceptT.run_tryCatch]
  simp only [Bind.bind, StateT.bind]
  rw [h said]
  rfl

theorem discard (h : Succeeds act a added) : Succeeds (discard act) () added := by
  have hdiscard : Succeeds (act >>= fun _ ↦ Pure.pure ()) () (added ++ []) := h.bind .pure
  rw [List.append_nil] at hdiscard
  exact hdiscard

end Succeeds

/-- The reply of the relay that accepts everything. -/
def accepted : Reply := ⟨['2', '5', '0'], ["relay.example.com", "8BITMIME", "SMTPUTF8"]⟩

theorem hear_accepting (said : List Said) :
    hear.run {
        relay := .accepting, said
        unheard := linesOf (Relay.accepting.reply said ++ "\r\n").toList } =
      (.ok accepted, { relay := .accepting, said }) := by
  have hreply : Relay.accepting.reply said = Relay.accepting.reply [] := rfl
  rw [hreply]
  rfl

theorem say_succeeds (s : Said) : Succeeds (say s) accepted [s] := by
  intro said
  change hear.run {
    relay := .accepting, said := said ++ [s]
    unheard := [] ++ linesOf (Relay.accepting.reply (said ++ [s]) ++ "\r\n").toList } = _
  rw [List.nil_append]
  exact hear_accepting _

theorem leave_succeeds : Succeeds leave () [.command "QUIT"] := by
  have hquit : Succeeds (discard (say (.command "QUIT"))) () [.command "QUIT"] :=
    (say_succeeds _).discard
  change Succeeds leave () ([.command "QUIT"] ++ [] ++ [])
  exact .bind (.tryCatch (hquit.bind .pure)) .pure

theorem demand_succeeds (s : Said) : Succeeds (discard (demand s)) () [s] :=
  (say_succeeds s).tryCatch.discard

theorem recipients_succeeds (as : List Address) :
    Succeeds (forIn as PUnit.unit fun a _ ↦ do
        discard (demand (.command s!"RCPT TO:<{a.text}>"))
        return ForInStep.yield PUnit.unit)
      PUnit.unit (as.map fun a ↦ .command s!"RCPT TO:<{a.text}>") := by
  induction as with
  | nil => exact .pure
  | cons a as ih =>
    rw [List.forIn_cons, bind_assoc]
    simp only [pure_bind]
    exact (demand_succeeds _).bind ih

theorem deliver_succeeds {o : Offer} (haddresses : o.wideAddresses = true)
    (hcontent : o.wideContent = true) (m : Message) :
    ∃ options, Succeeds (deliver o m) () (deliveryOf m options) := by
  unfold deliver
  dsimp only
  rw [if_neg (by simp [haddresses]), if_neg (by simp [hcontent])]
  exact ⟨_, (demand_succeeds _).bind <| (recipients_succeeds _).bind <|
    (demand_succeeds _).bind <| (demand_succeeds _).bind leave_succeeds⟩

/-- What the relay that accepts everything offers. -/
def fullOffer : Offer := { wideContent := true, wideAddresses := true }

theorem enter_accepting :
    (enter none).run { relay := .accepting } =
      (.ok fullOffer, { relay := .accepting, said := [.command "EHLO [127.0.0.1]"] }) := rfl

end Talk

/-! ## Couriers -/

namespace Courier

open Journal (Gives answerAt)

theorem handOver_said (c : Courier) (m : Message) (relay : Relay) :
    Commands ((c.handOver m).run { relay }).2.said ∨ ∃ opening options, Commands opening ∧
      ((c.handOver m).run { relay }).2.said = opening ++ Talk.deliveryOf m options := by
  have hutters : Talk.Utters (c.handOver m) fun _ added ↦
      Commands added ∨ ∃ opening options, Commands opening ∧
        added = opening ++ Talk.deliveryOf m options := by
    refine Talk.Utters.bind (Talk.enter_commanding c.credentials) (fun offer opening hopening ↦ ?_)
      fun _ _ hadded ↦ .inl hadded
    refine (Talk.deliver_utters offer m).weaken ?_
    rintro _ added (hadded | ⟨options, rfl⟩)
    · exact .inl (hopening.append hadded)
    · exact .inr ⟨opening, options, hopening, rfl⟩
  obtain ⟨added, hsaid, hadded⟩ := hutters { relay }
  rw [hsaid]
  exact hadded

/-- What the stamp of a message is at an instant. -/
def stampAt (c : Courier) (fresh : Fresh) (now : Int) : Stamp where
  id := c.idOf fresh
  boundary := fresh.boundary
  time := now

/-- What is said to a relay for a message: nothing, if none can be made. -/
def saidFor (c : Courier) (relay : Relay) (stamp : Stamp) (m : Outgoing) : List Said :=
  match Message.make c.sender c.image stamp m with
  | .error _ => []
  | .ok message => ((c.handOver message).run { relay }).2.said

theorem send_said (c : Courier) (relay : Relay) (fresh : Fresh) (now : Int) (m : Outgoing) :
    (answerAt now (c.send relay fresh m)).1 = c.saidFor relay (c.stampAt fresh now) m := by
  have hgives : Gives now (c.send relay fresh m) fun o ↦
      o.1 = c.saidFor relay (c.stampAt fresh now) m := by
    refine Gives.clock.bind fun t ht ↦ ?_
    subst ht
    dsimp only [saidFor, stampAt]
    cases Message.make c.sender c.image
        { id := c.idOf fresh, boundary := fresh.boundary, time := t } m with
    | error fault => exact .pure rfl
    | ok message =>
      dsimp only
      rcases (c.handOver message).run { relay } with ⟨_ | _, conversation⟩
      · exact .pure rfl
      · exact Gives.log.bind fun _ _ ↦ .pure rfl
  exact (hgives { now } rfl).1

/-- Whatever a relay answers, it hears nothing but commands until it is handed the message that has
been made, and by then it has heard the sender and every recipient of the envelope. -/
theorem saidFor_cases (c : Courier) (relay : Relay) (stamp : Stamp) (m : Outgoing) :
    Commands (c.saidFor relay stamp m) ∨ ∃ message opening options, Commands opening ∧
      Message.make c.sender c.image stamp m = .ok message ∧
      c.saidFor relay stamp m = opening ++ Talk.deliveryOf message options := by
  unfold saidFor
  cases Message.make c.sender c.image stamp m with
  | error fault => exact .inl Talk.commands_nil
  | ok message =>
    obtain hcommands | ⟨opening, options, hopening, heq⟩ := c.handOver_said message relay
    · exact .inl hcommands
    · exact .inr ⟨message, opening, options, hopening, rfl, heq⟩

/-- What a relay is handed is a message that has been made. -/
theorem exists_of_mem_send {c : Courier} {relay : Relay} {fresh : Fresh} {now : Int} {m : Outgoing}
    {d : String} (hd : .data d ∈ (answerAt now (c.send relay fresh m)).1) :
    ∃ message opening options, Commands opening ∧
      Message.make c.sender c.image (c.stampAt fresh now) m = .ok message ∧ d = message.data ∧
      (answerAt now (c.send relay fresh m)).1 = opening ++ Talk.deliveryOf message options := by
  rw [send_said] at hd ⊢
  obtain hcommands | ⟨message, opening, options, hopening, hmake, hsaid⟩ :=
    c.saidFor_cases relay (c.stampAt fresh now) m
  · exact absurd (hcommands _ hd) id
  · refine ⟨message, opening, options, hopening, hmake, ?_, hsaid⟩
    rw [hsaid, List.mem_append] at hd
    exact Talk.eq_data_of_mem (hd.resolve_left fun hmem ↦ hopening _ hmem)

/-- To a relay that accepts everything, every message that is made is handed over. -/
theorem mem_send_accepting {c : Courier} (hc : c.credentials = none) {fresh : Fresh} {now : Int}
    {m : Outgoing} {message : Message}
    (hmake : Message.make c.sender c.image (c.stampAt fresh now) m = .ok message) :
    .data message.data ∈ (answerAt now (c.send .accepting fresh m)).1 := by
  obtain ⟨options, hdeliver⟩ := Talk.deliver_succeeds (o := Talk.fullOffer) rfl rfl message
  have hhandOver : ((c.handOver message).run { relay := .accepting }).2.said =
      [.command "EHLO [127.0.0.1]"] ++ Talk.deliveryOf message options := by
    rw [handOver, hc, Talk.run_bind Talk.enter_accepting, hdeliver]
  rw [send_said, saidFor, hmake]
  dsimp only
  rw [hhandOver]
  simp [Talk.deliveryOf]

end Courier

end Mailroom.Mail
