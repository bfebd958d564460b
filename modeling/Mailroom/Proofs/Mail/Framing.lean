import Mailroom.Mail.Message
import Mailroom.Proofs.Mail.Folding

/-!
# What a relay makes of the data

A relay reads what is handed to it as data line by line: a line that is a dot alone ends the data,
and of any other line that begins with a dot the dot is dropped (`received`). What it received are
lines, of which those up to the first empty one are the headers; a line that begins with a gap goes
on with the header before it (`fieldsOf`).

Both are said here without a look at how the data was made. The data of a message is received as
the text of the message, to the end of the data (`received_data`), so that it is ended nowhere else
(`data_ends_once`). Headers that are written one after the other are read as they were written
(`fieldsOf_text`).
-/

namespace Mailroom.Mail

variable {c : Char} {cs before behind v w : List Char} {begins : Bool}

/-! ## Receiving -/

/-- A line that is a dot alone, behind the end of another line. -/
def endMark : List Char := ['\r', '\n', '.', '\r', '\n']

/-- The text that is received up to the line that is a dot alone, and what follows that line. The
truth value says whether a line begins. -/
def received : Bool → List Char → Option (List Char × List Char)
  | true, '.' :: '\r' :: '\n' :: rest => some ([], rest)
  | true, '.' :: cs => received false cs
  | _, '\r' :: '\n' :: cs => (received true cs).map fun o => ('\r' :: '\n' :: o.1, o.2)
  | _, c :: cs => (received false cs).map fun o => (c :: o.1, o.2)
  | _, [] => none

theorem received_of_ne_dot (h : cs.head? ≠ some '.') : received true cs = received false cs := by
  cases cs with
  | nil => rfl
  | cons c cs =>
    have hc : c ≠ '.' := fun heq ↦ h (congrArg some heq)
    unfold received
    split <;> simp_all

theorem received_lineEnd (begins : Bool) (cs : List Char) :
    received begins ('\r' :: '\n' :: cs) =
      (received true cs).map fun o ↦ ('\r' :: '\n' :: o.1, o.2) := by
  cases begins with
  | false => rfl
  | true => rfl

/-- Within a line a character is received as it is. -/
theorem received_cons (h : c ≠ '\r' ∨ cs.head? ≠ some '\n') :
    received false (c :: cs) = (received false cs).map fun o ↦ (c :: o.1, o.2) := by
  conv_lhs => unfold received
  split <;> simp_all

/-- Of a line that goes on behind a dot the dot is dropped. -/
theorem received_dot (h : ∀ rest, cs ≠ '\r' :: '\n' :: rest) :
    received true ('.' :: cs) = received false cs := by
  rw [received]
  exact h

/-- Induction along a text, in which the end of a line is one step. -/
@[elab_as_elim]
theorem line_induction {motive : List Char → Prop} (nil : motive [])
    (lineEnd : ∀ cs, motive cs → motive ('\r' :: '\n' :: cs))
    (cons : ∀ c cs, c ≠ '\r' ∨ cs.head? ≠ some '\n' → motive cs → motive (c :: cs))
    (cs : List Char) : motive cs := by
  induction hn : cs.length using Nat.strongRecOn generalizing cs with
  | _ n ih =>
  subst hn
  cases cs with
  | nil => exact nil
  | cons c cs =>
    by_cases hline : c = '\r' ∧ cs.head? = some '\n'
    · obtain ⟨rfl, hhead⟩ := hline
      obtain ⟨cs, rfl⟩ := List.head?_eq_some_iff.mp hhead
      exact lineEnd cs (ih _ (by simp only [List.length_cons]; omega) cs rfl)
    · exact cons c cs (not_and_or.mp hline) (ih _ (Nat.lt_succ_self _) cs rfl)

theorem head_append_ne (h : cs.head? ≠ some '\n') (hbehind : behind.head? = some '\r') :
    (cs ++ behind).head? ≠ some '\n' := by
  cases cs with
  | nil =>
    rw [List.nil_append, hbehind]
    decide
  | cons c cs => exact h

/-- A text that is received to a line that is a dot alone is received so as well if a line begins
with it. -/
theorem exists_received_begun (hcs : cs = before ++ (endMark ++ behind))
    (h : ∃ text rest, received false cs = some (text, rest) ∧ behind <:+ rest) :
    ∃ text rest, received true cs = some (text, rest) ∧ behind <:+ rest := by
  by_cases hdot : cs.head? = some '.'
  · obtain ⟨cs, rfl⟩ := List.head?_eq_some_iff.mp hdot
    by_cases hends : ∃ rest, cs = '\r' :: '\n' :: rest
    · obtain ⟨rest, rfl⟩ := hends
      have hbehind : behind <:+ '.' :: '\r' :: '\n' :: rest :=
        ⟨before ++ endMark, by rw [List.append_assoc, hcs]⟩
      have hlength := congrArg List.length hcs
      simp only [List.length_append, List.length_cons, endMark] at hlength
      refine ⟨[], rest, rfl, ?_⟩
      exact List.suffix_of_suffix_length_le hbehind
        (List.suffix_append ['.', '\r', '\n'] rest) (by omega)
    · obtain ⟨text, rest, hreceived, hsuffix⟩ := h
      rw [received_cons (.inl (by decide))] at hreceived
      obtain ⟨⟨behindDot, rest⟩, hbehindDot, ⟨⟩⟩ := Option.map_eq_some_iff.mp hreceived
      rw [received_dot (not_exists.mp hends)]
      exact ⟨behindDot, rest, hbehindDot, hsuffix⟩
  · rw [received_of_ne_dot hdot]
    exact h

/-- What is received ends at the first line that is a dot alone. -/
theorem exists_received (begins : Bool) (before behind : List Char) :
    ∃ text rest, received begins (before ++ (endMark ++ behind)) = some (text, rest) ∧
      behind <:+ rest := by
  induction before using line_induction generalizing begins with
  | nil =>
    refine ⟨['\r', '\n'], behind, ?_, List.suffix_rfl⟩
    exact received_lineEnd begins ('.' :: '\r' :: '\n' :: behind)
  | lineEnd before ih =>
    obtain ⟨text, rest, hreceived, hsuffix⟩ := ih true
    refine ⟨'\r' :: '\n' :: text, rest, ?_, hsuffix⟩
    rw [List.cons_append, List.cons_append, received_lineEnd, hreceived]
    rfl
  | cons c before hc ih =>
    obtain ⟨text, rest, hreceived, hsuffix⟩ := ih false
    have hwithin : received false (c :: before ++ (endMark ++ behind)) = some (c :: text, rest) := by
      rw [List.cons_append, received_cons (hc.imp_right (head_append_ne · rfl)), hreceived]
      rfl
    cases begins with
    | false => exact ⟨_, rest, hwithin, hsuffix⟩
    | true => exact exists_received_begun rfl ⟨_, rest, hwithin, hsuffix⟩

/-! ## Dots at the fronts of lines -/

open Message (stuffed)

theorem stuffed_cons (h : c ≠ '\r' ∨ ∀ rest, cs ≠ '\n' :: '.' :: rest) :
    stuffed (c :: cs) = c :: stuffed cs := by
  rw [stuffed]
  rintro rest rfl rfl
  exact h.elim (· rfl) (· rest rfl)

theorem head_stuffed (cs : List Char) : (stuffed cs).head? = cs.head? := by
  unfold stuffed
  split <;> rfl

theorem head_stuffed_append (cs rest : List Char) :
    (stuffed cs ++ rest).head? = (cs ++ rest).head? := by
  rw [List.head?_append, List.head?_append, head_stuffed]

/-- With the dots that were added dropped, a text is received as it was. -/
theorem received_stuffed (cs : List Char) :
    received false (stuffed cs ++ endMark) = some (cs ++ ['\r', '\n'], []) := by
  induction cs using line_induction with
  | nil => rfl
  | lineEnd cs ih =>
    by_cases hdot : cs.head? = some '.'
    · obtain ⟨rest, rfl⟩ := List.head?_eq_some_iff.mp hdot
      rw [stuffed_cons (.inl (by decide)), List.cons_append] at ih
      change received false ('\r' :: '\n' :: '.' :: '.' :: (stuffed rest ++ endMark)) = _
      rw [received_lineEnd, received_dot (by simp), ih]
      rfl
    · have hhead : (stuffed cs ++ endMark).head? ≠ some '.' := by
        rw [head_stuffed_append]
        cases cs with
        | nil => decide
        | cons d cs => exact hdot
      have hkept : ∀ rest, '\n' :: cs ≠ '\n' :: '.' :: rest := by
        rintro rest ⟨⟩
        exact hdot rfl
      rw [stuffed_cons (.inr hkept), stuffed_cons (.inl (by decide)), List.cons_append,
        List.cons_append, received_lineEnd, received_of_ne_dot hhead, ih]
      rfl
  | cons c cs hc ih =>
    have hhead : c ≠ '\r' ∨ (stuffed cs ++ endMark).head? ≠ some '\n' := by
      rw [head_stuffed_append]
      exact hc.imp_right (head_append_ne · rfl)
    have hkept : c ≠ '\r' ∨ ∀ rest, cs ≠ '\n' :: '.' :: rest := by
      refine hc.imp_right ?_
      rintro hcs rest rfl
      exact hcs rfl
    rw [stuffed_cons hkept, List.cons_append, received_cons hhead, ih]
    rfl

theorem data_eq_append (m : Message) : ∃ before, m.data.toList = before ++ endMark := by
  have hmark : "\r\n.\r\n".toList = endMark := by decide
  rw [Message.data, String.toList_append, hmark]
  exact ⟨_, rfl⟩

/-- The data of a message is received as its text, and there is nothing behind it. -/
theorem received_data (m : Message) :
    received true m.data.toList = some (m.text.toList ++ ['\r', '\n'], []) := by
  have hmark : "\r\n.\r\n".toList = endMark := by decide
  unfold Message.data
  rw [String.toList_append, String.toList_ofList, hmark]
  have hreceived := received_stuffed m.text.toList
  split
  · rename_i cs htext
    rw [htext, stuffed_cons (.inl (by decide)), stuffed_cons (.inl (by decide))]
    rw [htext, stuffed_cons (.inl (by decide))] at hreceived
    exact (received_dot (by simp)).trans hreceived
  · rename_i hdot
    rw [received_of_ne_dot, hreceived]
    rw [head_stuffed_append]
    cases htext : m.text.toList with
    | nil => decide
    | cons d cs =>
      intro heq
      exact hdot cs (htext.trans (by rw [Option.some.inj heq]))

/-- The data of a message ends at the end mark, which stands nowhere else in it. -/
theorem data_ends_once (m : Message) {before behind : List Char}
    (h : m.data.toList = before ++ endMark ++ behind) : behind = [] := by
  obtain ⟨text, rest, hreceived, hsuffix⟩ := exists_received true before behind
  rw [← List.append_assoc, ← h, received_data] at hreceived
  cases hreceived
  exact List.suffix_nil.mp hsuffix

/-! ## Reading headers -/

/-- The lines of a text, each of which ends at a carriage return and a line feed. -/
def linesIn : List Char → List (List Char)
  | [] => [[]]
  | '\r' :: '\n' :: cs => [] :: linesIn cs
  | c :: cs =>
    match linesIn cs with
    | [] => [[c]]
    | line :: lines => (c :: line) :: lines

/-- Lines that go on with each other put together: a line that begins with a gap goes on with the
one before it. -/
def joined : List (List Char) → List (List Char)
  | [] => []
  | line :: lines =>
    match joined lines with
    | [] => [line]
    | next :: rest =>
      if next.head?.any isGap then (line ++ next) :: rest else line :: next :: rest

/-- The name and the value of a header, which stand before and behind a colon and a space. -/
def fieldOf (line : List Char) : String × String :=
  (String.ofList (line.takeWhile (· != ':')), String.ofList ((line.dropWhile (· != ':')).drop 2))

/-- The headers of a text: the lines up to the first empty one. -/
def fieldsOf (text : List Char) : List (String × String) :=
  (joined ((linesIn text).takeWhile (· != []))).map fieldOf

variable {line : List Char} {lines : List (List Char)}

theorem linesIn_cons (hc : c ≠ '\r') (h : linesIn cs = line :: lines) :
    linesIn (c :: cs) = (c :: line) :: lines := by
  rw [linesIn, h]
  rintro rest rfl
  exact absurd rfl hc

theorem linesIn_append (hv : Unbroken v) (h : linesIn cs = line :: lines) :
    linesIn (v ++ cs) = (v ++ line) :: lines := by
  induction v with
  | nil => exact h
  | cons c v ih =>
    obtain ⟨hc, hv⟩ := unbroken_cons.mp hv
    exact linesIn_cons hc.1 (ih hv)

/-- A value as it is written is a line, and others that go on with it. -/
theorem Folded.exists_lines (h : Folded w v) :
    ∃ first more, (∀ line ∈ more, line.head? = some ' ') ∧ first ++ more.flatten = v ∧
      ∀ rest, linesIn (w ++ '\r' :: '\n' :: rest) = first :: (more ++ linesIn rest) := by
  induction h with
  | nil => exact ⟨[], [], nofun, rfl, fun _ ↦ rfl⟩
  | char hc _ ih =>
    obtain ⟨first, more, hmore, rfl, hlines⟩ := ih
    exact ⟨_ :: first, more, hmore, rfl, fun rest ↦ linesIn_cons hc.1 (hlines rest)⟩
  | fold _ ih =>
    obtain ⟨first, more, hmore, rfl, hlines⟩ := ih
    refine ⟨[], (' ' :: first) :: more, List.forall_mem_cons.mpr ⟨rfl, hmore⟩, rfl, fun rest ↦ ?_⟩
    exact congrArg ([] :: ·) (linesIn_cons (by decide) (hlines rest))

theorem joined_append {more : List (List Char)} (hmore : ∀ line ∈ more, line.head? = some ' ')
    (hlines : ∀ next ∈ (joined lines).head?, next.head?.any isGap = false) :
    joined (line :: (more ++ lines)) = (line ++ more.flatten) :: joined lines := by
  induction more generalizing line with
  | nil =>
    rw [List.nil_append, List.flatten_nil, List.append_nil, joined]
    cases hjoined : joined lines with
    | nil => rfl
    | cons next rest =>
      have hnext := hlines next (by rw [hjoined]; rfl)
      simp [hnext]
  | cons next more ih =>
    obtain ⟨hnext, hmore⟩ := List.forall_mem_cons.mp hmore
    have hgap : (next ++ more.flatten).head?.any isGap = true := by
      rw [List.head?_append, hnext]
      rfl
    rw [joined, List.cons_append, ih hmore]
    dsimp only
    rw [if_pos hgap, List.flatten_cons]

/-! ## Headers that are read as they were written -/

theorem Folded.filter_eq (h : Folded w v) :
    w.filter (fun c ↦ c != '\r' && c != '\n') = v := by
  induction h with
  | nil => rfl
  | char hc _ ih => rw [List.filter_cons_of_pos (by simpa using hc), ih]
  | fold _ ih =>
    rw [List.filter_cons_of_neg (by decide), List.filter_cons_of_neg (by decide),
      List.filter_cons_of_pos (by decide), ih]

namespace Header

/-- The value that the lines of a header show. -/
def shown (h : Header) : String :=
  String.ofList (h.written.toList.filter fun c ↦ c != '\r' && c != '\n')

/-- The name of a header: seen characters, and no colon. -/
def IsName (name : String) : Prop :=
  name.toList ≠ [] ∧ ∀ c ∈ name.toList, isVisible c = true ∧ c ≠ ':'

instance instDecidableIsName (name : String) : Decidable (IsName name) :=
  have := List.decidableBAll (fun c ↦ isVisible c = true ∧ c ≠ ':') name.toList
  inferInstanceAs (Decidable (_ ∧ _))

/-- A header has a name, and a value whose lines end in front of spaces only. -/
structure Sound (h : Header) : Prop where
  named : IsName h.name
  folded : ∃ v, Folded h.written.toList v

/-- The line that a header is when it is not broken. -/
def wholeLine (h : Header) : List Char := h.name.toList ++ ':' :: ' ' :: h.shown.toList

theorem fieldOf_wholeLine {h : Header} (hname : IsName h.name) :
    fieldOf h.wholeLine = (h.name, h.shown) := by
  unfold fieldOf wholeLine
  have hcolon : ∀ c ∈ h.name.toList, (c != ':') = true :=
    fun c hc ↦ bne_iff_ne.mpr (hname.2 c hc).2
  rw [List.takeWhile_append_of_pos hcolon, List.dropWhile_append_of_pos hcolon]
  simp

theorem head_wholeLine {h : Header} (hname : IsName h.name) :
    h.wholeLine.head?.any isGap = false := by
  obtain ⟨hne, hvisible⟩ := hname
  unfold wholeLine
  cases hname : h.name.toList with
  | nil => exact absurd hname hne
  | cons c cs =>
    rw [hname] at hvisible
    have hc := (hvisible c List.mem_cons_self).1
    change isGap c = false
    rw [isGap, Bool.or_eq_false_iff, decide_eq_false_iff_not, decide_eq_false_iff_not]
    refine ⟨?_, ?_⟩
    all_goals
      rintro rfl
      cases hc

theorem lines_toList (h : Header) :
    h.lines.toList = h.name.toList ++ [':', ' '] ++ h.written.toList ++ ['\r', '\n'] := by
  have hcolon : ": ".toList = [':', ' '] := by decide
  have hend : "\r\n".toList = ['\r', '\n'] := by decide
  change (h.name ++ ": " ++ h.written ++ "\r\n").toList = _
  rw [String.toList_append, String.toList_append, String.toList_append, hcolon, hend]

theorem Sound.exists_lines {h : Header} (hsound : h.Sound) :
    ∃ first more, first ≠ [] ∧ (∀ line ∈ more, line.head? = some ' ') ∧
      first ++ more.flatten = h.wholeLine ∧
      ∀ rest, linesIn (h.lines.toList ++ rest) = first :: (more ++ linesIn rest) := by
  obtain ⟨⟨hne, hvisible⟩, v, hfolded⟩ := hsound
  obtain ⟨first, more, hmore, hwhole, hlines⟩ := hfolded.exists_lines
  have hname : Unbroken (h.name.toList ++ [':', ' ']) := by
    rw [unbroken_append]
    exact ⟨unbroken_of_isVisible fun c hc ↦ .inl (hvisible c hc).1, by decide⟩
  refine ⟨h.name.toList ++ [':', ' '] ++ first, more, ?_, hmore, ?_, fun rest ↦ ?_⟩
  · simp
  · rw [List.append_assoc, hwhole, wholeLine, shown, String.toList_ofList, hfolded.filter_eq,
      List.append_assoc]
    rfl
  · rw [lines_toList, List.append_assoc, List.append_assoc _ h.written.toList]
    exact linesIn_append hname (hlines rest)

end Header

theorem Headers.text_cons (h : Header) (hs : Headers) :
    Headers.text (h :: hs) = h.lines ++ hs.text := by
  rw [text, List.map_cons, String.join_cons]
  rfl

/-- The lines of headers, up to the first empty one, put together. -/
theorem joined_text {hs : Headers} (hsound : ∀ h ∈ hs, Header.Sound h) (body : List Char) :
    joined ((linesIn (hs.text.toList ++ '\r' :: '\n' :: body)).takeWhile (· != [])) =
      hs.map Header.wholeLine := by
  induction hs with
  | nil => rfl
  | cons h hs ih =>
    obtain ⟨hh, hhs⟩ := List.forall_mem_cons.mp hsound
    obtain ⟨first, more, hfirst, hmore, hwhole, hlines⟩ := hh.exists_lines
    have hfull : ∀ line ∈ more, (line != []) = true := by
      intro line hline
      refine bne_iff_ne.mpr ?_
      rintro rfl
      cases hmore [] hline
    have hnext : ∀ next ∈ (hs.map Header.wholeLine).head?, next.head?.any isGap = false := by
      rw [List.head?_map]
      intro next hnext
      obtain ⟨g, hg, rfl⟩ := Option.map_eq_some_iff.mp hnext
      exact Header.head_wholeLine (hhs g (List.mem_of_head? hg)).named
    rw [Headers.text_cons, String.toList_append, List.append_assoc, hlines,
      List.takeWhile_cons_of_pos (p := (· != [])) (bne_iff_ne.mpr hfirst),
      List.takeWhile_append_of_pos hfull]
    rw [← ih hhs] at hnext
    rw [joined_append hmore hnext, hwhole, ih hhs, List.map_cons]

/-- The headers of a message are read as they were written, whatever follows them. -/
theorem fieldsOf_text {hs : Headers} (hsound : ∀ h ∈ hs, Header.Sound h) (body : List Char) :
    fieldsOf (hs.text.toList ++ '\r' :: '\n' :: body) = hs.map fun h ↦ (h.name, h.shown) := by
  rw [fieldsOf, joined_text hsound, List.map_map]
  exact List.map_congr_left fun h hh ↦ Header.fieldOf_wholeLine (hsound h hh).named

end Mailroom.Mail
