import Mathlib.Data.List.Forall2
import Mailroom.Mail.HeaderLine
import Mailroom.Proofs.Mail.Domain

/-!
# What the lines of a header say

A value that is written into a header is broken into lines at gaps, and words that a header cannot
hold are encoded. Whatever the value is, a line ends only in front of a space (`Folded`), so nothing
of the value can begin a header of its own; and the lines put together say the whole value (`Says`),
character by character or in encoded words.

A header being written is known by the value that its lines say so far, with the spaces held back
(`HeaderLine.Holds`). There is one lemma for each way to write something.
-/

namespace Mailroom.Mail

open Text (separated)

/-! ## Broken lines -/

/-- A value as it is written. Lines end only in front of spaces, which belong to the value. -/
inductive Folded : (written value : List Char) → Prop where
  | nil : Folded [] []
  | char {c : Char} {w v : List Char} (hc : c ≠ '\r' ∧ c ≠ '\n') (h : Folded w v) :
    Folded (c :: w) (c :: v)
  | fold {w v : List Char} (h : Folded w v) : Folded ('\r' :: '\n' :: ' ' :: w) (' ' :: v)

/-- A text as an encoded word. -/
def encodedWord (cs : List Char) : List Char :=
  "=?utf-8?b?".toList ++ Text.Base64.encode (Text.Base64.bytesOf cs) ++ ['?', '=']

/-- Texts as encoded words, with a space between any two of them. -/
def encodedWords : List (List Char) → List Char
  | [] => []
  | w :: ws => encodedWord w ++ separated ' ' (ws.map encodedWord)

/-- A value says a text: each character as it is, or in an encoded word. The spaces between encoded
words do not count. -/
inductive Says : (value text : List Char) → Prop where
  | nil : Says [] []
  | plain {c : Char} {v t : List Char} (hc : HeaderLine.isPlain c = true) (h : Says v t) :
    Says (c :: v) (c :: t)
  | encoded {v t : List Char} (ws : List (List Char)) (h : Says v t) :
    Says (encodedWords ws ++ v) (ws.flatten ++ t)

variable {c : Char} {cs v v' w w' t t' : List Char}

/-- No line ends in a text. -/
def Unbroken (cs : List Char) : Prop := ∀ c ∈ cs, c ≠ '\r' ∧ c ≠ '\n'

instance instDecidableUnbroken : Decidable (Unbroken cs) :=
  List.decidableBAll (fun c ↦ c ≠ '\r' ∧ c ≠ '\n') cs

theorem unbroken_nil : Unbroken [] := nofun

@[simp] theorem unbroken_cons : Unbroken (c :: cs) ↔ (c ≠ '\r' ∧ c ≠ '\n') ∧ Unbroken cs :=
  List.forall_mem_cons

@[simp] theorem unbroken_append : Unbroken (v ++ w) ↔ Unbroken v ∧ Unbroken w :=
  List.forall_mem_append

theorem unbroken_of_isVisible
    (h : ∀ c ∈ cs, isVisible c = true ∨ 0x80 ≤ c.toNat ∨ isGap c = true) : Unbroken cs := by
  intro c hc
  refine ⟨?_, ?_⟩
  all_goals
    rintro rfl
    exact absurd (h _ hc) (by decide)

theorem unbroken_of_plain (h : ∀ c ∈ cs, HeaderLine.isPlain c = true) : Unbroken cs := by
  intro c hc
  refine ⟨?_, ?_⟩
  all_goals
    rintro rfl
    exact absurd (h _ hc) (by decide)

theorem unbroken_spaces (n : Nat) : Unbroken (List.replicate n ' ') := by
  intro c hc
  rw [List.eq_of_mem_replicate hc]
  decide

namespace Folded

theorem append (h : Folded w v) (h' : Folded w' v') : Folded (w ++ w') (v ++ v') := by
  induction h with
  | nil => exact h'
  | char hc _ ih => exact .char hc ih
  | fold _ ih => exact .fold ih

theorem of_unbroken (h : Unbroken cs) : Folded cs cs := by
  induction cs with
  | nil => exact .nil
  | cons c cs ih =>
    obtain ⟨hc, hcs⟩ := unbroken_cons.mp h
    exact .char hc (ih hcs)

/-- No line ends in the value itself. -/
theorem unbroken (h : Folded w v) : Unbroken v := by
  induction h with
  | nil => exact unbroken_nil
  | char hc _ ih => exact unbroken_cons.mpr ⟨hc, ih⟩
  | fold _ ih => exact unbroken_cons.mpr ⟨by decide, ih⟩

end Folded

/-! ## What is said -/

namespace Says

theorem append (h : Says v t) (h' : Says v' t') : Says (v ++ v') (t ++ t') := by
  induction h with
  | nil => exact h'
  | plain hc _ ih => exact .plain hc ih
  | encoded ws _ ih =>
    rw [List.append_assoc, List.append_assoc]
    exact .encoded ws ih

theorem of_plain (h : ∀ c ∈ cs, HeaderLine.isPlain c = true) : Says cs cs := by
  induction cs with
  | nil => exact .nil
  | cons c cs ih =>
    obtain ⟨hc, hcs⟩ := List.forall_mem_cons.mp h
    exact .plain hc (ih hcs)

theorem spaces (n : Nat) : Says (List.replicate n ' ') (List.replicate n ' ') := by
  refine of_plain fun c hc ↦ ?_
  rw [List.eq_of_mem_replicate hc]
  decide

end Says

/-! ## Encoded words -/

theorem unbroken_encode (bytes : List UInt8) : Unbroken (Text.Base64.encode bytes) := by
  have hdigit (n : Nat) : Text.Base64.digit n ≠ '\r' ∧ Text.Base64.digit n ≠ '\n' := by
    by_cases hn : n < 64
    · revert n
      decide
    · have heq : Text.Base64.digit n = '/' := by
        unfold Text.Base64.digit
        rw [if_neg, if_neg, if_neg, if_neg] <;> omega
      rw [heq]
      decide
  induction bytes using Text.Base64.encode.induct with
  | case1 => exact unbroken_nil
  | case2 a =>
    simp only [Text.Base64.encode, unbroken_cons]
    exact ⟨hdigit _, hdigit _, by decide, by decide, unbroken_nil⟩
  | case3 a b =>
    simp only [Text.Base64.encode, unbroken_cons]
    exact ⟨hdigit _, hdigit _, hdigit _, by decide, unbroken_nil⟩
  | case4 a b c rest ih =>
    simp only [Text.Base64.encode, unbroken_cons]
    exact ⟨hdigit _, hdigit _, hdigit _, hdigit _, ih⟩

theorem unbroken_encodedWord (cs : List Char) : Unbroken (encodedWord cs) := by
  have hfront : Unbroken "=?utf-8?b?".toList := by decide
  have hend : Unbroken ['?', '='] := by decide
  exact unbroken_append.mpr ⟨unbroken_append.mpr ⟨hfront, unbroken_encode _⟩, hend⟩

theorem length_encode (bytes : List UInt8) :
    (Text.Base64.encode bytes).length = (bytes.length + 2) / 3 * 4 := by
  induction bytes using Text.Base64.encode.induct with
  | case1 => rfl
  | case2 a => simp [Text.Base64.encode]
  | case3 a b => simp [Text.Base64.encode]
  | case4 a b c rest ih =>
    simp only [Text.Base64.encode, List.length_cons, ih]
    omega

theorem length_bytesOf (cs : List Char) : (Text.Base64.bytesOf cs).length = Domain.size cs := by
  induction cs with
  | nil => rfl
  | cons c cs ih =>
    rw [Text.Base64.bytesOf, List.flatMap_cons, List.length_append, String.length_utf8EncodeChar]
    exact congrArg (c.utf8Size + ·) ih

theorem length_le_size (cs : List Char) : cs.length ≤ Domain.size cs := by
  induction cs with
  | nil => exact Nat.le_refl 0
  | cons c cs ih =>
    have hc := c.utf8Size_pos
    change cs.length + 1 ≤ c.utf8Size + Domain.size cs
    omega

theorem length_encodedWord (cs : List Char) :
    (encodedWord cs).length = (Domain.size cs + 2) / 3 * 4 + 12 := by
  have hfront : "=?utf-8?b?".toList.length = 10 := by decide
  unfold encodedWord
  rw [List.length_append, List.length_append, hfront, length_encode, length_bytesOf]
  exact Nat.add_right_comm 10 _ 2 |>.trans (Nat.add_comm _ _)

theorem encodedWord_ne_nil (cs : List Char) : encodedWord cs ≠ [] := by
  intro hnil
  have hlength := length_encodedWord cs
  rw [hnil, List.length_nil] at hlength
  omega

namespace HeaderLine

variable {l : HeaderLine} {wrote : Bool}

theorem encodedWords_cons {ws : List (List Char)} (h : ws ≠ []) :
    encodedWords (w :: ws) = encodedWord w ++ ' ' :: encodedWords ws := by
  cases ws with
  | nil => exact absurd rfl h
  | cons w' ws => rfl

/-! ## A header being written -/

/-- The lines of a header say a value, with the spaces held back. -/
def Holds (l : HeaderLine) (v : List Char) : Prop :=
  ∃ u, Folded l.written u ∧ v = u ++ List.replicate l.gaps ' '

theorem ofName_holds (name : String) : (ofName name).Holds [] := ⟨[], .nil, rfl⟩

theorem Holds.text_folded (h : l.Holds v) : Folded l.text.toList v := by
  obtain ⟨u, hu, rfl⟩ := h
  rw [text, String.toList_ofList]
  exact hu.append (.of_unbroken (unbroken_spaces l.gaps))

theorem Holds.gap (h : l.Holds v) : l.gap.Holds (v ++ [' ']) := by
  obtain ⟨u, hu, rfl⟩ := h
  refine ⟨u, hu, ?_⟩
  rw [List.append_assoc, ← List.replicate_succ']
  rfl

theorem Holds.gaps (h : l.Holds v) (n : Nat) :
    { l with gaps := l.gaps + n }.Holds (v ++ List.replicate n ' ') := by
  obtain ⟨u, hu, rfl⟩ := h
  refine ⟨u, hu, ?_⟩
  rw [List.append_assoc, List.replicate_append_replicate]

theorem put_gaps (hne : cs ≠ []) : (l.put cs).gaps = 0 := by
  rw [put, if_neg (mt List.isEmpty_iff.mp hne)]
  rfl

theorem Holds.put (h : l.Holds v) (hcs : Unbroken cs) : (l.put cs).Holds (v ++ cs) := by
  obtain ⟨u, hu, rfl⟩ := h
  unfold HeaderLine.put
  split
  · rename_i hempty
    rw [List.isEmpty_iff.mp hempty, List.append_nil]
    exact ⟨u, hu, rfl⟩
  · refine ⟨_, ?_, (List.append_nil _).symm⟩
    exact (hu.append (.of_unbroken (unbroken_spaces l.gaps))).append (.of_unbroken hcs)

/-- A new line is begun at a gap only, and with something behind it. -/
theorem Holds.newLine_put (h : l.Holds v) (hgap : 1 ≤ l.gaps) (hne : cs ≠ []) (hcs : Unbroken cs) :
    (l.newLine.put cs).Holds (v ++ cs) := by
  obtain ⟨u, hu, rfl⟩ := h
  obtain ⟨n, hn⟩ := Nat.exists_eq_add_of_le' hgap
  rw [HeaderLine.put, if_neg (mt List.isEmpty_iff.mp hne)]
  refine ⟨_, ?_, (List.append_nil _).symm⟩
  have hspaces :
      Folded (['\r', '\n'] ++ List.replicate l.gaps ' ') (List.replicate l.gaps ' ') := by
    rw [hn, List.replicate_succ]
    exact .fold (.of_unbroken (unbroken_spaces n))
  have hall := (hu.append hspaces).append (.of_unbroken hcs)
  rw [← List.append_assoc] at hall
  exact hall

theorem Holds.putWord (h : l.Holds v) (hne : cs ≠ []) (hcs : Unbroken cs) :
    (l.putWord cs).Holds (v ++ cs) := by
  unfold HeaderLine.putWord
  split
  · rename_i hlong
    simp only [Bool.and_eq_true, decide_eq_true_eq] at hlong
    exact h.newLine_put hlong.1.2 hne hcs
  · exact h.put hcs

/-- Words between single spaces are written as the text that they make up. -/
theorem Holds.putWords (h : l.Holds v) (hcs : Unbroken cs) :
    (l.putWords (wordsOf cs)).Holds (v ++ cs) := by
  obtain ⟨first, rest, hsplit, rfl⟩ := Text.exists_splitAt_eq ' ' cs
  rw [wordsOf, hsplit]
  have hput {l : HeaderLine} {v w : List Char} (h : l.Holds v) (hw : Unbroken w) :
      (if w.isEmpty then l else l.putWord w).Holds (v ++ w) := by
    split
    · rename_i hempty
      rw [List.isEmpty_iff.mp hempty, List.append_nil]
      exact h
    · rename_i hne
      exact h.putWord (mt List.isEmpty_iff.mpr hne) hw
  clear hsplit
  induction rest generalizing l v first with
  | nil =>
    rw [Text.separated_nil, List.append_nil] at hcs ⊢
    exact hput h hcs
  | cons part rest ih =>
    rw [Text.separated_cons, unbroken_append, unbroken_cons] at hcs
    obtain ⟨hfirst, -, hrest⟩ := hcs
    have hall := ih (hput h hfirst).gap part hrest
    rw [List.append_assoc, List.append_assoc] at hall
    exact hall

/-! ## Writing encoded words -/

theorem fitting_append (room : Nat) (cs : List Char) :
    (fitting room cs).1 ++ (fitting room cs).2 = cs := by
  induction cs generalizing room with
  | nil => rfl
  | cons c cs ih =>
    rw [fitting]
    split
    · exact congrArg (c :: ·) (ih _)
    · rfl

/-- A character is left only if it has no room any more. -/
theorem lt_size_fitting {room : Nat} {rest : List Char} (h : (fitting room cs).2 = c :: rest) :
    room < Domain.size (fitting room cs).1 + c.utf8Size := by
  induction cs generalizing room with
  | nil => cases h
  | cons d cs ih =>
    rw [fitting] at h ⊢
    split
    · rename_i hroom
      rw [if_pos hroom] at h
      have hlt := ih h
      change room < d.utf8Size + Domain.size _ + c.utf8Size
      omega
    · rename_i hroom
      rw [if_neg hroom] at h
      cases h
      change room < 0 + c.utf8Size
      omega

theorem put_width (hne : cs ≠ []) : (l.put cs).width = l.width + Domain.size cs := by
  rw [put, if_neg (mt List.isEmpty_iff.mp hne)]
  rfl

/-- Behind an encoded word there is no room on the line for what did not fit into the word. -/
theorem room_put_encodedWord (h : (fitting (l.room - c.utf8Size) cs).2 ≠ []) :
    (l.put (encodedWord (c :: (fitting (l.room - c.utf8Size) cs).1))).room = 0 := by
  obtain ⟨d, rest, hrest⟩ := List.exists_cons_of_ne_nil h
  have hleft := lt_size_fitting hrest
  have hd := d.utf8Size_le_four
  generalize hword : c :: (fitting (l.room - c.utf8Size) cs).1 = word
  have hsize : Domain.size word = c.utf8Size + Domain.size (fitting (l.room - c.utf8Size) cs).1 :=
    congrArg Domain.size hword.symm
  have hlength := length_encodedWord word
  have hle := length_le_size (encodedWord word)
  rw [room, put_width (encodedWord_ne_nil word)]
  have hroom : l.room = (lineLimit - (14 + l.width)) / 4 * 3 := rfl
  have hlimit : lineLimit = 76 := rfl
  omega

/-- Write an encoded word that says as much as there is room for, and the rest behind it. -/
def putFrom (c : Char) (cs : List Char) (l : HeaderLine) : HeaderLine :=
  putEncoded true (fitting (l.room - c.utf8Size) cs).2
    (l.put (encodedWord (c :: (fitting (l.room - c.utf8Size) cs).1)))

/-- An encoded word stays on the line, or it is behind a gap on a new one. Behind another encoded
word a gap is made. -/
theorem putEncoded_cons (wrote : Bool) (c : Char) (cs : List Char) (l : HeaderLine) :
    l.putEncoded wrote (c :: cs) =
      putFrom c cs (if c.utf8Size ≤ l.room ∨ (wrote = false ∧ l.gaps = 0) then l
        else if l.gaps = 0 then l.gap.newLine else l.newLine) := by
  have hstays : (c.utf8Size ≤ l.room ∨ (!(wrote || decide (1 ≤ l.gaps))) = true) ↔
      (c.utf8Size ≤ l.room ∨ (wrote = false ∧ l.gaps = 0)) := by
    simp
  rw [putEncoded]
  simp only [hstays]
  rfl

/-- If the first encoded word can be written, then all of them are. Each one behind it is on a line
of its own, since there is no room left on the line before. -/
theorem Holds.putFrom (h : ∀ word, Unbroken word → word ≠ [] → (l.put word).Holds (v ++ word)) :
    ∃ ws : List (List Char), ws.flatten = c :: cs ∧
      (HeaderLine.putFrom c cs l).Holds (v ++ encodedWords ws) := by
  induction hn : cs.length using Nat.strongRecOn generalizing l v c cs with
  | _ n ih =>
  have hword := h _ (unbroken_encodedWord (c :: (fitting (l.room - c.utf8Size) cs).1))
    (encodedWord_ne_nil _)
  have hcs := fitting_append (l.room - c.utf8Size) cs
  cases hrest : (fitting (l.room - c.utf8Size) cs).2 with
  | nil =>
    rw [hrest, List.append_nil] at hcs
    refine ⟨[c :: (fitting (l.room - c.utf8Size) cs).1], ?_, ?_⟩
    · rw [List.flatten_singleton, hcs]
    · rw [HeaderLine.putFrom, hrest, HeaderLine.putEncoded, encodedWords, List.map_nil,
        Text.separated_nil, List.append_nil]
      exact hword
  | cons d rest =>
    have hleft : (fitting (l.room - c.utf8Size) cs).2 ≠ [] := by
      rw [hrest]
      exact List.cons_ne_nil _ _
    have hfull := room_put_encodedWord hleft
    have hgaps := put_gaps (l := l)
      (encodedWord_ne_nil (c :: (fitting (l.room - c.utf8Size) cs).1))
    have hlonger : rest.length < n := by
      rw [← hn, ← hcs, hrest, List.length_append, List.length_cons]
      omega
    rw [HeaderLine.putFrom, hrest, putEncoded_cons, hfull, if_neg (not_or.mpr
      ⟨Nat.not_le.mpr d.utf8Size_pos, fun h ↦ Bool.false_ne_true h.1.symm⟩), if_pos hgaps]
    obtain ⟨ws, hws, hholds⟩ := ih rest.length hlonger (c := d) (fun word hunbroken hne ↦
      hword.gap.newLine_put (Nat.succ_pos _) hne hunbroken) rfl
    refine ⟨(c :: (fitting (l.room - c.utf8Size) cs).1) :: ws, ?_, ?_⟩
    · rw [List.flatten_cons, hws, List.cons_append, ← hrest, hcs]
    · rw [encodedWords_cons (by rintro rfl; cases hws)]
      rw [List.append_assoc, List.append_assoc] at hholds
      exact hholds

theorem Holds.putEncoded (h : l.Holds v) (cs : List Char) :
    ∃ ws : List (List Char), ws.flatten = cs ∧
      (l.putEncoded false cs).Holds (v ++ encodedWords ws) := by
  cases cs with
  | nil =>
    refine ⟨[], rfl, ?_⟩
    rw [HeaderLine.putEncoded, encodedWords, List.append_nil]
    exact h
  | cons c cs =>
    rw [putEncoded_cons]
    refine putFrom fun word hunbroken hne ↦ ?_
    split
    · exact h.put hunbroken
    · rename_i hfull
      split
      · rename_i hgaps
        exact absurd (.inr ⟨rfl, hgaps⟩) hfull
      · rename_i hgaps
        exact h.newLine_put (Nat.pos_of_ne_zero hgaps) hne hunbroken

/-! ## Writing texts -/

/-- A text ends with the spaces at its end. -/
theorem take_append_spaces (cs : List Char) :
    cs.take (cs.length - (cs.reverse.takeWhile (· == ' ')).length) ++
      List.replicate (cs.reverse.takeWhile (· == ' ')).length ' ' = cs := by
  have hsplit : cs.reverse.takeWhile (· == ' ') ++ cs.reverse.dropWhile (· == ' ') = cs.reverse :=
    List.takeWhile_append_dropWhile
  have hspaces : cs.reverse.takeWhile (· == ' ') =
      List.replicate (cs.reverse.takeWhile (· == ' ')).length ' ' := by
    refine List.eq_replicate_iff.mpr ⟨rfl, fun c hc ↦ ?_⟩
    exact eq_of_beq (List.all_eq_true.mp List.all_takeWhile c hc)
  generalize cs.reverse.dropWhile (· == ' ') = front at hsplit
  generalize (cs.reverse.takeWhile (· == ' ')).length = n at hspaces ⊢
  rw [hspaces] at hsplit
  have hcs : cs = front.reverse ++ List.replicate n ' ' := by
    rw [← List.reverse_reverse cs, ← hsplit, List.reverse_append, List.reverse_replicate]
  rw [hcs, List.length_append, List.length_replicate, Nat.add_sub_cancel, List.take_left]

/-- Held words are encoded, and the spaces at their end stay spaces. -/
theorem Holds.putHeld (h : l.Holds v) (held : List Char) :
    ∃ x, Says x held ∧ (l.putHeld held).Holds (v ++ x) := by
  let spaces := (held.reverse.takeWhile (· == ' ')).length
  obtain ⟨ws, hws, hholds⟩ := h.putEncoded (held.take (held.length - spaces))
  refine ⟨encodedWords ws ++ List.replicate spaces ' ', ?_, ?_⟩
  · rw [← take_append_spaces held]
    have hsays := Says.encoded ws (.spaces spaces)
    rwa [hws] at hsays
  · have hall := hholds.gaps spaces
    rwa [List.append_assoc] at hall

/-- A word that a header can hold, behind what is held. -/
theorem Holds.putPlain (h : l.Holds v) (held : List Char) (hw : w.all isPlain = true) :
    ∃ x, Says x (held ++ w) ∧
      (if w.isEmpty then l.putHeld held else (l.putHeld held).putWord w).Holds (v ++ x) := by
  obtain ⟨x, hsays, hholds⟩ := h.putHeld held
  have hw := List.all_eq_true.mp hw
  refine ⟨x ++ w, hsays.append (.of_plain hw), ?_⟩
  rw [← List.append_assoc]
  split
  · rename_i hempty
    rw [List.isEmpty_iff.mp hempty, List.append_nil]
    exact hholds
  · rename_i hne
    exact hholds.putWord (mt List.isEmpty_iff.mpr hne) (unbroken_of_plain hw)

theorem putText_cons (held w : List Char) {ws : List (List Char)} (h : ws ≠ []) :
    l.putText held (w :: ws) =
      if w.all isPlain then
        HeaderLine.putText [] ws
          (if w.isEmpty then l.putHeld held else (l.putHeld held).putWord w).gap
      else l.putText (held ++ w ++ [' ']) ws := by
  cases ws with
  | nil => exact absurd rfl h
  | cons part rest => rfl

theorem Holds.putText (h : l.Holds v) (held first : List Char) (rest : List (List Char)) :
    ∃ x, Says x (held ++ first ++ separated ' ' rest) ∧
      (l.putText held (first :: rest)).Holds (v ++ x) := by
  induction rest generalizing l v held first with
  | nil =>
    rw [Text.separated_nil, List.append_nil, HeaderLine.putText]
    split
    · exact h.putPlain held ‹_›
    · exact h.putHeld (held ++ first)
  | cons part rest ih =>
    rw [Text.separated_cons, putText_cons held first (List.cons_ne_nil part rest)]
    split
    · obtain ⟨x, hsays, hholds⟩ := h.putPlain held ‹_›
      obtain ⟨y, hsays', hholds'⟩ := ih hholds.gap [] part
      refine ⟨x ++ ' ' :: y, hsays.append (.plain (by decide) hsays'), ?_⟩
      rw [List.append_assoc, List.append_assoc] at hholds'
      exact hholds'
    · obtain ⟨x, hsays, hholds⟩ := ih h (held ++ first ++ [' ']) part
      rw [List.append_assoc _ [' '], List.append_assoc _ _ (separated ' ' rest)] at hsays
      exact ⟨x, hsays, hholds⟩

/-- A text is written into a header whole. -/
theorem ofText_says (name value : String) :
    ∃ v, Folded (ofText name value).toList v ∧ Says v value.toList := by
  obtain ⟨first, rest, hsplit, hvalue⟩ := Text.exists_splitAt_eq ' ' value.toList
  obtain ⟨x, hsays, hholds⟩ := (ofName_holds name).putText [] first rest
  rw [List.nil_append, ← hvalue] at hsays
  refine ⟨x, ?_, hsays⟩
  rw [ofText, wordsOf, hsplit]
  exact hholds.text_folded

/-! ## Writing mailboxes -/

/-- How the name of an owner is shown: as it is, between quotes, or in encoded words. -/
inductive NameShown : (shown name : List Char) → Prop where
  | plain {name : List Char} (h : ∀ c ∈ name, isAtomChar c = true ∨ c = '.') : NameShown name name
  | quoted {name : List Char} (h : ∀ c ∈ name, isVisible c = true ∨ c = ' ') :
    NameShown ('"' :: name.flatMap Mailbox.quotedNameChar ++ ['"']) name
  | encoded (ws : List (List Char)) : NameShown (encodedWords ws) ws.flatten

/-- How a mailbox is shown: by its address, or by the name of the owner with the address between
angle brackets. -/
def Shown (v : List Char) (m : Mailbox) : Prop :=
  match m.name with
  | none => v = m.address.text.toList
  | some name => ∃ shown, NameShown shown name.toList ∧
      v = shown ++ [' ', '<'] ++ m.address.text.toList ++ ['>']

theorem isAtomChar_of_plainForm {name : List Char} (h : formOf name = .plain) :
    ∀ c ∈ name, isAtomChar c = true ∨ c = '.' := by
  unfold formOf at h
  split at h
  · rename_i hform
    intro c hc
    have hall := List.all_eq_true.mp (Bool.and_eq_true_iff.mp hform).1 c hc
    simp only [Bool.or_eq_true, Bool.and_eq_true, decide_eq_true_eq] at hall
    exact hall.imp_left And.right
  · split at h <;> cases h

theorem isVisible_of_quotedForm {name : List Char} (h : formOf name = .quoted) :
    ∀ c ∈ name, isVisible c = true ∨ c = ' ' := by
  unfold formOf at h
  split at h
  · cases h
  · split at h
    · rename_i hform
      intro c hc
      have hform := (Bool.and_eq_true_iff.mp (Bool.and_eq_true_iff.mp hform).1).1
      simpa using List.all_eq_true.mp hform c hc
    · cases h

theorem unbroken_quoted {name : List Char} (h : ∀ c ∈ name, isVisible c = true ∨ c = ' ') :
    Unbroken (name.flatMap Mailbox.quotedNameChar) := by
  have hvisible : ∀ c ∈ name, isVisible c = true ∨ 0x80 ≤ c.toNat ∨ isGap c = true := by
    intro c hc
    rcases h c hc with hvisible | rfl
    · exact .inl hvisible
    · decide
  refine unbroken_of_isVisible fun c hc ↦ ?_
  obtain ⟨d, hd, hc⟩ := List.mem_flatMap.mp hc
  unfold Mailbox.quotedNameChar at hc
  split at hc
  · rcases List.mem_cons.mp hc with rfl | hc
    · decide
    · rw [List.mem_singleton.mp hc]
      exact hvisible d hd
  · rw [List.mem_singleton.mp hc]
    exact hvisible d hd

theorem Holds.putName (h : l.Holds v) (name : List Char) :
    ∃ x, NameShown x name ∧ (l.putName name).Holds (v ++ x) := by
  unfold HeaderLine.putName
  split
  · rename_i hform
    have hname := isAtomChar_of_plainForm hform
    refine ⟨name, .plain hname, h.put (unbroken_of_isVisible fun c hc ↦ ?_)⟩
    rcases hname c hc with hatom | rfl
    · exact (isVisible_or_of_isAtomChar hatom).imp_right .inl
    · decide
  · rename_i hform
    have hname := isVisible_of_quotedForm hform
    have hquote : Unbroken ['"'] := by decide
    refine ⟨_, .quoted hname, ?_⟩
    have hall := ((h.put hquote).putWords (unbroken_quoted hname)).put hquote
    rw [List.append_assoc, List.append_assoc] at hall
    exact hall
  · obtain ⟨ws, rfl, hholds⟩ := h.putEncoded name
    exact ⟨_, .encoded ws, hholds⟩

theorem Holds.putMailbox (h : l.Holds v) {m : Mailbox} (hm : Unbroken m.address.text.toList) :
    ∃ x, Shown x m ∧ (l.putMailbox m).Holds (v ++ x) := by
  unfold HeaderLine.putMailbox Shown
  cases m.name with
  | none => exact ⟨_, rfl, h.put hm⟩
  | some name =>
    obtain ⟨x, hshown, hholds⟩ := h.putName name.toList
    refine ⟨_, ⟨x, hshown, rfl⟩, ?_⟩
    have hall := ((hholds.gap.put (show Unbroken ['<'] by decide)).put hm).put
      (show Unbroken ['>'] by decide)
    simp only [List.append_assoc] at hall ⊢
    exact hall

theorem Holds.putMailboxes (h : l.Holds v) {ms : List Mailbox}
    (hms : ∀ m ∈ ms, Unbroken m.address.text.toList) :
    ∃ xs, List.Forall₂ Shown xs ms ∧
      (l.putMailboxes ms).Holds (v ++ [',', ' '].intercalate xs) := by
  induction ms generalizing l v with
  | nil =>
    refine ⟨[], .nil, ?_⟩
    rw [List.intercalate_nil, List.append_nil]
    exact h
  | cons m ms ih =>
    obtain ⟨hm, hms⟩ := List.forall_mem_cons.mp hms
    obtain ⟨x, hshown, hholds⟩ := h.putMailbox hm
    cases ms with
    | nil =>
      refine ⟨[x], .cons hshown .nil, ?_⟩
      rw [List.intercalate_singleton]
      exact hholds
    | cons m' ms =>
      obtain ⟨xs, hxs, hrest⟩ := ih (hholds.put (show Unbroken [','] by decide)).gap hms
      obtain ⟨x', xs, hx', hxs', rfl⟩ := List.forall₂_cons_right_iff.mp hxs
      refine ⟨x :: x' :: xs, .cons hshown hxs, ?_⟩
      rw [List.intercalate_cons_cons]
      simp only [List.append_assoc] at hrest ⊢
      exact hrest

/-- Mailboxes are written into a header whole. -/
theorem ofMailboxes_shown (name : String) {ms : List Mailbox}
    (hms : ∀ m ∈ ms, Unbroken m.address.text.toList) :
    ∃ xs, List.Forall₂ Shown xs ms ∧
      Folded (ofMailboxes name ms).toList ([',', ' '].intercalate xs) := by
  obtain ⟨xs, hxs, hholds⟩ := (ofName_holds name).putMailboxes hms
  exact ⟨xs, hxs, hholds.text_folded⟩

end HeaderLine

end Mailroom.Mail
