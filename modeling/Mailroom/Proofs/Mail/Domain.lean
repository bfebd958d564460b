import Mailroom.Mail.Domain
import Mailroom.Proofs.Text.Replacing
import Mailroom.Proofs.Text.Splitting

/-!
# The characters of a domain

There are three ways in which a text can be accepted as a domain, and each of them has rules of its
own for the characters. They agree that no blank of ASCII may stand anywhere
(`Domain.unspaced_of_isAccepted`). Blanks outside ASCII may.
-/

namespace Mailroom.Mail

open Text (isBlank)

variable {c : Char} {cs ds : List Char}

/-! ## Blanks of ASCII -/

/-- The blanks in a text are outside ASCII. -/
def Unspaced (cs : List Char) : Prop := ∀ c ∈ cs, isBlank c = true → 0x80 ≤ c.toNat

@[simp] theorem unspaced_cons : Unspaced (c :: cs) ↔ (isBlank c = true → 0x80 ≤ c.toNat) ∧
    Unspaced cs := List.forall_mem_cons

theorem unspaced_nil : Unspaced [] := nofun

@[simp] theorem unspaced_append : Unspaced (ds ++ cs) ↔ Unspaced ds ∧ Unspaced cs :=
  List.forall_mem_append

theorem not_isBlank_of_isVisible (h : isVisible c = true) : isBlank c = false := by
  simp only [isVisible, Bool.and_eq_true, decide_eq_true_eq] at h
  simp only [isBlank, Bool.or_eq_false_iff, Bool.and_eq_false_iff, decide_eq_false_iff_not,
    beq_eq_false_iff_ne]
  omega

theorem isUpper_iff_toNat : c.isUpper = true ↔ 65 ≤ c.toNat ∧ c.toNat ≤ 90 :=
  decide_eq_true_iff.trans (and_congr UInt32.le_iff_toNat_le UInt32.le_iff_toNat_le)

theorem isLower_iff_toNat : c.isLower = true ↔ 97 ≤ c.toNat ∧ c.toNat ≤ 122 :=
  Bool.and_eq_true_iff.trans (and_congr (decide_eq_true_iff.trans UInt32.le_iff_toNat_le)
    (decide_eq_true_iff.trans UInt32.le_iff_toNat_le))

theorem isAlphanum_iff_toNat : c.isAlphanum = true ↔
    ((65 ≤ c.toNat ∧ c.toNat ≤ 90) ∨ 97 ≤ c.toNat ∧ c.toNat ≤ 122) ∨
      48 ≤ c.toNat ∧ c.toNat ≤ 57 := by
  rw [← isUpper_iff_toNat, ← isLower_iff_toNat]
  exact Bool.or_eq_true_iff.trans (or_congr Bool.or_eq_true_iff Char.isDigit_iff_toNat)

theorem isVisible_of_isAlphanum (h : c.isAlphanum = true) : isVisible c = true := by
  rw [isAlphanum_iff_toNat] at h
  simp only [isVisible, Bool.and_eq_true, decide_eq_true_eq]
  omega

/-- A character of a word is seen, or it is outside ASCII. -/
theorem isVisible_or_of_isAtomChar (h : isAtomChar c = true) :
    isVisible c = true ∨ 0x80 ≤ c.toNat := by
  simp only [isAtomChar, Bool.or_eq_true, decide_eq_true_eq] at h
  obtain (halnum | hsign) | hbeyond := h
  · exact .inl (isVisible_of_isAlphanum halnum)
  · have hsigns : "!#$%&'*+-/=?^_\x60\x7b|\x7d~".toList.all isVisible = true := by decide
    exact .inl (List.all_eq_true.mp hsigns c (List.contains_iff_mem.mp hsign))
  · exact .inr hbeyond

theorem unspaced_of_isVisible (h : ∀ c ∈ cs, isVisible c = true ∨ 0x80 ≤ c.toNat) :
    Unspaced cs := by
  intro c hc hblank
  obtain hvisible | hbeyond := h c hc
  · exact absurd hblank (by simp [not_isBlank_of_isVisible hvisible])
  · exact hbeyond

/-- A text has no blanks of ASCII if its parts have none. -/
theorem unspaced_of_splitAt (sep : Char) (hsep : isBlank sep = false)
    (h : ∀ part ∈ Text.splitAt sep cs, Unspaced part) : Unspaced cs := by
  intro c hc hblank
  have hne : c ≠ sep := by
    rintro rfl
    cases hsep.symm.trans hblank
  obtain ⟨part, hpart, hin⟩ := Text.exists_mem_splitAt hc hne
  exact h part hpart c hin hblank

theorem exists_mem_of_mapM {α β : Type} {f : α → Option β} {l : List α} {l' : List β}
    (h : l.mapM f = some l') : ∀ a ∈ l, ∃ b ∈ l', f a = some b := by
  induction l generalizing l' with
  | nil => exact nofun
  | cons a l ih =>
    rw [List.mapM_cons] at h
    obtain ⟨b, hb, h⟩ := Option.bind_eq_some_iff.mp h
    obtain ⟨bs, hbs, h⟩ := Option.bind_eq_some_iff.mp h
    cases h
    refine List.forall_mem_cons.mpr ⟨⟨b, List.mem_cons_self, hb⟩, fun a' ha' ↦ ?_⟩
    obtain ⟨b', hb', hf⟩ := ih hbs a' ha'
    exact ⟨b', List.mem_cons_of_mem _ hb', hf⟩

theorem eq_dropLast_append {first last : Char} (hne : cs ≠ [])
    (h : (first :: cs).getLast? = some last) : cs = cs.dropLast ++ [last] := by
  rw [List.getLast?_cons, List.getLast?_eq_some_getLast hne] at h
  rw [← Option.some.inj h]
  exact (List.dropLast_append_getLast hne).symm

namespace Domain

/-! ## Plain domains -/

theorem unspaced_of_isLabel (h : isLabel cs = true) : Unspaced cs := by
  have hall := (Bool.and_eq_true_iff.mp h).2
  exact unspaced_of_isVisible fun c hc ↦ isVisible_or_of_isAtomChar (List.all_eq_true.mp hall c hc)

theorem isVisible_or_of_isLiteralChar (h : isLiteralChar c = true) :
    isVisible c = true ∨ 0x80 ≤ c.toNat := by
  simp only [isLiteralChar, Bool.or_eq_true, Bool.and_eq_true, decide_eq_true_eq] at h
  obtain ⟨⟨⟨hvisible, -⟩, -⟩, -⟩ | hbeyond := h
  · exact .inl hvisible
  · exact .inr hbeyond

theorem eq_of_bracketed? (h : bracketed? cs = some ds) : cs = '[' :: ds ++ [']'] := by
  unfold bracketed? at h
  split at h
  · rename_i inner hlast
    cases h
    have hne : inner ≠ [] := by
      rintro rfl
      cases hlast
    rw [List.cons_append, ← eq_dropLast_append hne hlast]
  · cases h

theorem unspaced_of_isPlain (h : isPlain cs = true) : Unspaced cs := by
  have hrules := (Bool.and_eq_true_iff.mp h).2
  cases hbracketed : bracketed? cs with
  | some inner =>
    rw [hbracketed] at hrules
    have hinner : Unspaced inner := unspaced_of_isVisible fun c hc ↦
      isVisible_or_of_isLiteralChar (List.all_eq_true.mp hrules c hc)
    rw [eq_of_bracketed? hbracketed, List.cons_append, unspaced_cons, unspaced_append]
    exact ⟨by decide, hinner, unspaced_cons.mpr ⟨by decide, unspaced_nil⟩⟩
  | none =>
    rw [hbracketed] at hrules
    exact unspaced_of_splitAt '.' (by decide) fun label hlabel ↦
      unspaced_of_isLabel (List.all_eq_true.mp hrules label hlabel)

/-! ## Addresses of the internet protocol -/

open Net Ip

theorem isAlphanum_of_hexadecimal? {n : Nat} (h : hexadecimal? c = some n) :
    c.isAlphanum = true := by
  rw [isAlphanum_iff_toNat]
  unfold hexadecimal? at h
  split at h
  · rename_i hdigit
    exact .inr (Char.isDigit_iff_toNat.mp hdigit)
  · split at h
    · rename_i hsmall
      have hhigh : c.toNat ≤ 102 := UInt32.le_iff_toNat_le.mp hsmall.2
      exact .inl (.inr ⟨UInt32.le_iff_toNat_le.mp hsmall.1, by omega⟩)
    · split at h
      · rename_i hcapital
        have hhigh : c.toNat ≤ 70 := UInt32.le_iff_toNat_le.mp hcapital.2
        exact .inl (.inl ⟨UInt32.le_iff_toNat_le.mp hcapital.1, by omega⟩)
      · cases h

theorem isAlphanum_of_decimal? {n : Nat} (h : decimal? c = some n) : c.isAlphanum = true := by
  unfold decimal? at h
  split at h
  · rename_i hdigit
    exact isAlphanum_iff_toNat.mpr (.inr (Char.isDigit_iff_toNat.mp hdigit))
  · cases h

theorem unspaced_of_number? {base most n : Nat} {digit? : Char → Option Nat}
    (hdigit : ∀ c n, digit? c = some n → c.isAlphanum = true)
    (h : number? base most digit? cs = some n) : Unspaced cs := by
  unfold number? at h
  split at h
  · cases h
  · obtain ⟨ns, hns, -⟩ := Option.map_eq_some_iff.mp h
    refine unspaced_of_isVisible fun c hc ↦ .inl ?_
    obtain ⟨k, -, hk⟩ := exists_mem_of_mapM hns c hc
    exact isVisible_of_isAlphanum (hdigit c k hk)

theorem unspaced_of_bytes? {bytes : List Nat} (h : bytes? cs = some bytes) : Unspaced cs := by
  unfold bytes? at h
  dsimp only at h
  split at h
  · refine unspaced_of_splitAt '.' (by decide) fun part hpart ↦ ?_
    obtain ⟨byte, -, hbyte⟩ := exists_mem_of_mapM h part hpart
    unfold byte? at hbyte
    split at hbyte
    · cases hbyte
    · exact unspaced_of_number? (fun _ _ ↦ isAlphanum_of_decimal?)
        (Option.filter_eq_some_iff.mp hbyte).1
  · cases h

theorem unspaced_of_group? {n : Nat} (h : group? cs = some n) : Unspaced cs :=
  unspaced_of_number? (fun _ _ ↦ isAlphanum_of_hexadecimal?) h

theorem unspaced_of_groups? {parts : List (List Char)} {groups : List Nat}
    (h : groups? parts = some groups) : ∀ part ∈ parts, Unspaced part := by
  fun_induction groups? parts generalizing groups with
  | case1 => exact nofun
  | case2 last g hgroup => exact List.forall_mem_singleton.mpr (unspaced_of_group? hgroup)
  | case3 last a b c d hbytes hgroup =>
    exact List.forall_mem_singleton.mpr (unspaced_of_bytes? hbytes)
  | case4 => cases h
  | case5 part parts hparts ih =>
    obtain ⟨g, hg, h⟩ := Option.bind_eq_some_iff.mp h
    obtain ⟨gs, hgs, -⟩ := Option.bind_eq_some_iff.mp h
    exact List.forall_mem_cons.mpr ⟨unspaced_of_group? hg, ih hgs⟩

theorem unspaced_of_side? {groups : List Nat} (h : side? cs = some groups) : Unspaced cs := by
  unfold side? at h
  split at h
  · rename_i hempty
    rw [List.isEmpty_iff.mp hempty]
    exact unspaced_nil
  · exact unspaced_of_splitAt ':' (by decide) (unspaced_of_groups? h)

theorem unspaced_of_sixth? {groups : List Nat} (h : sixth? cs = some groups) : Unspaced cs := by
  unfold sixth? at h
  split at h
  · exact unspaced_of_splitAt ':' (by decide)
      (unspaced_of_groups? (Option.filter_eq_some_iff.mp h).1)
  · rename_i before behind hsplit
    split at h
    · cases h
    · obtain ⟨front, hfront, h⟩ := Option.bind_eq_some_iff.mp h
      obtain ⟨back, hback, -⟩ := Option.bind_eq_some_iff.mp h
      have hcolons : Unspaced [':', ':'] :=
        unspaced_of_isVisible fun c hc ↦ .inl (List.all_eq_true.mp (by decide) c hc)
      rw [Text.eq_of_splitOnce hsplit, unspaced_append, unspaced_append]
      exact ⟨⟨unspaced_of_side? hfront, hcolons⟩, unspaced_of_side? hback⟩

/-! ## Names in the name system -/

/-- A blank of ASCII stays when a name is folded. -/
theorem mem_folded (hc : c ∈ cs) (hblank : isBlank c = true) (hascii : c.toNat < 0x80) :
    c ∈ folded cs := by
  have hnumber : c.toNat ∈ [9, 10, 11, 12, 13, 0x20] := by
    simp only [isBlank, Bool.or_eq_true, Bool.and_eq_true, decide_eq_true_eq, beq_iff_eq]
      at hblank
    simp only [List.mem_cons, List.not_mem_nil, or_false]
    omega
  have hkept : ∀ n ∈ [9, 10, 11, 12, 13, 0x20], isIgnored (Char.ofNat n) = false ∧
      Text.lowerChar (if isDot (Char.ofNat n) then '.' else narrowed (Char.ofNat n)) =
        [Char.ofNat n] := by decide
  obtain ⟨hseen, hsame⟩ := hkept _ hnumber
  rw [Char.ofNat_toNat] at hseen hsame
  refine List.mem_flatMap.mpr ⟨_, List.mem_map_of_mem (List.mem_filter.mpr ⟨hc, ?_⟩), ?_⟩
  · rw [hseen]
    rfl
  · rw [hsame]
    exact List.mem_singleton_self c

theorem unspaced_of_systemLabel? {label : List Char} (h : systemLabel? cs = some label)
    (hlabel : Unspaced label) : Unspaced cs := by
  unfold systemLabel? at h
  split at h
  · cases h
    exact hlabel
  · split at h
    · cases h
    · rename_i hrules
      intro c hc hblank
      refine absurd ?_ hrules
      rw [Bool.or_eq_true]
      exact .inr (List.any_eq_true.mpr ⟨c, hc, by rw [hblank, Bool.true_or]⟩)

theorem mem_intersperse {α : Type} {a sep : α} {l : List α} (h : a ∈ l) :
    a ∈ l.intersperse sep := by
  induction l with
  | nil => exact h
  | cons b l ih =>
    cases l with
    | nil => exact h
    | cons b' l =>
      rw [List.intersperse_cons_cons]
      rcases List.mem_cons.mp h with rfl | h
      · exact List.mem_cons_self
      · exact List.mem_cons_of_mem _ (List.mem_cons_of_mem _ (ih h))

/-- A name keeps the blanks of ASCII, so it has none if its form in the name system has none. -/
theorem unspaced_of_systemName? {name : List Char} (h : systemName? cs = some name)
    (hname : Unspaced name) : Unspaced cs := by
  obtain ⟨labels, hlabels, hjoined⟩ := Option.bind_eq_some_iff.mp h
  cases hjoined
  have hfolded : Unspaced (folded cs) := by
    refine unspaced_of_splitAt '.' (by decide) fun part hpart ↦ ?_
    obtain ⟨label, hmem, hlabel⟩ := exists_mem_of_mapM hlabels part hpart
    exact unspaced_of_systemLabel? hlabel fun c hc ↦
      hname c (List.mem_flatten.mpr ⟨label, mem_intersperse hmem, hc⟩)
  intro c hc hblank
  by_contra hascii
  exact hascii (hfolded c (mem_folded hc hblank (by omega)) hblank)

theorem unspaced_of_isAccepted {domain : String} (h : isAccepted domain = true) :
    Unspaced domain.toList := by
  simp only [isAccepted, Bool.or_eq_true] at h
  obtain (hplain | hsixth) | hname := h
  · exact unspaced_of_isPlain hplain
  · obtain ⟨groups, hgroups⟩ := Option.isSome_iff_exists.mp hsixth
    exact unspaced_of_sixth? hgroups
  · obtain ⟨name, hname, hplain⟩ := (Option.any_eq_true _ _).mp hname
    exact unspaced_of_systemName? hname (unspaced_of_isPlain hplain)

end Domain

end Mailroom.Mail
