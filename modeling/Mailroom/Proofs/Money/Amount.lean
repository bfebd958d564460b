import Mailroom.Proofs.Money.Numeral
import Mailroom.Proofs.Number.Shortest
import Mailroom.Proofs.Text.Replacing

/-!
# Written amounts of money

Sign, currency and number are put into the pattern of a language one after the other, as
replacements in a text. Each of them gets to its place, and to no other one, whatever the code of
the currency is: it has no small letters, so it holds no place for the number, which comes last
(`Placement.assemble_eq`). What stands between the fixed parts reads as the shortest decimal form of
the amount, rounded to the places of the currency (`format_reads`).
-/

namespace Mailroom.Money

open Number

variable {part : Char} {sign currency : List Char}

/-! ## Places in a pattern -/

/-- A piece of a pattern: a text, or a place that is held free for a part. -/
inductive Piece where
  | text (cs : List Char)
  | place (part : Char)

namespace Piece

/-- A piece as it stands in a pattern. -/
def spelled : Piece → List Char
  | text cs => cs
  | place part => slot part

/-- A piece with a text in the place of a part. -/
def fill (part : Char) (value : List Char) : Piece → Piece
  | text cs => text cs
  | place other => if other = part then text value else place other

/-- The character of a part is in no text. -/
def Lacks (part : Char) : Piece → Prop
  | text cs => part ∉ cs
  | place _ => True

end Piece

theorem head?_spelled_ne {pieces : List Piece} (hpart : part ≠ '\x7b')
    (h : ∀ p ∈ pieces, p.Lacks part) : (pieces.flatMap Piece.spelled).head? ≠ some part := by
  induction pieces with
  | nil => exact Option.some_ne_none part |>.symm
  | cons p pieces ih =>
    obtain ⟨hp, hpieces⟩ := List.forall_mem_cons.mp h
    rw [List.flatMap_cons]
    cases p with
    | text cs =>
      cases cs with
      | nil => exact ih hpieces
      | cons c cs => exact fun heq ↦ hp (Option.some.inj heq ▸ List.mem_cons_self)
    | place other => exact fun heq ↦ hpart (Option.some.inj heq).symm

/-- A part gets to its places, and all other pieces stay. -/
theorem fillSlot_spelled {pieces : List Piece} (value : List Char) (hopen : part ≠ '\x7b')
    (hclose : part ≠ '\x7d') (h : ∀ p ∈ pieces, p.Lacks part) :
    fillSlot part value (pieces.flatMap Piece.spelled) =
      (pieces.map (Piece.fill part value)).flatMap Piece.spelled := by
  induction pieces with
  | nil => exact Text.replaceAll_nil _ _ _
  | cons p pieces ih =>
    obtain ⟨hp, hpieces⟩ := List.forall_mem_cons.mp h
    have hhead := head?_spelled_ne hopen hpieces
    rw [List.map_cons, List.flatMap_cons, List.flatMap_cons, ← ih hpieces]
    cases p with
    | text cs => exact Text.replaceAll_append_of_second _ _ hp hhead
    | place other =>
      by_cases heq : other = part
      · rw [Piece.fill, if_pos heq, heq]
        exact Text.replaceAll_append_self _ _ _ _
      · have hslot : part ∉ slot other := by simp [slot, hopen, hclose, Ne.symm heq]
        rw [Piece.fill, if_neg heq]
        exact Text.replaceAll_append_of_second _ _ hslot hhead

namespace Placement

/-- The pieces of a pattern. -/
def pieces (p : Placement) (isCode : Bool) : List Piece :=
  match p with
  | .inFront => [.place '-', .place 'c', .text (if isCode then [hardBlank] else []), .place 'n']
  | .behindLeftMarked =>
    [.text [rightMark], .place '-', .place 'n', .text [hardBlank, rightMark], .place 'c']
  | .behindRightMarked =>
    [.text [rightMark], .place '-', .place 'n', .text [hardBlank], .place 'c', .text [rightMark]]

theorem pattern_eq (p : Placement) (isCode : Bool) :
    p.pattern isCode = (p.pieces isCode).flatMap Piece.spelled := by
  cases p with
  | inFront => cases isCode <;> rfl
  | behindLeftMarked => rfl
  | behindRightMarked => rfl

/-- What stands in front of the number. -/
def front (p : Placement) (sign currency : List Char) (isCode : Bool) : List Char :=
  match p with
  | .inFront => sign ++ currency ++ if isCode then [hardBlank] else []
  | .behindLeftMarked => rightMark :: sign
  | .behindRightMarked => rightMark :: sign

/-- What stands behind the number. -/
def back (p : Placement) (currency : List Char) : List Char :=
  match p with
  | .inFront => []
  | .behindLeftMarked => [hardBlank, rightMark] ++ currency
  | .behindRightMarked => hardBlank :: currency ++ [rightMark]

/-- Sign, number and currency stand in their places once each. The number may be any text, as
nothing is put in after it. -/
theorem assemble_eq (hsign : ∀ c ∈ sign, c = '-') (hcurrency : 'n' ∉ currency) (p : Placement)
    (number : List Char) (isCode : Bool) :
    p.assemble sign number currency isCode =
      p.front sign currency isCode ++ number ++ p.back currency := by
  have hc : 'c' ∉ sign := fun h ↦ absurd (hsign 'c' h) (by decide)
  have hn : 'n' ∉ sign := fun h ↦ absurd (hsign 'n' h) (by decide)
  rw [assemble, pattern_eq, fillSlot_spelled _ (by decide) (by decide),
    fillSlot_spelled _ (by decide) (by decide), fillSlot_spelled _ (by decide) (by decide)]
  · cases p <;> simp [pieces, front, back, Piece.fill, Piece.spelled]
  · cases p <;> cases isCode <;>
      simp [pieces, Piece.fill, Piece.Lacks, hn, hcurrency, hardBlank, rightMark]
  · cases p <;> cases isCode <;> simp [pieces, Piece.fill, Piece.Lacks, hc, hardBlank, rightMark]
  · cases p <;> cases isCode <;> simp [pieces, Piece.Lacks, hardBlank, rightMark]

end Placement

/-! ## The mark of a currency -/

/-- A currency as it is written: by its sign, if it has one, and else by its code. -/
def mark (code : String) : List Char := ((signs.lookup code).getD code).toList

theorem toUpper_ne (c : Char) : c.toUpper ≠ 'n' := by
  intro h
  have hnat : c.toUpper.toNat = 110 := by rw [h]; rfl
  unfold Char.toUpper at h hnat
  split at hnat
  · rename_i hlower
    have hfrom : 97 ≤ c.toNat := UInt32.le_iff_toNat_le.mp hlower.1
    have hto : c.toNat ≤ 122 := UInt32.le_iff_toNat_le.mp hlower.2
    change (c.val + 4294967264).toNat = 110 at hnat
    rw [UInt32.toNat_add] at hnat
    change (c.toNat + 4294967264) % 2 ^ 32 = 110 at hnat
    omega
  · rename_i hother
    rw [dif_neg hother] at h
    subst h
    exact hother (by decide)

theorem not_mem_code (currency : String) : 'n' ∉ (code currency).toList := by
  rw [code, String.toList_ofList]
  intro h
  obtain ⟨c, -, hc⟩ := List.mem_map.mp h
  exact toUpper_ne c hc

theorem signs_not_mem : ∀ sign ∈ signs, 'n' ∉ sign.2.toList := by decide

/-- No currency holds a place for the number. -/
theorem not_mem_mark (currency : String) : 'n' ∉ mark (code currency) := by
  unfold mark
  cases hsign : signs.lookup (code currency) with
  | none => exact not_mem_code currency
  | some sign =>
    obtain ⟨before, after, hsigns, -⟩ := List.lookup_eq_some_iff.mp hsign
    exact signs_not_mem (code currency, sign) (by rw [hsigns]; simp)

/-! ## Amounts -/

theorem not_isNaN_of_isFinite {x : Float} (h : x.isFinite = true) : x.isNaN = false := by
  unfold Float.isFinite Float.Model.isFinite at h
  unfold Float.isNaN Float.Model.isNaN
  cases hx : x.toModel.unpack <;> rw [hx] at h <;> first | rfl | cases h

theorem not_isInf_of_isFinite {x : Float} (h : x.isFinite = true) : x.isInf = false := by
  unfold Float.isFinite Float.Model.isFinite at h
  unfold Float.isInf Float.Model.isInf
  cases hx : x.toModel.unpack <;> rw [hx] at h <;> first | rfl | cases h

theorem Style.magnitude_of_isFinite {amount : Float} (h : amount.isFinite = true) (s : Style)
    (places : ℕ) : s.magnitude places amount =
      (s.number places ((shortest amount).roundHalfEven places),
        decide ((shortest amount).roundHalfEven places ≠ 0)) := by
  rw [Style.magnitude, not_isNaN_of_isFinite h, not_isInf_of_isFinite h]
  rfl

/-- An amount is written as its shortest decimal form, rounded to the places of the currency, with
the half-way numbers going to the even neighbour. -/
theorem format_reads {amount : Float} (hfinite : amount.isFinite = true) (currency tag : String) :
    ∃ n number,
      (Binary.ofFloat amount).value = Number.magnitude amount ∧
      IsShortest (.ofFloat amount) (shortest amount) ∧
      IsRounded ((shortest amount).value * 10 ^ places (code currency)) n ∧
      (Style.ofTag tag).Writes (places (code currency)) n number ∧
      (format amount currency tag).toList =
        (Style.ofTag tag).placement.front (if amount < 0.0 ∧ n ≠ 0 then ['-'] else [])
          (mark (code currency)) (signs.lookup (code currency)).isNone ++ number ++
        (Style.ofTag tag).placement.back (mark (code currency)) := by
  refine ⟨(shortest amount).roundHalfEven (places (code currency)),
    (Style.ofTag tag).number (places (code currency))
      ((shortest amount).roundHalfEven (places (code currency))),
    Binary.value_ofFloat hfinite, isShortest_shortest amount,
    (shortest amount).isRounded_roundHalfEven _, (Style.isLegible_ofTag tag).writes_number _ _, ?_⟩
  have hsign : ∀ c ∈ if amount < 0.0 ∧ (shortest amount).roundHalfEven (places (code currency)) ≠ 0
      then ['-'] else [], c = '-' := by
    intro c hc
    split_ifs at hc
    · exact List.mem_singleton.mp hc
    · exact absurd hc List.not_mem_nil
  unfold format
  dsimp only
  rw [Style.magnitude_of_isFinite hfinite, String.toList_ofList,
    ← Placement.assemble_eq hsign (not_mem_mark currency)]
  simp only [Bool.and_eq_true, decide_eq_true_eq]
  rfl

theorem format_reads_lira :
    (1234.565 : Float).isFinite = true ∧
      ∃ n number,
        (Binary.ofFloat 1234.565).value = Number.magnitude 1234.565 ∧
        IsShortest (.ofFloat 1234.565) (shortest 1234.565) ∧
        IsRounded ((shortest 1234.565).value * 10 ^ places (code " try ")) n ∧
        (Style.ofTag "tr-TR").Writes (places (code " try ")) n number ∧
        (format 1234.565 " try " "tr-TR").toList =
          (Style.ofTag "tr-TR").placement.front
            (if (1234.565 : Float) < 0.0 ∧ n ≠ 0 then ['-'] else [])
            (mark (code " try ")) (signs.lookup (code " try ")).isNone ++ number ++
          (Style.ofTag "tr-TR").placement.back (mark (code " try ")) := by
  have hfinite : (1234.565 : Float).isFinite = true := by decide +kernel
  exact ⟨hfinite, format_reads hfinite " try " "tr-TR"⟩

example : format (-1234.565) " try " "tr-TR" = "-₺1.234,56" := by decide +kernel

end Mailroom.Money
