import Mailroom.Proofs.Journal
import Mailroom.Template.Compile
import Mathlib.Data.List.TakeWhile
import Mathlib.Tactic

/-!
# Harmless templates

A source is harmless with respect to a character if the character stands in none of its texts and
no tag shows a value as it is. This module carries that over from sources to the templates that are
read from them: blanks are removed from texts and nothing is added to them, the indent of a part is
made of blanks, and a tag that escapes goes on escaping wherever the tree puts it.
-/

namespace Mailroom.Template

/-! ## Sources -/

/-- A tag that shows a value as it is. -/
def Tag.isPlain : Tag → Bool
  | .value _ escaped => !escaped
  | _ => false

/-- A piece without the character that shows no value as it is. -/
def Piece.isHarmless (c : Char) : Piece → Bool
  | .text s | .verbatim s => !s.toList.contains c
  | .tag t => !t.tag.isPlain

/-- A source that consists of harmless pieces. -/
def HarmlessSource (c : Char) (inPart : Bool) (source : String) : Prop :=
  ∀ ps ∈ pieces inPart source, ∀ p ∈ ps, p.isHarmless c = true

instance (c : Char) (inPart : Bool) (source : String) :
    Decidable (HarmlessSource c inPart source) :=
  inferInstanceAs (Decidable (∀ ps ∈ pieces inPart source, ∀ p ∈ ps, p.isHarmless c = true))

/-! ## Templates -/

/-- An element in which the character stands in no text, and that shows no value as it is. -/
inductive Element.Harmless (c : Char) : Element → Prop where
  | text {s : String} (hs : c ∉ s.toList) : Harmless c (.text s)
  | value (line : Line Json) : Harmless c (.value line true)
  | block (line : Line Json) {body : Body} {otherwise : Option Body}
    (hbody : ∀ e ∈ body, Harmless c e.2)
    (hotherwise : ∀ b, otherwise = some b → ∀ e ∈ b, Harmless c e.2) :
    Harmless c (.block line body otherwise)
  | decorator (line : Line Json) {body : Option Body}
    (hbody : ∀ b, body = some b → ∀ e ∈ b, Harmless c e.2) : Harmless c (.decorator line body)
  | part (line : Line Json) {indent : Option String} {body : Option Body}
    (hindent : ∀ s, indent = some s → c ∉ s.toList)
    (hbody : ∀ b, body = some b → ∀ e ∈ b, Harmless c e.2) : Harmless c (.part line indent body)
  | comment : Harmless c .comment

/-- A body of harmless elements. -/
def Body.Harmless (c : Char) (body : Body) : Prop := ∀ e ∈ body, e.2.Harmless c

/-- A template of harmless elements. -/
def Compiled.Harmless (c : Char) (t : Compiled) : Prop := Body.Harmless c t.body

/-- A template that was read from a harmless source. -/
def Compiled.FromHarmless (c : Char) (t : Compiled) : Prop :=
  ∃ name source, compile name source = .ok t ∧ HarmlessSource c name.isSome source

variable {c : Char}

namespace Body.Harmless

theorem nil : Body.Harmless c [] := by
  intro e he
  cases he

theorem cons {position : Option Position} {e : Element} {body : Body} (he : e.Harmless c)
    (hbody : Body.Harmless c body) : Body.Harmless c ((position, e) :: body) :=
  List.forall_mem_cons.mpr ⟨he, hbody⟩

theorem head {position : Option Position} {e : Element} {body : Body}
    (h : Body.Harmless c ((position, e) :: body)) : e.Harmless c := (List.forall_mem_cons.mp h).1

theorem tail {position : Option Position} {e : Element} {body : Body}
    (h : Body.Harmless c ((position, e) :: body)) : Body.Harmless c body :=
  (List.forall_mem_cons.mp h).2

theorem reverse {body : Body} (h : Body.Harmless c body) : Body.Harmless c body.reverse :=
  fun e he ↦ h e (List.mem_reverse.mp he)

end Body.Harmless

/-! ## The indent of a tag -/

/-- A piece whose indent, if it has one, consists of blanks. -/
def Piece.HasBlankIndent : Piece → Prop
  | .tag t => ∀ s, t.indent = some s → ∀ d ∈ s.toList, Cursor.isLineBlank d = true
  | _ => True

theorem Cursor.indent_blank (cursor : Cursor) {s : String} (h : cursor.indent = some s) :
    ∀ d ∈ s.toList, isLineBlank d = true := by
  unfold indent at h
  dsimp only at h
  split at h
  · cases h
  · cases h
    intro d hd
    rw [String.toList_ofList, List.mem_reverse] at hd
    exact List.mem_takeWhile_imp hd

theorem Cursor.placed_hasBlankIndent (cursor : Cursor) (inPart : Bool) (t : Token)
    (rest : List Char) : (cursor.placed inPart t rest).HasBlankIndent :=
  fun _ h ↦ cursor.indent_blank h

theorem verbatimBlock_hasBlankIndent {inPart : Bool} {cursor behind : Cursor} {block : List Piece}
    (h : verbatimBlock inPart cursor = some (block, behind)) :
    ∀ p ∈ block, p.HasBlankIndent := by
  simp only [verbatimBlock, Option.bind_eq_bind, Option.bind_eq_some_iff, Option.pure_def,
    Option.some.injEq, Prod.mk.injEq] at h
  obtain ⟨⟨opening, rest⟩, -, ⟨ending, rest'⟩, -, rfl, -⟩ := h
  intro p hp
  simp only [List.mem_cons, List.not_mem_nil, or_false] at hp
  rcases hp with rfl | rfl | rfl
  · exact cursor.placed_hasBlankIndent _ _ _
  · trivial
  · exact Cursor.placed_hasBlankIndent _ _ _ _

theorem piecesFrom_hasBlankIndent {inPart : Bool} {n : Nat} {cursor : Cursor} {ps : List Piece}
    (h : piecesFrom inPart n cursor = some ps) : ∀ p ∈ ps, p.HasBlankIndent := by
  induction n generalizing cursor ps with
  | zero => cases h
  | succ n ih =>
    rw [piecesFrom] at h
    dsimp only at h
    have htext : ∀ p ∈ (if (takeText 0 cursor.rest).2.length = cursor.rest.length then []
        else [.text (String.ofList (takeText 0 cursor.rest).1)] : List Piece),
        p.HasBlankIndent := by
      intro p hp
      split at hp
      · cases hp
      · rw [List.mem_singleton] at hp
        subst hp
        trivial
    split at h
    · cases h
      exact htext
    · split at h
      · simp only [Option.bind_eq_bind, Option.bind_eq_some_iff, Option.pure_def,
          Option.some.injEq] at h
        obtain ⟨further, hfurther, rfl⟩ := h
        intro p hp
        rcases List.mem_append.mp hp with hp | hp
        · exact htext p hp
        · rcases List.mem_cons.mp hp with rfl | hp
          · exact Cursor.placed_hasBlankIndent _ _ _ _
          · exact ih hfurther p hp
      · simp only [Option.bind_eq_bind, Option.bind_eq_some_iff, Option.pure_def,
          Option.some.injEq] at h
        obtain ⟨⟨block, behind⟩, hblock, further, hfurther, rfl⟩ := h
        intro p hp
        rcases List.mem_append.mp hp with hp | hp
        · rcases List.mem_append.mp hp with hp | hp
          · exact htext p hp
          · exact verbatimBlock_hasBlankIndent hblock p hp
        · exact ih hfurther p hp

/-! ## Building the tree -/

/-- What has been opened, with all that was complete before. -/
structure Frame.Harmless (c : Char) (f : Frame) : Prop where
  indent : ∀ s, f.opening = .part (some s) → c ∉ s.toList
  done : ∀ branch ∈ f.done, Body.Harmless c branch.2
  around : Body.Harmless c f.around

/-- A tree under construction of harmless elements. -/
structure Workbench.Harmless (c : Char) (w : Workbench) : Prop where
  items : Body.Harmless c w.items
  frames : ∀ f ∈ w.frames, f.Harmless c

theorem assemble_harmless {otherwise : Option Body} {position : Position}
    {branches : List (Line Json × Body)} {e : Option Position × Element}
    (hotherwise : ∀ b, otherwise = some b → Body.Harmless c b)
    (hbranches : ∀ branch ∈ branches, Body.Harmless c branch.2)
    (h : assemble otherwise position branches = some e) : e.2.Harmless c := by
  induction branches generalizing otherwise with
  | nil => cases h
  | cons branch earlier ih =>
    obtain ⟨hbranch, hearlier⟩ := List.forall_mem_cons.mp hbranches
    have hblock : (Element.block branch.1 branch.2 otherwise).Harmless c :=
      .block _ hbranch hotherwise
    cases earlier with
    | nil =>
      cases h
      exact hblock
    | cons branch' earlier =>
      refine ih ?_ hearlier h
      rintro b ⟨⟩
      exact .cons hblock .nil

theorem Frame.element_harmless {f : Frame} {body : Body} {name : String}
    {e : Option Position × Element} (hf : f.Harmless c) (hbody : Body.Harmless c body)
    (h : f.element body name = .ok e) : e.2.Harmless c := by
  have hsome : ∀ b, some body = some b → Body.Harmless c b := by
    rintro b ⟨⟩
    exact hbody
  unfold Frame.element at h
  split at h
  · split at h
    · cases h
    · dsimp only at h
      split at h
      · rename_i hassemble
        cases h
        cases hcurrent : f.current with
        | some line =>
          rw [hcurrent] at hassemble
          have hnone : ∀ b, (none : Option Body) = some b → Body.Harmless c b := by
            rintro b ⟨⟩
          exact assemble_harmless hnone (List.forall_mem_cons.mpr ⟨hbody, hf.done⟩) hassemble
        | none =>
          rw [hcurrent] at hassemble
          exact assemble_harmless hsome hf.done hassemble
      · cases h
  · split at h
    · cases h
    · cases h
      exact .decorator _ hsome
  · rename_i indent hopening
    split at h
    · cases h
    · cases h
      refine .part _ ?_ hsome
      rintro s rfl
      exact hf.indent s hopening

/-! ### Blanks -/

theorem dropEnd_subset (p : Char → Bool) (cs : List Char) :
    (cs.reverse.dropWhile p).reverse ⊆ cs := by
  intro d hd
  rw [List.mem_reverse] at hd
  exact List.mem_reverse.mp ((List.dropWhile_sublist p).subset hd)

theorem Workbench.dropLineRest_subset (cs : List Char) : dropLineRest cs ⊆ cs := by
  have hdrop := (List.dropWhile_sublist Cursor.isLineBlank (l := cs)).subset
  unfold dropLineRest
  split
  · rename_i rest heq
    rw [heq] at hdrop
    exact fun d hd ↦ hdrop (by simp [hd])
  · rename_i rest heq
    rw [heq] at hdrop
    exact fun d hd ↦ hdrop (by simp [hd])
  · exact hdrop

theorem Workbench.trimmed_subset (w : Workbench) (cs : List Char) : w.trimmed cs ⊆ cs := by
  unfold trimmed
  split
  · exact (List.dropWhile_sublist _).subset
  · split
    · exact dropLineRest_subset cs
    · exact List.Subset.refl cs

/-! ### Steps -/

namespace Workbench.Harmless

variable {w : Workbench}

theorem empty : Harmless c {} := ⟨.nil, List.forall_mem_nil _⟩

theorem body (h : w.Harmless c) : Body.Harmless c w.body := h.items.reverse

theorem push (h : w.Harmless c) (position : Option Position) {e : Element} (he : e.Harmless c) :
    (w.push position e).Harmless c := ⟨.cons he h.items, h.frames⟩

theorem mapLastText (h : w.Harmless c) {f : List Char → List Char} (hf : ∀ cs, f cs ⊆ cs) :
    (w.mapLastText f).Harmless c := by
  unfold Workbench.mapLastText
  split
  · rename_i position s rest hitems
    have hall := h.items
    rw [hitems] at hall
    cases hall.head with
    | text hs =>
      refine ⟨.cons (.text ?_) hall.tail, h.frames⟩
      rw [String.toList_ofList]
      exact fun hmem ↦ hs (hf _ hmem)
  · exact h

theorem trimAround (h : w.Harmless c) (t : Token) : (w.trimAround t).Harmless c := by
  unfold Workbench.trimAround
  dsimp only
  split
  · obtain ⟨hitems, hframes⟩ := h.mapLastText (dropEnd_subset Text.isBlank)
    exact ⟨hitems, hframes⟩
  · exact ⟨h.items, h.frames⟩

theorem trimLine (h : w.Harmless c) (t : Token) : (w.trimLine t).Harmless c := by
  unfold Workbench.trimLine
  dsimp only
  split
  · obtain ⟨hitems, hframes⟩ := h.mapLastText (dropEnd_subset Cursor.isLineBlank)
    exact ⟨hitems, hframes⟩
  · exact ⟨h.items, h.frames⟩

theorem addText (h : w.Harmless c) {s : String} (hs : c ∉ s.toList) :
    (w.addText s).Harmless c := by
  unfold Workbench.addText
  dsimp only
  split
  · exact h
  · have htext : (Element.text (String.ofList (w.trimmed s.toList))).Harmless c := by
      refine .text ?_
      rw [String.toList_ofList]
      exact fun hmem ↦ hs (w.trimmed_subset _ hmem)
    exact ⟨.cons htext h.items, h.frames⟩

theorem enter (h : w.Harmless c) {opening : Opening}
    (hopening : ∀ s, opening = .part (some s) → c ∉ s.toList) (line : Line Json) (t : Token) :
    (w.enter opening line t).Harmless c :=
  ⟨.nil, List.forall_mem_cons.mpr ⟨⟨hopening, List.forall_mem_nil _, h.items⟩, h.frames⟩⟩

theorem divide (h : w.Harmless c) {next : Option (Line Json)} {w' : Workbench}
    (hw : w.divide next = .ok w') : w'.Harmless c := by
  unfold Workbench.divide at hw
  split at hw
  · rename_i f frames hframes
    obtain ⟨hf, hrest⟩ := List.forall_mem_cons.mp (hframes ▸ h.frames)
    split at hw
    · cases hw
      refine ⟨.nil, List.forall_mem_cons.mpr ⟨?_, hrest⟩⟩
      exact ⟨hf.indent, List.forall_mem_cons.mpr ⟨h.body, hf.done⟩, hf.around⟩
    · cases hw
  · cases hw

theorem leave (h : w.Harmless c) {name : String} {w' : Workbench}
    (hw : w.leave name = .ok w') : w'.Harmless c := by
  unfold Workbench.leave at hw
  split at hw
  · rename_i f frames hframes
    obtain ⟨hf, hrest⟩ := List.forall_mem_cons.mp (hframes ▸ h.frames)
    obtain ⟨e, he, ⟨⟩⟩ := bind_eq_ok.mp hw
    exact ⟨.cons (f.element_harmless hf h.body he) hf.around, hrest⟩
  · cases hw

/-- A tag that escapes what it shows, and whose indent is free of the character. -/
theorem addTag (h : w.Harmless c) {t : Token} (htag : t.tag.isPlain = false)
    (hindent : ∀ s, t.indent = some s → c ∉ s.toList) {w' : Workbench}
    (hw : w.addTag t = .ok w') : w'.Harmless c := by
  have haround := h.trimAround t
  have hline := haround.trimLine t
  unfold Workbench.addTag at hw
  split at hw
  · rename_i line escaped heq
    have hescaped : escaped = true := by simpa [heq, Tag.isPlain] using htag
    obtain ⟨line', -, ⟨⟩⟩ := bind_eq_ok.mp hw
    rw [hescaped]
    exact haround.push _ (.value line')
  · obtain ⟨line', -, ⟨⟩⟩ := bind_eq_ok.mp hw
    exact hline.enter (by rintro s ⟨⟩) line' t
  · obtain ⟨line', -, hdivide⟩ := bind_eq_ok.mp hw
    exact hline.divide hdivide
  · exact hline.divide hw
  · exact hline.leave hw
  · obtain ⟨line', -, ⟨⟩⟩ := bind_eq_ok.mp hw
    exact hline.push _ (.decorator line' nofun)
  · obtain ⟨line', -, ⟨⟩⟩ := bind_eq_ok.mp hw
    exact hline.enter (by rintro s ⟨⟩) line' t
  · obtain ⟨line', -, ⟨⟩⟩ := bind_eq_ok.mp hw
    exact ⟨.cons (.part line' hindent nofun) haround.items, haround.frames⟩
  · obtain ⟨line', -, ⟨⟩⟩ := bind_eq_ok.mp hw
    exact hline.enter (by rintro s ⟨⟩) line' t
  · cases hw
    exact (h.trimLine t).push _ .comment

/-- A harmless piece, with a blank indent. -/
theorem add (h : w.Harmless c) (hc : Cursor.isLineBlank c = false) {p : Piece}
    (hp : p.isHarmless c = true) (hindent : p.HasBlankIndent) {w' : Workbench}
    (hw : w.add p = .ok w') : w'.Harmless c := by
  cases p with
  | text s =>
    cases hw
    exact h.addText (by simpa [Piece.isHarmless] using hp)
  | verbatim s =>
    have hs : c ∉ s.toList := by simpa [Piece.isHarmless] using hp
    cases hw
    refine h.push _ (.text ?_)
    rw [String.toList_ofList]
    exact fun hmem ↦ hs (w.trimmed_subset _ hmem)
  | tag t =>
    refine h.addTag (by simpa [Piece.isHarmless] using hp) ?_ hw
    intro s hs hmem
    rw [hindent s hs c hmem] at hc
    cases hc

theorem foldlM (h : w.Harmless c) (hc : Cursor.isLineBlank c = false) {ps : List Piece}
    (hps : ∀ p ∈ ps, p.isHarmless c = true) (hindent : ∀ p ∈ ps, p.HasBlankIndent) {w' : Workbench}
    (hw : ps.foldlM Workbench.add w = .ok w') : w'.Harmless c := by
  induction ps generalizing w with
  | nil =>
    cases hw
    exact h
  | cons p ps ih =>
    obtain ⟨hp, hps⟩ := List.forall_mem_cons.mp hps
    obtain ⟨hblank, hindent⟩ := List.forall_mem_cons.mp hindent
    rw [List.foldlM_cons] at hw
    obtain ⟨next, hadd, hrest⟩ := bind_eq_ok.mp hw
    exact ih (h.add hc hp hblank hadd) hps hindent hrest

end Workbench.Harmless

/-- What is read from a harmless source is a harmless template. -/
theorem Compiled.FromHarmless.harmless (hc : Cursor.isLineBlank c = false) {t : Compiled}
    (h : t.FromHarmless c) : t.Harmless c := by
  obtain ⟨name, source, h, hsource⟩ := h
  unfold compile at h
  split at h
  · cases h
  · rename_i ps hps
    split at h
    · cases h
    · obtain ⟨w, hw, h⟩ := bind_eq_ok.mp h
      have hbody : w.body = t.body := congrArg Compiled.body (Except.ok.inj h)
      have hindent : ∀ p ∈ ps, p.HasBlankIndent := piecesFrom_hasBlankIndent hps
      rw [Compiled.Harmless, ← hbody]
      exact (Workbench.Harmless.empty.foldlM hc (hsource ps hps) hindent hw).body

end Mailroom.Template
