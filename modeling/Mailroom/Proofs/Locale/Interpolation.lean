import Mailroom.Locale.Wording
import Mailroom.Proofs.Lookup
import Mailroom.Proofs.Text.Replacing

/-!
# Parameters in placeholders

Parameters are put into a text one after the other, each into all placeholders of its name that the
text has by then. Meant is that all of them are put in at once: a placeholder of the text gives way
to the value of its parameter, and everything else is copied (`substitute`). The two agree exactly
if each parameter finds on its turn just the placeholders of the text, and none that earlier values
have brought into being (`interpolate_iff`).
-/

namespace Mailroom.Locale

variable {name cs rest : List Char} {params : Json.Members}

/-! ## Placeholders -/

/-- The placeholder of a name. -/
def placeholder (name : List Char) : List Char :=
  '\x7b' :: '\x7b' :: (name ++ ['\x7d', '\x7d'])

/-- Whether a character is a brace. -/
def isBrace (c : Char) : Bool := c == '\x7b' || c == '\x7d'

/-- No brace is in a name. -/
def BraceFree (name : List Char) : Prop := ∀ c ∈ name, isBrace c = false

instance : DecidablePred BraceFree := List.decidableBAll (isBrace · = false)

/-- The name of the placeholder that a text begins with, and what follows it. -/
def readPlaceholder : List Char → Option (List Char × List Char)
  | '\x7b' :: '\x7b' :: cs =>
    match cs.dropWhile (!isBrace ·) with
    | '\x7d' :: '\x7d' :: rest => some (cs.takeWhile (!isBrace ·), rest)
    | _ => none
  | _ => none

theorem readPlaceholder_append (hname : BraceFree name) (rest : List Char) :
    readPlaceholder (placeholder name ++ rest) = some (name, rest) := by
  have hnot : ∀ c ∈ name, (!isBrace c) = true := fun c hc ↦ by rw [hname c hc]; rfl
  have htake : (name ++ '\x7d' :: '\x7d' :: rest).takeWhile (!isBrace ·) = name := by
    rw [List.takeWhile_append_of_pos hnot, List.takeWhile_cons_of_neg (by decide), List.append_nil]
  have hdrop : (name ++ '\x7d' :: '\x7d' :: rest).dropWhile (!isBrace ·) =
      '\x7d' :: '\x7d' :: rest := by
    rw [List.dropWhile_append_of_pos hnot, List.dropWhile_cons_of_neg (by decide)]
  have happend : placeholder name ++ rest =
      '\x7b' :: '\x7b' :: (name ++ '\x7d' :: '\x7d' :: rest) := by
    simp [placeholder]
  rw [happend, readPlaceholder, hdrop, htake]
  rfl

theorem readPlaceholder_eq_some_iff :
    readPlaceholder cs = some (name, rest) ↔ BraceFree name ∧ cs = placeholder name ++ rest := by
  constructor
  · intro h
    unfold readPlaceholder at h
    split at h
    · rename_i tail
      split at h
      · rename_i hdrop
        cases h
        refine ⟨fun c hc ↦ by simpa using List.all_eq_true.mp List.all_takeWhile c hc, ?_⟩
        have hsplit := List.takeWhile_append_dropWhile (p := (!isBrace ·)) (l := tail)
        rw [hdrop] at hsplit
        simp [placeholder, hsplit]
      · cases h
    · cases h
  · rintro ⟨hname, rfl⟩
    exact readPlaceholder_append hname rest

/-- A piece of a text. -/
inductive Token where
  | char (c : Char)
  | place (name : List Char)
deriving DecidableEq

/-- A text as its placeholders and the characters between them. -/
def tokens (cs : List Char) : List Token :=
  match cs with
  | [] => []
  | c :: cs =>
    match _h : readPlaceholder (c :: cs) with
    | some (name, rest) => .place name :: tokens rest
    | none => .char c :: tokens cs
termination_by cs.length
decreasing_by
  · obtain ⟨-, heq⟩ := readPlaceholder_eq_some_iff.mp ‹_›
    rw [heq]
    simp [placeholder]
    omega
  · exact Nat.lt_succ_self _

/-- What stands in a text for a token of it, when parameters are given. -/
def Token.render (params : Json.Members) : Token → List Char
  | char c => [c]
  | place name =>
    match params.get? (String.ofList name) with
    | some value => value.display.toList
    | none => placeholder name

/-- The characters of a text with all parameters put into its placeholders at once. -/
def render (params : Json.Members) (cs : List Char) : List Char :=
  (tokens cs).flatMap (Token.render params)

/-- A text with all parameters put into its placeholders at once. -/
def substitute (params : Json.Members) (text : String) : String :=
  String.ofList (render params text.toList)

/-- The number of placeholders of a name. -/
def places (name cs : List Char) : Nat := (tokens cs).count (.place name)

/-! ## Where placeholders may begin -/

/-- A placeholder begins in a text only where its first token is one. -/
theorem placeholder_prefix_iff (hname : BraceFree name) :
    placeholder name <+: cs ↔ ∃ rest, readPlaceholder cs = some (name, rest) := by
  constructor
  · rintro ⟨rest, rfl⟩
    exact ⟨rest, readPlaceholder_append hname rest⟩
  · rintro ⟨rest, h⟩
    obtain ⟨-, rfl⟩ := readPlaceholder_eq_some_iff.mp h
    exact List.prefix_append _ _

theorem tokens_placeholder (hname : BraceFree name) (rest : List Char) :
    tokens (placeholder name ++ rest) = .place name :: tokens rest := by
  have hread := readPlaceholder_append hname rest
  have hcons : placeholder name ++ rest =
      '\x7b' :: ('\x7b' :: (name ++ ['\x7d', '\x7d']) ++ rest) := rfl
  rw [hcons] at hread ⊢
  rw [tokens]
  split
  · rename_i h
    rw [hread] at h
    cases h
    rfl
  · rename_i h
    rw [hread] at h
    cases h

theorem tokens_cons {c : Char} (h : readPlaceholder (c :: cs) = none) :
    tokens (c :: cs) = .char c :: tokens cs := by
  rw [tokens]
  split
  · rename_i h'
    rw [h] at h'
    cases h'
  · rfl

/-- A text is read token by token. -/
theorem token_induction {P : List Char → Prop} (nil : P [])
    (place : ∀ name rest, BraceFree name → P rest → P (placeholder name ++ rest))
    (char : ∀ c cs, readPlaceholder (c :: cs) = none → P cs → P (c :: cs)) (cs : List Char) :
    P cs := by
  fun_induction tokens cs with
  | case1 => exact nil
  | case2 c cs name rest h ih =>
    obtain ⟨hname, heq⟩ := readPlaceholder_eq_some_iff.mp h
    rw [heq]
    exact place name rest hname ih
  | case3 c cs h ih => exact char c cs h ih

theorem readPlaceholder_of_ne {c : Char} (h : c ≠ '\x7b') (cs : List Char) :
    readPlaceholder (c :: cs) = none := by
  unfold readPlaceholder
  split
  · rename_i heq
    cases heq
    exact absurd rfl h
  · rfl

/-- No placeholder begins in a piece without opening braces. -/
theorem tokens_append (h : '\x7b' ∉ cs) (rest : List Char) :
    tokens (cs ++ rest) = cs.map .char ++ tokens rest := by
  induction cs with
  | nil => rfl
  | cons c cs ih =>
    obtain ⟨hc, hcs⟩ := not_or.mp (List.mem_cons.not.mp h)
    rw [List.cons_append, tokens_cons (readPlaceholder_of_ne (Ne.symm hc) _), ih hcs]
    rfl

theorem readPlaceholder_of_head (h : cs.head? ≠ some '\x7b') :
    readPlaceholder ('\x7b' :: cs) = none := by
  unfold readPlaceholder
  split
  · rename_i heq
    cases heq
    exact absurd rfl h
  · rfl

/-- No other placeholder begins within a placeholder. -/
theorem tokens_tail_placeholder (hname : BraceFree name) (rest : List Char) :
    tokens ((placeholder name).tail ++ rest) =
      (placeholder name).tail.map .char ++ tokens rest := by
  have hopen : '\x7b' ∉ name ++ ['\x7d', '\x7d'] := by
    intro h
    rcases List.mem_append.mp h with h | h
    · exact Bool.noConfusion (hname _ h)
    · revert h
      decide
  have hhead : (name ++ ['\x7d', '\x7d'] ++ rest).head? ≠ some '\x7b' := by
    cases name with
    | nil => simp
    | cons c name =>
      rintro ⟨⟩
      exact hopen List.mem_cons_self
  rw [placeholder, List.tail_cons, List.cons_append,
    tokens_cons (readPlaceholder_of_head hhead), tokens_append hopen]
  rfl

/-! ## Counting placeholders -/

@[simp] theorem places_nil (name : List Char) : places name [] = 0 := by
  rw [places, tokens]
  rfl

theorem places_placeholder {other : List Char} (hother : BraceFree other) (rest : List Char) :
    places name (placeholder other ++ rest) =
      places name rest + if other = name then 1 else 0 := by
  rw [places, tokens_placeholder hother, List.count_cons, places]
  simp

theorem count_map_char (name cs : List Char) : (cs.map Token.char).count (.place name) = 0 :=
  List.count_eq_zero.mpr fun hmem ↦ by
    obtain ⟨c, -, hc⟩ := List.mem_map.mp hmem
    cases hc

theorem places_append (h : '\x7b' ∉ cs) (rest : List Char) :
    places name (cs ++ rest) = places name rest := by
  rw [places, tokens_append h, List.count_append, count_map_char, Nat.zero_add, places]

theorem places_tail_placeholder {other : List Char} (hother : BraceFree other)
    (rest : List Char) : places name ((placeholder other).tail ++ rest) = places name rest := by
  rw [places, tokens_tail_placeholder hother, List.count_append, count_map_char, Nat.zero_add,
    places]

/-- A character adds a placeholder if one begins with it, and it never takes one away. -/
theorem places_cons (hname : BraceFree name) (c : Char) (cs : List Char) :
    places name (c :: cs) =
      places name cs + if placeholder name <+: c :: cs then 1 else 0 := by
  have hinitial : placeholder name <+: c :: cs ↔ _ := placeholder_prefix_iff hname
  cases hread : readPlaceholder (c :: cs) with
  | none =>
    rw [if_neg (by simp [hinitial, hread]), places, tokens_cons hread, List.count_cons, places]
    simp
  | some found =>
    obtain ⟨other, rest⟩ := found
    obtain ⟨hother, heq⟩ := readPlaceholder_eq_some_iff.mp hread
    have hcs : cs = (placeholder other).tail ++ rest := (List.cons.inj heq).2
    have hplaces : places name cs = places name rest := by
      rw [hcs, places_tail_placeholder hother]
    rw [hread] at hinitial
    rw [hplaces]
    simp only [hinitial, Option.some.injEq, Prod.mk.injEq, exists_and_left, exists_eq', and_true]
    rw [heq, places_placeholder hother]

theorem places_le_append (hname : BraceFree name) (cs rest : List Char) :
    places name rest ≤ places name (cs ++ rest) := by
  induction cs with
  | nil => exact le_rfl
  | cons c cs ih =>
    rw [List.cons_append, places_cons hname]
    exact ih.trans (Nat.le_add_right _ _)

/-! ## Putting parameters in -/

@[simp] theorem render_nil (params : Json.Members) : render params [] = [] := by
  rw [render, tokens]
  rfl

theorem render_placeholder (hname : BraceFree name) (params : Json.Members) (rest : List Char) :
    render params (placeholder name ++ rest) =
      Token.render params (.place name) ++ render params rest := by
  rw [render, tokens_placeholder hname, List.flatMap_cons, render]

theorem render_cons {c : Char} (h : readPlaceholder (c :: cs) = none) (params : Json.Members) :
    render params (c :: cs) = c :: render params cs := by
  rw [render, tokens_cons h, List.flatMap_cons, render]
  rfl

/-! ## Filling the placeholders of one name -/

/-- The text of a value in the place of every placeholder of one name. -/
def fillPlaces (name value cs : List Char) : List Char :=
  Text.replaceAll '\x7b' (placeholder name).tail value cs

theorem fill_eq (name : String) (value : Json) (text : String) :
    fill name value text =
      String.ofList (fillPlaces name.toList value.display.toList text.toList) := rfl

@[simp] theorem fillPlaces_nil (name value : List Char) : fillPlaces name value [] = [] :=
  Text.replaceAll_nil _ _ _

theorem fillPlaces_placeholder (name value rest : List Char) :
    fillPlaces name value (placeholder name ++ rest) = value ++ fillPlaces name value rest :=
  Text.replaceAll_append_self _ _ _ _

/-- A piece to which no placeholder of the name belongs is kept. -/
theorem fillPlaces_append (hname : BraceFree name) (value : List Char)
    (h : places name (cs ++ rest) = places name rest) :
    fillPlaces name value (cs ++ rest) = cs ++ fillPlaces name value rest := by
  induction cs with
  | nil => rfl
  | cons c cs ih =>
    have hle := places_le_append hname cs rest
    rw [List.cons_append, places_cons hname] at h
    have hinitial : ¬ placeholder name <+: c :: (cs ++ rest) := fun hinitial ↦ by
      rw [if_pos hinitial] at h
      omega
    have hkept : fillPlaces name value (c :: (cs ++ rest)) =
        c :: fillPlaces name value (cs ++ rest) := Text.replaceAll_cons value hinitial
    rw [if_neg hinitial] at h
    rw [List.cons_append, hkept, ih h, List.cons_append]

/-! ## One parameter more -/

variable {key : String} {value : Json}

theorem get?_append_of_none (h : params.get? key = none) (value : Json) (other : String) :
    Json.Members.get? (params ++ [(key, value)]) other =
      if other = key then some value else params.get? other := by
  unfold Json.Members.get? at h ⊢
  rw [List.lookup_append]
  split_ifs with heq
  · rw [heq, h, Option.none_or, List.lookup_cons_self]
  · rw [lookup_cons_of_ne heq, List.lookup_nil, Option.or_none]

/-- A text is read token by token. Those that are no placeholder of a new parameter are treated as
before. -/
theorem key_induction (hnone : params.get? key = none) (value : Json) {P : List Char → Prop}
    (nil : P [])
    (own : ∀ rest, P rest → P (placeholder key.toList ++ rest))
    (other : ∀ token piece rest, places key.toList (token ++ rest) = places key.toList rest →
      render params (token ++ rest) = piece ++ render params rest →
      render (params ++ [(key, value)]) (token ++ rest) =
        piece ++ render (params ++ [(key, value)]) rest → P rest → P (token ++ rest))
    (cs : List Char) : P cs := by
  induction cs using token_induction with
  | nil => exact nil
  | place name rest hname ih =>
    by_cases heq : name = key.toList
    · exact heq ▸ own rest ih
    · have hne : String.ofList name ≠ key := fun h ↦ heq (by rw [← h, String.toList_ofList])
      refine other _ _ rest ?_ (render_placeholder hname params rest) ?_ ih
      · rw [places_placeholder hname, if_neg heq, Nat.add_zero]
      · rw [render_placeholder hname, Token.render, Token.render, get?_append_of_none hnone,
          if_neg hne]
  | char c cs hread ih =>
    refine other [c] [c] cs ?_ (render_cons hread params) (render_cons hread _) ih
    rw [List.singleton_append, places, tokens_cons hread, List.count_cons, places]
    simp

section

variable (hkey : BraceFree key.toList) (hnone : params.get? key = none)
include hkey hnone

theorem render_key (rest : List Char) : render params (placeholder key.toList ++ rest) =
    placeholder key.toList ++ render params rest := by
  rw [render_placeholder hkey, Token.render, String.ofList_toList, hnone]

theorem render_append_key (value : Json) (rest : List Char) :
    render (params ++ [(key, value)]) (placeholder key.toList ++ rest) =
      value.display.toList ++ render (params ++ [(key, value)]) rest := by
  rw [render_placeholder hkey, Token.render, String.ofList_toList, get?_append_of_none hnone,
    if_pos rfl]

/-- What has been put in for other names takes away no placeholder. -/
theorem places_le_render (cs : List Char) :
    places key.toList cs ≤ places key.toList (render params cs) := by
  induction cs using key_induction hnone .null with
  | nil => exact Nat.le_of_eq (by rw [render_nil])
  | own rest ih =>
    rw [render_key hkey hnone, places_placeholder hkey, places_placeholder hkey]
    exact Nat.add_le_add_right ih _
  | other token piece rest hplaces hrender _ ih =>
    rw [hplaces, hrender]
    exact ih.trans (places_le_append hkey _ _)

/-- A parameter more is put into just its placeholders of the text if what has been put in before
it brings no other ones. -/
theorem fillPlaces_render (value : Json)
    (h : places key.toList (render params cs) = places key.toList cs) :
    fillPlaces key.toList value.display.toList (render params cs) =
      render (params ++ [(key, value)]) cs := by
  induction cs using key_induction hnone value with
  | nil => rw [render_nil, render_nil, fillPlaces_nil]
  | own rest ih =>
    rw [render_key hkey hnone, places_placeholder hkey, places_placeholder hkey] at h
    rw [render_key hkey hnone, render_append_key hkey hnone, fillPlaces_placeholder,
      ih (Nat.add_right_cancel h)]
  | other token piece rest hplaces hrender hrender' ih =>
    have hle := places_le_render hkey hnone rest
    have hle' := places_le_append hkey piece (render params rest)
    rw [hplaces, hrender] at h
    rw [hrender, hrender', fillPlaces_append hkey _ (by omega), ih (by omega)]

/-- Every placeholder of the text makes room for the value. -/
theorem length_render_append (value : Json) (cs : List Char) :
    (render (params ++ [(key, value)]) cs).length +
        places key.toList cs * (placeholder key.toList).length =
      (render params cs).length + places key.toList cs * value.display.toList.length := by
  induction cs using key_induction hnone value with
  | nil => simp
  | own rest ih =>
    rw [render_key hkey hnone, render_append_key hkey hnone, places_placeholder hkey, if_pos rfl]
    simp only [List.length_append, Nat.add_mul, Nat.one_mul]
    omega
  | other token piece rest hplaces hrender hrender' ih =>
    rw [hplaces, hrender, hrender']
    simp only [List.length_append]
    omega

end

/-! ## All parameters -/

variable {text : String}

/-- On its turn each parameter finds as many placeholders as the text has of its name. -/
def FindsOwn (params : Json.Members) (text : String) : Prop :=
  ∀ before key value, before ++ [(key, value)] <+: params →
    places key.toList (interpolate text before).toList = places key.toList text.toList

theorem interpolate_append (text : String) (params : Json.Members) (key : String) (value : Json) :
    interpolate text (params ++ [(key, value)]) = fill key value (interpolate text params) := by
  rw [interpolate, List.foldl_append]
  rfl

theorem render_empty (cs : List Char) : render [] cs = cs := by
  induction cs using token_induction with
  | nil => exact render_nil _
  | place name rest hname ih =>
    rw [render_placeholder hname, ih]
    rfl
  | char c cs hread ih => rw [render_cons hread, ih]

theorem interpolate_nil (text : String) : interpolate text [] = substitute [] text := by
  rw [substitute, render_empty, String.ofList_toList]
  rfl

section

variable (hkey : BraceFree key.toList) (hnone : params.get? key = none)
include hkey hnone

/-- Only its own placeholders make room for a value that is empty. -/
theorem places_eq_of_fillPlaces {value : Json} (hvalue : value.display.toList = [])
    (h : fillPlaces key.toList value.display.toList (render params cs) =
      render (params ++ [(key, value)]) cs) :
    places key.toList (render params cs) = places key.toList cs := by
  have hsingle := fillPlaces_render hkey (rfl : Json.Members.get? [] key = none) value
    (congrArg (places key.toList) (render_empty (render params cs)))
  rw [render_empty] at hsingle
  have hafter := length_render_append hkey (rfl : Json.Members.get? [] key = none) value
    (render params cs)
  have hbefore := length_render_append hkey hnone value cs
  rw [← h, hsingle] at hbefore
  rw [render_empty, hvalue, List.length_nil, Nat.mul_zero] at hafter
  rw [hvalue, List.length_nil, Nat.mul_zero] at hbefore
  have hpos : 0 < (placeholder key.toList).length := Nat.succ_pos _
  exact Nat.eq_of_mul_eq_mul_right hpos (by omega)

/-- If the parameters before it are put in at once, then so is the next one, whatever its value is,
exactly if it finds just the placeholders of the text. -/
theorem interpolate_append_iff (h : interpolate text params = substitute params text) :
    (∀ value, interpolate text (params ++ [(key, value)]) =
      substitute (params ++ [(key, value)]) text) ↔
      places key.toList (interpolate text params).toList = places key.toList text.toList := by
  have hfill (value : Json) : interpolate text (params ++ [(key, value)]) =
      String.ofList (fillPlaces key.toList value.display.toList (render params text.toList)) := by
    rw [interpolate_append, h, fill_eq, substitute, String.toList_ofList]
  rw [h, substitute, String.toList_ofList]
  constructor
  · intro hall
    have hempty := hall (.str "")
    rw [hfill, substitute] at hempty
    exact places_eq_of_fillPlaces hkey hnone rfl (String.ofList_injective hempty)
  · intro hplaces value
    rw [hfill, fillPlaces_render hkey hnone value hplaces, substitute]

end

/-! ## Names that are different and without braces -/

/-- The names of the parameters are all different, and no brace is in one of them. -/
structure Named (params : Json.Members) : Prop where
  nodup : (params.map Prod.fst).Nodup
  braceFree : ∀ p ∈ params, BraceFree p.1.toList

namespace Named

theorem of_prefix {before : Json.Members} (h : Named params) (hinitial : before <+: params) :
    Named before where
  nodup := h.nodup.sublist (hinitial.sublist.map Prod.fst)
  braceFree p hp := h.braceFree p (hinitial.subset hp)

theorem key_braceFree (h : Named (params ++ [(key, value)])) : BraceFree key.toList :=
  h.braceFree (key, value) (List.mem_append_right _ List.mem_cons_self)

theorem get?_eq_none (h : Named (params ++ [(key, value)])) : params.get? key = none := by
  have hnodup := h.nodup
  rw [List.map_append, List.nodup_append] at hnodup
  refine List.lookup_eq_none_iff.mpr fun p hp ↦ bne_iff_ne.mpr fun heq ↦ ?_
  exact hnodup.2.2 p.1 (List.mem_map_of_mem hp) key List.mem_cons_self heq.symm

theorem perm {others : Json.Members} (h : Named params) (hperm : others.Perm params) :
    Named others where
  nodup := (hperm.map Prod.fst).nodup_iff.mpr h.nodup
  braceFree p hp := h.braceFree p (hperm.mem_iff.mp hp)

end Named

theorem FindsOwn.of_prefix {before : Json.Members} (h : FindsOwn params text)
    (hinitial : before <+: params) : FindsOwn before text :=
  fun before' key value hinitial' ↦ h before' key value (hinitial'.trans hinitial)

/-- The parameters are put in at once if each of them finds just the placeholders of the text. -/
theorem interpolate_of_findsOwn (hnamed : Named params) (h : FindsOwn params text) :
    interpolate text params = substitute params text := by
  induction params using List.reverseRecOn with
  | nil => exact interpolate_nil text
  | append_singleton params p ih =>
    obtain ⟨key, value⟩ := p
    have hinitial : params <+: params ++ [(key, value)] := List.prefix_append _ _
    have hbefore := ih (hnamed.of_prefix hinitial) (h.of_prefix hinitial)
    exact (interpolate_append_iff hnamed.key_braceFree hnamed.get?_eq_none hbefore).mpr
      (h params key value (List.prefix_refl _)) value

/-- No opening brace stands in a text outside of its placeholders, and none is in a value. -/
structure BracesApart (params : Json.Members) (text : String) : Prop where
  text : Token.char '\x7b' ∉ tokens text.toList
  values : ∀ p ∈ params, '\x7b' ∉ p.2.display.toList

theorem places_render_of_braces (hnone : params.get? key = none)
    (htext : Token.char '\x7b' ∉ tokens cs)
    (hvalues : ∀ p ∈ params, '\x7b' ∉ p.2.display.toList) :
    places key.toList (render params cs) = places key.toList cs := by
  induction cs using token_induction with
  | nil => rw [render_nil]
  | place name rest hname ih =>
    rw [tokens_placeholder hname] at htext
    have hrest := ih (mt (List.mem_cons_of_mem _) htext)
    rw [render_placeholder hname, Token.render, places_placeholder hname]
    cases hget : params.get? (String.ofList name) with
    | none =>
      dsimp only
      rw [places_placeholder hname, hrest]
    | some value =>
      have hne : name ≠ key.toList := by
        rintro rfl
        rw [String.ofList_toList, hnone] at hget
        cases hget
      obtain ⟨before, after, hsplit, -⟩ := List.lookup_eq_some_iff.mp hget
      have hvalue := hvalues (String.ofList name, value) (by rw [hsplit]; simp)
      rw [if_neg hne, places_append hvalue, hrest, Nat.add_zero]
  | char c cs hread ih =>
    rw [tokens_cons hread] at htext
    have hc : '\x7b' ∉ [c] := fun h ↦
      htext (by rw [List.mem_singleton.mp h]; exact List.mem_cons_self)
    rw [render_cons hread, ← List.singleton_append, places_append hc, ← List.singleton_append,
      places_append hc, ih (mt (List.mem_cons_of_mem _) htext)]

/-- Where braces stand apart the parameters are put in at once, in whatever order they come. -/
theorem interpolate_of_bracesApart (hnamed : Named params) (h : BracesApart params text) :
    interpolate text params = substitute params text := by
  induction params using List.reverseRecOn with
  | nil => exact interpolate_nil text
  | append_singleton params p ih =>
    obtain ⟨key, value⟩ := p
    have hvalues : ∀ p ∈ params, '\x7b' ∉ p.2.display.toList :=
      fun p hp ↦ h.values p (List.mem_append_left _ hp)
    have hbefore := ih (hnamed.of_prefix (List.prefix_append _ _)) ⟨h.text, hvalues⟩
    refine (interpolate_append_iff hnamed.key_braceFree hnamed.get?_eq_none hbefore).mpr ?_ value
    rw [hbefore, substitute, String.toList_ofList]
    exact places_render_of_braces hnamed.get?_eq_none h.text hvalues

theorem BracesApart.perm {others : Json.Members} (h : BracesApart params text)
    (hperm : others.Perm params) : BracesApart others text :=
  ⟨h.text, fun p hp ↦ h.values p (hperm.mem_iff.mp hp)⟩

theorem substitute_perm {others : Json.Members} (hnamed : Named params)
    (hperm : params.Perm others) (text : String) :
    substitute others text = substitute params text := by
  have hrender : Token.render others = Token.render params := by
    funext token
    cases token with
    | char c => rfl
    | place name =>
      have hget := lookup_perm hperm hnamed.nodup (String.ofList name)
      rw [Token.render, Token.render, Json.Members.get?, Json.Members.get?, hget]
  rw [substitute, substitute, render, render, hrender]

/-- Parameters are put in at once, up to each of them and whatever its value is, exactly if each
finds on its turn just the placeholders of the text. Then the outcome is the single pass; and so it
is in every order of the parameters where braces stand apart. -/
theorem interpolate_iff (hnamed : Named params) (text : String) :
    (FindsOwn params text ↔ ∀ before key value other, before ++ [(key, value)] <+: params →
      interpolate text (before ++ [(key, other)]) = substitute (before ++ [(key, other)]) text) ∧
    (FindsOwn params text → interpolate text params = substitute params text) ∧
    (BracesApart params text → ∀ others : Json.Members, others.Perm params →
      interpolate text others = substitute params text) := by
  refine ⟨⟨?_, ?_⟩, interpolate_of_findsOwn hnamed, fun h others hperm ↦ ?_⟩
  · intro h before key value other hinitial
    have hnext := hnamed.of_prefix hinitial
    have hfirst : before <+: before ++ [(key, value)] := List.prefix_append _ _
    have hbefore := interpolate_of_findsOwn (hnext.of_prefix hfirst)
      (h.of_prefix (hfirst.trans hinitial))
    exact (interpolate_append_iff hnext.key_braceFree hnext.get?_eq_none hbefore).mpr
      (h before key value hinitial) other
  · intro h before key value hinitial
    have hnext := hnamed.of_prefix hinitial
    have hfirst : before <+: before ++ [(key, value)] := List.prefix_append _ _
    have hbefore : interpolate text before = substitute before text := by
      cases before using List.reverseRecOn with
      | nil => exact interpolate_nil text
      | append_singleton before p => exact h before p.1 p.2 p.2 (hfirst.trans hinitial)
    exact (interpolate_append_iff hnext.key_braceFree hnext.get?_eq_none hbefore).mp
      fun other ↦ h before key value other hinitial
  · rw [interpolate_of_bracesApart (hnamed.perm hperm) (h.perm hperm)]
    exact substitute_perm hnamed hperm.symm text

theorem interpolate_iff_greeting :
    Named [("name", .str "Ann"), ("room", .str "7")] ∧
      BracesApart [("name", .str "Ann"), ("room", .str "7")]
        "Hello \x7b\x7bname\x7d\x7d (\x7b\x7broom\x7d\x7d)" ∧
      interpolate "Hello \x7b\x7bname\x7d\x7d (\x7b\x7broom\x7d\x7d)"
        [("room", .str "7"), ("name", .str "Ann")] =
      substitute [("name", .str "Ann"), ("room", .str "7")]
        "Hello \x7b\x7bname\x7d\x7d (\x7b\x7broom\x7d\x7d)" := by
  have hnamed : Named [("name", .str "Ann"), ("room", .str "7")] := ⟨by decide, by decide⟩
  have hapart : BracesApart [("name", .str "Ann"), ("room", .str "7")]
      "Hello \x7b\x7bname\x7d\x7d (\x7b\x7broom\x7d\x7d)" := ⟨by decide +kernel, by decide⟩
  exact ⟨hnamed, hapart, (interpolate_iff hnamed _).2.2 hapart _ (List.Perm.swap _ _ _)⟩

/-- A value that shows the placeholder of a later parameter is not left as it is, and the order of
the parameters decides. -/
theorem interpolate_nested :
    Named [("y", .str "\x7b\x7bz\x7d\x7d"), ("z", .str "1")] ∧
      interpolate "\x7b\x7by\x7d\x7d\x7b\x7bz\x7d\x7d"
        [("y", .str "\x7b\x7bz\x7d\x7d"), ("z", .str "1")] = "11" ∧
      interpolate "\x7b\x7by\x7d\x7d\x7b\x7bz\x7d\x7d"
        [("z", .str "1"), ("y", .str "\x7b\x7bz\x7d\x7d")] = "\x7b\x7bz\x7d\x7d1" ∧
      substitute [("y", .str "\x7b\x7bz\x7d\x7d"), ("z", .str "1")]
        "\x7b\x7by\x7d\x7d\x7b\x7bz\x7d\x7d" = "\x7b\x7bz\x7d\x7d1" :=
  ⟨⟨by decide, by decide⟩, by decide +kernel, by decide +kernel, by decide +kernel⟩

end Mailroom.Locale
