import Mailroom.Proofs.Settings.Layers

/-!
# Settings from the environment

The variable of a setting has the name of the section and the name of the setting, in capital
letters and with an underscore between them. Each underscore parts two names, so that the variable
of a setting whose name has several words leads to no setting, or past one (`path_variableName`).
Hence a variable sets just its setting exactly if the name is of one word and the value outlasts its
text (`load_eq_update_iff`). A text does if it is written as it would be written anew
(`load_text_iff_verbatim`).
-/

namespace Mailroom.Settings

open Node

variable {f g : Field}

namespace Field

/-- The name of the variable that is to set a setting. -/
def variableName (f : Field) : String := (f.group.name ++ "_" ++ f.name).toUpper

/-- The words of the name of a setting, the first one apart. -/
def words : Field → String × List String
  | corsOrigins => ("cors", ["origins"])
  | bodyLimit => ("body", ["limit", "bytes"])
  | senderName => ("from", ["name"])
  | cleanupInterval => ("cleanup", ["interval", "seconds"])
  | recordLifetime => ("bucket", ["ttl", "seconds"])
  | serviceName => ("service", ["name"])
  | samplingRatio => ("sampling", ["ratio"])
  | f => (f.name, [])

/-- The name of a setting is a single word. -/
def IsSingle (f : Field) : Prop := f.words.2 = []

instance : DecidablePred IsSingle := fun f ↦ inferInstanceAs (Decidable (f.words.2 = []))

/-- The name of a variable leads to the section, and on from word to word. -/
theorem path_variableName (f : Field) : pathOf (settingName f.variableName) =
    .entry f.group.name :: .entry f.words.1 :: f.words.2.map .entry := by
  cases f <;> decide +kernel

theorem lower_name (f : Field) :
    Text.lower f.group.name = f.group.name ∧ Text.lower f.words.1 = f.words.1 := by
  cases f <;> decide +kernel

theorem variableName_ne (f : Field) : "RUN_MODE" ≠ f.variableName := by cases f <;> decide +kernel

/-- The first word of a name is the name of no other setting of the group, but for the name of the
sender. -/
theorem eq_of_name_eq (f : Field) : ∀ g ∈ f.group.fields, g.name = f.words.1 →
    g = f ∧ f.IsSingle ∨ f = senderName ∧ g = sender := by
  cases f <;> decide

end Field

theorem Field.name_eq_of_isSingle (h : f.IsSingle) : f.name = f.words.1 := by
  cases f <;> first | rfl | exact absurd h (by decide)

theorem Field.kind_of_isSingle (h : f.IsSingle) : f.kind ≠ .texts ∧ f.kind ≠ .fraction := by
  cases f <;> first | decide | exact absurd h (by decide)

/-- Another setting of the group has another name than the first word. -/
theorem Field.name_ne (hf : f ≠ senderName) (hg : g.group = f.group) (hne : g ≠ f) :
    g.name ≠ f.words.1 := by
  intro hname
  obtain ⟨heq, -⟩ | ⟨heq, -⟩ := f.eq_of_name_eq g (hg ▸ g.mem_fields) hname
  · exact hne heq
  · exact hf heq

/-- No setting of the group has the first word of a longer name, but for that of the sender. -/
theorem Field.name_ne_of_not_isSingle (hf : f ≠ senderName) (h : ¬f.IsSingle)
    (hg : g.group = f.group) : g.name ≠ f.words.1 := by
  intro hname
  obtain ⟨-, hsingle⟩ | ⟨heq, -⟩ := f.eq_of_name_eq g (hg ▸ g.mem_fields) hname
  · exact h hsingle
  · exact hf heq

theorem Group.name_injective : Group.name.Injective := by
  intro g g' h
  cases g <;> cases g' <;> first | rfl | exact absurd h (by decide)

/-! ## Values and their texts -/

/-- The text that is to stand for a value. -/
def Value.shown : Value → String
  | absent => ""
  | text s => s
  | flag b => toString b
  | number n => toString n
  | fraction x => String.ofList (Number.plainText x)
  | texts ss => ",".intercalate ss

/-- A value may be given to a setting. -/
def Kind.Admits : Kind → Value → Prop
  | text, .text _ | optionalText, .text _ | flag, .flag _ | fraction, .fraction _
  | texts, .texts _ => True
  | natural width, .number n => n < 2 ^ width
  | _, _ => False

/-- A value outlasts its text. Texts have to be written as they would be written anew; numbers that
do not fit into 64 bits with a sign become fractions for a while. -/
def Value.Outlasts : Value → Prop
  | text s => Verbatim s
  | number n => n < 2 ^ 63 ∨ (Number.nearest false n 0).round.toUInt64.toNat = n
  | _ => True

theorem read_text {k : Kind} (hk : k = .text ∨ k = .optionalText) {v : Node} {spelled : String}
    (h : v.text = .ok spelled) : k.read v = .ok (.text spelled) := by
  obtain rfl | rfl := hk
  · rw [Kind.read, h]
    rfl
  · have habsent : v.isAbsent = false := by
      unfold isAbsent
      split
      · cases h
      · rfl
    change ((if v.isAbsent then .ok none else v.text.map some).map Value.ofText?) = _
    rw [habsent, h]
    rfl

theorem read_natural_iff {width n : Nat} (hn : n < 2 ^ width) :
    (Kind.natural width).read (variableNode (toString n)) = .ok (.number n) ↔
      (Value.number n).Outlasts := by
  have hread {v : Node} {m : Nat} (hv : v.word = .ok m) :
      (Kind.natural width).read v = .ok (.number n) ↔ m = n := by
    rw [Kind.read, natural, hv, map_eq_ok]
    constructor
    · rintro ⟨m', hm', ⟨⟩⟩
      obtain ⟨_, ⟨⟩, hm'⟩ := bind_eq_ok.mp hm'
      split at hm'
      · exact Except.ok.inj hm'
      · cases hm'
    · rintro rfl
      exact ⟨m, if_pos hn, rfl⟩
  rw [Value.Outlasts, variableNode, scalarOf_toString]
  by_cases hlt : n < 2 ^ 63
  · have hword : word (.scalar (some "the environment") (.int n)) = .ok n := by
      rw [word, if_pos (Int.natCast_nonneg n)]
      rfl
    rw [if_pos hlt, hread hword]
    exact iff_of_true rfl (.inl hlt)
  · rw [if_neg hlt, hread rfl]
    exact (or_iff_right hlt).symm

/-- The value of a variable is the value whose text it has, if that outlasts it. -/
theorem read_shown_iff {k : Kind} {v : Value} (hv : k.Admits v) (htexts : k ≠ .texts)
    (hfraction : k ≠ .fraction) :
    k.read (variableNode v.shown) = .ok v ↔ v.Outlasts := by
  cases k with
  | text =>
    cases v with
    | text s =>
      obtain ⟨spelled, hspelled, hverbatim⟩ := text_variableNode s
      rw [Value.Outlasts, ← hverbatim, Value.shown, read_text (.inl rfl) hspelled]
      simp
    | absent | flag | number | fraction | texts => cases hv
  | optionalText =>
    cases v with
    | text s =>
      obtain ⟨spelled, hspelled, hverbatim⟩ := text_variableNode s
      rw [Value.Outlasts, ← hverbatim, Value.shown, read_text (.inr rfl) hspelled]
      simp
    | absent | flag | number | fraction | texts => cases hv
  | flag =>
    cases v with
    | flag b =>
      refine iff_of_true ?_ trivial
      rw [Value.shown, variableNode, scalarOf_toString_bool]
      rfl
    | absent | text | number | fraction | texts => cases hv
  | natural width =>
    cases v with
    | number n => exact read_natural_iff hv
    | absent | text | flag | fraction | texts => cases hv
  | fraction => exact absurd rfl hfraction
  | texts => exact absurd rfl htexts

/-! ## Reading beside -/

variable {x y : Node} {s : Settings} {Q : Node → Prop} {w : Value}

/-- Whether a value is a list. -/
def Node.isList : Node → Bool
  | .list _ _ => true
  | _ => false

theorem Group.entries_of_isTable {v : Node} (g : Group) (h : v.IsTable) :
    g.entries v = .ok v.entries := by
  obtain ⟨source, es, rfl⟩ := h
  cases g <;> rfl

theorem Field.read_of_isTable (h : (x.part g.group.name).IsTable) :
    g.read x.entries = match (x.part g.group.name).get? g.name with
      | none => .ok g.usual
      | some v => g.kind.read v := by
  change g.group.entries (x.part g.group.name) >>= g.readIn = _
  rw [Group.entries_of_isTable _ h]
  rfl

namespace Beside

variable (h : Beside f.group.name f.words.1 Q x y)
include h

/-- A setting of another group. -/
theorem read_of_group_ne (hg : g.group ≠ f.group) : g.read y.entries = g.read x.entries := by
  have hpart : y.part g.group.name = x.part g.group.name := by
    rw [part, h.sections _ fun heq ↦ hg (Group.name_injective heq), part]
  change g.group.entries (y.part _) >>= g.readIn = g.group.entries (x.part _) >>= g.readIn
  rw [hpart]

/-- A setting of the same group. -/
theorem read_of_name_ne (hg : g.group = f.group) (hname : g.name ≠ f.words.1)
    (hx : g.read x.entries = .ok w) :
    g.read y.entries = .ok (if (x.part f.group.name).isList then g.usual else w) := by
  have hy := h.isTable
  rw [← hg] at hy
  rw [Field.read_of_isTable hy, hg, h.entries _ hname]
  cases hpart : x.part f.group.name with
  | table source es =>
    have hxtable : (x.part g.group.name).IsTable := by rw [hg, hpart]; exact ⟨source, es, rfl⟩
    rw [Field.read_of_isTable hxtable, hg, hpart] at hx
    exact hx
  | list source vs => rfl
  | scalar source v =>
    have herror : ∃ e, g.group.entries (.scalar source v) = .error e := by
      cases g.group <;> exact ⟨_, rfl⟩
    obtain ⟨e, he⟩ := herror
    change g.group.entries (x.part g.group.name) >>= g.readIn = _ at hx
    rw [hg, hpart, ← hg, he] at hx
    cases hx

/-- The setting that stands where the value is laid. -/
theorem read_of_name_eq (hg : g.group = f.group) (hname : g.name = f.words.1) :
    ∃ v, Q v ∧ g.read y.entries = g.kind.read v := by
  obtain ⟨v, hget, hQ⟩ := h.entry
  have hy := h.isTable
  rw [← hg] at hy
  refine ⟨v, hQ, ?_⟩
  rw [Field.read_of_isTable hy, hg, hname, hget]

end Beside

/-! ## Setting by a variable -/

variable {files : Files.Tree} {before after : Variables} {v : Value}

/-- The section of a group is written as a list. -/
def IsListed (files : Files.Tree) (environment : Variables) (g : Group) : Prop :=
  ∃ x, document files environment = .ok x ∧ (x.part g.name).isList = true

theorem isListed_iff {environment : Variables} (hx : document files environment = .ok x)
    {g : Group} : IsListed files environment g ↔ (x.part g.name).isList = true := by
  constructor
  · rintro ⟨x', hx', hlist⟩
    obtain rfl := Except.ok.inj (hx.symm.trans hx')
    exact hlist
  · exact fun hlist ↦ ⟨x, hx, hlist⟩

/-- There are settings of given values if each of them is read from the document. -/
theorem exists_load_iff {environment : Variables} (hy : document files environment = .ok y)
    (htable : y.IsTable) {values : Field → Value} :
    (∃ s', load files environment = .ok s' ∧ s'.value = values) ↔
      ∀ g : Field, g.read y.entries = .ok (values g) := by
  obtain ⟨source, es, rfl⟩ := htable
  simp only [load_eq, hy, funext_iff]
  change (∃ s', dialect.settings (.table source es) = .ok s' ∧ ∀ g, s'.value g = values g) ↔ _
  exact exists_settings_iff

/-- The document with the variable of a setting is beside the one without it. -/
theorem exists_beside (hs : load files (before ++ after) = .ok s)
    (hafter : ∀ e ∈ after, LeadsElsewhere f.group.name f.words.1 (pathOf (settingName e.1)))
    {text : String} (hQ : ∀ old, Q (place (variableNode text) (f.words.2.map .entry) old)) :
    ∃ x y, document files (before ++ after) = .ok x ∧
      document files (before ++ (f.variableName, text) :: after) = .ok y ∧
      Beside f.group.name f.words.1 Q x y ∧ (∀ g : Field, g.read x.entries = .ok (s.value g)) ∧
      y.IsTable := by
  rw [load_eq, bind_eq_ok] at hs
  obtain ⟨x, hx, hs⟩ := hs
  obtain ⟨hgroup, hword⟩ := f.lower_name
  obtain ⟨y, hy, hbeside, ⟨source, es, rfl⟩, hytable⟩ := exists_document f.variableName_ne
    f.path_variableName hQ (by rw [hgroup, hword]; exact hafter) hx
  rw [hgroup, hword] at hbeside
  exact ⟨_, y, hx, hy, hbeside, settings_eq_ok_iff.mp hs, hytable⟩

/-- A setting by the document with the variable of a setting whose name is a single word. -/
theorem Beside.read_single {text : String} (hf : f.IsSingle)
    (h : Beside f.group.name f.words.1 (· = variableNode text) x y)
    (hread : ∀ g : Field, g.read x.entries = .ok (s.value g)) (g : Field) : g.read y.entries =
      if g = f then f.kind.read (variableNode text)
      else .ok (if g.group = f.group ∧ (x.part f.group.name).isList = true then g.usual
        else s.value g) := by
  by_cases hgf : g = f
  · subst hgf
    obtain ⟨v, rfl, hv⟩ := h.read_of_name_eq rfl (Field.name_eq_of_isSingle hf)
    rw [if_pos rfl, hv]
  · rw [if_neg hgf]
    by_cases hg : g.group = f.group
    · have hsender : f ≠ .senderName := by rintro rfl; exact absurd hf (by decide)
      rw [h.read_of_name_ne hg (Field.name_ne hsender hg hgf) (hread g)]
      simp only [hg, true_and]
    · rw [h.read_of_group_ne hg, hread, if_neg fun hand ↦ hg hand.1]

/-- A setting by the document with the variable of a setting whose name is of several words. -/
theorem Beside.read_several (hf : ¬f.IsSingle) (hsender : f ≠ .senderName)
    (h : Beside f.group.name f.words.1 Q x y)
    (hread : ∀ g : Field, g.read x.entries = .ok (s.value g)) (g : Field) : g.read y.entries =
      .ok (if g.group = f.group ∧ (x.part f.group.name).isList = true then g.usual
        else s.value g) := by
  by_cases hg : g.group = f.group
  · rw [h.read_of_name_ne hg (Field.name_ne_of_not_isSingle hsender hf hg) (hread g)]
    simp only [hg, true_and]
  · rw [h.read_of_group_ne hg, hread, if_neg fun hand ↦ hg hand.1]

/-- The value of a variable whose name leads past an entry makes a table of it. -/
theorem isTable_place (hf : ¬f.IsSingle) (v : Node) (old : Option Node) :
    (place v (f.words.2.map .entry) old).IsTable := by
  obtain ⟨w, ws, hws⟩ := List.exists_cons_of_ne_nil hf
  rw [hws]
  exact isTable_change _

/-- The name of the sender cannot be set, since its variable makes a table of the sender. -/
theorem Beside.not_read_sender (h : Beside Group.smtp.name Field.sender.name IsTable x y) :
    ¬Field.sender.read y.entries = .ok w := by
  obtain ⟨v, ⟨source, es, rfl⟩, hv⟩ := h.read_of_name_eq (f := .senderName) (g := .sender) rfl rfl
  rw [hv]
  exact nofun

section Loading

variable (hs : load files (before ++ after) = .ok s)
  (hafter : ∀ e ∈ after, LeadsElsewhere f.group.name f.words.1 (pathOf (settingName e.1)))
include hs hafter

theorem load_eq_update_iff_of_isSingle (hsingle : f.IsSingle) (hv : f.kind.Admits v) :
    (∃ s', load files (before ++ (f.variableName, v.shown) :: after) = .ok s' ∧
        s'.value = Function.update s.value f v) ↔
      (IsListed files (before ++ after) f.group →
        ∀ g, g ≠ f → g.group = f.group → s.value g = g.usual) ∧ v.Outlasts := by
  have hQ (old : Option Node) :
      place (variableNode v.shown) (f.words.2.map .entry) old = variableNode v.shown := by
    rw [show f.words.2 = [] from hsingle]
    rfl
  obtain ⟨x, y, hx, hy, hbeside, hread, htable⟩ := exists_beside hs hafter
    (Q := (· = variableNode v.shown)) hQ
  obtain ⟨htexts, hfraction⟩ := Field.kind_of_isSingle hsingle
  rw [exists_load_iff hy htable, isListed_iff hx, ← read_shown_iff hv htexts hfraction]
  simp only [hbeside.read_single hsingle hread]
  constructor
  · intro h
    refine ⟨fun hlist g hne hg ↦ ?_, ?_⟩
    · have hok := h g
      rw [if_neg hne, if_pos ⟨hg, hlist⟩, Function.update_of_ne hne] at hok
      exact (Except.ok.inj hok).symm
    · have hok := h f
      rwa [if_pos rfl, Function.update_self] at hok
  · rintro ⟨hlist, hout⟩ g
    by_cases hne : g = f
    · rw [if_pos hne, hne, Function.update_self, hout]
    · rw [if_neg hne, Function.update_of_ne hne]
      by_cases hand : g.group = f.group ∧ (x.part f.group.name).isList = true
      · rw [if_pos hand, hlist hand.2 g hne hand.1]
      · rw [if_neg hand]

theorem load_eq_update_iff_of_not_isSingle (hsingle : ¬f.IsSingle) :
    (∃ s', load files (before ++ (f.variableName, v.shown) :: after) = .ok s' ∧
        s'.value = Function.update s.value f v) ↔
      (IsListed files (before ++ after) f.group →
        ∀ g, g ≠ f → g.group = f.group → s.value g = g.usual) ∧
      f ≠ .senderName ∧ (IsListed files (before ++ after) f.group → f.usual = v) ∧
        (¬IsListed files (before ++ after) f.group → s.value f = v) := by
  obtain ⟨x, y, hx, hy, hbeside, hread, htable⟩ :=
    exists_beside hs hafter (isTable_place hsingle (variableNode v.shown))
  rw [exists_load_iff hy htable, isListed_iff hx]
  by_cases hsender : f = .senderName
  · subst hsender
    exact iff_of_false (fun h ↦ hbeside.not_read_sender (h .sender)) fun h ↦ h.2.1 rfl
  · simp only [hbeside.read_several hsingle hsender hread, Except.ok.injEq]
    constructor
    · intro h
      refine ⟨fun hlist g hne hg ↦ ?_, hsender, fun hlist ↦ ?_, fun hnot ↦ ?_⟩
      · have hok := h g
        rw [if_pos ⟨hg, hlist⟩, Function.update_of_ne hne] at hok
        exact hok.symm
      · have hok := h f
        rwa [if_pos ⟨rfl, hlist⟩, Function.update_self] at hok
      · have hok := h f
        rwa [if_neg fun hand ↦ hnot hand.2, Function.update_self] at hok
    · rintro ⟨hothers, -, hlisted, hkept⟩ g
      by_cases hand : g.group = f.group ∧ (x.part f.group.name).isList = true
      · rw [if_pos hand]
        by_cases hne : g = f
        · rw [hne, Function.update_self, hlisted hand.2]
        · rw [Function.update_of_ne hne, hothers hand.2 g hne hand.1]
      · rw [if_neg hand]
        by_cases hne : g = f
        · subst hne
          rw [Function.update_self, hkept fun hlist ↦ hand ⟨rfl, hlist⟩]
        · rw [Function.update_of_ne hne]

/-- A variable sets just its setting, and to the value whose text it has, exactly under these
conditions. If the section is written as a list, the other settings of the group are as usual, since
the list gives way. If the name of the setting is a single word, the value outlasts its text. If it
is not, the setting is not the name of the sender, and has the value already. -/
theorem load_eq_update_iff (hv : f.kind.Admits v) :
    (∃ s', load files (before ++ (f.variableName, v.shown) :: after) = .ok s' ∧
        s'.value = Function.update s.value f v) ↔
      (IsListed files (before ++ after) f.group →
        ∀ g, g ≠ f → g.group = f.group → s.value g = g.usual) ∧
      (f.IsSingle → v.Outlasts) ∧
      (¬f.IsSingle → f ≠ .senderName ∧ (IsListed files (before ++ after) f.group → f.usual = v) ∧
        (¬IsListed files (before ++ after) f.group → s.value f = v)) := by
  by_cases hsingle : f.IsSingle
  · rw [load_eq_update_iff_of_isSingle hs hafter hsingle hv, forall_prop_of_true hsingle,
      and_iff_left fun hnot ↦ absurd hsingle hnot]
  · rw [load_eq_update_iff_of_not_isSingle hs hafter hsingle, forall_prop_of_true hsingle,
      and_iff_right fun h ↦ absurd h hsingle]

/-- A variable of a text is read. What is read is the text of the variable if this is written as it
would be written anew. -/
theorem load_text_iff_verbatim (hsingle : f.IsSingle)
    (hkind : f.kind = .text ∨ f.kind = .optionalText) (text : String) :
    ∃ s', load files (before ++ (f.variableName, text) :: after) = .ok s' ∧
      (s'.value f = .text text ↔ Verbatim text) := by
  have hQ (old : Option Node) :
      place (variableNode text) (f.words.2.map .entry) old = variableNode text := by
    rw [show f.words.2 = [] from hsingle]
    rfl
  obtain ⟨x, y, hx, hy, hbeside, hread, htable⟩ := exists_beside hs hafter
    (Q := (· = variableNode text)) hQ
  obtain ⟨spelled, hspelled, hverbatim⟩ := text_variableNode text
  have hall (g : Field) : g.read y.entries = .ok (if g = f then .text spelled
      else if g.group = f.group ∧ (x.part f.group.name).isList = true then g.usual
      else s.value g) := by
    rw [hbeside.read_single hsingle hread, read_text hkind hspelled, ← apply_ite]
  obtain ⟨s', hs', hvalues⟩ := (exists_load_iff hy htable).mpr hall
  refine ⟨s', hs', ?_⟩
  rw [hvalues]
  dsimp only
  rw [if_pos rfl, Value.text.injEq]
  exact hverbatim

end Loading

theorem load_eq_update_iff_limit : Field.bodyLimit.variableName = "SERVER_BODY_LIMIT_BYTES" ∧
    ∃ s, load {} ([] ++ []) = .ok s ∧ Field.bodyLimit.kind.Admits (.number 1000) ∧
    (∀ e ∈ ([] : Variables), LeadsElsewhere Field.bodyLimit.group.name Field.bodyLimit.words.1
      (pathOf (settingName e.1))) ∧
    ((∃ s', load {} ([] ++ (Field.bodyLimit.variableName, (Value.number 1000).shown) :: []) =
          .ok s' ∧ s'.value = Function.update s.value .bodyLimit (.number 1000)) ↔
      (IsListed {} ([] ++ []) Field.bodyLimit.group →
        ∀ g, g ≠ .bodyLimit → g.group = Field.bodyLimit.group → s.value g = g.usual) ∧
      (Field.bodyLimit.IsSingle → (Value.number 1000).Outlasts) ∧
      (¬Field.bodyLimit.IsSingle → Field.bodyLimit ≠ .senderName ∧
        (IsListed {} ([] ++ []) Field.bodyLimit.group → Field.bodyLimit.usual = .number 1000) ∧
        (¬IsListed {} ([] ++ []) Field.bodyLimit.group → s.value .bodyLimit = .number 1000))) := by
  have hadmits : Field.bodyLimit.kind.Admits (.number 1000) := by change 1000 < 2 ^ 64; decide
  obtain ⟨s, hs⟩ := exists_of_isOk (show (load {} ([] ++ [])).isOk = true by decide +kernel)
  exact ⟨by decide +kernel, s, hs, hadmits, nofun, load_eq_update_iff hs nofun hadmits⟩

/-- The origins and the limit are not set by their variables, and the name of the sender makes
loading fail. -/
theorem load_of_long_names :
    ((load {} []).toOption.map fun s ↦ s.server.corsOrigins) = some [] ∧
    ((load {} [("SERVER_CORS_ORIGINS", "http://a.example,http://b.example")]).toOption.map fun s ↦
      s.server.corsOrigins) = some [] ∧
    (load {} [("SMTP_FROM_NAME", "Ann")]).isOk = false := by
  decide +kernel

/-! ## Credentials -/

/-- The settings that hold the credentials of callers and of the service, and the addresses that go
with these. -/
def Field.credentials : List Field := [.apiKey, .username, .password, .smtpHost, .sender]

theorem Field.of_mem_credentials (h : f ∈ credentials) :
    f.IsSingle ∧ (f.kind = .text ∨ f.kind = .optionalText) := by
  have hall : ∀ f ∈ credentials, f.IsSingle ∧ (f.kind = .text ∨ f.kind = .optionalText) := by decide
  exact hall f h

/-- Where the variable of a credential is the only one that is set, in the environment and in the
file of variables, there are settings if there are some without it, and they have the text of the
variable exactly if that is written as it would be written anew. -/
theorem load_credential_iff_verbatim (hf : f ∈ Field.credentials) {text : String}
    (hnone : completed files [] = [])
    (hone : completed files [(f.variableName, text)] = [(f.variableName, text)])
    (hs : load files (completed files []) = .ok s) :
    ∃ s', load files (completed files [(f.variableName, text)]) = .ok s' ∧
      (s'.value f = .text text ↔ Verbatim text) := by
  obtain ⟨hsingle, hkind⟩ := Field.of_mem_credentials hf
  rw [hnone] at hs
  rw [hone]
  have halone := load_text_iff_verbatim (show load files ([] ++ []) = .ok s from hs) nofun hsingle
    hkind text
  exact halone

theorem load_credential_iff_verbatim_key : Field.apiKey ∈ Field.credentials ∧
    completed {} [] = [] ∧
    completed {} [(Field.apiKey.variableName, "007")] = [(Field.apiKey.variableName, "007")] ∧
    ∃ s, load {} (completed {} []) = .ok s ∧
      ∃ s', load {} (completed {} [(Field.apiKey.variableName, "007")]) = .ok s' ∧
        (s'.value .apiKey = .text "007" ↔ Verbatim "007") := by
  have hmem : Field.apiKey ∈ Field.credentials := by decide
  have hnone : completed {} [] = [] := by decide +kernel
  have hone : completed {} [(Field.apiKey.variableName, "007")] =
      [(Field.apiKey.variableName, "007")] := by decide +kernel
  obtain ⟨s, hs⟩ := exists_of_isOk (show (load {} (completed {} [])).isOk = true by decide +kernel)
  exact ⟨hmem, hnone, hone, s, hs, load_credential_iff_verbatim hmem hnone hone hs⟩

/-- Keys that read as numbers or as truth values are written anew. -/
theorem load_key_anew : (load {} (completed {} [])).isOk = true ∧
    ((load {} (completed {} [("API_KEY", "007")])).toOption.bind fun s ↦ s.api.key) = some "7" ∧
    ((load {} (completed {} [("API_KEY", "TRUE")])).toOption.bind fun s ↦ s.api.key) =
      some "true" ∧
    ((load {} (completed {} [("API_KEY", "1e3")])).toOption.bind fun s ↦ s.api.key) =
      some "1000" := by
  decide +kernel

end Mailroom.Settings
