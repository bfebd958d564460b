import Mailroom.Proofs.Payload.Normalizing

/-!
# Logos that stay

A payload may name a logo in several places, and normalizing it judges only the first that says
something. If that one leads elsewhere, all of them are removed; if it does not, the others stay as
they are, whatever they lead to (`safeLogos_normalize`).

A logo that is kept stays on the same site as it is written. A browser leaves tabulators and line
breaks out before it reads a reference, and so a logo stays as it is read if and only if no slash is
hidden behind them (`staysHere_parsed_iff`).
-/

namespace Mailroom.Payload

variable {payload : Json.Members} {s : String} {cs : List Char}

/-! ## Every logo of a payload -/

/-- A value that says nothing, or a logo that does not lead elsewhere. -/
def Harmless (c : Option Json) : Prop := SaysNothing c ∨ ∃ v, c = some v ∧ isSafeLogo v = true

/-- No logo leads elsewhere, under whatever name it stands. -/
def SafeLogos (payload : Json.Members) : Prop := ∀ c ∈ candidates payload .logo, Harmless c

theorem candidates_logo (payload : Json.Members) :
    candidates payload .logo =
      payload.get? Detail.logo.name :: (candidates payload .logo).tail := by
  rw [candidates, aliases_eq]
  rfl

theorem safeLogos_iff : SafeLogos payload ↔
    Harmless (payload.get? Detail.logo.name) ∧
      ∀ c ∈ (candidates payload .logo).tail, Harmless c := by
  rw [SafeLogos, candidates_logo, List.forall_mem_cons]
  rfl

/-- The logo that is judged first is harmless, or it leads away. -/
theorem harmless_get?_of_not_leadsAway (h : ¬ LeadsAway payload) :
    Harmless (payload.get? Detail.logo.name) := by
  by_cases hnothing : SaysNothing (payload.get? Detail.logo.name)
  · exact .inl hnothing
  cases hv : payload.get? Detail.logo.name with
  | none => exact absurd (.inl hv) hnothing
  | some v =>
    rw [hv] at hnothing
    have hfirst := detail?_eq_some_iff.mp (detail?_of_get?_name hv hnothing)
    exact .inr ⟨v, rfl, isSafeLogo_of_not_leadsAway h hfirst⟩

/-- The logo that templates show is harmless. -/
theorem harmless_get?_reconcile (payload : Json.Members) :
    Harmless ((reconcile payload).get? Detail.logo.name) := by
  by_cases haway : LeadsAway payload
  · exact .inl (.inl (get?_reconcile_of_leadsAway haway (by decide)))
  rcases logo_normalized haway with ⟨v, -, hsafe, hv⟩ | ⟨-, heq⟩
  · exact .inr ⟨v, hv, hsafe⟩
  · rw [heq]
    exact harmless_get?_of_not_leadsAway haway

/-- The other logos are not even looked at. -/
theorem tail_candidates_reconcile (h : ¬ LeadsAway payload) :
    (candidates (reconcile payload) .logo).tail = (candidates payload .logo).tail := by
  have hpayment : payment? (reconcile payload) = payment? payload := by
    rw [payment?, get?_reconcile_payment_of_not_leadsAway h, payment?]
  have hothers : Detail.logo.aliases.tail.map (reconcile payload).get? =
      Detail.logo.aliases.tail.map payload.get? := by
    refine List.map_congr_left fun name hname ↦ get?_reconcile_of_ne (fun d heq ↦ ?_) (absurd · h)
    have hd := eq_of_name_mem .logo d (List.mem_append_left _ (heq ▸ List.mem_of_mem_tail hname))
    rw [heq, hd] at hname
    exact absurd hname (by decide)
  have htail (p : Json.Members) : (candidates p .logo).tail = Detail.logo.aliases.tail.map p.get? ++
      (payment? p).elim [] (fun payment ↦ Detail.logo.nestedAliases.map payment.get?) ++
        Detail.logo.standIns.map p.get? := rfl
  rw [htail, htail, hothers, hpayment]
  rfl

/-- After a payload was normalized no logo leads elsewhere if the first one did, and then they are
all removed, or if none did before. -/
theorem safeLogos_normalize (payload : Json.Members) (journal : Journal) :
    SafeLogos ((normalize payload).run journal).1 ↔ LeadsAway payload ∨ SafeLogos payload := by
  rw [normalize_fst]
  by_cases haway : LeadsAway payload
  · refine iff_of_true (fun c hc ↦ .inl ?_) (.inl haway)
    exact detail?_eq_none_iff.mp (detail?_reconcile_of_leadsAway haway) c hc
  · rw [or_iff_right haway, safeLogos_iff, safeLogos_iff, tail_candidates_reconcile haway,
      and_iff_right (harmless_get?_reconcile payload),
      and_iff_right (harmless_get?_of_not_leadsAway haway)]

/-- The logo on another host stays under its name behind the one that is sent along. -/
theorem not_safeLogos_sentAlong :
    ¬ SafeLogos ((normalize [("cardLogo", .str "https://elsewhere.example/a.png"),
      ("cardLogoUrl", .str "cid:visa")]).run {}).1 := by
  rw [normalize_fst]
  intro h
  rcases h _ (mem_candidates_iff.mpr (.inl ⟨"cardLogo", by decide, rfl⟩)) with
    hnothing | ⟨v, hv, hsafe⟩
  · have hsays : ¬ SaysNothing (some (.str "https://elsewhere.example/a.png")) := by
      simp [SaysNothing]
    exact hsays hnothing
  · obtain rfl := Option.some.inj hv
    exact absurd hsafe (by decide)

/-! ## Logos as browsers read them -/

/-- A character that a browser leaves out of a reference. -/
def isLeftOut (c : Char) : Bool := c = '\t' || c = '\n' || c = '\r'

/-- A reference as a browser reads it. -/
def parsed (s : String) : List Char := s.toList.filter fun c ↦ !isLeftOut c

/-- A reference to an image that is sent along, or to a path on the same site. -/
def StaysHere (cs : List Char) : Prop :=
  ['c', 'i', 'd', ':'] <+: cs ∨ ['d', 'a', 't', 'a', ':'] <+: cs ∨
    ∃ rest, cs = '/' :: rest ∧ rest.head? ≠ some '/' ∧ rest.head? ≠ some '\\'

/-- A slash, and behind it a slash or a backslash that comes next when a browser reads them. -/
def HidesHost (s : String) : Prop :=
  ∃ gap c rest, s.toList = '/' :: (gap ++ c :: rest) ∧ (∀ b ∈ gap, isLeftOut b = true) ∧
    (c = '/' ∨ c = '\\')

theorem staysHere_slash {rest : List Char} :
    StaysHere ('/' :: rest) ↔ rest.head? ≠ some '/' ∧ rest.head? ≠ some '\\' := by
  simp [StaysHere]

theorem isSafeLogo_iff : isSafeLogo (.str s) = true ↔ StaysHere s.toList := by
  unfold isSafeLogo
  dsimp only
  split
  · rename_i heq
    simp [heq, staysHere_slash]
  · rename_i heq
    simp [heq, staysHere_slash]
  · rename_i rest hslash hbackslash heq
    rw [heq, staysHere_slash]
    refine iff_of_true rfl ⟨fun hhead ↦ ?_, fun hhead ↦ ?_⟩
    · obtain ⟨rest', rfl⟩ := List.head?_eq_some_iff.mp hhead
      exact hslash rest' rfl
    · obtain ⟨rest', rfl⟩ := List.head?_eq_some_iff.mp hhead
      exact hbackslash rest' rfl
  · rename_i hslash
    rw [Bool.or_eq_true, List.isPrefixOf_iff_prefix, List.isPrefixOf_iff_prefix, StaysHere]
    refine or_congr_right (iff_self_or.mpr ?_)
    rintro ⟨rest, heq, -⟩
    exact absurd heq (hslash rest)

/-- A beginning of which nothing is left out stays a beginning. -/
theorem prefix_filter {start : List Char} (hstart : start.filter (fun c ↦ !isLeftOut c) = start)
    (h : start <+: cs) : start <+: cs.filter fun c ↦ !isLeftOut c := by
  obtain ⟨rest, rfl⟩ := h
  rw [List.filter_append, hstart]
  exact List.prefix_append _ _

theorem hidesHost_iff {rest : List Char} (h : s.toList = '/' :: rest) :
    HidesHost s ↔ (rest.filter fun c ↦ !isLeftOut c).head? = some '/' ∨
      (rest.filter fun c ↦ !isLeftOut c).head? = some '\\' := by
  have hhead (c : Char) (hc : isLeftOut c = false) :
      (rest.filter fun c ↦ !isLeftOut c).head? = some c ↔
        ∃ gap left, rest = gap ++ c :: left ∧ ∀ b ∈ gap, isLeftOut b = true := by
    simp [List.head?_filter, List.find?_eq_some_iff_append, hc]
  rw [HidesHost, hhead '/' rfl, hhead '\\' rfl, h]
  constructor
  · rintro ⟨gap, c, left, heq, hgap, rfl | rfl⟩
    · exact .inl ⟨gap, left, (List.cons.inj heq).2, hgap⟩
    · exact .inr ⟨gap, left, (List.cons.inj heq).2, hgap⟩
  · rintro (⟨gap, left, rfl, hgap⟩ | ⟨gap, left, rfl, hgap⟩)
    · exact ⟨gap, _, left, rfl, hgap, .inl rfl⟩
    · exact ⟨gap, _, left, rfl, hgap, .inr rfl⟩

/-- A reference that stays here as it is written stays here as it is read, unless it hides a
host. -/
theorem staysHere_parsed_iff (h : StaysHere s.toList) : StaysHere (parsed s) ↔ ¬ HidesHost s := by
  -- A host is hidden behind a slash only.
  have hnone {c : Char} {start : List Char} (hc : c ≠ '/') (hbegins : c :: start <+: s.toList) :
      ¬ HidesHost s := by
    rintro ⟨gap, c', rest, heq, -⟩
    rw [heq] at hbegins
    exact hc (List.cons_prefix_cons.mp hbegins).1
  rcases h with hcid | hdata | ⟨rest, heq, -⟩
  · exact iff_of_true (.inl (prefix_filter rfl hcid)) (hnone (by decide) hcid)
  · exact iff_of_true (.inr (.inl (prefix_filter rfl hdata))) (hnone (by decide) hdata)
  · have hparsed : parsed s = '/' :: rest.filter fun c ↦ !isLeftOut c := by
      rw [parsed, heq]
      rfl
    rw [hparsed, staysHere_slash, hidesHost_iff heq, not_or]

/-- A logo that is kept stays here as a browser reads it if and only if it hides no host behind
tabulators and line breaks. -/
theorem staysHere_parsed_normalize {journal : Journal}
    (h : ((normalize payload).run journal).1.get? Detail.logo.name = some (.str s)) (hs : s ≠ "") :
    StaysHere (parsed s) ↔ ¬ HidesHost s := by
  rw [normalize_fst] at h
  have hharmless := harmless_get?_reconcile payload
  rw [h] at hharmless
  rcases hharmless with hnothing | ⟨v, hv, hsafe⟩
  · simp [SaysNothing, hs] at hnothing
  · obtain rfl := Option.some.inj hv
    exact staysHere_parsed_iff (isSafeLogo_iff.mp hsafe)

theorem staysHere_parsed_normalize_visa :
    ((normalize [("cardLogo", .str "/img/visa.png")]).run {}).1.get? Detail.logo.name =
        some (.str "/img/visa.png") ∧
      "/img/visa.png" ≠ "" ∧
      (StaysHere (parsed "/img/visa.png") ↔ ¬ HidesHost "/img/visa.png") := by
  have hlogo : ((normalize [("cardLogo", .str "/img/visa.png")]).run {}).1.get? Detail.logo.name =
      some (.str "/img/visa.png") := by
    rw [normalize_fst]
    rfl
  exact ⟨hlogo, by decide, staysHere_parsed_normalize hlogo (by decide)⟩

/-- A tabulator hides the second slash. -/
theorem not_staysHere_tabulator :
    ((normalize [("cardLogoUrl", .str "/\t/elsewhere.example/a.png")]).run {}).1.get?
        Detail.logo.name = some (.str "/\t/elsewhere.example/a.png") ∧
      parsed "/\t/elsewhere.example/a.png" = "//elsewhere.example/a.png".toList ∧
      ¬ StaysHere (parsed "/\t/elsewhere.example/a.png") := by
  refine ⟨?_, by decide, ?_⟩
  · rw [normalize_fst]
    rfl
  · rw [staysHere_parsed_iff (isSafeLogo_iff.mp (by decide)), not_not]
    exact ⟨['\t'], '/', _, rfl, List.forall_mem_singleton.mpr rfl, .inl rfl⟩

end Mailroom.Payload
