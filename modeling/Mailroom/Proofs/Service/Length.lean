import Mailroom.Proofs.Number.Digits
import Mailroom.Proofs.Service.Admission

/-!
# How long a body may be

A body that is longer than the limit is not read. If the request declares the length of its body,
then it is turned away at once. If it does not, then the length is only found out while the body is
read, behind the key, and the answer is the one to a body that cannot be read (`serve_long`).
-/

namespace Mailroom.Service

open Http (Request Response)
open Journal (Gives)
open Number (IsDigits digitsValue natText)

variable {now : Int} {s s' : Service} {r : Request} {ds : List Char} {m n limit : Nat}
  {segment : String}

/-! ## Declared lengths -/

/-- One digit more of a number that is counted. -/
def countDigit (n? : Option Nat) (c : Char) : Option Nat := do
  let n := 10 * (← n?) + (← Net.Ip.decimal? c)
  if n < Nat.pow 2 64 then some n else none

/-- A text without a sign is counted digit by digit. -/
theorem countOf?_eq_foldl {text : String} {d : Char} (htext : text.toList = d :: ds)
    (hsign : d ≠ '+') : countOf? text = (d :: ds).foldl countDigit (some 0) := by
  unfold countOf?
  rw [htext]
  split
  · rename_i heq
    exact absurd (List.cons.inj heq).1 hsign
  · rfl

theorem countDigit_of_isDigit {c : Char} (h : c.isDigit = true) :
    countDigit (some m) c =
      if digitsValue m [c] < 2 ^ 64 then some (digitsValue m [c]) else none := by
  have hvalue : digitsValue m [c] = 10 * m + (c.toNat - '0'.toNat) := by
    rw [Nat.mul_comm]
    rfl
  rw [hvalue, countDigit, Net.Ip.decimal?, if_pos h]
  rfl

theorem le_digitsValue (ds : List Char) (m : Nat) : m ≤ digitsValue m ds := by
  induction ds generalizing m with
  | nil => exact Nat.le_refl m
  | cons d ds ih =>
    calc m ≤ m * 10 + (d.toNat - '0'.toNat) := by omega
      _ ≤ digitsValue m (d :: ds) := ih _

theorem foldl_countDigit_none (ds : List Char) : ds.foldl countDigit none = none := by
  induction ds with
  | nil => rfl
  | cons d ds ih => exact ih

/-- Digits are counted as the number that they stand for, unless that is too large. -/
theorem foldl_countDigit (hds : IsDigits ds) (hm : m < 2 ^ 64) :
    ds.foldl countDigit (some m) =
      if digitsValue m ds < 2 ^ 64 then some (digitsValue m ds) else none := by
  induction ds generalizing m with
  | nil => exact (if_pos hm).symm
  | cons d ds ih =>
    obtain ⟨hd, hds⟩ := Number.isDigits_cons.mp hds
    rw [List.foldl_cons, countDigit_of_isDigit hd]
    change _ = if digitsValue (digitsValue m [d]) ds < 2 ^ 64
      then some (digitsValue (digitsValue m [d]) ds) else none
    by_cases hsmall : digitsValue m [d] < 2 ^ 64
    · rw [if_pos hsmall, ih hds hsmall]
    · have hlarge := le_digitsValue ds (digitsValue m [d])
      rw [if_neg hsmall, foldl_countDigit_none, if_neg (by omega)]

theorem countOf?_toString (n : Nat) :
    countOf? (toString n) = if n < 2 ^ 64 then some n else none := by
  have hdigits := Number.isDigits_natText n
  have htext : (toString n).toList = natText n := by
    rw [Nat.toString_eq_ofList_toDigits, String.toList_ofList]
    rfl
  obtain ⟨d, ds, hds⟩ := List.exists_cons_of_ne_nil (Number.natText_ne_nil n)
  have hplus : d ≠ '+' := by
    rintro rfl
    rw [hds] at hdigits
    cases (Number.isDigits_cons.mp hdigits).1
  have hzero : 0 < 2 ^ 64 := by decide
  rw [countOf?_eq_foldl (htext.trans hds) hplus, ← hds, foldl_countDigit hdigits hzero,
    Number.digitsValue_natText]

/-- A number can be shown in a header. -/
theorem isVisible_toString (n : Nat) : (toString n).toList.all Http.isVisible = true := by
  rw [Nat.toString_eq_ofList_toDigits, String.toList_ofList, List.all_eq_true]
  intro c hc
  obtain ⟨hlow, hhigh⟩ := Char.isDigit_iff_toNat.mp (Number.isDigits_natText n c hc)
  have hzero : '0'.toNat = 48 := rfl
  have hnine : '9'.toNat = 57 := rfl
  simp only [Http.isVisible, Bool.or_eq_true, Bool.and_eq_true, decide_eq_true_eq]
  omega

/-- The request declares no length, or the length that its body has. -/
def DeclaresTruly (r : Request) : Prop :=
  r.header? "content-length" = none ∨
    r.header? "content-length" = some (toString r.body.utf8ByteSize)

/-- The request declares a length, and it can be counted. -/
def DeclaresLength (r : Request) : Prop :=
  r.header? "content-length" ≠ none ∧ r.body.utf8ByteSize < 2 ^ 64

theorem isTooLong_iff (h : DeclaresTruly r) :
    isTooLong limit r = true ↔ DeclaresLength r ∧ limit < r.body.utf8ByteSize := by
  obtain hnone | hsome := h
  · rw [isTooLong, declaredLength?, Request.visible?, hnone]
    exact iff_of_false nofun fun h ↦ h.1.1 hnone
  · rw [isTooLong, declaredLength?, Request.visible?, hsome, Option.filter_some,
      if_pos (isVisible_toString _), Option.bind_some, countOf?_toString, DeclaresLength, hsome]
    split
    · rename_i hcounted
      rw [Option.any_some, decide_eq_true_iff]
      exact (and_iff_right ⟨nofun, hcounted⟩).symm
    · rename_i hlarge
      exact iff_of_false nofun fun h ↦ hlarge h.1.2

/-! ## Bodies that are read -/

/-- No more is read of a body than the limit allows. -/
theorem bodyBound_le (limit : Nat) (r : Request) : bodyBound limit r ≤ limit :=
  (Nat.min_le_left _ _).trans (Nat.min_le_left _ _)

theorem documentOf_long (h : limit < r.body.utf8ByteSize) :
    ∃ reason, documentOf limit r = .error reason ∧
      (declaresJson r = true →
        reason = "Failed to buffer the request body: length limit exceeded") := by
  unfold documentOf
  cases declaresJson r with
  | false => exact ⟨_, rfl, nofun⟩
  | true =>
    rw [if_neg (by decide), if_pos ((bodyBound_le limit r).trans_lt h)]
    exact ⟨_, rfl, fun _ ↦ rfl⟩

/-- The answer to a body that is longer than what is read of it. -/
def unread : Failure :=
  refusal [⟨[], "Failed to buffer the request body: length limit exceeded"⟩]

theorem sendFor_long (fresh : Mail.Fresh) (key : String)
    (h : s.settings.server.bodyLimit < r.body.utf8ByteSize) :
    Gives now ((sendFor fresh key r).run s) fun o ↦
      o.2 = s ∧ ∃ reason, o.1 = .error (refusal [⟨[], reason⟩]) ∧
        (declaresJson r = true → refusal [⟨[], reason⟩] = unread) := by
  obtain ⟨reason, hreason, hjson⟩ := documentOf_long h
  have hsubmitted : Gives now ((submitted r).run s) (· = (.error (refusal [⟨[], reason⟩]), s)) := by
    refine Serving.gives_get ?_
    rw [submissionOf, hreason]
    exact .pure rfl
  refine Serving.gives_bind hsubmitted (fun _ _ hok ↦ nomatch congrArg Prod.fst hok) ?_
  intro e s' he
  obtain ⟨he, hs'⟩ := Prod.mk.inj he
  exact ⟨hs', reason, congrArg Except.error (Except.error.inj he), fun h ↦ by rw [hjson h, unread]⟩

/-- What is asked for by a body that is too long is refused as a mistake of the caller. -/
theorem answerEmail_long (fresh : Fresh) (segment : String)
    (h : s.settings.server.bodyLimit < r.body.utf8ByteSize) :
    Gives now (s.answerEmail fresh segment r) fun o ↦ o.2.status = 400 ∧
      (Http.segmentText? segment ≠ none → declaresJson r = true →
        o.2.body = (unread.response s.production).body) := by
  unfold answerEmail
  cases Http.segmentText? segment with
  | none => exact .pure ⟨rfl, fun h ↦ absurd rfl h⟩
  | some key =>
    refine (sendFor_long fresh.message key h).within.bind ?_
    rintro ⟨_, _⟩ ⟨rfl, reason, rfl, hunread⟩
    refine (answer_eq _ _).bind ?_
    rintro _ rfl
    exact .pure ⟨rfl, fun _ hjson ↦ by rw [hunread hjson]⟩

/-! ## The answer -/

/-- A request to send a message, within the rate limit and with the key, that declares no length or
the right one. It is answered as too long just if its body is longer than the limit and it says so.
If the body is longer than the limit and the request does not say so, then it is answered as a
mistake of the caller, like any body that cannot be read. -/
theorem serve_long {s : Service} {r : Request} {journal : Journal} {segment : String}
    (fresh : Fresh) (hpost : r.method = "POST") (hroute : Route.ofPath r.path = .email segment)
    (hwithin : s.WithinLimit journal.now r) (hadmitted : s.Admitted r)
    (hdeclares : DeclaresTruly r) :
    (((s.serve fresh r).run journal).1.2.status = 413 ↔
      DeclaresLength r ∧ s.settings.server.bodyLimit < r.body.utf8ByteSize) ∧
    (s.settings.server.bodyLimit < r.body.utf8ByteSize → ¬DeclaresLength r →
      ((s.serve fresh r).run journal).1.2.status = 400 ∧
      (Http.segmentText? segment ≠ none → declaresJson r = true →
        ((s.serve fresh r).run journal).1.2.body = (unread.response s.production).body)) := by
  constructor
  · have hmethod : r.method ≠ "OPTIONS" := by
      rw [hpost]
      decide
    obtain ⟨⟨response, ho, hdressed⟩, -⟩ := serve_checked fresh hmethod journal rfl
    rw [hdressed.status_eq, ho.tooLong_iff, isTooLong_iff hdeclares]
  · intro hlong hundeclared
    have hlength : isTooLong s.settings.server.bodyLimit r = false :=
      Bool.eq_false_iff.mpr fun h ↦ hundeclared ((isTooLong_iff hdeclares).mp h).1
    have hprotected : (Route.ofPath r.path).isProtected = true := by
      rw [hroute]
      rfl
    refine (serve_passes (Q := fun status body ↦ status = 400 ∧
      (Http.segmentText? segment ≠ none → declaresJson r = true →
        body = (unread.response s.production).body))
      hpost hlength hprotected hwithin hadmitted (fun s' hs' ↦ ?_) journal rfl).1
    have hlong' : s'.settings.server.bodyLimit < r.body.utf8ByteSize := by
      rwa [show s'.settings = s.settings from congrArg Prod.fst hs']
    have hproduction : s'.production = s.production := congrArg (fun setup ↦ setup.2.1) hs'
    rw [hroute, answerRoute, hpost, ← hproduction]
    exact answerEmail_long fresh segment hlong'

/-- A service that takes bodies of a few bytes, however many of them. -/
def tightService : Service :=
  { noteService with
    settings := { server := { bodyLimit := 16 }, api := { key := some "secret" } }
    limiter := { settings := { enabled := false } } }

/-- A request that declares the length of its body. -/
def declaring (r : Request) : Request :=
  { r with headers := ("content-length", toString r.body.utf8ByteSize) :: r.headers }

theorem declaring_declaresTruly (r : Request) : DeclaresTruly (declaring r) :=
  .inr List.lookup_cons_self

theorem tightService_admitted : tightService.Admitted (noteRequest "secret") :=
  ⟨"secret", rfl, by decide, by decide +kernel⟩

/-- The request that declares its length is too long, and the same request without that is a
mistake. -/
theorem serve_long_noteRequest :
    ((tightService.serve ⟨"first", "1", "a"⟩ (declaring (noteRequest "secret"))).run
      {}).1.2.status = 413 ∧
    ((tightService.serve ⟨"first", "1", "a"⟩ (noteRequest "secret")).run {}).1.2.status = 400 := by
  have hroute : Route.ofPath (noteRequest "secret").path = .email "note" := by decide +kernel
  have hroute' : Route.ofPath (declaring (noteRequest "secret")).path = .email "note" := hroute
  have hwithin (r : Request) : tightService.WithinLimit ({} : Journal).now r := .inl rfl
  have hlong : tightService.settings.server.bodyLimit <
    (noteRequest "secret").body.utf8ByteSize := by decide +kernel
  have hadmitted : tightService.Admitted (declaring (noteRequest "secret")) :=
    ⟨"secret", rfl, by decide, by decide +kernel⟩
  have hdeclares : DeclaresLength (declaring (noteRequest "secret")) := by
    refine ⟨?_, by decide +kernel⟩
    rw [Request.header?, declaring, List.lookup_cons_self]
    exact nofun
  have hnone : (noteRequest "secret").header? "content-length" = none := by decide +kernel
  constructor
  · exact (serve_long ⟨"first", "1", "a"⟩ rfl hroute' (hwithin _) hadmitted
      (declaring_declaresTruly _)).1.mpr ⟨hdeclares, hlong⟩
  · exact ((serve_long ⟨"first", "1", "a"⟩ rfl hroute (hwithin _) tightService_admitted
      (.inl hnone)).2 hlong fun h ↦ h.1 hnone).1

/-- A body that is longer than the limit is not answered as too long if its length is not
declared. -/
theorem serve_long_undeclared :
    (noteRequest "secret").method = "POST" ∧
    Route.ofPath (noteRequest "secret").path = .email "note" ∧
    tightService.WithinLimit ({} : Journal).now (noteRequest "secret") ∧
    tightService.Admitted (noteRequest "secret") ∧
    (noteRequest "secret").header? "content-length" = none ∧
    tightService.settings.server.bodyLimit < (noteRequest "secret").body.utf8ByteSize ∧
    ((tightService.serve ⟨"first", "1", "a"⟩ (noteRequest "secret")).run {}).1.2.status ≠ 413 :=
  ⟨rfl, by decide +kernel, .inl rfl, tightService_admitted, by decide +kernel, by decide +kernel,
    by decide +kernel⟩

end Mailroom.Service
