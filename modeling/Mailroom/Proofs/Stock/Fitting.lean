import Mailroom.Proofs.Payload.Booking
import Mailroom.Proofs.Payload.Normalizing
import Mailroom.Proofs.Template.Fitting
import Mailroom.Stock.Shipped
import Mailroom.Template.Compile
import Mailroom.Template.Renderer

/-!
# The shipped templates fit bookings

Every template that is shipped, and every part, fits the data that it is shown with if the payload
is a booking. The sources are compiled and looked through here, once for each of them. Since texts
are bytes, which it would take long to read one character from, a page is first brought into the
form of a list of characters (`toList_page`).
-/

namespace Mailroom.Stock

open Template

/-! ## Sources as characters -/

/-- The characters of a page that is given by the characters of its lines. -/
def pageChars : List (List Char) → List Char
  | [] => []
  | line :: lines =>
    (line.flatMap fun c ↦
      if c = '⟪' then ['\x7b', '\x7b'] else if c = '⟫' then ['\x7d', '\x7d'] else [c])
    ++ '\n' :: pageChars lines

/-- Lines and their characters. -/
inductive Spelled : List String → List (List Char) → Prop where
  | nil : Spelled [] []
  | cons {cs : List Char} {lines : List String} {rest : List (List Char)}
    (h : Spelled lines rest) : Spelled (String.ofList cs :: lines) (cs :: rest)

theorem toList_page {lines : List String} {chars : List (List Char)} (h : Spelled lines chars) :
    (page lines).toList = pageChars chars := by
  induction h with
  | nil => rfl
  | cons _ ih =>
    unfold page at ih ⊢
    rw [List.map_cons, String.join_cons, String.toList_append, ih, String.toList_append,
      String.toList_ofList, String.toList_ofList, pageChars, List.append_assoc]
    rfl

/-- Reading a source that is given by its characters. -/
def compileChars (name : Option String) (cs : List Char) : Except CompileError Compiled :=
  match piecesFrom name.isSome (cs.length + 1) { rest := cs } with
  | none => .error .notATemplate
  | some ps =>
    if !matched [] ps then .error .notATemplate
    else do
      let w ← ps.foldlM Workbench.add {}
      return { name, body := w.body }

theorem compile_eq {source : String} {cs : List Char} (h : source.toList = cs)
    (name : Option String) : compile name source = compileChars name cs := by
  rw [compile, pieces, ← String.length_toList, h]
  rfl

/-! ## The data of a booking -/

/-- The kinds of the members of a booking, and of what is put beside them. -/
def bookingMember : String → Kind
  | "flights" => .list (.record fun _ ↦ .any)
  | "passengers" => .list (.record fun _ ↦ .any)
  | "travellers" => .list (.record fun _ ↦ .any)
  | "rooms" => .list (.record fun
    | "guests" => .list (.record fun _ ↦ .any)
    | _ => .any)
  | "priceItems" => .list (.record fun
    | "amount" => .amount
    | _ => .any)
  | "totalAmount" => .amount
  | "__meta" => .record fun _ ↦ .any
  | _ => .any

/-- The kind of the data that templates are shown with if the payload is a booking. -/
def bookingKind : Kind := .record bookingMember

theorem record_any_holds (ms : Json.Members) : (Kind.record fun _ ↦ .any).Holds (.obj ms) :=
  ⟨ms, rfl, fun _ ↦ trivial⟩

/-- The members of a normalized booking are of their kinds. -/
theorem bookingMember_holds {payload : Json.Members} (h : Payload.IsBooking payload) {name : String}
    (hname : name ≠ presentationKey) :
    (bookingMember name).Holds (((Payload.reconcile payload).get? name).getD .null) := by
  have hlist {P : Json.Members → Prop} {name : String} (hname : name ∉ Payload.paymentNames)
      (hlist : Payload.IsList P (payload.get? name)) :
      Payload.IsList P ((Payload.reconcile payload).get? name) := by
    rw [Payload.get?_reconcile hname]
    exact hlist
  unfold bookingMember
  split
  · exact (hlist (by decide) h.flights).holds fun ms _ ↦ record_any_holds ms
  · exact (hlist (by decide) h.passengers).holds fun ms _ ↦ record_any_holds ms
  · exact (hlist (by decide) h.travellers).holds fun ms _ ↦ record_any_holds ms
  · refine (hlist (by decide) h.rooms).holds fun room hroom ↦ ⟨room, rfl, fun name ↦ ?_⟩
    dsimp only
    split
    · exact hroom.holds fun ms _ ↦ record_any_holds ms
    · trivial
  · refine (hlist (by decide) h.priceItems).holds fun item hitem ↦ ⟨item, rfl, fun name ↦ ?_⟩
    dsimp only
    split
    · exact hitem.holds
    · trivial
  · exact h.totalAmount.holds
  · exact absurd rfl hname
  · trivial

/-- The data that a booking is shown with is of its kind. -/
theorem context_holds (r : Renderer) (locale : String) {payload : Json.Members}
    (h : Payload.IsBooking payload) (now : Int) :
    Journal.Gives now (r.context locale payload) bookingKind.Holds := by
  refine (Payload.normalize_gives payload now).bind ?_
  rintro _ rfl
  refine ((r.store.textsFor_steady locale).gives now).bind fun texts _ ↦ .pure ?_
  refine ⟨_, rfl, fun name ↦ ?_⟩
  rw [Json.Members.get?_insert, Json.Members.get?_insert]
  split
  · rename_i hname
    rw [hname]
    exact record_any_holds _
  · rename_i hname
    split
    · rename_i htexts
      rw [htexts]
      trivial
    · exact bookingMember_holds h hname

/-! ## The sources -/

/-- The parts that are shipped, with their sources. -/
def parts : List (String × String) := [
  ("footer", footer), ("header", header), ("payment", payment)]

/-- The messages that are sent out of the box: their keys, with the sources of their templates. -/
def messages : List (String × String) := [
  ("flight-details", flightDetails),
  ("flight-ticket", flightTicket),
  ("hotel-reservation", hotelReservation),
  ("package-reservation", packageReservation),
  ("password-reset", passwordReset),
  ("reservation-confirmation", reservationConfirmation),
  ("transfer-reservation", transferReservation),
  ("welcome", welcome)]

/-- How many bodies are one inside of the other in a message, and in the parts that it puts in. -/
def messageDepth : Nat := 16

/-- A source can be read, and what is read fits bookings, with at most `n` bodies one inside of the
other. -/
def Fits (parts : List String) (n : Nat) (name : Option String) (source : String) : Prop :=
  ∃ t, compile name source = .ok t ∧ fits bookingKind parts n none t.body = true

/-- Whether a source that is given by its characters fits. -/
def fitsChars (parts : List String) (n : Nat) (name : Option String) (cs : List Char) : Bool :=
  match compileChars name cs with
  | .ok t => fits bookingKind parts n none t.body
  | .error _ => false

/-- Whether what is read from a source that is given by its characters passes a check. -/
def passesChars (check : Compiled → Bool) (name : Option String) (cs : List Char) : Bool :=
  match compileChars name cs with
  | .ok t => check t
  | .error _ => false

/-- A check of a page is made on its characters. -/
theorem passes_page {check : Compiled → Bool} {name : Option String} {lines : List String}
    {chars : List (List Char)} (hchars : Spelled lines chars)
    (h : passesChars check name (pageChars chars) = true) :
    ∃ t, compile name (page lines) = .ok t ∧ check t = true := by
  unfold passesChars at h
  rw [compile_eq (toList_page hchars)]
  split at h
  · exact ⟨_, ‹_›, h⟩
  · cases h

theorem fits_page {parts : List String} {n : Nat} {name : Option String} {lines : List String}
    {chars : List (List Char)} (hchars : Spelled lines chars)
    (h : fitsChars parts n name (pageChars chars) = true) : Fits parts n name (page lines) :=
  passes_page hchars h

theorem parts_fit : ∀ p ∈ parts, Fits [] partDepth (some p.1) p.2 := by
  refine List.forall_iff_forall_mem.mp ⟨?_, ?_, ?_⟩
  all_goals exact fits_page (by repeat' constructor) (by decide +kernel)

theorem messages_fit : ∀ m ∈ messages, Fits (parts.map Prod.fst) messageDepth none m.2 := by
  refine List.forall_iff_forall_mem.mp ⟨?_, ?_, ?_, ?_, ?_, ?_, ?_, ?_⟩
  all_goals exact fits_page (by repeat' constructor) (by decide +kernel)

end Mailroom.Stock
