import Mailroom.Proofs.Payload.Details
import Mailroom.Proofs.Template.Kind

/-!
# Payloads of bookings

What a payload must be like to be shown by the templates of the service: the lists of flights,
people and prices are lists of objects, and what is shown as an amount of money is one. Nothing is
asked of any other member.

Bringing payment details under their names leaves all members alone that do not bear one of these
names, so the lists are in the normalized payload what they were in the one that was sent.
-/

namespace Mailroom

namespace Payload

open Template (Kind itemLimit)

/-! ## What a booking is -/

/-- Absent, `null`, or a list of objects that have a property, no longer than a list can be. -/
def IsList (P : Json.Members → Prop) : Option Json → Prop
  | none => True
  | some .null => True
  | some (.arr items) => items.length < itemLimit ∧
      ∀ item ∈ items, ∃ members, item = .obj members ∧ P members
  | _ => False

/-- Absent, `null`, empty, a number, or a text that reads as a finite number but for the blanks
around it. -/
def IsAmount : Option Json → Prop
  | none => True
  | some .null => True
  | some (.num _) => True
  | some (.str s) =>
    s = "" ∨ ∃ x, Number.readFloat? (Text.trim s).toList = some x ∧ x.isFinite = true
  | _ => False

/-- A payload whose lists are lists of objects, and whose amounts are amounts. The total amount is
looked for under all the names that it may have. -/
structure IsBooking (payload : Json.Members) : Prop where
  flights : IsList (fun _ ↦ True) (payload.get? "flights")
  passengers : IsList (fun _ ↦ True) (payload.get? "passengers")
  travellers : IsList (fun _ ↦ True) (payload.get? "travellers")
  rooms : IsList (fun room ↦ IsList (fun _ ↦ True) (room.get? "guests")) (payload.get? "rooms")
  priceItems : IsList (fun item ↦ IsAmount (item.get? "amount")) (payload.get? "priceItems")
  totalAmount : IsAmount ((reconcile payload).get? "totalAmount")

/-! ## Kinds -/

theorem IsAmount.holds {v : Option Json} (h : IsAmount v) : Kind.amount.Holds (v.getD .null) := by
  unfold IsAmount at h
  split at h
  · exact .inl rfl
  · exact .inl rfl
  · exact .inr ⟨_, rfl⟩
  · obtain rfl | ⟨x, hx, hfinite⟩ := h
    · exact .inl rfl
    · refine .inr ⟨x, ?_⟩
      rw [Option.getD_some, Money.amount?, hx, Option.filter_some, if_pos hfinite]
  · cases h

theorem IsList.holds {P : Json.Members → Prop} {member : String → Kind} {v : Option Json}
    (h : IsList P v) (hP : ∀ ms, P ms → (Kind.record member).Holds (.obj ms)) :
    (Kind.list (.record member)).Holds (v.getD .null) := by
  unfold IsList at h
  split at h
  · exact .inl rfl
  · exact .inl rfl
  · refine .inr ⟨_, rfl, h.1, fun item hitem ↦ ?_⟩
    obtain ⟨ms, rfl, hms⟩ := h.2 item hitem
    exact hP ms hms
  · cases h

/-! ## Payment details -/

variable {payload : Json.Members} {name : String}

/-- The names under which payment details are sought and kept. -/
def paymentNames : List String := "payment" :: Detail.logo.aliases ++ Detail.all.map Detail.name

/-- Members that have to do with no payment are left as they are. -/
theorem get?_reconcile (h : name ∉ paymentNames) :
    (reconcile payload).get? name = payload.get? name := by
  obtain ⟨hkept, hdetail⟩ := not_or.mp (mt List.mem_append.mpr h)
  refine get?_reconcile_of_ne ?_ fun _ ↦ hkept
  rintro d rfl
  exact hdetail (List.mem_map_of_mem (mem_all d))

end Payload

end Mailroom
