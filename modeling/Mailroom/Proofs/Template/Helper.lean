import Mailroom.Proofs.Journal
import Mailroom.Payload.Payment
import Mailroom.Template.Helper

/-!
# Helpers go by the clock alone

A helper that gives a value may look at the clock, look texts up and leave a warning behind. Its
value depends on its setting, its call and the clock.
-/

namespace Mailroom

open Journal (Steady)

namespace Locale.Store

theorem textFor_steady (s : Store) (locale key : String) (params : Json.Members) :
    Steady (s.textFor locale key params) := by
  unfold textFor
  split
  · exact .pure _
  · exact (Steady.log _).bind fun _ ↦ (Steady.count _).bind fun _ ↦ .pure _
  · exact (Steady.log _).bind fun _ ↦ (Steady.count _).bind fun _ ↦ .pure _

theorem textsFor_steady (s : Store) (locale : String) : Steady (s.textsFor locale) := by
  unfold textsFor
  split
  · exact .pure _
  · exact (Steady.log _).bind fun _ ↦ .pure _

end Locale.Store

theorem Payload.normalize_steady (payload : Json.Members) : Steady (Payload.normalize payload) := by
  unfold Payload.normalize
  dsimp only
  split
  · split
    · exact (Steady.log _).bind fun _ ↦ .pure _
    · exact .pure _
  · exact .pure _

namespace Template

/-- A failure, or a value, that is settled before the journal is looked at. -/
theorem steady_of_except {ε α : Type} (o : Except ε α) :
    Steady (ExceptT.mk (pure o) : Attempt ε α).run := .pure o

theorem emptyFor_steady (helper : String) : Steady (emptyFor helper).run :=
  Steady.bindExcept (Steady.lift ((Steady.log _).bind fun _ ↦ .count _)) fun _ ↦ .pure _

theorem localized_steady (s : Setting) (c : Call) : Steady (localized s c).run := by
  unfold localized
  apply Steady.bindExcept (steady_of_except _)
  intro found
  dsimp only
  split
  all_goals
    apply Steady.bindExcept (.pure _)
    intro key
    split
    · exact Steady.bindExcept (Steady.lift (.log _)) fun _ ↦ .pure _
    · exact Steady.bindExcept (Steady.lift (s.store.textFor_steady _ _ _)) fun _ ↦ .pure _

theorem dated_steady (helper : String) (form : Json → String) (c : Call) :
    Steady (dated helper form c).run := by
  unfold dated
  split
  · exact emptyFor_steady helper
  · exact .pure _

theorem presentTime_steady : Steady presentTime.run :=
  Steady.bindExcept (Steady.lift .clock) fun _ ↦ .pure _

theorem priced_steady (s : Setting) (c : Call) : Steady (priced s c).run := by
  unfold priced
  split
  · exact emptyFor_steady _
  · split
    · exact .pure _
    · exact .pure _

theorem summed_steady (c : Call) : Steady (summed c).run := by
  unfold summed
  split
  · exact .pure _
  · exact .pure _

theorem safe_steady (c : Call) : Steady (safe c).run := by
  unfold safe
  split
  · exact Steady.bindExcept (Steady.lift (.log _)) fun _ ↦ emptyFor_steady _
  · exact .pure _

/-- Every helper that gives a value goes by the clock alone. -/
theorem helper?_steady {name : String} {f : Setting → Call → Attempt Fault Json}
    (h : helper? name = some (.value f)) (s : Setting) (c : Call) : Steady (f s c).run := by
  unfold helper? at h
  split at h
  all_goals cases h
  all_goals
    first
    | with_reducible exact localized_steady s c
    | with_reducible exact dated_steady _ _ c
    | with_reducible exact presentTime_steady
    | with_reducible exact priced_steady s c
    | with_reducible exact summed_steady c
    | with_reducible exact safe_steady c
    | exact steady_of_except _

end Template

end Mailroom
