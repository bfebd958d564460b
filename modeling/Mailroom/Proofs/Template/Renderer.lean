import Mailroom.Proofs.Template.Inclusion
import Mailroom.Proofs.Template.Library
import Mailroom.Template.Renderer

/-!
# Rendered messages go by the clock alone

What a renderer makes of a key, a locale and a payload depends on its library, its texts, the files
and the clock, and on nothing that has been logged or counted before. `Renderer.rendered` says what
that is.
-/

namespace Mailroom.Template

open Mailroom.Files (Tree)
open Journal (Gives Steady answerAt)

namespace Renderer

variable (files : Tree) (key locale : String) (payload : Json.Members) (r : Renderer)

theorem context_steady : Steady (r.context locale payload) :=
  (Payload.normalize_steady payload).bind fun _ ↦
    (r.store.textsFor_steady locale).bind fun _ ↦ .pure _

theorem page_steady (t : Compiled) (context : Json) : Steady (r.page t context).run :=
  Repertoire.render_steady _ t

/-- What a template is shown as at an instant, with the data of a message. -/
def pageAt (t : Compiled) (now : Int) : Except RenderError String :=
  answerAt now (r.page t (answerAt now (r.context locale payload))).run

/-- What rendering a message comes to at an instant, and the renderer behind it. -/
def rendered (now : Int) : Renderer × Except LibraryError String :=
  match r.library.fetched files key with
  | .error e => (r, .error e)
  | .ok (t, library) =>
    let r := { r with library }
    (r, (r.pageAt locale payload t now).mapError (.notRendered key locale))

/-- The page of a message is what its template is shown as. -/
theorem rendered_eq_ok {now : Int} {page : String}
    (h : (r.rendered files key locale payload now).2 = .ok page) :
    ∃ t library, r.library.fetched files key = .ok (t, library) ∧
      { r with library }.pageAt locale payload t now = .ok page := by
  unfold rendered at h
  split at h
  · cases h
  · rename_i t library hfetched
    refine ⟨t, library, hfetched, ?_⟩
    dsimp only at h
    cases hpage : { r with library }.pageAt locale payload t now with
    | error e =>
      rw [hpage] at h
      cases h
    | ok text =>
      rw [hpage] at h
      cases h
      rfl

theorem attempt_gives (now : Int) :
    Gives now (r.attempt files key locale payload)
      (· = r.rendered files key locale payload now) := by
  apply ((r.context_steady locale payload).gives now).bind
  intro context hcontext
  apply Library.fetch_gives.bind
  intro fetched hfetched
  rw [rendered, ← hfetched]
  cases fetched with
  | error e => exact .pure rfl
  | ok found =>
    apply ((page_steady { r with library := found.2 } found.1 context).gives now).bind
    intro shown hshown
    have hpage : { r with library := found.2 }.pageAt locale payload found.1 now = shown := by
      rw [hshown, hcontext]
      rfl
    dsimp only
    rw [hpage]
    cases shown with
    | ok page => exact .pure rfl
    | error e => exact Gives.log.bind fun _ _ ↦ .pure rfl

theorem render_gives (now : Int) :
    Gives now (r.render files key locale payload)
      (· = r.rendered files key locale payload now) := by
  apply (r.attempt_gives files key locale payload now).bind
  rintro ⟨r', outcome⟩ h
  rw [← h]
  cases outcome with
  | ok page => exact Gives.count.bind fun _ _ ↦ .pure rfl
  | error e => exact Gives.count.bind fun _ _ ↦ .pure rfl

theorem render_steady : Steady (r.render files key locale payload) :=
  fun now ↦ ⟨_, r.render_gives files key locale payload now⟩

end Renderer

end Mailroom.Template
