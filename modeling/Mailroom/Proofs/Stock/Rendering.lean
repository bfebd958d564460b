import Mailroom.Proofs.Files.Tree
import Mailroom.Proofs.Stock.Fitting
import Mailroom.Proofs.Template.Renderer
import Mailroom.Proofs.Template.Snapshot

/-!
# Bookings are rendered

A renderer over the shipped files holds, at any time, the parts that are shipped and some of the
templates, read from their sources (`Stocks`). All of them fit bookings, so every message is
rendered for every booking.
-/

namespace Mailroom

open Files (Tree)
open Journal (Gives answerAt)

/-! ## Reading templates -/

namespace Template

theorem compile_name {name : Option String} {source : String} {t : Compiled}
    (h : compile name source = .ok t) : t.name = name := by
  unfold compile at h
  split at h
  · cases h
  · rename_i ps _
    split at h
    · cases h
    · cases hadd : ps.foldlM Workbench.add {} with
      | error e =>
        rw [hadd] at h
        cases h
      | ok w =>
        rw [hadd] at h
        cases h
        rfl

end Template

namespace Stock

open Template

/-! ## The shipped files -/

theorem paths_contents : Tree.pathsOf contents = [
    ["locales", "tr.json"], ["locales", "en.json"], ["locales", "ar.json"], ["locales", "he.json"],
    ["templates", "flight-details.hbs"], ["templates", "flight-ticket.hbs"],
    ["templates", "hotel-reservation.hbs"], ["templates", "package-reservation.hbs"],
    ["templates", "password-reset.hbs"], ["templates", "reservation-confirmation.hbs"],
    ["templates", "transfer-reservation.hbs"], ["templates", "welcome.hbs"],
    ["templates", "partials", "header.hbs"], ["templates", "partials", "payment.hbs"],
    ["templates", "partials", "footer.hbs"]] := by
  decide +kernel

theorem readText_tree (root : String) {f : String × String} (hf : f ∈ contents) :
    (tree root).readText f.1 = .ok f.2 := by
  have hdistinct : (Tree.pathsOf contents).Nodup := by rw [paths_contents]; simp
  have hroot : [] ∉ Tree.pathsOf contents := by rw [paths_contents]; simp
  exact Tree.readText_of_find? (Tree.find?_writeAll { root } hdistinct hroot hf)

theorem join_folder {dir : String} (h : ¬(dir = "" ∨ dir.endsWith "/" = true)) (name : String) :
    Files.join dir name = dir ++ "/" ++ name := by
  rw [Files.join, if_neg h]

theorem message_mem_contents : ∀ m ∈ messages,
    ("templates" ++ "/" ++ (m.1 ++ "." ++ fileEnding), m.2) ∈ contents := by
  simp [messages, contents, fileEnding]

theorem part_mem_contents : ∀ p ∈ parts,
    ("templates/partials" ++ "/" ++ (p.1 ++ "." ++ fileEnding), p.2) ∈ contents := by
  simp [parts, contents, fileEnding]

/-- The source of a message lies in its file. -/
theorem readText_message (root : String) {m : String × String} (hm : m ∈ messages) :
    (tree root).readText (Files.join "templates" (m.1 ++ "." ++ fileEnding)) = .ok m.2 := by
  have hread := readText_tree root (message_mem_contents m hm)
  rw [join_folder (by decide +kernel)]
  exact hread

/-- The source of a part lies in its file. -/
theorem readText_part (root : String) {p : String × String} (hp : p ∈ parts) :
    (tree root).readText (Files.join "templates/partials" (p.1 ++ "." ++ fileEnding)) =
      .ok p.2 := by
  have hread := readText_tree root (part_mem_contents p hp)
  rw [join_folder (by decide +kernel)]
  exact hread

/-- What is in the folder of the parts, the file that is written last first. -/
theorem folder_tree : (tree "").isFolder "templates/partials" = true ∧
    ((tree "").nodes.filterMap fun (p, _) ↦
      if p.dropLast = Files.Path.ofText "templates/partials" ∧ p ≠ [] then p.getLast? else none) =
      ["footer.hbs", "payment.hbs", "header.hbs"] := by
  decide +kernel

theorem tree_eq (root : String) : tree root = { tree "" with root } :=
  Tree.writeAll_root {} root contents

theorem partFiles_tree (root : String) : Library.partFiles (tree root) "templates/partials" =
    parts.map fun p ↦ (p.1, p.1 ++ "." ++ fileEnding) := by
  have hnames : (tree root).names "templates/partials" =
      ["footer.hbs", "header.hbs", "payment.hbs"] := by
    rw [tree_eq, Tree.names_root, Tree.names, folder_tree.2]
    simp [List.mergeSort, List.MergeSort.Internal.splitInTwo]
  rw [Library.partFiles, hnames]
  decide +kernel

/-- The parts in their folder are those that are shipped. -/
theorem partSources_tree (root : String) :
    Library.partSources (tree root) "templates/partials" = .ok parts := by
  have hfolder : (tree root).isFolder "templates/partials" = true := by
    rw [tree_eq, Tree.isFolder_root, folder_tree.1]
  have hsources : ∀ l : List (String × String), (∀ p ∈ l, p ∈ parts) →
      (l.map fun p ↦ (p.1, p.1 ++ "." ++ fileEnding)).mapM
        (Library.partSource (tree root) "templates/partials") = .ok l := by
    intro l
    induction l with
    | nil => exact fun _ ↦ rfl
    | cons p l ih =>
      intro h
      obtain ⟨hp, hl⟩ := List.forall_mem_cons.mp h
      have hsource : Library.partSource (tree root) "templates/partials"
          (p.1, p.1 ++ "." ++ fileEnding) = .ok p := by
        rw [Library.partSource, readText_part root hp]
      rw [List.map_cons, List.mapM_cons, hsource, ih hl]
      rfl
  rw [Library.partSources, if_pos hfolder, partFiles_tree]
  exact hsources parts fun _ ↦ id

/-! ## The library -/

/-- A library holds the parts that are shipped, and no template of a message but the shipped one. -/
structure Stocks (lib : Library) : Prop where
  dir_eq : lib.dir = "templates"
  partsDir_eq : lib.partsDir = "templates/partials"
  part : ∀ p ∈ parts, ∀ t, compile (some p.1) p.2 = .ok t → lib.kept.lookup p.1 = some t
  message : ∀ m ∈ messages, ∀ t, lib.kept.lookup (keptName m.1) = some t → compile none m.2 = .ok t

/-- No part has the name of a template. -/
theorem part_ne_keptName {p : String × String} (hp : p ∈ parts) (key : String) :
    p.1 ≠ keptName key := by
  have hplain : Library.Plain (parts.map Prod.fst) := by decide +kernel
  intro heq
  have hprefix := hplain p.1 (List.mem_map_of_mem hp)
  rw [heq, startsWith_keptName] at hprefix
  cases hprefix

theorem keptName_not_mem_parts (key : String) : keptName key ∉ parts.map Prod.fst := by
  rintro h
  obtain ⟨p, hp, heq⟩ := List.mem_map.mp h
  exact part_ne_keptName hp key heq

namespace Stocks

variable {root : String} {lib : Library}

/-- A library of the shipped parts alone. -/
theorem ofParts (lib : Library) (hdir : lib.dir = "templates")
    (hpartsDir : lib.partsDir = "templates/partials") (hkept : lib.kept = []) :
    (lib.keepParts parts).2 = .ok () ∧ Stocks (lib.keepParts parts).1 := by
  have hcompile : ∀ p ∈ parts, ∃ t, compile (some p.1) p.2 = .ok t := fun p hp ↦
    (parts_fit p hp).imp fun _ ↦ And.left
  obtain ⟨hok, hparts⟩ := lib.keepParts_ok hcompile (by decide +kernel)
  obtain ⟨kept, hlib⟩ := lib.keepParts_eq parts
  refine ⟨hok, ?_, ?_, hparts, fun m _ t ht ↦ ?_⟩
  · rw [hlib]
    exact hdir
  · rw [hlib]
    exact hpartsDir
  · rw [Library.lookup_keepParts_of_not_mem (keptName_not_mem_parts m.1), hkept] at ht
    cases ht

theorem begun (root : String) :
    ∃ lib, Library.begun (tree root) "templates" "templates/partials" = .ok lib ∧ Stocks lib := by
  obtain ⟨hok, hstocks⟩ :=
    ofParts { dir := "templates", partsDir := "templates/partials" } rfl rfl rfl
  exact ⟨_, Library.begun_of_sources (partSources_tree root) hok, hstocks⟩

theorem cleared (h : Stocks lib) (root : String) : Stocks (lib.cleared (tree root)).1 := by
  have hsources : Library.partSources (tree root) lib.partsDir = .ok parts := by
    rw [h.partsDir_eq, partSources_tree]
  rw [Library.cleared_of_sources hsources]
  exact (ofParts { lib with kept := [] } h.dir_eq h.partsDir_eq rfl).2

theorem readText_pathOf (h : Stocks lib) (root : String) {m : String × String}
    (hm : m ∈ messages) : (tree root).readText (lib.pathOf m.1) = .ok m.2 := by
  rw [Library.pathOf, h.dir_eq]
  exact readText_message root hm

theorem fetched (h : Stocks lib) {key : String} {t : Compiled} {lib' : Library}
    (hf : lib.fetched (tree root) key = .ok (t, lib')) : Stocks lib' := by
  cases Library.fetched_ends hf with
  | kept => exact h
  | @compiled text t hkey hkept hread hcompile =>
    refine ⟨h.dir_eq, h.partsDir_eq, fun p hp t' ht' ↦ ?_, fun m hm t' ht' ↦ ?_⟩
    · exact (Library.lookup_keep_of_ne (part_ne_keptName hp key) t).trans (h.part p hp t' ht')
    · by_cases heq : m.1 = key
      · subst heq
        cases (h.readText_pathOf root hm).symm.trans hread
        cases ht'.symm.trans (Library.lookup_keep_self lib (keptName m.1) t)
        exact hcompile
      · have hne : keptName m.1 ≠ keptName key := mt keptName_inj.mp heq
        exact h.message m hm t' ((Library.lookup_keep_of_ne hne t).symm.trans ht')

/-- Every message can be fetched, and it is read from its source. -/
theorem exists_fetched (h : Stocks lib) (root : String) {m : String × String} (hm : m ∈ messages) :
    ∃ t lib', lib.fetched (tree root) m.1 = .ok (t, lib') ∧ compile none m.2 = .ok t ∧
      Stocks lib' := by
  have hvalid : ∀ m ∈ messages, (checkKey m.1).isOk = true := by decide +kernel
  have hread := h.readText_pathOf root hm
  have hf := Library.fetching_fetched (tree root) m.1 lib
  generalize ho : lib.fetched (tree root) m.1 = o at hf
  cases hf with
  | refused hkey =>
    have hkey' := hvalid m hm
    rw [hkey] at hkey'
    cases hkey'
  | kept hkey hkept => exact ⟨_, _, rfl, h.message m hm _ hkept, h⟩
  | missing hkey hkept hmissing => cases hread.symm.trans hmissing
  | broken hkey hkept hread' hcompile =>
    cases hread.symm.trans hread'
    obtain ⟨t, ht, -⟩ := messages_fit m hm
    cases ht.symm.trans hcompile
  | compiled hkey hkept hread' hcompile =>
    cases hread.symm.trans hread'
    exact ⟨_, _, rfl, hcompile, h.fetched ho⟩

end Stocks

end Stock

/-! ## The renderer -/

namespace Template.Renderer

/-- A renderer that has been opened over some files, and has rendered messages and been cleared
since. -/
inductive InUse (files : Tree) (dir partsDir : String) (store : Locale.Store)
    (logoUrl : Option String) : Renderer → Prop where
  | opened {r : Renderer} (journal : Journal)
    (h : ((opened files dir partsDir store logoUrl).run journal).1 = .ok r) :
    InUse files dir partsDir store logoUrl r
  | rendered {r : Renderer} (h : InUse files dir partsDir store logoUrl r) (key locale : String)
    (payload : Json.Members) (journal : Journal) :
    InUse files dir partsDir store logoUrl ((r.render files key locale payload).run journal).1.1
  | cleared {r : Renderer} (h : InUse files dir partsDir store logoUrl r) (journal : Journal) :
    InUse files dir partsDir store logoUrl
      { r with library := ((r.library.clear files).run journal).1.1 }

end Template.Renderer

namespace Stock

open Template

variable {root : String} {store : Locale.Store} {logoUrl : Option String} {r : Renderer} {now : Int}

theorem opened_stocks (root : String) (store : Locale.Store) (logoUrl : Option String) : Gives now
    (Renderer.opened (tree root) "templates" "templates/partials" store logoUrl).run
    fun o ↦ ∃ r, o = .ok r ∧ Stocks r.library := by
  obtain ⟨lib, hbegun, hstocks⟩ := Stocks.begun root
  have hopened : Gives now (Library.opened (tree root) "templates" "templates/partials").run
      (· = .ok lib) := hbegun ▸ Library.opened_gives
  refine hopened.bindExcept ?_ nofun
  rintro _ ⟨⟩
  exact .pure ⟨_, rfl, hstocks⟩

/-- However it has been used, a renderer over the shipped files holds what is shipped. -/
theorem stocks_of_inUse (h : r.InUse (tree root) "templates" "templates/partials" store logoUrl) :
    Stocks r.library := by
  induction h with
  | opened journal h =>
    obtain ⟨⟨r, hr, hstocks⟩, -⟩ := opened_stocks root store logoUrl journal rfl
    cases hr.symm.trans h
    exact hstocks
  | @rendered r h key locale payload journal ih =>
    obtain ⟨hrendered, -⟩ := r.render_gives (tree root) key locale payload journal.now journal rfl
    rw [hrendered, Renderer.rendered]
    split
    · exact ih
    · rename_i hf
      exact ih.fetched hf
  | @cleared r h journal ih =>
    have hcleared : ((r.library.clear (tree root)).run journal).1 = r.library.cleared (tree root) :=
      (Library.clear_gives journal rfl).1
    rw [hcleared]
    exact ih.cleared root

/-- The parts that are shipped can be put in wherever a booking is shown. -/
theorem Stocks.offers {lib : Library} (h : Stocks lib) {context : Json}
    (hcontext : bookingKind.Holds context) (store : Locale.Store) {name : String}
    (hname : name ∈ parts.map Prod.fst) :
    (lib.repertoire store context).Offers bookingKind now name := by
  have hother : ∀ name ∈ parts.map Prod.fst, name ≠ givenBody := by decide +kernel
  obtain ⟨p, hp, rfl⟩ := List.mem_map.mp hname
  obtain ⟨t, ht, hfits⟩ := parts_fit p hp
  exact Repertoire.offers_of_fits hcontext (hother p.1 hname) (h.part p hp t ht) hfits

/-- A message shows its page for every booking. -/
theorem Stocks.page_ok {lib : Library} (h : Stocks lib) (store : Locale.Store) {context : Json}
    (hcontext : bookingKind.Holds context) {m : String × String} (hm : m ∈ messages) {t : Compiled}
    (ht : compile none m.2 = .ok t) :
    Gives now ((lib.repertoire store context).render t).run fun o ↦ ∃ page, o = .ok page := by
  obtain ⟨t', ht', hfits⟩ := messages_fit m hm
  cases ht.symm.trans ht'
  exact Repertoire.render_succeeds hcontext (fun _ hname ↦ h.offers hcontext store hname)
    (by decide) (compile_name ht) hfits

theorem Stocks.render_ok (h : Stocks r.library) (root : String) {m : String × String}
    (hm : m ∈ messages) (locale : String) {payload : Json.Members}
    (hpayload : Payload.IsBooking payload) :
    Gives now (r.render (tree root) m.1 locale payload) fun o ↦ ∃ page, o.2 = .ok page := by
  obtain ⟨t, lib, hfetched, hcompile, hlib⟩ := h.exists_fetched root hm
  have hcontext := (context_holds r locale hpayload now { now } rfl).1
  obtain ⟨page, hpage⟩ := (hlib.page_ok r.store hcontext hm hcompile { now } rfl).1
  refine (r.render_gives (tree root) m.1 locale payload now).weaken ?_
  rintro _ rfl
  refine ⟨page, ?_⟩
  have hpageAt : { r with library := lib }.pageAt locale payload t now = .ok page := hpage
  rw [Renderer.rendered, hfetched]
  dsimp only
  rw [hpageAt]
  rfl

/-- The templates that are shipped render every booking. A renderer over the shipped files can be
opened, and whatever it has been used for since, it has a page for every message, whatever the
locale is and its texts are. -/
theorem render_booking (root : String) (store : Locale.Store) (logoUrl : Option String) :
    (∀ journal, ∃ r, ((Renderer.opened (tree root) "templates" "templates/partials" store
        logoUrl).run journal).1 = .ok r) ∧
      ∀ r : Renderer, r.InUse (tree root) "templates" "templates/partials" store logoUrl →
        ∀ key ∈ messages.map Prod.fst, ∀ locale payload, Payload.IsBooking payload →
          ∀ journal, ∃ page,
            ((r.render (tree root) key locale payload).run journal).1.2 = .ok page := by
  refine ⟨fun journal ↦ ?_, fun r hr key hkey locale payload hpayload journal ↦ ?_⟩
  · obtain ⟨⟨r, hr, -⟩, -⟩ := opened_stocks root store logoUrl journal rfl
    exact ⟨r, hr⟩
  · obtain ⟨m, hm, rfl⟩ := List.mem_map.mp hkey
    exact ((stocks_of_inUse hr).render_ok root hm locale hpayload journal rfl).1

/-- A stay in a hotel, with one guest in one room, and with amounts of every kind. -/
def stay : Json.Members := [
  ("amount", .num (.int 410)), ("payment", .obj [("status", .str "PAID")]),
  ("priceItems", .arr [.obj [("amount", .num (.int 400)), ("name", .str "Room")],
    .obj [("amount", .null)], .obj [("amount", .str "")], .obj []]),
  ("rooms", .arr [.obj [("guests", .arr [.obj [("firstName", .str "Ada")]])], .obj []]),
  ("travellers", .null)]

theorem stay_isBooking : Payload.IsBooking stay where
  flights := trivial
  passengers := trivial
  travellers := trivial
  rooms := ⟨by decide, by
    simp [Payload.IsList, Json.Members.get?, itemLimit]⟩
  priceItems := ⟨by decide, by
    simp [Payload.IsAmount, Json.Members.get?]⟩
  totalAmount := by
    have htotal : (Payload.reconcile stay).get? "totalAmount" = some (.num (.int 410)) := by
      rfl
    rw [htotal]
    trivial

theorem render_booking_stay :
    "hotel-reservation" ∈ messages.map Prod.fst ∧ Payload.IsBooking stay ∧
      ∃ r : Renderer, r.InUse (tree "") "templates" "templates/partials" Desk.noTexts none ∧
        ∃ page, ((r.render (tree "") "hotel-reservation" "en" stay).run {}).1.2 = .ok page := by
  have hkey : "hotel-reservation" ∈ messages.map Prod.fst := by decide
  refine ⟨hkey, stay_isBooking, ?_⟩
  obtain ⟨r, hr⟩ := (render_booking "" Desk.noTexts none).1 {}
  have hinUse : r.InUse (tree "") "templates" "templates/partials" Desk.noTexts none :=
    .opened {} hr
  exact ⟨r, hinUse, (render_booking "" Desk.noTexts none).2 r hinUse _ hkey "en" stay
    stay_isBooking {}⟩

end Stock

end Mailroom
