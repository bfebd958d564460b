import Mailroom.Files.Tree
import Mailroom.Template.Compile
import Mailroom.Template.Render

/-!
# The template library

The templates in a folder, one to a file named after the key of the template, and the parts that
they share, in a folder of their own. Parts are read when the library is opened; a template is read
when it is needed first, and kept. A template that has been kept is not looked for again until the
library is cleared.
-/

namespace Mailroom.Template

open Mailroom.Files (Tree)

/-- Why a template cannot be had or shown. -/
inductive LibraryError where
  | notFound (key : String)
  | invalidKey (reason : String)
  | notCompiled (key : String) (reason : CompileError)
  | partNotCompiled (name : String) (reason : CompileError)
  | unreadable (path : String) (reason : String)
  | notRendered (key locale : String) (reason : RenderError)

/-- The wording of a failure. -/
def LibraryError.message : LibraryError → String
  | .notFound key => s!"Template not found: {key}"
  | .invalidKey reason => s!"Invalid template key: {reason}"
  | .notCompiled key reason => s!"Failed to compile template {key}: {reason.message}"
  | .partNotCompiled name reason => s!"Failed to compile partial {name}: {reason.message}"
  | .unreadable path reason => s!"Failed to read {path}: {reason}"
  | .notRendered key locale reason =>
    s!"Failed to render template {key} for locale {locale}: {reason.message}"

/-! ## Keys -/

/-- The greatest length of a key, in bytes. -/
def keyLimit : Nat := 64

/-- A character of a key. -/
def isKeyChar (c : Char) : Bool := c.isAlphanum || c = '-' || c = '_'

/-- Refuse what is no key. -/
def checkKey (key : String) : Except LibraryError Unit :=
  if key = "" ∨ keyLimit < key.utf8ByteSize then
    .error (.invalidKey s!"Key must be 1-{keyLimit} characters")
  else if key.toList.all isKeyChar then .ok ()
  else .error (.invalidKey "Key must contain only alphanumeric, dash, or underscore")

theorem checkKey_eq_ok_iff {key : String} :
    checkKey key = .ok () ↔
      key ≠ "" ∧ key.utf8ByteSize ≤ keyLimit ∧ ∀ c ∈ key.toList, isKeyChar c = true := by
  unfold checkKey
  split
  · rename_i h
    simp only [reduceCtorEq, false_iff, not_and]
    intro hne hle
    rcases h with h | h
    · exact absurd h hne
    · omega
  · rename_i h
    simp only [not_or, Nat.not_lt] at h
    split
    · rename_i hall
      simpa [h.1, h.2] using hall
    · rename_i hall
      simp only [reduceCtorEq, false_iff, not_and]
      intro _ _ hk
      exact hall (by simpa using hk)

/-! ## The library -/

/-- The ending of the names of template files. -/
def fileEnding : String := "hbs"

/-- What stands in front of the key of a template among the names of templates and parts. -/
def templatePrefix : String := "template:"

/-- The name under which a template is kept. -/
def keptName (key : String) : String := templatePrefix ++ key

/-- A library. The templates that have been read and the parts are kept under their names. -/
structure Library where
  dir : String
  partsDir : String
  kept : List (String × Compiled) := []
  compilations : Nat := 0

namespace Library

/-- The part of the service that keeps the library. -/
def logTarget : String := "ara_email_service::template::compiler"

/-- Keep a template; one of the same name gives way. -/
def keep (lib : Library) (name : String) (t : Compiled) : Library :=
  { lib with kept := (name, t) :: lib.kept.filter fun k => k.1 != name }

/-- The number of templates that are kept. -/
def cached (lib : Library) : Nat := lib.kept.countP fun k => k.1.startsWith templatePrefix

/-- The number of parts. -/
def parts (lib : Library) : Nat := lib.kept.length - lib.cached

/-- The sources of the parts, by name. A folder that is not there holds none. -/
def readParts (files : Tree) (dir : String) : Attempt LibraryError (List (String × String)) := do
  if !files.isFolder dir then
    Journal.log {
      level := .info
      target := logTarget
      message := "No partials directory found, skipping partial registration"
      fields := [("path", .plain (files.shown dir))] }
    return []
  let chosen := (files.names dir).filterMap fun file =>
    match Files.splitExtension file with
    | (name, some ending) => if ending = fileEnding then some (name, file) else none
    | _ => none
  chosen.mapM fun (name, file) => do
    let path := Files.join dir file
    match files.readText path with
    | .ok source => return (name, source)
    | .error fault => throw (.unreadable (files.shown path) fault.message)

/-- Keep parts, up to the first one that is out of order. -/
def keepParts (lib : Library) : List (String × String) → Library × Except LibraryError Unit
  | [] => (lib, .ok ())
  | (name, source) :: rest =>
    match compile (some name) source with
    | .ok t => (lib.keep name t).keepParts rest
    | .error e => (lib, .error (.partNotCompiled name e))

/-- Open a library. -/
def opened (files : Tree) (dir partsDir : String) : Attempt LibraryError Library := do
  let sources ← readParts files partsDir
  match keepParts { dir, partsDir } sources with
  | (_, .error e) => throw e
  | (lib, .ok ()) =>
    Journal.log {
      level := .info
      target := logTarget
      message := "Handlebars partials registered"
      fields := [("count", .int sources.length)] }
    return lib

/-- The path of a template. -/
def pathOf (lib : Library) (key : String) : String := Files.join lib.dir (key ++ "." ++ fileEnding)

/-- Whether there is a file for a template. -/
def has (files : Tree) (key : String) (lib : Library) : Bool :=
  (checkKey key).isOk && files.isFile (lib.pathOf key)

/-- The source of a template. -/
def source (files : Tree) (key : String) (lib : Library) : Attempt LibraryError String := do
  let path := lib.pathOf key
  match files.readText path with
  | .ok source => return source
  | .error fault =>
    Journal.log {
      level := .debug
      target := logTarget
      message := "Template source unreadable"
      fields := [("template", .plain key), ("path", .plain (files.shown path)),
        ("error", .plain fault.message)] }
    throw (.notFound key)

/-- Have a template in the library: it is read if it is not there yet. -/
def fetch (files : Tree) (key : String) (lib : Library) :
    Attempt LibraryError (Compiled × Library) := do
  ExceptT.mk (pure (checkKey key))
  match lib.kept.lookup (keptName key) with
  | some t => return (t, lib)
  | none =>
    match compile none (← lib.source files key) with
    | .error e => throw (.notCompiled key e)
    | .ok t =>
      let lib := { lib.keep (keptName key) t with compilations := lib.compilations + 1 }
      Journal.count (.compiled lib.cached)
      Journal.log {
        level := .debug
        target := logTarget
        message := "Template compiled"
        fields := [("template", .plain key)] }
      return (t, lib)

/-- Forget all templates and read the parts again. The library is left as it is when a part cannot
be read, and it keeps the parts up to the one that is out of order when there is such a one. -/
def clear (files : Tree) (lib : Library) : Journaled (Library × Except LibraryError Nat) := do
  match ← readParts files lib.partsDir with
  | .error e => return (lib, .error e)
  | .ok sources =>
    match keepParts { lib with kept := [] } sources with
    | (lib, .error e) => return (lib, .error e)
    | (lib, .ok ()) =>
      Journal.count .cacheCleared
      Journal.log {
        level := .info
        target := logTarget
        message := "Template cache cleared"
        fields := [("partials", .int sources.length)] }
      return (lib, .ok sources.length)

end Library

end Mailroom.Template
