import Mailroom.Json.Reader
import Mailroom.Settings.Layer
import Mailroom.Settings.Variables
import Mailroom.Toml.Document

/-!
# Loading settings

Settings come from a file for all modes of running, from a file for the mode that the service runs
in, and from the variables of the environment, the later ones upon the earlier. A file of variables
is added to the environment beforehand.
-/

namespace Mailroom.Settings

/-- The file that adds to the environment. -/
def variablesFile : String := ".env"

/-- The environment with the variables of a file. -/
def completed (files : Files.Tree) (environment : Variables) : Variables :=
  match files.readText variablesFile with
  | .ok text => environment.setFile text
  | .error _ => environment

/-- The mode that the service runs in. -/
def modeOf (environment : Variables) : String := (environment.lookup "RUN_MODE").getD "development"

/-- Whether the service runs in production. -/
def isProduction (environment : Variables) : Bool :=
  (environment.lookup "RUN_MODE").any fun m => m = "production" || m = "prod"

/-! ## Sources -/

mutual

/-- A value of a document, as one of a layer. -/
def nodeOf (source : String) : Toml.Value → Node
  | .text s => .scalar source (.text s)
  | .int i => .scalar source (.int i)
  | .float x => .scalar source (.fraction x)
  | .bool b => .scalar source (.flag b)
  | .moment s => .scalar source (.text s)
  | .list vs => .list source (nodesOf source vs)
  | .table es => .table source (entriesOf source es)

/-- The items of a list of a document. -/
def nodesOf (source : String) : List Toml.Value → List Node
  | [] => []
  | v :: vs => nodeOf source v :: nodesOf source vs

/-- The entries of a table of a document. -/
def entriesOf (source : String) : List (String × Toml.Value) → List (String × Node)
  | [] => []
  | (k, v) :: es => (k, nodeOf source v) :: entriesOf source es

end

mutual

/-- A JSON value, as one of a layer. -/
def nodeOfJson (source : String) : Json → Node
  | .null => .scalar source .absent
  | .bool b => .scalar source (.flag b)
  | .num n =>
    match n.int64? with
    | some i => .scalar source (.int i)
    | none => .scalar source (.fraction n.toFloat)
  | .str s => .scalar source (.text s)
  | .arr vs => .list source (nodesOfJson source vs)
  | .obj ms => .table source (entriesOfJson source ms)

/-- The items of a JSON array. -/
def nodesOfJson (source : String) : List Json → List Node
  | [] => []
  | v :: vs => nodeOfJson source v :: nodesOfJson source vs

/-- The members of a JSON object. -/
def entriesOfJson (source : String) : List (String × Json) → List (String × Node)
  | [] => []
  | (k, v) :: ms => (k, nodeOfJson source v) :: entriesOfJson source ms

end

/-- The formats of documents. -/
inductive Format where
  | toml | json
deriving DecidableEq, Repr

namespace Format

/-- All formats. A document is looked for in this order. -/
def all : List Format := [.toml, .json]

/-- The ending of the names of documents. -/
def ending : Format → String
  | .toml => "toml"
  | .json => "json"

/-- The entries of a document of the given name. -/
def entries? (name text : String) : Format → Option (List (String × Node))
  | .toml => (Toml.entriesOf? text).map (entriesOf name)
  | .json =>
    match Json.read text with
    | .ok (.obj ms) => some (entriesOfJson name ms)
    | _ => none

end Format

/-- The path and the format of the document for a name. A file that has the very name goes before,
whatever it is. -/
def document? (files : Files.Tree) (name : String) : Option (String × Format) :=
  if files.isFile name then
    (Format.all.find? fun f => (Files.splitExtension name).2 = some f.ending).map fun f => (name, f)
  else
    let stem := String.ofList (name.toList.reverse.dropWhile (· = '/')).reverse
    Format.all.findSome? fun f =>
      let path := s!"{stem}.{f.ending}"
      if files.isFile path then some (path, f) else none

/-- The text of bytes. What is no text is replaced by a mark. -/
def textOf (bytes : ByteArray) : String := (String.fromUTF8? bytes).getD "\uFFFD"

/-- The entries of the document for a name. A document that is not there has none. -/
def documentEntries (files : Files.Tree) (name : String) :
    Except Fault (List (String × Node)) := do
  let some (path, format) := document? files name | return []
  match files.read path with
  | .error _ => return []
  | .ok bytes =>
    let text := match (textOf bytes).toList with
      | '\uFEFF' :: cs => String.ofList cs
      | _ => textOf bytes
    match format.entries? path text with
    | some es => return es
    | none => throw (.noDocument path)

/-- What the text of a variable stands for. -/
def scalarOf (text : String) : Scalar :=
  let cs := text.toList
  match Text.asciiLower text with
  | "true" => .flag true
  | "false" => .flag false
  | _ =>
    match Number.readInt64? cs, Number.readFloat? cs with
    | some i, _ => .int i
    | none, some x => .fraction x
    | none, none => .text text

/-- The name of a setting for the name of a variable: in small letters, and with dots in the place
of underscores. -/
def settingName (name : String) : String :=
  String.ofList ((Text.lower name).toList.map fun c => if c = '_' then '.' else c)

/-- The entries of the environment. -/
def variableEntries (environment : Variables) : List (String × Node) :=
  environment.map fun (name, text) =>
    (settingName name, .scalar (some "the environment") (scalarOf text))

/-- The entries that hold if no source has them. -/
def usualEntries : List (String × Node) :=
  let usual : Settings := {}
  [("server.host", .scalar none (.text usual.server.host)),
    ("server.port", .scalar none (.int usual.server.port)),
    ("smtp.port", .scalar none (.int usual.smtp.port))]

/-! ## Settings -/

/-- The settings in some files and an environment. -/
def load (files : Files.Tree) (environment : Variables) : Except Fault Settings := do
  let common ← documentEntries files "config/default"
  let special ← documentEntries files s!"config/{modeOf environment}"
  let layers := [usualEntries, common, special, variableEntries environment]
  Node.dialect.settings (layers.foldl (fun node source => node.lay source) Node.empty)

/-- Refuse settings that the service cannot run with. -/
def validate (s : Settings) : Except Fault Unit :=
  if s.api.key.all Text.isBlankText then .error (.unfit "api.key (API_KEY) is required")
  else if s.smtp.transport = "smtp" ∧ Text.isBlankText s.smtp.host then
    .error (.unfit "smtp.host (SMTP_HOST) is required")
  else if s.rate.requests = 0 ∨ s.rate.window = 0 then
    .error (.unfit "ratelimit.requests and ratelimit.window must be positive")
  else .ok ()

end Mailroom.Settings
