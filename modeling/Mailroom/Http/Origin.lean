import Mailroom.Http.Message

/-!
# Requests from pages of other origins

A browser lets a page read an answer from another origin only if the answer allows it. Either every
origin is allowed, or those of a list, compared character by character.
-/

namespace Mailroom.Http

/-- The origins whose pages may read answers. -/
inductive Origins where
  | any
  | listed (origins : List String)
deriving DecidableEq, Repr

namespace Origins

/-- What stands for every origin in an answer. It is no origin itself. -/
def wildcard : String := "*"

/-- The origins for some settings. Those that no header can hold are left out; if none is left,
every origin is allowed. A list that names the wildcard stands for no origins. -/
def ofSettings? (origins : List String) : Option Origins :=
  match origins.filter fun o => o.toList.all isHeaderChar with
  | [] => some .any
  | os => if wildcard ∈ os then none else some (.listed os)

/-- The header that allows the origin of a request. -/
def allowance (o : Origins) (r : Request) : Headers :=
  match o with
  | .any => [("access-control-allow-origin", wildcard)]
  | .listed origins =>
    match r.header? "origin" with
    | some origin =>
      if origin ∈ origins then [("access-control-allow-origin", origin)] else []
    | none => []

/-- What an answer depends on. -/
def vary : Headers :=
  [("vary", "origin, access-control-request-method, access-control-request-headers")]

/-- The headers of every answer. -/
def headers (o : Origins) (r : Request) : Headers := vary ++ o.allowance r

/-- The answer to a browser that asks beforehand. -/
def preflight (o : Origins) (r : Request) : Response where
  status := 200
  headers := o.headers r ++
    [("access-control-allow-methods", "*"), ("access-control-allow-headers", "*")]

end Origins

end Mailroom.Http
