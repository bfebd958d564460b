/-!
# Addresses of resources

What keeps a text from being the address of a resource: an optional scheme with two slashes, an
authority, and, behind a scheme, a path with a query.
-/

namespace Mailroom.Net

/-- Why a text is no address of a resource. -/
inductive UriFault where
  | empty | tooLong | schemeTooLong | badCharacter | badAuthority | badForm
deriving DecidableEq, Repr

/-- The wording of a fault. -/
def UriFault.message : UriFault → String
  | .empty => "empty string"
  | .tooLong => "uri too long"
  | .schemeTooLong => "scheme too long"
  | .badCharacter => "invalid uri character"
  | .badAuthority => "invalid authority"
  | .badForm => "invalid format"

namespace Uri

/-- The greatest length of an address in bytes. -/
def limit : Nat := 65534

/-- The greatest length of a scheme in bytes. -/
def schemeLimit : Nat := 64

/-- A character of a scheme. -/
def isSchemeChar (c : Char) : Bool := c.isAlphanum || c = '+' || c = '-' || c = '.'

/-- A character of an authority. A percent sign is one too, and what it may be part of is checked
apart. -/
def isAuthorityChar (c : Char) : Bool := c.isAlphanum || "!$&'()*+,-.:;=@[]_~%".toList.contains c

/-- A character of a path. -/
def isPathChar (c : Char) : Bool :=
  let n := c.toNat
  n == 0x21 || n == 0x22 || (0x24 ≤ n && n ≤ 0x3B) || n == 0x3D || (0x40 ≤ n && n ≤ 0x5F)
    || (0x61 ≤ n && n != 0x60)

/-- A character of a query. -/
def isQueryChar (c : Char) : Bool :=
  let n := c.toNat
  n == 0x21 || (0x24 ≤ n && n ≤ 0x3B) || n == 0x3D || 0x3F ≤ n

/-- A character that ends an authority. -/
def endsAuthority (c : Char) : Bool := c = '/' || c = '?' || c = '#'

/-- The number of colons in some characters. -/
def colons (cs : List Char) : Nat := cs.count ':'

/-- What is behind the last of a character, or all characters if it is not among them. -/
def behindLast (c : Char) (cs : List Char) : List Char :=
  (cs.reverse.takeWhile (· != c)).reverse

/-- Check an authority: it has no more than one colon behind the name of a user and a bracketed
address, its brackets belong together, and neither the host nor the port holds a percent sign. -/
def checkAuthority (cs : List Char) : Except UriFault Unit :=
  if !cs.all isAuthorityChar then .error .badCharacter
  else
    let host := behindLast '@' cs
    let port := behindLast ']' host
    let brackets := cs.filter fun c => c = '[' || c = ']'
    if !(brackets = [] || brackets = ['[', ']']) then .error .badAuthority
    else if 8 < colons cs || 1 < colons port then .error .badAuthority
    else if cs.getLast? = some '@' || port.contains '%' then .error .badAuthority
    else .ok ()

/-- Check what follows an authority. -/
def checkPath (cs : List Char) : Except UriFault Unit :=
  let shown := cs.takeWhile (· != '#')
  let path := shown.takeWhile (· != '?')
  let query := (shown.dropWhile (· != '?')).drop 1
  if path.all isPathChar && query.all isQueryChar then .ok () else .error .badCharacter

/-- The scheme in front of a colon and two slashes, and what is behind them. -/
def splitScheme (cs : List Char) : Option (List Char × List Char) :=
  match cs.dropWhile isSchemeChar with
  | ':' :: '/' :: '/' :: rest => some (cs.takeWhile isSchemeChar, rest)
  | _ => none

/-- Check an address. -/
def check (text : String) : Except UriFault Unit :=
  let cs := text.toList
  if cs = [] then .error .empty
  else if limit < text.utf8ByteSize then .error .tooLong
  else if cs = ['*'] then .ok ()
  else if cs.head? = some '/' then checkPath cs
  else
    match splitScheme cs with
    | some (scheme, rest) =>
      if schemeLimit < scheme.length then .error .schemeTooLong
      else if rest = [] then .error .empty
      else do
        let authority := rest.takeWhile fun c => !endsAuthority c
        checkAuthority authority
        if authority = [] then .error .badForm
        else checkPath (rest.dropWhile fun c => !endsAuthority c)
    | none => do
      let authority := cs.takeWhile fun c => !endsAuthority c
      checkAuthority authority
      if authority.length = cs.length then .ok ()
      else .error (if cs.length = 1 then .badCharacter else .badForm)

end Uri

end Mailroom.Net
