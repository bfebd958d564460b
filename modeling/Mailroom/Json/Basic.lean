import Mailroom.Number.Reading

/-!
# JSON values

The value type of request data, locale documents and template contexts. Integers and binary
fractions stay apart, so that `5` and `5.0` are two values. The members of an object are kept in
the order of their keys, and a key occurs once; `Json.ofMembers` and `Json.Members.insert` build
them so.
-/

namespace Mailroom

/-- A JSON number: an integer between `-2^63` and `2^64 - 1`, or a finite binary64 number. -/
inductive Json.Number where
  | int (value : Int)
  | float (value : Float)

/-- A JSON value. -/
inductive Json where
  | null
  | bool (value : Bool)
  | num (value : Json.Number)
  | str (value : String)
  | arr (items : List Json)
  | obj (members : List (String × Json))
deriving Inhabited

namespace Json

/-- The members of an object, in the order of their keys. -/
abbrev Members := List (String × Json)

namespace Members

/-- Put a member in its place; a member of the same key gives way. -/
def insert (key : String) (value : Json) : Members → Members
  | [] => [(key, value)]
  | (k, v) :: rest =>
    if key < k then (key, value) :: (k, v) :: rest
    else if key = k then (key, value) :: rest
    else (k, v) :: insert key value rest

/-- Members in any order, brought into the order of their keys; of a repeated key the last member
stays. -/
def ofList (members : List (String × Json)) : Members :=
  members.foldl (fun acc (k, v) => insert k v acc) []

/-- The value under a key. -/
def get? (members : Members) (key : String) : Option Json := members.lookup key

/-- The members without those of one key. -/
def erase (members : Members) (key : String) : Members := members.filter fun m => m.1 != key

theorem get?_insert_self (key : String) (value : Json) (ms : Members) :
    (ms.insert key value).get? key = some value := by
  induction ms with
  | nil => simp [insert, get?]
  | cons m ms ih =>
    obtain ⟨k, v⟩ := m
    simp only [insert]
    split
    · simp [get?]
    · split
      · simp [get?]
      · rename_i _ hne
        simp only [get?, List.lookup_cons]
        have : (key == k) = false := by simpa using hne
        simp only [this]
        exact ih

end Members

/-- An object from members in any order. -/
def ofMembers (members : List (String × Json)) : Json := .obj (Members.ofList members)

/-- The value under a key of an object. -/
def get? : Json → String → Option Json
  | .obj members, key => Members.get? members key
  | _, _ => none

/-- The text of a string. -/
def text? : Json → Option String
  | .str s => some s
  | _ => none

/-- The members of an object. -/
def members? : Json → Option Members
  | .obj members => some members
  | _ => none

/-- The items of an array. -/
def items? : Json → Option (List Json)
  | .arr items => some items
  | _ => none

/-- Whether a value is `null`. -/
def isNull : Json → Bool
  | .null => true
  | _ => false

/-- Whether a value is an object. -/
def isObject : Json → Bool
  | .obj _ => true
  | _ => false

/-- A natural number as a JSON integer. -/
def ofNat (n : Nat) : Json := .num (.int n)

/-- An integer as a JSON integer. -/
def ofInt (i : Int) : Json := .num (.int i)

/-- A string, or `null` in its absence. -/
def ofText? : Option String → Json
  | some s => .str s
  | none => .null

namespace Number

/-- The nearest binary64 number. -/
def toFloat : Number → Float
  | .int i => Float.ofInt i
  | .float x => x

/-- The integer, when it fits into 64 bits with a sign. -/
def int64? : Number → Option Int
  | .int i => if Mailroom.Number.fitsInt64 i then some i else none
  | .float _ => none

/-- Two numbers of one kind are compared by value; an integer and a fraction differ. -/
def beq : Number → Number → Bool
  | .int i, .int j => i == j
  | .float x, .float y => x == y
  | _, _ => false

instance : BEq Number := ⟨beq⟩

/-- A finite binary64 number. -/
def ofFloat? (x : Float) : Option Number := if x.isFinite then some (.float x) else none

end Number

mutual

/-- Equality of values, member by member and item by item. -/
def beq : Json → Json → Bool
  | .null, .null => true
  | .bool a, .bool b => a == b
  | .num a, .num b => a == b
  | .str a, .str b => a == b
  | .arr as, .arr bs => beqItems as bs
  | .obj as, .obj bs => beqMembers as bs
  | _, _ => false

@[inherit_doc beq]
def beqItems : List Json → List Json → Bool
  | [], [] => true
  | a :: as, b :: bs => beq a b && beqItems as bs
  | _, _ => false

@[inherit_doc beq]
def beqMembers : List (String × Json) → List (String × Json) → Bool
  | [], [] => true
  | (k, a) :: as, (l, b) :: bs => k == l && beq a b && beqMembers as bs
  | _, _ => false

end

instance : BEq Json := ⟨beq⟩

end Json

end Mailroom
