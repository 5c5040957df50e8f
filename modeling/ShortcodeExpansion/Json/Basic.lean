/-!
# JSON values

The values of a JSON text.  An integer that fits in 64 bits is kept exactly; any other number is
kept as the decimal that was written.  The members of an object that was read ascend by key, and of
two members with one key the last is kept.
-/

set_option autoImplicit false

namespace ShortcodeExpansion

/-- The number `digits · 10 ^ exponent`, negated if `negative`. -/
structure Decimal where
  negative : Bool
  digits : Nat
  exponent : Int
deriving DecidableEq, Repr, Inhabited

inductive Json where
  | null
  | bool (value : Bool)
  | integer (value : Int)
  | decimal (value : Decimal)
  | string (value : String)
  | array (items : List Json)
  | object (members : List (String × Json))
deriving Repr, Inhabited

namespace Json

/-- Puts a member into ascending members; a member with the same key is replaced. -/
def insertMember (key : String) (value : Json) : List (String × Json) → List (String × Json)
  | [] => [(key, value)]
  | member :: rest =>
      if key < member.1 then (key, value) :: member :: rest
      else if key = member.1 then (key, value) :: rest
      else member :: insertMember key value rest

/-- The object with the members of a list, the last of each key. -/
def ofMembers (members : List (String × Json)) : Json :=
  .object (members.foldl (fun sorted member => insertMember member.1 member.2 sorted) [])

/-- The value of an object's member. -/
def member? (key : String) : Json → Option Json
  | .object members => (members.find? fun member => member.1 = key).map (·.2)
  | _ => none

end Json

end ShortcodeExpansion
