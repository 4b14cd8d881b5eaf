import Egress.Decimal.Shortest

/-!
# JSON values

A number is an integer of 64 bits, signed or unsigned, or a double. An object is kept as the list of
its members; objects that are read or built by `ofMembers` have their keys in the order of their
code points and each key once, the last value given for a key being the one that stays.
-/

namespace Egress

inductive Json.Number where
  | integer (n : Int)
  | double (x : Binary64)
  deriving Repr, DecidableEq

inductive Json where
  | null
  | bool (b : Bool)
  | number (n : Json.Number)
  | string (s : String)
  | array (items : List Json)
  | object (members : List (String × Json))
  deriving Repr, BEq

namespace Json

namespace Number

def integerChars (n : Int) : List Char :=
  if n < 0 then '-' :: Nat.toDigits 10 n.natAbs else Nat.toDigits 10 n.natAbs

def chars : Number → List Char
  | integer n => integerChars n
  | double x => x.text

def text (n : Number) : String :=
  String.ofList n.chars

end Number

/-- Puts a member among members with increasing keys, replacing the value of an equal key. -/
def insertMember (key : String) (value : Json) : List (String × Json) → List (String × Json)
  | [] => [(key, value)]
  | (k, v) :: rest =>
    if key < k then (key, value) :: (k, v) :: rest
    else if key = k then (key, value) :: rest
    else (k, v) :: insertMember key value rest

/-- The members with their keys in order, the last value of each key. -/
def sortMembers (members : List (String × Json)) : List (String × Json) :=
  members.foldl (fun sorted m => insertMember m.1 m.2 sorted) []

def ofMembers (members : List (String × Json)) : Json :=
  object (sortMembers members)

def lookup (key : String) (members : List (String × Json)) : Option Json :=
  (members.find? (fun m => m.1 == key)).map Prod.snd

def isNull : Json → Bool
  | null => true
  | _ => false

def members? : Json → Option (List (String × Json))
  | object ms => some ms
  | _ => none

def string? : Json → Option String
  | string s => some s
  | _ => none

/-- The value of a member; none for values that are no object or lack it. -/
def get? (v : Json) (key : String) : Option Json :=
  v.members?.bind (lookup key)

def ofInt (n : Int) : Json := number (.integer n)

def ofNat (n : Nat) : Json := number (.integer n)

end Json

end Egress
