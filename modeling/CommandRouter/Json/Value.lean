import CommandRouter.Json.Double
import CommandRouter.Text.Decimal

/-!
# JSON values

A number is an integer or a double; the two are kept apart because a text with a point or an
exponent is never taken for an integer. An object is a list of members. Where an object is free
data it is kept *canonical*: its members are in the order of their names and have distinct names.
-/

namespace CommandRouter

/-- A number of a JSON value. -/
inductive Number where
  /-- An integer. -/
  | integer (n : Int)
  /-- A double. -/
  | double (x : Double)
  deriving DecidableEq

/-- A JSON value. -/
inductive Json where
  | null
  | bool (b : Bool)
  | number (n : Number)
  | string (s : String)
  | array (items : List Json)
  | object (members : List (String × Json))

namespace Number

/-- The number as an integer of 64 bits with a sign; a double is none. -/
def signed? : Number → Option Int
  | integer n => some n |>.filter Decimal.fitsSigned
  | double _ => none

/-- The number as a double, to which an integer is rounded. An integer that takes more than 64 bits
is none. -/
def double? : Number → Option Double
  | integer n =>
    if Decimal.fitsSigned n || Decimal.fitsUnsigned n then some (.ofInteger n) else none
  | double x => some x

end Number

namespace Json

/-- The integer as a JSON value. -/
def int (n : Int) : Json := .number (.integer n)

/-- The natural number as a JSON value. -/
def nat (n : Nat) : Json := .int n

/-- Members in the order of their names with one more member; a member of the same name is
replaced. -/
def insertMember {α : Type} (name : String) (value : α) : List (String × α) → List (String × α)
  | [] => [(name, value)]
  | (other, x) :: rest =>
    if name < other then (name, value) :: (other, x) :: rest
    else if name = other then (name, value) :: rest
    else (other, x) :: insertMember name value rest

/-- The members in the order of their names; of several with one name the last is kept. -/
def sortMembers {α : Type} (members : List (String × α)) : List (String × α) :=
  members.foldl (fun sorted (name, value) => insertMember name value sorted) []

/-- The value of the first member with the given name, if the value is an object that has one. -/
def get? (name : String) : Json → Option Json
  | object members => members.lookup name
  | _ => none

end Json

end CommandRouter
