import Reckoner.Binary64.Text

/-!
JSON values. Whole numbers and binary64 numbers are kept apart, as they are in writing; the members
of an object stand in the order in which their keys first occurred.
-/

namespace Reckoner

inductive Json where
  | null
  | bool (b : Bool)
  | integer (n : Int)
  | number (x : Binary64)
  | string (s : String)
  /-- A string with half of a character in it, which is no text; the replacement character stands
  for the half. -/
  | unpaired (s : String)
  | array (elements : List Json)
  | object (members : List (String × Json))
deriving Inhabited

namespace Json

/-- Members with the value of a key set: a key that is there keeps its place. So of several members
with one key the last value counts, in the place of the first. -/
def setMember (key : String) (value : Json) : List (String × Json) → List (String × Json)
  | [] => [(key, value)]
  | (k, v) :: rest => if k = key then (k, value) :: rest else (k, v) :: setMember key value rest

/-- The member of an object, if the value is an object that has it. Of other values it is none,
which does not tell the two cases apart. -/
def member? (key : String) : Json → Option Json
  | .object members => members.lookup key
  | _ => none

def isVacant : Json → Bool
  | .null | .bool false | .integer 0 | .string "" | .array [] | .object [] => true
  | .number x => x.isZero
  | _ => false

def kind : Json → String
  | .null => "NoneType"
  | .bool _ => "bool"
  | .integer _ => "int"
  | .number _ => "float"
  | .string _ | .unpaired _ => "str"
  | .array _ => "list"
  | .object _ => "dict"

mutual

def depth : Json → Nat
  | .array elements => depthOfElements elements + 1
  | .object members => depthOfMembers members + 1
  | _ => 0

def depthOfElements : List Json → Nat
  | [] => 0
  | value :: rest => max value.depth (depthOfElements rest)

def depthOfMembers : List (String × Json) → Nat
  | [] => 0
  | (_, value) :: rest => max value.depth (depthOfMembers rest)

end

end Json

end Reckoner
