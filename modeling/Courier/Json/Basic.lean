import Courier.Double.Basic

/-! JSON values and how to look into them. -/
namespace Courier

/-- A JSON value. Whole numbers are kept exactly; objects keep the order of their members. -/
inductive Json where
  | null
  | bool (b : Bool)
  | integer (i : Int)
  | real (x : Double)
  | string (s : String)
  | array (items : List Json)
  | object (members : List (String × Json))
deriving Repr, Inhabited

namespace Json

def nat (n : Nat) : Json := .integer n

def member? (name : String) : Json → Option Json
  | .object members => (members.find? fun m => m.1 == name).map Prod.snd
  | _ => none

/-- The member of an object with this name, `null` when there is none. -/
def get (name : String) (v : Json) : Json :=
  (v.member? name).getD .null

def text? : Json → Option String
  | .string s => some s
  | _ => none

def items? : Json → Option (List Json)
  | .array items => some items
  | _ => none

def members? : Json → Option (List (String × Json))
  | .object members => some members
  | _ => none

def bool? : Json → Option Bool
  | .bool b => some b
  | _ => none

def nat? : Json → Option Nat
  | .integer (.ofNat n) => some n
  | _ => none

def isNull : Json → Bool
  | .null => true
  | _ => false

/-- Members with each name once, where the last value of a name is the one that counts. -/
def lastOfEach : List (String × Json) → List (String × Json)
  | [] => []
  | (name, v) :: rest =>
    let later := lastOfEach rest
    if later.any fun m => m.1 == name then later else (name, v) :: later

end Json
end Courier
