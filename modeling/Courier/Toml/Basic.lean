import Courier.Double.Basic

/-! Values of settings files. -/
namespace Courier.Toml

inductive Value where
  | string (s : String)
  | integer (i : Int)
  | real (x : Double)
  | bool (b : Bool)
  /-- A date, a time or both, as it is written in its usual form. -/
  | moment (text : String)
  | array (items : List Value)
  | table (entries : List (String × Value))
deriving Repr, Inhabited

namespace Value

def text? : Value → Option String
  | string s => some s
  | _ => none

def bool? : Value → Option Bool
  | bool b => some b
  | _ => none

/-- A whole number that is not negative and below a bound. -/
def below? (bound : Nat) : Value → Option Nat
  | integer (.ofNat n) => if n < bound then some n else none
  | _ => none

def real? : Value → Option Double
  | real x => some x
  | integer i => some (Double.ofInt i)
  | _ => none

def texts? : Value → Option (List String)
  | array items => items.mapM text?
  | _ => none

end Value
end Courier.Toml
