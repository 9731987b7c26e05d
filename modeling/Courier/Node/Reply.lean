import Courier.Json.Written

/-!
Replies of a node: an object with the members `result` and `error`, or a list of the two in this
order. Members with other names are passed over; a known one may not come twice.
-/
namespace Courier.Node

/-- What a reply holds. Members that are missing and those that are `null` count as one. -/
structure Reply where
  result : Option Json
  /-- The number of an error and its message. -/
  error : Option (Int × String)

namespace Reply

/-- The value of a member, which may not be there twice. -/
def once? (name : String) (members : List (Option String × Json.Written)) :
    Option (Option Json.Written) :=
  match members.filter fun m => m.1 == some name with
  | [] => some none
  | [m] => some (some m.2)
  | _ => none

/-- The members with two given names, or the items of a list of at most two. -/
def pair? (first second : String) :
    Json.Written → Option (Option Json.Written × Option Json.Written)
  | .object members =>
    if members.all fun m => m.1.isSome then
      match once? first members, once? second members with
      | some a, some b => some (a, b)
      | _, _ => none
    else none
  | .array [] => some (none, none)
  | .array [a] => some (some a, none)
  | .array [a, b] => some (some a, some b)
  | _ => none

def word? : Json.Written → Option Int
  | .integer false n => if n < 0x8000000000000000 then some n else none
  | .integer true n => if n ≠ 0 ∧ n ≤ 0x8000000000000000 then some (-(n : Int)) else none
  | _ => none

/-- A number and a message, both of which must be there. -/
def error? (v : Json.Written) : Option (Int × String) :=
  match pair? "code" "message" v with
  | some (some code, some (.string (some message))) => (word? code).map (·, message)
  | _ => none

def optional? {α : Type} (read : Json.Written → Option α) :
    Option Json.Written → Option (Option α)
  | none => some none
  | some .null => some none
  | some v => (read v).map some

/-- The reply that a written value is. The result lies one level below it. -/
def ofWritten? (v : Json.Written) : Option Reply :=
  match pair? "result" "error" v with
  | none => none
  | some (result, error) =>
    match optional? (Json.Written.toJson? (Json.maxDepth - 1)) result, optional? error? error with
    | some result, some error => some ⟨result, error⟩
    | _, _ => none

def ofBody? (body : List UInt8) : Option Reply :=
  (String.fromUTF8? ⟨body.toArray⟩).bind fun text =>
    (Json.Written.ofText? text.toList).bind ofWritten?

end Reply
end Courier.Node
