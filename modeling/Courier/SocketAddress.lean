import Courier.Ip

/-!
Socket addresses: an internet address and a port. Grouped addresses stand in brackets and may name
a scope after a percent sign.
-/
namespace Courier

inductive SocketAddress where
  | v4 (bytes : List Nat) (port : Nat)
  | v6 (groups : List Nat) (scope : Nat) (port : Nat)
deriving DecidableEq, Repr

namespace SocketAddress

def number? (bits : Nat) (s : List Char) : Option Nat :=
  (Numeral.digits? s).filter (· < Nat.pow 2 bits)

/-- What stands between the brackets: groups, and the scope, which is zero when there is none. -/
def scoped? (s : List Char) : Option (List Nat × Nat) :=
  match Text.cutAt '%' s with
  | none => (Ip.grouped? s).map (·, 0)
  | some (groups, scope) =>
    match Ip.grouped? groups, number? 32 scope with
    | some gs, some n => some (gs, n)
    | _, _ => none

def ofText? (s : String) : Option SocketAddress :=
  match s.toList with
  | '[' :: rest =>
    match Text.cutAt ']' rest with
    | some (inside, ':' :: port) =>
      match scoped? inside, number? 16 port with
      | some (groups, scope), some port => some (v6 groups scope port)
      | _, _ => none
    | _ => none
  | s =>
    match Text.cutAt ':' s with
    | some (host, port) =>
      match Ip.dotted? host, number? 16 port with
      | some bytes, some port => some (v4 bytes port)
      | _, _ => none
    | none => none

end SocketAddress
end Courier
