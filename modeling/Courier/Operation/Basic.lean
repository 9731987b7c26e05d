import Courier.Request

/-!
Contract operations: an entry point, its arguments, and the payment that it usually needs.
-/
namespace Courier

structure Operation where
  entryPoint : String
  arguments : Arguments
  /-- Payment in motes when the caller names none; without one the settings decide. -/
  usualPayment : Option UInt64
deriving DecidableEq, Repr

namespace Operation

def motesPerUnit : UInt64 := 1000000000

/-- An operation on a contract. A payment of the caller comes before the usual one, and that before
the one of the settings. -/
def request (op : Operation) (contract : ContractHash) (payment : Option UInt64)
    (defaults : DeploySettings) : Request :=
  let draft := (Request.Draft.call contract op.entryPoint).withArguments op.arguments
  match payment.or op.usualPayment with
  | some motes => (draft.withPayment motes).build defaults
  | none => draft.build defaults

end Operation
end Courier
