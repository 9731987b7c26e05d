import Courier.Config.Settings
import Courier.Numeral
import Courier.Text.Cut

/-!
Environment variables that come before the settings of a file. Numbers may have blanks around
them.
-/
namespace Courier

namespace Environment

def nodeAddress : String := "RELAY_NODE_ADDRESS"
def chainName : String := "RELAY_CHAIN_NAME"
def paymentAmount : String := "RELAY_PAYMENT_AMOUNT"
def ttl : String := "RELAY_TTL_MS"

def names : List String := [nodeAddress, chainName, paymentAmount, ttl]

/-- A variable that holds no number. -/
structure BadValue where
  name : String
  value : String
deriving DecidableEq, Repr

def number (name : String) (value : Option String) (set : UInt64 → Config → Config) (c : Config) :
    Config × Option BadValue :=
  match value with
  | none => (c, none)
  | some text =>
    match Numeral.unsignedBits? 64 (Text.trim text.toList) with
    | some n => (set (UInt64.ofNat n) c, none)
    | none => (c, some ⟨name, text⟩)

def text (value : Option String) (set : String → Config → Config) (c : Config) : Config :=
  value.elim c fun s => set s c

/-- The settings under an environment. The first bad value ends the changes and is told along with
those made before it. -/
def apply (lookup : String → Option String) (c : Config) : Config × Option BadValue :=
  let c := text (lookup nodeAddress) (fun s c => { c with node.rpcUrl := s }) c
  let c := text (lookup chainName) (fun s c => { c with node.chainName := s }) c
  match number paymentAmount (lookup paymentAmount)
    (fun n c => { c with deploy.paymentAmount := n }) c with
  | (c, some bad) => (c, some bad)
  | (c, none) => number ttl (lookup ttl) (fun n c => { c with deploy.ttlMs := n }) c

end Environment
end Courier
