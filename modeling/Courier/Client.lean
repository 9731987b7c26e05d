import Courier.Node.Basic
import Courier.Relay

/-!
A client: a relay together with the node that it hands its requests to. What it needs from its
surroundings are exchanges with addresses instead of submissions and queries.
-/
namespace Courier
namespace Client

/-- What a client needs from its surroundings. -/
inductive Question where
  | post (request : Node.Post)
  /-- A random word. -/
  | draw
  /-- Whether shutdown has come. -/
  | raised
  | sleep (time : Duration)
  | count (counter : Counter)

def Answer : Question → Type
  | .post _ => Delayed Node.Exchange
  | .draw => UInt64
  | .raised => Bool
  | .sleep _ => Relay.Waking
  | .count _ => Unit

end Client

abbrev Serving (α : Type) : Type :=
  Dialogue Client.Question Client.Answer α

namespace Client

def posting {α : Type} (d : Node.Posting α) : Serving α :=
  d.substitute fun request => .question (.post request)

/-- How a node answers a relay. -/
def through (n : Node) : (q : Relay.Question) → Serving (Relay.Answer q)
  | .submit request => posting (n.submit request)
  | .outcome receipt => posting (n.outcome receipt)
  | .draw => .question Question.draw
  | .raised => .question Question.raised
  | .sleep time => .question (Question.sleep time)
  | .count c => .question (Question.count c)

def relaying {α : Type} (n : Node) (d : Relaying α) : Serving α :=
  d.substitute (through n)

end Client
end Courier
