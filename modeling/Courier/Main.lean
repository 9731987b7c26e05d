import Std.Async
import Courier.CommandLine.Plan
import Courier.Hex
import Courier.Http.Progress

/-!
The program: answers the questions of a command from files, the environment, the clock and the
network. An interrupt raises shutdown; a second one ends the process as usual. Connections are
plain, so addresses that ask for an encrypted one cannot be reached.
-/
namespace Courier

/-! Random identifiers of 128 bits, in groups of hexadecimal digits. -/
namespace Uuid

/-- Sets the bits that mark an identifier as a random one. -/
def marked (bytes : List UInt8) : List UInt8 :=
  bytes.mapIdx fun i b =>
    if i = 6 then 0x40 ||| (b &&& 0x0f)
    else if i = 8 then 0x80 ||| (b &&& 0x3f)
    else b

def toText (bytes : List UInt8) : String :=
  let digits := Hex.encode (marked bytes)
  let group (start count : Nat) : String := String.ofList ((digits.drop start).take count)
  "-".intercalate [group 0 8, group 8 4, group 12 4, group 16 4, group 20 12]

end Uuid

namespace Main

open Std.Async

/-- The longest time that is waited for at once, in milliseconds. -/
def longestWait : Nat := 0x4000000000000

def portOf (u : Url) : Nat :=
  match u.authority.bind Url.Authority.port, Url.SchemeKind.ofScheme u.scheme with
  | some port, _ => port
  | none, .web port => port
  | none, _ => 80

def hostOf (u : Url) : String :=
  u.authority.elim "" fun a =>
    match a.host with
    | .ipv6 groups => String.ofList (Ip.groupedText groups)
    | host => String.ofList host.toText

/-- Goes on receiving until the reply is there. -/
partial def receive (socket : TCP.Socket.Client) (received : Http.Octets) :
    Async Node.Exchange := do
  match ← socket.recv? 65536 with
  | none =>
    match Http.Progress.ofOctets received true with
    | .finished reply => return reply
    | .unfinished => return .failed
  | some bytes =>
    let received := received ++ bytes.toList.map fun b => Char.ofNat b.toNat
    match Http.Progress.ofOctets received false with
    | .finished reply => return reply
    | .unfinished => receive socket received

def talk (p : Node.Post) (id : String) : Async Node.Exchange := do
  if p.url.scheme != "http" then return .failed
  let port := UInt16.ofNat (portOf p.url)
  let addresses ← DNS.getAddrInfo (hostOf p.url) (toString port)
  for address in addresses do
    let target : Std.Net.SocketAddress := match address with
      | .v4 a => .v4 ⟨a, port⟩
      | .v6 a => .v6 ⟨a, port⟩
    let socket ← TCP.Socket.Client.mk
    let connected ← try socket.connect target; pure true catch _ => pure false
    if connected then
      socket.send (Http.postText p.url (Http.callBody p id).compact).toUTF8
      return ← receive socket []
  return .failed

/-- One exchange, given up a moment after the deadline. -/
def exchange (deadline : Duration) (p : Node.Post) : IO (Delayed Node.Exchange) := do
  let id := Uuid.toText (← IO.getRandomBytes 16).toList
  let start ← IO.monoMsNow
  let limit := min (deadline.ceilMilliseconds + 1) longestWait
  let work : Async Node.Exchange := try talk p id catch _ => pure .failed
  let timer : Async Node.Exchange := do
    Std.Async.sleep (.ofNat limit)
    return .failed
  let value ← (Async.race work timer).block
  return ⟨(← IO.monoMsNow) - start, value⟩

/-- Sleeps in short turns, so that an interrupt is seen. -/
def wait (raised : IO.Ref Bool) (time : Duration) : IO Relay.Waking := do
  let stop := (← IO.monoMsNow) + time.ceilMilliseconds
  let mut now ← IO.monoMsNow
  while now < stop do
    if ← raised.get then return .cut
    IO.sleep (UInt32.ofNat (min 20 (stop - now)))
    now ← IO.monoMsNow
  return .elapsed

/-- Answers a client. Nobody collects what is counted. -/
def answer (deadline : Duration) (raised : IO.Ref Bool) :
    (q : Client.Question) → IO (Client.Answer q)
  | .post p => exchange deadline p
  | .draw => return UInt64.ofNat (← IO.rand 0 (UInt64.size - 1))
  | .raised => raised.get
  | .sleep time => wait raised time
  | .count _ => return ()

def watchInterrupt (raised : IO.Ref Bool) : IO Unit := do
  let waiter ← Signal.Waiter.mk .sigint false
  discard <| IO.mapTask (fun _ => raised.set true) (← waiter.wait)

/-- Carries out a plan; dialogues that may overlap have a thread each. -/
def carryOut (answer : (q : Client.Question) → IO (Client.Answer q)) :
    CommandLine.Plan → IO CommandLine.Ending
  | .alone dialogue => dialogue.interpret answer
  | .sideBySide dialogues ending => do
    let tasks ← dialogues.mapM fun d => IO.asTask (d.interpret answer) .dedicated
    let results ← tasks.mapM fun t => IO.ofExcept t.get
    return ending results

def readFile (path : String) : IO (Except ReadError (List UInt8)) := do
  try return .ok (← IO.FS.readBinFile path).toList
  catch
    | .noFileOrDirectory .. => return .error .missing
    | e => return .error (.other (toString e))

def lookup {α : Type} (entries : List (String × α)) (name : String) : Option α :=
  (entries.find? (·.1 == name)).map Prod.snd

def finish (e : CommandLine.Ending) : IO UInt32 := do
  IO.print e.stdout
  if let some failure := e.failure? then IO.eprintln ("Error: " ++ failure.report)
  return e.status.toUInt32

def usage : String :=
  "usage: courier [--config FILE] [--log-level LEVEL] COMMAND\ncommands: " ++
    ", ".intercalate (CommandLine.commandMenu.map Prod.fst)

def readFiles (i : CommandLine.Invocation) :
    IO (List (String × Except ReadError (List UInt8))) :=
  i.paths.mapM fun path => do
    let contents ← readFile path
    return (path, contents)

def readVariables : IO (List (String × String)) :=
  Environment.names.filterMapM fun name => do
    let value ← IO.getEnv name
    return value.map (name, ·)

def run (i : CommandLine.Invocation) : IO UInt32 := do
  let contents ← readFiles i
  let environment ← readVariables
  let files (path : String) := (lookup contents path).getD (.error .missing)
  match i.settings files (lookup environment), i.plan files (lookup environment) with
  | .error failure, _ => finish (.failed failure)
  | _, .error failure => finish (.failed failure)
  | .ok c, .ok plan =>
    let raised ← IO.mkRef false
    watchInterrupt raised
    let ending ← carryOut (answer c.node.rpcTimeout raised) plan
    finish ending

end Main
end Courier

def main (args : List String) : IO UInt32 := do
  match Courier.CommandLine.Invocation.ofArguments args with
  | .ok invocation => Courier.Main.run invocation
  | .error .help =>
    IO.println Courier.Main.usage
    return Courier.CommandLine.Refusal.status .help |>.toUInt32
  | .error .misuse =>
    IO.eprintln Courier.Main.usage
    return Courier.CommandLine.Refusal.status .misuse |>.toUInt32
