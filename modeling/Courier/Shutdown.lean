/-!
Coordinated shutdown. A coordinator opens a channel; its clones share the channel, and signals are
taken from it. Triggering any coordinator of a channel raises it for good, and every signal of the
channel sees that, also after all coordinators are gone. A signal that never fires has a channel
without coordinators.
-/
namespace Courier

/-- What is done with coordinators and signals, each known by a name. A name that is used again
stands for the newer one; a source that does not exist changes nothing. -/
inductive ShutdownStep where
  | create (owner : String)
  | cloneOwner (owner source : String)
  | dropOwner (owner : String)
  | subscribe (signal source : String)
  | never (signal : String)
  | cloneSignal (signal source : String)
  | trigger (owner : String)
deriving DecidableEq, Repr

/-- The channels that names stand for, and which channels are raised. -/
structure Switchboard where
  owner? : String → Option Nat
  signal? : String → Option Nat
  raised : Nat → Bool
  /-- The channel that is opened next. -/
  fresh : Nat

namespace Switchboard

def empty : Switchboard where
  owner? _ := none
  signal? _ := none
  raised _ := false
  fresh := 0

instance : Inhabited Switchboard := ⟨empty⟩

/-- A function changed at one argument. -/
def put {α β : Type} [DecidableEq α] (f : α → β) (a : α) (b : β) : α → β :=
  fun x => if x = a then b else f x

def step (s : Switchboard) : ShutdownStep → Switchboard
  | .create owner => { s with owner? := put s.owner? owner (some s.fresh), fresh := s.fresh + 1 }
  | .cloneOwner owner source =>
    match s.owner? source with
    | some channel => { s with owner? := put s.owner? owner (some channel) }
    | none => s
  | .dropOwner owner => { s with owner? := put s.owner? owner none }
  | .subscribe signal source =>
    match s.owner? source with
    | some channel => { s with signal? := put s.signal? signal (some channel) }
    | none => s
  | .never signal =>
    { s with signal? := put s.signal? signal (some s.fresh), fresh := s.fresh + 1 }
  | .cloneSignal signal source =>
    match s.signal? source with
    | some channel => { s with signal? := put s.signal? signal (some channel) }
    | none => s
  | .trigger owner =>
    match s.owner? owner with
    | some channel => { s with raised := put s.raised channel true }
    | none => s

def steps (s : Switchboard) (history : List ShutdownStep) : Switchboard :=
  history.foldl step s

def ownerTriggered (s : Switchboard) (owner : String) : Bool :=
  (s.owner? owner).any s.raised

def signalTriggered (s : Switchboard) (signal : String) : Bool :=
  (s.signal? signal).any s.raised

/-- Waits for a channel to be raised while `later` happens, and tells after how many of its steps
the waiting is over. -/
def awaitRaised? (s : Switchboard) (channel : Nat) : List ShutdownStep → Option Nat
  | [] => if s.raised channel then some 0 else none
  | a :: later =>
    if s.raised channel then some 0 else ((s.step a).awaitRaised? channel later).map (· + 1)

/-- Whether waiting for a signal is over at once. -/
def cancelled (s : Switchboard) (signal : String) : Bool :=
  (s.signal? signal).any fun channel => (s.awaitRaised? channel []).isSome

end Switchboard
end Courier
