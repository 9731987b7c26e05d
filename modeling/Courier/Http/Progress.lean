import Courier.Http.Posting

/-!
Replies as they come over a connection: a head that ends with an empty line, and a body that comes
in chunks, has a length, or ends with the connection.
-/
namespace Courier.Http

/-- What the bytes that are there amount to. -/
inductive Progress where
  | unfinished
  | finished (reply : Node.Exchange)

/-- How the end of a body is found. -/
inductive Framing where
  | chunks
  | length (n : Nat)
  | untilClosed
deriving DecidableEq, Repr

def stripReturn (line : Octets) : Octets :=
  if line.getLast? = some '\r' then line.dropLast else line

def headLines? (s : Octets) : Option (List Octets × Octets) :=
  match h : Text.cutAt '\n' s with
  | none => none
  | some (line, rest) =>
    have := Text.cutAt_length_lt h
    if (stripReturn line).isEmpty then some ([], rest)
    else (headLines? rest).map fun (lines, rest) => (stripReturn line :: lines, rest)
termination_by s.length

def statusOf? (line : Octets) : Option Nat :=
  match Text.pieces ' ' line with
  | _ :: digits :: _ => Numeral.digits? digits
  | _ => none

/-- The value of a header, whose name is given in lower case. -/
def header? (name : String) (lines : List Octets) : Option Octets :=
  lines.findSome? fun line =>
    (Text.cutAt ':' line).bind fun (n, value) =>
      if String.ofList (n.map Text.lowerAscii) = name then some (Text.trim value) else none

def framingOf (lines : List Octets) : Framing :=
  match header? "transfer-encoding" lines, header? "content-length" lines with
  | some _, _ => .chunks
  | none, some digits => (Numeral.digits? digits).elim .untilClosed .length
  | none, none => .untilClosed

/-- The size at the beginning of a chunk; what follows a semicolon does not count. -/
def chunkSize? (line : Octets) : Option Nat :=
  let digits := Text.trim (((Text.cutAt ';' line).map Prod.fst).getD line)
  if digits.isEmpty then none else Numeral.accumulate? 16 0 digits

/-- The body that chunks make up, once the last one is there. -/
def joinChunks? (s : Octets) : Option Octets :=
  match h : Text.cutAt '\n' s with
  | none => none
  | some (line, rest) =>
    have := Text.cutAt_length_lt h
    match chunkSize? line with
    | none => none
    | some 0 => some []
    | some n =>
      if rest.length < n + 2 then none
      else (joinChunks? (rest.drop (n + 2))).map (rest.take n ++ ·)
termination_by s.length
decreasing_by simp only [List.length_drop]; omega

def body? (framing : Framing) (s : Octets) (closed : Bool) : Option Octets :=
  match framing with
  | .chunks => joinChunks? s
  | .length n => if n ≤ s.length then some (s.take n) else none
  | .untilClosed => if closed then some s else none

/-- What has come so far. A body that breaks off counts as an empty one, which no caller can read;
a head that breaks off is no reply at all. Nobody reads the body of a reply that is no success, so
this one is there with its head. -/
def Progress.ofOctets (s : Octets) (closed : Bool) : Progress :=
  match headLines? s with
  | none => if closed then .finished .failed else .unfinished
  | some ([], _) => .finished .failed
  | some (first :: headers, rest) =>
    match statusOf? first with
    | none => .finished .failed
    | some status =>
      if Node.isSuccess status then
        match body? (framingOf headers) rest closed with
        | some body => .finished (.reply status (bytesOf body))
        | none => if closed then .finished (.reply status []) else .unfinished
      else .finished (.reply status [])

end Courier.Http
