import Courier.Unicode.Composition
import Courier.Unicode.Direction
import Courier.Unicode.Joining
import Courier.Unicode.Mark
import Courier.Unicode.NameForm
import Courier.Url.Punycode

/-!
Domain names in ASCII. Names are brought into their usual form first; a label with characters beyond
ASCII is then written in punycode behind a mark.
-/
namespace Courier.Url

def punycodeMark : List Char := "xn--".toList

def isForbidden (c : Char) : Bool :=
  c.toNat ≤ 0x20 || c.toNat == 0x7F || "%#/:<>?@[\\]^|".toList.contains c

/-- All characters in the form that names have, unless one may not occur. -/
def nameForms? : List Char → Option (List Char)
  | [] => some []
  | c :: rest =>
    match Unicode.nameForm? c, nameForms? rest with
    | some form, some rest => some (form ++ rest)
    | _, _ => none

def usualName? (name : List Char) : Option (List Char) :=
  ((nameForms? name).map Unicode.compose).filter fun s => !s.any isForbidden

/-- Whether a label beyond ASCII may stand in a name. -/
def isProperLabel (label : List Char) : Bool :=
  !label.head?.any Unicode.isMark && Unicode.joinersFit [] label

/-- Whether a decoded label is one that encoding gives. -/
def isUsualLabel (label : List Char) : Bool :=
  label.any (fun c => !Punycode.isBasic c) && usualName? label == some label &&
    !label.contains '.' && isProperLabel label

/-- A label as it is read: out of punycode if it is marked. -/
def readLabel? (label : List Char) : Option (List Char) :=
  match Text.after? punycodeMark label with
  | some code => (Punycode.decode? code).filter isUsualLabel
  | none => if label.all Punycode.isBasic || isProperLabel label then some label else none

def writeLabel (label : List Char) : List Char :=
  if label.all Punycode.isBasic then label else punycodeMark ++ Punycode.encode label

/-- Labels of a name with characters from right to left each keep their direction. -/
def keepDirections (labels : List (List Char)) : Bool :=
  !labels.any Unicode.turnsLeft || labels.all Unicode.keepsDirection

def domainToAscii? (name : List Char) : Option (List Char) := do
  let labels ← (Text.pieces '.' (← usualName? name)).mapM readLabel?
  if keepDirections labels then some (['.'].intercalate (labels.map writeLabel)) else none

end Courier.Url
