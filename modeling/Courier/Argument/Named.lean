import Courier.Argument.Value

/-!
A named argument, written as `name:type=value`. The value starts after the first equals sign, the
type after the first colon before that; neither may be missing and the name may not be empty.
-/
namespace Courier

structure NamedArgument where
  name : String
  value : ArgumentValue
deriving DecidableEq, Repr

namespace NamedArgument

/-- The three parts of a written argument: name, type and value. -/
def parts? (s : List Char) : Option (List Char × List Char × List Char) :=
  match Text.cutAt '=' s with
  | none => none
  | some (head, value) =>
    match Text.cutAt ':' head with
    | none => none
    | some (name, type) => if name.isEmpty then none else some (name, type, value)

/-- Reads a written argument. The case of letters in the type does not matter. -/
def ofText (s : String) : Except ArgumentError NamedArgument :=
  match parts? s.toList with
  | none => .error (.malformed s)
  | some (name, type, value) =>
    let word := String.ofList (type.map Text.lowerAscii)
    match ArgumentValue.ofText? word (String.ofList type) value with
    | none => .error (.unknownType word)
    | some v => v.map fun v => ⟨String.ofList name, v⟩

/-- Writes an argument, the type by its lowercase word. -/
def toText (a : NamedArgument) : String :=
  a.name ++ ":" ++ a.value.typeWord ++ "=" ++ a.value.toText

end NamedArgument
end Courier
