import Courier.Argument.Named
import Courier.Proofs.Argument.Value

/-!
Named arguments that are written are read back, in whatever case their type is spelled. The value
may hold the separators itself, since the first of each are the ones that count.
-/
namespace Courier.NamedArgument

theorem parts?_append {name type : List Char} (value : List Char) (hname : name ≠ [])
    (hcolon : ':' ∉ name) (hequals : '=' ∉ name ++ ':' :: type) :
    parts? (name ++ ':' :: type ++ '=' :: value) = some (name, type, value) := by
  unfold parts?
  rw [Text.cutAt_append hequals]
  dsimp only
  rw [Text.cutAt_append hcolon]
  exact if_neg (by simpa using hname)

/-- No name of a type holds an equals sign, and no other character has one for its lower case. -/
theorem equals_not_mem_of_lower {v : ArgumentValue} {type : List Char}
    (htype : type.map Text.lowerAscii = v.typeWord.toList) : '=' ∉ type := by
  have hword : '=' ∉ v.typeWord.toList := by
    cases v <;> simp [ArgumentValue.typeWord]
  intro hmem
  have hlower : Text.lowerAscii '=' ∈ v.typeWord.toList :=
    htype ▸ List.mem_map_of_mem hmem
  exact hword hlower

/-- A value under a name is read back from the word for its type in any case. -/
theorem ofText_append (v : ArgumentValue) {name type : String} (hname : name ≠ "")
    (hcolon : ':' ∉ name.toList) (hequals : '=' ∉ name.toList)
    (htype : type.toList.map Text.lowerAscii = v.typeWord.toList) :
    ofText (name ++ ":" ++ type ++ "=" ++ v.toText) = .ok ⟨name, v⟩ := by
  have hhead : '=' ∉ name.toList ++ ':' :: type.toList := by
    simp [hequals, equals_not_mem_of_lower htype]
  have hparts : parts? (name ++ ":" ++ type ++ "=" ++ v.toText).toList =
      some (name.toList, type.toList, v.toText.toList) := by
    rw [← parts?_append v.toText.toList (by simpa using hname) hcolon hhead]
    simp
  unfold ofText
  rw [hparts]
  simp only [htype, String.ofList_toList, ArgumentValue.ofText?_toText]
  rfl

theorem ofText_toText (a : NamedArgument) (hname : a.name ≠ "") (hcolon : ':' ∉ a.name.toList)
    (hequals : '=' ∉ a.name.toList) : ofText a.toText = .ok a :=
  ofText_append a.value hname hcolon hequals (ArgumentValue.lower_typeWord a.value)

/-- Every value under every name that can be written is read back from its readable form, with the
name of its type in any mixture of upper and lower case. -/
theorem ofText_spelled (v : ArgumentValue) {name type : String} (hname : name ≠ "")
    (hcolon : ':' ∉ name.toList) (hequals : '=' ∉ name.toList)
    (htype : type.toList.map Text.lowerAscii = v.typeName.toList.map Text.lowerAscii) :
    ofText (name ++ ":" ++ type ++ "=" ++ v.readable.bare) = .ok ⟨name, v⟩ := by
  rw [← ArgumentValue.toText_eq]
  exact ofText_append v hname hcolon hequals (htype.trans (ArgumentValue.lower_typeName v))

/-- A string that holds both separators, its type in mixed case. -/
theorem ofText_spelled_separators :
    "symbol" ≠ "" ∧ ':' ∉ "symbol".toList ∧ '=' ∉ "symbol".toList ∧
      "sTrInG".toList.map Text.lowerAscii = "String".toList.map Text.lowerAscii ∧
      ofText ("symbol" ++ ":" ++ "sTrInG" ++ "=" ++ "a=b:u8=0x") =
        .ok ⟨"symbol", .string "a=b:u8=0x"⟩ :=
  ⟨by decide, by decide, by decide, by decide,
    ofText_spelled (.string "a=b:u8=0x") (by decide) (by decide) (by decide) (by decide)⟩

end Courier.NamedArgument
