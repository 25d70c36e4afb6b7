import DoubleDispatch.Proofs.Text.Calls

/-! The types that a statement mentions: of a pointer that it declares, and of what it creates for a
variable. Both stand at the start of a line; what an author wrote further on is not looked at. -/
namespace DoubleDispatch.Text

inductive Mention where
  | pointer (type name : String)
  | creation (type name : String)
  deriving DecidableEq, Repr

namespace Mention

def type : Mention → String
  | pointer type _ | creation type _ => type

def name : Mention → String
  | pointer _ name | creation _ name => name

end Mention

/- A pointer, to what may be changed or not, and the text behind its name. -/
def pointer? (text : String) : Option (Field × String) := do
  let (type, rest) := span identifierPart ((dropFront? "const " text).getD text)
  let rest ← dropFront? "* " rest
  let (name, rest) := span identifierPart rest
  some (⟨type, name⟩, rest)

/- What is created for the variable of this name. -/
def creation? (name rest : String) : Option Mention :=
  (dropFront? " = new " rest).map fun value => .creation (span identifierPart value).1 name

def mentionsOf (text : String) : List Mention :=
  match pointer? text with
  | some (field, rest) => .pointer field.type field.name :: (creation? field.name rest).toList
  | none => (creation? (span identifierPart text).1 (span identifierPart text).2).toList

def mentions (line : String) : List Mention := mentionsOf (unindented line)

variable {type name : String}

theorem pointerBehind (typeParts : ∀ c ∈ type.toList, identifierPart c = true)
    (nameParts : ∀ c ∈ name.toList, identifierPart c = true) {text rest : String}
    (behind : (dropFront? "const " text).getD text = type ++ ("* " ++ (name ++ rest)))
    (stops : Stops identifierPart rest) : pointer? text = some (⟨type, name⟩, rest) := by
  have first : span identifierPart (type ++ ("* " ++ (name ++ rest))) =
      (type, "* " ++ (name ++ rest)) := spanAppend typeParts (stopsAt rfl _ _)
  simp only [pointer?, behind, first, dropFrontAppend, Option.bind_eq_bind, Option.bind_some,
    spanAppend nameParts stops]

/- A word that an asterisk follows is no qualifier. -/
theorem noQualifier (parts : ∀ c ∈ type.toList, identifierPart c = true) (rest : String) :
    dropFront? "const " (type ++ ("* " ++ rest)) = none := by
  rw [Option.eq_none_iff_forall_ne_some]
  intro behind found
  have constant : span identifierPart ("const" ++ (" " ++ behind)) = ("const", " " ++ behind) :=
    spanAppend (List.all_eq_true.mp (by decide)) (stopsAt rfl _ _)
  have split : span identifierPart (type ++ ("* " ++ rest)) = (type, "* " ++ rest) :=
    spanAppend parts (stopsAt rfl _ _)
  have word : "const " = "const" ++ " " := rfl
  rw [dropFrontSome found, word, String.append_assoc, constant] at split
  have next := congrArg (fun pair => pair.2.toList.head?) split
  simp at next

theorem mentionsConst (typeParts : ∀ c ∈ type.toList, identifierPart c = true)
    (nameParts : ∀ c ∈ name.toList, identifierPart c = true) {rest : String}
    (stops : Stops identifierPart rest) (other : (dropFront? " = new " rest) = none) :
    mentions ("  const " ++ (type ++ ("* " ++ (name ++ rest)))) = [.pointer type name] := by
  have line : unindented ("  const " ++ (type ++ ("* " ++ (name ++ rest)))) =
      "const " ++ (type ++ ("* " ++ (name ++ rest))) := unindentedAppend rfl _
  have found := pointerBehind typeParts nameParts
    (congrArg (Option.getD · _) (dropFrontAppend "const " (type ++ ("* " ++ (name ++ rest))))) stops
  simp only [mentions, line, mentionsOf, found, creation?, other, Option.map_none,
    Option.toList_none]

theorem mentionsBuffer (parts : ∀ c ∈ type.toList, identifierPart c = true) {size : String}
    (stops : Stops identifierPart size) :
    mentions ("  " ++ (type ++ ("* newData = new " ++ (type ++ size)))) =
      [.pointer type "newData", .creation type "newData"] := by
  have apart : "* newData = new " ++ (type ++ size) =
      "* " ++ ("newData" ++ (" = new " ++ (type ++ size))) := by
    simp only [← String.append_assoc]
    rfl
  have blank : ∀ c ∈ type.toList, (c == ' ') = false := by
    intro c member
    rw [beq_eq_false_iff_ne]
    rintro rfl
    exact absurd (parts ' ' member) (by decide)
  have line : unindented ("  " ++ (type ++ ("* " ++ ("newData" ++ (" = new " ++ (type ++ size)))))) =
      type ++ ("* " ++ ("newData" ++ (" = new " ++ (type ++ size)))) :=
    unindentedAt rfl (stopsWord blank (stopsAt rfl _ _))
  have found := pointerBehind parts
    (List.all_eq_true.mp (by decide : "newData".toList.all identifierPart = true))
    (congrArg (Option.getD · _) (noQualifier parts ("newData" ++ (" = new " ++ (type ++ size)))))
    (stopsAt rfl _ _)
  rw [apart]
  simp only [mentions, line, mentionsOf, found, creation?, dropFrontAppend, Option.map_some,
    spanAppend parts stops, Option.toList_some]

/- Neither declared as a pointer nor set to something new. -/
theorem pointerNone {text word front rest : String} (plain : dropFront? "const " text = none)
    (split : span identifierPart text = (word, front ++ rest)) (other : apart "* " front = true) :
    pointer? text = none := by
  simp only [pointer?, plain, Option.getD_none, split, dropFrontNone other, Option.bind_eq_bind,
    Option.bind_none]

theorem mentionsResult (parts : ∀ c ∈ type.toList, identifierPart c = true) {rest : String}
    (stops : Stops identifierPart rest) :
    mentions ("  ret = new " ++ (type ++ rest)) = [.creation type "ret"] := by
  have line : unindented ("  ret = new " ++ (type ++ rest)) = "ret = new " ++ (type ++ rest) :=
    unindentedAppend rfl _
  have split : span identifierPart ("ret = new " ++ (type ++ rest)) =
      ("ret", " = new " ++ (type ++ rest)) := by
    have whole : "ret = new " ++ (type ++ rest) = "ret" ++ (" = new " ++ (type ++ rest)) := by
      rw [← String.append_assoc]
      rfl
    rw [whole]
    exact spanAppend (List.all_eq_true.mp (by decide)) (stopsAt rfl _ _)
  have other := pointerNone (dropFrontNone (by decide) _) split (by decide)
  simp only [mentions, line, mentionsOf, other, split, creation?, dropFrontAppend, Option.map_some,
    spanAppend parts stops, Option.toList_some]

theorem mentionsElement (value : String) : mentions ("    newData[i] = " ++ value) = [] := by
  have line : unindented ("    newData[i] = " ++ value) = "newData[i] = " ++ value :=
    unindentedAppend rfl _
  have split : span identifierPart ("newData[i] = " ++ value) = ("newData", "[i] = " ++ value) := by
    have whole : "newData[i] = " ++ value = "newData" ++ ("[i] = " ++ value) := by
      rw [← String.append_assoc]
      rfl
    rw [whole]
    exact spanAppend (List.all_eq_true.mp (by decide)) (stopsAt rfl _ _)
  have other := pointerNone (dropFrontNone (by decide) _) split (by decide)
  have nothing : dropFront? " = new " ("[i] = " ++ value) = none := dropFrontNone (by decide) _
  simp only [mentions, line, mentionsOf, other, split, creation?, nothing, Option.map_none,
    Option.toList_none]

end DoubleDispatch.Text
