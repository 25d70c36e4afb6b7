import DoubleDispatch.Proofs.Text.Statements
import Mathlib.Data.List.DropRight

/-! Calls and declarations: the word in front of the first bracket is what is called, and the commas
up to the bracket that closes it part its operands, unless they stand in brackets themselves. What
holds a pointer, what sets it and what deletes it can be told from how the text starts. -/
namespace DoubleDispatch.Text

def lastWord (text : List Char) : String := String.ofList (text.rtakeWhile identifierPart)

def called? (line : String) : Option String :=
  if '(' ∈ line.toList then some (lastWord (opening line)) else none

theorem calledAfter {front : String} (opens : '(' ∈ front.toList) (rest : String) :
    called? (front ++ rest) = called? front := by
  have inside : '(' ∈ (front ++ rest).toList := by simp [opens]
  rw [called?, called?, if_pos opens, if_pos inside, openingAfter opens]

theorem calledNone {line : String} (plain : '(' ∉ line.toList) : called? line = none :=
  if_neg plain

structure Call where
  front : String
  operands : List String
  deriving DecidableEq, Repr

/- The operand that is being read, and those behind it; the depth counts open brackets. -/
def operandsFrom : Nat → List Char → List Char → Option (List String)
  | _, _, [] => none
  | depth, operand, c :: cs =>
    if c = '(' then operandsFrom (depth + 1) (operand ++ [c]) cs
    else if c = ')' then
      match depth with
      | 0 => some [unindented (String.ofList operand)]
      | depth + 1 => operandsFrom depth (operand ++ [c]) cs
    else if c = ',' ∧ depth = 0 then
      (operandsFrom 0 [] cs).map (unindented (String.ofList operand) :: ·)
    else operandsFrom depth (operand ++ [c]) cs

def operands? (text : String) : Option (List String) :=
  (operandsFrom 0 [] text.toList).map (·.filter (· ≠ ""))

def readCall (text : String) : Option Call := do
  let (front, rest) := span (· != '(') text
  let inner ← dropFront? "(" rest
  some ⟨front, ← operands? inner⟩

theorem readCallAfter {front inner : String} (plain : '(' ∉ front.toList) :
    readCall (front ++ ("(" ++ inner)) = (operands? inner).map (Call.mk front) := by
  have all : ∀ c ∈ front.toList, (c != '(') = true := by
    intro c member
    rw [bne_iff_ne]
    rintro rfl
    exact plain member
  have split : span (· != '(') (front ++ ("(" ++ inner)) = (front, "(" ++ inner) :=
    spanAppend all (stopsAt rfl _ _)
  simp only [readCall, split, dropFrontAppend, Option.bind_eq_bind, Option.bind_some]
  cases operands? inner <;> rfl

/- A pointer that a class holds, to what may not be changed. -/
structure Field where
  type : String
  name : String
  deriving DecidableEq, Repr

def field? (line : String) : Option Field := do
  let rest ← dropFront? "const " (unindented line)
  let (type, rest) := span identifierPart rest
  let rest ← dropFront? "* " rest
  some ⟨type, ← dropBack? ";" rest⟩

structure Assignment where
  target : String
  value : String
  deriving DecidableEq, Repr

def assignment? (act : String) : Option Assignment :=
  let (target, rest) := span identifierPart act
  (dropFront? " = " rest).map (Assignment.mk target)

def deletion? (act : String) : Option String := dropFront? "delete " act

theorem unindentedAt {front rest : String} (blank : front.toList.all (· == ' ') = true)
    (solid : Stops (· == ' ') rest) : unindented (front ++ rest) = rest :=
  congrArg Prod.snd (spanAppend (List.all_eq_true.mp blank) solid)

theorem fieldOf {type : String} (parts : ∀ c ∈ type.toList, identifierPart c = true)
    (name : String) : field? ("    const " ++ (type ++ ("* " ++ (name ++ ";")))) =
      some ⟨type, name⟩ := by
  have line : unindented ("    const " ++ (type ++ ("* " ++ (name ++ ";")))) =
      "const " ++ (type ++ ("* " ++ (name ++ ";"))) := unindentedAppend rfl _
  have split : span identifierPart (type ++ ("* " ++ (name ++ ";"))) =
      (type, "* " ++ (name ++ ";")) := spanAppend parts (stopsAt rfl _ _)
  simp only [field?, line, dropFrontAppend, split, dropBackAppend, Option.bind_eq_bind,
    Option.bind_some]

theorem assignmentOf {target : String} (parts : ∀ c ∈ target.toList, identifierPart c = true)
    (value : String) : assignment? (target ++ (" = " ++ value)) = some ⟨target, value⟩ := by
  have split : span identifierPart (target ++ (" = " ++ value)) = (target, " = " ++ value) :=
    spanAppend parts (stopsAt rfl _ _)
  simp only [assignment?, split, dropFrontAppend, Option.map_some]

/- Something else than an equals sign stands behind the first word. -/
theorem assignmentNone {act word front rest : String}
    (split : span identifierPart act = (word, front ++ rest)) (other : apart " = " front = true) :
    assignment? act = none := by
  simp only [assignment?, split, dropFrontNone other, Option.map_none]

end DoubleDispatch.Text
