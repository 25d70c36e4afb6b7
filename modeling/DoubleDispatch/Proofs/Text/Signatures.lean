import DoubleDispatch.Proofs.Text.Classes

/-! Signatures of functions with one or two typed operands. The texts around the types are fixed,
and they are chosen so that a type and the number of operands can be told from what follows. -/
namespace DoubleDispatch.Text

def endsType (text : String) : Bool := text.toList.head?.any (fun c => !identifierPart c)

theorem endsTypeStops {text : String} (ends : endsType text = true) (rest : String) :
    Stops identifierPart (text ++ rest) := by
  intro c found
  unfold endsType at ends
  rw [String.toList_append] at found
  cases chars : text.toList with
  | nil => simp [chars] at ends
  | cons d ds =>
    simp only [chars, List.head?_cons, Option.any_some, Bool.not_eq_true'] at ends
    rw [chars, List.cons_append, List.head?_cons, Option.some.injEq] at found
    exact found ▸ ends

structure Signature where
  front : String
  onlyEnd : String
  firstEnd : String
  secondEnd : String
  onlyEnds : endsType onlyEnd = true := by decide
  firstEnds : endsType firstEnd = true := by decide
  secondEnds : endsType secondEnd = true := by decide
  differ : apart onlyEnd firstEnd = true := by decide

namespace Signature

/- The types of the operands, if this is how they are declared. -/
def types? (s : Signature) (line : String) : Option (List String) := do
  let rest ← dropFront? s.front line
  let (first, rest) := span identifierPart rest
  if rest = s.onlyEnd then some [first]
  else do
    let rest ← dropFront? s.firstEnd rest
    let (second, rest) := span identifierPart rest
    if rest = s.secondEnd then some [first, second] else none

variable (s : Signature) {left right : String}

theorem typesOne (parts : ∀ c ∈ left.toList, identifierPart c = true) :
    s.types? (s.front ++ (left ++ s.onlyEnd)) = some [left] := by
  have stops := endsTypeStops s.onlyEnds ""
  rw [String.append_empty] at stops
  simp only [types?, dropFrontAppend, Option.bind_eq_bind, Option.bind_some,
    spanAppend parts stops, if_true]

theorem typesTwo (leftParts : ∀ c ∈ left.toList, identifierPart c = true)
    (rightParts : ∀ c ∈ right.toList, identifierPart c = true) :
    s.types? (s.front ++ (left ++ (s.firstEnd ++ (right ++ s.secondEnd)))) =
      some [left, right] := by
  have stops := endsTypeStops s.secondEnds ""
  rw [String.append_empty] at stops
  have more : s.firstEnd ++ (right ++ s.secondEnd) ≠ s.onlyEnd := by
    intro same
    have starts := dropFrontAppend s.onlyEnd ""
    have other := startsOtherwise s.differ (right ++ s.secondEnd)
    rw [String.append_empty] at starts
    rw [same, starts] at other
    exact absurd other (by simp)
  simp only [types?, dropFrontAppend, Option.bind_eq_bind, Option.bind_some,
    spanAppend leftParts (endsTypeStops s.firstEnds _), if_neg more,
    spanAppend rightParts stops, if_true]

theorem typesNone {line : String} (other : (dropFront? s.front line).isSome = false) :
    s.types? line = none := by
  rw [Option.isSome_eq_false_iff, Option.isNone_iff_eq_none] at other
  rw [types?, other]
  rfl

end Signature

/- An entry point as it is declared, and as a member of the given class is defined. -/
def declaredRun : Signature where
  front := "    virtual void * run(RegContainer* reg, const "
  onlyEnd := "* arg) const;"
  firstEnd := "* arg0, const "
  secondEnd := "* arg1) const;"

def definedRun (owner : String) : Signature where
  front := owner ++ "::run(RegContainer*, const "
  onlyEnd := "*) const"
  firstEnd := "*, const "
  secondEnd := "*) const"

def throws (body : List String) : Bool :=
  body.all (fun line => (dropFront? "  throw " line).isSome) && body != []

end DoubleDispatch.Text
