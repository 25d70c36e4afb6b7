import DoubleDispatch.Template.Library

/-! A fragment is a kind with values for placeholders. It can be filled exactly when its names are
the placeholders of its kind; filling puts every value in place as it stands, in one pass, and of
two values for one name the later counts. -/
namespace DoubleDispatch.Template

structure Fragment where
  kind : Kind
  newestFirst : List (String × String)
  deriving DecidableEq, Repr

inductive FillError where
  | missing (kind : Kind) (placeholder : String)
  | unexpected (kind : Kind) (placeholder : String)
  deriving DecidableEq, Repr

def FillError.message : FillError → String
  | .missing kind placeholder =>
      "Unit " ++ kind.fileName ++ " is missing placeholder '" ++ placeholder ++ "'"
  | .unexpected kind placeholder =>
      "Unit " ++ kind.fileName ++ " does not take placeholder '" ++ placeholder ++ "'"

def leastName : List String → Option String
  | [] => none
  | name :: rest =>
    match leastName rest with
    | none => some name
    | some other => some (if other < name then other else name)

namespace Fragment

def of (kind : Kind) : Fragment := ⟨kind, []⟩

def set (f : Fragment) (placeholder value : String) : Fragment :=
  { f with newestFirst := (placeholder, value) :: f.newestFirst }

def value? (f : Fragment) (placeholder : String) : Option String :=
  f.newestFirst.lookup placeholder

def missing? (f : Fragment) : Option String :=
  f.kind.placeholders.find? (fun p => (f.value? p).isNone)

def unexpected? (f : Fragment) : Option String :=
  leastName ((f.newestFirst.map Prod.fst).filter (fun p => p ∉ f.kind.placeholders))

def textOf (f : Fragment) : Piece → String
  | .text literal => literal
  | .slot placeholder => (f.value? placeholder).getD ""

def fill (f : Fragment) : Except FillError String :=
  match f.missing?, f.unexpected? with
  | some placeholder, _ => .error (.missing f.kind placeholder)
  | none, some placeholder => .error (.unexpected f.kind placeholder)
  | none, none => .ok (String.join (f.kind.pieces.map f.textOf))

def fillAll (fragments : List Fragment) : Except FillError String :=
  (fragments.mapM fill).map String.join

theorem valueSet (f : Fragment) (placeholder value other : String) :
    (f.set placeholder value).value? other =
      if other = placeholder then some value else f.value? other := by
  by_cases same : other = placeholder
  · simp [value?, set, same]
  · simp [value?, set, same, List.lookup_cons, beq_false_of_ne same]

end Fragment
end DoubleDispatch.Template
