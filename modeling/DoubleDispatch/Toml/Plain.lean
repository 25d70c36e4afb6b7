import DoubleDispatch.Toml.Moment

/-! Whether a document can be held as plain values. A table inside of it whose first entry has the
reserved name is taken for a date or time, and that entry has to give its text; what follows it is
not looked at. The outermost table is never taken for one. -/
namespace DoubleDispatch.Toml

/- The text of a date or time, written as it is outside of quotes. -/
def isMomentText : Document → Bool
  | .string text =>
    match readMoment text.toList with
    | some (_, []) => true
    | _ => false
  | _ => false

mutual

def isPlainValue : Document → Bool
  | .list items | .sections items => arePlain items
  | .table [] => true
  | .table ((name, content) :: rest) =>
    if name = Document.momentName then isMomentText content
    else isPlainValue content && haveOnlyPlain rest
  | _ => true

def arePlain : List Document → Bool
  | [] => true
  | item :: rest => isPlainValue item && arePlain rest

def haveOnlyPlain : List (String × Document) → Bool
  | [] => true
  | (_, content) :: rest => isPlainValue content && haveOnlyPlain rest

end

def isPlain : Document → Bool
  | .table entries => haveOnlyPlain entries
  | document => isPlainValue document

end DoubleDispatch.Toml
