/-! Identifiers of the C family: an ASCII letter or an underscore, then letters, digits and
underscores. Names built from an identifier by adding such characters are identifiers again. -/
namespace DoubleDispatch.Text

def identifierStart (c : Char) : Bool := c.isAlpha || c == '_'

def identifierPart (c : Char) : Bool := c.isAlphanum || c == '_'

def identifierChars : List Char → Bool
  | [] => false
  | c :: rest => identifierStart c && rest.all identifierPart

def isIdentifier (text : String) : Bool := identifierChars text.toList

structure Identifier where
  text : String
  valid : isIdentifier text = true
  deriving DecidableEq, Repr

theorem startIsPart {c : Char} (start : identifierStart c = true) : identifierPart c = true := by
  simp only [identifierStart, identifierPart, Char.isAlphanum, Bool.or_eq_true] at start ⊢
  rcases start with letter | underscore
  · exact Or.inl (Or.inl letter)
  · exact Or.inr underscore

theorem identifierCharsAppend {name added : List Char} (valid : identifierChars name = true)
    (parts : added.all identifierPart = true) : identifierChars (name ++ added) = true := by
  cases name with
  | nil => simp [identifierChars] at valid
  | cons c rest =>
    simp only [identifierChars, Bool.and_eq_true, List.cons_append, List.all_append] at valid ⊢
    exact ⟨valid.1, valid.2, parts⟩

theorem isIdentifierAppend {name added : String} (valid : isIdentifier name = true)
    (parts : added.toList.all identifierPart = true) : isIdentifier (name ++ added) = true := by
  simp only [isIdentifier, String.toList_append]
  exact identifierCharsAppend valid parts

theorem identifierParts {name : String} (valid : isIdentifier name = true) :
    ∀ c ∈ name.toList, identifierPart c = true := by
  unfold isIdentifier at valid
  cases h : name.toList with
  | nil => simp
  | cons c rest =>
    simp only [h, identifierChars, Bool.and_eq_true, List.all_eq_true] at valid
    intro d found
    rcases List.mem_cons.mp found with same | later
    · exact same ▸ startIsPart valid.1
    · exact valid.2 d later

theorem Identifier.nonempty (name : Identifier) : name.text ≠ "" := by
  intro empty
  have valid := name.valid
  rw [empty] at valid
  simp [isIdentifier, identifierChars] at valid

/-- The name with a fixed ending added, such as the runner of an operation. -/
def Identifier.extend (name : Identifier) (ending : String)
    (parts : ending.toList.all identifierPart = true) : Identifier :=
  ⟨name.text ++ ending, isIdentifierAppend name.valid parts⟩

end DoubleDispatch.Text
