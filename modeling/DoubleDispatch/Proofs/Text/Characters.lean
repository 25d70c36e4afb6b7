import DoubleDispatch.Text.Blank
import DoubleDispatch.Text.Identifier
import Mathlib.Data.Char

/-! The characters of identifiers and the blank ones, as they are told to authors: ranges of letters
and digits, and code points one by one. -/
namespace DoubleDispatch.Text

def Letter (c : Char) : Prop := ('A' ≤ c ∧ c ≤ 'Z') ∨ ('a' ≤ c ∧ c ≤ 'z') ∨ c = '_'

def LetterOrDigit (c : Char) : Prop := Letter c ∨ ('0' ≤ c ∧ c ≤ '9')

/- A letter, and letters and digits behind it; the underscore counts as a letter. -/
def Spelled (text : String) : Prop :=
  ∃ first rest, text.toList = first :: rest ∧ Letter first ∧ ∀ c ∈ rest, LetterOrDigit c

/- The code points of the Unicode property White_Space. -/
def whiteSpace : List Nat :=
  [0x09, 0x0A, 0x0B, 0x0C, 0x0D, 0x20, 0x85, 0xA0, 0x1680, 0x2000, 0x2001, 0x2002, 0x2003, 0x2004,
   0x2005, 0x2006, 0x2007, 0x2008, 0x2009, 0x200A, 0x2028, 0x2029, 0x202F, 0x205F, 0x3000]

def Compact (text : String) : Prop := ∀ c ∈ text.toList, c.toNat ∉ whiteSpace

variable {c : Char} {text : String}

theorem letterIff : identifierStart c = true ↔ Letter c := by
  have upper : c.isUpper = decide (c.val ≥ 'A'.val ∧ c.val ≤ 'Z'.val) := rfl
  have lower : c.isLower = (decide (c.val ≥ 'a'.val) && decide (c.val ≤ 'z'.val)) := rfl
  have alpha : c.isAlpha = (c.isUpper || c.isLower) := rfl
  simp only [identifierStart, alpha, upper, lower, Letter, Bool.or_eq_true, Bool.and_eq_true,
    decide_eq_true_eq, beq_iff_eq, or_assoc]
  rfl

theorem letterOrDigitIff : identifierPart c = true ↔ LetterOrDigit c := by
  have start : identifierPart c = (identifierStart c || c.isDigit) := Bool.or_right_comm _ _ _
  rw [start, Bool.or_eq_true, letterIff]
  simp only [LetterOrDigit, Char.isDigit, Bool.and_eq_true, decide_eq_true_eq]
  rfl

theorem spelledIff : isIdentifier text = true ↔ Spelled text := by
  unfold isIdentifier Spelled
  cases text.toList with
  | nil => simp [identifierChars]
  | cons first rest =>
    simp only [identifierChars, Bool.and_eq_true, List.all_eq_true, letterIff, letterOrDigitIff]
    constructor
    · rintro ⟨start, parts⟩
      exact ⟨first, rest, rfl, start, parts⟩
    · rintro ⟨_, _, same, start, parts⟩
      cases same
      exact ⟨start, parts⟩

theorem spelledSome (spelled : Spelled text) : text ≠ "" := by
  rintro rfl
  obtain ⟨_, _, none, _⟩ := spelled
  cases none

theorem blankIff : isBlank c = true ↔ c.toNat ∈ whiteSpace := by
  simp only [isBlank, blankRuns, whiteSpace, List.any_cons, List.any_nil, Bool.or_eq_true,
    Bool.and_eq_true, decide_eq_true_eq, List.mem_cons, List.not_mem_nil, Bool.false_eq_true, or_false]
  omega

theorem compactIff : holdsBlank text = false ↔ Compact text := by
  simp only [holdsBlank, List.any_eq_false, blankIff, Compact]

end DoubleDispatch.Text
