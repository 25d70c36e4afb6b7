import DoubleDispatch.Proofs.Text.Lines

/-! Scanning a line from the left: characters of one class, up to the first that is not of it. -/
namespace DoubleDispatch.Text

def span (p : Char → Bool) (text : String) : String × String :=
  (String.ofList (text.toList.takeWhile p), String.ofList (text.toList.dropWhile p))

def Stops (p : Char → Bool) (rest : String) : Prop := ∀ c, rest.toList.head? = some c → p c = false

theorem stopsEmpty {p : Char → Bool} : Stops p "" := by simp [Stops]

theorem stopsBefore {p : Char → Bool} {c : Char} (none : p c = false) (cs : List Char) :
    Stops p (String.ofList (c :: cs)) := by
  intro d found
  simp only [String.toList_ofList, List.head?_cons, Option.some.injEq] at found
  exact found ▸ none

theorem stopsAt {p : Char → Bool} {c : Char} (none : p c = false) (cs : List Char)
    (rest : String) : Stops p (String.ofList (c :: cs) ++ rest) := by
  intro d found
  simp only [String.toList_append, String.toList_ofList, List.cons_append, List.head?_cons,
    Option.some.injEq] at found
  exact found ▸ none

theorem stopsWord {p : Char → Bool} {word rest : String}
    (none : ∀ c ∈ word.toList, p c = false) (stops : Stops p rest) : Stops p (word ++ rest) := by
  intro c found
  rw [String.toList_append] at found
  cases chars : word.toList with
  | nil => exact stops c (by simpa [chars] using found)
  | cons d ds =>
    have same : d = c := by simpa [chars] using found
    exact none c (by simp [chars, same])

theorem startsSome (c : Char) (cs : List Char) (rest : String) :
    String.ofList (c :: cs) ++ rest ≠ "" := by
  intro empty
  have first := startsWith c cs rest
  rw [empty] at first
  contradiction

theorem spanAppend {p : Char → Bool} {front rest : String} (all : ∀ c ∈ front.toList, p c = true)
    (stops : Stops p rest) : span p (front ++ rest) = (front, rest) := by
  have ends : rest.toList.takeWhile p = [] ∧ rest.toList.dropWhile p = rest.toList := by
    unfold Stops at stops
    cases h : rest.toList with
    | nil => exact ⟨rfl, rfl⟩
    | cons c cs => simp [stops c (by simp [h])]
  rw [span, String.toList_append, List.takeWhile_append_of_pos all,
    List.dropWhile_append_of_pos all, ends.1, ends.2, List.append_nil, String.ofList_toList,
    String.ofList_toList]

def number? (text : String) : Option Nat :=
  if text ≠ "" ∧ text.toList.all Char.isDigit = true then some (Decimal.value text.toList) else none

theorem textDigits (n : Nat) : ∀ c ∈ (Decimal.text n).toList, c.isDigit = true := by
  rw [Decimal.text, String.toList_ofList]
  exact Decimal.digitsAreDigits n

theorem numberText (n : Nat) : number? (Decimal.text n) = some n := by
  have some_ : Decimal.text n ≠ "" := by
    intro empty
    have none := congrArg String.toList empty
    rw [Decimal.text, String.toList_ofList] at none
    exact Decimal.digitsNonempty n none
  rw [number?, if_pos ⟨some_, List.all_eq_true.mpr (textDigits n)⟩, Decimal.text,
    String.toList_ofList, Decimal.valueDigits]

/- A text between two double quotes. -/
def unquoted? (text : String) : Option String := (dropFront? "\"" text).bind (dropBack? "\"")

theorem unquotedText (text : String) : unquoted? ("\"" ++ text ++ "\"") = some text := by
  rw [unquoted?, String.append_assoc, dropFrontAppend, Option.bind_some, dropBackAppend]

end DoubleDispatch.Text
