import DoubleDispatch.Text.Identifier
import DoubleDispatch.Decimal.Digits
import Mathlib.Data.List.Basic

/-! Text read line by line. Whole lines written one after the other are read back, whatever text
follows them; and what is known to stand in front of a text or behind it can be taken off. -/
namespace DoubleDispatch.Text

/- A line break ends a line; what follows the last one is a line too. -/
def lines (text : String) : List String := (text.toList.splitOn '\n').map String.ofList

def unlines (ls : List String) : String := String.join (ls.map (· ++ "\n"))

def Single (line : String) : Prop := '\n' ∉ line.toList

theorem singleAppend {a b : String} : Single (a ++ b) ↔ Single a ∧ Single b := by
  simp [Single]

theorem singleOfList {cs : List Char} : Single (String.ofList cs) ↔ '\n' ∉ cs := by
  simp [Single]

theorem singleJoin {parts : List String} (single : ∀ p ∈ parts, Single p) :
    Single (String.join parts) := by
  intro found
  rw [String.toList_join, List.mem_flatMap] at found
  obtain ⟨p, member, inside⟩ := found
  exact single p member inside

theorem singleIdentifier {name : String} (valid : isIdentifier name = true) : Single name := by
  intro found
  exact absurd (identifierParts valid '\n' found) (by decide)

theorem Identifier.single (name : Identifier) : Single name.text := singleIdentifier name.valid

theorem singleDigits (n : Nat) : Single (Decimal.text n) := by
  intro found
  rw [Decimal.text, String.toList_ofList] at found
  exact absurd (Decimal.digitsAreDigits n '\n' found) (by decide)

theorem startsWith (c : Char) (cs : List Char) (rest : String) :
    (String.ofList (c :: cs) ++ rest).toList.head? = some c := by
  simp

theorem unlinesCons (l : String) (ls : List String) :
    unlines (l :: ls) = l ++ "\n" ++ unlines ls := by
  simp [unlines, String.join_cons]

theorem unlinesAppend (ls ms : List String) : unlines (ls ++ ms) = unlines ls ++ unlines ms := by
  simp [unlines, String.join_append]

theorem unlinesFlatten (groups : List (List String)) :
    unlines groups.flatten = String.join (groups.map unlines) := by
  induction groups with
  | nil => rfl
  | cons group rest ih => rw [List.flatten_cons, unlinesAppend, ih, List.map_cons, String.join_cons]

theorem linesBreak {line : String} (single : Single line) (rest : String) :
    lines (line ++ "\n" ++ rest) = line :: lines rest := by
  have split : (line ++ "\n" ++ rest).toList = line.toList ++ '\n' :: rest.toList := by simp
  rw [lines, split, List.splitOn_append_cons_self_of_not_mem single]
  simp [lines]

theorem linesUnlines {ls : List String} (single : ∀ l ∈ ls, Single l) (rest : String) :
    lines (unlines ls ++ rest) = ls ++ lines rest := by
  induction ls with
  | nil => simp [unlines]
  | cons l ls ih =>
    rw [unlinesCons, String.append_assoc, linesBreak (single l (by simp)),
      ih (fun x member => single x (List.mem_cons_of_mem _ member)), List.cons_append]

/- The text behind the given front, if that is how it starts. -/
def dropFront? (front text : String) : Option String :=
  (text.toList.dropPrefix? front.toList).map String.ofList

def dropBack? (back text : String) : Option String :=
  (text.toList.dropSuffix? back.toList).map String.ofList

theorem dropFrontAppend (front rest : String) : dropFront? front (front ++ rest) = some rest := by
  rw [dropFront?, String.toList_append, List.dropPrefix?_append_of_beq _ (by simp)]
  simp

theorem dropBackAppend (front back : String) : dropBack? back (front ++ back) = some front := by
  have dropped : (front ++ back).toList.dropSuffix? back.toList = some front.toList :=
    List.dropSuffix?_eq_some_iff.mpr ⟨back.toList, by simp, by simp⟩
  rw [dropBack?, dropped, Option.map_some, String.ofList_toList]

theorem dropFrontSome {front text rest : String} (found : dropFront? front text = some rest) :
    text = front ++ rest := by
  obtain ⟨cs, dropped, rfl⟩ := Option.map_eq_some_iff.mp found
  obtain ⟨start, whole, same⟩ := List.dropPrefix?_eq_some_iff.mp dropped
  rw [← String.toList_inj, whole, eq_of_beq same]
  simp

theorem dropBackSome {back text front : String} (found : dropBack? back text = some front) :
    text = front ++ back := by
  obtain ⟨cs, dropped, rfl⟩ := Option.map_eq_some_iff.mp found
  obtain ⟨ending, whole, same⟩ := List.dropSuffix?_eq_some_iff.mp dropped
  rw [← String.toList_inj, whole, eq_of_beq same]
  simp

end DoubleDispatch.Text
