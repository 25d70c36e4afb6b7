import DoubleDispatch.Proofs.Text.Lines
import Mathlib.Data.List.Nodup

/-! Blocks of a source text: a line that only opens a brace, the line before it as the head, and the
lines up to the one that closes the brace as the body. Braces inside a body are indented, so the
first line that closes one at the margin is the end of the block. -/
namespace DoubleDispatch.Text

structure Block where
  head : String
  body : List String
  deriving DecidableEq, Repr

/- What no two of them share finds one alone. -/
theorem filterOnly {α β : Type} [DecidableEq α] [DecidableEq β] {xs : List α} {key : α → β}
    (distinct : (xs.map key).Nodup) {x : α} (member : x ∈ xs) :
    xs.filter (fun y => key y = key x) = [x] := by
  have same : xs.filter (fun y => key y = key x) = xs.filter (· = x) :=
    List.filter_congr fun y inside => decide_eq_decide.mpr
      ⟨fun keys => List.inj_on_of_nodup_map distinct inside member keys, congrArg key⟩
  rw [same, List.filter_eq, List.count_eq_one_of_mem distinct.of_map member]
  rfl

theorem filterMapped {α β γ : Type} [DecidableEq α] [DecidableEq β] {xs : List α} (key : γ → β)
    (f : α → γ) (distinct : (xs.map (fun x => key (f x))).Nodup) {x : α} (member : x ∈ xs) :
    (xs.map f).filter (fun y => key y = key (f x)) = [f x] := by
  rw [List.filter_map]
  exact congrArg (List.map f) (filterOnly distinct member)

inductive Place where
  | outside (previous : String)
  | inside (head : String) (body : List String)
  deriving DecidableEq, Repr

def closes (line : String) : Bool := line == r"}" || line == r"};"

def blocksFrom : Place → List String → List Block
  | _, [] => []
  | .outside previous, line :: rest =>
    if line = r"{" then blocksFrom (.inside previous []) rest else blocksFrom (.outside line) rest
  | .inside head body, line :: rest =>
    if closes line then ⟨head, body⟩ :: blocksFrom (.outside line) rest
    else blocksFrom (.inside head (body ++ [line])) rest

def blocks (ls : List String) : List Block := blocksFrom (.outside "") ls

/- Read between blocks, the lines hold just these blocks, whatever stands around them. -/
def Holds (ls : List String) (found : List Block) : Prop :=
  ∀ previous rest, ∃ last, blocksFrom (.outside previous) (ls ++ rest) =
    found ++ blocksFrom (.outside last) rest

theorem holdsNil : Holds [] [] := fun previous _ => ⟨previous, rfl⟩

theorem Holds.append {ls ms : List String} {xs ys : List Block} (front : Holds ls xs)
    (back : Holds ms ys) : Holds (ls ++ ms) (xs ++ ys) := by
  intro previous rest
  obtain ⟨middle, first⟩ := front previous (ms ++ rest)
  obtain ⟨last, second⟩ := back middle rest
  exact ⟨last, by rw [List.append_assoc, first, second, List.append_assoc]⟩

theorem holdsLine {line : String} (plain : line ≠ r"{") : Holds [line] [] :=
  fun _ _ => ⟨line, by simp [blocksFrom, plain]⟩

theorem Holds.line {line : String} {ls : List String} {xs : List Block} (plain : line ≠ r"{")
    (back : Holds ls xs) : Holds (line :: ls) xs :=
  (holdsLine plain).append back

theorem holdsLines {ls : List String} (plain : ∀ l ∈ ls, l ≠ r"{") : Holds ls [] := by
  induction ls with
  | nil => exact holdsNil
  | cons l rest ih => exact (ih fun x member => plain x (by simp [member])).line (plain l (by simp))

theorem insideBody {body : List String} (open_ : ∀ l ∈ body, closes l = false) {last : String}
    (closed : closes last = true) (head : String) (done rest : List String) :
    blocksFrom (.inside head done) (body ++ last :: rest) =
      ⟨head, done ++ body⟩ :: blocksFrom (.outside last) rest := by
  induction body generalizing done with
  | nil => simp [blocksFrom, closed]
  | cons l body ih =>
    have step := ih (fun x member => open_ x (by simp [member])) (done ++ [l])
    simpa [blocksFrom, open_ l (by simp)] using step

theorem holdsBlock {head last : String} {body : List String} (plain : head ≠ r"{")
    (open_ : ∀ l ∈ body, closes l = false) (closed : closes last = true) :
    Holds (head :: r"{" :: (body ++ [last])) [⟨head, body⟩] := by
  intro previous rest
  have read := insideBody open_ closed head [] rest
  exact ⟨last, by simpa [blocksFrom, plain] using read⟩

theorem Holds.each {α : Type} {items : List α} {text : α → List String} {block : α → List Block}
    (one : ∀ x ∈ items, Holds (text x) (block x)) :
    Holds (items.flatMap text) (items.flatMap block) := by
  induction items with
  | nil => exact holdsNil
  | cons x rest ih =>
    exact (one x (by simp)).append (ih fun y member => one y (by simp [member]))

theorem Holds.blocks {ls : List String} {found : List Block} (holds : Holds ls found) :
    blocks ls = found := by
  obtain ⟨last, read⟩ := holds "" []
  simpa [Text.blocks, blocksFrom] using read

/- A text that starts otherwise opens no block. -/
theorem startsNot {c : Char} (other : c ≠ '{') (cs : List Char) (rest : String) :
    String.ofList (c :: cs) ++ rest ≠ r"{" := by
  intro same
  have first := startsWith c cs rest
  rw [same] at first
  exact other (Option.some.inj first).symm

def Indented (line : String) : Prop := line.toList.head? = some ' '

theorem indentedChars (cs : List Char) : Indented (String.ofList (' ' :: cs)) := by
  simp [Indented]

theorem Indented.append {front : String} (indented : Indented front) (back : String) :
    Indented (front ++ back) := by
  unfold Indented at indented ⊢
  rw [String.toList_append]
  cases h : front.toList with
  | nil => simp [h] at indented
  | cons c cs => simpa [h] using indented

theorem Indented.closesNot {line : String} (indented : Indented line) : closes line = false := by
  unfold closes
  rw [Bool.or_eq_false_iff]
  constructor <;>
  · rw [beq_eq_false_iff_ne]
    rintro rfl
    exact absurd indented (by simp [Indented])

end DoubleDispatch.Text
