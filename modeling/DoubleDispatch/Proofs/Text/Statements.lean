import DoubleDispatch.Proofs.Text.Classes
import Mathlib.Data.List.TakeWhile

/-! Statements of a function body, one line each, and switches with statements of their own between
two braces. Lines are read one at a time, with the switches that are still open kept aside; whole
groups of lines are therefore read wherever they stand. -/
namespace DoubleDispatch.Text

inductive Statement where
  | label (name : String)
  | fallback
  | switch (subject : String) (body : List Statement)
  | leave
  | returns (value : String)
  | throws (error : String)
  | act (text : String)

inductive Token where
  | statement (s : Statement)
  | head (subject : String)
  | opens
  | closes
  | unknown

def unindented (line : String) : String := String.ofList (line.toList.dropWhile (· == ' '))

def exactly (token : Token) (rest : String) : Option Token :=
  if rest = "" then some token else none

/- What a line is, by the word it starts with; any other that ends as a statement does is an act. -/
def keywords : List (String × (String → Option Token)) :=
  [("case ", fun rest => (dropBack? ":" rest).map fun name => .statement (.label name)),
   ("default:", exactly (.statement .fallback)),
   ("switch(", fun rest => (dropBack? ")" rest).map .head),
   (r"{", exactly .opens),
   (r"}", exactly .closes),
   ("break;", exactly (.statement .leave)),
   ("return ", fun rest => (dropBack? ";" rest).map fun value => .statement (.returns value)),
   ("throw ", fun rest => (dropBack? ";" rest).map fun error => .statement (.throws error))]

def keyword? (text : String) : Option Token :=
  keywords.findSome? fun word => (dropFront? word.1 text).bind word.2

def act? (text : String) : Option Token :=
  (dropBack? ";" text).map fun act => .statement (.act act)

def token (line : String) : Token :=
  ((keyword? (unindented line)).or (act? (unindented line))).getD .unknown

/- An open switch, and what stands before it. -/
structure Enclosing where
  subject : String
  before : List Statement

def parse : List Enclosing → List Statement → List Token → Option (List Statement)
  | [], done, [] => some done
  | outer, done, .statement s :: rest => parse outer (done ++ [s]) rest
  | outer, done, .head subject :: .opens :: rest => parse (⟨subject, done⟩ :: outer) [] rest
  | ⟨subject, before⟩ :: outer, done, .closes :: rest =>
    parse outer (before ++ [.switch subject done]) rest
  | _, _, _ => none

def readStatements (ls : List String) : Option (List Statement) := parse [] [] (ls.map token)

/- What stands in front of the first bracket. -/
def opening (line : String) : List Char := line.toList.takeWhile (· != '(')

def functionName (head : String) : String := String.ofList (opening head)

/- The statements of the only function of this name. -/
def statementsOf (name : String) (functions : List Block) : Option (List Statement) :=
  match functions.filter (fun f => functionName f.head = name) with
  | [function] => readStatements function.body
  | _ => none

/- Read anywhere, the lines are just these statements. -/
def Reads (ls : List String) (ss : List Statement) : Prop :=
  ∀ outer done rest, parse outer done (ls.map token ++ rest) = parse outer (done ++ ss) rest

theorem Reads.statements {ls : List String} {ss : List Statement} (reads : Reads ls ss) :
    readStatements ls = some ss := by
  have whole := reads [] [] []
  rw [List.append_nil, List.nil_append] at whole
  rw [readStatements, whole, parse]

theorem openingAfter {front : String} (opens : '(' ∈ front.toList) (rest : String) :
    opening (front ++ rest) = opening front := by
  have stops : ∀ cs : List Char, '(' ∈ cs →
      (cs ++ rest.toList).takeWhile (· != '(') = cs.takeWhile (· != '(') := by
    intro cs member
    induction cs with
    | nil => exact absurd member List.not_mem_nil
    | cons c cs ih =>
      by_cases here : c = '('
      · simp [here]
      · have later : '(' ∈ cs := by simpa [Ne.symm here] using member
        simp [here, ih later]
  rw [opening, opening, String.toList_append, stops _ opens]

theorem functionNameAfter {front : String} (opens : '(' ∈ front.toList) (rest : String) :
    functionName (front ++ rest) = functionName front := by
  rw [functionName, openingAfter opens, functionName]

theorem Reads.function {name head : String} {body : List String} {functions : List Block}
    {ss : List Statement} (reads : Reads body ss)
    (only : functions.filter (fun f => functionName f.head = name) = [⟨head, body⟩]) :
    statementsOf name functions = some ss := by
  rw [statementsOf, only]
  exact reads.statements

theorem readsNil : Reads [] [] := by
  intro outer done rest
  rw [List.map_nil, List.nil_append, List.append_nil]

theorem Reads.append {ls ms : List String} {ss ts : List Statement} (front : Reads ls ss)
    (back : Reads ms ts) : Reads (ls ++ ms) (ss ++ ts) := by
  intro outer done rest
  rw [List.map_append, List.append_assoc, front, back, List.append_assoc]

theorem readsLine {line : String} {s : Statement} (plain : token line = .statement s) :
    Reads [line] [s] := by
  intro outer done rest
  rw [List.map_singleton, plain, List.singleton_append, parse]

theorem readsSwitch {head opener closer subject : String} {body : List String}
    {ss : List Statement} (heads : token head = .head subject) (opens : token opener = .opens)
    (closed : token closer = .closes) (inner : Reads body ss) :
    Reads (head :: opener :: (body ++ [closer])) [.switch subject ss] := by
  intro outer done rest
  have step := inner (⟨subject, done⟩ :: outer) [] (.closes :: rest)
  simp only [List.map_cons, List.map_append, List.map_nil, heads, opens, closed, List.cons_append,
    List.append_assoc, List.nil_append, parse] at step ⊢
  exact step

theorem Reads.each {α : Type} {items : List α} {text : α → List String}
    {statements : α → List Statement} (one : ∀ x ∈ items, Reads (text x) (statements x)) :
    Reads (items.flatMap text) (items.flatMap statements) := by
  induction items with
  | nil => exact readsNil
  | cons x rest ih =>
    exact (one x (by simp)).append (ih fun y member => one y (by simp [member]))

/- One line for every item. -/
theorem readsEach {α : Type} {items : List α} {line : α → String} {s : α → Statement}
    (one : ∀ x ∈ items, token (line x) = .statement (s x)) :
    Reads (items.map line) (items.map s) := by
  rw [List.map_eq_flatMap, List.map_eq_flatMap]
  exact Reads.each fun x member => readsLine (one x member)

theorem unindentedAppend {front : String} (solid : front.toList.any (· != ' ') = true)
    (rest : String) : unindented (front ++ rest) = unindented front ++ rest := by
  obtain ⟨c, member, other⟩ := List.any_eq_true.mp solid
  have some_ : front.toList.dropWhile (· == ' ') ≠ [] := by
    rw [ne_eq, List.dropWhile_eq_nil_iff]
    intro blank
    have same := blank c member
    rw [bne, same] at other
    contradiction
  have kept : (front.toList ++ rest.toList).dropWhile (· == ' ') =
      front.toList.dropWhile (· == ' ') ++ rest.toList := by
    rw [List.dropWhile_append, if_neg (by simpa using some_)]
  rw [unindented, unindented, String.toList_append, kept, String.ofList_append,
    String.ofList_toList]

theorem dropBackAfter {back line start : String} (front : String)
    (found : dropBack? back line = some start) :
    dropBack? back (front ++ line) = some (front ++ start) := by
  rw [dropBackSome found, ← String.append_assoc, dropBackAppend]

theorem dropFrontNone {start front : String} (other : apart start front = true) (line : String) :
    dropFront? start (front ++ line) = none := by
  have differs := startsOtherwise other line
  rwa [Option.isSome_eq_false_iff, Option.isNone_iff_eq_none] at differs

/- No keyword starts like this, so the line is an act. -/
theorem tokenAct {line front back start : String} (shape : unindented line = front ++ back)
    (other : keywords.all (fun word => apart word.1 front) = true)
    (ends : dropBack? ";" back = some start) :
    token line = .statement (.act (front ++ start)) := by
  have none : keyword? (front ++ back) = none := by
    refine List.findSome?_eq_none_iff.mpr fun word member => ?_
    rw [dropFrontNone (List.all_eq_true.mp other word member), Option.bind_none]
  have act : act? (front ++ back) = some (.statement (.act (front ++ start))) := by
    rw [act?, dropBackAfter front ends, Option.map_some]
  rw [token, shape, none, act]
  rfl

/- The first keyword that a line starts with decides what it is. -/
theorem keywordAt {n : Nat} {word text : String} {found : String → Option Token} {t : Token}
    (here : keywords[n]? = some (word, found))
    (earlier : (keywords.take n).all (fun other => apart other.1 word) = true)
    (reads : found text = some t) : keyword? (word ++ text) = some t := by
  obtain ⟨small, same⟩ := List.getElem?_eq_some_iff.mp here
  have split : keywords = keywords.take n ++ (word, found) :: keywords.drop (n + 1) := by
    rw [← same, List.getElem_cons_drop, List.take_append_drop]
  have before : (keywords.take n).findSome?
      (fun other => (dropFront? other.1 (word ++ text)).bind other.2) = none := by
    refine List.findSome?_eq_none_iff.mpr fun other member => ?_
    rw [dropFrontNone (List.all_eq_true.mp earlier other member), Option.bind_none]
  rw [keyword?, split, List.findSome?_append, before, Option.none_or, List.findSome?_cons,
    dropFrontAppend, Option.bind_some]
  simp only [reads]

theorem tokenAt {n : Nat} {front word start back : String} {found : String → Option Token}
    {t : Token} (here : keywords[n]? = some (word, found))
    (earlier : (keywords.take n).all (fun other => apart other.1 word) = true)
    (solid : front.toList.any (· != ' ') = true) (starts : unindented front = word ++ start)
    (reads : found (start ++ back) = some t) : token (front ++ back) = t := by
  rw [token, unindentedAppend solid, starts, String.append_assoc, keywordAt here earlier reads]
  rfl

theorem tokenReturn {front start back value : String}
    (solid : front.toList.any (· != ' ') = true) (starts : unindented front = "return " ++ start)
    (ends : dropBack? ";" back = some value) :
    token (front ++ back) = .statement (.returns (start ++ value)) :=
  tokenAt (n := 6) rfl (by decide) solid starts (by rw [dropBackAfter start ends]; rfl)

theorem readsCase (front : String) (solid : front.toList.any (· != ' ') = true)
    (starts : unindented front = "case ") (name : String) :
    Reads [front ++ (name ++ ":")] [.label name] :=
  readsLine (tokenAt (n := 0) rfl (by decide) solid (starts.trans String.append_empty.symm)
    (by rw [String.empty_append, dropBackAppend]; rfl))

theorem readsAct {line act : String} (shape : unindented line = act ++ ";")
    (other : keywords.all (fun word => apart word.1 act) = true) : Reads [line] [.act act] := by
  have read := tokenAct shape other (dropBackAppend "" ";")
  rw [String.append_empty] at read
  exact readsLine read

theorem tokenThrow {front start back error : String}
    (solid : front.toList.any (· != ' ') = true) (starts : unindented front = "throw " ++ start)
    (ends : dropBack? ";" back = some error) :
    token (front ++ back) = .statement (.throws (start ++ error)) :=
  tokenAt (n := 7) rfl (by decide) solid starts (by rw [dropBackAfter start ends]; rfl)

theorem readsReturn {line value : String} (parts : line = "  return " ++ (value ++ ";")) :
    Reads [line] [.returns value] := by
  have starts : unindented "  return " = "return " ++ "" := by rfl
  have read := tokenReturn (by decide) starts (dropBackAppend value ";")
  rw [String.empty_append, ← parts] at read
  exact readsLine read

theorem readsThrow (front : String) {line error : String}
    (parts : line = front ++ (error ++ ";")) (solid : front.toList.any (· != ' ') = true)
    (starts : unindented front = "throw ") : Reads [line] [.throws error] := by
  have read := tokenThrow solid (starts.trans String.append_empty.symm) (dropBackAppend error ";")
  rw [String.empty_append, ← parts] at read
  exact readsLine read

end DoubleDispatch.Text
