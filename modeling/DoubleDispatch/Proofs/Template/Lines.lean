import DoubleDispatch.Proofs.Template.Filling

/-! A filled template, line by line. No literal holds a line break, so a line of a template is one
line of the text as long as the values in its slots are single lines, and a block is the lines of
its value. Of an emission option nothing is known: it may hold any text, line breaks included. -/
namespace DoubleDispatch.Template
open Text (lines unlines Single)

def Piece.literal? : Piece → Option String
  | .text literal => some literal
  | .slot _ => none

namespace Line

def literals : Line → List String
  | ended pieces => pieces.filterMap Piece.literal?
  | block _ => []

def slots : Line → List String
  | ended pieces => pieces.filterMap Piece.slot?
  | block _ => []

def block? : Line → Option String
  | ended _ => none
  | block placeholder => some placeholder

end Line

theorem singleChars {cs : List Char} (absent : cs.all (· != '\n') = true) :
    Single (String.ofList cs) := by
  rw [Text.singleOfList]
  intro found
  simpa using List.all_eq_true.mp absent _ found

namespace Kind

theorem literalsSingle (k : Kind) : ∀ l ∈ k.lines, ∀ s ∈ l.literals, Single s := by
  cases k <;>
    simp only [Kind.lines, banner, Line.plain, Line.blank, Line.literals, Piece.literal?,
      List.filterMap_cons, List.filterMap_nil, List.forall_mem_cons, List.cons_append,
      List.nil_append, List.not_mem_nil, false_implies, implies_true, and_true, true_and] <;>
    and_intros <;> exact singleChars rfl

def blocks (k : Kind) : List String := k.lines.filterMap Line.block?

theorem slotsAreNoBlocks (k : Kind) : ∀ l ∈ k.lines, ∀ p ∈ l.slots, p ∉ k.blocks := by
  cases k <;> decide

theorem blockMember {k : Kind} {p : String} (inside : .block p ∈ k.lines) : p ∈ k.blocks :=
  List.mem_filterMap.mpr ⟨_, inside, rfl⟩

end Kind

def isOption (placeholder : String) : Bool := placeholder == "namespace" || placeholder == "package"

theorem Kind.blocksAreNoOptions (k : Kind) : ∀ p ∈ k.blocks, isOption p = false := by
  cases k <;> decide

def Line.namesOption (l : Line) : Bool := l.slots.any isOption

/- Lines that all have their line break. -/
def Whole (text : String) : Prop := ∃ ls, (∀ l ∈ ls, Single l) ∧ text = unlines ls

def wholeLines (text : String) : List String := (lines text).dropLast

theorem wholeLinesUnlines {ls : List String} (single : ∀ l ∈ ls, Single l) :
    wholeLines (unlines ls) = ls := by
  have split := Text.linesUnlines single ""
  rw [String.append_empty] at split
  rw [wholeLines, split]
  simp [lines]

theorem wholeText {text : String} (whole : Whole text) :
    text = unlines (wholeLines text) ∧ ∀ l ∈ wholeLines text, Single l := by
  obtain ⟨ls, single, rfl⟩ := whole
  rw [wholeLinesUnlines single]
  exact ⟨rfl, single⟩

def Fits (kind : Kind) (placeholder value : String) : Prop :=
  if placeholder ∈ kind.blocks then Whole value else Single value

theorem fitsEmpty (kind : Kind) (placeholder : String) : Fits kind placeholder "" := by
  unfold Fits
  split
  · exact ⟨[], by simp, rfl⟩
  · simp [Single]

namespace Fragment

def value (f : Fragment) (placeholder : String) : String := (f.value? placeholder).getD ""

/- Blocks have whole lines as values and slots single lines, the options left aside. -/
def Tidy (f : Fragment) : Prop :=
  ∀ entry ∈ f.newestFirst, isOption entry.1 = false → Fits f.kind entry.1 entry.2

theorem tidyOf (kind : Kind) : (Fragment.of kind).Tidy := by
  intro entry found
  simp [Fragment.of] at found

theorem Tidy.set {f : Fragment} (tidy : f.Tidy) {p v : String} (fits : Fits f.kind p v) :
    (f.set p v).Tidy := by
  intro entry found plain
  rcases List.mem_cons.mp found with rfl | earlier
  · exact fits
  · exact tidy entry earlier plain

theorem Tidy.setSlot {f : Fragment} (tidy : f.Tidy) {p v : String} (noBlock : p ∉ f.kind.blocks)
    (single : Single v) : (f.set p v).Tidy :=
  tidy.set (by rw [Fits, if_neg noBlock]; exact single)

theorem Tidy.setBlock {f : Fragment} (tidy : f.Tidy) {p v : String} (block : p ∈ f.kind.blocks)
    (whole : Whole v) : (f.set p v).Tidy :=
  tidy.set (by rw [Fits, if_pos block]; exact whole)

theorem Tidy.setOption {f : Fragment} (tidy : f.Tidy) {p v : String} (option : isOption p = true) :
    (f.set p v).Tidy := by
  intro entry found plain
  rcases List.mem_cons.mp found with rfl | earlier
  · rw [option] at plain
    contradiction
  · exact tidy entry earlier plain

theorem Tidy.value {f : Fragment} (tidy : f.Tidy) {p : String} (plain : isOption p = false) :
    Fits f.kind p (f.value p) := by
  unfold Fragment.value
  cases found : f.value? p with
  | none => exact fitsEmpty f.kind p
  | some v =>
    obtain ⟨front, back, split, _⟩ := List.lookup_eq_some_iff.mp found
    have member : (p, v) ∈ f.newestFirst := by simp [split]
    exact tidy (p, v) member plain

def lineText (f : Fragment) : Line → String
  | .ended pieces => String.join (pieces.map f.textOf) ++ "\n"
  | .block placeholder => f.value placeholder

def linesText (f : Fragment) (ls : List Line) : String := String.join (ls.map f.lineText)

def lineOf (f : Fragment) : Line → List String
  | .ended pieces => [String.join (pieces.map f.textOf)]
  | .block placeholder => wholeLines (f.value placeholder)

def linesOf (f : Fragment) (ls : List Line) : List String := ls.flatMap f.lineOf

/- A line piece by piece, with nothing put behind the last. -/
def spelled (f : Fragment) : List Piece → String
  | [] => ""
  | [last] => f.textOf last
  | piece :: rest => f.textOf piece ++ f.spelled rest

theorem joinSpelled (f : Fragment) (pieces : List Piece) :
    String.join (pieces.map f.textOf) = f.spelled pieces := by
  induction pieces with
  | nil => rfl
  | cons piece rest ih =>
    rw [List.map_cons, String.join_cons, ih]
    cases rest with
    | nil => exact String.append_empty
    | cons next others => rfl

def spelledOf (f : Fragment) : Line → List String
  | .ended pieces => [f.spelled pieces]
  | .block placeholder => wholeLines (f.value placeholder)

theorem lineSpelled (f : Fragment) (l : Line) : f.lineOf l = f.spelledOf l := by
  cases l with
  | ended pieces => rw [lineOf, joinSpelled, spelledOf]
  | block placeholder => rfl

theorem linesSpelled (f : Fragment) (ls : List Line) : f.linesOf ls = ls.flatMap f.spelledOf :=
  List.flatMap_congr fun l _ => f.lineSpelled l

theorem piecesText (f : Fragment) (ls : List Line) :
    String.join ((ls.flatMap Line.pieces).map f.textOf) = f.linesText ls := by
  induction ls with
  | nil => rfl
  | cons l rest ih =>
    rw [List.flatMap_cons, List.map_append, String.join_append, ih]
    cases l with
    | ended pieces =>
      simp [Line.pieces, lineText, textOf, String.join_append, String.join_cons, linesText]
    | block placeholder => simp [Line.pieces, lineText, textOf, value, String.join_cons, linesText]

theorem textLines (f : Fragment) : f.text = f.linesText f.kind.lines := piecesText f f.kind.lines

theorem Tidy.pieceSingle {f : Fragment} (tidy : f.Tidy) {pieces : List Piece}
    (inside : .ended pieces ∈ f.kind.lines) (plain : (Line.ended pieces).namesOption = false)
    {piece : Piece} (member : piece ∈ pieces) : Single (f.textOf piece) := by
  cases piece with
  | text literal =>
    exact f.kind.literalsSingle _ inside literal (List.mem_filterMap.mpr ⟨_, member, rfl⟩)
  | slot p =>
    have slot : p ∈ (Line.ended pieces).slots := List.mem_filterMap.mpr ⟨_, member, rfl⟩
    have fits := tidy.value (List.any_eq_false.mp plain p slot |> Bool.eq_false_iff.mpr)
    rwa [Fits, if_neg (f.kind.slotsAreNoBlocks _ inside p slot)] at fits

theorem Tidy.line {f : Fragment} (tidy : f.Tidy) {l : Line} (inside : l ∈ f.kind.lines)
    (plain : l.namesOption = false) :
    f.lineText l = unlines (f.lineOf l) ∧ ∀ x ∈ f.lineOf l, Single x := by
  cases l with
  | ended pieces =>
    refine ⟨by simp [lineText, lineOf, unlines], ?_⟩
    intro x member
    rw [List.mem_singleton.mp member]
    refine Text.singleJoin ?_
    intro part found
    obtain ⟨piece, place, rfl⟩ := List.mem_map.mp found
    exact tidy.pieceSingle inside plain place
  | block p =>
    have block := Kind.blockMember inside
    have fits := tidy.value (f.kind.blocksAreNoOptions p block)
    rw [Fits, if_pos block] at fits
    exact wholeText fits

theorem Tidy.lines {f : Fragment} (tidy : f.Tidy) {ls : List Line}
    (inside : ∀ l ∈ ls, l ∈ f.kind.lines) (plain : ∀ l ∈ ls, l.namesOption = false) :
    f.linesText ls = unlines (f.linesOf ls) ∧ ∀ x ∈ f.linesOf ls, Single x := by
  have each : ∀ l ∈ ls, f.lineText l = unlines (f.lineOf l) ∧ ∀ x ∈ f.lineOf l, Single x :=
    fun l member => tidy.line (inside l member) (plain l member)
  constructor
  · rw [linesText, linesOf, List.flatMap, Text.unlinesFlatten, List.map_map]
    exact congrArg String.join (List.map_congr_left fun l member => (each l member).1)
  · intro x found
    obtain ⟨l, member, place⟩ := List.mem_flatMap.mp found
    exact (each l member).2 x place

def rendered (f : Fragment) : List String := f.linesOf f.kind.lines

theorem renderedSpelled (f : Fragment) : f.rendered = f.kind.lines.flatMap f.spelledOf :=
  f.linesSpelled f.kind.lines

/- Tidy and of a kind that takes no option: the text is whole lines. -/
structure Lined (f : Fragment) : Prop where
  tidy : f.Tidy
  inner : f.kind.lines.any Line.namesOption = false

theorem Lined.text {f : Fragment} (lined : f.Lined) :
    f.text = unlines f.rendered ∧ ∀ x ∈ f.rendered, Single x := by
  rw [textLines]
  refine lined.tidy.lines (fun _ member => member) fun l member => ?_
  exact Bool.eq_false_iff.mpr (List.any_eq_false.mp lined.inner l member)

/- A fragment without blocks needs single lines as values. -/
theorem linedSlots {f : Fragment} (inner : f.kind.lines.any Line.namesOption = false)
    (noBlocks : f.kind.blocks = []) (single : ∀ entry ∈ f.newestFirst, Single entry.2) :
    f.Lined := by
  refine ⟨fun entry found _ => ?_, inner⟩
  rw [Fits, noBlocks, if_neg List.not_mem_nil]
  exact single entry found

def texts (fragments : List Fragment) : String := String.join (fragments.map Fragment.text)

theorem textsLined {fragments : List Fragment} (lined : ∀ f ∈ fragments, f.Lined) :
    Whole (texts fragments) ∧ wholeLines (texts fragments) = fragments.flatMap rendered := by
  have joined : texts fragments = unlines (fragments.flatMap rendered) := by
    rw [texts, List.flatMap, Text.unlinesFlatten, List.map_map]
    exact congrArg String.join (List.map_congr_left fun f member => (lined f member).text.1)
  have single : ∀ x ∈ fragments.flatMap rendered, Single x := by
    intro x found
    obtain ⟨f, member, place⟩ := List.mem_flatMap.mp found
    exact (lined f member).text.2 x place
  rw [joined]
  exact ⟨⟨_, single, rfl⟩, wholeLinesUnlines single⟩

/- Fragments of one line each. -/
theorem renderedEach {α : Type} {items : List α} {fragment : α → Fragment} {line : α → String}
    (one : ∀ x, (fragment x).rendered = [line x]) :
    (items.map fragment).flatMap rendered = items.map line := by
  induction items with
  | nil => rfl
  | cons x rest ih =>
    rw [List.map_cons, List.flatMap_cons, one, ih, List.map_cons, List.singleton_append]

end Fragment
end DoubleDispatch.Template
