import DoubleDispatch.Proofs.Template.Page
import DoubleDispatch.Proofs.Text.Blocks

/-! The outline of a page: which of its lines make a block, and what becomes of the block when the
page is filled. Lines between the blocks open none. -/
namespace DoubleDispatch.Template
open Text (Holds holdsLines holdsBlock closes Indented)

/- A literal line, and not the given one. -/
def Line.avoids (line : String) : Line → Bool
  | .ended [] => line != ""
  | .ended [.text literal] => literal != line
  | _ => false

/- A literal line with the given property. -/
def Line.plainly (p : String → Bool) : Line → Bool
  | .ended [] => p ""
  | .ended [.text literal] => p literal
  | _ => false

theorem Line.avoidsPlainly (line : String) : Line.avoids line = Line.plainly (· != line) := by
  funext l
  unfold Line.avoids Line.plainly
  split
  · exact bne_comm
  · rfl
  · rfl

def Line.indented : Line → Bool
  | .ended (.text literal :: _) => literal.toList.head? == some ' '
  | .ended _ => false
  | .block _ => true

/- A block of a page, from its head to the line that closes it. -/
def region (head : Line) (inner : List Line) (last : String) : List Line :=
  head :: .plain r"{" :: (inner ++ [.plain last])

namespace Fragment

theorem linesOfAppend (f : Fragment) (ls ms : List Line) :
    f.linesOf (ls ++ ms) = f.linesOf ls ++ f.linesOf ms :=
  List.flatMap_append

theorem linesOfCons (f : Fragment) (l : Line) (ls : List Line) :
    f.linesOf (l :: ls) = f.lineOf l ++ f.linesOf ls :=
  List.flatMap_cons

theorem linesOfSingle (f : Fragment) (l : Line) : f.linesOf [l] = f.lineOf l :=
  List.flatMap_singleton _ _

theorem lineOfPlain (f : Fragment) (literal : String) : f.lineOf (.plain literal) = [literal] :=
  f.lineSpelled (.plain literal)

theorem plainLines (f : Fragment) {p : String → Bool} {ls : List Line}
    (plain : ls.all (Line.plainly p) = true) : ∀ x ∈ f.linesOf ls, p x = true := by
  intro x member
  obtain ⟨l, inside, place⟩ := List.mem_flatMap.mp member
  have holds := List.all_eq_true.mp plain l inside
  match l, holds with
  | .ended [], holds => rwa [List.mem_singleton.mp place]
  | .ended [.text literal], holds =>
    rw [lineSpelled] at place
    rwa [List.mem_singleton.mp place]

theorem avoidsLine (f : Fragment) {line : String} {ls : List Line}
    (avoided : ls.all (Line.avoids line) = true) : ∀ x ∈ f.linesOf ls, x ≠ line := by
  intro x member
  rw [Line.avoidsPlainly] at avoided
  exact bne_iff_ne.mp (f.plainLines avoided x member)

theorem marginHolds (f : Fragment) {ls : List Line}
    (margin : ls.all (Line.avoids r"{") = true) : Holds (f.linesOf ls) [] :=
  holdsLines (f.avoidsLine margin)

theorem regionLines (f : Fragment) (inner : List Line) {head : Line} {title last : String}
    (titled : f.lineOf head = [title]) :
    f.linesOf (region head inner last) = title :: r"{" :: (f.linesOf inner ++ [last]) := by
  rw [region, linesOfCons, linesOfCons, linesOfAppend, linesOfSingle, titled, lineOfPlain,
    lineOfPlain]
  rfl

/- The lines of a block are indented, so none of them closes it. -/
theorem regionHolds (f : Fragment) {head : Line} {inner : List Line} {title last : String}
    {body : List String} (titled : f.lineOf head = [title]) (noBrace : title ≠ r"{")
    (closed : closes last = true) (inside : f.linesOf inner = body)
    (indented : ∀ l ∈ body, Indented l) :
    Holds (f.linesOf (region head inner last)) [⟨title, body⟩] := by
  subst inside
  rw [f.regionLines inner titled]
  exact holdsBlock noBrace (fun l member => (indented l member).closesNot) closed

/- A fragment that is one block, and a blank line behind it. -/
theorem blockHolds (f : Fragment) {head : Line} {inner : List Line} {title last : String}
    {body : List String} (lines : f.kind.lines = region head inner last ++ [.blank])
    (titled : f.lineOf head = [title]) (noBrace : title ≠ r"{") (closed : closes last = true)
    (inside : f.linesOf inner = body) (indented : ∀ l ∈ body, Indented l) :
    Holds f.rendered [⟨title, body⟩] := by
  have block := f.regionHolds titled noBrace closed inside indented
  have blank := f.marginHolds (by decide : [Line.blank].all (Line.avoids r"{") = true)
  have whole := block.append blank
  rw [← linesOfAppend, ← lines] at whole
  exact whole

/- Every line starts with a blank if all literal lines do, and all lines of the blocks. -/
theorem linesIndented (f : Fragment) {ls : List Line} (starts : ls.all Line.indented = true)
    (inside : ∀ p ∈ ls.filterMap Line.block?, ∀ x ∈ wholeLines (f.value p), Indented x) :
    ∀ x ∈ f.linesOf ls, Indented x := by
  intro x member
  obtain ⟨l, here, place⟩ := List.mem_flatMap.mp member
  have start := List.all_eq_true.mp starts l here
  match l, start with
  | .ended (.text literal :: rest), start =>
    rw [List.mem_singleton.mp place, List.map_cons, String.join_cons]
    exact Indented.append (eq_of_beq start) _
  | .block p, _ => exact inside p (List.mem_filterMap.mpr ⟨_, here, rfl⟩) x place

/- A block is indented if the fragments of its value are. -/
theorem blockIndented {fragments : List Fragment} (lined : ∀ f ∈ fragments, f.Lined)
    (each : ∀ f ∈ fragments, ∀ x ∈ f.rendered, Indented x) :
    ∀ x ∈ wholeLines (texts fragments), Indented x := by
  rw [(textsLined lined).2]
  exact List.forall_mem_flatMap.mpr each

end Fragment
end DoubleDispatch.Template
