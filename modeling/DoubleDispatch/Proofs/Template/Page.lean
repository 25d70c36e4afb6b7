import DoubleDispatch.Proofs.Template.Lines

/-! A page is a template that takes an option. Its first and its last line with an option enclose
the body. Whoever knows the options knows all text around the body and can take it off, whatever
the options are; what an option says can therefore never pass for a part of the body. -/
namespace DoubleDispatch.Template
open Text (dropFront? dropBack?)

namespace Kind

def isPage (k : Kind) : Bool := k.lines.any Line.namesOption

def front (k : Kind) : List Line := k.lines.takeWhile (fun l => !l.namesOption)

def behind (k : Kind) : List Line := k.lines.dropWhile (fun l => !l.namesOption)

def opening (k : Kind) : List Line := k.front ++ k.behind.take 1

def body (k : Kind) : List Line := k.behind.tail.takeWhile (fun l => !l.namesOption)

def closing (k : Kind) : List Line := k.behind.tail.dropWhile (fun l => !l.namesOption)

theorem openingBodyClosing (k : Kind) : k.opening ++ (k.body ++ k.closing) = k.lines := by
  have rest : k.behind.take 1 ++ k.behind.tail = k.behind := by
    rw [← List.drop_one, List.take_append_drop]
  rw [body, closing, List.takeWhile_append_dropWhile, opening, List.append_assoc, rest]
  exact List.takeWhile_append_dropWhile

theorem bodyInside (k : Kind) : ∀ l ∈ k.body, l ∈ k.lines := by
  intro l member
  rw [← k.openingBodyClosing]
  simp [member]

theorem bodyPlain (k : Kind) : ∀ l ∈ k.body, l.namesOption = false := by
  intro l member
  have allowed := List.all_eq_true.mp List.all_takeWhile l member
  simpa using allowed

/- Around the body of a page there are no other slots than those of the options. -/
theorem aroundIsOptions {k : Kind} (page : k.isPage = true) : ∀ l ∈ k.opening ++ k.closing,
    l.block? = none ∧ ∀ p ∈ l.slots, isOption p = true := by
  revert page
  cases k <;> decide

end Kind

abbrev Options := List (String × String)

/- The text around the body, as the options alone determine it. -/
def openingText (kind : Kind) (options : Options) : String :=
  (Fragment.mk kind options).linesText kind.opening

def closingText (kind : Kind) (options : Options) : String :=
  (Fragment.mk kind options).linesText kind.closing

def pageBody? (kind : Kind) (options : Options) (text : String) : Option String := do
  let rest ← dropFront? (openingText kind options) text
  dropBack? (closingText kind options) rest

namespace Fragment

/- The fragment has the values that the options give. -/
def Keeps (f : Fragment) (options : Options) : Prop :=
  ∀ l ∈ f.kind.opening ++ f.kind.closing, ∀ p ∈ l.slots,
    f.value p = (Fragment.mk f.kind options).value p

theorem lineTextAgrees {f g : Fragment} {l : Line} (ended : l.block? = none)
    (agree : ∀ p ∈ l.slots, f.value p = g.value p) : f.lineText l = g.lineText l := by
  cases l with
  | block p => simp [Line.block?] at ended
  | ended pieces =>
    have each : pieces.map f.textOf = pieces.map g.textOf := by
      refine List.map_congr_left fun piece member => ?_
      cases piece with
      | text literal => rfl
      | slot p => exact agree p (List.mem_filterMap.mpr ⟨_, member, rfl⟩)
    rw [lineText, lineText, each]

theorem pageText {f : Fragment} (page : f.kind.isPage = true) {options : Options}
    (keeps : f.Keeps options) :
    f.text = openingText f.kind options ++
      (f.linesText f.kind.body ++ closingText f.kind options) := by
  have around : ∀ l ∈ f.kind.opening ++ f.kind.closing,
      f.lineText l = (Fragment.mk f.kind options).lineText l :=
    fun l member => lineTextAgrees (Kind.aroundIsOptions page l member).1 (keeps l member)
  have front : f.linesText f.kind.opening = openingText f.kind options :=
    congrArg String.join (List.map_congr_left fun l member => around l (by simp [member]))
  have back : f.linesText f.kind.closing = closingText f.kind options :=
    congrArg String.join (List.map_congr_left fun l member => around l (by simp [member]))
  rw [textLines, ← front, ← back]
  conv_lhs => rw [← f.kind.openingBodyClosing]
  simp [linesText, String.join_append]

theorem pageBodyText {f : Fragment} (page : f.kind.isPage = true) {options : Options}
    (keeps : f.Keeps options) :
    pageBody? f.kind options f.text = some (f.linesText f.kind.body) := by
  rw [pageBody?, pageText page keeps, Text.dropFrontAppend]
  exact Text.dropBackAppend _ _

end Fragment

def pageLines? (kind : Kind) (options : Options) (text : String) : Option (List String) :=
  (pageBody? kind options text).map wholeLines

theorem Fragment.pageLinesText {f : Fragment} (page : f.kind.isPage = true) {options : Options}
    (keeps : f.Keeps options) (tidy : f.Tidy) :
    pageLines? f.kind options f.text = some (f.linesOf f.kind.body) := by
  obtain ⟨lines, single⟩ := tidy.lines f.kind.bodyInside f.kind.bodyPlain
  rw [pageLines?, pageBodyText page keeps, lines, Option.map_some, wholeLinesUnlines single]

theorem Kind.aroundIsNamespace {k : Kind} (page : k.isPage = true) (sources : k ≠ .enumJava) :
    ∀ l ∈ k.opening ++ k.closing, ∀ p ∈ l.slots, p = "namespace" := by
  revert page sources
  cases k <;> decide

theorem Fragment.keepsNamespace {f : Fragment} (page : f.kind.isPage = true)
    (sources : f.kind ≠ .enumJava) {name : String} (set : f.value "namespace" = name) :
    f.Keeps [("namespace", name)] := by
  intro l member p slot
  rw [Kind.aroundIsNamespace page sources l member p slot, set]
  rfl

/- The pages of one language are all read with the same option. -/
def Kind.isSource (k : Kind) : Bool := k.isPage && k != .enumJava

theorem Fragment.Tidy.sourceLines {f : Fragment} (tidy : f.Tidy) {kind : Kind}
    (same : f.kind = kind) (source : kind.isSource = true) {name : String}
    (set : f.value "namespace" = name) :
    pageLines? kind [("namespace", name)] f.text = some (f.linesOf kind.body) := by
  subst same
  rw [Kind.isSource, Bool.and_eq_true, bne_iff_ne] at source
  exact pageLinesText source.1 (keepsNamespace source.1 source.2 set) tidy

end DoubleDispatch.Template
