import DoubleDispatch.Proofs.Catalog.Terminal
import DoubleDispatch.Proofs.Emit.Runners
import DoubleDispatch.Proofs.Template.Outline
import DoubleDispatch.Proofs.Text.Classes

/-! The runner classes, read back from their header: one class per operation, in the order of the
catalogue, and its members. -/
namespace DoubleDispatch.Emit
open Catalog (Category Operation Operations Terminal)
open Template (Fragment Line Kind pageLines? singleChars)
open Template.Fragment (texts linedSlots textsLined renderedEach)
open Text (Single identifierPart stopsBefore blocks Holds Indented indentedChars ClassText readClass
  readDerivedClass)

/- An entry point as the base class declares it, and as a runner does. -/
def Overload.entry : Overload → String
  | .unary operand =>
    "    virtual void * run(RegContainer* reg, const " ++ (operand.typeName ++ "* arg) const;")
  | .binary left right =>
    "    virtual void * run(RegContainer* reg, const " ++ (left.typeName ++ ("* arg0, const " ++
      (right.typeName ++ "* arg1) const;")))

def Overload.overriding : Overload → String
  | .unary operand =>
    "    virtual void * run(RegContainer* reg, const " ++
      (operand.typeName ++ "* arg) const override;")
  | .binary left right =>
    "    virtual void * run(RegContainer* reg, const " ++ (left.typeName ++ ("* arg0, const " ++
      (right.typeName ++ "* arg1) const override;")))

def evalDeclared (arity : Category.Arity) : String :=
  "    virtual void * eval(" ++ (evalParameters arity ++ ") const;")

def evalOverriding (arity : Category.Arity) : String :=
  "    virtual void * eval(" ++ (evalParameters arity ++ ") const override;")

def usingBase (arity : Category.Arity) : String := "    using " ++ (runnerBase arity ++ "::run;")

def overridingLines (op : Operation) : List String :=
  if op.category.isExternal then [evalOverriding op.arity]
  else (overloads op.category).map Overload.overriding

def runnerText (op : Operation) : ClassText :=
  ⟨op.runnerName, some (runnerBase op.arity),
    "  public:" :: usingBase op.arity :: overridingLines op⟩

theorem overriddenEntry (overload : Overload) :
    Text.overridden? overload.overriding = some overload.entry := by
  cases overload with
  | unary operand =>
    have ending : Text.overridden? "* arg) const override;" = some "* arg) const;" := by decide
    exact Text.overriddenAfter _ (Text.overriddenAfter _ ending)
  | binary left right =>
    have ending : Text.overridden? "* arg1) const override;" = some "* arg1) const;" := by decide
    exact Text.overriddenAfter _ (Text.overriddenAfter _ (Text.overriddenAfter _
      (Text.overriddenAfter _ ending)))

theorem overriddenEval (arity : Category.Arity) :
    Text.overridden? (evalOverriding arity) = some (evalDeclared arity) := by
  have ending : Text.overridden? ") const override;" = some ") const;" := by decide
  exact Text.overriddenAfter _ (Text.overriddenAfter _ ending)

theorem entryPointRendered (overload : Overload) :
    (entryPoint overload).rendered = [overload.overriding] := by
  cases overload with
  | unary operand => exact Fragment.renderedSpelled _
  | binary left right => exact Fragment.renderedSpelled _

theorem membersRendered (op : Operation) : (members op).flatMap Fragment.rendered =
    usingBase op.arity :: overridingLines op := by
  have using_ : (baseOverloads op).rendered = [usingBase op.arity] := Fragment.renderedSpelled _
  have eval : (evalEntry op).rendered = [evalOverriding op.arity] := Fragment.renderedSpelled _
  rw [members, List.flatMap_cons, using_, overridingLines, List.singleton_append]
  split
  · rw [List.flatMap_singleton, eval]
  · rw [renderedEach entryPointRendered]

theorem singleBase (arity : Category.Arity) : Single (runnerBase arity) := by
  cases arity <;> exact singleChars rfl

theorem singleParameters (arity : Category.Arity) : Single (evalParameters arity) := by
  cases arity <;> exact singleChars rfl

theorem membersLined (op : Operation) : ∀ f ∈ members op, f.Lined := by
  intro f member
  rcases List.mem_cons.mp member with rfl | member
  · exact linedSlots rfl rfl (by simp [baseOverloads, Fragment.set, Fragment.of, singleBase])
  · split at member
    · rw [List.mem_singleton.mp member]
      exact linedSlots rfl rfl (by simp [evalEntry, Fragment.set, Fragment.of, singleParameters])
    · obtain ⟨overload, _, rfl⟩ := List.mem_map.mp member
      cases overload with
      | unary operand =>
        exact linedSlots rfl rfl (by
          simp [entryPoint, Fragment.set, Fragment.of, Terminal.typeNameSingle])
      | binary left right =>
        exact linedSlots rfl rfl (by
          simp [entryPoint, Fragment.set, Fragment.of, Terminal.typeNameSingle])

theorem classLined (op : Operation) : (classOf op).Lined where
  tidy := (((Fragment.tidyOf .runnerClass).setSlot
    (by decide : "nodename" ∉ Kind.blocks .runnerClass) op.name.single).setSlot
    (by decide : "base" ∉ Kind.blocks .runnerClass) (singleBase op.arity)).setBlock
    (by decide : "members" ∈ Kind.blocks .runnerClass) (textsLined (membersLined op)).1
  inner := rfl

def classHead (op : Operation) : String :=
  "class " ++ (op.name.text ++ ("Runner: public " ++
    (runnerBase op.arity ++ ", private Uncopyable")))

theorem overridingIndented (overload : Overload) : Indented overload.overriding := by
  cases overload with
  | unary operand => exact (indentedChars _).append _
  | binary left right => exact (indentedChars _).append _

theorem membersIndented (op : Operation) : ∀ l ∈ (runnerText op).members, Indented l := by
  simp only [runnerText, usingBase, List.forall_mem_cons]
  refine ⟨indentedChars _, ?_, fun l member => ?_⟩
  · exact (indentedChars _).append _
  · unfold overridingLines at member
    split at member
    · rw [List.mem_singleton.mp member]
      exact (indentedChars _).append _
    · obtain ⟨overload, _, rfl⟩ := List.mem_map.mp member
      exact overridingIndented overload

theorem classHolds (op : Operation) :
    Holds (classOf op).rendered [⟨classHead op, (runnerText op).members⟩] := by
  have titled : (classOf op).lineOf (.ended [.text "class ", .slot "nodename",
      .text "Runner: public ", .slot "base", .text ", private Uncopyable"]) = [classHead op] :=
    Fragment.lineSpelled _ _
  have inner : (classOf op).linesOf [.plain "  public:", .block "members"] =
      (runnerText op).members := by
    rw [Fragment.linesOfCons, Fragment.linesOfSingle, Fragment.lineOfPlain, List.singleton_append]
    exact congrArg (List.cons _) ((textsLined (membersLined op)).2.trans (membersRendered op))
  exact (classOf op).blockHolds rfl titled (Text.startsNot (by decide) _ _) (by decide) inner
    (membersIndented op)

theorem readClassHead (op : Operation) :
    readClass ⟨classHead op, (runnerText op).members⟩ = some (runnerText op) := by
  have apart : ∀ (a b c d : String), a ++ (b ++ ((c ++ ": public ") ++ d)) =
      a ++ ((b ++ c) ++ (": public " ++ d)) := by
    intro a b c d
    simp only [String.append_assoc]
  have split : "Runner: public " = "Runner" ++ ": public " := by decide
  have head : classHead op = "class " ++ (op.runnerName ++
      (": public " ++ (runnerBase op.arity ++ ", private Uncopyable"))) :=
    (congrArg (fun middle => "class " ++ (op.name.text ++ (middle ++
      (runnerBase op.arity ++ ", private Uncopyable")))) split).trans (apart _ _ _ _)
  have baseParts : ∀ c ∈ (runnerBase op.arity).toList, identifierPart c = true := by
    cases op.arity <;> exact List.all_eq_true.mp (by decide)
  rw [head]
  exact readDerivedClass (Text.identifierParts op.runner.valid) baseParts (stopsBefore rfl _) _

/- The classes of a header: every block of it declares one. -/
def readClasses (kind : Kind) (names : Names) (text : String) : Option (List ClassText) := do
  let page ← pageLines? kind [("namespace", names.namespaceName)] text
  (blocks page).mapM readClass

/- A page with nothing but classes on it, one for every item. -/
theorem classBlocks {page : Fragment} {α : Type} {items : List α} {fragment : α → Fragment}
    {block : α → Text.Block} (value : page.value "class_definitions" = texts (items.map fragment))
    (lined : ∀ f ∈ items.map fragment, f.Lined)
    (each : ∀ x ∈ items, Holds (fragment x).rendered [block x]) :
    blocks (page.linesOf [.blank, .block "class_definitions"]) = items.map block := by
  have classes : page.lineOf (.block "class_definitions") =
      items.flatMap fun x => (fragment x).rendered := by
    rw [Fragment.lineOf, value, (textsLined lined).2, List.flatMap_map]
  have front := page.marginHolds (by decide : [Line.blank].all (Line.avoids r"{") = true)
  rw [Fragment.linesOfSingle] at front
  rw [Fragment.linesOfCons, Fragment.linesOfSingle, classes, (front.append (.each each)).blocks,
    List.nil_append, List.map_eq_flatMap]

theorem classesLined (ops : Operations) : ∀ f ∈ ops.entries.map classOf, f.Lined :=
  List.forall_mem_map.mpr fun op _ => classLined op

theorem runnersHeaderTidy (ops : Operations) (names : Names) :
    (runnersHeaderPage ops names).Tidy :=
  ((Fragment.tidyOf .runnersHeader).setOption rfl).setBlock
    (by decide : "class_definitions" ∈ Kind.blocks .runnersHeader) (textsLined (classesLined ops)).1

theorem runnersBlocks (ops : Operations) (names : Names) :
    blocks ((runnersHeaderPage ops names).linesOf (Kind.body .runnersHeader)) =
      ops.entries.map fun op => ⟨classHead op, (runnerText op).members⟩ := by
  have body : Kind.body .runnersHeader = [.blank, .block "class_definitions"] := by rfl
  rw [body]
  exact classBlocks rfl (classesLined ops) fun op _ => classHolds op

theorem readRunners (ops : Operations) (names : Names) :
    readClasses .runnersHeader names (runnersHeaderPage ops names).text =
      some (ops.entries.map runnerText) := by
  have page : pageLines? .runnersHeader [("namespace", names.namespaceName)]
      (runnersHeaderPage ops names).text =
      some ((runnersHeaderPage ops names).linesOf (Kind.body .runnersHeader)) :=
    (runnersHeaderTidy ops names).sourceLines rfl
      (by decide : Kind.isSource .runnersHeader = true) rfl
  have classes := Outcome.mapMSome fun op (_ : op ∈ ops.entries) => readClassHead op
  simp only [readClasses, page, Option.bind_eq_bind, Option.bind_some, runnersBlocks, classes]

end DoubleDispatch.Emit
