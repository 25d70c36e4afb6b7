import DoubleDispatch.Proofs.Emit.Overriding
import DoubleDispatch.Proofs.Emit.SwitchTexts
import DoubleDispatch.Proofs.Text.Calls

/-! The runners belong to the dispatcher: it has one pointer for every operation, to a runner of its
class, and whatever the table does in any of its functions, that pointer is set once, when the
dispatcher is set up, and deleted once, when it is torn down. -/
namespace DoubleDispatch.Emit
open Catalog (Operation Operations Terminals)
open Text (Statement Reads readsLine readStatements tokenThrow unindented dropBack? dropBackAfter
  dropFrontNone dropFrontAppend identifierPart span spanAppend stopsAt actsOf actsOfActs tableActs
  switchActs collectAppend filterMapped Block ClassText Field field? fieldOf Assignment assignment?
  assignmentOf assignmentNone deletion?)

/- What is done in the functions, taken together. -/
def actsIn (functions : List Block) : Option (List String) :=
  (functions.mapM fun f => readStatements f.body).map fun bodies => bodies.flatMap actsOf

theorem actsInAppend {fs gs : List Block} {xs ys : List String} (front : actsIn fs = some xs)
    (back : actsIn gs = some ys) : actsIn (fs ++ gs) = some (xs ++ ys) := by
  obtain ⟨first, readFirst, rfl⟩ := Option.map_eq_some_iff.mp front
  obtain ⟨second, readSecond, rfl⟩ := Option.map_eq_some_iff.mp back
  rw [actsIn, List.mapM_append, readFirst, readSecond]
  exact congrArg some List.flatMap_append

theorem actsInOne (head : String) {body : List String} {ss : List Statement}
    (reads : Reads body ss) : actsIn [⟨head, body⟩] = some (actsOf ss) := by
  rw [actsIn, List.mapM_cons, reads.statements]
  exact congrArg some (List.append_nil _)

theorem actsInNone {fs : List Block} (none : ∀ f ∈ fs, actsIn [f] = some []) :
    actsIn fs = some [] := by
  induction fs with
  | nil => rfl
  | cons f rest ih =>
    have back := ih fun g member => none g (List.mem_cons_of_mem _ member)
    exact actsInAppend (none f List.mem_cons_self) back

theorem defaultActs (overload : Overload) : actsIn [defaultBlock overload] = some [] := by
  have ends : dropBack? ";" "\");" = some "\")" := by decide
  have starts : unindented "  throw rdag_error(\"run() is not implemented for " =
      "throw " ++ "rdag_error(\"run() is not implemented for " := by rfl
  have thrown : ∃ error, Reads [thrownLine overload] [.throws error] := by
    cases overload with
    | unary operand =>
      exact ⟨_, readsLine (tokenThrow rfl starts (dropBackAfter _ ends))⟩
    | binary left right =>
      exact ⟨_, readsLine (tokenThrow rfl starts
        (dropBackAfter _ (dropBackAfter _ (dropBackAfter _ ends))))⟩
  obtain ⟨error, reads⟩ := thrown
  exact actsInOne _ reads

section
variable (ops : Operations) (terminals : Terminals) (names : Names)

theorem dispatchCaseActs : actsOf [dispatchSwitch ops] = ops.entries.map evalCall := by
  rw [dispatchSwitch, switchActs, tableActs, List.map_eq_flatMap]
  rfl

theorem evalActs : actsOf [unarySwitch terminals] = [] ∧ actsOf [binarySwitch terminals] = [] := by
  have inner : ∀ left, actsOf [innerSwitch terminals left] = [] := by
    intro left
    rw [innerSwitch, switchActs, tableActs]
    exact List.flatMap_eq_nil_iff.mpr fun _ _ => rfl
  constructor
  · rw [unarySwitch, switchActs, tableActs]
    exact List.flatMap_eq_nil_iff.mpr fun _ _ => rfl
  · rw [binarySwitch, switchActs, tableActs]
    exact List.flatMap_eq_nil_iff.mpr fun left _ => inner left

theorem sourceActs : actsIn (dispatchFunctions ops terminals names) =
    some (ops.entries.map constructionAct ++
      (ops.entries.map destructionAct ++ (dispatchActs ++ ops.entries.map evalCall))) := by
  have defaults : ∀ arity, actsIn ((everyOverload terminals arity).map defaultBlock) = some [] :=
    fun _ => actsInNone (List.forall_mem_map.mpr fun overload _ => defaultActs overload)
  obtain ⟨unaryActs, binaryActs⟩ := evalActs terminals
  have unary := actsInOne (evalTitle .one) (unaryEvalReads ops terminals names)
  have binary := actsInOne (evalTitle .two) (binaryEvalReads ops terminals names)
  have constructor := actsInOne "Dispatcher::Dispatcher()"
    (constructorReads ops terminals names)
  have destructor := actsInOne "Dispatcher::~Dispatcher()"
    (destructorReads ops terminals names)
  have dispatch := actsInOne "Dispatcher::dispatch(const OGExpr* thing) const"
    (dispatchReads ops terminals names)
  rw [unaryActs] at unary
  rw [binaryActs] at binary
  rw [actsOfActs] at constructor destructor
  rw [actsOf, collectAppend, ← actsOf, ← actsOf, actsOfActs, dispatchCaseActs] at dispatch
  have whole := actsInAppend unary (actsInAppend (defaults .one) (actsInAppend binary
    (actsInAppend (defaults .two) (actsInAppend constructor (actsInAppend destructor dispatch)))))
  exact whole

end

theorem runnerNameParts (op : Operation) : op.runnerName = op.name.text ++ "Runner" := rfl

/- The member that points to the runner of an operation. -/
def pointer (op : Operation) : String := "_" ++ op.runnerName

theorem pointerParts (op : Operation) : ∀ c ∈ (pointer op).toList, identifierPart c = true := by
  have front : "_".toList.all identifierPart = true := by decide
  simp only [pointer, String.toList_append, List.forall_mem_append]
  exact ⟨List.all_eq_true.mp front, Text.identifierParts op.runner.valid⟩

theorem runnerMemberField (op : Operation) :
    field? (runnerMemberLine op) = some ⟨op.runnerName, pointer op⟩ := by
  have line : runnerMemberLine op =
      "    const " ++ (op.runnerName ++ ("* " ++ (pointer op ++ ";"))) := by
    have middle : "Runner* _" = "Runner" ++ ("* " ++ "_") := by decide
    have last : "Runner;" = "Runner" ++ ";" := by decide
    simp only [runnerMemberLine, pointer, runnerNameParts, middle, last, String.append_assoc]
  rw [line]
  exact fieldOf (Text.identifierParts op.runner.valid) _

theorem constructionAssigns (op : Operation) : assignment? (constructionAct op) =
    some ⟨pointer op, "new " ++ (op.runnerName ++ "()")⟩ := by
  have act : constructionAct op =
      pointer op ++ (" = " ++ ("new " ++ (op.runnerName ++ "()"))) := by
    have middle : "Runner = new " = "Runner" ++ (" = " ++ "new ") := by decide
    have last : "Runner()" = "Runner" ++ "()" := by decide
    simp only [constructionAct, pointer, runnerNameParts, middle, last, String.append_assoc]
  rw [act]
  exact assignmentOf (pointerParts op) _

theorem destructionDeletes (op : Operation) :
    deletion? (destructionAct op) = some (pointer op) := by
  have act : destructionAct op = "delete " ++ pointer op := by
    have front : "delete _" = "delete " ++ "_" := by decide
    simp only [destructionAct, pointer, runnerNameParts, front, String.append_assoc]
  rw [act]
  exact dropFrontAppend _ _

theorem destructionNoAssignment (op : Operation) : assignment? (destructionAct op) = none := by
  have act : destructionAct op = "delete" ++ (" _" ++ (op.name.text ++ "Runner")) := by
    have front : "delete _" = "delete" ++ " _" := by decide
    simp only [destructionAct, front, String.append_assoc]
  have split : span identifierPart (destructionAct op) =
      ("delete", " _" ++ (op.name.text ++ "Runner")) := by
    have word : "delete".toList.all identifierPart = true := by decide
    rw [act]
    exact spanAppend (List.all_eq_true.mp word) (stopsAt rfl _ _)
  exact assignmentNone split (by decide)

theorem evalCallParts (op : Operation) : evalCall op =
    pointer op ++ ("->eval" ++ ("(" ++ ("reg, " ++ (evalArguments op.arity ++ ")")))) := by
  have middle : "Runner->eval(reg, " = "Runner" ++ ("->eval" ++ ("(" ++ "reg, ")) := by decide
  simp only [evalCall, pointer, runnerNameParts, middle, String.append_assoc]

theorem evalNoAssignment (op : Operation) : assignment? (evalCall op) = none := by
  have split : span identifierPart (evalCall op) = (pointer op,
      "->eval" ++ ("(" ++ ("reg, " ++ (evalArguments op.arity ++ ")")))) := by
    rw [evalCallParts]
    exact spanAppend (pointerParts op) (stopsAt rfl _ _)
  exact assignmentNone split (by decide)

theorem pointersDistinct (ops : Operations) : (ops.entries.map pointer).Nodup := by
  have each : ops.entries.map pointer = (ops.entries.map Operation.runnerName).map ("_" ++ ·) := by
    rw [List.map_map]
    rfl
  rw [each]
  exact (runnerNamesDistinct ops).map fun _ _ => String.append_right_inj "_" |>.mp

def construction (op : Operation) : Assignment :=
  ⟨pointer op, "new " ++ (op.runnerName ++ "()")⟩

theorem filterMapEach {α β γ : Type} {f : β → Option γ} {g : α → β} {h : α → γ}
    (each : ∀ x, f (g x) = some (h x)) (xs : List α) : (xs.map g).filterMap f = xs.map h := by
  have both : f ∘ g = some ∘ h := funext each
  rw [List.filterMap_map, both, List.filterMap_eq_map]

section
variable (ops : Operations)

theorem dispatcherFields : (dispatcherText ops).members.filterMap field? =
    ops.entries.map fun op => ⟨op.runnerName, pointer op⟩ := by
  have fixed : ["  public:", "    Dispatcher();", "    ~Dispatcher();",
      "    void dispatch(const OGExpr* thing) const;", "  private:"].filterMap field? = [] := by
    decide
  have members : (dispatcherText ops).members = ["  public:", "    Dispatcher();",
      "    ~Dispatcher();", "    void dispatch(const OGExpr* thing) const;", "  private:"] ++
        ops.entries.map runnerMemberLine := rfl
  rw [members, List.filterMap_append, fixed, List.nil_append, filterMapEach runnerMemberField]

theorem constructorAssigns :
    (ops.entries.map constructionAct).filterMap assignment? = ops.entries.map construction :=
  filterMapEach constructionAssigns _

theorem destructorDeletes :
    (ops.entries.map destructionAct).filterMap deletion? = ops.entries.map pointer :=
  filterMapEach destructionDeletes _

/- Nothing else sets a pointer, and nothing else deletes one. -/
theorem otherActs : (ops.entries.map destructionAct ++ (dispatchActs ++
      ops.entries.map evalCall)).filterMap assignment? = [] ∧
    (ops.entries.map constructionAct).filterMap deletion? = [] ∧
    (dispatchActs ++ ops.entries.map evalCall).filterMap deletion? = [] := by
  simp only [List.filterMap_eq_nil_iff, List.forall_mem_append, List.forall_mem_map]
  refine ⟨⟨fun op _ => destructionNoAssignment op, by decide, fun op _ => evalNoAssignment op⟩,
    fun op _ => ?_, by decide, fun op _ => ?_⟩
  · exact dropFrontNone (by decide) _
  · exact dropFrontNone (by decide) _

end

def assignmentsTo (target : String) (acts : List String) : List Assignment :=
  (acts.filterMap assignment?).filter (fun a => a.target = target)

def deletionsOf (target : String) (acts : List String) : List String :=
  (acts.filterMap deletion?).filter (fun other => other = target)

/- One member points to the runner. Of all that is done, one act sets it, and that is done when the
dispatcher is set up; and one deletes it, when it is torn down. -/
structure Owned (op : Operation) (dispatcher : ClassText) (setUp tearDown all : List String) :
    Prop where
  declared : (dispatcher.members.filterMap field?).filter (fun f => f.name = "_" ++ op.runnerName) =
    [⟨op.runnerName, "_" ++ op.runnerName⟩]
  constructed : ∀ acts ∈ [setUp, all], assignmentsTo ("_" ++ op.runnerName) acts =
    [⟨"_" ++ op.runnerName, "new " ++ (op.runnerName ++ "()")⟩]
  destroyed : ∀ acts ∈ [tearDown, all], deletionsOf ("_" ++ op.runnerName) acts =
    ["_" ++ op.runnerName]

theorem runnerOwned {ops : Operations} {op : Operation} (member : op ∈ ops.entries) :
    Owned op (dispatcherText ops) (ops.entries.map constructionAct)
      (ops.entries.map destructionAct)
      (ops.entries.map constructionAct ++
        (ops.entries.map destructionAct ++ (dispatchActs ++ ops.entries.map evalCall))) := by
  have distinct := pointersDistinct ops
  obtain ⟨noAssignment, noDeletion, noLater⟩ := otherActs ops
  refine ⟨?_, ?_, ?_⟩
  · rw [dispatcherFields]
    exact filterMapped Field.name (fun op => ⟨op.runnerName, pointer op⟩) distinct member
  · have only := filterMapped Assignment.target construction distinct member
    have all : assignmentsTo (pointer op) (ops.entries.map constructionAct ++
        (ops.entries.map destructionAct ++ (dispatchActs ++ ops.entries.map evalCall))) =
        [construction op] := by
      rw [assignmentsTo, List.filterMap_append, constructorAssigns, noAssignment, List.append_nil]
      exact only
    rw [← constructorAssigns] at only
    exact List.forall_mem_cons.mpr ⟨only, List.forall_mem_singleton.mpr all⟩
  · have only := filterMapped id pointer distinct member
    have all : deletionsOf (pointer op) (ops.entries.map constructionAct ++
        (ops.entries.map destructionAct ++ (dispatchActs ++ ops.entries.map evalCall))) =
        [pointer op] := by
      rw [deletionsOf, List.filterMap_append, List.filterMap_append, noDeletion, destructorDeletes,
        noLater, List.append_nil]
      exact only
    rw [← destructorDeletes] at only
    exact List.forall_mem_cons.mpr ⟨only, List.forall_mem_singleton.mpr all⟩

end DoubleDispatch.Emit
