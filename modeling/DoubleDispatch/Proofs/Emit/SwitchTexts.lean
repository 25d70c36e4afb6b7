import DoubleDispatch.Proofs.Emit.Entries
import DoubleDispatch.Proofs.Text.Execution

/-! The functions of the dispatch table as statements. In each switch there is a label for every
terminal type or every operation, with what is done there, and a default that throws. -/
namespace DoubleDispatch.Emit
open Catalog (Operation Operations Terminal Terminals)
open Template (Fragment)
open Template.Fragment (texts textsLined renderedEach)
open Text (Statement Reads readsLine readsSwitch readsCase readsThrow readsAct readsEach token
  tokenReturn tokenAct unindentedAppend dropBack? dropBackAfter table Block
  filterOnly functionName functionNameAfter statementsOf)

/- A switch on a page, with a fragment for every item, and a default that throws. -/
theorem pageTable (page : Fragment) {α : Type} {items : List α} {fragment : α → Fragment}
    {label : α → String} {block : α → List Statement}
    {p head opener other thrown closer subject error : String}
    (value : page.value p = texts (items.map fragment))
    (lined : ∀ f ∈ items.map fragment, f.Lined)
    (each : ∀ x ∈ items, Reads (fragment x).rendered (.label (label x) :: block x))
    (heads : token head = .head subject) (opens : token opener = .opens)
    (falls : token other = .statement .fallback) (throws : Reads [thrown] [.throws error])
    (closed : token closer = .closes) :
    Reads (page.linesOf [.plain head, .plain opener, .block p, .plain other, .plain thrown,
      .plain closer]) [.switch subject (table label block error items)] := by
  have block_ : page.lineOf (.block p) = items.flatMap fun x => (fragment x).rendered := by
    rw [Fragment.lineOf, value, (textsLined lined).2, List.flatMap_map]
  have lines : page.linesOf [.plain head, .plain opener, .block p, .plain other, .plain thrown,
      .plain closer] = head :: opener ::
        ((items.flatMap fun x => (fragment x).rendered) ++ [other, thrown] ++ [closer]) := by
    simp only [Fragment.linesOfCons, Fragment.lineOfPlain, block_, List.singleton_append,
      List.append_assoc]
    rfl
  rw [lines]
  exact readsSwitch heads opens closed
    ((Reads.each each).append ((readsLine falls).append throws))

def runOne (t : Terminal) : String := "run(reg, arg->as" ++ (t.typeName ++ "())")

def runTwo (left right : Terminal) : String :=
  "run(reg, arg0->as" ++ (left.typeName ++ ("(), arg1->as" ++ (right.typeName ++ "())")))

def unknownOne : String := "rdag_error(\"Unknown terminal type in unary dispatch\")"

def unknownTwo : String := "rdag_error(\"Unknown terminal type in binary dispatch\")"

def unknownExpression : String := "rdag_error(\"Unknown expression type in dispatch\")"

def unarySwitch (terminals : Terminals) : Statement :=
  .switch "arg->getType()"
    (table Terminal.typeTag (fun t => [.returns (runOne t)]) unknownOne terminals.entries)

def innerSwitch (terminals : Terminals) (left : Terminal) : Statement :=
  .switch "arg1->getType()"
    (table Terminal.typeTag (fun right => [.returns (runTwo left right)]) unknownTwo
      terminals.entries)

def binarySwitch (terminals : Terminals) : Statement :=
  .switch "arg0->getType()"
    (table Terminal.typeTag (fun left => [innerSwitch terminals left]) unknownTwo
      terminals.entries)

def evalCall (op : Operation) : String :=
  "_" ++ (op.name.text ++ ("Runner->eval(reg, " ++ (evalArguments op.arity ++ ")")))

def dispatchSwitch (ops : Operations) : Statement :=
  .switch "thing->getType()"
    (table (fun op => op.enumName.text) (fun op => [.act (evalCall op), .leave]) unknownExpression
      ops.entries)

/- What the dispatcher looks up before it switches. -/
def dispatchActs : List String :=
  ["RegContainer* reg = thing->getRegs()", "const ArgContainer* args = thing->getArgs()"]

def constructionLine (op : Operation) : String :=
  "  _" ++ (op.name.text ++ ("Runner = new " ++ (op.name.text ++ "Runner();")))

def destructionLine (op : Operation) : String := "  delete _" ++ (op.name.text ++ "Runner;")

def constructionAct (op : Operation) : String :=
  "_" ++ (op.name.text ++ ("Runner = new " ++ (op.name.text ++ "Runner()")))

def destructionAct (op : Operation) : String := "delete _" ++ (op.name.text ++ "Runner")

theorem unaryCaseReads (t : Terminal) :
    Reads (unaryCase t).rendered [.label t.typeTag, .returns (runOne t)] := by
  have rendered : (unaryCase t).rendered = ["    case " ++ (t.typeTag ++ ":"),
      "      return run(reg, arg->as" ++ (t.typeName ++ "());")] :=
    Fragment.renderedSpelled _
  have ends : dropBack? ";" "());" = some "())" := by decide
  rw [rendered]
  exact (readsCase "    case " rfl rfl t.typeTag).append
    (readsLine (tokenReturn (by decide) (by decide) (dropBackAfter t.typeName ends)))

theorem innerCaseReads (left right : Terminal) :
    Reads (innerCase left right).rendered [.label right.typeTag, .returns (runTwo left right)] := by
  have rendered : (innerCase left right).rendered = ["        case " ++ (right.typeTag ++ ":"),
      "          return run(reg, arg0->as" ++ (left.typeName ++ ("(), arg1->as" ++
        (right.typeName ++ "());")))] :=
    Fragment.renderedSpelled _
  have ends : dropBack? ";" "());" = some "())" := by decide
  rw [rendered]
  exact (readsCase "        case " rfl rfl right.typeTag).append
    (readsLine (tokenReturn (by decide) (by decide)
      (dropBackAfter _ (dropBackAfter _ (dropBackAfter _ ends)))))

theorem dispatchCaseReads (op : Operation) : Reads (dispatchCase op).rendered
    [.label op.enumName.text, .act (evalCall op), .leave] := by
  have rendered : (dispatchCase op).rendered = ["    case " ++ (op.enumName.text ++ ":"),
      "      _" ++ (op.name.text ++ ("Runner->eval(reg, " ++ (evalArguments op.arity ++ ");"))),
      "      break;"] :=
    Fragment.renderedSpelled _
  have ends : dropBack? ";" ");" = some ")" := by decide
  have act : token ("      _" ++ (op.name.text ++ ("Runner->eval(reg, " ++
      (evalArguments op.arity ++ ");")))) = .statement (.act (evalCall op)) :=
    tokenAct (unindentedAppend rfl _) rfl
      (dropBackAfter _ (dropBackAfter _ (dropBackAfter _ ends)))
  rw [rendered]
  exact (readsCase "    case " rfl rfl op.enumName.text).append
    ((readsLine act).append (readsLine rfl))

section
variable (ops : Operations) (terminals : Terminals) (names : Names)

theorem binaryCaseReads (left : Terminal) : Reads (binaryCaseOf terminals left).rendered
    [.label left.typeTag, innerSwitch terminals left] := by
  have label : (binaryCaseOf terminals left).lineOf
      (.ended [.text "    case ", .slot "typeenum", .text ":"]) =
      ["    case " ++ (left.typeTag ++ ":")] := Fragment.lineSpelled _ _
  have inner : Reads ((binaryCaseOf terminals left).linesOf
      [.plain "      switch(arg1->getType())", .plain r"      {", .block "inner_cases",
       .plain "        default:",
       .plain "          throw rdag_error(\"Unknown terminal type in binary dispatch\");",
       .plain r"      }"]) [innerSwitch terminals left] :=
    pageTable _ rfl (innerCasesLined terminals left) (fun right _ => innerCaseReads left right) rfl
      rfl rfl (readsThrow "          throw " rfl rfl rfl) rfl
  have whole := (readsCase "    case " rfl rfl left.typeTag).append inner
  rw [← label] at whole
  exact whole

theorem unaryEvalReads : Reads ((dispatchSourcePage ops terminals names).linesOf unaryEvalLines)
    [unarySwitch terminals] :=
  pageTable _ rfl (unaryCasesLined terminals) (fun t _ => unaryCaseReads t) rfl rfl rfl
    (readsThrow "      throw " rfl rfl rfl) rfl

theorem binaryEvalReads : Reads ((dispatchSourcePage ops terminals names).linesOf binaryEvalLines)
    [binarySwitch terminals] :=
  pageTable _ rfl (binaryCasesLined terminals) (fun left _ => binaryCaseReads terminals left) rfl
    rfl rfl (readsThrow "      throw " rfl rfl rfl) rfl

theorem dispatchReads : Reads ((dispatchSourcePage ops terminals names).linesOf dispatchLines)
    (dispatchActs.map .act ++ [dispatchSwitch ops]) := by
  have acts : Reads ["  RegContainer* reg = thing->getRegs();",
      "  const ArgContainer* args = thing->getArgs();"] (dispatchActs.map .act) :=
    (readsAct rfl rfl).append (readsAct rfl rfl)
  exact acts.append (pageTable _ rfl (dispatchCasesLined ops) (fun op _ => dispatchCaseReads op)
    rfl rfl rfl (readsThrow "      throw " rfl rfl rfl) rfl)

theorem constructorReads :
    Reads ((dispatchSourcePage ops terminals names).linesOf [.block "runner_constructions"])
      ((ops.entries.map constructionAct).map .act) := by
  have rendered : ∀ op, (runnerConstruction op).rendered = [constructionLine op] :=
    fun _ => Fragment.renderedSpelled _
  have lines : (dispatchSourcePage ops terminals names).linesOf [.block "runner_constructions"] =
      ops.entries.map constructionLine :=
    (Fragment.linesOfSingle _ _).trans
      ((textsLined (constructionsLined ops)).2.trans (renderedEach rendered))
  have ends : dropBack? ";" "Runner();" = some "Runner()" := by decide
  rw [lines, List.map_map]
  exact readsEach fun op _ => tokenAct (unindentedAppend rfl _) rfl
    (dropBackAfter _ (dropBackAfter _ (dropBackAfter _ ends)))

theorem destructorReads :
    Reads ((dispatchSourcePage ops terminals names).linesOf [.block "runner_destructions"])
      ((ops.entries.map destructionAct).map .act) := by
  have rendered : ∀ op, (runnerDestruction op).rendered = [destructionLine op] :=
    fun _ => Fragment.renderedSpelled _
  have lines : (dispatchSourcePage ops terminals names).linesOf [.block "runner_destructions"] =
      ops.entries.map destructionLine :=
    (Fragment.linesOfSingle _ _).trans
      ((textsLined (destructionsLined ops)).2.trans (renderedEach rendered))
  have ends : dropBack? ";" "Runner;" = some "Runner" := by decide
  rw [lines, List.map_map]
  exact readsEach fun op _ => tokenAct (unindentedAppend rfl _) rfl (dropBackAfter _ ends)

/- The functions of the source that are no entry points. -/
def ownFunctions : List Block :=
  [⟨evalTitle .one, (dispatchSourcePage ops terminals names).linesOf unaryEvalLines⟩,
   ⟨evalTitle .two, (dispatchSourcePage ops terminals names).linesOf binaryEvalLines⟩,
   ⟨"Dispatcher::Dispatcher()",
     (dispatchSourcePage ops terminals names).linesOf [.block "runner_constructions"]⟩,
   ⟨"Dispatcher::~Dispatcher()",
     (dispatchSourcePage ops terminals names).linesOf [.block "runner_destructions"]⟩,
   ⟨"Dispatcher::dispatch(const OGExpr* thing) const",
     (dispatchSourcePage ops terminals names).linesOf dispatchLines⟩]

def ownNames : List String :=
  ["DispatchVoidUnaryOp::eval", "DispatchVoidBinaryOp::eval", "Dispatcher::Dispatcher",
   "Dispatcher::~Dispatcher", "Dispatcher::dispatch"]

theorem ownFunctionNames :
    (ownFunctions ops terminals names).map (fun f => functionName f.head) = ownNames := by
  have unary : functionName (evalTitle .one) = "DispatchVoidUnaryOp::eval" := by decide
  have binary : functionName (evalTitle .two) = "DispatchVoidBinaryOp::eval" :=
    (functionNameAfter (by decide) _).trans (by decide)
  have constructor : functionName "Dispatcher::Dispatcher()" = "Dispatcher::Dispatcher" := by decide
  have destructor : functionName "Dispatcher::~Dispatcher()" = "Dispatcher::~Dispatcher" := by
    decide
  have dispatch : functionName "Dispatcher::dispatch(const OGExpr* thing) const" =
      "Dispatcher::dispatch" := by decide
  rw [ownFunctions, List.map_cons, List.map_cons, List.map_cons, List.map_cons, List.map_cons,
    List.map_nil, unary, binary, constructor, destructor, dispatch, ownNames]

theorem defaultName (overload : Overload) :
    functionName (defaultHead overload) = runnerBase overload.arity ++ "::run" := by
  have one : functionName "DispatchVoidUnaryOp::run(RegContainer*, const " =
      runnerBase .one ++ "::run" := by decide
  have two : functionName "DispatchVoidBinaryOp::run(RegContainer*, const " =
      runnerBase .two ++ "::run" := by decide
  cases overload with
  | unary operand => exact (functionNameAfter (by decide) _).trans one
  | binary left right => exact (functionNameAfter (by decide) _).trans two

/- No two of these functions share a name, and none is called like an entry point. -/
theorem functionOnly {i : Nat} {name : String} {function : Block}
    (own : (ownFunctions ops terminals names)[i]? = some function)
    (called : ownNames[i]? = some name) :
    (dispatchFunctions ops terminals names).filter (fun f => functionName f.head = name) =
      [function] := by
  have same : functionName function.head = name := by
    rw [← ownFunctionNames ops terminals names, List.getElem?_map, own] at called
    exact Option.some.inj called
  have entryPoint : ∀ arity, ∀ other ∈ ownNames, runnerBase arity ++ "::run" ≠ other := by
    intro arity
    cases arity <;> decide
  have none : ∀ arity, ((everyOverload terminals arity).map defaultBlock).filter
      (fun f => functionName f.head = name) = [] :=
    fun _ => List.filter_eq_nil_iff.mpr (List.forall_mem_map.mpr fun o _ => by
      simp [defaultBlock, defaultName, entryPoint _ _ (List.mem_of_getElem? called)])
  have whole : (dispatchFunctions ops terminals names).filter
      (fun f => functionName f.head = name) =
      (ownFunctions ops terminals names).filter (fun f => functionName f.head = name) := by
    simp only [dispatchFunctions, List.filter_append, none, List.nil_append]
    rw [← List.filter_append, ← List.filter_append]
    rfl
  have distinct : ((ownFunctions ops terminals names).map fun f => functionName f.head).Nodup := by
    rw [ownFunctionNames]
    decide
  rw [whole, ← same]
  exact filterOnly distinct (List.mem_of_getElem? own)

theorem unaryEvalStatements : statementsOf "DispatchVoidUnaryOp::eval"
    (dispatchFunctions ops terminals names) = some [unarySwitch terminals] :=
  (unaryEvalReads ops terminals names).function (functionOnly _ _ _ (i := 0) rfl rfl)

theorem binaryEvalStatements : statementsOf "DispatchVoidBinaryOp::eval"
    (dispatchFunctions ops terminals names) = some [binarySwitch terminals] :=
  (binaryEvalReads ops terminals names).function (functionOnly _ _ _ (i := 1) rfl rfl)

theorem constructorStatements : statementsOf "Dispatcher::Dispatcher"
    (dispatchFunctions ops terminals names) = some ((ops.entries.map constructionAct).map .act) :=
  (constructorReads ops terminals names).function (functionOnly _ _ _ (i := 2) rfl rfl)

theorem destructorStatements : statementsOf "Dispatcher::~Dispatcher"
    (dispatchFunctions ops terminals names) = some ((ops.entries.map destructionAct).map .act) :=
  (destructorReads ops terminals names).function (functionOnly _ _ _ (i := 3) rfl rfl)

theorem dispatchStatements : statementsOf "Dispatcher::dispatch"
    (dispatchFunctions ops terminals names) =
      some (dispatchActs.map .act ++ [dispatchSwitch ops]) :=
  (dispatchReads ops terminals names).function (functionOnly _ _ _ (i := 4) rfl rfl)

end
end DoubleDispatch.Emit
