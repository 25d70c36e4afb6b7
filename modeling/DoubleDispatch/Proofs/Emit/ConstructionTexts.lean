import DoubleDispatch.Proofs.Emit.Holders
import DoubleDispatch.Proofs.Emit.SwitchTexts

/-! The construction table, read back: a function for terminals and one for expressions. The switch
of the latter checks the number of arguments and makes a node of the class of the operation. -/
namespace DoubleDispatch.Emit
open Catalog (Category Operation Operations Terminal Terminals)
open Template (Fragment Line Kind pageLines? region singleChars)
open Template.Fragment (linedSlots textsLined)
open Text (Single singleDigits Block blocks Holds Indented Statement Reads readsLine readsCase
  readsThrow tokenAct tokenReturn unindentedAppend token dropBack? dropBackAfter table functionName
  statementsOf)

theorem nodeArgumentsSingle (arity : Category.Arity) : Single (nodeArguments arity) := by
  cases arity <;> exact singleChars rfl

def createTerminalLines : List Line :=
  [.plain "  switch(type)", .plain r"  {", .block "terminal_cases", .plain "    default:",
   .plain "      throw rdag_error(\"Unknown terminal type in createTerminal\");", .plain r"  }"]

def createExpressionLines : List Line :=
  [.plain "  switch(type)", .plain r"  {", .block "operation_cases", .plain "    default:",
   .plain "      throw rdag_error(\"Unknown expression type in createExpression\");",
   .plain r"  }"]

def createTerminalTitle : String := "createTerminal(TerminalType_t type, const TerminalData* data)"

def createExpressionTitle : String :=
  "createExpression(ExprType_t type, const ArgContainer* args)"

theorem constructionBody : Kind.body .constructionSource =
    [.blank, .plain "OGTerminal*"] ++
      (region (.plain createTerminalTitle) createTerminalLines r"}" ++
        ([.blank, .plain "OGExpr*"] ++
          (region (.plain createExpressionTitle) createExpressionLines r"}" ++ [.blank]))) := by
  rfl

section
variable (ops : Operations) (terminals : Terminals) (names : Names)

theorem terminalConstructionsLined : ∀ f ∈ terminals.entries.map terminalConstruction, f.Lined :=
  List.forall_mem_map.mpr fun t _ => linedSlots rfl rfl (by
    simp [terminalConstruction, Fragment.set, Fragment.of, Terminal.typeNameSingle, typeTagSingle])

theorem operationConstructionsLined : ∀ f ∈ ops.entries.map operationConstruction, f.Lined :=
  List.forall_mem_map.mpr fun op _ => linedSlots rfl rfl (by
    simp [operationConstruction, Fragment.set, Fragment.of, op.name.single, op.enumName.single,
      singleDigits, nodeArgumentsSingle])

theorem constructionTidy : (constructionPage ops terminals names).Tidy :=
  (((Fragment.tidyOf .constructionSource).setOption rfl).setBlock
    (by decide : "terminal_cases" ∈ Kind.blocks .constructionSource)
    (textsLined (terminalConstructionsLined terminals)).1).setBlock
    (by decide : "operation_cases" ∈ Kind.blocks .constructionSource)
    (textsLined (operationConstructionsLined ops)).1

theorem createTerminalIndented :
    ∀ x ∈ (constructionPage ops terminals names).linesOf createTerminalLines, Indented x :=
  Fragment.linesIndented _ (by decide) (List.forall_mem_singleton.mpr
    (Fragment.blockIndented (terminalConstructionsLined terminals)
      (List.forall_mem_map.mpr fun t _ => (terminalConstruction t).linesIndented
        (by decide : (Kind.lines .constructionTerminalCase).all Line.indented = true)
        (List.forall_mem_nil _))))

theorem createExpressionIndented :
    ∀ x ∈ (constructionPage ops terminals names).linesOf createExpressionLines, Indented x :=
  Fragment.linesIndented _ (by decide) (List.forall_mem_singleton.mpr
    (Fragment.blockIndented (operationConstructionsLined ops)
      (List.forall_mem_map.mpr fun op _ => (operationConstruction op).linesIndented
        (by decide : (Kind.lines .constructionExpressionCase).all Line.indented = true)
        (List.forall_mem_nil _))))

def constructionFunctions : List Block :=
  [⟨createTerminalTitle, (constructionPage ops terminals names).linesOf createTerminalLines⟩,
   ⟨createExpressionTitle, (constructionPage ops terminals names).linesOf createExpressionLines⟩]

theorem constructionBlocks :
    blocks ((constructionPage ops terminals names).linesOf (Kind.body .constructionSource)) =
      constructionFunctions ops terminals names := by
  have margin : ∀ ls : List Line, ls.all (Line.avoids r"{") = true →
      Holds ((constructionPage ops terminals names).linesOf ls) [] :=
    fun ls => Fragment.marginHolds _
  have function : ∀ {title : String} {inner : List Line}, title ≠ r"{" →
      (∀ x ∈ (constructionPage ops terminals names).linesOf inner, Indented x) →
      Holds ((constructionPage ops terminals names).linesOf (region (.plain title) inner r"}"))
        [⟨title, (constructionPage ops terminals names).linesOf inner⟩] :=
    fun noBrace indented => Fragment.regionHolds _ (Fragment.lineOfPlain _ _) noBrace (by decide)
      rfl indented
  have front := margin [.blank, .plain "OGTerminal*"] (by decide)
  have terminal := function (by decide : createTerminalTitle ≠ r"{")
    (createTerminalIndented ops terminals names)
  have between := margin [.blank, .plain "OGExpr*"] (by decide)
  have expression := function (by decide : createExpressionTitle ≠ r"{")
    (createExpressionIndented ops terminals names)
  have last := margin [.blank] (by decide)
  have whole := front.append (terminal.append (between.append (expression.append last)))
  simp only [← Fragment.linesOfAppend] at whole
  rw [constructionBody]
  exact whole.blocks

theorem readConstruction :
    readFunctions .constructionSource names (constructionPage ops terminals names).text =
      some (constructionFunctions ops terminals names) := by
  have page : pageLines? .constructionSource [("namespace", names.namespaceName)]
      (constructionPage ops terminals names).text =
      some ((constructionPage ops terminals names).linesOf (Kind.body .constructionSource)) :=
    (constructionTidy ops terminals names).sourceLines rfl
      (by decide : Kind.isSource .constructionSource = true) rfl
  rw [readFunctions, page, Option.map_some, constructionBlocks]

end

def arityCheck (op : Operation) : String :=
  "checkArity(args, " ++ (Decimal.text op.arity.count ++ ")")

def creation (op : Operation) : String :=
  "new " ++ (op.name.text ++ ("(" ++ (nodeArguments op.arity ++ ")")))

def unknownCreation : String := "rdag_error(\"Unknown expression type in createExpression\")"

def creationSwitch (ops : Operations) : Statement :=
  .switch "type"
    (table (fun op => op.enumName.text) (fun op => [.act (arityCheck op), .returns (creation op)])
      unknownCreation ops.entries)

theorem operationConstructionReads (op : Operation) : Reads (operationConstruction op).rendered
    [.label op.enumName.text, .act (arityCheck op), .returns (creation op)] := by
  have rendered : (operationConstruction op).rendered = ["    case " ++ (op.enumName.text ++ ":"),
      "      checkArity(args, " ++ (Decimal.text op.arity.count ++ ");"),
      "      return new " ++ (op.name.text ++ ("(" ++ (nodeArguments op.arity ++ ");")))] :=
    Fragment.renderedSpelled _
  have ends : dropBack? ";" ");" = some ")" := by decide
  have act : token ("      checkArity(args, " ++ (Decimal.text op.arity.count ++ ");")) =
      .statement (.act (arityCheck op)) :=
    tokenAct (unindentedAppend rfl _) rfl (dropBackAfter _ ends)
  rw [rendered]
  exact (readsCase "    case " rfl rfl op.enumName.text).append
    ((readsLine act).append (readsLine (tokenReturn (by decide) (by decide)
      (dropBackAfter _ (dropBackAfter _ (dropBackAfter _ ends))))))

section
variable (ops : Operations) (terminals : Terminals) (names : Names)

theorem createExpressionReads : Reads
    ((constructionPage ops terminals names).linesOf createExpressionLines) [creationSwitch ops] :=
  pageTable _ rfl (operationConstructionsLined ops) (fun op _ => operationConstructionReads op) rfl
    rfl rfl (readsThrow "      throw " rfl rfl rfl) rfl

theorem creationStatements : statementsOf "createExpression"
    (constructionFunctions ops terminals names) = some [creationSwitch ops] := by
  have terminal : functionName createTerminalTitle ≠ "createExpression" := by decide
  have expression : functionName createExpressionTitle = "createExpression" := by decide
  have only : (constructionFunctions ops terminals names).filter
      (fun f => functionName f.head = "createExpression") =
      [⟨createExpressionTitle,
        (constructionPage ops terminals names).linesOf createExpressionLines⟩] := by
    simp [constructionFunctions, terminal, expression]
  exact (createExpressionReads ops terminals names).function only

end
end DoubleDispatch.Emit
