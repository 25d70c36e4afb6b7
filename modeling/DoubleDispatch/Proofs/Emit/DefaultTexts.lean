import DoubleDispatch.Proofs.Emit.DispatchTexts

/-! The definitions behind the dispatch table, read back function by function: the two switches, a
default for every entry point of the base classes, and what the dispatcher does. -/
namespace DoubleDispatch.Emit
open Catalog (Category Operation Operations Terminal Terminals)
open Template (Fragment Line Kind pageLines? region singleChars)
open Template.Fragment (linedSlots textsLined)
open Text (Single Block blocks Holds Indented indentedChars startsNot closes)

theorem typeTagSingle (t : Terminal) : Single t.typeTag := by
  have domain : Single t.domain.upper := by cases t.domain <;> exact singleChars rfl
  have shape : Single t.shape.upper := by cases t.shape <;> exact singleChars rfl
  simp only [Terminal.typeTag, Text.singleAppend]
  exact ⟨⟨⟨domain, singleChars rfl⟩, shape⟩, singleChars rfl⟩

theorem evalArgumentsSingle (arity : Category.Arity) : Single (evalArguments arity) := by
  cases arity <;> exact singleChars rfl

section
variable (ops : Operations) (terminals : Terminals) (names : Names)

theorem unaryCasesLined : ∀ f ∈ terminals.entries.map unaryCase, f.Lined :=
  List.forall_mem_map.mpr fun t _ => linedSlots rfl rfl (by
    simp [unaryCase, Fragment.set, Fragment.of, Terminal.typeNameSingle, typeTagSingle])

theorem innerCasesLined (left : Terminal) :
    ∀ f ∈ terminals.entries.map (innerCase left), f.Lined :=
  List.forall_mem_map.mpr fun right _ => linedSlots rfl rfl (by
    simp [innerCase, Fragment.set, Fragment.of, Terminal.typeNameSingle, typeTagSingle])

theorem binaryCasesLined : ∀ f ∈ terminals.entries.map (binaryCaseOf terminals), f.Lined :=
  List.forall_mem_map.mpr fun left _ =>
    { tidy := ((Fragment.tidyOf .dispatchBinaryEvalOuterCase).setSlot
        (by decide : "typeenum" ∉ Kind.blocks .dispatchBinaryEvalOuterCase)
        (typeTagSingle left)).setBlock
        (by decide : "inner_cases" ∈ Kind.blocks .dispatchBinaryEvalOuterCase)
        (textsLined (innerCasesLined terminals left)).1
      inner := rfl }

theorem unaryDefaultsLined : ∀ f ∈ terminals.entries.map unaryDefault, f.Lined :=
  List.forall_mem_map.mpr fun t _ => linedSlots rfl rfl (by
    simp [unaryDefault, Fragment.set, Fragment.of, Terminal.typeNameSingle])

theorem binaryDefaultsLined : ∀ f ∈ (terminalPairs terminals).map binaryDefault, f.Lined :=
  List.forall_mem_map.mpr fun pair _ => linedSlots rfl rfl (by
    simp [binaryDefault, Fragment.set, Fragment.of, Terminal.typeNameSingle])

theorem constructionsLined : ∀ f ∈ ops.entries.map runnerConstruction, f.Lined :=
  List.forall_mem_map.mpr fun op _ => linedSlots rfl rfl (by
    simp [runnerConstruction, Fragment.set, Fragment.of, op.name.single])

theorem destructionsLined : ∀ f ∈ ops.entries.map runnerDestruction, f.Lined :=
  List.forall_mem_map.mpr fun op _ => linedSlots rfl rfl (by
    simp [runnerDestruction, Fragment.set, Fragment.of, op.name.single])

theorem dispatchCasesLined : ∀ f ∈ ops.entries.map dispatchCase, f.Lined :=
  List.forall_mem_map.mpr fun op _ => linedSlots rfl rfl (by
    simp [dispatchCase, Fragment.set, Fragment.of, op.name.single, op.enumName.single,
      evalArgumentsSingle])

theorem dispatchSourceTidy : (dispatchSourcePage ops terminals names).Tidy :=
  ((((((((Fragment.tidyOf .dispatchSource).setOption rfl).setBlock
    (by decide : "unary_eval_cases" ∈ Kind.blocks .dispatchSource)
    (textsLined (unaryCasesLined terminals)).1).setBlock
    (by decide : "unary_defaults" ∈ Kind.blocks .dispatchSource)
    (textsLined (unaryDefaultsLined terminals)).1).setBlock
    (by decide : "binary_eval_cases" ∈ Kind.blocks .dispatchSource)
    (textsLined (binaryCasesLined terminals)).1).setBlock
    (by decide : "binary_defaults" ∈ Kind.blocks .dispatchSource)
    (textsLined (binaryDefaultsLined terminals)).1).setBlock
    (by decide : "runner_constructions" ∈ Kind.blocks .dispatchSource)
    (textsLined (constructionsLined ops)).1).setBlock
    (by decide : "runner_destructions" ∈ Kind.blocks .dispatchSource)
    (textsLined (destructionsLined ops)).1).setBlock
    (by decide : "dispatch_cases" ∈ Kind.blocks .dispatchSource)
    (textsLined (dispatchCasesLined ops)).1

end

def evalHead : Category.Arity → Line
  | .one => .plain "DispatchVoidUnaryOp::eval(RegContainer* reg, const OGTerminal* arg) const"
  | .two => .ended [.text "DispatchVoidBinaryOp::eval(",
      .text "RegContainer* reg, const OGTerminal* arg0, const OGTerminal* arg1", .text ") const"]

def unaryEvalLines : List Line :=
  [.plain "  switch(arg->getType())", .plain r"  {", .block "unary_eval_cases",
   .plain "    default:",
   .plain "      throw rdag_error(\"Unknown terminal type in unary dispatch\");",
   .plain r"  }"]

def binaryEvalLines : List Line :=
  [.plain "  switch(arg0->getType())", .plain r"  {", .block "binary_eval_cases",
   .plain "    default:",
   .plain "      throw rdag_error(\"Unknown terminal type in binary dispatch\");",
   .plain r"  }"]

def dispatchLines : List Line :=
  [.plain "  RegContainer* reg = thing->getRegs();",
   .plain "  const ArgContainer* args = thing->getArgs();", .plain "  switch(thing->getType())",
   .plain r"  {", .block "dispatch_cases", .plain "    default:",
   .plain "      throw rdag_error(\"Unknown expression type in dispatch\");", .plain r"  }"]

def unaryEvalRegion : List Line := region (evalHead .one) unaryEvalLines r"}"

def binaryEvalRegion : List Line := region (evalHead .two) binaryEvalLines r"}"

def constructorRegion : List Line :=
  region (.plain "Dispatcher::Dispatcher()") [.block "runner_constructions"] r"}"

def destructorRegion : List Line :=
  region (.plain "Dispatcher::~Dispatcher()") [.block "runner_destructions"] r"}"

def dispatchRegion : List Line :=
  region (.plain "Dispatcher::dispatch(const OGExpr* thing) const") dispatchLines r"}"

theorem dispatchSourceBody : Kind.body .dispatchSource =
    (Kind.body .dispatchSource).take 4 ++ (unaryEvalRegion ++ ([Line.blank] ++
      ([Line.block "unary_defaults"] ++ (((Kind.body .dispatchSource).drop 15).take 3 ++
        (binaryEvalRegion ++ ([Line.blank] ++ ([Line.block "binary_defaults"] ++
          (constructorRegion ++ ([Line.blank] ++ (destructorRegion ++
            (((Kind.body .dispatchSource).drop 38).take 2 ++
              (dispatchRegion ++ [Line.blank])))))))))))) := by
  rfl

/- The definition of an entry point of a base class. -/
def defaultHead : Overload → String
  | .unary operand =>
    "DispatchVoidUnaryOp::run(RegContainer*, const " ++ (operand.typeName ++ "*) const")
  | .binary left right =>
    "DispatchVoidBinaryOp::run(RegContainer*, const " ++ (left.typeName ++ ("*, const " ++
      (right.typeName ++ "*) const")))

def thrownLine : Overload → String
  | .unary operand =>
    "  throw rdag_error(\"run() is not implemented for " ++ (operand.typeName ++ "\");")
  | .binary left right =>
    "  throw rdag_error(\"run() is not implemented for " ++ (left.typeName ++ (", " ++
      (right.typeName ++ "\");")))

def defaultBlock (overload : Overload) : Block := ⟨defaultHead overload, [thrownLine overload]⟩

theorem thrownIndented (overload : Overload) : Indented (thrownLine overload) := by
  cases overload with
  | unary operand => exact (indentedChars _).append _
  | binary left right => exact (indentedChars _).append _

/- A fragment made of the type of the result, a head and one line in braces. -/
theorem functionHolds {f : Fragment} {head line : Line} {title only : String}
    (lines : f.kind.lines = [.plain "void *"] ++ (region head [line] r"}" ++ [.blank]))
    (titled : f.lineOf head = [title]) (noBrace : title ≠ r"{") (inner : f.lineOf line = [only])
    (indented : Indented only) : Holds f.rendered [⟨title, [only]⟩] := by
  have body : f.linesOf [line] = [only] := (Fragment.linesOfSingle _ _).trans inner
  have result := f.marginHolds (by decide : [Line.plain "void *"].all (Line.avoids r"{") = true)
  have last := f.marginHolds (by decide : [Line.blank].all (Line.avoids r"{") = true)
  have function := f.regionHolds titled noBrace (by decide : closes r"}" = true) body
    (List.forall_mem_singleton.mpr indented)
  have whole := result.append (function.append last)
  rw [← Fragment.linesOfAppend, ← Fragment.linesOfAppend, ← lines] at whole
  exact whole

theorem unaryDefaultHolds (t : Terminal) :
    Holds (unaryDefault t).rendered [defaultBlock (.unary t)] :=
  functionHolds (f := unaryDefault t) rfl (Fragment.lineSpelled _ _) (startsNot (by decide) _ _)
    (Fragment.lineSpelled _ _) (thrownIndented (.unary t))

theorem binaryDefaultHolds (pair : Terminal × Terminal) :
    Holds (binaryDefault pair).rendered [defaultBlock (.binary pair.1 pair.2)] :=
  functionHolds (f := binaryDefault pair) rfl (Fragment.lineSpelled _ _)
    (startsNot (by decide) _ _) (Fragment.lineSpelled _ _)
    (thrownIndented (.binary pair.1 pair.2))

section
variable (ops : Operations) (terminals : Terminals) (names : Names)

theorem unaryDefaultsHold : Holds ((dispatchSourcePage ops terminals names).linesOf
    [.block "unary_defaults"]) ((everyOverload terminals .one).map defaultBlock) := by
  have lines : (dispatchSourcePage ops terminals names).linesOf [.block "unary_defaults"] =
      terminals.entries.flatMap fun t => (unaryDefault t).rendered :=
    (Fragment.linesOfSingle _ _).trans
      ((textsLined (unaryDefaultsLined terminals)).2.trans (List.flatMap_map ..))
  rw [lines, everyOverload, List.map_map, List.map_eq_flatMap]
  exact Holds.each fun t _ => unaryDefaultHolds t

theorem binaryDefaultsHold : Holds ((dispatchSourcePage ops terminals names).linesOf
    [.block "binary_defaults"]) ((everyOverload terminals .two).map defaultBlock) := by
  have lines : (dispatchSourcePage ops terminals names).linesOf [.block "binary_defaults"] =
      (terminalPairs terminals).flatMap fun pair => (binaryDefault pair).rendered :=
    (Fragment.linesOfSingle _ _).trans
      ((textsLined (binaryDefaultsLined terminals)).2.trans (List.flatMap_map ..))
  rw [lines, everyOverload, List.map_map, List.map_eq_flatMap]
  exact Holds.each fun pair _ => binaryDefaultHolds pair

theorem unaryCaseIndented (t : Terminal) : ∀ x ∈ (unaryCase t).rendered, Indented x :=
  (unaryCase t).linesIndented
    (by decide : (Kind.lines .dispatchUnaryEvalCase).all Line.indented = true)
    (List.forall_mem_nil _)

theorem unaryEvalIndented :
    ∀ x ∈ (dispatchSourcePage ops terminals names).linesOf unaryEvalLines, Indented x :=
  Fragment.linesIndented _ (by decide) (List.forall_mem_singleton.mpr
    (Fragment.blockIndented (unaryCasesLined terminals)
      (List.forall_mem_map.mpr fun t _ => unaryCaseIndented t)))

theorem innerCaseIndented (left right : Terminal) :
    ∀ x ∈ (innerCase left right).rendered, Indented x :=
  (innerCase left right).linesIndented
    (by decide : (Kind.lines .dispatchBinaryEvalInnerCase).all Line.indented = true)
    (List.forall_mem_nil _)

theorem binaryCaseIndented (left : Terminal) :
    ∀ x ∈ (binaryCaseOf terminals left).rendered, Indented x :=
  (binaryCaseOf terminals left).linesIndented
    (by decide : (Kind.lines .dispatchBinaryEvalOuterCase).all Line.indented = true)
    (List.forall_mem_singleton.mpr (Fragment.blockIndented (innerCasesLined terminals left)
      (List.forall_mem_map.mpr fun right _ => innerCaseIndented left right)))

theorem binaryEvalIndented :
    ∀ x ∈ (dispatchSourcePage ops terminals names).linesOf binaryEvalLines, Indented x :=
  Fragment.linesIndented _ (by decide) (List.forall_mem_singleton.mpr
    (Fragment.blockIndented (binaryCasesLined terminals)
      (List.forall_mem_map.mpr fun left _ => binaryCaseIndented terminals left)))

theorem constructionIndented (op : Operation) :
    ∀ x ∈ (runnerConstruction op).rendered, Indented x :=
  (runnerConstruction op).linesIndented
    (by decide : (Kind.lines .runnerConstruction).all Line.indented = true)
    (List.forall_mem_nil _)

theorem destructionIndented (op : Operation) :
    ∀ x ∈ (runnerDestruction op).rendered, Indented x :=
  (runnerDestruction op).linesIndented
    (by decide : (Kind.lines .runnerDestruction).all Line.indented = true)
    (List.forall_mem_nil _)

theorem dispatchCaseIndented (op : Operation) : ∀ x ∈ (dispatchCase op).rendered, Indented x :=
  (dispatchCase op).linesIndented
    (by decide : (Kind.lines .dispatchCase).all Line.indented = true) (List.forall_mem_nil _)

theorem constructorIndented :
    ∀ x ∈ (dispatchSourcePage ops terminals names).linesOf [.block "runner_constructions"],
      Indented x :=
  Fragment.linesIndented _ (by decide) (List.forall_mem_singleton.mpr
    (Fragment.blockIndented (constructionsLined ops)
      (List.forall_mem_map.mpr fun op _ => constructionIndented op)))

theorem destructorBodyIndented :
    ∀ x ∈ (dispatchSourcePage ops terminals names).linesOf [.block "runner_destructions"],
      Indented x :=
  Fragment.linesIndented _ (by decide) (List.forall_mem_singleton.mpr
    (Fragment.blockIndented (destructionsLined ops)
      (List.forall_mem_map.mpr fun op _ => destructionIndented op)))

theorem dispatchIndented :
    ∀ x ∈ (dispatchSourcePage ops terminals names).linesOf dispatchLines, Indented x :=
  Fragment.linesIndented _ (by decide) (List.forall_mem_singleton.mpr
    (Fragment.blockIndented (dispatchCasesLined ops)
      (List.forall_mem_map.mpr fun op _ => dispatchCaseIndented op)))

def evalTitle : Category.Arity → String
  | .one => "DispatchVoidUnaryOp::eval(RegContainer* reg, const OGTerminal* arg) const"
  | .two => "DispatchVoidBinaryOp::eval(" ++
      ("RegContainer* reg, const OGTerminal* arg0, const OGTerminal* arg1" ++ ") const")

/- The functions of the source, in their order. -/
def dispatchFunctions : List Block :=
  [⟨evalTitle .one, (dispatchSourcePage ops terminals names).linesOf unaryEvalLines⟩] ++
    ((everyOverload terminals .one).map defaultBlock ++
      ([⟨evalTitle .two, (dispatchSourcePage ops terminals names).linesOf binaryEvalLines⟩] ++
        ((everyOverload terminals .two).map defaultBlock ++
          [⟨"Dispatcher::Dispatcher()",
             (dispatchSourcePage ops terminals names).linesOf [.block "runner_constructions"]⟩,
           ⟨"Dispatcher::~Dispatcher()",
             (dispatchSourcePage ops terminals names).linesOf [.block "runner_destructions"]⟩,
           ⟨"Dispatcher::dispatch(const OGExpr* thing) const",
             (dispatchSourcePage ops terminals names).linesOf dispatchLines⟩])))

theorem dispatchSourceBlocks :
    blocks ((dispatchSourcePage ops terminals names).linesOf (Kind.body .dispatchSource)) =
      dispatchFunctions ops terminals names := by
  have margin : ∀ ls : List Line, ls.all (Line.avoids r"{") = true →
      Holds ((dispatchSourcePage ops terminals names).linesOf ls) [] :=
    fun ls => Fragment.marginHolds _
  have function : ∀ {head : Line} {title : String} {inner : List Line},
      (dispatchSourcePage ops terminals names).lineOf head = [title] → title ≠ r"{" →
      (∀ x ∈ (dispatchSourcePage ops terminals names).linesOf inner, Indented x) →
      Holds ((dispatchSourcePage ops terminals names).linesOf (region head inner r"}"))
        [⟨title, (dispatchSourcePage ops terminals names).linesOf inner⟩] :=
    fun titled noBrace indented => Fragment.regionHolds _ titled noBrace (by decide) rfl indented
  have unaryEval := function (Fragment.lineOfPlain _ (evalTitle .one)) (by decide)
    (unaryEvalIndented ops terminals names)
  have binaryTitle : (dispatchSourcePage ops terminals names).lineOf (evalHead .two) =
      [evalTitle .two] := Fragment.lineSpelled _ _
  have binaryEval := function binaryTitle (startsNot (by decide) _ _)
    (binaryEvalIndented ops terminals names)
  have constructor := function (Fragment.lineOfPlain _ "Dispatcher::Dispatcher()") (by decide)
    (constructorIndented ops terminals names)
  have destructor := function (Fragment.lineOfPlain _ "Dispatcher::~Dispatcher()") (by decide)
    (destructorBodyIndented ops terminals names)
  have dispatch := function
    (Fragment.lineOfPlain _ "Dispatcher::dispatch(const OGExpr* thing) const") (by decide)
    (dispatchIndented ops terminals names)
  have front := margin ((Kind.body .dispatchSource).take 4) (by decide)
  have blank := margin [.blank] (by decide)
  have between := margin (((Kind.body .dispatchSource).drop 15).take 3) (by decide)
  have before := margin (((Kind.body .dispatchSource).drop 38).take 2) (by decide)
  have whole := front.append (unaryEval.append (blank.append
    ((unaryDefaultsHold ops terminals names).append (between.append (binaryEval.append
      (blank.append ((binaryDefaultsHold ops terminals names).append (constructor.append
        (blank.append (destructor.append (before.append (dispatch.append blank))))))))))))
  simp only [← Fragment.linesOfAppend] at whole
  rw [dispatchSourceBody]
  exact whole.blocks

/- The functions of a source: every block of it defines one. -/
def readFunctions (kind : Kind) (names : Names) (text : String) : Option (List Block) :=
  (pageLines? kind [("namespace", names.namespaceName)] text).map blocks

theorem readDispatch :
    readFunctions .dispatchSource names (dispatchSourcePage ops terminals names).text =
      some (dispatchFunctions ops terminals names) := by
  have page : pageLines? .dispatchSource [("namespace", names.namespaceName)]
      (dispatchSourcePage ops terminals names).text =
      some ((dispatchSourcePage ops terminals names).linesOf (Kind.body .dispatchSource)) :=
    (dispatchSourceTidy ops terminals names).sourceLines rfl
      (by decide : Kind.isSource .dispatchSource = true) rfl
  rw [readFunctions, page, Option.map_some, dispatchSourceBlocks]

end
end DoubleDispatch.Emit
