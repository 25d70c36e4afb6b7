import DoubleDispatch.Proofs.Emit.Overriding

/-! The functions of the runners, read back line by line. Payloads stand inside indented lines and
hold no line break, so they neither add nor hide a line at the margin; every other line is written
by the templates. -/
namespace DoubleDispatch.Emit
open Catalog (Category Operation Operations Symbol Terminal)
open Template (Fragment Line Kind Whole wholeLines pageBody? pageLines? region)
open Template.Fragment (texts linedSlots textsLined)
open Text (Single Block ClassText blocks Holds Indented indentedChars unlines span identifierPart
  dropFront? dropBack? spanAppend stopsAt dropFrontAppend dropBackAppend runStart holdsBlank)

/- Operand types and names, as they stand between the parentheses of a declaration. -/
def Overload.parameters : Overload → String
  | .unary operand => "RegContainer* reg, const " ++ (operand.typeName ++ "* arg")
  | .binary left right =>
    "RegContainer* reg, const " ++ (left.typeName ++ ("* arg0, const " ++
      (right.typeName ++ "* arg1")))

def overrideEnd : String := ") const override;"

/- The parameter list of an override. -/
def overrideParameters? (line : String) : Option String :=
  (dropFront? runStart line).bind (dropBack? overrideEnd)

/- The class and the parameter list of a member function that is defined. -/
def definedMember? (head : String) : Option (String × String) :=
  ((dropFront? "::run(" (span identifierPart head).2).bind (dropBack? ") const")).map
    fun parameters => ((span identifierPart head).1, parameters)

/- All overrides of the classes, and all functions of a source, each as class and parameter list. -/
def declaredRuns (classes : List ClassText) : Option (List (String × String)) :=
  (classes.mapM fun (c : ClassText) => ((c.declared runStart).mapM overrideParameters?).map
    (·.map fun parameters => (c.name, parameters))).map List.flatten

def definedRuns (functions : List Block) : Option (List (String × String)) :=
  functions.mapM fun f => definedMember? f.head

def memberHead (owner parameters : String) : String :=
  owner ++ ("::run(" ++ (parameters ++ ") const"))

/- The text of one function: all its lines between the braces are indented. -/
def Defines (owner parameters text : String) : Prop :=
  ∃ body, (∀ l ∈ body, Single l ∧ Indented l) ∧
    text = unlines ("void *" :: memberHead owner parameters :: r"{" :: (body ++ [r"}", ""]))

theorem overridingParts (overload : Overload) :
    overload.overriding = runStart ++ (overload.parameters ++ overrideEnd) := by
  have front : "    virtual void * run(RegContainer* reg, const " =
      runStart ++ "RegContainer* reg, const " := by decide
  have apart : ∀ a b c d e : String, (a ++ b) ++ (c ++ (d ++ e)) = a ++ ((b ++ (c ++ d)) ++ e) := by
    intro a b c d e
    simp only [String.append_assoc]
  cases overload with
  | unary operand =>
    have back : "* arg) const override;" = "* arg" ++ overrideEnd := by decide
    exact (congrArg₂ (fun x y => x ++ (operand.typeName ++ y)) front back).trans
      (apart _ _ _ _ _)
  | binary left right =>
    have back : "* arg1) const override;" = "* arg1" ++ overrideEnd := by decide
    have inner : ∀ a b c d : String, a ++ (b ++ (c ++ d)) = (a ++ (b ++ c)) ++ d := by
      intro a b c d
      simp only [String.append_assoc]
    exact (congrArg₂ (fun x y => x ++ (left.typeName ++ ("* arg0, const " ++
      (right.typeName ++ y)))) front back).trans
      ((congrArg (fun x => (runStart ++ "RegContainer* reg, const ") ++ (left.typeName ++ x))
        (inner _ _ _ _)).trans (apart _ _ _ _ _))

theorem overridingParameters (overload : Overload) :
    overrideParameters? overload.overriding = some overload.parameters := by
  rw [overridingParts, overrideParameters?, dropFrontAppend, Option.bind_some, dropBackAppend]

theorem parametersInjective {a b : Overload} (same : a.parameters = b.parameters) : a = b := by
  have declared : some a.entry = some b.entry := by
    rw [← overriddenEntry, ← overriddenEntry, overridingParts a, overridingParts b, same]
  exact entryInjective (Option.some.inj declared)

theorem definedMemberHead {owner : String} (parts : ∀ c ∈ owner.toList, identifierPart c = true)
    (parameters : String) :
    definedMember? (memberHead owner parameters) = some (owner, parameters) := by
  have read : span identifierPart (memberHead owner parameters) =
      (owner, "::run(" ++ (parameters ++ ") const")) := spanAppend parts (stopsAt rfl _ _)
  simp only [definedMember?, read, dropFrontAppend, Option.bind_some, dropBackAppend,
    Option.map_some]

theorem symbolSingle (symbol : Symbol) : Single symbol.text := by
  intro found
  have blank : holdsBlank symbol.text = true := List.any_eq_true.mpr ⟨'\n', found, by decide⟩
  rw [symbol.compact] at blank
  contradiction

theorem Payload.single (payload : Payload) : Single payload.text := by
  cases payload with
  | infixSymbol symbol | prefixSymbol symbol => exact symbolSingle symbol
  | function name => exact name.single

theorem elementTypeSingle (t : Terminal) : Single t.elementType := by
  unfold Terminal.elementType
  cases t.domain <;> exact Template.singleChars rfl

def bodyKinds : List Kind :=
  [.infixScalarBody, .infixMatrixBody, .prefixScalarBody, .prefixMatrixBody, .functionScalarBody,
   .functionMatrixBody]

theorem bodyKindsIndented : ∀ kind ∈ bodyKinds,
    kind.lines.all Line.indented = true ∧ kind.blocks = [] := by decide

section
variable (payload : Payload)

theorem implementationLined (result : Terminal) : (implementation payload result).Lined := by
  unfold implementation
  cases payload <;> split <;>
    exact linedSlots rfl rfl (by
      simp [Fragment.set, Fragment.of, Terminal.typeNameSingle, elementTypeSingle, Payload.single])

theorem implementationKind (result : Terminal) :
    (implementation payload result).kind ∈ bodyKinds := by
  unfold implementation
  cases payload <;> split <;>
    simp [bodyKinds, Fragment.set, Fragment.of, Payload.scalarKind, Payload.matrixKind]

theorem implementationIndented (result : Terminal) :
    ∀ x ∈ (implementation payload result).rendered, Indented x := by
  obtain ⟨starts, none⟩ := bodyKindsIndented _ (implementationKind payload result)
  refine Fragment.linesIndented _ starts ?_
  rw [← Kind.blocks, none]
  exact List.forall_mem_nil _

variable (op : Operation) (overload : Overload)

theorem functionLined : (functionOf op payload overload).Lined := by
  have body : Whole (implementation payload overload.result).text := by
    have lined := (implementationLined payload overload.result).text
    exact ⟨_, lined.2, lined.1⟩
  cases overload with
  | unary operand =>
    exact
      { tidy := ((((Fragment.tidyOf .unaryRunnerFunction).setSlot
          (by decide : "argtype" ∉ Kind.blocks .unaryRunnerFunction)
          operand.typeNameSingle).setSlot
          (by decide : "nodename" ∉ Kind.blocks .unaryRunnerFunction) op.name.single).setSlot
          (by decide : "returntype" ∉ Kind.blocks .unaryRunnerFunction)
          operand.typeNameSingle).setBlock
          (by decide : "implementation" ∈ Kind.blocks .unaryRunnerFunction) body
        inner := rfl }
  | binary left right =>
    exact
      { tidy := (((((Fragment.tidyOf .binaryRunnerFunction).setSlot
          (by decide : "arg0type" ∉ Kind.blocks .binaryRunnerFunction)
          left.typeNameSingle).setSlot
          (by decide : "arg1type" ∉ Kind.blocks .binaryRunnerFunction)
          right.typeNameSingle).setSlot
          (by decide : "nodename" ∉ Kind.blocks .binaryRunnerFunction) op.name.single).setSlot
          (by decide : "returntype" ∉ Kind.blocks .binaryRunnerFunction)
          left.typeNameSingle).setBlock
          (by decide : "implementation" ∈ Kind.blocks .binaryRunnerFunction) body
        inner := rfl }

def resultLine (result : Terminal) : String := "  const " ++ (result.typeName ++ "* ret;")

def functionBody : List String :=
  resultLine overload.result :: ((implementation payload overload.result).rendered ++
    ["  reg->push_back(ret);", "  return nullptr;"])

def functionInner : List Line :=
  [.ended [.text "  const ", .slot "returntype", .text "* ret;"], .block "implementation",
   .plain "  reg->push_back(ret);", .plain "  return nullptr;"]

def functionHead : Overload → Line
  | .unary _ =>
    .ended [.slot "nodename", .text "Runner::run(RegContainer* reg, const ", .slot "argtype",
      .text "* arg) const"]
  | .binary _ _ =>
    .ended [.slot "nodename", .text "Runner::run(RegContainer* reg, const ", .slot "arg0type",
      .text "* arg0, const ", .slot "arg1type", .text "* arg1) const"]

theorem functionInside : (functionOf op payload overload).linesOf functionInner =
    functionBody payload overload := by
  have result : (functionOf op payload overload).lineOf
      (.ended [.text "  const ", .slot "returntype", .text "* ret;"]) =
      [resultLine overload.result] := by
    cases overload <;> exact Fragment.lineSpelled _ _
  have body : (functionOf op payload overload).lineOf (.block "implementation") =
      (implementation payload overload.result).rendered := by
    have lined := (implementationLined payload overload.result).text
    have value : (functionOf op payload overload).value "implementation" =
        (implementation payload overload.result).text := by
      cases overload <;> rfl
    rw [Fragment.lineOf, value, lined.1, Template.wholeLinesUnlines lined.2]
  rw [functionInner, Fragment.linesOfCons, Fragment.linesOfCons, Fragment.linesOfCons,
    Fragment.linesOfSingle, result, body, Fragment.lineOfPlain, Fragment.lineOfPlain]
  rfl

theorem functionIndented : ∀ x ∈ functionBody payload overload, Indented x := by
  simp only [functionBody, List.forall_mem_cons, List.forall_mem_append]
  exact ⟨(indentedChars _).append _, implementationIndented payload overload.result,
    indentedChars _, indentedChars _, List.forall_mem_nil _⟩

theorem functionTitled : (functionOf op payload overload).lineOf (functionHead overload) =
    [memberHead op.runnerName overload.parameters] := by
  have front : "Runner::run(RegContainer* reg, const " =
      "Runner" ++ ("::run(" ++ "RegContainer* reg, const ") := by decide
  cases overload with
  | unary operand =>
    have back : "* arg) const" = "* arg" ++ ") const" := by decide
    have apart : ∀ a b c d e f g : String, a ++ ((b ++ (c ++ d)) ++ (e ++ (f ++ g))) =
        (a ++ b) ++ (c ++ ((d ++ (e ++ f)) ++ g)) := by
      intro a b c d e f g
      simp only [String.append_assoc]
    have line := congrArg₂ (fun x y => op.name.text ++ (x ++ (operand.typeName ++ y))) front back
    refine (Fragment.lineSpelled _ _).trans (congrArg (fun line => [line]) (line.trans ?_))
    exact apart _ _ _ _ _ _ _
  | binary left right =>
    have back : "* arg1) const" = "* arg1" ++ ") const" := by decide
    have apart : ∀ a b c d e f g h i : String,
        a ++ ((b ++ (c ++ d)) ++ (e ++ (f ++ (g ++ (h ++ i))))) =
        (a ++ b) ++ (c ++ ((d ++ (e ++ (f ++ (g ++ h)))) ++ i)) := by
      intro a b c d e f g h i
      simp only [String.append_assoc]
    have line := congrArg₂ (fun x y => op.name.text ++ (x ++
      (left.typeName ++ ("* arg0, const " ++ (right.typeName ++ y))))) front back
    refine (Fragment.lineSpelled _ _).trans (congrArg (fun line => [line]) (line.trans ?_))
    exact apart _ _ _ _ _ _ _ _ _

theorem functionRendered : (functionOf op payload overload).rendered =
    "void *" :: memberHead op.runnerName overload.parameters :: r"{" ::
      (functionBody payload overload ++ [r"}", ""]) := by
  have lines : (functionOf op payload overload).kind.lines = [.plain "void *"] ++
      (region (functionHead overload) functionInner r"}" ++ [.blank]) := by
    cases overload <;> rfl
  have blank : (functionOf op payload overload).lineOf .blank = [""] := rfl
  rw [Fragment.rendered, lines, Fragment.linesOfAppend, Fragment.linesOfAppend,
    Fragment.linesOfSingle, Fragment.linesOfSingle, Fragment.lineOfPlain, blank,
    Fragment.regionLines _ _ (functionTitled payload op overload), functionInside]
  simp

theorem functionHoldsMember : Holds (functionOf op payload overload).rendered
    [⟨memberHead op.runnerName overload.parameters, functionBody payload overload⟩] := by
  have noBrace : memberHead op.runnerName overload.parameters ≠ r"{" := by
    intro same
    have read := definedMemberHead (Text.identifierParts op.runner.valid) overload.parameters
    rw [← Operation.runnerName, same, (by decide : definedMember? r"{" = none)] at read
    contradiction
  have closed := fun l member => (functionIndented payload overload l member).closesNot
  have block := (Text.holdsBlock noBrace closed (by decide : Text.closes r"}" = true)).append
    (Text.holdsLine (by decide : "" ≠ r"{"))
  have whole := block.line (by decide : "void *" ≠ r"{")
  rw [functionRendered]
  simpa using whole

theorem functionDefines : Defines op.runnerName overload.parameters
    (functionOf op payload overload).text := by
  have lined := (functionLined payload op overload).text
  rw [functionRendered] at lined
  refine ⟨functionBody payload overload, fun l member => ⟨lined.2 l ?_, ?_⟩, lined.1⟩
  · simp [member]
  · exact functionIndented payload overload l member

end

section
variable {op : Operation}

/- The functions of an operation, one for every overload. -/
theorem functionsMap {payload : Payload} (found : payload? op = some payload) :
    functionsOf op = (overloads op.category).map (functionOf op payload) := by
  rw [functionsOf, found]

theorem functionsLined (op : Operation) : ∀ f ∈ functionsOf op, f.Lined := by
  intro f member
  cases found : payload? op with
  | none => simp [functionsOf, found] at member
  | some payload =>
    rw [functionsMap found] at member
    obtain ⟨overload, _, rfl⟩ := List.mem_map.mp member
    exact functionLined payload op overload

/- The blocks of the functions of an operation. -/
def memberBlocks (op : Operation) : List Block :=
  match payload? op with
  | some payload => (overloads op.category).map fun overload =>
      ⟨memberHead op.runnerName overload.parameters, functionBody payload overload⟩
  | none => []

theorem functionsHold (op : Operation) :
    Holds ((functionsOf op).flatMap Fragment.rendered) (memberBlocks op) := by
  cases found : payload? op with
  | none =>
    simp only [functionsOf, memberBlocks, found]
    exact Text.holdsNil
  | some payload =>
    simp only [functionsMap found, memberBlocks, found, List.flatMap_map]
    rw [List.map_eq_flatMap]
    exact Holds.each fun overload _ => functionHoldsMember payload op overload

/- The overrides of an operation, each as class and parameter list. -/
def runsOf (op : Operation) : List (String × String) :=
  (overloads op.category).map fun overload => (op.runnerName, overload.parameters)

theorem noPayload {op : Operation} : payload? op = none ↔ op.category.hasBodies = false := by
  rw [← Option.isNone_iff_eq_none, ← Option.isSome_eq_false_iff, Bool.eq_false_iff,
    Bool.eq_false_iff]
  exact not_congr (payloadIffBodies op)

theorem membersDefined (op : Operation) : definedRuns (memberBlocks op) = some (runsOf op) := by
  cases found : payload? op with
  | none =>
    simp [memberBlocks, runsOf, found, noBodiesNoOverloads (noPayload.mp found), definedRuns]
  | some payload =>
    simp only [memberBlocks, found, definedRuns, runsOf]
    exact Outcome.mapMSome fun overload _ =>
      definedMemberHead (Text.identifierParts op.runner.valid) overload.parameters

theorem membersDeclared (op : Operation) :
    ((runnerText op).declared runStart).mapM overrideParameters? =
      some ((overloads op.category).map Overload.parameters) := by
  rw [runnerRuns]
  exact Outcome.mapMSome fun overload _ => overridingParameters overload

end

section
variable (ops : Operations) (names : Names)

theorem sourceFunctionsLined : ∀ f ∈ (bodied ops).flatMap functionsOf, f.Lined :=
  List.forall_mem_flatMap.mpr fun op _ => functionsLined op

theorem runnersSourceTidy : (runnersSourcePage ops names).Tidy :=
  ((Fragment.tidyOf .runnersSource).setOption rfl).setBlock
    (by decide : "function_definitions" ∈ Kind.blocks .runnersSource)
    (textsLined (sourceFunctionsLined ops)).1

theorem runnersSourceBlocks :
    blocks ((runnersSourcePage ops names).linesOf (Kind.body .runnersSource)) =
      (bodied ops).flatMap memberBlocks := by
  have body : Kind.body .runnersSource = [.blank] ++ [.block "function_definitions"] := by rfl
  have functions : (runnersSourcePage ops names).linesOf [.block "function_definitions"] =
      (bodied ops).flatMap fun op => (functionsOf op).flatMap Fragment.rendered :=
    (Fragment.linesOfSingle _ _).trans
      ((textsLined (sourceFunctionsLined ops)).2.trans List.flatMap_assoc)
  have front := (runnersSourcePage ops names).marginHolds
    (by decide : [Line.blank].all (Line.avoids r"{") = true)
  rw [body, Fragment.linesOfAppend, functions,
    (front.append (Holds.each fun op _ => functionsHold op)).blocks]
  rfl

theorem readRunnerFunctions :
    readFunctions .runnersSource names (runnersSourcePage ops names).text =
      some ((bodied ops).flatMap memberBlocks) := by
  have page : pageLines? .runnersSource [("namespace", names.namespaceName)]
      (runnersSourcePage ops names).text =
      some ((runnersSourcePage ops names).linesOf (Kind.body .runnersSource)) :=
    (runnersSourceTidy ops names).sourceLines rfl
      (by decide : Kind.isSource .runnersSource = true) rfl
  rw [readFunctions, page, Option.map_some, runnersSourceBlocks]

end
end DoubleDispatch.Emit
