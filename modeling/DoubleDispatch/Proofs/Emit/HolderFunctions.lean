import DoubleDispatch.Proofs.Emit.ConversionTexts
import DoubleDispatch.Proofs.Emit.OperandCounts

/-! The functions of the data holders, read back from their source: for each of them a constructor
that hands its operands on, and three members that answer for the node itself. -/
namespace DoubleDispatch.Emit
open Catalog (Category Operation Operations)
open Template (Fragment Line Kind pageLines? region singleChars)
open Template.Fragment (linedSlots textsLined)
open Text (identifierPart apart dropFrontNone dropFrontAppend Block Single Holds Indented
  indentedChars holdsLine holdsLines startsNot Reads readsReturn statementsOf functionName
  filterOnly operands? readCall readCallAfter Member member? memberOf Constructor constructor?
  constructorOf constructorNoMember methodHead methodMember methodFunction methodNoConstructor
  methodNamesApart writtenHolds writtenMember writtenConstructor)

def definedConstructor (op : Operation) : String :=
  op.name.text ++ ("::" ++ (op.name.text ++ ("(" ++ (holderParameters op.arity ++ ("): " ++
    (holderBase op.arity ++ ("(" ++ (holderArguments op.arity ++ ") {}"))))))))

/- The same node once more, made of copies. -/
def copied (op : Operation) : String :=
  "new " ++ (op.name.text ++ ("(" ++ (copiedArguments op.arity ++ ")")))

def copyFunction (op : Operation) : Block :=
  ⟨methodHead op.name.text "copy", ["  return " ++ (copied op ++ ";")]⟩

def ownConversion (op : Operation) : Block :=
  ⟨methodHead op.name.text (conversionTo op).name, ["  return this;"]⟩

def typeFunction (op : Operation) : Block :=
  ⟨methodHead op.name.text "getType", ["  return " ++ (op.enumName.text ++ ";")]⟩

def holderFunctions (op : Operation) : List Block :=
  [copyFunction op, ownConversion op, typeFunction op]

def holderMembersOf (op : Operation) : List Member :=
  [⟨op.name.text, op.name.text⟩, ⟨op.name.text, "copy"⟩, ⟨op.name.text, (conversionTo op).name⟩,
   ⟨op.name.text, "getType"⟩]

def holderArgumentNames : Category.Arity → List String
  | .one => ["arg"]
  | .two => ["arg0", "arg1"]

def definedBy (op : Operation) : Constructor :=
  ⟨op.name.text, holderOperands op.arity, holderBase op.arity, holderArgumentNames op.arity⟩

def holderSourceLines (op : Operation) : List String :=
  [definedConstructor op, "", "OGNumeric*"] ++ ((copyFunction op).written ++
    (["", "const " ++ (op.name.text ++ "*")] ++ ((ownConversion op).written ++
      (["", "ExprType_t"] ++ ((typeFunction op).written ++ [""])))))

def constructorTitle : Line :=
  .ended [.slot "nodename", .text "::", .slot "nodename", .text "(", .slot "ctor_params",
    .text "): ", .slot "base", .text "(", .slot "ctor_args", .text ") {}"]

def copyTitle : Line := .ended [.slot "nodename", .text "::copy() const"]

def copyBody : Line :=
  .ended [.text "  return new ", .slot "nodename", .text "(", .slot "copy_args", .text ");"]

def targetTitle : Line := .ended [.text "const ", .slot "nodename", .text "*"]

def conversionTitle : Line :=
  .ended [.slot "nodename", .text "::as", .slot "nodename", .text "() const"]

def typeTitle : Line := .ended [.slot "nodename", .text "::getType() const"]

def typeBody : Line := .ended [.text "  return ", .slot "enumname", .text ";"]

theorem expressionFunctionsLines : Kind.lines .expressionFunctions =
    [constructorTitle, .blank, .plain "OGNumeric*"] ++ (region copyTitle [copyBody] r"}" ++
      ([.blank, targetTitle] ++ (region conversionTitle [.plain "  return this;"] r"}" ++
        ([.blank, .plain "ExprType_t"] ++ (region typeTitle [typeBody] r"}" ++ [.blank]))))) := by
  rfl

/- A copy of the child at this place. -/
def copiedChild (k : Nat) : String := "getArg(" ++ (Decimal.text k ++ ")->copy()")

theorem copiedChildren :
    (List.range (Category.Arity.count .one)).map copiedChild = ["getArg(0)->copy()"] ∧
    (List.range (Category.Arity.count .two)).map copiedChild =
      ["getArg(0)->copy()", "getArg(1)->copy()"] := by
  have zero : copiedChild 0 = "getArg(0)->copy()" := by
    rw [copiedChild, Decimal.text, Decimal.digits]
    decide
  have one : copiedChild 1 = "getArg(1)->copy()" := by
    rw [copiedChild, Decimal.text, Decimal.digits]
    decide
  have first : List.range 1 = [0] := rfl
  have both : List.range 2 = [0, 1] := rfl
  simp only [Category.Arity.count, first, both, List.map_cons, List.map_nil, zero, one, and_self]

theorem fixedParts : (∀ c ∈ "copy".toList, identifierPart c = true) ∧
    ∀ c ∈ "getType".toList, identifierPart c = true :=
  ⟨List.all_eq_true.mp (by decide), List.all_eq_true.mp (by decide)⟩

section
variable (op : Operation)

theorem titleLines : (expressionFunctions op).lineOf copyTitle = [(copyFunction op).head] ∧
    (expressionFunctions op).lineOf conversionTitle = [(ownConversion op).head] ∧
    (expressionFunctions op).lineOf typeTitle = [(typeFunction op).head] := by
  have copy : "::copy() const" = "::" ++ ("copy" ++ "() const") := by decide
  have conversion : "::as" = "::" ++ "as" := by decide
  have type : "::getType() const" = "::" ++ ("getType" ++ "() const") := by decide
  have title : (ownConversion op).head =
      op.name.text ++ ("::as" ++ (op.name.text ++ "() const")) := by
    simp only [ownConversion, methodHead, conversionTo, conversion, String.append_assoc]
  refine ⟨(Fragment.lineSpelled _ _).trans (congrArg (fun back => [op.name.text ++ back]) copy), ?_,
    (Fragment.lineSpelled _ _).trans (congrArg (fun back => [op.name.text ++ back]) type)⟩
  rw [title]
  exact Fragment.lineSpelled _ _

theorem copyLine : (expressionFunctions op).linesOf [copyBody] = (copyFunction op).body := by
  have first : "  return new " = "  return " ++ "new " := by decide
  have last : ");" = ")" ++ ";" := by decide
  have line : (copyFunction op).body = ["  return new " ++ (op.name.text ++ ("(" ++
      (copiedArguments op.arity ++ ");")))] := by
    simp only [copyFunction, copied, first, last, String.append_assoc]
  rw [line]
  exact Fragment.linesSpelled _ _

theorem typeLine : (expressionFunctions op).linesOf [typeBody] = (typeFunction op).body :=
  Fragment.linesSpelled _ _

theorem holderFunctionsRendered : (expressionFunctions op).rendered = holderSourceLines op := by
  obtain ⟨copyTitled, conversionTitled, typeTitled⟩ := titleLines op
  have constructor : (expressionFunctions op).linesOf [constructorTitle, .blank,
      .plain "OGNumeric*"] = [definedConstructor op, "", "OGNumeric*"] :=
    Fragment.linesSpelled _ _
  have target : (expressionFunctions op).linesOf [.blank, targetTitle] =
      ["", "const " ++ (op.name.text ++ "*")] := Fragment.linesSpelled _ _
  have copy := regionWritten copyTitled (copyLine op)
  have inside : (expressionFunctions op).linesOf [.plain "  return this;"] =
      (ownConversion op).body := rfl
  have conversion := regionWritten conversionTitled inside
  have type := regionWritten typeTitled (typeLine op)
  have kind : (expressionFunctions op).kind.lines = Kind.lines .expressionFunctions := rfl
  rw [Fragment.rendered, kind, expressionFunctionsLines]
  simp only [Fragment.linesOfAppend, constructor, copy, target, conversion, type]
  rfl

theorem functionHeads : member? (copyFunction op).head = some ⟨op.name.text, "copy"⟩ ∧
    member? (ownConversion op).head = some ⟨op.name.text, (conversionTo op).name⟩ ∧
    member? (typeFunction op).head = some ⟨op.name.text, "getType"⟩ := by
  have parts := Text.identifierParts op.name.valid
  exact ⟨methodMember parts fixedParts.1, methodMember parts (conversionParts op),
    methodMember parts fixedParts.2⟩

theorem functionsIndented : (∀ l ∈ (copyFunction op).body, Indented l) ∧
    (∀ l ∈ (ownConversion op).body, Indented l) ∧ ∀ l ∈ (typeFunction op).body, Indented l :=
  ⟨List.forall_mem_singleton.mpr ((indentedChars _).append _),
   List.forall_mem_singleton.mpr (indentedChars _),
   List.forall_mem_singleton.mpr ((indentedChars _).append _)⟩

theorem constructorMember :
    member? (definedConstructor op) = some ⟨op.name.text, op.name.text⟩ :=
  memberOf (Text.identifierParts op.name.valid) (nameBracket op) _

theorem holderSourceHolds : Holds (holderSourceLines op) (holderFunctions op) := by
  obtain ⟨copyHead, conversionHead, typeHead⟩ := functionHeads op
  obtain ⟨copyIndented, conversionIndented, typeIndented⟩ := functionsIndented op
  have noBrace : definedConstructor op ≠ r"{" := by
    intro same
    have read := constructorMember op
    rw [same, (by decide : member? r"{" = none)] at read
    contradiction
  have constructor : Holds [definedConstructor op, "", "OGNumeric*"] [] :=
    (holdsLines (by decide)).line noBrace
  have target : Holds ["", "const " ++ (op.name.text ++ "*")] [] :=
    (holdsLine (startsNot (by decide) _ _)).line (by decide)
  have type : Holds ["", "ExprType_t"] [] := holdsLines (by decide)
  exact constructor.append ((writtenHolds copyHead copyIndented).append (target.append
    ((writtenHolds conversionHead conversionIndented).append (type.append
      ((writtenHolds typeHead typeIndented).append (holdsLine (by decide)))))))

theorem holderSourceMembers :
    (holderSourceLines op).filterMap member? = holderMembersOf op := by
  obtain ⟨copyHead, conversionHead, typeHead⟩ := functionHeads op
  obtain ⟨copyIndented, conversionIndented, typeIndented⟩ := functionsIndented op
  have fixed : member? "" = none ∧ member? "OGNumeric*" = none ∧ member? "ExprType_t" = none := by
    decide
  simp only [holderSourceLines, List.filterMap_append, List.filterMap_cons, List.filterMap_nil,
    constructorMember, writtenMember copyHead copyIndented,
    writtenMember conversionHead conversionIndented, writtenMember typeHead typeIndented,
    targetNoMember, fixed]
  rfl

theorem definedConstructorReads : constructor? (definedConstructor op) = some (definedBy op) := by
  have plain : ∀ arity,
      '(' ∉ (holderParameters arity).toList ∧ ')' ∉ (holderParameters arity).toList
    | .one => by decide
    | .two => by decide
  have baseParts : ∀ c ∈ (holderBase op.arity).toList, identifierPart c = true := by
    cases op.arity <;> exact List.all_eq_true.mp (by decide)
  have takes : ∀ arity, operands? (holderParameters arity ++ ")") = some (holderOperands arity)
    | .one => by decide
    | .two => by decide
  have passes : ∀ arity, operands? (holderArguments arity ++ ") {}") =
      some (holderArgumentNames arity)
    | .one => by decide
    | .two => by decide
  exact constructorOf (Text.identifierParts op.name.valid) (plain _) baseParts (takes _) (passes _)

theorem holderSourceConstructors :
    (holderSourceLines op).filterMap constructor? = [definedBy op] := by
  obtain ⟨copyIndented, conversionIndented, typeIndented⟩ := functionsIndented op
  have parts := Text.identifierParts op.name.valid
  have copy : constructor? (copyFunction op).head = none :=
    methodNoConstructor parts fixedParts.1
  have conversion : constructor? (ownConversion op).head = none :=
    methodNoConstructor parts (conversionParts op)
  have type : constructor? (typeFunction op).head = none :=
    methodNoConstructor parts fixedParts.2
  have target := constructorNoMember (targetNoMember op)
  have fixed : constructor? "" = none ∧ constructor? "OGNumeric*" = none ∧
      constructor? "ExprType_t" = none := by decide
  simp only [holderSourceLines, List.filterMap_append, List.filterMap_cons, List.filterMap_nil,
    definedConstructorReads, writtenConstructor copyIndented, writtenConstructor conversionIndented,
    writtenConstructor typeIndented, copy, conversion, type, target, fixed]
  rfl

theorem copiedReads : readCall (copied op) =
    some ⟨"new " ++ op.name.text, (List.range op.arity.count).map copiedChild⟩ := by
  have front : '(' ∉ ("new " ++ op.name.text).toList := by
    simp only [String.toList_append, List.mem_append, not_or]
    exact ⟨by decide, nameBracket op⟩
  have inner : ∀ arity, operands? (copiedArguments arity ++ ")") =
      some ((List.range (Category.Arity.count arity)).map copiedChild)
    | .one => copiedChildren.1 ▸ (by decide)
    | .two => copiedChildren.2 ▸ (by decide)
  have call : copied op = ("new " ++ op.name.text) ++ ("(" ++ (copiedArguments op.arity ++ ")")) :=
    String.append_assoc.symm
  rw [call, readCallAfter front, inner]
  rfl

theorem holderReturns :
    Reads (copyFunction op).body [.returns (copied op)] ∧
    Reads (ownConversion op).body [.returns "this"] ∧
    Reads (typeFunction op).body [.returns op.enumName.text] :=
  ⟨readsReturn rfl, readsReturn (by decide), readsReturn rfl⟩

end

theorem functionNames (op : Operation) :
    (holderFunctions op).map (fun f => functionName f.head) =
      ["copy", (conversionTo op).name, "getType"].map
        fun name => op.name.text ++ ("::" ++ name) := by
  have parts := Text.identifierParts op.name.valid
  have copy := methodFunction parts fixedParts.1
  have conversion := methodFunction parts (conversionParts op)
  have type := methodFunction parts fixedParts.2
  simp only [holderFunctions, copyFunction, ownConversion, typeFunction, List.map_cons,
    List.map_nil, copy, conversion, type]

/- No member of a holder is called like its conversion. -/
theorem conversionApart (op : Operation) {word : String} (other : apart "as" word = true) :
    (conversionTo op).name ≠ word := by
  intro same
  have none := dropFrontNone other ""
  have some_ := dropFrontAppend "as" op.name.text
  rw [String.append_empty, ← same, conversionTo, some_] at none
  contradiction

theorem functionNamesDistinct (ops : Operations) :
    (((holders ops).flatMap holderFunctions).map fun f => functionName f.head).Nodup := by
  have names : (fun op => (holderFunctions op).map fun f => functionName f.head) = fun op =>
      ["copy", (conversionTo op).name, "getType"].map fun name => op.name.text ++ ("::" ++ name) :=
    funext functionNames
  rw [List.map_flatMap, names, List.nodup_flatMap]
  constructor
  · intro op _
    have own : ["copy", (conversionTo op).name, "getType"].Nodup := by
      have copy := conversionApart op (by decide : apart "as" "copy" = true)
      have type := conversionApart op (by decide : apart "as" "getType" = true)
      simp [Ne.symm copy, type]
    refine own.map fun a b same => ?_
    simpa only [String.append_right_inj] using same
  · refine (List.pairwise_map.mp (holderNamesDistinct ops)).imp fun {a b} differ name inA inB => ?_
    obtain ⟨_, _, rfl⟩ := List.mem_map.mp inA
    obtain ⟨_, _, same⟩ := List.mem_map.mp inB
    exact differ (methodNamesApart (Text.identifierParts b.name.valid)
      (Text.identifierParts a.name.valid) same).1.symm

/- The functions of a holder are found by their names, whatever else the source defines. -/
theorem holderStatements {ops : Operations} {op : Operation} (member : op ∈ holders ops) :
    statementsOf (op.name.text ++ ("::" ++ "copy")) ((holders ops).flatMap holderFunctions) =
      some [.returns (copied op)] ∧
    statementsOf (op.name.text ++ ("::" ++ (conversionTo op).name))
      ((holders ops).flatMap holderFunctions) = some [.returns "this"] ∧
    statementsOf (op.name.text ++ ("::" ++ "getType")) ((holders ops).flatMap holderFunctions) =
      some [.returns op.enumName.text] := by
  have only : ∀ f ∈ holderFunctions op, ((holders ops).flatMap holderFunctions).filter
      (fun g => functionName g.head = functionName f.head) = [f] := fun f own =>
    filterOnly (functionNamesDistinct ops) (List.mem_flatMap.mpr ⟨op, member, own⟩)
  have parts := Text.identifierParts op.name.valid
  obtain ⟨copyReads, conversionReads, typeReads⟩ := holderReturns op
  have copy := only (copyFunction op) (by simp [holderFunctions])
  have conversion := only (ownConversion op) (by simp [holderFunctions])
  have type := only (typeFunction op) (by simp [holderFunctions])
  rw [copyFunction, methodFunction parts fixedParts.1] at copy
  rw [ownConversion, methodFunction parts (conversionParts op)] at conversion
  rw [typeFunction, methodFunction parts fixedParts.2] at type
  exact ⟨copyReads.function copy, conversionReads.function conversion, typeReads.function type⟩

section
variable (ops : Operations) (names : Names)

theorem holderFunctionsLined : ∀ f ∈ (holders ops).map expressionFunctions, f.Lined := by
  have arguments : ∀ arity, Single (holderArguments arity) ∧ Single (copiedArguments arity) := by
    intro arity
    cases arity <;> exact ⟨singleChars rfl, singleChars rfl⟩
  exact List.forall_mem_map.mpr fun op _ => linedSlots rfl rfl (by
    simp [expressionFunctions, Fragment.set, Fragment.of, op.name.single, op.enumName.single,
      holderBaseSingle, holderParametersSingle, arguments])

theorem expressionSourceTidy : (expressionSourcePage ops names).Tidy :=
  ((Fragment.tidyOf .expressionSource).setOption rfl).setBlock
    (by decide : "function_definitions" ∈ Kind.blocks .expressionSource)
    (textsLined (holderFunctionsLined ops)).1

theorem expressionSourceLines : pageLines? .expressionSource [("namespace", names.namespaceName)]
    (expressionSourcePage ops names).text =
      some ("" :: (holders ops).flatMap holderSourceLines) := by
  have page : pageLines? .expressionSource [("namespace", names.namespaceName)]
      (expressionSourcePage ops names).text =
      some ((expressionSourcePage ops names).linesOf (Kind.body .expressionSource)) :=
    (expressionSourceTidy ops names).sourceLines rfl
      (by decide : Kind.isSource .expressionSource = true) rfl
  have body : Kind.body .expressionSource = [.blank] ++ [.block "function_definitions"] := by rfl
  have functions : (expressionSourcePage ops names).linesOf [.block "function_definitions"] =
      (holders ops).flatMap holderSourceLines := by
    refine (Fragment.linesOfSingle _ _).trans ((textsLined (holderFunctionsLined ops)).2.trans ?_)
    rw [List.flatMap_map]
    exact congrArg (holders ops).flatMap (funext holderFunctionsRendered)
  rw [page, body, Fragment.linesOfAppend, functions]
  rfl

theorem readHolderFunctions :
    readFunctions .expressionSource names (expressionSourcePage ops names).text =
      some ((holders ops).flatMap holderFunctions) := by
  have front : Holds [""] [] := holdsLine (by decide)
  have each := Holds.each fun op (_ : op ∈ holders ops) => holderSourceHolds op
  rw [readFunctions, expressionSourceLines, Option.map_some]
  exact congrArg some (front.append each).blocks

theorem readHolderMembers :
    readEach member? .expressionSource names (expressionSourcePage ops names).text =
      some ((holders ops).flatMap holderMembersOf) := by
  rw [readEach, expressionSourceLines, Option.map_some, List.filterMap_cons, List.filterMap_flatMap]
  exact congrArg (fun each => some ((holders ops).flatMap each)) (funext holderSourceMembers)

theorem readConstructors :
    readEach constructor? .expressionSource names (expressionSourcePage ops names).text =
      some ((holders ops).map definedBy) := by
  rw [readEach, expressionSourceLines, Option.map_some, List.filterMap_cons, List.filterMap_flatMap,
    List.map_eq_flatMap]
  exact congrArg (fun each => some ((holders ops).flatMap each)) (funext holderSourceConstructors)

end
end DoubleDispatch.Emit
