import DoubleDispatch.Proofs.Emit.ConstructionTexts
import DoubleDispatch.Proofs.Emit.EntryLists
import DoubleDispatch.Proofs.Emit.HolderTexts
import DoubleDispatch.Proofs.Emit.Ownership

/-! Operands of an operation, wherever they are passed on or taken: in the call of its runner, in
the check of the arguments and the construction of a node, and in the declarations of the base class
and of the data holder. There are always as many as the category has. -/
namespace DoubleDispatch.Emit
open Catalog (Category Operation Operations Terminals)
open Text (ClassText evalStart Call readCall readCallAfter operands? unindented unindentedAt
  unindentedAppend stopsAt stopsWord filterMapped)

/- The operands that a call passes on, each of them taken by its position. -/
def operandsOf (accessor : String) (arity : Category.Arity) : List String :=
  (List.range arity.count).map fun k => accessor ++ ("(" ++ (Decimal.text k ++ ")"))

theorem operandsOfArity (accessor : String) :
    operandsOf accessor .one = [accessor ++ "(0)"] ∧
    operandsOf accessor .two = [accessor ++ "(0)", accessor ++ "(1)"] := by
  have zero : "(" ++ (Decimal.text 0 ++ ")") = "(0)" := by
    rw [Decimal.text, Decimal.digits]
    decide
  have one : "(" ++ (Decimal.text 1 ++ ")") = "(1)" := by
    rw [Decimal.text, Decimal.digits]
    decide
  have first : List.range 1 = [0] := rfl
  have both : List.range 2 = [0, 1] := rfl
  simp only [operandsOf, Category.Arity.count, first, both, List.map_cons, List.map_nil, zero, one,
    and_self]

theorem evalCallReads (op : Operation) : readCall (evalCall op) =
    some ⟨"_" ++ (op.runnerName ++ "->eval"), "reg" :: operandsOf "args->terminal" op.arity⟩ := by
  have front : '(' ∉ ("_" ++ (op.runnerName ++ "->eval")).toList :=
    noBracket (Text.identifierParts op.runner.valid) (by decide) (by decide)
  have inner : ∀ arity, operands? ("reg, " ++ (evalArguments arity ++ ")")) =
      some ("reg" :: operandsOf "args->terminal" arity)
    | .one => (operandsOfArity _).1 ▸ (by decide)
    | .two => (operandsOfArity _).2 ▸ (by decide)
  have act : evalCall op = ("_" ++ (op.runnerName ++ "->eval")) ++
      ("(" ++ ("reg, " ++ (evalArguments op.arity ++ ")"))) := by
    simp only [evalCallParts, pointer, String.append_assoc]
  rw [act, readCallAfter front, inner]
  rfl

theorem arityCheckReads (op : Operation) : readCall (arityCheck op) =
    some ⟨"checkArity", ["args", Decimal.text op.arity.count]⟩ := by
  have read : ∀ arity : Category.Arity,
      readCall ("checkArity(args, " ++ (Decimal.text arity.count ++ ")")) =
        some ⟨"checkArity", ["args", Decimal.text arity.count]⟩ := by
    intro arity
    cases arity <;> rw [Decimal.text, Decimal.digits] <;> decide
  exact read op.arity

theorem nameBracket (op : Operation) : '(' ∉ op.name.text.toList :=
  fun inside => absurd (Text.identifierParts op.name.valid _ inside) (by decide)

theorem creationReads (op : Operation) : readCall (creation op) =
    some ⟨"new " ++ op.name.text, operandsOf "args->node" op.arity⟩ := by
  have front : '(' ∉ ("new " ++ op.name.text).toList := by
    simp only [String.toList_append, List.mem_append, not_or]
    exact ⟨by decide, nameBracket op⟩
  have inner : ∀ arity, operands? (nodeArguments arity ++ ")") =
      some (operandsOf "args->node" arity)
    | .one => (operandsOfArity _).1 ▸ (by decide)
    | .two => (operandsOfArity _).2 ▸ (by decide)
  have act : creation op = ("new " ++ op.name.text) ++ ("(" ++ (nodeArguments op.arity ++ ")")) :=
    String.append_assoc.symm
  rw [act, readCallAfter front, inner]
  rfl

def terminalOperands : Category.Arity → List String
  | .one => ["const OGTerminal* arg"]
  | .two => ["const OGTerminal* arg0", "const OGTerminal* arg1"]

theorem evalDeclaredReads (arity : Category.Arity) : readCall (evalDeclared arity) =
    some ⟨"    virtual void * eval", "RegContainer* reg" :: terminalOperands arity⟩ := by
  have first : "    virtual void * eval(" = "    virtual void * eval" ++ "(" := by decide
  have inner : ∀ arity, operands? (evalParameters arity ++ ") const;") =
      some ("RegContainer* reg" :: terminalOperands arity)
    | .one => by decide
    | .two => by decide
  have plain : '(' ∉ "    virtual void * eval".toList := by decide
  unfold evalDeclared
  rw [first, String.append_assoc, readCallAfter plain, inner]
  rfl

/- The constructors of a class are declared without a type of what they return. -/
def constructors (c : ClassText) : List Call :=
  (c.members.filterMap fun line => readCall (unindented line)).filter
    (fun call => call.front = c.name)

def holderOperands : Category.Arity → List String
  | .one => ["OGNumeric* arg"]
  | .two => ["OGNumeric* arg0", "OGNumeric* arg1"]

theorem constructorUnindented (op : Operation) : unindented (constructorLine op) =
    op.name.text ++ ("(" ++ (holderParameters op.arity ++ ");")) := by
  refine unindentedAt (by decide) (stopsWord (fun c inside => beq_eq_false_iff_ne.mpr ?_)
    (stopsAt rfl _ _))
  rintro rfl
  exact absurd (Text.identifierParts op.name.valid _ inside) (by decide)

theorem constructorLineReads (op : Operation) :
    readCall (unindented (constructorLine op)) = some ⟨op.name.text, holderOperands op.arity⟩ := by
  have inner : ∀ arity, operands? (holderParameters arity ++ ");") = some (holderOperands arity)
    | .one => by decide
    | .two => by decide
  rw [constructorUnindented, readCallAfter (nameBracket op), inner]
  rfl

theorem conversionReads (op : Operation) : readCall (unindented (conversionLine op)) =
    some ⟨"virtual const " ++ (op.name.text ++ ("* as" ++ op.name.text)), []⟩ := by
  have plain : '(' ∉ ("virtual const " ++ (op.name.text ++ ("* as" ++ op.name.text))).toList := by
    simp only [String.toList_append, List.mem_append, not_or]
    exact ⟨by decide, nameBracket op, by decide, nameBracket op⟩
  have line : unindented (conversionLine op) =
      ("virtual const " ++ (op.name.text ++ ("* as" ++ op.name.text))) ++
        ("(" ++ ") const override;") := by
    have solid : "    virtual const ".toList.any (· != ' ') = true := by decide
    have first : unindented "    virtual const " = "virtual const " := by decide
    have last : "() const override;" = "(" ++ ") const override;" := by decide
    unfold conversionLine
    rw [last, unindentedAppend solid, first]
    simp only [String.append_assoc]
  have inner : operands? ") const override;" = some [] := by decide
  rw [line, readCallAfter plain, inner]
  rfl

theorem holderConstructors (op : Operation) :
    constructors (holderText op) = [⟨op.name.text, holderOperands op.arity⟩] := by
  have none : readCall (unindented "  public:") = none := by rfl
  have copy : readCall (unindented "    virtual OGNumeric* copy() const override;") =
      some ⟨"virtual OGNumeric* copy", []⟩ := by rfl
  have type : readCall (unindented "    virtual ExprType_t getType() const override;") =
      some ⟨"virtual ExprType_t getType", []⟩ := by rfl
  have other : ∀ front : String, ' ' ∈ front.toList → front ≠ op.name.text := by
    rintro front blank rfl
    exact absurd (Text.identifierParts op.name.valid _ blank) (by decide)
  have noCopy := other "virtual OGNumeric* copy" (by decide)
  have noType := other "virtual ExprType_t getType" (by decide)
  have noConversion := other ("virtual const " ++ (op.name.text ++ ("* as" ++ op.name.text)))
    (by simp)
  simp only [constructors, holderText, List.filterMap_cons, List.filterMap_nil, none, copy, type,
    constructorLineReads, conversionReads]
  simp [noCopy, noType, noConversion]

/- The classes that an operation needs, each of them there once, with as many operands. -/
structure Fits (op : Operation) (runners bases holders : List ClassText) : Prop where
  runner : ∃ runner base eval call parameters,
    runners.filter (fun c => c.name = op.runnerName) = [runner] ∧ runner.base = some base.name ∧
    bases.filter (fun c => c.name = base.name) = [base] ∧ base.declared evalStart = [eval] ∧
    readCall eval = some call ∧ call.operands = "RegContainer* reg" :: parameters ∧
    parameters.length = op.arity.count
  holder : op.category.isExternal = false → ∃ holder constructor,
    holders.filter (fun c => c.name = op.name.text) = [holder] ∧
    constructors holder = [constructor] ∧ constructor.operands.length = op.arity.count

theorem holderClassOnly {ops : Operations} {op : Operation} (member : op ∈ holders ops) :
    ((holders ops).map holderText).filter (fun c => c.name = op.name.text) = [holderText op] :=
  filterMapped ClassText.name holderText (holderNamesDistinct ops) member

theorem operationFits {ops : Operations} (terminals : Terminals) {op : Operation}
    (member : op ∈ ops.entries) : Fits op (ops.entries.map runnerText)
      [baseText terminals .one, baseText terminals .two, dispatcherText ops]
      ((holders ops).map holderText) where
  runner := by
    have count : (terminalOperands op.arity).length = op.arity.count := by cases op.arity <;> rfl
    exact ⟨runnerText op, baseText terminals op.arity, _, _, _, runnerClassOnly member, rfl,
      baseClassOnly ops terminals op.arity, baseEvals terminals op.arity,
      evalDeclaredReads op.arity, rfl, count⟩
  holder := fun own => by
    have holder : op ∈ holders ops := List.mem_filter.mpr ⟨member, by simp [own]⟩
    have count : (holderOperands op.arity).length = op.arity.count := by cases op.arity <;> rfl
    exact ⟨_, _, holderClassOnly holder, holderConstructors op, count⟩

end DoubleDispatch.Emit
