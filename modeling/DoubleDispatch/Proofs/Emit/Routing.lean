import DoubleDispatch.Proofs.Emit.EntryLists
import DoubleDispatch.Proofs.Emit.Overriding
import DoubleDispatch.Proofs.Emit.SwitchTexts

/-! Where an evaluation goes. The tags of the operands select the entry point for their types, with
the operands in their order, and an unknown tag ends in the default. What is selected is declared
once in the base class and defined once, as a function that throws. -/
namespace DoubleDispatch.Emit
open Catalog (Category Operations Terminal Terminals smallCatalog)
open Template (pageLines? Kind)
open Text (Statement Meaning Unlabelled runAll runAllSingle table switchSelects switchThrows
  LabelsOnce onceOfNone tableOnce statementsOf Block ClassText runStart declaredRun throws)

theorem typeTagInjective {a b : Terminal} (same : a.typeTag = b.typeTag) : a = b := by
  have distinct : (Terminal.all.map Terminal.typeTag).Nodup := by decide
  exact List.inj_on_of_nodup_map distinct a.memAll b.memAll same

section
variable {V : Type} [DecidableEq V] {m : Meaning V} {terminals : Terminals}

/- No two terminal types have a tag of the same value. -/
def TagsDiffer (m : Meaning V) (terminals : Terminals) : Prop :=
  ∀ t ∈ terminals.entries, ∀ u ∈ terminals.entries, m.label t.typeTag = m.label u.typeTag → t = u

def UnknownTag (m : Meaning V) (terminals : Terminals) (subject : String) : Prop :=
  ∀ t ∈ terminals.entries, m.label t.typeTag ≠ m.subject subject

variable {block : Terminal → List Statement} {subject error : String}

theorem tagSelects (differ : TagsDiffer m terminals) {t : Terminal} (member : t ∈ terminals.entries)
    (unlabelled : ∀ t, Unlabelled (block t)) (tagged : m.label t.typeTag = m.subject subject)
    (stops : (runAll m (block t)).ending ≠ .next) :
    (Statement.switch subject (table Terminal.typeTag block error terminals.entries)).run m =
      (runAll m (block t)).outside :=
  switchSelects error (fun u _ => unlabelled u) member tagged
    (fun u inside same => differ u inside t member same) stops

theorem tagUnknown (unlabelled : ∀ t, Unlabelled (block t))
    (unknown : UnknownTag m terminals subject) :
    (Statement.switch subject (table Terminal.typeTag block error terminals.entries)).run m =
      ⟨[], .thrown error⟩ :=
  switchThrows error (fun t _ => unlabelled t) unknown

theorem returnsUnlabelled (value : String) : Unlabelled [.returns value] :=
  List.forall_mem_singleton.mpr rfl

theorem innerUnlabelled (terminals : Terminals) (left : Terminal) :
    Unlabelled [innerSwitch terminals left] :=
  List.forall_mem_singleton.mpr rfl

theorem runReturns (m : Meaning V) (value : String) :
    runAll m [.returns value] = ⟨[], .returned value⟩ := by
  rw [runAllSingle, Statement.run]

theorem unarySelects (differ : TagsDiffer m terminals) {t : Terminal}
    (member : t ∈ terminals.entries) (tagged : m.label t.typeTag = m.subject "arg->getType()") :
    (unarySwitch terminals).run m = ⟨[], .returned (runOne t)⟩ := by
  have block := runReturns m (runOne t)
  rw [unarySwitch, tagSelects differ member (fun _ => returnsUnlabelled _) tagged (by simp [block]),
    block]
  rfl

theorem innerSelects (differ : TagsDiffer m terminals) (left : Terminal) {right : Terminal}
    (member : right ∈ terminals.entries)
    (tagged : m.label right.typeTag = m.subject "arg1->getType()") :
    (innerSwitch terminals left).run m = ⟨[], .returned (runTwo left right)⟩ := by
  have block := runReturns m (runTwo left right)
  rw [innerSwitch, tagSelects differ member (fun _ => returnsUnlabelled _) tagged (by simp [block]),
    block]
  rfl

theorem innerUnknown (left : Terminal) (unknown : UnknownTag m terminals "arg1->getType()") :
    (innerSwitch terminals left).run m = ⟨[], .thrown unknownTwo⟩ :=
  tagUnknown (fun _ => returnsUnlabelled _) unknown

/- Whatever the second tag is, control does not pass on to the label behind. -/
theorem innerStops (differ : TagsDiffer m terminals) (left : Terminal) :
    ((innerSwitch terminals left).run m).ending ≠ .next := by
  by_cases known : ∃ right ∈ terminals.entries, m.label right.typeTag = m.subject "arg1->getType()"
  · obtain ⟨right, member, tagged⟩ := known
    simp [innerSelects differ left member tagged]
  · have unknown : UnknownTag m terminals "arg1->getType()" :=
      fun right member tagged => known ⟨right, member, tagged⟩
    simp [innerUnknown left unknown]

theorem binaryEnters (differ : TagsDiffer m terminals) {left : Terminal}
    (member : left ∈ terminals.entries)
    (tagged : m.label left.typeTag = m.subject "arg0->getType()") :
    (binarySwitch terminals).run m = ((innerSwitch terminals left).run m).outside := by
  have block := runAllSingle m (innerSwitch terminals left)
  have stops := innerStops differ left
  rw [binarySwitch, tagSelects differ member (innerUnlabelled terminals) tagged
    (by rwa [block]), block]

theorem binarySelects (differ : TagsDiffer m terminals) {left right : Terminal}
    (leftMember : left ∈ terminals.entries) (rightMember : right ∈ terminals.entries)
    (leftTagged : m.label left.typeTag = m.subject "arg0->getType()")
    (rightTagged : m.label right.typeTag = m.subject "arg1->getType()") :
    (binarySwitch terminals).run m = ⟨[], .returned (runTwo left right)⟩ := by
  rw [binaryEnters differ leftMember leftTagged, innerSelects differ left rightMember rightTagged]
  rfl

theorem binaryUnknown (differ : TagsDiffer m terminals)
    (unknown : UnknownTag m terminals "arg0->getType()" ∨
      UnknownTag m terminals "arg1->getType()") :
    (binarySwitch terminals).run m = ⟨[], .thrown unknownTwo⟩ := by
  by_cases known : ∃ left ∈ terminals.entries, m.label left.typeTag = m.subject "arg0->getType()"
  · obtain ⟨left, member, tagged⟩ := known
    rcases unknown with first | second
    · exact absurd tagged (first left member)
    · rw [binaryEnters differ member tagged, innerUnknown left second]
      rfl
  · exact tagUnknown (innerUnlabelled terminals)
      fun left member tagged => known ⟨left, member, tagged⟩

end

theorem tagsNodup (terminals : Terminals) : (terminals.entries.map Terminal.typeTag).Nodup :=
  terminals.distinct.map fun _ _ => typeTagInjective

theorem unaryOnce (terminals : Terminals) : LabelsOnce [unarySwitch terminals] :=
  tableOnce _ _ _ (fun _ _ => returnsUnlabelled _) (tagsNodup terminals)
    (fun _ _ => onceOfNone rfl) _

theorem binaryOnce (terminals : Terminals) : LabelsOnce [binarySwitch terminals] :=
  tableOnce _ _ _ (fun left _ => innerUnlabelled terminals left) (tagsNodup terminals)
    (fun _ _ => tableOnce _ _ _ (fun _ _ => returnsUnlabelled _) (tagsNodup terminals)
      (fun _ _ => onceOfNone rfl) _) _

/- The operand types of the entry points, those of two operands by rows. -/
def entryPoints (terminals : Terminals) : Category.Arity → List (List String)
  | .one => terminals.entries.map fun t => [t.typeName]
  | .two => (terminals.entries.product terminals.entries).map fun (t, u) =>
    [t.typeName, u.typeName]

theorem entryPointsOfOverloads (terminals : Terminals) (arity : Category.Arity) :
    (everyOverload terminals arity).map Overload.types = entryPoints terminals arity := by
  cases arity with
  | one => exact List.map_map ..
  | two => exact List.map_map ..

/- The two switches, run for whatever values the tags have. -/
structure Routes (terminals : Terminals) (unary binary : List Statement) : Prop where
  once : LabelsOnce unary ∧ LabelsOnce binary
  one : ∀ {V : Type} [DecidableEq V] (m : Meaning V), TagsDiffer m terminals →
    ∀ t ∈ terminals.entries, m.label t.typeTag = m.subject "arg->getType()" →
      runAll m unary = ⟨[], .returned ("run(reg, arg->as" ++ (t.typeName ++ "())"))⟩
  oneUnknown : ∀ {V : Type} [DecidableEq V] (m : Meaning V),
    UnknownTag m terminals "arg->getType()" → ∃ error, runAll m unary = ⟨[], .thrown error⟩
  two : ∀ {V : Type} [DecidableEq V] (m : Meaning V), TagsDiffer m terminals →
    ∀ t ∈ terminals.entries, ∀ u ∈ terminals.entries,
      m.label t.typeTag = m.subject "arg0->getType()" →
      m.label u.typeTag = m.subject "arg1->getType()" →
      runAll m binary = ⟨[], .returned ("run(reg, arg0->as" ++ (t.typeName ++ ("(), arg1->as" ++
        (u.typeName ++ "())"))))⟩
  twoUnknown : ∀ {V : Type} [DecidableEq V] (m : Meaning V), TagsDiffer m terminals →
    UnknownTag m terminals "arg0->getType()" ∨ UnknownTag m terminals "arg1->getType()" →
      ∃ error, runAll m binary = ⟨[], .thrown error⟩

theorem evalRoutes (terminals : Terminals) :
    Routes terminals [unarySwitch terminals] [binarySwitch terminals] where
  once := ⟨unaryOnce terminals, binaryOnce terminals⟩
  one := fun m differ t member tagged => by
    rw [runAllSingle, unarySelects differ member tagged]
    rfl
  oneUnknown := fun m unknown =>
    ⟨_, (runAllSingle m _).trans (tagUnknown (fun _ => returnsUnlabelled _) unknown)⟩
  two := fun m differ t first u second tagged tagged' => by
    rw [runAllSingle, binarySelects differ first second tagged tagged']
    rfl
  twoUnknown := fun m differ unknown =>
    ⟨_, (runAllSingle m _).trans (binaryUnknown differ unknown)⟩

/- The entry points of the base class, each of them there once, and their definitions: as many, in
the same order, and every one of them throws. -/
structure Defined (terminals : Terminals) (arity : Category.Arity) (base : ClassText)
    (functions : List Block) : Prop where
  declared : (base.declared runStart).map declaredRun.types? =
    (entryPoints terminals arity).map some
  distinct : (entryPoints terminals arity).Nodup
  defaults : ∀ types ∈ entryPoints terminals arity, ∃ entry block,
    entriesFor base types = [entry] ∧ definitionsFor base.name types functions = [block] ∧
      throws block.body = true

theorem baseDefined (ops : Operations) (terminals : Terminals) (names : Names)
    (arity : Category.Arity) : Defined terminals arity (baseText terminals arity)
      (dispatchFunctions ops terminals names) where
  declared := by
    rw [baseRuns, List.map_map, ← entryPointsOfOverloads, List.map_map]
    exact congrArg (fun f => (everyOverload terminals arity).map f) (funext entryTypes)
  distinct := by
    rw [← entryPointsOfOverloads]
    exact (everyOverloadDistinct terminals arity).map fun _ _ => Overload.typesInjective
  defaults := by
    rw [← entryPointsOfOverloads, List.forall_mem_map]
    exact fun overload member => ⟨_, _, entryFor member, definitionFor member ops names,
      defaultThrows overload⟩

theorem headerEntryPoints (ops : Operations) (terminals : Terminals) (names : Names) :
    (((dispatchHeaderPage ops terminals names).linesOf (Kind.body .dispatchHeader)).filter
      isRun).map declaredRun.types? =
      (entryPoints terminals .one ++ entryPoints terminals .two).map some := by
  rw [headerRuns, ← entryPointsOfOverloads, ← entryPointsOfOverloads, ← List.map_append,
    List.map_map, List.map_map]
  exact congrArg (fun f => List.map f _) (funext entryTypes)

theorem sourceEntryPoints (ops : Operations) (terminals : Terminals) (names : Names) :
    (((dispatchSourcePage ops terminals names).linesOf (Kind.body .dispatchSource)).filter
      definesRun).map definition? =
      (entryPoints terminals .one).map (fun types => some (runnerBase .one, types)) ++
        (entryPoints terminals .two).map (fun types => some (runnerBase .two, types)) := by
  have each : ∀ arity, ((everyOverload terminals arity).map defaultHead).map definition? =
      (entryPoints terminals arity).map fun types => some (runnerBase arity, types) := by
    intro arity
    rw [← entryPointsOfOverloads, List.map_map, List.map_map]
    refine List.map_congr_left fun overload member => ?_
    rw [Function.comp_apply, defaultDefined, (everyOverloadIff.mp member).1]
    rfl
  rw [sourceDefinitions, List.map_append, List.map_append, each, each]

theorem operandTypesRouted {ops : Operations} {terminals : Terminals} {names : Names}
    {g : Generator} (made : Generator.make ops terminals names = .ok g) :
    ∃ tableLines sourceLines bases functions unary binary,
      g.Reads .dispatchHeader
        (pageLines? .dispatchHeader [("namespace", names.namespaceName)]) tableLines ∧
      g.Reads .dispatchHeader (readClasses .dispatchHeader names) bases ∧
      g.Reads .dispatchSource
        (pageLines? .dispatchSource [("namespace", names.namespaceName)]) sourceLines ∧
      g.Reads .dispatchSource (readFunctions .dispatchSource names) functions ∧
      statementsOf "DispatchVoidUnaryOp::eval" functions = some unary ∧
      statementsOf "DispatchVoidBinaryOp::eval" functions = some binary ∧
      Routes terminals unary binary ∧
      (∀ arity, ∃ base, bases.filter (fun c => c.name = runnerBase arity) = [base] ∧
        base.name = runnerBase arity ∧ Defined terminals arity base functions) ∧
      (tableLines.filter isRun).map declaredRun.types? =
        (entryPoints terminals .one ++ entryPoints terminals .two).map some ∧
      (sourceLines.filter definesRun).map definition? =
        (entryPoints terminals .one).map (fun types => some ("DispatchVoidUnaryOp", types)) ++
          (entryPoints terminals .two).map (fun types => some ("DispatchVoidBinaryOp", types)) := by
  obtain ⟨rfl, rfl, rfl⟩ := Generator.madeOf made
  refine ⟨_, _, _, _, _, _, g.readsOf .dispatchHeader ?_,
    g.readsOf .dispatchHeader (readBases g.operations g.terminals g.names),
    g.readsOf .dispatchSource ?_,
    g.readsOf .dispatchSource (readDispatch g.operations g.terminals g.names),
    unaryEvalStatements g.operations g.terminals g.names,
    binaryEvalStatements g.operations g.terminals g.names, evalRoutes g.terminals, fun arity => ?_,
    headerEntryPoints g.operations g.terminals g.names,
    sourceEntryPoints g.operations g.terminals g.names⟩
  · exact (dispatchHeaderTidy g.operations g.terminals g.names).sourceLines rfl
      (by decide : Kind.isSource .dispatchHeader = true) rfl
  · exact (dispatchSourceTidy g.operations g.terminals g.names).sourceLines rfl
      (by decide : Kind.isSource .dispatchSource = true) rfl
  · exact ⟨_, baseClassOnly g.operations g.terminals arity, rfl,
      baseDefined g.operations g.terminals g.names arity⟩

/- Tags stand for themselves, and the operands are a real scalar and a complex one. -/
def realThenComplex : Meaning String where
  subject := fun subject =>
    if subject = "arg0->getType()" then "REAL_SCALAR_ENUM" else "COMPLEX_SCALAR_ENUM"
  label := id

theorem smallGeneratorRoutes :
    Generator.make smallCatalog .reference .standard = .ok smallGenerator ∧
    ∃ functions unary binary,
      smallGenerator.Reads .dispatchSource (readFunctions .dispatchSource .standard) functions ∧
      statementsOf "DispatchVoidUnaryOp::eval" functions = some unary ∧
      statementsOf "DispatchVoidBinaryOp::eval" functions = some binary ∧
      runAll realThenComplex unary = ⟨[], .returned "run(reg, arg->asOGComplexScalar())"⟩ ∧
      runAll realThenComplex binary =
        ⟨[], .returned "run(reg, arg0->asOGRealScalar(), arg1->asOGComplexScalar())"⟩ := by
  obtain ⟨_, _, _, functions, unary, binary, _, _, _, read, one, two, routes, _⟩ :=
    operandTypesRouted smallGeneratorMade
  have differ : TagsDiffer realThenComplex .reference := fun _ _ _ _ same => typeTagInjective same
  refine ⟨smallGeneratorMade, functions, unary, binary, read, one, two, ?_, ?_⟩
  · exact routes.one realThenComplex differ ⟨.complex, .scalar⟩ (by decide) rfl
  · exact routes.two realThenComplex differ ⟨.real, .scalar⟩ (by decide) ⟨.complex, .scalar⟩
      (by decide) rfl rfl

end DoubleDispatch.Emit
