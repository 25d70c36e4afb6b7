import DoubleDispatch.Proofs.Emit.Entries
import DoubleDispatch.Proofs.Emit.Generator

/-! The runners fit the dispatch table: what a runner overrides is what its base class declares, for
the operand types that its category selects, and the rest is left to defaults that throw. -/
namespace DoubleDispatch.Emit
open Catalog (Category Operation Operations Terminal Terminals smallCatalog)
open Text (Block filterOnly filterMapped ClassText runStart evalStart overridden? declaredRun
  definedRun throws startsOtherwise)

/- The entry points of a class for these operand types, and the definitions of such. -/
def entriesFor (base : ClassText) (types : List String) : List String :=
  (base.declared runStart).filter (fun line => declaredRun.types? line = some types)

def definitionsFor (owner : String) (types : List String) (functions : List Block) : List Block :=
  functions.filter (fun f => (definedRun owner).types? f.head = some types)

/- Some member of the runner repeats an entry point of the base for these operands. -/
def Overrides (runner base : ClassText) (operands : List Terminal) : Prop :=
  ∃ line ∈ runner.declared runStart, ∃ entry ∈ entriesFor base (operands.map Terminal.typeName),
    overridden? line = some entry

structure Overriding (op : Operation) (terminals : Terminals) (runner base : ClassText)
    (functions : List Block) : Prop where
  runs : ∀ line ∈ runner.declared runStart,
    ∃ entry, overridden? line = some entry ∧ (base.declared runStart).count entry = 1
  eval : op.category.isExternal = true →
    ∃ line entry, runner.declared evalStart = [line] ∧ overridden? line = some entry ∧
      base.declared evalStart = [entry]
  noEval : op.category.isExternal = false → runner.declared evalStart = []
  selected : ∀ operands : List Terminal, Overrides runner base operands ↔
    operands ∈ (overloads op.category).map Overload.operands
  known : ∀ operands ∈ (overloads op.category).map Overload.operands,
    operands.length = op.arity.count ∧ ∀ t ∈ operands, t ∈ terminals.entries
  defaults : ∀ operands : List Terminal, operands.length = op.arity.count →
    (∀ t ∈ operands, t ∈ terminals.entries) →
    (∃ entry, entriesFor base (operands.map Terminal.typeName) = [entry]) ∧
    ∃ block, definitionsFor base.name (operands.map Terminal.typeName) functions = [block] ∧
      throws block.body = true

theorem runnerNamesDistinct (ops : Operations) :
    (ops.entries.map Operation.runnerName).Nodup :=
  ops.distinctBy fun op => by simp [Operation.identifiers]

section
variable {terminals : Terminals} {arity : Category.Arity} {overload : Overload}

theorem entryOnce (declared : overload ∈ everyOverload terminals arity) :
    ((baseText terminals arity).declared runStart).count overload.entry = 1 := by
  have distinct := (everyOverloadDistinct terminals arity).map fun _ _ => entryInjective
  rw [baseRuns]
  exact List.count_eq_one_of_mem distinct (List.mem_map_of_mem declared)

theorem overloadOnly (declared : overload ∈ everyOverload terminals arity) :
    (everyOverload terminals arity).filter (fun o => o.types = overload.types) = [overload] :=
  filterOnly ((everyOverloadDistinct terminals arity).map fun _ _ => Overload.typesInjective)
    declared

theorem entryFor (declared : overload ∈ everyOverload terminals arity) :
    entriesFor (baseText terminals arity) overload.types = [overload.entry] := by
  have key : (fun line => decide (declaredRun.types? line = some overload.types)) ∘ Overload.entry =
      fun o => decide (o.types = overload.types) := by
    funext o
    simp only [Function.comp_apply, entryTypes, Option.some.injEq]
  rw [entriesFor, baseRuns, List.filter_map, key, overloadOnly declared]
  rfl

theorem definitionsAppend (owner : String) (types : List String) (front back : List Block) :
    definitionsFor owner types (front ++ back) =
      definitionsFor owner types front ++ definitionsFor owner types back :=
  List.filter_append ..

theorem definitionsNone {owner : String} {types : List String} {functions : List Block}
    (none : ∀ f ∈ functions, (definedRun owner).types? f.head = none) :
    definitionsFor owner types functions = [] :=
  List.filter_eq_nil_iff.mpr fun f member => by simp [none f member]

theorem defaultElsewhere (other : overload.arity ≠ arity) :
    (definedRun (runnerBase arity)).types? (defaultHead overload) = none := by
  refine (definedRun (runnerBase arity)).typesNone ?_
  cases arity <;> cases overload <;>
    first | exact absurd rfl other | exact startsOtherwise (by decide) _

/- The functions that are no defaults. -/
theorem evalElsewhere (arity other : Category.Arity) :
    (definedRun (runnerBase arity)).types? (evalTitle other) = none := by
  cases arity <;> cases other <;> decide

theorem dispatcherElsewhere (arity : Category.Arity) :
    (definedRun (runnerBase arity)).types? "Dispatcher::Dispatcher()" = none ∧
    (definedRun (runnerBase arity)).types? "Dispatcher::~Dispatcher()" = none ∧
    (definedRun (runnerBase arity)).types?
      "Dispatcher::dispatch(const OGExpr* thing) const" = none := by
  cases arity <;> decide

theorem defaultFor (declared : overload ∈ everyOverload terminals arity) :
    definitionsFor (runnerBase arity) overload.types
      ((everyOverload terminals arity).map defaultBlock) = [defaultBlock overload] := by
  have same : ∀ o ∈ everyOverload terminals arity,
      ((fun f : Block => decide ((definedRun (runnerBase arity)).types? f.head =
        some overload.types)) ∘ defaultBlock) o = decide (o.types = overload.types) := by
    intro o member
    have read := defaultTypes o
    rw [(everyOverloadIff.mp member).1] at read
    simp only [Function.comp_apply, defaultBlock, read, Option.some.injEq]
  rw [definitionsFor, List.filter_map, List.filter_congr same, overloadOnly declared]
  rfl

theorem definitionFor (declared : overload ∈ everyOverload terminals arity) (ops : Operations)
    (names : Names) :
    definitionsFor (runnerBase arity) overload.types (dispatchFunctions ops terminals names) =
      [defaultBlock overload] := by
  have elsewhere : ∀ other, other ≠ arity → definitionsFor (runnerBase arity) overload.types
      ((everyOverload terminals other).map defaultBlock) = [] := by
    intro other differ
    refine definitionsNone (List.forall_mem_map.mpr fun o member => defaultElsewhere ?_)
    rw [(everyOverloadIff.mp member).1]
    exact differ
  have evals : ∀ other body, definitionsFor (runnerBase arity) overload.types
      [⟨evalTitle other, body⟩] = [] :=
    fun other _ => definitionsNone (List.forall_mem_singleton.mpr (evalElsewhere arity other))
  have dispatcher : ∀ a b c, definitionsFor (runnerBase arity) overload.types
      [⟨"Dispatcher::Dispatcher()", a⟩, ⟨"Dispatcher::~Dispatcher()", b⟩,
       ⟨"Dispatcher::dispatch(const OGExpr* thing) const", c⟩] = [] := by
    intro a b c
    obtain ⟨constructor, destructor, dispatch⟩ := dispatcherElsewhere arity
    refine definitionsNone ?_
    simp only [List.forall_mem_cons]
    exact ⟨constructor, destructor, dispatch, List.forall_mem_nil _⟩
  rw [dispatchFunctions, definitionsAppend, definitionsAppend, definitionsAppend, definitionsAppend,
    evals, evals, dispatcher]
  cases arity with
  | one =>
    rw [defaultFor declared, elsewhere .two (by decide)]
    rfl
  | two =>
    rw [defaultFor declared, elsewhere .one (by decide)]
    rfl

end

theorem runnerOverrides {ops : Operations} {terminals : Terminals}
    (accepted : checkTerminals ops terminals = .ok ()) (names : Names) {op : Operation}
    (member : op ∈ ops.entries) :
    Overriding op terminals (runnerText op) (baseText terminals op.arity)
      (dispatchFunctions ops terminals names) where
  runs := by
    rw [runnerRuns, List.forall_mem_map]
    intro overload chosen
    exact ⟨overload.entry, overriddenEntry overload,
      entryOnce (acceptedDeclares accepted member chosen)⟩
  eval := fun external => by
    rw [runnerEvals, if_pos external, baseEvals]
    exact ⟨_, _, rfl, overriddenEval op.arity, rfl⟩
  noEval := fun generated => by
    rw [runnerEvals, generated]
    rfl
  selected := by
    intro operands
    unfold Overrides
    rw [runnerRuns]
    constructor
    · rintro ⟨line, overriding, entry, found, repeated⟩
      obtain ⟨overload, chosen, rfl⟩ := List.mem_map.mp overriding
      rw [overriddenEntry, Option.some.injEq] at repeated
      subst repeated
      have types := of_decide_eq_true (List.mem_filter.mp found).2
      rw [entryTypes, Option.some.injEq] at types
      have same : overload.operands = operands :=
        List.map_injective_iff.mpr (fun _ _ => Terminal.typeNameInjective) types
      exact List.mem_map.mpr ⟨overload, chosen, same⟩
    · intro chosen
      obtain ⟨overload, inside, rfl⟩ := List.mem_map.mp chosen
      have entry := entryFor (acceptedDeclares accepted member inside)
      refine ⟨_, List.mem_map_of_mem inside, overload.entry, ?_, overriddenEntry overload⟩
      exact entry ▸ List.mem_singleton_self _
  known := by
    rw [List.forall_mem_map]
    intro overload chosen
    obtain ⟨arity, known⟩ := everyOverloadIff.mp (acceptedDeclares accepted member chosen)
    exact ⟨arity ▸ overload.operandsCount, known⟩
  defaults := by
    intro operands count known
    obtain ⟨overload, rfl, arity⟩ := Overload.ofOperands count
    have declared : overload ∈ everyOverload terminals op.arity :=
      everyOverloadIff.mpr ⟨arity, known⟩
    exact ⟨⟨_, entryFor declared⟩, _, definitionFor declared ops names, defaultThrows overload⟩

theorem runnerClassOnly {ops : Operations} {op : Operation} (member : op ∈ ops.entries) :
    (ops.entries.map runnerText).filter (fun c => c.name = op.runnerName) = [runnerText op] :=
  filterMapped ClassText.name runnerText (runnerNamesDistinct ops) member

theorem baseClassOnly (ops : Operations) (terminals : Terminals) (arity : Category.Arity) :
    [baseText terminals .one, baseText terminals .two, dispatcherText ops].filter
      (fun c => c.name = runnerBase arity) = [baseText terminals arity] := by
  have distinct : ([baseText terminals .one, baseText terminals .two,
      dispatcherText ops].map ClassText.name).Nodup :=
    (by decide : ["DispatchVoidUnaryOp", "DispatchVoidBinaryOp", "Dispatcher"].Nodup)
  have member : baseText terminals arity ∈
      [baseText terminals .one, baseText terminals .two, dispatcherText ops] := by
    cases arity with
    | one => exact List.mem_cons_self
    | two => exact List.mem_cons_of_mem _ List.mem_cons_self
  exact filterOnly distinct member

theorem overridesAreEntryPoints {ops : Operations} {terminals : Terminals} {names : Names}
    {g : Generator} (made : Generator.make ops terminals names = .ok g) :
    ∃ header table source classes bases functions,
      g.artifact .runnersHeader = .ok header ∧
      readClasses .runnersHeader names header = some classes ∧
      g.artifact .dispatchHeader = .ok table ∧
      readClasses .dispatchHeader names table = some bases ∧
      g.artifact .dispatchSource = .ok source ∧
      readFunctions .dispatchSource names source = some functions ∧
      ∀ op ∈ ops.entries, ∃ runner base,
        classes.filter (fun c => c.name = op.runnerName) = [runner] ∧
        runner.base = some base.name ∧ base.name = runnerBase op.arity ∧
        bases.filter (fun c => c.name = base.name) = [base] ∧
        Overriding op terminals runner base functions := by
  obtain ⟨rfl, rfl, rfl⟩ := Generator.madeOf made
  refine ⟨_, _, _, _, _, _, g.artifactText .runnersHeader, readRunners g.operations g.names,
    g.artifactText .dispatchHeader, readBases g.operations g.terminals g.names,
    g.artifactText .dispatchSource, readDispatch g.operations g.terminals g.names,
    fun op member => ?_⟩
  exact ⟨runnerText op, baseText g.terminals op.arity, runnerClassOnly member, rfl, rfl,
    baseClassOnly g.operations g.terminals op.arity, runnerOverrides g.accepted g.names member⟩

theorem smallGeneratorOverrides :
    Generator.make smallCatalog .reference .standard = .ok smallGenerator ∧
      ∃ runner base : ClassText, runner.base = some base.name ∧
        Overrides runner base [realScalar, realScalar] ∧
        ¬ Overrides runner base [realScalar, realDense] := by
  obtain ⟨_, _, _, _, _, _, _, _, _, _, _, _, each⟩ := overridesAreEntryPoints smallGeneratorMade
  have plus : smallCatalog.entries.head smallCatalog.nonempty ∈ smallCatalog.entries :=
    List.head_mem _
  obtain ⟨runner, base, _, extends_, _, _, overriding⟩ := each _ plus
  refine ⟨smallGeneratorMade, runner, base, extends_, ?_, ?_⟩
  · rw [overriding.selected]
    decide
  · rw [overriding.selected]
    decide

end DoubleDispatch.Emit
