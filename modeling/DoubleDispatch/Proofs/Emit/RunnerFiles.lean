import DoubleDispatch.Proofs.Emit.FunctionTexts

/-! Header and source of the runners fit together. Classes are written from the members of an
operation, functions from its payload and its overloads; what the classes declare and what the
source defines comes out as one list all the same, and nothing is in it twice. -/
namespace DoubleDispatch.Emit
open Catalog (Operation Operations Terminals smallCatalog)
open Template (Fragment Kind Line pageBody?)
open Template.Fragment (texts)
open Text (ClassText runStart)

/- What the class of an operation consists of; it has no other members. -/
structure DeclaresRunner (op : Operation) (c : ClassText) : Prop where
  name : c.name = op.runnerName
  base : c.base = some (runnerBase op.arity)
  generated : op.category.hasBodies = true → c.members =
    "  public:" :: usingBase op.arity :: (overloads op.category).map Overload.overriding
  placeholder : op.category.hasBodies = false → op.category.isExternal = false →
    c.members = ["  public:", usingBase op.arity]
  external : op.category.isExternal = true →
    c.members = ["  public:", usingBase op.arity, evalOverriding op.arity]

theorem declaresRunner (op : Operation) : DeclaresRunner op (runnerText op) where
  name := rfl
  base := rfl
  generated := fun has => by
    rw [runnerText, overridingLines, Catalog.Category.bodiesNotExternal has]
    rfl
  placeholder := fun none internal => by
    rw [runnerText, overridingLines, internal, noBodiesNoOverloads none]
    rfl
  external := fun external => by
    rw [runnerText, overridingLines, external]
    rfl

theorem bodiesRefused {op : Operation} (none : op.category.hasBodies = false) :
    bodies op = .error (.noBodies op.name.text op.category) := by
  rw [bodies, noPayload.mpr none]

theorem bodiesText {op : Operation} (has : op.category.hasBodies = true) :
    bodies op = .ok ((functionsOf op).map Fragment.text) :=
  (bodiesWrites has).done (bodyFragmentsComplete op)

theorem functionsDefine (op : Operation) {payload : Payload} (found : payload? op = some payload) :
    List.Forall₂ (Defines op.runnerName) ((overloads op.category).map Overload.parameters)
      ((functionsOf op).map Fragment.text) := by
  rw [functionsMap found, List.map_map, List.forall₂_map_left_iff, List.forall₂_map_right_iff,
    List.forall₂_same]
  exact fun overload _ => functionDefines payload op overload

theorem runsDistinct (ops : Operations) : (ops.entries.flatMap runsOf).Nodup := by
  rw [List.nodup_flatMap]
  constructor
  · intro op _
    have overloadsDistinct : (overloads op.category).Nodup := by cases op.category <;> decide
    exact overloadsDistinct.map fun _ _ same => parametersInjective (Prod.ext_iff.mp same).2
  · have names := List.pairwise_map.mp (runnerNamesDistinct ops)
    refine names.imp fun {a b} differ run inA inB => ?_
    obtain ⟨_, _, rfl⟩ := List.mem_map.mp inA
    obtain ⟨_, _, same⟩ := List.mem_map.mp inB
    exact differ (Prod.ext_iff.mp same).1.symm

theorem allDeclared (entries : List Operation) :
    declaredRuns (entries.map runnerText) = some (entries.flatMap runsOf) := by
  have each : ∀ op ∈ entries, (((runnerText op).declared runStart).mapM overrideParameters?).map
      (·.map fun parameters => ((runnerText op).name, parameters)) = some (runsOf op) := by
    intro op _
    rw [membersDeclared, Option.map_some, List.map_map]
    rfl
  rw [declaredRuns, Outcome.mapMSome each, Option.map_some, List.flatMap]

theorem definedAppend {front back : List Text.Block} {xs ys : List (String × String)}
    (first : definedRuns front = some xs) (second : definedRuns back = some ys) :
    definedRuns (front ++ back) = some (xs ++ ys) := by
  unfold definedRuns at first second ⊢
  simp [List.mapM_append, first, second]

/- Without overloads there is nothing to declare, so only operations with bodies matter. -/
theorem allDefined (entries : List Operation) :
    definedRuns ((entries.filter (·.category.hasBodies)).flatMap memberBlocks) =
      some (entries.flatMap runsOf) := by
  induction entries with
  | nil => rfl
  | cons op rest ih =>
    rw [List.flatMap_cons]
    cases has : op.category.hasBodies with
    | true =>
      rw [List.filter_cons, if_pos has, List.flatMap_cons]
      exact definedAppend (membersDefined op) ih
    | false =>
      rw [List.filter_cons, if_neg (by simp [has]), ih, runsOf, noBodiesNoOverloads has]
      rfl

theorem bodiesEach (ops : Operations) : (bodied ops).mapM bodies =
    .ok ((bodied ops).map fun op => (functionsOf op).map Fragment.text) :=
  (Writes.each fun _ member => bodiesWrites (List.mem_filter.mp member).2).done
    (List.forall_mem_flatMap.mpr fun op _ => bodyFragmentsComplete op)

theorem functionSection (ops : Operations) (names : Names) :
    pageBody? .runnersSource [("namespace", names.namespaceName)]
      (runnersSourcePage ops names).text = some ("\n" ++ String.join
        ((bodied ops).map fun op => (functionsOf op).map Fragment.text).flatten) := by
  have keeps : (runnersSourcePage ops names).Keeps [("namespace", names.namespaceName)] :=
    Fragment.keepsNamespace (by decide : Kind.isPage .runnersSource = true)
      (by decide : Kind.runnersSource ≠ .enumJava) rfl
  have body : Kind.body .runnersSource = [.blank, .block "function_definitions"] := by rfl
  have value : (runnersSourcePage ops names).value "function_definitions" =
      String.join ((bodied ops).map fun op => (functionsOf op).map Fragment.text).flatten := by
    refine (rfl : _ = texts ((bodied ops).flatMap functionsOf)).trans ?_
    rw [texts, List.map_flatMap, List.flatMap]
  have read : pageBody? .runnersSource [("namespace", names.namespaceName)]
      (runnersSourcePage ops names).text =
      some ((runnersSourcePage ops names).linesText (Kind.body .runnersSource)) :=
    Fragment.pageBodyText (f := runnersSourcePage ops names)
      (by decide : Kind.isPage .runnersSource = true) keeps
  rw [read, body, ← value]
  simp [Fragment.linesText, Fragment.lineText, Line.blank, String.join_cons]

theorem declarationsMatchDefinitions {ops : Operations} {terminals : Terminals} {names : Names}
    {g : Generator} (made : Generator.make ops terminals names = .ok g) :
    (∀ op : Operation, op.category.hasBodies = false →
      bodies op = .error (.noBodies op.name.text op.category)) ∧
    (∀ op : Operation, op.category.hasBodies = true → ∃ parameters functions,
      ((runnerText op).declared runStart).mapM overrideParameters? = some parameters ∧
      bodies op = .ok functions ∧ List.Forall₂ (Defines op.runnerName) parameters functions) ∧
    ∃ header source classes members written runs,
      g.artifact .runnersHeader = .ok header ∧
      readClasses .runnersHeader names header = some classes ∧
      classes = ops.entries.map runnerText ∧
      (∀ op ∈ ops.entries, classes.filter (fun c => c.name = op.runnerName) = [runnerText op] ∧
        DeclaresRunner op (runnerText op)) ∧
      g.artifact .runnersSource = .ok source ∧
      (bodied ops).mapM bodies = .ok written ∧
      pageBody? .runnersSource [("namespace", names.namespaceName)] source =
        some ("\n" ++ String.join written.flatten) ∧
      readFunctions .runnersSource names source = some members ∧
      declaredRuns classes = some runs ∧ definedRuns members = some runs ∧ runs.Nodup := by
  obtain ⟨rfl, rfl, rfl⟩ := Generator.madeOf made
  refine ⟨fun op => bodiesRefused, fun op has => ?_, ?_⟩
  · obtain ⟨payload, found⟩ := Option.isSome_iff_exists.mp ((payloadIffBodies op).mpr has)
    exact ⟨_, _, membersDeclared op, bodiesText has, functionsDefine op found⟩
  · exact ⟨_, _, _, _, _, _, g.artifactText .runnersHeader, readRunners g.operations g.names, rfl,
      fun op member => ⟨runnerClassOnly member, declaresRunner op⟩,
      g.artifactText .runnersSource, bodiesEach g.operations, functionSection g.operations g.names,
      readRunnerFunctions g.operations g.names, allDeclared g.operations.entries,
      allDefined g.operations.entries, runsDistinct g.operations⟩

theorem smallGeneratorDefines :
    Generator.make smallCatalog .reference .standard = .ok smallGenerator ∧
      ∃ header classes runs,
        smallGenerator.artifact .runnersHeader = .ok header ∧
        readClasses .runnersHeader .standard header = some classes ∧
        declaredRuns classes = some runs ∧ runs.Nodup ∧
        runs.map Prod.fst = ["PLUSRunner", "PLUSRunner", "PLUSRunner", "COSRunner", "COSRunner",
          "COSRunner"] := by
  obtain ⟨_, _, header, _, classes, _, _, runs, written, read, rfl, _, _, _, _, _, declared, _,
    distinct⟩ := declarationsMatchDefinitions smallGeneratorMade
  refine ⟨smallGeneratorMade, header, _, runs, written, read, declared, distinct, ?_⟩
  rw [← Option.some.inj ((allDeclared _).symm.trans declared)]
  decide

end DoubleDispatch.Emit
