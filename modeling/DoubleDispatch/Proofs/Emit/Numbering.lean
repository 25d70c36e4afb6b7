import DoubleDispatch.Proofs.Document
import DoubleDispatch.Proofs.Emit.OperandCounts
import DoubleDispatch.Proofs.Emit.ReadBack

/-! What a number does. The header of the enumeration gives every label its value; with these values
the number of an operation is dispatched to the runner of that operation and constructs a node of
its class, and any other number ends in the defaults. -/
namespace DoubleDispatch.Emit
open Catalog (Operation Operations Terminals smallCatalog)
open Text (Statement Meaning Unlabelled runAll runAllAppend runAllSingle runActs switchSelects
  switchThrows table LabelsOnce onceOfNone tableOnce actsOnce statementsOf Call readCall)

/- Labels have the values of the enumeration, and one subject has the given number. -/
def numbering (values : List (String × Nat)) (subject : String) (v : Int) :
    Meaning (Option Int) where
  subject := fun other => if other = subject then some v else none
  label := fun name => (values.lookup name).map Int.ofNat

theorem numberedSubject (values : List (String × Nat)) (subject : String) (v : Int) :
    (numbering values subject v).subject subject = some v :=
  if_pos rfl

/- The values of the enumeration, as the catalogue numbers them. -/
def ordinals (ops : Operations) : List (String × Nat) :=
  ops.entries.zipIdx.map fun entry => (entry.1.enumName.text, entry.2)

section
variable {ops : Operations} {op : Operation} {i : Nat} {v : Int}

theorem enumNamesDistinct (ops : Operations) :
    (ops.entries.map fun op => op.enumName.text).Nodup :=
  ops.distinctBy fun op => by simp [Operation.identifiers]

theorem numberedLabel (subject : String) (v : Int) (found : ops.entries[i]? = some op) :
    (numbering (ordinals ops) subject v).label op.enumName.text = some (i : Int) := by
  have names : (ordinals ops).map Prod.fst = ops.entries.map fun op => op.enumName.text := by
    have entries := congrArg (List.map fun op => op.enumName.text)
      (List.zipIdx_map_fst 0 ops.entries)
    rw [ordinals, List.map_map, ← entries, List.map_map]
    rfl
  have member : (op.enumName.text, i) ∈ ordinals ops :=
    List.mem_map.mpr ⟨(op, i), List.mem_zipIdx_iff_getElem?.mpr found, rfl⟩
  have value := (Document.lookupIff (names ▸ enumNamesDistinct ops)).mpr member
  simp only [numbering, value, Option.map_some]
  rfl

/- Where the number is the position of an operation, its label is the only one to be entered. -/
theorem ordinalOnly (subject : String) (v : Int) (found : ops.entries[i]? = some op) :
    ∀ other ∈ ops.entries, (numbering (ordinals ops) subject v).label other.enumName.text =
      (numbering (ordinals ops) subject v).label op.enumName.text → other = op := by
  intro other member same
  obtain ⟨j, place⟩ := List.mem_iff_getElem?.mp member
  rw [numberedLabel subject v place, numberedLabel subject v found, Option.some.injEq,
    Int.ofNat_inj] at same
  subst same
  exact Option.some.inj (place.symm.trans found)

theorem ordinalUnknown {subject : String} (unknown : ∀ i < ops.size, v ≠ i) :
    ∀ op ∈ ops.entries, (numbering (ordinals ops) subject v).label op.enumName.text ≠
      (numbering (ordinals ops) subject v).subject subject := by
  intro op member same
  obtain ⟨i, place⟩ := List.mem_iff_getElem?.mp member
  rw [numberedLabel subject v place, numberedSubject, Option.some.injEq] at same
  exact unknown i (List.getElem?_eq_some_iff.mp place).1 same.symm

theorem leaveUnlabelled (act : String) : Unlabelled [.act act, .leave] := by
  simp [Unlabelled, Statement.label?]

theorem creationUnlabelled (act value : String) : Unlabelled [.act act, .returns value] := by
  simp [Unlabelled, Statement.label?]

section
variable {block : Operation → List Statement} {subject error : String}

theorem ordinalSelects (unlabelled : ∀ op, Unlabelled (block op))
    (found : ops.entries[i]? = some op)
    (stops : (runAll (numbering (ordinals ops) subject i) (block op)).ending ≠ .next) :
    (Statement.switch subject (table (fun op => op.enumName.text) block error ops.entries)).run
        (numbering (ordinals ops) subject i) =
      (runAll (numbering (ordinals ops) subject i) (block op)).outside := by
  have chosen := (numberedLabel subject i found).trans
    (numberedSubject (ordinals ops) subject i).symm
  exact switchSelects error (fun op _ => unlabelled op) (List.mem_of_getElem? found) chosen
    (ordinalOnly subject i found) stops

theorem ordinalThrows (unlabelled : ∀ op, Unlabelled (block op))
    (unknown : ∀ i < ops.size, v ≠ i) :
    (Statement.switch subject (table (fun op => op.enumName.text) block error ops.entries)).run
      (numbering (ordinals ops) subject v) = ⟨[], .thrown error⟩ :=
  switchThrows error (fun op _ => unlabelled op) (ordinalUnknown unknown)

end

theorem dispatchSelects (found : ops.entries[i]? = some op) :
    runAll (numbering (ordinals ops) "thing->getType()" i)
      (dispatchActs.map .act ++ [dispatchSwitch ops]) = ⟨dispatchActs ++ [evalCall op], .next⟩ := by
  have block : runAll (numbering (ordinals ops) "thing->getType()" i) [.act (evalCall op), .leave] =
      ⟨[evalCall op], .broken⟩ := rfl
  rw [runAllAppend, runActs, runAllSingle, dispatchSwitch,
    ordinalSelects (fun op => leaveUnlabelled (evalCall op)) found (by simp [block]), block]
  rfl

theorem dispatchThrows (unknown : ∀ i < ops.size, v ≠ i) :
    runAll (numbering (ordinals ops) "thing->getType()" v)
      (dispatchActs.map .act ++ [dispatchSwitch ops]) =
        ⟨dispatchActs, .thrown unknownExpression⟩ := by
  rw [runAllAppend, runActs, runAllSingle, dispatchSwitch,
    ordinalThrows (fun op => leaveUnlabelled (evalCall op)) unknown]
  rfl

theorem creationSelects (found : ops.entries[i]? = some op) :
    runAll (numbering (ordinals ops) "type" i) [creationSwitch ops] =
      ⟨[arityCheck op], .returned (creation op)⟩ := by
  have block : runAll (numbering (ordinals ops) "type" i)
      [.act (arityCheck op), .returns (creation op)] =
      ⟨[arityCheck op], .returned (creation op)⟩ := rfl
  rw [runAllSingle, creationSwitch, ordinalSelects
    (fun op => creationUnlabelled (arityCheck op) (creation op)) found (by simp [block]), block]
  rfl

theorem creationThrows (unknown : ∀ i < ops.size, v ≠ i) :
    runAll (numbering (ordinals ops) "type" v) [creationSwitch ops] =
      ⟨[], .thrown unknownCreation⟩ := by
  rw [runAllSingle, creationSwitch,
    ordinalThrows (fun op => creationUnlabelled (arityCheck op) (creation op)) unknown]

end

/- Both switches, run for whatever number the operation of an expression is given as. -/
structure Numbered (ops : Operations) (values : List (String × Nat))
    (dispatch create : List Statement) : Prop where
  once : LabelsOnce dispatch ∧ LabelsOnce create
  positions : values = ops.entries.zipIdx.map fun entry => (entry.1.enumName.text, entry.2)
  routed : ∀ (i : Nat) (op : Operation), ops.entries[i]? = some op → ∃ call,
    runAll (numbering values "thing->getType()" i) dispatch = ⟨dispatchActs ++ [call], .next⟩ ∧
    readCall call =
      some ⟨"_" ++ (op.runnerName ++ "->eval"), "reg" :: operandsOf "args->terminal" op.arity⟩
  created : ∀ (i : Nat) (op : Operation), ops.entries[i]? = some op → ∃ check value,
    runAll (numbering values "type" i) create = ⟨[check], .returned value⟩ ∧
    readCall check = some ⟨"checkArity", ["args", Decimal.text op.arity.count]⟩ ∧
    readCall value = some ⟨"new " ++ op.name.text, operandsOf "args->node" op.arity⟩
  unknown : ∀ v : Int, (∀ i < ops.size, v ≠ i) →
    runAll (numbering values "thing->getType()" v) dispatch =
      ⟨dispatchActs, .thrown unknownExpression⟩ ∧
    runAll (numbering values "type" v) create = ⟨[], .thrown unknownCreation⟩

theorem operationsNumbered (ops : Operations) : Numbered ops (ordinals ops)
    (dispatchActs.map .act ++ [dispatchSwitch ops]) [creationSwitch ops] where
  once :=
    ⟨(actsOnce dispatchActs).append (tableOnce _ _ _ (fun _ _ => leaveUnlabelled _)
       (enumNamesDistinct ops) (fun _ _ => onceOfNone rfl) _),
     tableOnce _ _ _ (fun _ _ => creationUnlabelled _ _) (enumNamesDistinct ops)
       (fun _ _ => onceOfNone rfl) _⟩
  positions := rfl
  routed := fun _ op found => ⟨_, dispatchSelects found, evalCallReads op⟩
  created := fun _ op found => ⟨_, _, creationSelects found, arityCheckReads op, creationReads op⟩
  unknown := fun _ unknown => ⟨dispatchThrows unknown, creationThrows unknown⟩

theorem dispatcherClassOnly (ops : Operations) (terminals : Terminals) :
    [baseText terminals .one, baseText terminals .two, dispatcherText ops].filter
      (fun c => c.name = "Dispatcher") = [dispatcherText ops] := by
  rfl

theorem numbersRouted {ops : Operations} {terminals : Terminals} {names : Names} {g : Generator}
    (made : Generator.make ops terminals names = .ok g) :
    ∃ tables bases functions makers runners holders dispatcher dispatch create setUp tearDown acts,
      g.Reads .enumHeader (readHeader names) tables ∧
      g.Reads .dispatchHeader (readClasses .dispatchHeader names) bases ∧
      g.Reads .dispatchSource (readFunctions .dispatchSource names) functions ∧
      g.Reads .constructionSource (readFunctions .constructionSource names) makers ∧
      g.Reads .runnersHeader (readClasses .runnersHeader names) runners ∧
      g.Reads .expressionHeader (readClasses .expressionHeader names) holders ∧
      statementsOf "Dispatcher::dispatch" functions = some dispatch ∧
      statementsOf "createExpression" makers = some create ∧
      statementsOf "Dispatcher::Dispatcher" functions = some (setUp.map .act) ∧
      statementsOf "Dispatcher::~Dispatcher" functions = some (tearDown.map .act) ∧
      actsIn functions = some acts ∧
      bases.filter (fun c => c.name = "Dispatcher") = [dispatcher] ∧
      Numbered ops tables.values dispatch create ∧
      ∀ op ∈ ops.entries,
        Owned op dispatcher setUp tearDown acts ∧ Fits op runners bases holders := by
  obtain ⟨rfl, rfl, rfl⟩ := Generator.madeOf made
  refine ⟨_, _, _, _, _, _, _, _, _, _, _, _,
    g.readsOf .enumHeader (Enumeration.readHeaderText (Enumeration.named g.operations) g.names),
    g.readsOf .dispatchHeader (readBases g.operations g.terminals g.names),
    g.readsOf .dispatchSource (readDispatch g.operations g.terminals g.names),
    g.readsOf .constructionSource (readConstruction g.operations g.terminals g.names),
    g.readsOf .runnersHeader (readRunners g.operations g.names),
    g.readsOf .expressionHeader (readHolders g.operations g.names),
    dispatchStatements g.operations g.terminals g.names,
    creationStatements g.operations g.terminals g.names,
    constructorStatements g.operations g.terminals g.names,
    destructorStatements g.operations g.terminals g.names,
    sourceActs g.operations g.terminals g.names, dispatcherClassOnly g.operations g.terminals,
    ?_, fun op member => ⟨runnerOwned member, operationFits g.terminals member⟩⟩
  have values : (Enumeration.ofOperations g.operations).entries.map
      (fun entry => (entry.enumName, entry.ordinal)) = ordinals g.operations := List.map_map ..
  have numbered := operationsNumbered g.operations
  rwa [← values] at numbered

theorem smallGeneratorNumbers :
    Generator.make smallCatalog .reference .standard = .ok smallGenerator ∧
    ∃ tables functions makers dispatch create,
      smallGenerator.Reads .enumHeader (readHeader .standard) tables ∧
      smallGenerator.Reads .dispatchSource (readFunctions .dispatchSource .standard) functions ∧
      smallGenerator.Reads .constructionSource (readFunctions .constructionSource .standard)
        makers ∧
      statementsOf "Dispatcher::dispatch" functions = some dispatch ∧
      statementsOf "createExpression" makers = some create ∧
      (∃ call, runAll (numbering tables.values "thing->getType()" 1) dispatch =
          ⟨dispatchActs ++ [call], .next⟩ ∧
        readCall call = some ⟨"_COSRunner->eval", ["reg", "args->terminal(0)"]⟩) ∧
      (∃ check value, runAll (numbering tables.values "type" 0) create =
          ⟨[check], .returned value⟩ ∧
        readCall value = some ⟨"new PLUS", ["args->node(0)", "args->node(1)"]⟩) ∧
      runAll (numbering tables.values "type" (-1)) create = ⟨[], .thrown unknownCreation⟩ := by
  obtain ⟨tables, _, functions, makers, _, _, _, dispatch, create, _, _, _, header, _, source,
    construction, _, _, dispatched, created, _, _, _, _, numbered, _⟩ :=
      numbersRouted smallGeneratorMade
  obtain ⟨call, ran, called⟩ := numbered.routed 1 _ rfl
  obtain ⟨check, value, made, _, makes⟩ := numbered.created 0 _ rfl
  refine ⟨smallGeneratorMade, tables, functions, makers, dispatch, create, header, source,
    construction, dispatched, created, ⟨call, ran, ?_⟩, ⟨check, value, made, ?_⟩,
    (numbered.unknown (-1) (by omega)).2⟩
  · have front : "_" ++ ("COSRunner" ++ "->eval") = "_COSRunner->eval" := by decide
    exact called.trans (congrArg₂ (fun front operands => some (Call.mk front ("reg" :: operands)))
      front (operandsOfArity _).1)
  · have front : "new " ++ "PLUS" = "new PLUS" := by decide
    exact makes.trans (congrArg₂ (fun front operands => some (Call.mk front operands)) front
      (operandsOfArity _).2)

end DoubleDispatch.Emit
