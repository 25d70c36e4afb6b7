import DoubleDispatch.Proofs.Emit.HolderFunctions
import DoubleDispatch.Proofs.Emit.ReadBack
import DoubleDispatch.Proofs.Emit.Supply

/-! The data holders are spread over five texts, each of them written from the catalogue on its own.
Read one by one, they tell the same of every holder; and taken together they decide what a
conversion does: it leads from a node to itself or nowhere. -/
namespace DoubleDispatch.Emit
open Catalog (Category Operation Operations smallCatalog)
open Text (identifierPart apart dropFront? dropFrontSome dropFrontNone dropFrontAppend span
  spanAppend stopsAt Block ClassText overridden? Call readCall lastWord statementsOf filterMapped
  forwarded? Conversion conversion? Member member? Constructor constructor?)

structure HolderPages where
  expressions : String
  functions : String
  numeric : String
  conversions : String
  enumeration : String

def holderPages (g : Generator) : Except Error HolderPages := do
  let expressions ← g.artifact .expressionHeader
  let functions ← g.artifact .expressionSource
  let numeric ← g.artifact .numericHeader
  let conversions ← g.artifact .numericSource
  let enumeration ← g.artifact .enumHeader
  return ⟨expressions, functions, numeric, conversions, enumeration⟩

/- What the five texts say. -/
structure HolderFiles where
  classes : List ClassText
  members : List Member
  definitions : List Constructor
  functions : List Block
  announced : List String
  numeric : ClassText
  defaults : List Member
  defaultFunctions : List Block
  enumerators : List (String × Nat)

def readHolderFiles (names : Names) (pages : HolderPages) : Option HolderFiles := do
  let classes ← readClasses .expressionHeader names pages.expressions
  let members ← readEach member? .expressionSource names pages.functions
  let definitions ← readEach constructor? .expressionSource names pages.functions
  let functions ← readFunctions .expressionSource names pages.functions
  let announced ← readEach forwarded? .numericHeader names pages.numeric
  let [numeric] ← readClasses .numericHeader names pages.numeric | none
  let defaults ← readEach member? .numericSource names pages.conversions
  let defaultFunctions ← readFunctions .numericSource names pages.conversions
  let tables ← readHeader names pages.enumeration
  some ⟨classes, members, definitions, functions, announced, numeric, defaults, defaultFunctions,
    tables.values⟩

/- A class, and the functions that its source defines. -/
structure Level where
  declared : ClassText
  functions : List Block

namespace Level

def declares (level : Level) (name : String) : Bool :=
  (level.declared.members.filterMap conversion?).any fun conversion => conversion.name == name

def returned? (level : Level) (name : String) : Option String :=
  match statementsOf (level.declared.name ++ ("::" ++ name)) level.functions with
  | some [.returns value] => some value
  | _ => none

end Level

/- From the class of the node up to the base of all: the first that declares the conversion decides
what it returns. -/
def converted (chain : List Level) (name : String) : Option String :=
  (chain.find? fun level => level.declares name).bind fun level => level.returned? name

theorem convertedHere {level : Level} {name : String} (own : level.declares name = true)
    (above : List Level) : converted (level :: above) name = level.returned? name := by
  have found : (level :: above).find? (fun level => level.declares name) = some level :=
    List.find?_cons_of_pos own
  rw [converted, found, Option.bind_some]

theorem convertedAbove {below : List Level} {name : String}
    (silent : ∀ level ∈ below, level.declares name = false) (above : List Level) :
    converted (below ++ above) name = converted above name := by
  have none : below.find? (fun level => level.declares name) = none :=
    List.find?_eq_none.mpr fun level member => by simp [silent level member]
  rw [converted, List.find?_append, none, Option.none_or, converted]

/- All five texts list these operations, in this order, and none of them twice. -/
structure HolderFiles.Lists (files : HolderFiles) (entries : List Operation) : Prop where
  classes : files.classes.map ClassText.name = entries.map fun op => op.name.text
  members : files.members = entries.flatMap fun op =>
    [⟨op.name.text, op.name.text⟩, ⟨op.name.text, "copy"⟩, ⟨op.name.text, "as" ++ op.name.text⟩,
     ⟨op.name.text, "getType"⟩]
  definitions : files.definitions.map Constructor.owner = entries.map fun op => op.name.text
  announced : files.announced = entries.map fun op => op.name.text
  conversions : files.numeric.members.filterMap conversion? =
    entries.map fun op => ⟨op.name.text, "as" ++ op.name.text⟩
  defaults : files.defaults = ⟨"OGNumeric", "~OGNumeric"⟩ ::
    entries.map fun op => ⟨"OGNumeric", "as" ++ op.name.text⟩
  once : (entries.map fun op => op.name.text).Nodup

/- The name behind the type of a parameter. -/
def parameterName (parameter : String) : String := lastWord parameter.toList

/- What is said of one holder in the header and in the source. -/
structure HolderFiles.Agree (files : HolderFiles) (op : Operation) (holder : ClassText)
    (declared : Call) (defined : Constructor) (copy : String) : Prop where
  one : files.classes.filter (fun c => c.name = op.name.text) = [holder]
  oneDeclared : constructors holder = [declared]
  oneDefined : files.definitions.filter (fun c => c.owner = op.name.text) = [defined]
  base : holder.base = some defined.base
  parameters : declared.operands = defined.parameters
  count : defined.parameters.length = op.arity.count
  passed : defined.arguments = defined.parameters.map parameterName
  copies : statementsOf (op.name.text ++ ("::" ++ "copy")) files.functions = some [.returns copy]
  children : readCall copy = some ⟨"new " ++ op.name.text,
    (List.range defined.parameters.length).map copiedChild⟩
  overrides : holder.members.filterMap conversion? = [⟨op.name.text, "as" ++ op.name.text⟩] ∧
    ∀ line ∈ holder.members, ∀ conversion, conversion? line = some conversion →
      ∃ entry, overridden? line = some entry ∧
        files.numeric.members.filter (fun l => conversion? l = some conversion) = [entry]
  type : statementsOf (op.name.text ++ ("::" ++ "getType")) files.functions =
    some [.returns op.enumName.text]
  enumerator : op.enumName.text ∈ files.enumerators.map Prod.fst

/- What is read of a catalogue. -/
def holderFilesOf (ops : Operations) : HolderFiles where
  classes := (holders ops).map holderText
  members := (holders ops).flatMap holderMembersOf
  definitions := (holders ops).map definedBy
  functions := (holders ops).flatMap holderFunctions
  announced := (holders ops).map fun op => op.name.text
  numeric := numericText ops
  defaults := ⟨"OGNumeric", "~OGNumeric"⟩ ::
    (holders ops).map fun op => ⟨"OGNumeric", (conversionTo op).name⟩
  defaultFunctions := (holders ops).map noConversion
  enumerators := ops.entries.zipIdx.map fun entry => (entry.1.enumName.text, entry.2)

section
variable (ops : Operations) (names : Names)

/- The terminals that the generator was made with play no part. -/
theorem holderPagesRead : ∃ pages,
    (∀ terminals g, Generator.make ops terminals names = .ok g → holderPages g = .ok pages) ∧
      readHolderFiles names pages = some (holderFilesOf ops) := by
  have enumerators : (Enumeration.ofOperations ops).entries.map
      (fun entry => (entry.enumName, entry.ordinal)) =
      ops.entries.zipIdx.map fun entry => (entry.1.enumName.text, entry.2) := by
    rw [Enumeration.ofOperations, List.map_map]
    rfl
  refine ⟨⟨(expressionHeaderPage ops names).text, (expressionSourcePage ops names).text,
    (numericHeaderPage ops names).text, (numericSourcePage ops names).text,
    ((Enumeration.ofOperations ops).headerPage names).text⟩, ?_, ?_⟩
  · intro terminals g made
    obtain ⟨rfl, _, rfl⟩ := Generator.madeOf made
    simp only [holderPages, g.artifactText]
    rfl
  · simp only [readHolderFiles, readHolders, readHolderMembers, readConstructors,
      readHolderFunctions, readAnnounced, readNumeric, readDefaults, readNoConversions,
      Enumeration.readHeaderText (Enumeration.named ops) names, enumerators, Option.bind_eq_bind,
      Option.bind_some]
    rfl

theorem holderFilesList : (holderFilesOf ops).Lists (holders ops) where
  classes := by
    rw [holderFilesOf, List.map_map]
    rfl
  members := rfl
  definitions := by
    rw [holderFilesOf, List.map_map]
    rfl
  announced := rfl
  conversions := numericConversions ops
  defaults := rfl
  once := holderNamesDistinct ops

end

section
variable {ops : Operations} {op : Operation}

/- Two declarations of the base class never lead to the same holder. -/
theorem declaredOnly (member : op ∈ holders ops) :
    (numericText ops).members.filter (fun l => conversion? l = some (conversionTo op)) =
      [declaredConversion op] := by
  have fixed : ∀ l ∈ ["  public:", "    virtual ~OGNumeric();",
      "    virtual OGNumeric* copy() const = 0;", "    virtual ExprType_t getType() const = 0;"],
      conversion? l = none := by decide
  have distinct : ((holders ops).map fun op => conversion? (declaredConversion op)).Nodup := by
    refine List.Nodup.of_map (fun c : Option Conversion => (c.map Conversion.target).getD "") ?_
    have names : ((holders ops).map fun op => conversion? (declaredConversion op)).map
        (fun c : Option Conversion => (c.map Conversion.target).getD "") =
        (holders ops).map fun op => op.name.text := by
      rw [List.map_map]
      refine List.map_congr_left fun op _ => ?_
      rw [Function.comp_apply, (conversionOfBoth op).1]
      rfl
    rw [names]
    exact holderNamesDistinct ops
  have only := filterMapped conversion? declaredConversion distinct member
  rw [(conversionOfBoth op).1] at only
  rw [numericText, List.filter_append, only, filterNone fun l here => by simp [fixed l here],
    List.nil_append]

theorem overriddenConversion (op : Operation) :
    overridden? (conversionLine op) = some (declaredConversion op) := by
  have ending : overridden? "() const override;" = some "() const;" := by decide
  exact Text.overriddenAfter _ (Text.overriddenAfter _ (Text.overriddenAfter _
    (Text.overriddenAfter _ ending)))

/- A constructor is declared without a word in front of it. -/
theorem constructorNoConversion (op : Operation) : conversion? (constructorLine op) = none := by
  rw [conversion?, constructorUnindented]
  cases found : dropFront? "virtual const "
      (op.name.text ++ ("(" ++ (holderParameters op.arity ++ ");"))) with
  | none => rfl
  | some rest =>
    have front : "virtual const " = "virtual" ++ " const " := by decide
    have word : "virtual".toList.all identifierPart = true := by decide
    have same := congrArg (span identifierPart) (dropFrontSome found)
    rw [front, String.append_assoc,
      spanAppend (Text.identifierParts op.name.valid) (stopsAt rfl _ _),
      spanAppend (List.all_eq_true.mp word) (stopsAt rfl _ _), Prod.mk.injEq] at same
    have other := dropFrontNone (by decide : apart " const " "(" = true)
      (holderParameters op.arity ++ ");")
    rw [same.2, dropFrontAppend] at other
    contradiction

theorem holderConversions (op : Operation) :
    (holderText op).members.filterMap conversion? = [conversionTo op] ∧
    ∀ line ∈ (holderText op).members, ∀ conversion, conversion? line = some conversion →
      line = conversionLine op ∧ conversion = conversionTo op := by
  have constructor := constructorNoConversion op
  have conversion := (conversionOfBoth op).2
  have fixed : conversion? "  public:" = none ∧
      conversion? "    virtual OGNumeric* copy() const override;" = none ∧
      conversion? "    virtual ExprType_t getType() const override;" = none := by decide
  constructor
  · simp [holderText, constructor, conversion, fixed]
  · simp [holderText, constructor, conversion, fixed]

theorem parametersNamed (arity : Category.Arity) :
    holderArgumentNames arity = (holderOperands arity).map parameterName ∧
    (holderOperands arity).length = arity.count := by
  cases arity <;> decide

theorem holderAgrees (member : op ∈ holders ops) :
    (holderFilesOf ops).Agree op (holderText op) ⟨op.name.text, holderOperands op.arity⟩
      (definedBy op) (copied op) := by
  obtain ⟨copies, _, type⟩ := holderStatements member
  obtain ⟨passed, count⟩ := parametersNamed op.arity
  obtain ⟨own, onlyOwn⟩ := holderConversions op
  have children := copiedReads op
  rw [← count] at children
  refine ⟨holderClassOnly member, holderConstructors op, ?_, rfl, rfl, count, passed, copies,
    children, ⟨own, ?_⟩, type, ?_⟩
  · exact filterMapped Constructor.owner definedBy (holderNamesDistinct ops) member
  · intro line here conversion found
    obtain ⟨rfl, rfl⟩ := onlyOwn line here conversion found
    exact ⟨_, overriddenConversion op, declaredOnly member⟩
  · have every : (holderFilesOf ops).enumerators.map Prod.fst =
        ops.entries.map fun op => op.enumName.text := by
      have firsts := congrArg (List.map fun op : Operation => op.enumName.text)
        (List.zipIdx_map_fst 0 ops.entries)
      rw [List.map_map] at firsts
      rw [holderFilesOf, List.map_map]
      exact firsts
    rw [every]
    exact List.mem_map_of_mem (List.mem_of_mem_filter member)

end

section
variable {ops : Operations} {a b : Operation}

theorem Level.declaresOne {level : Level} {name : String} {conversion : Conversion}
    (only : level.declared.members.filterMap conversion? = [conversion]) :
    level.declares name = (conversion.name == name) := by
  rw [declares, only, List.any_cons, List.any_nil, Bool.or_false]

theorem Level.baseDeclares (functions : List Block) (member : b ∈ holders ops) :
    (Level.mk (numericText ops) functions).declares (conversionTo b).name = true := by
  rw [declares, numericConversions]
  exact List.any_eq_true.mpr ⟨_, List.mem_map_of_mem member, beq_self_eq_true _⟩

/- The node's own class declares no conversion but its own, and the base declares all of them. -/
theorem conversionDecided {between : List Level}
    (silent : ∀ level ∈ between, level.declares (conversionTo b).name = false)
    (first : a ∈ holders ops) (second : b ∈ holders ops) :
    converted (⟨holderText a, (holderFilesOf ops).functions⟩ ::
      (between ++ [⟨numericText ops, (holderFilesOf ops).defaultFunctions⟩]))
      (conversionTo b).name = some (if a = b then "this" else "nullptr") := by
  have own : (Level.mk (holderText a) (holderFilesOf ops).functions).declares
      (conversionTo b).name = ((conversionTo a).name == (conversionTo b).name) :=
    Level.declaresOne (holderConversions a).1
  by_cases same : a = b
  · subst same
    have statements := (holderStatements first).2.1
    rw [convertedHere (own.trans (beq_self_eq_true _)), if_pos rfl, Level.returned?]
    simp only [holderText, holderFilesOf, statements]
  · have differ : ((conversionTo a).name == (conversionTo b).name) = false := by
      rw [beq_eq_false_iff_ne, conversionTo, conversionTo, ne_eq, String.append_right_inj]
      exact fun names =>
        same (List.inj_on_of_nodup_map (holderNamesDistinct ops) first second names)
    have below : ∀ level ∈ ⟨holderText a, (holderFilesOf ops).functions⟩ :: between,
        level.declares (conversionTo b).name = false :=
      List.forall_mem_cons.mpr ⟨own.trans differ, silent⟩
    have base := Level.baseDeclares (holderFilesOf ops).defaultFunctions second
    have statements := noConversionReturns second
    rw [← List.cons_append, convertedAbove below, convertedHere base, if_neg same, Level.returned?]
    simp only [numericText, holderFilesOf, statements]

end

theorem holderFilesAgree (ops : Operations) (names : Names) :
    ∃ pages files, (∃ g, Generator.make ops .reference names = .ok g) ∧
      (∀ terminals g, Generator.make ops terminals names = .ok g → holderPages g = .ok pages) ∧
      readHolderFiles names pages = some files ∧
      files.Lists (ops.entries.filter fun op => !op.category.isExternal) ∧
      (∀ op ∈ holders ops, ∃ holder declared defined copy,
        files.Agree op holder declared defined copy) ∧
      files.enumerators = ops.entries.zipIdx.map (fun entry => (entry.1.enumName.text, entry.2)) ∧
      ∀ between : List Level,
        (∀ level ∈ between, ∀ op ∈ holders ops, level.declares ("as" ++ op.name.text) = false) →
        ∀ a ∈ holders ops, ∀ b ∈ holders ops, ∃ holder,
          files.classes.filter (fun c => c.name = a.name.text) = [holder] ∧
          converted (⟨holder, files.functions⟩ ::
            (between ++ [⟨files.numeric, files.defaultFunctions⟩])) ("as" ++ b.name.text) =
              some (if a = b then "this" else "nullptr") := by
  obtain ⟨pages, written, read⟩ := holderPagesRead ops names
  have made := Generator.makeAccepted names (referenceAccepted ops)
  refine ⟨pages, holderFilesOf ops, ⟨_, made⟩, written, read, holderFilesList ops,
    fun op member => ⟨_, _, _, _, holderAgrees member⟩, rfl, ?_⟩
  intro between silent a first b second
  exact ⟨_, holderClassOnly first,
    conversionDecided (fun level member => silent level member b second) first second⟩

/- The classes between the holders and the base of all, as they might be written. -/
def smallBetween : List Level :=
  [⟨⟨"OGBinaryExpr", some "OGExpr",
      ["  public:", "    OGBinaryExpr(OGNumeric* arg0, OGNumeric* arg1);"]⟩, []⟩,
   ⟨⟨"OGExpr", some "OGNumeric",
      ["  public:", "    const OGNumeric* getArg(int index) const;"]⟩, []⟩]

theorem smallHoldersConvert :
    (∀ level ∈ smallBetween, ∀ op ∈ holders smallCatalog,
      level.declares ("as" ++ op.name.text) = false) ∧
    Generator.make smallCatalog .reference .standard = .ok smallGenerator ∧
    ∃ pages files plus cosine, holderPages smallGenerator = .ok pages ∧
      readHolderFiles .standard pages = some files ∧
      files.classes.filter (fun c => c.name = "PLUS") = [plus] ∧
      files.classes.filter (fun c => c.name = "COS") = [cosine] ∧
      converted (⟨plus, files.functions⟩ ::
        (smallBetween ++ [⟨files.numeric, files.defaultFunctions⟩])) "asCOS" = some "nullptr" ∧
      converted (⟨cosine, files.functions⟩ ::
        (smallBetween ++ [⟨files.numeric, files.defaultFunctions⟩])) "asCOS" = some "this" := by
  have silent : ∀ level ∈ smallBetween, ∀ op ∈ holders smallCatalog,
      level.declares ("as" ++ op.name.text) = false := by decide
  obtain ⟨pages, files, _, written, read, _, _, _, law⟩ := holderFilesAgree smallCatalog .standard
  have both : ∃ a ∈ holders smallCatalog, ∃ b ∈ holders smallCatalog,
      a.name.text = "PLUS" ∧ b.name.text = "COS" := by decide
  obtain ⟨a, first, b, second, named, other⟩ := both
  obtain ⟨plus, foundPlus, nowhere⟩ := law smallBetween silent a first b second
  obtain ⟨cosine, foundCosine, itself⟩ := law smallBetween silent b second b second
  have differ : a ≠ b := by
    rintro rfl
    exact absurd (named.symm.trans other) (by decide)
  rw [if_neg differ, other] at nowhere
  rw [if_pos rfl, other] at itself
  rw [named] at foundPlus
  rw [other] at foundCosine
  exact ⟨silent, smallGeneratorMade, pages, files, plus, cosine,
    written _ _ smallGeneratorMade, read, foundPlus, foundCosine, nowhere, itself⟩

end DoubleDispatch.Emit
