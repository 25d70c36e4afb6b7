import DoubleDispatch.Proofs.Catalog.Operations
import DoubleDispatch.Proofs.Emit.Holders
import DoubleDispatch.Proofs.Emit.RunnerTexts

/-! The data holders, read back from their header: a class for every operation that is not external,
in the order of the catalogue, with one constructor among its members. -/
namespace DoubleDispatch.Emit
open Catalog (Category Operation Operations)
open Template (Fragment Line Kind pageLines? region singleChars)
open Template.Fragment (linedSlots textsLined)
open Text (Single identifierPart stopsEmpty blocks Holds Indented indentedChars ClassText readClass
  readDerivedClass)

theorem holderBaseSingle (arity : Category.Arity) : Single (holderBase arity) := by
  cases arity <;> exact singleChars rfl

theorem holderParametersSingle (arity : Category.Arity) : Single (holderParameters arity) := by
  cases arity <;> exact singleChars rfl

def constructorLine (op : Operation) : String :=
  "    " ++ (op.name.text ++ ("(" ++ (holderParameters op.arity ++ ");")))

def conversionLine (op : Operation) : String :=
  "    virtual const " ++ (op.name.text ++ ("* as" ++ (op.name.text ++ "() const override;")))

def holderText (op : Operation) : ClassText :=
  ⟨op.name.text, some (holderBase op.arity),
    ["  public:", constructorLine op, "    virtual OGNumeric* copy() const override;",
     conversionLine op, "    virtual ExprType_t getType() const override;"]⟩

def holderHead (op : Operation) : String :=
  "class " ++ (op.name.text ++ (": public " ++ holderBase op.arity))

def holderLines : List Line :=
  [.plain "  public:",
   .ended [.text "    ", .slot "nodename", .text "(", .slot "ctor_params", .text ");"],
   .plain "    virtual OGNumeric* copy() const override;",
   .ended [.text "    virtual const ", .slot "nodename", .text "* as", .slot "nodename",
     .text "() const override;"],
   .plain "    virtual ExprType_t getType() const override;"]

def holderHeadLine : Line :=
  .ended [.text "class ", .slot "nodename", .text ": public ", .slot "base"]

theorem holderKindLines :
    Kind.lines .expressionClass = region holderHeadLine holderLines r"};" ++ [.blank] := by
  rfl

theorem holderMembers (op : Operation) :
    (expressionClass op).linesOf holderLines = (holderText op).members := by
  have constructor : (expressionClass op).lineOf (.ended [.text "    ", .slot "nodename",
      .text "(", .slot "ctor_params", .text ");"]) = [constructorLine op] :=
    Fragment.lineSpelled _ _
  have conversion : (expressionClass op).lineOf (.ended [.text "    virtual const ",
      .slot "nodename", .text "* as", .slot "nodename", .text "() const override;"]) =
      [conversionLine op] := Fragment.lineSpelled _ _
  rw [holderLines, Fragment.linesOfCons, Fragment.linesOfCons, Fragment.linesOfCons,
    Fragment.linesOfCons, Fragment.linesOfSingle, constructor, conversion, Fragment.lineOfPlain,
    Fragment.lineOfPlain, Fragment.lineOfPlain]
  rfl

theorem holderLined (op : Operation) : (expressionClass op).Lined :=
  linedSlots rfl rfl (by
    simp [expressionClass, Fragment.set, Fragment.of, op.name.single, holderBaseSingle,
      holderParametersSingle])

theorem holderIndented (op : Operation) : ∀ l ∈ (holderText op).members, Indented l := by
  simp only [holderText, List.forall_mem_cons]
  exact ⟨indentedChars _, (indentedChars _).append _, indentedChars _, (indentedChars _).append _,
    indentedChars _, List.forall_mem_nil _⟩

theorem holderHolds (op : Operation) :
    Holds (expressionClass op).rendered [⟨holderHead op, (holderText op).members⟩] := by
  have titled : (expressionClass op).lineOf holderHeadLine = [holderHead op] :=
    Fragment.lineSpelled _ _
  exact (expressionClass op).blockHolds holderKindLines titled (Text.startsNot (by decide) _ _)
    (by decide) (holderMembers op) (holderIndented op)

theorem readHolderHead (op : Operation) :
    readClass ⟨holderHead op, (holderText op).members⟩ = some (holderText op) := by
  have baseParts : ∀ c ∈ (holderBase op.arity).toList, identifierPart c = true := by
    cases op.arity <;> exact List.all_eq_true.mp (by decide)
  have read := readDerivedClass (Text.identifierParts op.name.valid) baseParts stopsEmpty
    (holderText op).members
  rwa [String.append_empty (s := holderBase op.arity)] at read

theorem holderNamesDistinct (ops : Operations) :
    ((holders ops).map fun op => op.name.text).Nodup := by
  have names : (ops.entries.map fun op => op.name.text).Nodup :=
    ops.distinctBy fun op => by simp [Operation.identifiers]
  exact names.sublist (List.filter_sublist.map _)

section
variable (ops : Operations) (names : Names)

theorem holdersLined : ∀ f ∈ (holders ops).map expressionClass, f.Lined :=
  List.forall_mem_map.mpr fun op _ => holderLined op

theorem expressionHeaderTidy : (expressionHeaderPage ops names).Tidy :=
  ((Fragment.tidyOf .expressionHeader).setOption rfl).setBlock
    (by decide : "class_definitions" ∈ Kind.blocks .expressionHeader)
    (textsLined (holdersLined ops)).1

theorem holderBlocks :
    blocks ((expressionHeaderPage ops names).linesOf (Kind.body .expressionHeader)) =
      (holders ops).map fun op => ⟨holderHead op, (holderText op).members⟩ := by
  have body : Kind.body .expressionHeader = [.blank, .block "class_definitions"] := by rfl
  rw [body]
  exact classBlocks rfl (holdersLined ops) fun op _ => holderHolds op

theorem readHolders :
    readClasses .expressionHeader names (expressionHeaderPage ops names).text =
      some ((holders ops).map holderText) := by
  have page : pageLines? .expressionHeader [("namespace", names.namespaceName)]
      (expressionHeaderPage ops names).text =
      some ((expressionHeaderPage ops names).linesOf (Kind.body .expressionHeader)) :=
    (expressionHeaderTidy ops names).sourceLines rfl
      (by decide : Kind.isSource .expressionHeader = true) rfl
  have classes := Outcome.mapMSome fun op (_ : op ∈ holders ops) => readHolderHead op
  simp only [readClasses, page, Option.bind_eq_bind, Option.bind_some, holderBlocks, classes]

end
end DoubleDispatch.Emit
