import DoubleDispatch.Proofs.Emit.HolderTexts
import DoubleDispatch.Proofs.Emit.Ownership
import DoubleDispatch.Proofs.Text.Members

/-! The conversions, read back: the data holders that the header announces, the base class with a
conversion to each of them, and the source, where no conversion leads anywhere. -/
namespace DoubleDispatch.Emit
open Catalog (Operation Operations)
open Template (Fragment Line Kind pageLines? region)
open Template.Fragment (linedSlots textsLined renderedEach)
open Text (identifierPart stopsBefore Block blocks Holds Indented indentedChars
  holdsLine holdsLines startsNot ClassText readClass readBareClass readsReturn statementsOf
  functionName filterMapped forwarded? forwardedOf forwardedNone Conversion conversion?
  conversionOf member? memberNone methodHead methodMember methodFunction writtenHolds
  writtenMember spanAppend stopsAt Reads)

/- What some of the lines of a page say, in their order. -/
def readEach {α : Type} (read : String → Option α) (kind : Kind) (names : Names) (text : String) :
    Option (List α) :=
  (pageLines? kind [("namespace", names.namespaceName)] text).map (·.filterMap read)

section
variable {α : Type} {read : String → Option α}

theorem fixedFilterMap (f : Fragment) {ls : List Line}
    (plain : ls.all (Line.plainly (fun line => (read line).isNone)) = true) :
    (f.linesOf ls).filterMap read = [] :=
  List.filterMap_eq_nil_iff.mpr fun l member =>
    Option.isNone_iff_eq_none.mp (f.plainLines plain l member)

end

/- A block of a page whose lines are those of a function. -/
theorem regionWritten {f : Fragment} {head : Line} {inner : List Line} {b : Block}
    (titled : f.lineOf head = [b.head]) (inside : f.linesOf inner = b.body) :
    f.linesOf (region head inner r"}") = b.written := by
  rw [f.regionLines inner titled, inside]
  rfl

/- A conversion is called like the holder that it leads to. -/
def conversionTo (op : Operation) : Conversion := ⟨op.name.text, "as" ++ op.name.text⟩

def declaredConversion (op : Operation) : String :=
  "    virtual const " ++ (op.name.text ++ ("* as" ++ (op.name.text ++ "() const;")))

def numericText (ops : Operations) : ClassText :=
  ⟨"OGNumeric", none, ["  public:", "    virtual ~OGNumeric();",
    "    virtual OGNumeric* copy() const = 0;", "    virtual ExprType_t getType() const = 0;"] ++
      (holders ops).map declaredConversion⟩

theorem conversionParts (op : Operation) :
    ∀ c ∈ (conversionTo op).name.toList, identifierPart c = true := by
  have front : "as".toList.all identifierPart = true := by decide
  simp only [conversionTo, String.toList_append, List.forall_mem_append]
  exact ⟨List.all_eq_true.mp front, Text.identifierParts op.name.valid⟩

/- The base class and the holder declare the same conversion. -/
theorem conversionOfBoth (op : Operation) :
    conversion? (declaredConversion op) = some (conversionTo op) ∧
    conversion? (conversionLine op) = some (conversionTo op) := by
  have split : "* as" = "* " ++ "as" := by decide
  have read : ∀ last rest : String, last = rest → Text.Stops identifierPart rest →
      conversion? ("    virtual const " ++ (op.name.text ++ ("* as" ++ (op.name.text ++ last)))) =
        some (conversionTo op) := by
    rintro last _ rfl stops
    have both := conversionOf (Text.identifierParts op.name.valid) (conversionParts op) stops
    rw [split]
    simpa only [conversionTo, String.append_assoc] using both
  exact ⟨read _ _ rfl (stopsBefore rfl _), read _ _ rfl (stopsBefore rfl _)⟩

theorem numericConversions (ops : Operations) :
    (numericText ops).members.filterMap conversion? = (holders ops).map conversionTo := by
  have fixed : ["  public:", "    virtual ~OGNumeric();",
      "    virtual OGNumeric* copy() const = 0;",
      "    virtual ExprType_t getType() const = 0;"].filterMap conversion? = [] := by decide
  rw [numericText, List.filterMap_append, fixed, List.nil_append]
  exact filterMapEach (fun op => (conversionOfBoth op).1) _

theorem numericIndented (ops : Operations) : ∀ l ∈ (numericText ops).members, Indented l := by
  simp only [numericText, List.forall_mem_append, List.forall_mem_cons, List.forall_mem_map]
  exact ⟨⟨indentedChars _, indentedChars _, indentedChars _, indentedChars _,
    List.forall_mem_nil _⟩, fun op _ => (indentedChars _).append _⟩

def numericClassLines : List Line :=
  [.plain "  public:", .plain "    virtual ~OGNumeric();",
   .plain "    virtual OGNumeric* copy() const = 0;",
   .plain "    virtual ExprType_t getType() const = 0;", .block "conversions"]

def numericRegion : List Line := region (.plain "class OGNumeric") numericClassLines r"};"

theorem numericHeaderBody : Kind.body .numericHeader =
    [.blank] ++ ([.block "forward_decls"] ++ (((Kind.body .numericHeader).drop 2).take 5 ++
      (numericRegion ++ [.blank]))) := by
  rfl

section
variable (ops : Operations) (names : Names)

theorem holderDeclarationsLined : ∀ f ∈ holderDeclarations ops, f.Lined :=
  List.forall_mem_map.mpr fun op _ => linedSlots rfl rfl (by
    simp [forwardDeclaration, Fragment.set, Fragment.of, op.name.single])

theorem declaredConversionsLined : ∀ f ∈ (holders ops).map conversionDeclaration, f.Lined :=
  List.forall_mem_map.mpr fun op _ => linedSlots rfl rfl (by
    simp [conversionDeclaration, Fragment.set, Fragment.of, op.name.single])

theorem numericHeaderTidy : (numericHeaderPage ops names).Tidy :=
  (((Fragment.tidyOf .numericHeader).setOption rfl).setBlock
    (by decide : "forward_decls" ∈ Kind.blocks .numericHeader)
    (textsLined (holderDeclarationsLined ops)).1).setBlock
    (by decide : "conversions" ∈ Kind.blocks .numericHeader)
    (textsLined (declaredConversionsLined ops)).1

theorem numericHeaderLines : pageLines? .numericHeader [("namespace", names.namespaceName)]
    (numericHeaderPage ops names).text =
      some ((numericHeaderPage ops names).linesOf (Kind.body .numericHeader)) :=
  (numericHeaderTidy ops names).sourceLines rfl
    (by decide : Kind.isSource .numericHeader = true) rfl

theorem announcedLines : (numericHeaderPage ops names).linesOf [.block "forward_decls"] =
    (holders ops).map fun op => "class " ++ (op.name.text ++ ";") := by
  have rendered : ∀ op : Operation, (forwardDeclaration op.name.text).rendered =
      ["class " ++ (op.name.text ++ ";")] :=
    fun _ => Fragment.renderedSpelled _
  exact (Fragment.linesOfSingle _ _).trans
    ((textsLined (holderDeclarationsLined ops)).2.trans (renderedEach rendered))

theorem numericMembers : (numericHeaderPage ops names).linesOf numericClassLines =
    (numericText ops).members := by
  have rendered : ∀ op, (conversionDeclaration op).rendered = [declaredConversion op] :=
    fun _ => Fragment.renderedSpelled _
  have conversions : (numericHeaderPage ops names).lineOf (.block "conversions") =
      (holders ops).map declaredConversion :=
    (textsLined (declaredConversionsLined ops)).2.trans (renderedEach rendered)
  rw [numericClassLines, Fragment.linesOfCons, Fragment.linesOfCons, Fragment.linesOfCons,
    Fragment.linesOfCons, Fragment.linesOfSingle, conversions]
  rfl

theorem numericBlocks :
    blocks ((numericHeaderPage ops names).linesOf (Kind.body .numericHeader)) =
      [⟨"class OGNumeric", (numericText ops).members⟩] := by
  have margin : ∀ ls : List Line, ls.all (Line.avoids r"{") = true →
      Holds ((numericHeaderPage ops names).linesOf ls) [] :=
    fun ls => Fragment.marginHolds _
  have announced : Holds ((numericHeaderPage ops names).linesOf [.block "forward_decls"]) [] := by
    rw [announcedLines]
    exact holdsLines (List.forall_mem_map.mpr fun op _ => startsNot (by decide) _ _)
  have base : Holds ((numericHeaderPage ops names).linesOf numericRegion)
      [⟨"class OGNumeric", (numericText ops).members⟩] :=
    Fragment.regionHolds _ (Fragment.lineOfPlain _ _) (by decide) (by decide)
      (numericMembers ops names) (numericIndented ops)
  have blank := margin [.blank] (by decide)
  have comment := margin (((Kind.body .numericHeader).drop 2).take 5) (by decide)
  have whole := blank.append (announced.append (comment.append (base.append blank)))
  simp only [← Fragment.linesOfAppend] at whole
  rw [numericHeaderBody]
  exact whole.blocks

theorem readNumeric : readClasses .numericHeader names (numericHeaderPage ops names).text =
    some [numericText ops] := by
  have bare : readClass ⟨"class OGNumeric", (numericText ops).members⟩ =
      some (numericText ops) := by
    have split : "class OGNumeric" = "class " ++ "OGNumeric" := by decide
    have parts : "OGNumeric".toList.all identifierPart = true := by decide
    rw [split]
    exact readBareClass (List.all_eq_true.mp parts) _
  simp only [readClasses, numericHeaderLines, Option.bind_eq_bind, Option.bind_some, numericBlocks,
    List.mapM_cons, List.mapM_nil, bare]
  rfl

theorem readAnnounced :
    readEach forwarded? .numericHeader names (numericHeaderPage ops names).text =
      some ((holders ops).map fun op => op.name.text) := by
  have fixed : ∀ ls : List Line, ls.all (Line.plainly fun line => (forwarded? line).isNone) = true →
      ((numericHeaderPage ops names).linesOf ls).filterMap forwarded? = [] :=
    fun _ => fixedFilterMap _
  have members :
      ((numericHeaderPage ops names).linesOf numericRegion).filterMap forwarded? = [] := by
    rw [numericRegion, Fragment.regionLines _ _ (Fragment.lineOfPlain _ _), numericMembers]
    refine List.filterMap_eq_nil_iff.mpr ?_
    simp only [numericText, List.forall_mem_cons, List.forall_mem_append, List.forall_mem_map]
    exact ⟨by decide, by decide, ⟨⟨by decide, by decide, by decide, by decide,
      List.forall_mem_nil _⟩, fun op _ => forwardedNone (by decide) _⟩, by decide,
      List.forall_mem_nil _⟩
  have blank := fixed [.blank] (by decide)
  have comment := fixed (((Kind.body .numericHeader).drop 2).take 5) (by decide)
  have announced := filterMapEach (fun op : Operation => forwardedOf op.name.text) (holders ops)
  rw [readEach, numericHeaderLines, Option.map_some, numericHeaderBody]
  simp only [Fragment.linesOfAppend, List.filterMap_append, blank, announcedLines, announced,
    comment, members, List.nil_append, List.append_nil]

end

/- The base class of all nodes defines every conversion, and none of them leads to a node. -/
def noConversion (op : Operation) : Block :=
  ⟨methodHead "OGNumeric" (conversionTo op).name, ["  return nullptr;"]⟩

def noConversionLines (op : Operation) : List String :=
  ["const " ++ (op.name.text ++ "*")] ++ ((noConversion op).written ++ [""])

theorem numericParts : ∀ c ∈ "OGNumeric".toList, identifierPart c = true := by
  have all : "OGNumeric".toList.all identifierPart = true := by decide
  exact List.all_eq_true.mp all

theorem noConversionHead (op : Operation) :
    member? (noConversion op).head = some ⟨"OGNumeric", (conversionTo op).name⟩ :=
  methodMember numericParts (conversionParts op)

theorem noConversionIndented (op : Operation) : ∀ l ∈ (noConversion op).body, Indented l :=
  List.forall_mem_singleton.mpr (indentedChars _)

theorem noConversionRendered (op : Operation) :
    (conversionDefinition op).rendered = noConversionLines op := by
  have split : "OGNumeric::as" = "OGNumeric" ++ ("::" ++ "as") := by decide
  have head : "OGNumeric::as" ++ (op.name.text ++ "() const") = (noConversion op).head := by
    simp only [noConversion, methodHead, conversionTo, split, String.append_assoc]
  have titled : (conversionDefinition op).lineOf (.ended [.text "OGNumeric::as", .slot "nodename",
      .text "() const"]) = [(noConversion op).head] := by
    rw [← head]
    exact Fragment.lineSpelled _ _
  have target : (conversionDefinition op).lineOf (.ended [.text "const ", .slot "nodename",
      .text "*"]) = ["const " ++ (op.name.text ++ "*")] :=
    Fragment.lineSpelled _ _
  have lines : (conversionDefinition op).kind.lines =
      [.ended [.text "const ", .slot "nodename", .text "*"]] ++ (region (.ended [.text
        "OGNumeric::as", .slot "nodename", .text "() const"]) [.plain "  return nullptr;"] r"}" ++
          [.blank]) := rfl
  have inside : (conversionDefinition op).linesOf [.plain "  return nullptr;"] =
      (noConversion op).body := rfl
  have function := regionWritten titled inside
  rw [Fragment.rendered, lines, Fragment.linesOfAppend, Fragment.linesOfAppend,
    Fragment.linesOfSingle, target]
  exact congrArg (fun written => [_] ++ (written ++ [""])) function

theorem noConversionHolds (op : Operation) : Holds (noConversionLines op) [noConversion op] := by
  have function := writtenHolds (noConversionHead op) (noConversionIndented op)
  have target : Holds ["const " ++ (op.name.text ++ "*")] [] :=
    holdsLine (startsNot (by decide) _ _)
  exact target.append (function.append (holdsLine (by decide : "" ≠ r"{")))

/- The line above a definition says what it returns, and no class. -/
theorem targetNoMember (op : Operation) : member? ("const " ++ (op.name.text ++ "*")) = none := by
  have split : "const " = "const" ++ " " := by decide
  have word : "const".toList.all identifierPart = true := by decide
  have read : Text.span identifierPart ("const" ++ (" " ++ (op.name.text ++ "*"))) =
      ("const", " " ++ (op.name.text ++ "*")) :=
    spanAppend (List.all_eq_true.mp word) (stopsAt rfl _ _)
  rw [split, String.append_assoc]
  exact memberNone read (by decide)

theorem noConversionMembers (op : Operation) :
    (noConversionLines op).filterMap member? = [⟨"OGNumeric", (conversionTo op).name⟩] := by
  have function := writtenMember (noConversionHead op) (noConversionIndented op)
  have blank : [""].filterMap member? = [] := by decide
  rw [noConversionLines, List.filterMap_append, List.filterMap_append, function, blank,
    List.filterMap_eq_nil_iff.mpr (List.forall_mem_singleton.mpr (targetNoMember op))]
  rfl

theorem noConversionReturns {ops : Operations} {op : Operation} (member : op ∈ holders ops) :
    statementsOf ("OGNumeric" ++ ("::" ++ (conversionTo op).name))
      ((holders ops).map noConversion) = some [.returns "nullptr"] := by
  have named : ∀ op, functionName (noConversion op).head =
      "OGNumeric" ++ ("::" ++ (conversionTo op).name) :=
    fun op => methodFunction numericParts (conversionParts op)
  have distinct : ((holders ops).map fun op => functionName (noConversion op).head).Nodup := by
    have each : (holders ops).map (fun op => functionName (noConversion op).head) =
        ((holders ops).map fun op => op.name.text).map
          fun name => "OGNumeric" ++ ("::" ++ ("as" ++ name)) := by
      rw [List.map_map]
      exact List.map_congr_left fun op _ => named op
    rw [each]
    refine (holderNamesDistinct ops).map fun a b same => ?_
    simpa only [String.append_right_inj] using same
  have only := filterMapped (fun f : Block => functionName f.head) noConversion distinct member
  rw [named] at only
  have reads : Reads ["  return nullptr;"] [.returns "nullptr"] := readsReturn (by decide)
  exact reads.function only

section
variable (ops : Operations) (names : Names)

theorem conversionDefinitionsLined : ∀ f ∈ (holders ops).map conversionDefinition, f.Lined :=
  List.forall_mem_map.mpr fun op _ => linedSlots rfl rfl (by
    simp [conversionDefinition, Fragment.set, Fragment.of, op.name.single])

theorem numericSourceTidy : (numericSourcePage ops names).Tidy :=
  ((Fragment.tidyOf .numericSource).setOption rfl).setBlock
    (by decide : "conversions" ∈ Kind.blocks .numericSource)
    (textsLined (conversionDefinitionsLined ops)).1

theorem numericSourceLines : pageLines? .numericSource [("namespace", names.namespaceName)]
    (numericSourcePage ops names).text =
      some (["", "OGNumeric::~OGNumeric() {}", ""] ++
        (holders ops).flatMap noConversionLines) := by
  have page : pageLines? .numericSource [("namespace", names.namespaceName)]
      (numericSourcePage ops names).text =
      some ((numericSourcePage ops names).linesOf (Kind.body .numericSource)) :=
    (numericSourceTidy ops names).sourceLines rfl
      (by decide : Kind.isSource .numericSource = true) rfl
  have body : Kind.body .numericSource =
      [.blank, .plain "OGNumeric::~OGNumeric() {}", .blank] ++ [.block "conversions"] := by
    rfl
  have definitions : (numericSourcePage ops names).linesOf [.block "conversions"] =
      (holders ops).flatMap noConversionLines := by
    refine (Fragment.linesOfSingle _ _).trans
      ((textsLined (conversionDefinitionsLined ops)).2.trans ?_)
    rw [List.flatMap_map]
    exact congrArg (holders ops).flatMap (funext noConversionRendered)
  rw [page, body, Fragment.linesOfAppend, definitions]
  rfl

theorem readNoConversions :
    readFunctions .numericSource names (numericSourcePage ops names).text =
      some ((holders ops).map noConversion) := by
  have front : Holds ["", "OGNumeric::~OGNumeric() {}", ""] [] := holdsLines (by decide)
  have each := Holds.each fun op (_ : op ∈ holders ops) => noConversionHolds op
  rw [readFunctions, numericSourceLines, Option.map_some, (front.append each).blocks,
    List.nil_append, List.map_eq_flatMap]

theorem readDefaults :
    readEach member? .numericSource names (numericSourcePage ops names).text =
      some (⟨"OGNumeric", "~OGNumeric"⟩ ::
        (holders ops).map fun op => ⟨"OGNumeric", (conversionTo op).name⟩) := by
  have front : ["", "OGNumeric::~OGNumeric() {}", ""].filterMap member? =
      [⟨"OGNumeric", "~OGNumeric"⟩] := by decide
  rw [readEach, numericSourceLines, Option.map_some, List.filterMap_append, front,
    List.filterMap_flatMap, List.map_eq_flatMap]
  exact congrArg (fun each => some (_ :: (holders ops).flatMap each)) (funext noConversionMembers)

end
end DoubleDispatch.Emit
