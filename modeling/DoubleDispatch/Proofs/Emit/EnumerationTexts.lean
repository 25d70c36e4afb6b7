import DoubleDispatch.Proofs.Emit.Enumeration
import DoubleDispatch.Proofs.Template.Outline
import DoubleDispatch.Proofs.Text.Scan

/-! The two source texts of the enumeration, read back. A reader knows the names that were stamped
into a text and nothing else; it sees the numbered list of the one language, and in the other the
values and, apart from them, the table of tags that is looked up by value. -/
namespace DoubleDispatch.Emit
open Catalog (Operation Operations)
open Template (Fragment Line Kind pageLines? region)
open Template.Fragment (linedSlots textsLined renderedEach)
open Text (Single isIdentifier identifierPart singleIdentifier singleDigits span stopsAt spanAppend
  dropFront? dropBack? dropFrontAppend dropBackAppend number? numberText textDigits unquoted?
  unquotedText Block blocks Holds)

/- One constant of the enumeration, as far as the source texts tell. -/
structure Enumerator where
  enumName : String
  ordinal : Nat
  functionTag : Option String
  deriving DecidableEq, Repr

namespace Enumerated

def enumerator (entry : Enumerated) : Enumerator :=
  ⟨entry.enumName, entry.ordinal, entry.functionTag⟩

structure Named (entry : Enumerated) : Prop where
  enumName : isIdentifier entry.enumName = true
  tag : ∀ tag, entry.functionTag = some tag → isIdentifier tag = true

end Enumerated

theorem Enumeration.named (ops : Operations) :
    ∀ entry ∈ (Enumeration.ofOperations ops).entries, entry.Named := by
  intro entry member
  obtain ⟨⟨op, i⟩, _, rfl⟩ := List.mem_map.mp member
  refine ⟨op.enumName.valid, fun tag found => ?_⟩
  cases kind : op.kind with
  | elementwiseFunction function =>
    have same : function.text = tag := by
      simpa [Enumerated.of, Operation.functionTag, kind, Catalog.Kind.function?] using found
    exact same ▸ function.valid
  | _ => simp [Enumerated.of, Operation.functionTag, kind, Catalog.Kind.function?] at found

/- A tag as a literal; the given word stands for none. -/
def readTag (word literal : String) : Option (Option String) :=
  if literal = word then some none else (unquoted? literal).map some

theorem readTagLiteral (entry : Enumerated) {word : String} (bare : word.toList.head? ≠ some '"') :
    readTag word (entry.tagLiteral word) = some entry.functionTag := by
  unfold readTag Enumerated.tagLiteral
  cases entry.functionTag with
  | none => simp
  | some tag =>
    have other : "\"" ++ tag ++ "\"" ≠ word := by
      rintro rfl
      simp at bare
    rw [if_neg other, unquotedText, Option.map_some]

theorem Enumerated.Named.tagChars {entry : Enumerated} (named : entry.Named) {word : String}
    {p : Char → Bool} (parts : ∀ c, identifierPart c = true → p c = true) (quote : p '"' = true)
    (wordParts : word.toList.all identifierPart = true) :
    ∀ c ∈ (entry.tagLiteral word).toList, p c = true := by
  unfold tagLiteral
  cases found : entry.functionTag with
  | none => exact fun c member => parts c (List.all_eq_true.mp wordParts c member)
  | some tag =>
    intro c member
    have valid := Text.identifierParts (named.tag tag found)
    simp only [String.toList_append, List.mem_append] at member
    rcases member with (front | inside) | back
    · simp at front
      exact front ▸ quote
    · exact parts c (valid c inside)
    · simp at back
      exact back ▸ quote

theorem partOther {c x : Char} (part : identifierPart c = true) (other : identifierPart x = false) :
    (c != x) = true := by
  rw [bne_iff_ne]
  rintro rfl
  rw [part] at other
  contradiction

theorem Enumerated.Named.tagSingle {entry : Enumerated} (named : entry.Named) {word : String}
    (wordParts : word.toList.all identifierPart = true) : Single (entry.tagLiteral word) := by
  intro found
  have other := named.tagChars (p := (· != '\n')) (fun c part => partOther part rfl) rfl wordParts _
    found
  simp at other

namespace Enumerated

variable (entry : Enumerated)

def valueLine : String :=
  "  " ++ (entry.enumName ++ (" = " ++ (Decimal.text entry.ordinal ++ ",")))

def tagLine : String := "  " ++ (entry.tagLiteral "nullptr" ++ (", // " ++ entry.enumName))

def javaLine : String :=
  "  " ++ (entry.enumName ++ ("(" ++ (Decimal.text entry.ordinal ++ (", " ++
    (entry.tagLiteral "null" ++ "),")))))

theorem headerEntryRendered : entry.headerEntry.rendered = [entry.valueLine] :=
  Fragment.renderedSpelled _

theorem headerTagRendered : entry.headerTag.rendered = [entry.tagLine] :=
  Fragment.renderedSpelled _

theorem javaEntryRendered : entry.javaEntry.rendered = [entry.javaLine] :=
  Fragment.renderedSpelled _

variable {entry}

theorem Named.headerEntryLined (named : entry.Named) : entry.headerEntry.Lined :=
  linedSlots rfl rfl (by
    simp [headerEntry, Fragment.set, Fragment.of, singleIdentifier named.enumName, singleDigits])

theorem Named.headerTagLined (named : entry.Named) : entry.headerTag.Lined :=
  linedSlots rfl rfl (by
    simp [headerTag, Fragment.set, Fragment.of, singleIdentifier named.enumName,
      named.tagSingle (by decide : "nullptr".toList.all identifierPart = true)])

theorem Named.javaEntryLined (named : entry.Named) : entry.javaEntry.Lined :=
  linedSlots rfl rfl (by
    simp [javaEntry, Fragment.set, Fragment.of, singleIdentifier named.enumName, singleDigits,
      named.tagSingle (by decide : "null".toList.all identifierPart = true)])

end Enumerated

/- A constant with its value. -/
def readValueLine (line : String) : Option (String × Nat) := do
  let rest ← dropFront? "  " line
  let (name, rest) := span identifierPart rest
  let rest ← dropFront? " = " rest
  let number ← dropBack? "," rest
  some (name, ← number? number)

/- A place of the table of tags; the name behind it is a comment. -/
def readTagLine (line : String) : Option (Option String) := do
  let rest ← dropFront? "  " line
  readTag "nullptr" (span (· != ',') rest).1

def readJavaLine (line : String) : Option Enumerator := do
  let rest ← dropFront? "  " line
  let (name, rest) := span identifierPart rest
  let rest ← dropFront? "(" rest
  let (number, rest) := span Char.isDigit rest
  let rest ← dropFront? ", " rest
  let literal ← dropBack? ")," rest
  some ⟨name, ← number? number, ← readTag "null" literal⟩

namespace Enumerated.Named

variable {entry : Enumerated} (named : entry.Named)
include named

theorem nameSpan {c : Char} (none : identifierPart c = false) (cs : List Char) (rest : String) :
    span identifierPart (entry.enumName ++ (String.ofList (c :: cs) ++ rest)) =
      (entry.enumName, String.ofList (c :: cs) ++ rest) :=
  spanAppend (Text.identifierParts named.enumName) (stopsAt none cs rest)

theorem readValueLine : readValueLine entry.valueLine = some (entry.enumName, entry.ordinal) := by
  have name : span identifierPart
      (entry.enumName ++ (" = " ++ (Decimal.text entry.ordinal ++ ","))) =
      (entry.enumName, " = " ++ (Decimal.text entry.ordinal ++ ",")) := named.nameSpan rfl _ _
  simp [Emit.readValueLine, valueLine, dropFrontAppend, dropBackAppend, name, numberText]

theorem readTagLine : readTagLine entry.tagLine = some entry.functionTag := by
  have literal : span (· != ',') (entry.tagLiteral "nullptr" ++ (", // " ++ entry.enumName)) =
      (entry.tagLiteral "nullptr", ", // " ++ entry.enumName) :=
    spanAppend
      (named.tagChars (fun _ part => partOther part rfl) rfl
        (by decide : "nullptr".toList.all identifierPart = true))
      (stopsAt rfl _ entry.enumName)
  have tag := readTagLiteral entry (by decide : "nullptr".toList.head? ≠ some '"')
  simp [Emit.readTagLine, tagLine, dropFrontAppend, literal, tag]

theorem readJavaLine : readJavaLine entry.javaLine = some entry.enumerator := by
  have name : span identifierPart (entry.enumName ++ ("(" ++ (Decimal.text entry.ordinal ++
      (", " ++ (entry.tagLiteral "null" ++ "),"))))) =
      (entry.enumName, "(" ++ (Decimal.text entry.ordinal ++
        (", " ++ (entry.tagLiteral "null" ++ "),")))) := named.nameSpan rfl _ _
  have number : span Char.isDigit (Decimal.text entry.ordinal ++
      (", " ++ (entry.tagLiteral "null" ++ "),"))) =
      (Decimal.text entry.ordinal, ", " ++ (entry.tagLiteral "null" ++ "),")) :=
    spanAppend (textDigits entry.ordinal) (stopsAt rfl _ _)
  have tag := readTagLiteral entry (by decide : "null".toList.head? ≠ some '"')
  simp [Emit.readJavaLine, javaLine, dropFrontAppend, dropBackAppend, name, number, numberText,
    tag, enumerator]

end Enumerated.Named

/- Values and tags as the header gives them, and the size it declares for the table of tags. -/
structure HeaderTables where
  values : List (String × Nat)
  slots : Nat
  tags : List (Option String)
  deriving DecidableEq, Repr

/- The tag of a constant is the one that stands at its value. -/
def HeaderTables.enumerators (tables : HeaderTables) : Option (List Enumerator) :=
  tables.values.mapM fun (name, n) => (tables.tags[n]?).map (Enumerator.mk name n)

def tableFront : String := "static const char * const ExprType_function_tags["

def readTables (values table : Block) : Option HeaderTables := do
  let rest ← dropFront? tableFront table.head
  let slots ← dropBack? "] =" rest
  if values.head = "enum ExprType_t" then
    some ⟨← values.body.mapM readValueLine, ← number? slots, ← table.body.mapM readTagLine⟩
  else none

def readHeader (names : Names) (text : String) : Option HeaderTables := do
  let page ← pageLines? .enumHeader [("namespace", names.namespaceName)] text
  match blocks page with
  | [values, table] => readTables values table
  | _ => none

def valuesRegion : List Line := region (.plain "enum ExprType_t") [.block "entries"] r"};"

def tagsRegion : List Line :=
  region (.ended [.text tableFront, .slot "count", .text "] ="]) [.block "function_tags"] r"};"

theorem enumHeaderBody : Kind.body .enumHeader =
    (Kind.body .enumHeader).take 5 ++ (valuesRegion ++
      (((Kind.body .enumHeader).drop 9).take 4 ++ (tagsRegion ++ [Line.blank]))) := by
  rfl

namespace Enumeration

variable {e : Enumeration} (named : ∀ entry ∈ e.entries, entry.Named) (names : Names)
include named

theorem headerEntriesLined : ∀ f ∈ e.entries.map Enumerated.headerEntry, f.Lined :=
  List.forall_mem_map.mpr fun entry member => (named entry member).headerEntryLined

theorem headerTagsLined : ∀ f ∈ e.entries.map Enumerated.headerTag, f.Lined :=
  List.forall_mem_map.mpr fun entry member => (named entry member).headerTagLined

theorem headerPageTidy : (e.headerPage names).Tidy :=
  ((((Fragment.tidyOf .enumHeader).setOption rfl).setSlot
    (by decide : "count" ∉ Kind.blocks .enumHeader) (singleDigits e.size)).setBlock
    (by decide : "entries" ∈ Kind.blocks .enumHeader)
    (textsLined (headerEntriesLined named)).1).setBlock
    (by decide : "function_tags" ∈ Kind.blocks .enumHeader) (textsLined (headerTagsLined named)).1

theorem headerEntryLines : (e.headerPage names).linesOf [.block "entries"] =
    e.entries.map Enumerated.valueLine :=
  (Fragment.linesOfSingle _ _).trans ((textsLined (headerEntriesLined named)).2.trans
    (renderedEach Enumerated.headerEntryRendered))

theorem headerTagLines : (e.headerPage names).linesOf [.block "function_tags"] =
    e.entries.map Enumerated.tagLine :=
  (Fragment.linesOfSingle _ _).trans ((textsLined (headerTagsLined named)).2.trans
    (renderedEach Enumerated.headerTagRendered))

theorem valuesHolds : Holds ((e.headerPage names).linesOf valuesRegion)
    [⟨"enum ExprType_t", e.entries.map Enumerated.valueLine⟩] :=
  (e.headerPage names).regionHolds (Fragment.lineOfPlain _ "enum ExprType_t") (by decide)
    (by decide) (headerEntryLines named names)
    (List.forall_mem_map.mpr fun _ _ => (Text.indentedChars _).append _)

theorem tagsHolds : Holds ((e.headerPage names).linesOf tagsRegion)
    [⟨tableFront ++ (Decimal.text e.size ++ "] ="), e.entries.map Enumerated.tagLine⟩] := by
  have title : (e.headerPage names).lineOf
      (.ended [.text tableFront, .slot "count", .text "] ="]) =
      [tableFront ++ (Decimal.text e.size ++ "] =")] := Fragment.lineSpelled _ _
  exact (e.headerPage names).regionHolds title (Text.startsNot (by decide) _ _) (by decide)
    (headerTagLines named names)
    (List.forall_mem_map.mpr fun _ _ => (Text.indentedChars _).append _)

theorem headerBlocks : blocks ((e.headerPage names).linesOf (Kind.body .enumHeader)) =
    [⟨"enum ExprType_t", e.entries.map Enumerated.valueLine⟩,
     ⟨tableFront ++ (Decimal.text e.size ++ "] ="), e.entries.map Enumerated.tagLine⟩] := by
  have front := (e.headerPage names).marginHolds
    (by decide : ((Kind.body .enumHeader).take 5).all (Line.avoids r"{") = true)
  have between := (e.headerPage names).marginHolds
    (by decide : (((Kind.body .enumHeader).drop 9).take 4).all (Line.avoids r"{") = true)
  have last := (e.headerPage names).marginHolds
    (by decide : [Line.blank].all (Line.avoids r"{") = true)
  have whole := front.append ((valuesHolds named names).append
    (between.append ((tagsHolds named names).append last)))
  simp only [← Fragment.linesOfAppend] at whole
  rw [enumHeaderBody]
  exact whole.blocks

theorem readHeaderText : readHeader names (e.headerPage names).text =
    some ⟨e.entries.map (fun entry => (entry.enumName, entry.ordinal)), e.size,
      e.entries.map Enumerated.functionTag⟩ := by
  have page : pageLines? .enumHeader [("namespace", names.namespaceName)]
      (e.headerPage names).text = some ((e.headerPage names).linesOf (Kind.body .enumHeader)) :=
    (headerPageTidy named names).sourceLines rfl (by decide : Kind.isSource .enumHeader = true) rfl
  have values := Outcome.mapMSome fun entry member => (named entry member).readValueLine
  have tags := Outcome.mapMSome fun entry member => (named entry member).readTagLine
  simp [readHeader, page, headerBlocks named names, readTables, dropFrontAppend, dropBackAppend,
    numberText, values, tags]

theorem javaEntriesLined : ∀ f ∈ e.entries.map Enumerated.javaEntry, f.Lined :=
  List.forall_mem_map.mpr fun entry member => (named entry member).javaEntryLined

theorem javaPageTidy : (e.javaPage names).Tidy :=
  ((Fragment.tidyOf .enumJava).setOption rfl).setBlock
    (by decide : "entries" ∈ Kind.blocks .enumJava) (textsLined (javaEntriesLined named)).1

theorem javaEntryLines : (e.javaPage names).linesOf [.block "entries"] =
    e.entries.map Enumerated.javaLine :=
  (Fragment.linesOfSingle _ _).trans ((textsLined (javaEntriesLined named)).2.trans
    (renderedEach Enumerated.javaEntryRendered))

end Enumeration

def javaFront : String := r"public enum ExprTypeEnum {"

def javaEnd : String := "  ;"

/- The numbered list stands between its head and a lone semicolon. -/
def readJava (names : Names) (text : String) : Option (List Enumerator) := do
  let page ← pageLines? .enumJava [("package", names.javaPackage)] text
  let behind := (page.dropWhile (· != javaFront)).tail
  (behind.takeWhile (· != javaEnd)).mapM readJavaLine

theorem enumJavaBody : Kind.body .enumJava =
    (Kind.body .enumJava).take 5 ++ (.plain javaFront :: ([.block "entries"] ++
      (.plain javaEnd :: (Kind.body .enumJava).drop 8))) := by
  rfl

theorem javaAround : ∀ l ∈ Kind.opening .enumJava ++ Kind.closing .enumJava,
    ∀ p ∈ l.slots, p = "package" := by decide

theorem Enumerated.Named.javaLineInside {entry : Enumerated} (named : entry.Named) :
    entry.javaLine ≠ javaEnd := by
  intro same
  have read := named.readJavaLine
  rw [same] at read
  have none : Emit.readJavaLine javaEnd = none := by rfl
  rw [none] at read
  contradiction

namespace Enumeration

variable {e : Enumeration} (named : ∀ entry ∈ e.entries, entry.Named) (names : Names)
include named

theorem javaLines : (e.javaPage names).linesOf (Kind.body .enumJava) =
    (e.javaPage names).linesOf ((Kind.body .enumJava).take 5) ++ (javaFront ::
      (e.entries.map Enumerated.javaLine ++ (javaEnd ::
        (e.javaPage names).linesOf ((Kind.body .enumJava).drop 8)))) := by
  conv_lhs => rw [enumJavaBody]
  rw [Fragment.linesOfAppend, Fragment.linesOfCons, Fragment.lineOfPlain, Fragment.linesOfAppend,
    javaEntryLines named names, Fragment.linesOfCons, Fragment.lineOfPlain]
  rfl

theorem readJavaText : readJava names (e.javaPage names).text =
    some (e.entries.map Enumerated.enumerator) := by
  have keeps : (e.javaPage names).Keeps [("package", names.javaPackage)] := by
    intro l member p slot
    rw [javaAround l member p slot]
    rfl
  have page : pageLines? .enumJava [("package", names.javaPackage)] (e.javaPage names).text =
      some ((e.javaPage names).linesOf (Kind.body .enumJava)) :=
    Fragment.pageLinesText rfl keeps (javaPageTidy named names)
  have front : ∀ x ∈ (e.javaPage names).linesOf ((Kind.body .enumJava).take 5),
      (x != javaFront) = true := fun x member => bne_iff_ne.mpr
    ((e.javaPage names).avoidsLine
      (by decide : ((Kind.body .enumJava).take 5).all (Line.avoids javaFront) = true) x member)
  have inside : ∀ x ∈ e.entries.map Enumerated.javaLine, (x != javaEnd) = true :=
    List.forall_mem_map.mpr fun entry member =>
      bne_iff_ne.mpr (named entry member).javaLineInside
  have entries := Outcome.mapMSome fun entry member => (named entry member).readJavaLine
  simp [readJava, page, javaLines named names, List.dropWhile_append_of_pos front,
    List.takeWhile_append_of_pos inside, entries]

end Enumeration
end DoubleDispatch.Emit
