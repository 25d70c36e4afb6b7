import DoubleDispatch.Proofs.Emit.RunnerFiles
import DoubleDispatch.Proofs.Text.Mentions

/-! The functions of the runners as skeletons. Category and overload fix the text of a function up to
two holes, one for the name of the operation and one for its payload, and what goes into a hole goes
in as it stands. So a payload may spell a placeholder without becoming one, the types that a function
mentions are those of its overload whatever the payload says, and both fillings can be read off. -/
namespace DoubleDispatch.Emit
open Catalog (Category Operation Terminal)
open Template (Fragment)
open Text (Identifier identifierPart unlines lines blocks Signature declaredRun Mention mentions span
  spanAppend stopsAt stopsBefore)

structure Skeleton where
  front : String
  middle : String
  back : String
  deriving DecidableEq, Repr

/- The name stands in front of the word that makes it the class of a runner. -/
def Skeleton.fill (s : Skeleton) (name payload : String) : String :=
  s.front ++ (name ++ ("Runner::run(" ++ (s.middle ++ (payload ++ s.back))))

/- The lines of a body: those above the payload, what stands beside it, and those below. -/
structure Frame where
  above : List String
  lead : String
  tail : String
  below : List String

def Frame.lines (f : Frame) (payload : String) : List String :=
  f.above ++ (f.lead ++ (payload ++ f.tail)) :: f.below

/- What a category puts beside its payload: around a single value, and around an element. -/
structure Surroundings where
  valueLead : String
  valueTail : String
  elementLead : String
  elementTail : String

def surroundings : Category → Surroundings
  | .infixArithmetic => ⟨"(arg0->getValue() ", " arg1->getValue());", "data0[i] ", " data1[i];"⟩
  | .prefixArithmetic => ⟨"(", "(arg->getValue()));", "", "data[i];"⟩
  | .elementwiseFunction => ⟨"(std::", "(arg->getValue()));", "std::", "(data[i]);"⟩
  | _ => ⟨"", "", "", ""⟩

/- The buffers that the elements are taken from, and the operand that each one belongs to. -/
def sources : Category.Arity → List (String × String)
  | .one => [("data", "arg")]
  | .two => [("data0", "arg0"), ("data1", "arg1")]

/- The operand that the size is taken from. -/
def sized : Category.Arity → String
  | .one => "arg"
  | .two => "arg0"

def sourceLine (t : Terminal) (source : String × String) : String :=
  "  const " ++ (t.elementType ++ ("* " ++ (source.1 ++ (" = " ++ (source.2 ++ "->getData();")))))

def resultStart (t : Terminal) : String := "  ret = new " ++ t.typeName

def valueFrame (s : Surroundings) (t : Terminal) : Frame :=
  ⟨[], resultStart t ++ s.valueLead, s.valueTail, []⟩

def elementFrame (s : Surroundings) (arity : Category.Arity) (t : Terminal) : Frame where
  above := (sources arity).map (sourceLine t) ++
    ["  const int datalen = " ++ sized arity ++ "->getRows() * " ++ sized arity ++ "->getCols();",
     "  " ++ (t.elementType ++ ("* newData = new " ++ (t.elementType ++ "[datalen];"))),
     "  for (int i = 0; i < datalen; ++i)", r"  {"]
  lead := "    newData[i] = " ++ s.elementLead
  tail := s.elementTail
  below := [r"  }", resultStart t ++
    ("(newData, " ++ (sized arity ++ ("->getRows(), " ++ (sized arity ++ "->getCols());"))))]

def frame (category : Category) (t : Terminal) : Frame :=
  if t.isScalar then valueFrame (surroundings category) t
  else elementFrame (surroundings category) category.arity t

def Payload.category : Payload → Category
  | .infixSymbol _ => .infixArithmetic
  | .prefixSymbol _ => .prefixArithmetic
  | .function _ => .elementwiseFunction

theorem Payload.hasBodies (payload : Payload) : payload.category.hasBodies = true := by
  cases payload <;> rfl

theorem payloadCategory {op : Operation} {payload : Payload} (found : payload? op = some payload) :
    op.category = payload.category ∧ op.kind.payload? = some payload.text := by
  unfold payload? at found
  unfold Operation.category
  cases kind : op.kind <;> rw [kind] at found <;> cases found <;> exact ⟨rfl, rfl⟩

section
variable (payload : Payload) (t : Terminal)

theorem valueRendered (scalar : t.isScalar = true) : (implementation payload t).rendered =
    (valueFrame (surroundings payload.category) t).lines payload.text := by
  rw [implementation, if_pos scalar]
  cases payload <;>
    simp [Fragment.rendered, Fragment.linesOf, Fragment.lineOf, Fragment.textOf, Fragment.value?,
      Fragment.set, Fragment.of, Payload.scalarKind, Payload.placeholder, Payload.text,
      Template.Kind.lines, String.join_cons, List.lookup_cons, Frame.lines, valueFrame, surroundings,
      Payload.category, resultStart, String.append_assoc]

theorem elementRendered (matrix : ¬ t.isScalar = true) : (implementation payload t).rendered =
    (elementFrame (surroundings payload.category) payload.category.arity t).lines payload.text := by
  rw [implementation, if_neg matrix]
  cases payload <;>
    simp [Fragment.rendered, Fragment.linesOf, Fragment.lineOf, Fragment.textOf, Fragment.value?,
      Fragment.set, Fragment.of, Payload.matrixKind, Payload.placeholder, Payload.text,
      Template.Kind.lines, Template.Line.plain, String.join_cons, List.lookup_cons, Frame.lines,
      elementFrame, surroundings, Payload.category, Category.arity, sources, sized, sourceLine,
      resultStart, String.append_assoc]

theorem implementationFramed :
    (implementation payload t).rendered = (frame payload.category t).lines payload.text := by
  unfold frame
  split
  · exact valueRendered payload t ‹_›
  · exact elementRendered payload t ‹_›

end

def closing : List String := ["  reg->push_back(ret);", "  return nullptr;", r"}", ""]

/- Nothing but the category and the overload goes into it. -/
def skeleton (category : Category) (overload : Overload) : Skeleton where
  front := "void *" ++ "\n"
  middle := overload.parameters ++ (") const" ++ ("\n" ++
    (unlines (r"{" :: resultLine overload.result :: (frame category overload.result).above) ++
      (frame category overload.result).lead)))
  back := (frame category overload.result).tail ++ ("\n" ++
    unlines ((frame category overload.result).below ++ closing))

section
variable (op : Operation) (payload : Payload) (overload : Overload)

theorem titleParts (parameters : String) : memberHead op.runnerName parameters =
    op.name.text ++ ("Runner::run(" ++ (parameters ++ ") const")) := by
  have words : "Runner::run(" = "Runner" ++ "::run(" := by decide
  have name : op.runnerName = op.name.text ++ "Runner" := rfl
  simp only [memberHead, name, words, String.append_assoc]

theorem functionText : (functionOf op payload overload).text =
    (skeleton payload.category overload).fill op.name.text payload.text := by
  rw [(functionLined payload op overload).text.1, functionRendered, functionBody,
    implementationFramed, titleParts]
  simp only [Frame.lines, skeleton, Skeleton.fill, closing, Text.unlinesCons, Text.unlinesAppend,
    List.cons_append, List.nil_append, List.append_assoc, String.append_assoc]

end

/- The types of the operands, as a member of the given class declares them. -/
def memberRun (owner : String) : Signature where
  front := owner ++ ("::run(" ++ "RegContainer* reg, const ")
  onlyEnd := "* arg" ++ ") const"
  firstEnd := declaredRun.firstEnd
  secondEnd := "* arg1" ++ ") const"
  firstEnds := declaredRun.firstEnds

theorem memberTypes (owner : String) (overload : Overload) :
    (memberRun owner).types? (memberHead owner overload.parameters) = some overload.types := by
  cases overload with
  | unary operand =>
    have apart : ∀ a b c d e f : String,
        a ++ (b ++ ((c ++ (d ++ e)) ++ f)) = (a ++ (b ++ c)) ++ (d ++ (e ++ f)) := by
      intro a b c d e f
      simp only [String.append_assoc]
    exact (congrArg (memberRun owner).types? (apart _ _ _ _ _ _)).trans
      ((memberRun owner).typesOne operand.typeNameParts)
  | binary left right =>
    have apart : ∀ a b c d e f g h : String, a ++ (b ++ ((c ++ (d ++ (e ++ (f ++ g)))) ++ h)) =
        (a ++ (b ++ c)) ++ (d ++ (e ++ (f ++ (g ++ h)))) := by
      intro a b c d e f g h
      simp only [String.append_assoc]
    exact (congrArg (memberRun owner).types? (apart _ _ _ _ _ _ _ _)).trans
      ((memberRun owner).typesTwo left.typeNameParts right.typeNameParts)

theorem elementTypeParts (t : Terminal) : ∀ c ∈ t.elementType.toList, identifierPart c = true := by
  unfold Terminal.elementType
  cases t.domain <;> exact List.all_eq_true.mp (by decide)

/- What the lines of a matrix body mention before the result. -/
def bufferMentions (arity : Category.Arity) (t : Terminal) : List Mention :=
  (sources arity).map (fun source => .pointer t.elementType source.1) ++
    [.pointer t.elementType "newData", .creation t.elementType "newData"]

def resultMention (t : Terminal) : Mention := .creation t.typeName "ret"

section
variable (t : Terminal)

theorem resultMentioned {rest : String} (stops : Text.Stops identifierPart rest) :
    mentions (resultStart t ++ rest) = [resultMention t] := by
  rw [resultStart, String.append_assoc]
  exact Text.mentionsResult t.typeNameParts stops

theorem sourcesMentioned (arity : Category.Arity) :
    ((sources arity).map (sourceLine t)).flatMap mentions =
      (sources arity).map fun source => .pointer t.elementType source.1 := by
  have plain : ∀ source ∈ sources arity, source.1.toList.all identifierPart = true ∧
      Text.dropFront? " = new " (" = " ++ (source.2 ++ "->getData();")) = none := by
    cases arity <;> decide
  have each : ∀ source ∈ sources arity,
      mentions (sourceLine t source) = [.pointer t.elementType source.1] := by
    intro source member
    obtain ⟨parts, old⟩ := plain source member
    exact Text.mentionsConst (elementTypeParts t) (List.all_eq_true.mp parts) (stopsAt rfl _ _) old
  rw [List.flatMap_map, List.map_eq_flatMap]
  exact List.flatMap_congr each

theorem elementMentions (s : Surroundings) (arity : Category.Arity) (payload : String) :
    ((elementFrame s arity t).lines payload).flatMap mentions =
      bufferMentions arity t ++ [resultMention t] := by
  have size : mentions ("  const int datalen = " ++ sized arity ++ "->getRows() * " ++
      sized arity ++ "->getCols();") = [] := by cases arity <;> decide
  have buffer : mentions ("  " ++ (t.elementType ++ ("* newData = new " ++
      (t.elementType ++ "[datalen];")))) =
      [.pointer t.elementType "newData", .creation t.elementType "newData"] :=
    Text.mentionsBuffer (elementTypeParts t) (stopsBefore rfl _)
  have loop : mentions "  for (int i = 0; i < datalen; ++i)" = [] := by decide
  have opens : mentions r"  {" = [] := by decide
  have closes : mentions r"  }" = [] := by decide
  have element : mentions ("    newData[i] = " ++ s.elementLead ++ (payload ++ s.elementTail)) =
      [] := by
    rw [String.append_assoc]
    exact Text.mentionsElement _
  have result := resultMentioned t (stopsAt (p := identifierPart) (c := '(') rfl "newData, ".toList
    (sized arity ++ ("->getRows(), " ++ (sized arity ++ "->getCols());"))))
  simp only [Frame.lines, elementFrame, List.flatMap_append, List.flatMap_cons, List.flatMap_nil,
    sourcesMentioned, size, buffer, loop, opens, element, closes, List.nil_append, List.append_nil]
  exact congrArg _ result

theorem valueMentions {s : Surroundings} (opens : Text.endsType s.valueLead = true)
    (payload : String) :
    ((valueFrame s t).lines payload).flatMap mentions = [resultMention t] := by
  have result := resultMentioned t (Text.endsTypeStops opens (payload ++ s.valueTail))
  rw [← String.append_assoc] at result
  simp only [Frame.lines, valueFrame, List.nil_append, List.flatMap_cons, List.flatMap_nil,
    List.append_nil, result]

theorem valueLeadEnds {category : Category} (has : category.hasBodies = true) :
    Text.endsType (surroundings category).valueLead = true := by
  revert has
  cases category <;> decide

theorem frameMentions (payload : Payload) :
    ((frame payload.category t).lines payload.text).flatMap mentions =
      (if t.isScalar then [] else bufferMentions payload.category.arity t) ++ [resultMention t] := by
  have opens := valueLeadEnds payload.hasBodies
  unfold frame
  split
  · exact valueMentions t opens payload.text
  · exact elementMentions t _ _ payload.text

end

/- The types in the text of a function are those of its overload. -/
structure TypesAgree (owner : String) (overload : Overload) (text : String) : Prop where
  alike : ∀ t ∈ overload.operands, t = overload.result
  read : ∃ function buffers, blocks (lines text) = [function] ∧
    (memberRun owner).types? function.head = some overload.types ∧
    function.body.flatMap mentions =
      .pointer overload.result.typeName "ret" ::
        (buffers ++ [.creation overload.result.typeName "ret"]) ∧
    (∀ m ∈ buffers, m.type = overload.result.elementType ∧ m.name ≠ "ret") ∧
    (buffers = [] ↔ overload.isScalar = true)

theorem buffersTyped (arity : Category.Arity) (t : Terminal) :
    ∀ m ∈ bufferMentions arity t, m.type = t.elementType ∧ m.name ≠ "ret" := by
  have names : ∀ source ∈ sources arity, source.1 ≠ "ret" := by cases arity <;> decide
  have fresh : "newData" ≠ "ret" := by decide
  simp only [bufferMentions, List.forall_mem_append, List.forall_mem_map, List.forall_mem_cons]
  exact ⟨fun source member => ⟨rfl, names source member⟩, ⟨rfl, fresh⟩, ⟨rfl, fresh⟩,
    List.forall_mem_nil _⟩

theorem functionMentions (payload : Payload) (overload : Overload) :
    (functionBody payload overload).flatMap mentions =
      .pointer overload.result.typeName "ret" ::
        ((if overload.isScalar then [] else
          bufferMentions payload.category.arity overload.result) ++
          [.creation overload.result.typeName "ret"]) := by
  have first : mentions (resultLine overload.result) =
      [.pointer overload.result.typeName "ret"] := by
    have word : "* ret;" = "* " ++ ("ret" ++ ";") := by decide
    rw [resultLine, word]
    exact Text.mentionsConst overload.result.typeNameParts
      (List.all_eq_true.mp (by decide : "ret".toList.all identifierPart = true))
      (stopsBefore rfl []) (by decide)
  have pushed : mentions "  reg->push_back(ret);" = [] := by decide
  have returned : mentions "  return nullptr;" = [] := by decide
  rw [functionBody, List.flatMap_cons, List.flatMap_append, implementationFramed, frameMentions,
    first]
  simp only [List.flatMap_cons, List.flatMap_nil, pushed, returned, List.append_nil,
    List.singleton_append]
  rfl

theorem typesAgree (op : Operation) (payload : Payload) {overload : Overload}
    (alike : ∀ t ∈ overload.operands, t = overload.result) :
    TypesAgree op.runnerName overload (functionOf op payload overload).text where
  alike := alike
  read := by
    have lined := (functionLined payload op overload).text
    have whole : blocks (lines (functionOf op payload overload).text) =
        [⟨memberHead op.runnerName overload.parameters, functionBody payload overload⟩] := by
      have read := Text.linesUnlines lined.2 ""
      rw [← lined.1, String.append_empty] at read
      rw [read]
      exact ((functionHoldsMember payload op overload).append
        (Text.holdsLine (by decide : "" ≠ r"{"))).blocks
    refine ⟨_, _, whole, memberTypes _ _, functionMentions payload overload, ?_, ?_⟩
    · split
      · exact List.forall_mem_nil _
      · exact buffersTyped _ _
    · cases overload.isScalar <;> simp [bufferMentions]

theorem bodiesFilled {op : Operation} (has : op.category.hasBodies = true) :
    ∃ payload, payload? op = some payload ∧ op.category = payload.category ∧
      op.kind.payload? = some payload.text ∧
      bodies op = .ok ((overloads op.category).map fun overload =>
        (skeleton op.category overload).fill op.name.text payload.text) := by
  obtain ⟨payload, found⟩ := Option.isSome_iff_exists.mp ((payloadIffBodies op).mpr has)
  obtain ⟨same, spelled⟩ := payloadCategory found
  refine ⟨payload, found, same, spelled, ?_⟩
  rw [bodiesText has, functionsMap found, List.map_map, same]
  exact congrArg _ (List.map_congr_left fun overload _ => functionText op payload overload)

/- The name ends where an identifier ends, and all text around the payload is known. -/
theorem Skeleton.fillInjective {s : Skeleton} {a b : Identifier} {x y : String}
    (same : s.fill a.text x = s.fill b.text y) : a = b ∧ x = y := by
  have word : "Runner::run(" = "Runner" ++ "::run(" := by decide
  have read : ∀ (name : Identifier) (payload : String), span identifierPart
      (name.text ++ ("Runner::run(" ++ (s.middle ++ (payload ++ s.back)))) =
      (name.text ++ "Runner", "::run(" ++ (s.middle ++ (payload ++ s.back))) := by
    intro name payload
    have parts := Text.identifierParts (name.extend "Runner" (by decide)).valid
    rw [word, String.append_assoc, ← String.append_assoc]
    exact spanAppend parts (stopsAt rfl _ _)
  have split := congrArg (span identifierPart) ((String.append_right_inj _).mp same)
  rw [read, read, Prod.mk.injEq] at split
  obtain ⟨names, rest⟩ := split
  have name : a = b := by
    obtain ⟨_, _⟩ := a
    obtain ⟨_, _⟩ := b
    simpa using names
  have payload := (String.append_right_inj _).mp ((String.append_right_inj _).mp rest)
  exact ⟨name, (String.append_left_inj _).mp payload⟩

theorem bodiesFillSkeletons {op : Operation} (has : op.category.hasBodies = true) :
    ∃ payload, op.kind.payload? = some payload ∧
      bodies op = .ok ((overloads op.category).map fun overload =>
        (skeleton op.category overload).fill op.name.text payload) ∧
      (∀ overload ∈ overloads op.category, TypesAgree op.runnerName overload
        ((skeleton op.category overload).fill op.name.text payload)) ∧
      ∀ other : Operation, other.category = op.category → bodies other = bodies op →
        other.name = op.name ∧ other.kind.payload? = some payload := by
  obtain ⟨payload, _, category, spelled, filled⟩ := bodiesFilled has
  refine ⟨payload.text, spelled, filled, fun overload member => ?_, fun other alike same => ?_⟩
  · rw [category, ← functionText]
    exact typesAgree op payload (overloadSameKind member)
  · obtain ⟨own, _, _, ownSpelled, ownFilled⟩ := bodiesFilled (alike ▸ has)
    rw [filled, ownFilled, alike, Except.ok.injEq, List.map_inj_left] at same
    obtain ⟨overload, member⟩ := List.exists_mem_of_ne_nil _ ((hasBodiesIffOverloads _).mp has)
    obtain ⟨names, payloads⟩ := Skeleton.fillInjective (same overload member)
    exact ⟨names, ownSpelled.trans (congrArg some payloads)⟩

/- Its payload spells a placeholder of the template that its body goes into. -/
def nestedOperation : Operation :=
  ⟨⟨"NESTED", by decide⟩, ⟨"NESTED_ENUM", by decide⟩, by decide,
    .infixArithmetic ⟨"{{nodename}}", by decide, by decide⟩⟩

theorem nestedPayloadKept : nestedOperation.category.hasBodies = true ∧
    bodies nestedOperation = .ok ((overloads .infixArithmetic).map fun overload =>
      (skeleton .infixArithmetic overload).fill "NESTED" "{{nodename}}") := by
  have has : nestedOperation.category.hasBodies = true := rfl
  obtain ⟨payload, spelled, filled, _⟩ := bodiesFillSkeletons has
  cases spelled
  exact ⟨has, filled⟩

end DoubleDispatch.Emit
