import DoubleDispatch.Proofs.Emit.Generator

/-! How an artifact is laid out: text that no operation has a say in, sections with the fragments of
one operation after the other, and at one place the number of operations. Nothing stands between
the fragments of a section, and none of them depends on what follows it. -/
namespace DoubleDispatch.Emit
open Catalog (Operation Operations Terminal Terminals)
open Template (Fragment Kind Piece)
open Template.Fragment (texts)

inductive Part where
  | fixed (text : String)
  | size
  | units (of : Operation × Nat → List Fragment)

namespace Part

def text (entries : List Operation) : Part → String
  | fixed text => text
  | size => Decimal.text entries.length
  | units of => texts (entries.zipIdx.flatMap of)

/- The text with one operation more: a section keeps what it has and goes on with its fragments. -/
def grown (entries : List Operation) (op : Operation) : Part → String
  | fixed text => text
  | size => Decimal.text (entries.length + 1)
  | units of => texts (entries.zipIdx.flatMap of) ++ texts (of (op, entries.length))

def isSize : Part → Bool
  | size => true
  | _ => false

theorem textAppend (entries : List Operation) (op : Operation) (part : Part) :
    part.text (entries ++ [op]) = part.grown entries op := by
  cases part with
  | fixed text => rfl
  | size => simp [text, grown]
  | units of =>
    simp [text, grown, texts, List.zipIdx_append, List.flatMap_append, String.join_append]

def each (fragment : Operation → Fragment) : Part := units fun entry => [fragment entry.1]

def eachHolder (fragment : Operation → Fragment) : Part :=
  units fun entry => if entry.1.category.isExternal then [] else [fragment entry.1]

def eachEnumerated (fragment : Enumerated → Fragment) : Part :=
  units fun entry => [fragment (Enumerated.of entry)]

/- The functions of an operation, where it has bodies. -/
def functions : Part :=
  units fun entry => if entry.1.category.hasBodies then functionsOf entry.1 else []

end Part

def whole (entries : List Operation) (parts : List Part) : String :=
  String.join (parts.map (Part.text entries))

theorem wholeFixed (entries : List Operation) (text : String) :
    whole entries [.fixed text] = text := by
  simp [whole, Part.text, String.join_cons]

theorem wholeSize (ops : Operations) :
    whole ops.entries [.size] = Decimal.text (Enumeration.ofOperations ops).size := by
  simp [whole, Part.text, String.join_cons, Enumeration.size, Enumeration.ofOperations]

theorem wholeUnits (entries : List Operation) (of : Operation × Nat → List Fragment) :
    whole entries [.units of] = texts (entries.zipIdx.flatMap of) := by
  simp [whole, Part.text, String.join_cons]

/- Where the position of an operation plays no part. -/
theorem flatMapPositions {α β : Type} (entries : List α) (of : α → List β) (start : Nat) :
    (entries.zipIdx start).flatMap (fun entry => of entry.1) = entries.flatMap of := by
  rw [← List.flatMap_map Prod.fst of, List.zipIdx_map_fst]

theorem flatMapIf {α β : Type} (entries : List α) (p : α → Bool) (of : α → List β) :
    entries.flatMap (fun x => if p x then of x else []) = (entries.filter p).flatMap of := by
  induction entries with
  | nil => rfl
  | cons x rest ih => cases h : p x <;> simp [h, ih]

theorem wholeEach (entries : List Operation) (fragment : Operation → Fragment) :
    whole entries [.each fragment] = texts (entries.map fragment) := by
  rw [Part.each, wholeUnits, flatMapPositions entries (fun op => [fragment op]) 0,
    ← List.map_eq_flatMap]

theorem wholeHolders (ops : Operations) (fragment : Operation → Fragment) :
    whole ops.entries [.eachHolder fragment] = texts ((holders ops).map fragment) := by
  have turned : (fun op : Operation => if op.category.isExternal then [] else [fragment op]) =
      fun op => if !op.category.isExternal then [fragment op] else [] := by
    funext op
    cases op.category.isExternal <;> rfl
  rw [Part.eachHolder, wholeUnits, flatMapPositions ops.entries
    (fun op => if op.category.isExternal then [] else [fragment op]) 0, turned,
    flatMapIf ops.entries (fun op => !op.category.isExternal) (fun op => [fragment op]),
    ← List.map_eq_flatMap]
  rfl

theorem wholeEnumerated (ops : Operations) (fragment : Enumerated → Fragment) :
    whole ops.entries [.eachEnumerated fragment] =
      texts ((Enumeration.ofOperations ops).entries.map fragment) := by
  rw [Part.eachEnumerated, wholeUnits, Enumeration.ofOperations, List.map_map,
    ← List.map_eq_flatMap]
  rfl

theorem wholeFunctions (ops : Operations) :
    whole ops.entries [.functions] = texts ((bodied ops).flatMap functionsOf) := by
  rw [Part.functions, wholeUnits, flatMapPositions ops.entries
    (fun op => if op.category.hasBodies then functionsOf op else []) 0, flatMapIf]
  rfl

/- Terminal types are declared first, then runners. -/
theorem wholeDeclarations (ops : Operations) (terminals : Terminals) :
    whole ops.entries
        [.fixed (texts (terminals.entries.map fun t => forwardDeclaration t.typeName)),
         .each fun op => forwardDeclaration op.runnerName] =
      texts ((declaredNames ops terminals).map forwardDeclaration) := by
  have runners := wholeEach ops.entries fun op => forwardDeclaration op.runnerName
  rw [whole, List.map_cons, String.join_cons, ← whole, runners]
  simp [Part.text, declaredNames, texts, String.join_append, Function.comp_def]

/- What stands in the slots of a page, the last slot that was set first. -/
abbrev Sections := List (String × List Part)

def laidOut (kind : Kind) (sections : Sections) : List Part :=
  kind.pieces.flatMap fun piece => match piece with
    | .text literal => [.fixed literal]
    | .slot placeholder => (sections.lookup placeholder).getD []

def pageOf (kind : Kind) (sections : Sections) (entries : List Operation) : Fragment :=
  ⟨kind, sections.map fun s => (s.1, whole entries s.2)⟩

theorem lookupWhole (sections : Sections) (entries : List Operation) (placeholder : String) :
    ((sections.map fun s => (s.1, whole entries s.2)).lookup placeholder).getD "" =
      whole entries ((sections.lookup placeholder).getD []) := by
  induction sections with
  | nil => rfl
  | cons s rest ih =>
    rw [List.map_cons, List.lookup_cons, List.lookup_cons]
    cases placeholder == s.1 with
    | true => rfl
    | false => exact ih

theorem wholeFlatMap {α : Type} (entries : List Operation) (xs : List α) (parts : α → List Part) :
    whole entries (xs.flatMap parts) = String.join (xs.map fun x => whole entries (parts x)) := by
  induction xs with
  | nil => rfl
  | cons x rest ih =>
    rw [List.flatMap_cons, List.map_cons, String.join_cons, ← ih]
    simp [whole, String.join_append]

theorem pageOfText (kind : Kind) (sections : Sections) (entries : List Operation) :
    (pageOf kind sections entries).text = whole entries (laidOut kind sections) := by
  rw [laidOut, wholeFlatMap, Fragment.text]
  refine congrArg String.join (List.map_congr_left fun piece _ => ?_)
  cases piece with
  | text literal => exact (wholeFixed entries literal).symm
  | slot placeholder => exact lookupWhole sections entries placeholder

section
variable (terminals : Terminals) (names : Names)

def namespaceSection : String × List Part := ("namespace", [.fixed names.namespaceName])

def dispatchHeaderSections : Sections :=
  [("runner_members", [.each runnerMember]),
   ("binary_entry_points", [.fixed (texts ((terminalPairs terminals).map dispatchBinaryEntry))]),
   ("unary_entry_points", [.fixed (texts (terminals.entries.map dispatchUnaryEntry))]),
   ("forward_decls",
     [.fixed (texts (terminals.entries.map fun t => forwardDeclaration t.typeName)),
      .each fun op => forwardDeclaration op.runnerName]),
   namespaceSection names]

def dispatchSourceSections : Sections :=
  [("dispatch_cases", [.each dispatchCase]), ("runner_destructions", [.each runnerDestruction]),
   ("runner_constructions", [.each runnerConstruction]),
   ("binary_defaults", [.fixed (texts ((terminalPairs terminals).map binaryDefault))]),
   ("binary_eval_cases", [.fixed (texts (terminals.entries.map (binaryCaseOf terminals)))]),
   ("unary_defaults", [.fixed (texts (terminals.entries.map unaryDefault))]),
   ("unary_eval_cases", [.fixed (texts (terminals.entries.map unaryCase))]),
   namespaceSection names]

/- The manifest is the one artifact without a template. -/
def layout? : Artifact → Option (List Part)
  | .runnersHeader => some (laidOut .runnersHeader
      [("class_definitions", [.each classOf]), namespaceSection names])
  | .runnersSource => some (laidOut .runnersSource
      [("function_definitions", [.functions]), namespaceSection names])
  | .dispatchHeader => some (laidOut .dispatchHeader (dispatchHeaderSections terminals names))
  | .dispatchSource => some (laidOut .dispatchSource (dispatchSourceSections terminals names))
  | .expressionHeader => some (laidOut .expressionHeader
      [("class_definitions", [.eachHolder expressionClass]), namespaceSection names])
  | .expressionSource => some (laidOut .expressionSource
      [("function_definitions", [.eachHolder expressionFunctions]), namespaceSection names])
  | .numericHeader => some (laidOut .numericHeader
      [("conversions", [.eachHolder conversionDeclaration]),
       ("forward_decls", [.eachHolder fun op => forwardDeclaration op.name.text]),
       namespaceSection names])
  | .numericSource => some (laidOut .numericSource
      [("conversions", [.eachHolder conversionDefinition]), namespaceSection names])
  | .enumHeader => some (laidOut .enumHeader
      [("function_tags", [.eachEnumerated Enumerated.headerTag]),
       ("entries", [.eachEnumerated Enumerated.headerEntry]), ("count", [.size]),
       namespaceSection names])
  | .enumJava => some (laidOut .enumJava
      [("entries", [.eachEnumerated Enumerated.javaEntry]),
       ("package", [.fixed names.javaPackage])])
  | .enumJson => none
  | .constructionSource => some (laidOut .constructionSource
      [("operation_cases", [.each operationConstruction]),
       ("terminal_cases", [.fixed (texts (terminals.entries.map terminalConstruction))]),
       namespaceSection names])

theorem layoutNone {a : Artifact} : layout? terminals names a = none ↔ a = .enumJson := by
  cases a <;> simp [layout?]

end

theorem Generator.layoutText (g : Generator) {a : Artifact} {parts : List Part}
    (laid : layout? g.terminals g.names a = some parts) :
    g.text a = whole g.operations.entries parts := by
  have page : ∀ {kind : Kind} {sections : Sections} {f : Fragment},
      f = pageOf kind sections g.operations.entries →
      f.text = whole g.operations.entries (laidOut kind sections) := by
    rintro kind sections _ rfl
    exact pageOfText kind sections g.operations.entries
  cases a <;> cases laid <;> refine page ?_ <;>
    simp only [pageOf, List.map_cons, List.map_nil, namespaceSection, dispatchHeaderSections,
      dispatchSourceSections, wholeFixed, wholeEach, wholeHolders, wholeEnumerated, wholeFunctions,
      wholeSize, wholeDeclarations] <;>
    rfl

end DoubleDispatch.Emit
