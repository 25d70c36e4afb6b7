import DoubleDispatch.Proofs.Emit.Layout
import DoubleDispatch.Proofs.Emit.ReadBack

/-! Artifacts before and after one operation is added to the catalogue. Every section keeps its text
and goes on with the fragments of the new operation; of all other text only the declared size of
the tag table changes. What has no fragments of the new operation does not change at all. -/
namespace DoubleDispatch.Emit
open Catalog (Operation Operations Row Terminals smallCatalog)
open Json (Meaning parseAs)

def wholeGrown (entries : List Operation) (op : Operation) (parts : List Part) : String :=
  String.join (parts.map (Part.grown entries op))

theorem wholeAppend (entries : List Operation) (op : Operation) (parts : List Part) :
    whole (entries ++ [op]) parts = wholeGrown entries op parts :=
  congrArg String.join (List.map_congr_left fun part _ => part.textAppend entries op)

/- The table of tags is the one place that states how many operations there are. -/
theorem sizeOnce {terminals : Terminals} {names : Names} {a : Artifact} {parts : List Part}
    (laid : layout? terminals names a = some parts) :
    parts.countP Part.isSize = if a = .enumHeader then 1 else 0 := by
  cases a <;> cases laid <;> rfl

/- No fragments of the new operation in any section. -/
def Untouched (op : Operation) (position : Nat) : Part → Prop
  | .fixed _ => True
  | .size => False
  | .units of => of (op, position) = []

theorem wholeUntouched {entries : List Operation} {op : Operation} {parts : List Part}
    (untouched : ∀ part ∈ parts, Untouched op entries.length part) :
    wholeGrown entries op parts = whole entries parts := by
  refine congrArg String.join (List.map_congr_left fun part member => ?_)
  have kept := untouched part member
  cases part with
  | fixed text => rfl
  | size => contradiction
  | units of =>
    rw [Part.grown, Part.text, show of (op, entries.length) = [] from kept]
    exact String.append_empty

theorem laidOutUntouched {kind : Template.Kind} {sections : Sections} {op : Operation}
    {position : Nat} (untouched : ∀ s ∈ sections, ∀ part ∈ s.2, Untouched op position part) :
    ∀ part ∈ laidOut kind sections, Untouched op position part := by
  intro part member
  obtain ⟨piece, _, inside⟩ := List.mem_flatMap.mp member
  cases piece with
  | text literal =>
    rw [List.mem_singleton.mp inside]
    trivial
  | slot placeholder =>
    cases found : sections.lookup placeholder with
    | none => simp [found] at inside
    | some parts =>
      obtain ⟨front, back, split, _⟩ := List.lookup_eq_some_iff.mp found
      exact untouched (placeholder, parts) (by simp [split]) part (by simpa [found] using inside)

def holderArtifacts : List Artifact :=
  [.expressionHeader, .expressionSource, .numericHeader, .numericSource]

theorem externalUntouched {op : Operation} (external : op.category.isExternal = true)
    (position : Nat) {terminals : Terminals} {names : Names} {a : Artifact}
    (holder : a ∈ holderArtifacts) {parts : List Part}
    (laid : layout? terminals names a = some parts) :
    ∀ part ∈ parts, Untouched op position part := by
  simp only [holderArtifacts, List.mem_cons, List.not_mem_nil, or_false] at holder
  rcases holder with rfl | rfl | rfl | rfl <;> cases laid <;> refine laidOutUntouched ?_ <;>
    simp [namespaceSection, Untouched, Part.eachHolder, external]

theorem bodilessUntouched {op : Operation} (none : op.category.hasBodies = false) (position : Nat)
    {terminals : Terminals} {names : Names} {parts : List Part}
    (laid : layout? terminals names .runnersSource = some parts) :
    ∀ part ∈ parts, Untouched op position part := by
  cases laid
  refine laidOutUntouched ?_
  simp [namespaceSection, Untouched, Part.functions, none]

/- The documents of the operations, as the manifest lists them. -/
def documents (ops : Operations) : List Document :=
  (Enumeration.ofOperations ops).entries.map Enumerated.document

theorem documentsAppend {ops next : Operations} {op : Operation}
    (entries : next.entries = ops.entries ++ [op]) :
    documents next = documents ops ++ [(Enumerated.of (op, ops.size)).document] := by
  simp [documents, Enumeration.ofOperations, entries, List.zipIdx_append, Operations.size]

theorem parseDocuments {ops : Operations} {meaning : Meaning}
    (exact_ : ∀ n < ops.size, Exact meaning n) :
    parseAs meaning (Enumeration.ofOperations ops).json =
      some (.table [("operations", .list (documents ops))]) :=
  Enumeration.parseManifest fun _ member => exact_ _ (Enumeration.ordinalSmall member)

theorem appendOnlyGrows {ops next : Operations} {row : Row} {terminals : Terminals}
    {names : Names} {g later : Generator} (appended : ops.append row = .ok next)
    (before : Generator.make ops terminals names = .ok g)
    (after : Generator.make next terminals names = .ok later) :
    ∃ op, Operation.ofRow row = .ok op ∧ next.entries = ops.entries ++ [op] ∧
      (∀ a, layout? terminals names a = none ↔ a = .enumJson) ∧
      (∀ a parts, layout? terminals names a = some parts →
        g.artifact a = .ok (whole ops.entries parts) ∧
        later.artifact a = .ok (wholeGrown ops.entries op parts) ∧
        parts.countP Part.isSize = if a = .enumHeader then 1 else 0) ∧
      (∃ manifest longer, g.artifact .enumJson = .ok manifest ∧
        later.artifact .enumJson = .ok longer ∧
        ∀ meaning, (∀ n < next.size, Exact meaning n) →
          parseAs meaning manifest = some (.table [("operations", .list (documents ops))]) ∧
          parseAs meaning longer = some (.table [("operations",
            .list (documents ops ++ [(Enumerated.of (op, ops.size)).document]))])) ∧
      (op.category.isExternal = true → ∀ a ∈ holderArtifacts, later.artifact a = g.artifact a) ∧
      (op.category.hasBodies = false →
        later.artifact .runnersSource = g.artifact .runnersSource) := by
  obtain ⟨op, read, entries⟩ := Operations.appendOk.mp appended
  obtain ⟨rfl, rfl, rfl⟩ := Generator.madeOf before
  obtain ⟨rfl, sameTerminals, sameNames⟩ := Generator.madeOf after
  have grown : ∀ a parts, layout? g.terminals g.names a = some parts →
      g.artifact a = .ok (whole g.operations.entries parts) ∧
      later.artifact a = .ok (wholeGrown g.operations.entries op parts) := by
    intro a parts laid
    refine ⟨(g.artifactText a).trans (congrArg _ (g.layoutText laid)),
      (later.artifactText a).trans (congrArg _ ?_)⟩
    rw [later.layoutText (sameTerminals ▸ sameNames ▸ laid), entries, wholeAppend]
  have untouched : ∀ a parts, layout? g.terminals g.names a = some parts →
      (∀ part ∈ parts, Untouched op g.operations.entries.length part) →
      later.artifact a = g.artifact a := by
    intro a parts laid none
    obtain ⟨first, second⟩ := grown a parts laid
    rw [first, second, wholeUntouched none]
  refine ⟨op, read, entries, fun a => layoutNone g.terminals g.names, fun a parts laid =>
    ⟨(grown a parts laid).1, (grown a parts laid).2, sizeOnce laid⟩, ?_, ?_, ?_⟩
  · refine ⟨_, _, g.artifactText .enumJson, later.artifactText .enumJson,
      fun meaning exact_ => ⟨parseDocuments fun n small => exact_ n ?_, ?_⟩⟩
    · have longer : later.operations.size = g.operations.size + 1 := by
        simp [Operations.size, entries]
      omega
    · rw [← documentsAppend entries]
      exact parseDocuments exact_
  · intro external a holder
    cases laid : layout? g.terminals g.names a with
    | none =>
      rw [(layoutNone _ _).mp laid] at holder
      exact absurd holder (by decide)
    | some parts =>
      exact untouched a parts laid (externalUntouched external _ holder laid)
  · intro none
    have laid : layout? g.terminals g.names .runnersSource = some _ := rfl
    exact untouched .runnersSource _ laid (bodilessUntouched none _ laid)

/- A matrix norm, which neither has a data holder nor bodies. -/
def normOperation : Operation :=
  ⟨⟨"NORM", by decide⟩, ⟨"NORM_ENUM", by decide⟩, by decide, .externalUnary⟩

def grownCatalog : Operations where
  entries := smallCatalog.entries ++ [normOperation]
  nonempty := by decide
  distinct := by decide

theorem grownCatalogGrows :
    smallCatalog.append (.externalUnary "NORM" "NORM_ENUM") = .ok grownCatalog ∧
    ∃ later, Generator.make grownCatalog .reference .standard = .ok later ∧
      later.artifact .numericHeader = smallGenerator.artifact .numericHeader ∧
      later.artifact .runnersSource = smallGenerator.artifact .runnersSource := by
  have appended : smallCatalog.append (.externalUnary "NORM" "NORM_ENUM") = .ok grownCatalog := by
    rfl
  have accepted : checkTerminals grownCatalog .reference = .ok () := by decide
  have made := Generator.makeAccepted .standard accepted
  obtain ⟨op, read, _, _, _, _, holders, bodies⟩ :=
    appendOnlyGrows appended smallGeneratorMade made
  have same : op.category = .externalUnary := by
    have norm : Operation.ofRow (.externalUnary "NORM" "NORM_ENUM") = .ok normOperation := by rfl
    rw [← Except.ok.inj (norm.symm.trans read)]
    rfl
  exact ⟨appended, _, made, holders (by rw [same]; rfl) _ (by decide),
    bodies (by rw [same]; rfl)⟩

end DoubleDispatch.Emit
