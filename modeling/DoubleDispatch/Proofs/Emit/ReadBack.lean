import DoubleDispatch.Proofs.Catalog.Operations
import DoubleDispatch.Proofs.Emit.EnumerationTexts
import DoubleDispatch.Proofs.Emit.Manifest

/-! All three texts of the enumeration tell the same: the constants of the catalogue in its order,
each at its position. -/
namespace DoubleDispatch.Emit
open Catalog (Operation Operations smallCatalog)

/- The constants as the catalogue has them. -/
def enumeratorsOf (ops : Operations) : List Enumerator :=
  ops.entries.zipIdx.map fun entry => ⟨entry.1.enumName.text, entry.2, entry.1.functionTag⟩

namespace Enumeration

theorem enumeratorsOfEntries (ops : Operations) :
    (ofOperations ops).entries.map Enumerated.enumerator = enumeratorsOf ops := by
  rw [ofOperations, List.map_map]
  rfl

theorem entryAt {ops : Operations} {op : Operation} {i : Nat} (found : ops.entries[i]? = some op) :
    (ofOperations ops).entries[i]? = some (Enumerated.of (op, i)) := by
  simp [ofOperations, List.getElem?_zipIdx, found]

theorem atOrdinal {ops : Operations} {entry : Enumerated}
    (member : entry ∈ (ofOperations ops).entries) :
    (ofOperations ops).entries[entry.ordinal]? = some entry := by
  obtain ⟨⟨op, i⟩, place, rfl⟩ := List.mem_map.mp member
  exact entryAt (List.mem_zipIdx_iff_getElem?.mp place)

theorem ordinalSmall {ops : Operations} {entry : Enumerated}
    (member : entry ∈ (ofOperations ops).entries) : entry.ordinal < ops.size := by
  have inside := (List.getElem?_eq_some_iff.mp (atOrdinal member)).1
  simpa [ofOperations, Operations.size] using inside

/- The tables of the header are consistent: at the value of a constant stands its tag. -/
theorem headerEnumerators (ops : Operations) (slots : Nat) :
    HeaderTables.enumerators
      ⟨(ofOperations ops).entries.map (fun entry => (entry.enumName, entry.ordinal)), slots,
        (ofOperations ops).entries.map Enumerated.functionTag⟩ = some (enumeratorsOf ops) := by
  rw [← enumeratorsOfEntries]
  refine Outcome.mapMSome fun entry member => ?_
  simp [List.getElem?_map, atOrdinal member, Enumerated.enumerator]

end Enumeration

theorem enumerationReadsBack (ops : Operations) (names : Names) :
    (∃ text tables, (Enumeration.ofOperations ops).header names = .ok text ∧
      readHeader names text = some tables ∧
      tables.enumerators = some (enumeratorsOf ops) ∧
      tables.slots = tables.values.length ∧ tables.tags.length = tables.slots ∧
      ∀ (i : Nat) (op : Operation), ops.entries[i]? = some op →
        tables.values[i]? = some (op.enumName.text, i) ∧
        tables.tags[i]? = some op.functionTag) ∧
    (∃ text, (Enumeration.ofOperations ops).java names = .ok text ∧
      readJava names text = some (enumeratorsOf ops)) ∧
    (∀ meaning, (∀ n < ops.size, Exact meaning n) →
      readManifest meaning (Enumeration.ofOperations ops).json =
        some (ops.entries.zipIdx.map Enumerated.of)) ∧
    (ops.size ≤ Json.coefficientLimit →
      readManifest Json.number (Enumeration.ofOperations ops).json =
        some (ops.entries.zipIdx.map Enumerated.of)) ∧
    readManifest wholeNumbers (Enumeration.ofOperations ops).json =
      some (ops.entries.zipIdx.map Enumerated.of) ∧
    (ops.entries.zipIdx.map Enumerated.of).map Enumerated.enumerator = enumeratorsOf ops ∧
    ∀ (i : Nat) (op : Operation), ops.entries[i]? = some op →
      (enumeratorsOf ops)[i]? = some ⟨op.enumName.text, i, op.functionTag⟩ ∧
      (ops.entries.zipIdx.map Enumerated.of)[i]? =
        some ⟨i, op.enumName.text, op.name.text, op.category, op.functionTag⟩ := by
  have named := Enumeration.named ops
  have manifest : ∀ meaning, (∀ n < ops.size, Exact meaning n) →
      readManifest meaning (Enumeration.ofOperations ops).json =
        some (ops.entries.zipIdx.map Enumerated.of) := fun meaning exact_ =>
    Enumeration.readManifestText fun entry member => exact_ _ (Enumeration.ordinalSmall member)
  refine ⟨⟨_, _, (Enumeration.headerWrites _ names).done (Enumeration.headerComplete _ names),
      Enumeration.readHeaderText named names, Enumeration.headerEnumerators ops _, ?_, ?_, ?_⟩,
    ⟨_, (Enumeration.javaWrites _ names).done (Enumeration.javaComplete _ names), ?_⟩,
    manifest, fun small => manifest Json.number fun n below => numberExact (by omega),
    manifest wholeNumbers fun n _ => wholeNumbersExact n,
    Enumeration.enumeratorsOfEntries ops, fun i op found => ⟨?_, Enumeration.entryAt found⟩⟩
  · simp [Enumeration.size]
  · simp [Enumeration.size]
  · intro i op found
    simp [List.getElem?_map, Enumeration.entryAt found, Enumerated.of]
  · rw [← Enumeration.enumeratorsOfEntries]
    exact Enumeration.readJavaText named names
  · simp [enumeratorsOf, List.getElem?_zipIdx, found]

theorem smallManifestReadsBack :
    smallCatalog.size ≤ Json.coefficientLimit ∧
    readManifest Json.number (Enumeration.ofOperations smallCatalog).json =
      some [⟨0, "PLUS_ENUM", "PLUS", .infixArithmetic, none⟩,
        ⟨1, "COS_ENUM", "COS", .elementwiseFunction, some "cos"⟩,
        ⟨2, "INV_ENUM", "INV", .externalUnary, none⟩] := by
  have small : smallCatalog.size ≤ Json.coefficientLimit := by decide
  exact ⟨small, (enumerationReadsBack smallCatalog .standard).2.2.2.1 small⟩

end DoubleDispatch.Emit
