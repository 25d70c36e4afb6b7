import DoubleDispatch.Emit.Enumeration
import DoubleDispatch.Proofs.Catalog.History

/-! Ordinals are positions, and positions outlive every history of the catalogue. -/
namespace DoubleDispatch.Emit
open Catalog (Operation Operations Row smallRows smallCatalog)

namespace Enumeration

theorem ofOperationsExtends {ops longer : Operations} (extends_ : ops.entries <+: longer.entries) :
    (ofOperations ops).entries <+: (ofOperations longer).entries := by
  obtain ⟨added, entries⟩ := extends_
  refine ⟨(added.zipIdx ops.entries.length).map Enumerated.of, ?_⟩
  simp only [ofOperations, ← entries, List.zipIdx_append, List.map_append, Nat.zero_add]

/- Both catalogue and enumeration find an entry at its position. -/
theorem ordinalOfOperations (ops : Operations) (enumName : String) :
    (ofOperations ops).ordinalOf? enumName = ops.ordinalOf? enumName := by
  have general : ∀ (entries : List Operation) (start : Nat),
      (((entries.zipIdx start).map Enumerated.of).find?
        (fun entry => entry.enumName == enumName)).map Enumerated.ordinal =
      (entries.findIdx? (fun op => op.enumName.text == enumName)).map (· + start) := by
    intro entries
    induction entries with
    | nil => simp
    | cons op rest ih =>
      intro start
      simp only [List.zipIdx_cons, List.map_cons, List.find?_cons, List.findIdx?_cons,
        Enumerated.of]
      cases op.enumName.text == enumName with
      | true => simp
      | false =>
        simp only [ih, Bool.false_eq_true, if_false, Option.map_map]
        congr 1
        funext n
        simp
        omega
  simpa [ordinalOf?, ofOperations, Operations.ordinalOf?] using general ops.entries 0

end Enumeration

theorem historyKeepsOrdinals (ops : Operations) :
    (∃ rows, Operations.ofRows rows = .ok ops) ∧
    (∀ rows, Operations.ofRows rows = .ok ops →
      (∀ row, Operations.ofRows (rows ++ [row]) = ops.append row) ∧
      ∀ attempts, (ops.accepted attempts).Sublist attempts ∧
        Operations.ofRows (rows ++ ops.accepted attempts) = .ok (ops.grown attempts)) ∧
    (∀ attempts,
      ops.entries <+: (ops.grown attempts).entries ∧
      (Enumeration.ofOperations ops).entries <+:
        (Enumeration.ofOperations (ops.grown attempts)).entries ∧
      (∀ enumName i, ops.ordinalOf? enumName = some i →
        (ops.grown attempts).ordinalOf? enumName = some i) ∧
      ∀ enumName i, (Enumeration.ofOperations ops).ordinalOf? enumName = some i →
        (Enumeration.ofOperations (ops.grown attempts)).ordinalOf? enumName = some i) ∧
    ∀ row error, ops.append row = .error error →
      ∀ attempts, ∃ later, (ops.grown attempts).append row = .error later := by
  refine ⟨⟨_, ops.ofRowsToRow⟩, fun rows built => ?_, fun attempts => ?_,
    fun row error rejected attempts =>
      Operations.rejectedStays (ops.grownExtends attempts) rejected⟩
  · exact ⟨Operations.ofRowsAppend built,
      fun attempts => ⟨ops.acceptedSublist attempts, Operations.grownFromRows built attempts⟩⟩
  · have extended := ops.grownExtends attempts
    refine ⟨extended, Enumeration.ofOperationsExtends extended,
      fun _ _ => Operations.ordinalStays extended, fun enumName i found => ?_⟩
    rw [Enumeration.ordinalOfOperations] at found ⊢
    exact Operations.ordinalStays extended found

/- A row that is offered again under a name in use, between two that are fine. -/
def smallAttempts : List Row :=
  [.placeholderBinary "DOT", .placeholderUnary "PLUS", .placeholderUnary "ABS"]

theorem smallHistoryKeepsOrdinals :
    Operations.ofRows smallRows = .ok smallCatalog ∧
    smallCatalog.ordinalOf? "COS_ENUM" = some 1 ∧
    smallCatalog.append (.placeholderUnary "PLUS") = .error (.duplicateEnumName "PLUS_ENUM" 0 3) ∧
    Operations.ofRows (smallRows ++ smallCatalog.accepted smallAttempts) =
      .ok (smallCatalog.grown smallAttempts) ∧
    (smallCatalog.grown smallAttempts).ordinalOf? "COS_ENUM" = some 1 ∧
    ∃ later, (smallCatalog.grown smallAttempts).append (.placeholderUnary "PLUS") =
      .error later := by
  have built : Operations.ofRows smallRows = .ok smallCatalog := by rfl
  have found : smallCatalog.ordinalOf? "COS_ENUM" = some 1 := by decide
  have rejected : smallCatalog.append (.placeholderUnary "PLUS") =
      .error (.duplicateEnumName "PLUS_ENUM" 0 3) := by rfl
  obtain ⟨_, fromRows, kept, refused⟩ := historyKeepsOrdinals smallCatalog
  exact ⟨built, found, rejected, ((fromRows smallRows built).2 smallAttempts).2,
    (kept smallAttempts).2.2.1 _ _ found, refused _ _ rejected smallAttempts⟩

end DoubleDispatch.Emit
