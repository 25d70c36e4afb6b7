import DoubleDispatch.Proofs.Catalog.Terminal
import DoubleDispatch.Proofs.Emit.Generator
import Mathlib.Data.List.Pairwise

/-! The scope of the emitted sources, with the identifiers of both catalogues in it. Within each of
them all identifiers differ, and no runner is called like a type or a tag. Nothing else is compared
across the two, so an operation and its enumeration name may be called like a type or its tag. -/
namespace DoubleDispatch.Catalog

namespace Terminal

def identifiers (t : Terminal) : List String := [t.typeName, t.typeTag]

theorem allIdentifiersNodup : (all.flatMap identifiers).Nodup := by decide

/- A type ends in its shape, and a tag in the word for tags. -/
theorem identifierNoRunner (t : Terminal) :
    ∀ x ∈ t.identifiers, "Runner".toList.isSuffixOf x.toList = false := by
  have each : ∀ t ∈ all, ∀ x ∈ t.identifiers, "Runner".toList.isSuffixOf x.toList = false := by
    decide
  exact each t t.memAll

end Terminal

theorem Terminals.identifiersNodup (terminals : Terminals) :
    (terminals.entries.flatMap Terminal.identifiers).Nodup := by
  obtain ⟨own, apart⟩ := List.nodup_flatMap.mp Terminal.allIdentifiersNodup
  refine List.nodup_flatMap.mpr ⟨fun t _ => own t t.memAll, ?_⟩
  have either : Std.Symm (Function.onFun List.Disjoint Terminal.identifiers) :=
    ⟨fun _ _ disjoint _ one other => disjoint other one⟩
  exact terminals.distinct.imp fun {a b} differ => apart.forall a.memAll b.memAll differ

theorem Operation.runnerNoIdentifier (op : Operation) (t : Terminal) :
    op.runnerName ∉ t.identifiers := by
  intro member
  have ending : "Runner".toList.isSuffixOf op.runnerName.toList = true := by
    rw [List.isSuffixOf_iff_suffix]
    exact ⟨op.name.text.toList, String.toList_append.symm⟩
  rw [t.identifierNoRunner _ member] at ending
  contradiction

end DoubleDispatch.Catalog

namespace DoubleDispatch.Emit
open Catalog (Operation Operations Terminal Terminals)

def scope (ops : Operations) (terminals : Terminals) : List String :=
  ops.entries.flatMap Operation.identifiers ++ terminals.entries.flatMap Terminal.identifiers

theorem scopeDistinct (ops : Operations) (terminals : Terminals) :
    (ops.entries.flatMap Operation.identifiers).Nodup ∧
    (terminals.entries.flatMap Terminal.identifiers).Nodup ∧
    (∀ op ∈ ops.entries, ∀ t ∈ terminals.entries, op.runnerName ∉ t.identifiers) ∧
    ((scope ops terminals).Nodup ↔ ∀ op ∈ ops.entries, ∀ t ∈ terminals.entries,
      op.name.text ∉ t.identifiers ∧ op.enumName.text ∉ t.identifiers) := by
  refine ⟨ops.distinct, terminals.identifiersNodup, fun op _ t _ => op.runnerNoIdentifier t, ?_⟩
  rw [scope, List.nodup_append]
  constructor
  · rintro ⟨_, _, apart⟩ op here t there
    have other : ∀ x ∈ op.identifiers, x ∉ t.identifiers := fun x own shared =>
      apart x (List.mem_flatMap.mpr ⟨op, here, own⟩) x (List.mem_flatMap.mpr ⟨t, there, shared⟩) rfl
    exact ⟨other _ (by simp [Operation.identifiers]), other _ (by simp [Operation.identifiers])⟩
  · intro apart
    refine ⟨ops.distinct, terminals.identifiersNodup, ?_⟩
    rintro x own _ shared rfl
    obtain ⟨op, here, identifier⟩ := List.mem_flatMap.mp own
    obtain ⟨t, there, same⟩ := List.mem_flatMap.mp shared
    obtain ⟨noName, noEnumName⟩ := apart op here t there
    simp only [Operation.identifiers, List.mem_cons, List.not_mem_nil, or_false] at identifier
    rcases identifier with rfl | rfl | rfl
    · exact noEnumName same
    · exact noName same
    · exact op.runnerNoIdentifier t same

/- An operation called like a terminal type, and one whose enumeration name is that of a tag. -/
def clashingCatalog : Operations where
  entries :=
    [⟨⟨"OGRealScalar", by decide⟩, ⟨"OGRealScalar_ENUM", by decide⟩, by decide, .placeholderUnary⟩,
     ⟨⟨"REAL_SCALAR", by decide⟩, ⟨"REAL_SCALAR_ENUM", by decide⟩, by decide, .placeholderUnary⟩]
  nonempty := by decide
  distinct := by decide

def clashingGenerator : Generator := ⟨clashingCatalog, .reference, .standard, by decide⟩

theorem clashingGeneratorMade :
    Generator.make clashingCatalog .reference .standard = .ok clashingGenerator :=
  Generator.makeAccepted .standard clashingGenerator.accepted

theorem clashingCatalogAccepted :
    Operations.ofRows [.placeholderUnary "OGRealScalar", .placeholderUnary "REAL_SCALAR"] =
      .ok clashingCatalog ∧
    (∃ g, Generator.make clashingCatalog .reference .standard = .ok g) ∧
    ¬ (scope clashingCatalog .reference).Nodup ∧
    (∃ op ∈ clashingCatalog.entries, ∃ t ∈ Terminals.reference.entries, op.name.text = t.typeName) ∧
    ∃ op ∈ clashingCatalog.entries, ∃ t ∈ Terminals.reference.entries,
      op.enumName.text = t.typeTag := by
  exact ⟨rfl, ⟨_, clashingGeneratorMade⟩, by decide, by decide, by decide⟩

end DoubleDispatch.Emit
