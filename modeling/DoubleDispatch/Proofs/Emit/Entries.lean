import DoubleDispatch.Proofs.Emit.DefaultTexts
import DoubleDispatch.Proofs.Emit.Supply
import DoubleDispatch.Proofs.Text.Signatures
import Mathlib.Data.List.ProdSigma

/-! Entry points and their operand types. What a declaration or a definition takes can be read off
it, so no two overloads share one; and of the members of a class those that are entry points stand
out by how they start. -/
namespace DoubleDispatch.Emit
open Catalog (Category Operation Operations Terminal Terminals)
open Text (dropFront? runStart evalStart declaredRun definedRun throws declaredAfter
  startsOtherwise)
open Text.ClassText (declaredNone declaredAll declaredSkip declaredTake)

namespace Overload

def arity : Overload → Category.Arity
  | .unary _ => .one
  | .binary _ _ => .two

def types (overload : Overload) : List String := overload.operands.map Terminal.typeName

theorem operandsInjective {a b : Overload} (same : a.operands = b.operands) : a = b := by
  cases a <;> cases b <;> simp_all [operands]

theorem typesInjective {a b : Overload} (same : a.types = b.types) : a = b :=
  operandsInjective (List.map_injective_iff.mpr (fun _ _ => Terminal.typeNameInjective) same)

theorem operandsCount (overload : Overload) :
    overload.operands.length = overload.arity.count := by
  cases overload <;> rfl

theorem ofOperands {operands : List Terminal} {arity : Category.Arity}
    (count : operands.length = arity.count) :
    ∃ overload : Overload, overload.operands = operands ∧ overload.arity = arity := by
  cases arity with
  | one =>
    obtain ⟨operand, rfl⟩ := List.length_eq_one_iff.mp count
    exact ⟨.unary operand, rfl, rfl⟩
  | two =>
    obtain ⟨left, right, rfl⟩ := List.length_eq_two.mp count
    exact ⟨.binary left right, rfl, rfl⟩

end Overload

theorem entryTypes (overload : Overload) :
    declaredRun.types? overload.entry = some overload.types := by
  cases overload with
  | unary operand => exact declaredRun.typesOne operand.typeNameParts
  | binary left right => exact declaredRun.typesTwo left.typeNameParts right.typeNameParts

theorem entryInjective {a b : Overload} (same : a.entry = b.entry) : a = b := by
  have types := congrArg declaredRun.types? same
  rw [entryTypes, entryTypes, Option.some.injEq] at types
  exact Overload.typesInjective types

theorem defaultTypes (overload : Overload) :
    (definedRun (runnerBase overload.arity)).types? (defaultHead overload) =
      some overload.types := by
  cases overload with
  | unary operand =>
    have front : (definedRun "DispatchVoidUnaryOp").front =
        "DispatchVoidUnaryOp::run(RegContainer*, const " := by decide
    have read := (definedRun "DispatchVoidUnaryOp").typesOne operand.typeNameParts
    rw [front] at read
    exact read
  | binary left right =>
    have front : (definedRun "DispatchVoidBinaryOp").front =
        "DispatchVoidBinaryOp::run(RegContainer*, const " := by decide
    have read := (definedRun "DispatchVoidBinaryOp").typesTwo left.typeNameParts
      right.typeNameParts
    rw [front] at read
    exact read

theorem defaultThrows (overload : Overload) : throws (defaultBlock overload).body = true := by
  have starts : (dropFront? "  throw " (thrownLine overload)).isSome = true := by
    cases overload <;> exact declaredAfter (by decide) _
  simp [throws, defaultBlock, starts]

/- Which entry points the base classes declare. -/
theorem everyOverloadIff {terminals : Terminals} {arity : Category.Arity} {overload : Overload} :
    overload ∈ everyOverload terminals arity ↔
      overload.arity = arity ∧ ∀ t ∈ overload.operands, t ∈ terminals.entries := by
  cases arity <;> cases overload <;>
    simp [everyOverload, terminalPairs, Overload.arity, Overload.operands]

theorem everyOverloadDistinct (terminals : Terminals) (arity : Category.Arity) :
    (everyOverload terminals arity).Nodup := by
  cases arity with
  | one => exact terminals.distinct.map fun _ _ same => Overload.unary.inj same
  | two =>
    have pairs : terminalPairs terminals = terminals.entries.product terminals.entries := rfl
    rw [everyOverload, pairs]
    refine (terminals.distinct.product terminals.distinct).map fun a b same => ?_
    exact Prod.ext (Overload.binary.inj same).1 (Overload.binary.inj same).2

theorem overloadArity {category : Category} {overload : Overload}
    (selected : overload ∈ overloads category) : overload.arity = category.arity := by
  cases category <;>
    simp only [overloads, List.mem_cons, List.not_mem_nil, or_false] at selected <;>
    rcases selected with rfl | rfl | rfl <;> rfl

theorem externalSelectsNone {category : Category} (external : category.isExternal = true) :
    overloads category = [] := by
  refine noBodiesNoOverloads (Bool.eq_false_iff.mpr fun bodies => ?_)
  rw [Category.bodiesNotExternal bodies] at external
  contradiction

/- Whatever an accepted operation overloads has an entry point in its base class. -/
theorem acceptedDeclares {ops : Operations} {terminals : Terminals}
    (accepted : checkTerminals ops terminals = .ok ()) {op : Operation} (member : op ∈ ops.entries)
    {overload : Overload} (selected : overload ∈ overloads op.category) :
    overload ∈ everyOverload terminals op.arity := by
  exact everyOverloadIff.mpr
    ⟨overloadArity selected, checkedOk.mp accepted op member overload selected⟩

theorem overridingRun (overload : Overload) :
    (dropFront? runStart overload.overriding).isSome = true := by
  cases overload <;> exact declaredAfter (by decide) _

theorem overridingNoEval (overload : Overload) :
    (dropFront? evalStart overload.overriding).isSome = false := by
  cases overload <;> exact startsOtherwise (by decide) _

theorem entryRun (overload : Overload) : (dropFront? runStart overload.entry).isSome = true := by
  cases overload <;> exact declaredAfter (by decide) _

theorem entryNoEval (overload : Overload) :
    (dropFront? evalStart overload.entry).isSome = false := by
  cases overload <;> exact startsOtherwise (by decide) _

theorem runnerRuns (op : Operation) : (runnerText op).declared runStart =
    (overloads op.category).map Overload.overriding := by
  have using_ : (dropFront? runStart (usingBase op.arity)).isSome = false :=
    startsOtherwise (by decide) _
  refine (declaredSkip (by decide)).trans ((declaredSkip using_).trans ?_)
  unfold overridingLines
  split
  · rename_i external
    have eval : (dropFront? runStart (evalOverriding op.arity)).isSome = false :=
      startsOtherwise (by decide) _
    rw [externalSelectsNone external]
    exact declaredNone (List.forall_mem_singleton.mpr eval)
  · exact declaredAll (List.forall_mem_map.mpr fun overload _ => overridingRun overload)

theorem runnerEvals (op : Operation) : (runnerText op).declared evalStart =
    if op.category.isExternal then [evalOverriding op.arity] else [] := by
  have using_ : (dropFront? evalStart (usingBase op.arity)).isSome = false :=
    startsOtherwise (by decide) _
  refine (declaredSkip (by decide)).trans ((declaredSkip using_).trans ?_)
  unfold overridingLines
  split
  · exact declaredAll (List.forall_mem_singleton.mpr (declaredAfter (by decide) _))
  · exact declaredNone (List.forall_mem_map.mpr fun overload _ => overridingNoEval overload)

theorem baseRuns (terminals : Terminals) (arity : Category.Arity) :
    (baseText terminals arity).declared runStart =
      (everyOverload terminals arity).map Overload.entry := by
  have destructor_ : (dropFront? runStart (destructor arity)).isSome = false := by
    cases arity <;> decide
  have eval : (dropFront? runStart (evalDeclared arity)).isSome = false :=
    startsOtherwise (by decide) _
  refine (declaredSkip (by decide)).trans ((declaredSkip destructor_).trans
    ((declaredSkip eval).trans ?_))
  exact declaredAll (List.forall_mem_map.mpr fun overload _ => entryRun overload)

theorem baseEvals (terminals : Terminals) (arity : Category.Arity) :
    (baseText terminals arity).declared evalStart = [evalDeclared arity] := by
  have destructor_ : (dropFront? evalStart (destructor arity)).isSome = false := by
    cases arity <;> decide
  refine (declaredSkip (by decide)).trans ((declaredSkip destructor_).trans
    ((declaredTake (declaredAfter (by decide) _)).trans ?_))
  exact congrArg (List.cons _)
    (declaredNone (List.forall_mem_map.mpr fun overload _ => entryNoEval overload))

end DoubleDispatch.Emit
