import DoubleDispatch.Emit.Runners
import DoubleDispatch.Proofs.Emit.Written

/-! The fragments that the runners are written from. All of them are complete, whatever the category
and the payload of an operation are, and bodies come out for the operations that have some. -/
namespace DoubleDispatch.Emit
open Catalog (Operation Operations)
open Template (Fragment Covers)
open Template.Fragment (texts)

def classOf (op : Operation) : Fragment := runnerClass op (texts (members op))

def runnersHeaderPage (ops : Operations) (names : Names) : Fragment :=
  ((Fragment.of .runnersHeader).set "namespace" names.namespaceName).set "class_definitions"
    (texts (ops.entries.map classOf))

def runnersHeaderFragments (ops : Operations) (names : Names) : List Fragment :=
  ops.entries.flatMap (fun op => members op ++ [classOf op]) ++ [runnersHeaderPage ops names]

theorem runnersHeaderWrites (ops : Operations) (names : Names) :
    Writes (runnersHeader ops names) (runnersHeaderFragments ops names)
      (runnersHeaderPage ops names).text :=
  .bind (.eachFragment fun op _ => .bind (.fillAll (members op)) (.fill (classOf op)))
    (.fill (runnersHeaderPage ops names))

theorem membersComplete (op : Operation) : ∀ f ∈ members op, f.Complete := by
  intro f member
  rcases List.mem_cons.mp member with rfl | member
  · exact (by decide : Covers .runnerBaseOverloads ["base"])
  · split at member
    · rw [List.mem_singleton.mp member]
      exact (by decide : Covers .runnerEvalEntry ["params"])
    · obtain ⟨overload, _, rfl⟩ := List.mem_map.mp member
      cases overload with
      | unary operand => exact (by decide : Covers .runnerUnaryEntry ["argtype"])
      | binary left right =>
        exact (by decide : Covers .runnerBinaryEntry ["arg1type", "arg0type"])

theorem runnersHeaderComplete (ops : Operations) (names : Names) :
    ∀ f ∈ runnersHeaderFragments ops names, f.Complete := by
  intro f member
  rcases List.mem_append.mp member with inside | last
  · obtain ⟨op, _, part⟩ := List.mem_flatMap.mp inside
    rcases List.mem_append.mp part with entry | whole
    · exact membersComplete op f entry
    · rw [List.mem_singleton.mp whole]
      exact (by decide : Covers .runnerClass ["members", "base", "nodename"])
  · rw [List.mem_singleton.mp last]
    exact (by decide : Covers .runnersHeader ["class_definitions", "namespace"])

def functionOf (op : Operation) (payload : Payload) (overload : Overload) : Fragment :=
  runnerFunction op overload (implementation payload overload.result).text

def functionsOf (op : Operation) : List Fragment :=
  match payload? op with
  | some payload => (overloads op.category).map (functionOf op payload)
  | none => []

def bodyFragments (op : Operation) : List Fragment :=
  match payload? op with
  | some payload =>
    (overloads op.category).flatMap
      (fun overload => [implementation payload overload.result, functionOf op payload overload])
  | none => []

def runnersSourcePage (ops : Operations) (names : Names) : Fragment :=
  ((Fragment.of .runnersSource).set "namespace" names.namespaceName).set "function_definitions"
    (texts ((bodied ops).flatMap functionsOf))

def runnersSourceFragments (ops : Operations) (names : Names) : List Fragment :=
  (bodied ops).flatMap bodyFragments ++ [runnersSourcePage ops names]

theorem payloadIffBodies (op : Operation) :
    (payload? op).isSome = true ↔ op.category.hasBodies = true := by
  unfold payload? Operation.category
  cases op.kind <;> simp [Catalog.Kind.category, Catalog.Category.hasBodies]

theorem bodiesWrites {op : Operation} (has : op.category.hasBodies = true) :
    Writes (bodies op) (bodyFragments op) ((functionsOf op).map Fragment.text) := by
  obtain ⟨payload, found⟩ := Option.isSome_iff_exists.mp ((payloadIffBodies op).mpr has)
  simp only [bodies, bodyFragments, functionsOf, found]
  exact .eachFragment fun overload _ =>
    .bind (.fill (implementation payload overload.result)) (.fill (functionOf op payload overload))

theorem runnersSourceWrites (ops : Operations) (names : Names) :
    Writes (runnersSource ops names) (runnersSourceFragments ops names)
      (runnersSourcePage ops names).text := by
  refine .bind (.each fun op member => bodiesWrites (List.mem_filter.mp member).2) ?_
  have joined : ((bodied ops).map (fun op => (functionsOf op).map Fragment.text)).flatten =
      ((bodied ops).flatMap functionsOf).map Fragment.text := by
    rw [List.map_flatMap, List.flatMap]
  rw [joined]
  exact .fill (runnersSourcePage ops names)

theorem implementationComplete (payload : Payload) (result : Catalog.Terminal) :
    (implementation payload result).Complete := by
  unfold implementation
  cases payload with
  | infixSymbol symbol =>
    split
    · exact (by decide : Covers .infixScalarBody ["returntype", "symbol"])
    · exact (by decide : Covers .infixMatrixBody ["returntype", "symbol", "datatype"])
  | prefixSymbol symbol =>
    split
    · exact (by decide : Covers .prefixScalarBody ["returntype", "symbol"])
    · exact (by decide : Covers .prefixMatrixBody ["returntype", "symbol", "datatype"])
  | function name =>
    split
    · exact (by decide : Covers .functionScalarBody ["returntype", "function"])
    · exact (by decide : Covers .functionMatrixBody ["returntype", "function", "datatype"])

theorem functionComplete (op : Operation) (payload : Payload) (overload : Overload) :
    (functionOf op payload overload).Complete := by
  cases overload with
  | unary operand =>
    exact (by decide : Covers .unaryRunnerFunction
      ["implementation", "returntype", "nodename", "argtype"])
  | binary left right =>
    exact (by decide : Covers .binaryRunnerFunction
      ["implementation", "returntype", "nodename", "arg1type", "arg0type"])

theorem bodyFragmentsComplete (op : Operation) : ∀ f ∈ bodyFragments op, f.Complete := by
  intro f member
  unfold bodyFragments at member
  split at member
  · rename_i payload _
    obtain ⟨overload, _, part⟩ := List.mem_flatMap.mp member
    simp only [List.mem_cons, List.not_mem_nil, or_false] at part
    rcases part with rfl | rfl
    · exact implementationComplete payload overload.result
    · exact functionComplete op payload overload
  · contradiction

theorem runnersSourceComplete (ops : Operations) (names : Names) :
    ∀ f ∈ runnersSourceFragments ops names, f.Complete := by
  intro f member
  rcases List.mem_append.mp member with inside | last
  · obtain ⟨op, _, part⟩ := List.mem_flatMap.mp inside
    exact bodyFragmentsComplete op f part
  · rw [List.mem_singleton.mp last]
    exact (by decide : Covers .runnersSource ["function_definitions", "namespace"])

/- Bodies come out for exactly the operations of the categories that have them. -/
theorem bodiesIff (op : Operation) :
    (∃ functions, bodies op = .ok functions) ↔ op.category.hasBodies = true := by
  constructor
  · rintro ⟨functions, ok⟩
    rw [← payloadIffBodies]
    cases found : payload? op with
    | none => simp [bodies, found] at ok
    | some payload => rfl
  · intro has
    exact ⟨_, (bodiesWrites has).done (bodyFragmentsComplete op)⟩

end DoubleDispatch.Emit
