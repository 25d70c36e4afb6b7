import DoubleDispatch.Emit.Dispatch
import DoubleDispatch.Proofs.Emit.Written

/-! The fragments that the dispatch table is written from, all of them complete. -/
namespace DoubleDispatch.Emit
open Catalog (Terminal Terminals Operation Operations)
open Template (Fragment Covers)
open Template.Fragment (texts)

def declaredNames (ops : Operations) (terminals : Terminals) : List String :=
  terminals.entries.map Terminal.typeName ++ ops.entries.map Operation.runnerName

def dispatchHeaderPage (ops : Operations) (terminals : Terminals) (names : Names) : Fragment :=
  ((((Fragment.of .dispatchHeader).set "namespace" names.namespaceName).set "forward_decls"
    (texts ((declaredNames ops terminals).map forwardDeclaration))).set "unary_entry_points"
    (texts (terminals.entries.map dispatchUnaryEntry))).set "binary_entry_points"
    (texts ((terminalPairs terminals).map dispatchBinaryEntry)) |>.set "runner_members"
    (texts (ops.entries.map runnerMember))

def dispatchHeaderFragments (ops : Operations) (terminals : Terminals) (names : Names) :
    List Fragment :=
  (declaredNames ops terminals).map forwardDeclaration ++
    (terminals.entries.map dispatchUnaryEntry ++
      ((terminalPairs terminals).map dispatchBinaryEntry ++
        (ops.entries.map runnerMember ++ [dispatchHeaderPage ops terminals names])))

theorem dispatchHeaderWrites (ops : Operations) (terminals : Terminals) (names : Names) :
    Writes (dispatchHeader ops terminals names) (dispatchHeaderFragments ops terminals names)
      (dispatchHeaderPage ops terminals names).text :=
  .bind (.fillAll ((declaredNames ops terminals).map forwardDeclaration))
    (.bind (.fillAll (terminals.entries.map dispatchUnaryEntry))
      (.bind (.fillAll ((terminalPairs terminals).map dispatchBinaryEntry))
        (.bind (.fillAll (ops.entries.map runnerMember))
          (.fill (dispatchHeaderPage ops terminals names)))))

theorem dispatchHeaderComplete (ops : Operations) (terminals : Terminals) (names : Names) :
    ∀ f ∈ dispatchHeaderFragments ops terminals names, f.Complete := by
  simp only [dispatchHeaderFragments, List.forall_mem_append, List.forall_mem_map,
    List.forall_mem_singleton]
  exact
    ⟨fun _ _ => (by decide : Covers .forwardDeclaration ["name"]),
     fun _ _ => (by decide : Covers .dispatchUnaryEntry ["argtype"]),
     fun _ _ => (by decide : Covers .dispatchBinaryEntry ["arg1type", "arg0type"]),
     fun _ _ => (by decide : Covers .runnerMember ["nodename"]),
     (by decide : Covers .dispatchHeader
       ["runner_members", "binary_entry_points", "unary_entry_points", "forward_decls",
        "namespace"])⟩

def binaryCaseOf (terminals : Terminals) (left : Terminal) : Fragment :=
  outerCase left (texts (terminals.entries.map (innerCase left)))

def dispatchSourcePage (ops : Operations) (terminals : Terminals) (names : Names) : Fragment :=
  (((((Fragment.of .dispatchSource).set "namespace" names.namespaceName).set "unary_eval_cases"
    (texts (terminals.entries.map unaryCase))).set "unary_defaults"
    (texts (terminals.entries.map unaryDefault))).set "binary_eval_cases"
    (texts (terminals.entries.map (binaryCaseOf terminals)))).set "binary_defaults"
    (texts ((terminalPairs terminals).map binaryDefault)) |>.set "runner_constructions"
    (texts (ops.entries.map runnerConstruction)) |>.set "runner_destructions"
    (texts (ops.entries.map runnerDestruction)) |>.set "dispatch_cases"
    (texts (ops.entries.map dispatchCase))

def dispatchSourceFragments (ops : Operations) (terminals : Terminals) (names : Names) :
    List Fragment :=
  terminals.entries.flatMap
      (fun left => terminals.entries.map (innerCase left) ++ [binaryCaseOf terminals left]) ++
    (terminals.entries.map unaryCase ++ (terminals.entries.map unaryDefault ++
      ((terminalPairs terminals).map binaryDefault ++ (ops.entries.map runnerConstruction ++
        (ops.entries.map runnerDestruction ++ (ops.entries.map dispatchCase ++
          [dispatchSourcePage ops terminals names]))))))

theorem dispatchSourceWrites (ops : Operations) (terminals : Terminals) (names : Names) :
    Writes (dispatchSource ops terminals names) (dispatchSourceFragments ops terminals names)
      (dispatchSourcePage ops terminals names).text :=
  .bind
    (.eachFragment fun left _ =>
      .bind (.fillAll (terminals.entries.map (innerCase left)))
        (.fill (binaryCaseOf terminals left)))
    (.bind (.fillAll (terminals.entries.map unaryCase))
      (.bind (.fillAll (terminals.entries.map unaryDefault))
        (.bind (.fillAll ((terminalPairs terminals).map binaryDefault))
          (.bind (.fillAll (ops.entries.map runnerConstruction))
            (.bind (.fillAll (ops.entries.map runnerDestruction))
              (.bind (.fillAll (ops.entries.map dispatchCase))
                (.fill (dispatchSourcePage ops terminals names))))))))

theorem dispatchSourceComplete (ops : Operations) (terminals : Terminals) (names : Names) :
    ∀ f ∈ dispatchSourceFragments ops terminals names, f.Complete := by
  simp only [dispatchSourceFragments, List.forall_mem_append, List.forall_mem_flatMap,
    List.forall_mem_map, List.forall_mem_singleton]
  exact
    ⟨fun _ _ =>
       ⟨fun _ _ => (by decide : Covers .dispatchBinaryEvalInnerCase
          ["arg1type", "arg0type", "typeenum"]),
        (by decide : Covers .dispatchBinaryEvalOuterCase ["inner_cases", "typeenum"])⟩,
     fun _ _ => (by decide : Covers .dispatchUnaryEvalCase ["argtype", "typeenum"]),
     fun _ _ => (by decide : Covers .dispatchUnaryDefault ["argtype"]),
     fun _ _ => (by decide : Covers .dispatchBinaryDefault ["arg1type", "arg0type"]),
     fun _ _ => (by decide : Covers .runnerConstruction ["nodename"]),
     fun _ _ => (by decide : Covers .runnerDestruction ["nodename"]),
     fun _ _ => (by decide : Covers .dispatchCase ["eval_args", "nodename", "enumname"]),
     (by decide : Covers .dispatchSource
       ["dispatch_cases", "runner_destructions", "runner_constructions", "binary_defaults",
        "binary_eval_cases", "unary_defaults", "unary_eval_cases", "namespace"])⟩

end DoubleDispatch.Emit
