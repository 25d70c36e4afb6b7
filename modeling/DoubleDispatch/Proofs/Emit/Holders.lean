import DoubleDispatch.Emit.Holders
import DoubleDispatch.Emit.Construction
import DoubleDispatch.Proofs.Emit.Written

/-! The fragments that the data holders and the construction table are written from, all of them
complete. -/
namespace DoubleDispatch.Emit
open Catalog (Operations Terminals)
open Template (Fragment Covers)
open Template.Fragment (texts)

variable (ops : Operations) (terminals : Terminals) (names : Names)

def expressionHeaderPage : Fragment :=
  ((Fragment.of .expressionHeader).set "namespace" names.namespaceName).set "class_definitions"
    (texts ((holders ops).map expressionClass))

def expressionHeaderFragments : List Fragment :=
  (holders ops).map expressionClass ++ [expressionHeaderPage ops names]

theorem expressionHeaderWrites :
    Writes (expressionHeader ops names) (expressionHeaderFragments ops names)
      (expressionHeaderPage ops names).text :=
  .bind (.fillAll ((holders ops).map expressionClass)) (.fill (expressionHeaderPage ops names))

theorem expressionHeaderComplete : ∀ f ∈ expressionHeaderFragments ops names, f.Complete := by
  simp only [expressionHeaderFragments, List.forall_mem_append, List.forall_mem_map,
    List.forall_mem_singleton]
  exact
    ⟨fun _ _ => (by decide : Covers .expressionClass ["ctor_params", "base", "nodename"]),
     (by decide : Covers .expressionHeader ["class_definitions", "namespace"])⟩

def expressionSourcePage : Fragment :=
  ((Fragment.of .expressionSource).set "namespace" names.namespaceName).set "function_definitions"
    (texts ((holders ops).map expressionFunctions))

def expressionSourceFragments : List Fragment :=
  (holders ops).map expressionFunctions ++ [expressionSourcePage ops names]

theorem expressionSourceWrites :
    Writes (expressionSource ops names) (expressionSourceFragments ops names)
      (expressionSourcePage ops names).text :=
  .bind (.fillAll ((holders ops).map expressionFunctions)) (.fill (expressionSourcePage ops names))

theorem expressionSourceComplete : ∀ f ∈ expressionSourceFragments ops names, f.Complete := by
  simp only [expressionSourceFragments, List.forall_mem_append, List.forall_mem_map,
    List.forall_mem_singleton]
  exact
    ⟨fun _ _ => (by decide : Covers .expressionFunctions
       ["copy_args", "ctor_args", "ctor_params", "base", "enumname", "nodename"]),
     (by decide : Covers .expressionSource ["function_definitions", "namespace"])⟩

def holderDeclarations : List Fragment :=
  (holders ops).map (fun op => forwardDeclaration op.name.text)

def numericHeaderPage : Fragment :=
  (((Fragment.of .numericHeader).set "namespace" names.namespaceName).set "forward_decls"
    (texts (holderDeclarations ops))).set "conversions"
    (texts ((holders ops).map conversionDeclaration))

def numericHeaderFragments : List Fragment :=
  holderDeclarations ops ++
    ((holders ops).map conversionDeclaration ++ [numericHeaderPage ops names])

theorem numericHeaderWrites :
    Writes (numericHeader ops names) (numericHeaderFragments ops names)
      (numericHeaderPage ops names).text :=
  .bind (.fillAll (holderDeclarations ops))
    (.bind (.fillAll ((holders ops).map conversionDeclaration))
      (.fill (numericHeaderPage ops names)))

theorem numericHeaderComplete : ∀ f ∈ numericHeaderFragments ops names, f.Complete := by
  simp only [numericHeaderFragments, holderDeclarations, List.forall_mem_append,
    List.forall_mem_map, List.forall_mem_singleton]
  exact
    ⟨fun _ _ => (by decide : Covers .forwardDeclaration ["name"]),
     fun _ _ => (by decide : Covers .numericConversionDeclaration ["nodename"]),
     (by decide : Covers .numericHeader ["conversions", "forward_decls", "namespace"])⟩

def numericSourcePage : Fragment :=
  ((Fragment.of .numericSource).set "namespace" names.namespaceName).set "conversions"
    (texts ((holders ops).map conversionDefinition))

def numericSourceFragments : List Fragment :=
  (holders ops).map conversionDefinition ++ [numericSourcePage ops names]

theorem numericSourceWrites :
    Writes (numericSource ops names) (numericSourceFragments ops names)
      (numericSourcePage ops names).text :=
  .bind (.fillAll ((holders ops).map conversionDefinition)) (.fill (numericSourcePage ops names))

theorem numericSourceComplete : ∀ f ∈ numericSourceFragments ops names, f.Complete := by
  simp only [numericSourceFragments, List.forall_mem_append, List.forall_mem_map,
    List.forall_mem_singleton]
  exact
    ⟨fun _ _ => (by decide : Covers .numericConversionDefinition ["nodename"]),
     (by decide : Covers .numericSource ["conversions", "namespace"])⟩

def constructionPage : Fragment :=
  (((Fragment.of .constructionSource).set "namespace" names.namespaceName).set "terminal_cases"
    (texts (terminals.entries.map terminalConstruction))).set "operation_cases"
    (texts (ops.entries.map operationConstruction))

def constructionFragments : List Fragment :=
  terminals.entries.map terminalConstruction ++
    (ops.entries.map operationConstruction ++ [constructionPage ops terminals names])

theorem constructionWrites :
    Writes (constructionSource ops terminals names) (constructionFragments ops terminals names)
      (constructionPage ops terminals names).text :=
  .bind (.fillAll (terminals.entries.map terminalConstruction))
    (.bind (.fillAll (ops.entries.map operationConstruction))
      (.fill (constructionPage ops terminals names)))

theorem constructionComplete : ∀ f ∈ constructionFragments ops terminals names, f.Complete := by
  simp only [constructionFragments, List.forall_mem_append, List.forall_mem_map,
    List.forall_mem_singleton]
  exact
    ⟨fun _ _ => (by decide : Covers .constructionTerminalCase ["typename", "typeenum"]),
     fun _ _ => (by decide : Covers .constructionExpressionCase
       ["ctor_args", "arity", "nodename", "enumname"]),
     (by decide : Covers .constructionSource ["operation_cases", "terminal_cases", "namespace"])⟩

end DoubleDispatch.Emit
