import DoubleDispatch.Emit.Enumeration
import DoubleDispatch.Proofs.Emit.Written

/-! The fragments that the enumeration is written from, all of them complete. -/
namespace DoubleDispatch.Emit
open Template (Fragment Covers)
open Template.Fragment (texts)

namespace Enumeration

def headerPage (e : Enumeration) (names : Names) : Fragment :=
  ((((Fragment.of .enumHeader).set "namespace" names.namespaceName).set "count"
    (Decimal.text e.size)).set "entries" (texts (e.entries.map Enumerated.headerEntry))).set
    "function_tags" (texts (e.entries.map Enumerated.headerTag))

def headerFragments (e : Enumeration) (names : Names) : List Fragment :=
  e.entries.map Enumerated.headerEntry ++
    (e.entries.map Enumerated.headerTag ++ [e.headerPage names])

theorem headerWrites (e : Enumeration) (names : Names) :
    Writes (e.header names) (e.headerFragments names) (e.headerPage names).text :=
  .bind (.fillAll (e.entries.map Enumerated.headerEntry))
    (.bind (.fillAll (e.entries.map Enumerated.headerTag)) (.fill (e.headerPage names)))

theorem headerComplete (e : Enumeration) (names : Names) :
    ∀ f ∈ e.headerFragments names, f.Complete := by
  simp only [headerFragments, List.forall_mem_append, List.forall_mem_map,
    List.forall_mem_singleton]
  exact
    ⟨fun _ _ => (by decide : Covers .enumHeaderEntry ["ordinal", "enumname"]),
     fun _ _ => (by decide : Covers .enumHeaderTag ["tag_literal", "enumname"]),
     (by decide : Covers .enumHeader ["function_tags", "entries", "count", "namespace"])⟩

def javaPage (e : Enumeration) (names : Names) : Fragment :=
  ((Fragment.of .enumJava).set "package" names.javaPackage).set "entries"
    (texts (e.entries.map Enumerated.javaEntry))

def javaFragments (e : Enumeration) (names : Names) : List Fragment :=
  e.entries.map Enumerated.javaEntry ++ [e.javaPage names]

theorem javaWrites (e : Enumeration) (names : Names) :
    Writes (e.java names) (e.javaFragments names) (e.javaPage names).text :=
  .bind (.fillAll (e.entries.map Enumerated.javaEntry)) (.fill (e.javaPage names))

theorem javaComplete (e : Enumeration) (names : Names) :
    ∀ f ∈ e.javaFragments names, f.Complete := by
  simp only [javaFragments, List.forall_mem_append, List.forall_mem_map, List.forall_mem_singleton]
  exact
    ⟨fun _ _ => (by decide : Covers .enumJavaEntry ["tag_literal", "ordinal", "enumname"]),
     (by decide : Covers .enumJava ["entries", "package"])⟩

end Enumeration
end DoubleDispatch.Emit
