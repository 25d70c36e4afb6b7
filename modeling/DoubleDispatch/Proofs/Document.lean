import DoubleDispatch.Document
import Mathlib.Data.List.Forall2
import Mathlib.Data.List.Nodup

/-! Documents as trees. A table in which no name stands twice is known by what is found under each
name, whatever the order of its entries; two documents are the same tree if they differ in nothing
but that order and in how their lists are written. -/
namespace DoubleDispatch.Document

section
variable {α : Type} {entries others : List (String × α)} {name : String} {content : α}

theorem lookupNone : entries.lookup name = none ↔ name ∉ entries.map Prod.fst := by
  simp only [List.lookup_eq_none_iff, bne_iff_ne, List.mem_map, not_exists, not_and]
  exact ⟨fun other entry member same => other entry member same.symm,
    fun other entry member same => other entry member same.symm⟩

theorem lookupMember (found : entries.lookup name = some content) : (name, content) ∈ entries := by
  obtain ⟨front, back, split, _⟩ := List.lookup_eq_some_iff.mp found
  simp [split]

theorem lookupIff (once : (entries.map Prod.fst).Nodup) :
    entries.lookup name = some content ↔ (name, content) ∈ entries := by
  refine ⟨lookupMember, fun member => ?_⟩
  cases found : entries.lookup name with
  | none => exact absurd (List.mem_map_of_mem member) (lookupNone.mp found)
  | some other =>
    have same := List.inj_on_of_nodup_map once (lookupMember found) member rfl
    rw [(Prod.mk.inj same).2]

theorem lookupReordered (once : (entries.map Prod.fst).Nodup) (reordered : entries.Perm others)
    (name : String) : entries.lookup name = others.lookup name := by
  have again : (others.map Prod.fst).Nodup := (reordered.map Prod.fst).nodup_iff.mp once
  ext content
  rw [lookupIff once, lookupIff again, reordered.mem_iff]

end

/- The same tree, up to the order of entries and up to how lists are written. In a table no name
stands twice, and under each name both have the same tree or neither has one. -/
inductive Same : Document → Document → Prop where
  | leaf (d : Document) : Same d d
  | list {a b : Document} {items others : List Document} (first : a.items? = some items)
      (second : b.items? = some others) (each : List.Forall₂ Same items others) : Same a b
  | table {entries others : List Entry} (once : (entries.map Prod.fst).Nodup)
      (again : (others.map Prod.fst).Nodup)
      (each : ∀ name, Option.Rel Same (entries.lookup name) (others.lookup name)) :
      Same (.table entries) (.table others)

end DoubleDispatch.Document
