import DoubleDispatch.Catalog.Terminal
import DoubleDispatch.Proofs.Text.Lines
import Mathlib.Data.List.Nodup

/-! The names of terminal types: all different, and parts of identifiers throughout. -/
namespace DoubleDispatch.Catalog
open Text (identifierPart Single)

theorem Domain.camelParts (d : Domain) : ∀ c ∈ d.camel.toList, identifierPart c = true := by
  cases d <;> exact List.all_eq_true.mp (by decide)

theorem Shape.camelParts (s : Shape) : ∀ c ∈ s.camel.toList, identifierPart c = true := by
  cases s <;> exact List.all_eq_true.mp (by decide)

namespace Terminal

theorem typeNameParts (t : Terminal) : ∀ c ∈ t.typeName.toList, identifierPart c = true := by
  intro c member
  simp only [typeName, String.toList_append, List.mem_append] at member
  rcases member with (front | domain) | shape
  · have all : "OG".toList.all identifierPart = true := by decide
    exact List.all_eq_true.mp all c front
  · exact t.domain.camelParts c domain
  · exact t.shape.camelParts c shape

theorem typeNameSingle (t : Terminal) : Single t.typeName := fun found =>
  absurd (t.typeNameParts '\n' found) (by decide)

theorem typeNamesNodup : (all.map typeName).Nodup := by decide

theorem typeNameInjective {a b : Terminal} (same : a.typeName = b.typeName) : a = b :=
  List.inj_on_of_nodup_map typeNamesNodup a.memAll b.memAll same

end Terminal
end DoubleDispatch.Catalog
