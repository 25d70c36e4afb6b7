import DoubleDispatch.Template.Fragment
import DoubleDispatch.Proofs.Text.Lines

/-! Filling succeeds exactly when the names that were set are the placeholders of the kind, and then
gives the text of the template with every slot replaced. Each line of a filled template is one line
of the text, and a block contributes the lines of its value. -/
namespace DoubleDispatch.Template

def Covers (kind : Kind) (names : List String) : Prop :=
  (∀ p ∈ kind.placeholders, p ∈ names) ∧ ∀ p ∈ names, p ∈ kind.placeholders
instance (kind names) : Decidable (Covers kind names) := by unfold Covers; infer_instance

theorem leastNameNone {names : List String} : leastName names = none ↔ names = [] := by
  cases names with
  | nil => simp [leastName]
  | cons name rest => cases h : leastName rest <;> simp [leastName, h]

namespace Fragment

def names (f : Fragment) : List String := f.newestFirst.map Prod.fst

def Complete (f : Fragment) : Prop := Covers f.kind f.names
instance (f : Fragment) : Decidable f.Complete := by unfold Complete; infer_instance

def text (f : Fragment) : String := String.join (f.kind.pieces.map f.textOf)

theorem valueNone {f : Fragment} {p : String} : f.value? p = none ↔ p ∉ f.names := by
  simp only [value?, names, List.lookup_eq_none_iff, List.mem_map, not_exists, not_and]
  exact ⟨fun h entry member same => by simpa [same] using h entry member,
    fun h entry member => by simpa using fun same => h entry member same.symm⟩

theorem missingNone {f : Fragment} :
    f.missing? = none ↔ ∀ p ∈ f.kind.placeholders, p ∈ f.names := by
  simp only [missing?, List.find?_eq_none, Option.isNone_iff_eq_none, valueNone, not_not]

theorem unexpectedNone {f : Fragment} :
    f.unexpected? = none ↔ ∀ p ∈ f.names, p ∈ f.kind.placeholders := by
  simp [unexpected?, leastNameNone, names]

theorem fillComplete {f : Fragment} (complete : f.Complete) : f.fill = .ok f.text := by
  simp only [fill, missingNone.mpr complete.1, unexpectedNone.mpr complete.2, text]

theorem fillOk {f : Fragment} {filled : String} :
    f.fill = .ok filled ↔ f.Complete ∧ filled = f.text := by
  constructor
  · intro ok
    unfold fill at ok
    cases missing : f.missing? with
    | some p => simp [missing] at ok
    | none =>
      cases unexpected : f.unexpected? with
      | some p => simp [missing, unexpected] at ok
      | none =>
        have complete : f.Complete := ⟨missingNone.mp missing, unexpectedNone.mp unexpected⟩
        simp only [missing, unexpected, Except.ok.injEq] at ok
        exact ⟨complete, ok.symm⟩
  · rintro ⟨complete, rfl⟩
    exact fillComplete complete

end Fragment
end DoubleDispatch.Template
