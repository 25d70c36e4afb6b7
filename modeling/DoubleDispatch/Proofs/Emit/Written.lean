import DoubleDispatch.Emit.Basic
import DoubleDispatch.Proofs.Outcome
import DoubleDispatch.Proofs.Template.Lines

/-! Emission, fragment by fragment. A run of the emission writes a text from fragments if it comes
out well exactly when every one of them is complete, and then gives that text. Runs in sequence
write from the fragments of both, so what a whole artifact needs is read off its parts. -/
namespace DoubleDispatch.Emit
open Outcome (bindOk mapOk mapErrorOk mapMOk)
open Template (Fragment)

variable {α β γ : Type}

def Writes (run : Except Error α) (fragments : List Fragment) (written : α) : Prop :=
  ∀ found, run = .ok found ↔ (∀ f ∈ fragments, f.Complete) ∧ found = written

namespace Writes

theorem done {run : Except Error α} {fragments : List Fragment} {written : α}
    (writes : Writes run fragments written) (complete : ∀ f ∈ fragments, f.Complete) :
    run = .ok written :=
  (writes written).mpr ⟨complete, rfl⟩

theorem pure (x : α) : Writes (.ok x) [] x := by simp [Writes, eq_comm]

theorem fill (f : Fragment) : Writes (Emit.fill f) [f] f.text := by
  intro found
  rw [Emit.fill, mapErrorOk, Fragment.fillOk, List.forall_mem_singleton]

theorem fillAll (fragments : List Fragment) :
    Writes (Emit.fillAll fragments) fragments (Fragment.texts fragments) := by
  intro found
  have each : ∀ filled, fragments.mapM Fragment.fill = .ok filled ↔
      (∀ f ∈ fragments, f.Complete) ∧ filled = fragments.map Fragment.text :=
    mapMOk fun _ _ _ => Fragment.fillOk
  simp only [Emit.fillAll, mapErrorOk, Fragment.fillAll, mapOk, each]
  constructor
  · rintro ⟨filled, ⟨complete, rfl⟩, rfl⟩
    exact ⟨complete, rfl⟩
  · rintro ⟨complete, rfl⟩
    exact ⟨_, ⟨complete, rfl⟩, rfl⟩

theorem bind {run : Except Error α} {next : α → Except Error β} {fs gs : List Fragment} {x : α}
    {y : β} (first : Writes run fs x) (second : Writes (next x) gs y) :
    Writes (run >>= next) (fs ++ gs) y := by
  intro found
  simp only [bindOk, List.forall_mem_append]
  constructor
  · rintro ⟨filled, ran, ended⟩
    obtain ⟨front, rfl⟩ := (first filled).mp ran
    obtain ⟨back, same⟩ := (second found).mp ended
    exact ⟨⟨front, back⟩, same⟩
  · rintro ⟨⟨front, back⟩, rfl⟩
    exact ⟨x, first.done front, second.done back⟩

theorem each {run : γ → Except Error α} {xs : List γ} {fragments : γ → List Fragment}
    {written : γ → α} (one : ∀ x ∈ xs, Writes (run x) (fragments x) (written x)) :
    Writes (xs.mapM run) (xs.flatMap fragments) (xs.map written) := by
  intro found
  rw [mapMOk one, List.forall_mem_flatMap]

theorem eachFragment {run : γ → Except Error String} {xs : List γ} {fragments : γ → List Fragment}
    {last : γ → Fragment} (one : ∀ x ∈ xs, Writes (run x) (fragments x) (last x).text) :
    Writes (xs.mapM run) (xs.flatMap fragments) ((xs.map last).map Fragment.text) := by
  rw [List.map_map]
  exact each one

end Writes
end DoubleDispatch.Emit
