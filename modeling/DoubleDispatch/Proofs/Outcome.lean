import Mathlib.Data.List.Forall2

/-! Computations that stop at the first error: what it takes for one to come out well. -/
namespace DoubleDispatch.Outcome

variable {ε δ α β : Type}

theorem pureOk {x y : α} : (pure x : Except ε α) = .ok y ↔ y = x := by
  simp [pure, Except.pure, eq_comm]

theorem bindOk {first : Except ε α} {next : α → Except ε β} {y : β} :
    (first >>= next) = .ok y ↔ ∃ x, first = .ok x ∧ next x = .ok y := by
  cases first <;> simp [bind, Except.bind]

theorem bindError {first : Except ε α} {next : α → Except ε β} {error : ε} :
    (first >>= next) = .error error ↔
      first = .error error ∨ ∃ x, first = .ok x ∧ next x = .error error := by
  cases first <;> simp [bind, Except.bind]

theorem mapOk {run : Except ε α} {f : α → β} {y : β} :
    run.map f = .ok y ↔ ∃ x, run = .ok x ∧ f x = y := by
  cases run <;> simp [Except.map]

theorem mapErrorOk {run : Except ε α} {f : ε → δ} {x : α} :
    run.mapError f = .ok x ↔ run = .ok x := by
  cases run <;> simp [Except.mapError]

theorem mapMOk {run : α → Except ε β} {xs : List α} {valid : α → Prop} {result : α → β}
    (each : ∀ x ∈ xs, ∀ y, run x = .ok y ↔ valid x ∧ y = result x) (ys : List β) :
    xs.mapM run = .ok ys ↔ (∀ x ∈ xs, valid x) ∧ ys = xs.map result := by
  induction xs generalizing ys with
  | nil => simp [pureOk]
  | cons x rest ih =>
    have head := each x (by simp)
    have tail := ih fun y member => each y (by simp [member])
    simp only [List.mapM_cons, bindOk, pureOk, head, tail, List.forall_mem_cons, List.map_cons]
    constructor
    · rintro ⟨y, ⟨valid, rfl⟩, zs, ⟨others, rfl⟩, rfl⟩
      exact ⟨⟨valid, others⟩, rfl⟩
    · rintro ⟨⟨valid, others⟩, rfl⟩
      exact ⟨_, ⟨valid, rfl⟩, _, ⟨others, rfl⟩, rfl⟩

theorem mapMEach {run : α → Except ε β} {xs : List α} {ys : List β} :
    xs.mapM run = .ok ys ↔ List.Forall₂ (fun x y => run x = .ok y) xs ys := by
  induction xs generalizing ys with
  | nil => simp [pureOk]
  | cons x rest ih =>
    simp only [List.mapM_cons, bindOk, pureOk, ih, List.forall₂_cons_left_iff]
    constructor
    · rintro ⟨y, ran, zs, others, rfl⟩
      exact ⟨y, zs, ran, others, rfl⟩
    · rintro ⟨y, zs, ran, others, rfl⟩
      exact ⟨y, ran, zs, others, rfl⟩

/- The error is that of the first computation that fails. -/
theorem mapMError {run : α → Except ε β} {xs : List α} {error : ε} :
    xs.mapM run = .error error ↔ ∃ before x after ys, xs = before ++ x :: after ∧
      List.Forall₂ (fun x y => run x = .ok y) before ys ∧ run x = .error error := by
  constructor
  · intro failed
    induction xs with
    | nil => simp [pure, Except.pure] at failed
    | cons x rest ih =>
      cases first : run x with
      | error cause =>
        have same : cause = error := by simpa [first, bind, Except.bind] using failed
        exact ⟨[], x, rest, [], rfl, .nil, same ▸ first⟩
      | ok y =>
        have later : rest.mapM run = .error error := by
          cases tail : rest.mapM run with
          | error cause => simpa [first, tail, bind, Except.bind] using failed
          | ok zs => simp [first, tail, bind, Except.bind, pure, Except.pure] at failed
        obtain ⟨before, z, after, ys, rfl, ran, last⟩ := ih later
        exact ⟨x :: before, z, after, y :: ys, rfl, .cons first ran, last⟩
  · rintro ⟨before, x, after, ys, rfl, ran, last⟩
    induction ran with
    | nil => simp [last, bind, Except.bind]
    | cons first _ ih => simp [first, ih, bind, Except.bind]

theorem mapMSome {γ : Type} {read : β → Option γ} {line : α → β} {result : α → γ} {xs : List α}
    (each : ∀ x ∈ xs, read (line x) = some (result x)) :
    (xs.map line).mapM read = some (xs.map result) := by
  induction xs with
  | nil => rfl
  | cons x rest ih =>
    have tail := ih fun y member => each y (by simp [member])
    simp [each x (by simp), tail]

end DoubleDispatch.Outcome
