/-! The first repeat in a list, read from the left: the earliest element whose key an element
before it has, together with that element. There is none exactly when all keys differ. -/
namespace DoubleDispatch.Catalog

variable {α β : Type} [DecidableEq β]

def firstRepeatAfter (key : α → β) (seen : List α) : List α → Option (α × α)
  | [] => none
  | x :: rest =>
    match seen.find? (fun y => key y = key x) with
    | some y => some (y, x)
    | none => firstRepeatAfter key (seen ++ [x]) rest

def firstRepeat (key : α → β) (xs : List α) : Option (α × α) := firstRepeatAfter key [] xs

theorem firstRepeatAfterNone {key : α → β} {seen xs : List α}
    (fresh : (seen.map key).Nodup) :
    firstRepeatAfter key seen xs = none ↔ ((seen ++ xs).map key).Nodup := by
  induction xs generalizing seen with
  | nil => simpa [firstRepeatAfter] using fresh
  | cons x rest ih =>
    simp only [firstRepeatAfter]
    cases found : seen.find? (fun y => key y = key x) with
    | some y =>
      have member := List.mem_of_find?_eq_some found
      have same : key y = key x := by simpa using List.find?_some found
      simp only [reduceCtorEq, false_iff]
      intro distinct
      rw [List.map_append, List.nodup_append] at distinct
      exact distinct.2.2 (key y) (List.mem_map_of_mem member) (key x) (by simp) same
    | none =>
      have absent : key x ∉ seen.map key := by
        intro member
        obtain ⟨y, present, same⟩ := List.mem_map.mp member
        have refused := List.find?_eq_none.mp found y present
        simp [same] at refused
      have grown : ((seen ++ [x]).map key).Nodup := by
        rw [List.map_append, List.nodup_append]
        refine ⟨fresh, by simp, ?_⟩
        intro a present b single
        simp only [List.map_cons, List.map_nil, List.mem_singleton] at single
        rintro rfl
        exact absent (single ▸ present)
      have step := ih grown
      rw [List.append_assoc, List.singleton_append] at step
      exact step

theorem firstRepeatNone {key : α → β} {xs : List α} :
    firstRepeat key xs = none ↔ (xs.map key).Nodup := by
  have step := @firstRepeatAfterNone _ _ _ key [] xs (by simp)
  simpa [firstRepeat] using step

end DoubleDispatch.Catalog
