import DoubleDispatch.Proofs.Catalog.Operations

/-! Histories of a catalogue: rows are offered one after the other, and a row that is rejected
leaves the catalogue as it is. A history only ever adds to the end, so it could have been built in
one go from the rows that were accepted, and what clashed once clashes ever after. -/
namespace DoubleDispatch.Catalog
namespace Operations

def attempt (ops : Operations) (row : Row) : Operations :=
  match ops.append row with
  | .ok next => next
  | .error _ => ops

/- The catalogue at the end of a history. -/
def grown (ops : Operations) (attempts : List Row) : Operations := attempts.foldl attempt ops

def accepted (ops : Operations) : List Row → List Row
  | [] => []
  | row :: rest =>
    match ops.append row with
    | .ok next => row :: accepted next rest
    | .error _ => accepted ops rest

theorem acceptedSublist (ops : Operations) (attempts : List Row) :
    (ops.accepted attempts).Sublist attempts := by
  induction attempts generalizing ops with
  | nil => exact List.Sublist.refl []
  | cons row rest ih =>
    rw [accepted]
    cases ops.append row with
    | error error => exact (ih ops).cons row
    | ok next => exact (ih next).cons_cons row

theorem grownFromRows {rows : List Row} {ops : Operations} (built : ofRows rows = .ok ops)
    (attempts : List Row) : ofRows (rows ++ ops.accepted attempts) = .ok (ops.grown attempts) := by
  induction attempts generalizing rows ops with
  | nil => simpa [accepted, grown] using built
  | cons row rest ih =>
    simp only [accepted, grown, List.foldl_cons, attempt]
    cases offered : ops.append row with
    | error error => exact ih built
    | ok next =>
      have longer : ofRows (rows ++ [row]) = .ok next := by rw [ofRowsAppend built, offered]
      simpa [grown] using ih longer

theorem attemptExtends (ops : Operations) (row : Row) :
    ops.entries <+: (ops.attempt row).entries := by
  unfold attempt
  cases offered : ops.append row with
  | error error => exact List.prefix_rfl
  | ok next =>
    obtain ⟨op, _, entries⟩ := appendOk.mp offered
    exact ⟨[op], entries.symm⟩

theorem grownExtends (ops : Operations) (attempts : List Row) :
    ops.entries <+: (ops.grown attempts).entries := by
  induction attempts generalizing ops with
  | nil => exact List.prefix_rfl
  | cons row rest ih => exact (attemptExtends ops row).trans (ih (ops.attempt row))

/- The first entry with a name stays the first one. -/
theorem ordinalStays {ops longer : Operations} (extends_ : ops.entries <+: longer.entries)
    {enumName : String} {i : Nat} (found : ops.ordinalOf? enumName = some i) :
    longer.ordinalOf? enumName = some i := by
  obtain ⟨added, entries⟩ := extends_
  unfold ordinalOf? at found ⊢
  rw [← entries, List.findIdx?_append, found, Option.some_or]

theorem appendAccepted {ops : Operations} {row : Row} :
    (∃ next, ops.append row = .ok next) ↔ ∃ op, Operation.ofRow row = .ok op ∧
      ((ops.entries ++ [op]).flatMap Operation.identifiers).Nodup := by
  simp only [appendOk]
  constructor
  · rintro ⟨next, op, read, entries⟩
    exact ⟨op, read, entries ▸ next.distinct⟩
  · rintro ⟨op, read, distinct⟩
    exact ⟨⟨ops.entries ++ [op], by simp, distinct⟩, op, read, rfl⟩

theorem rejectedStays {ops longer : Operations} (extends_ : ops.entries <+: longer.entries)
    {row : Row} {error : Error} (rejected : ops.append row = .error error) :
    ∃ later, longer.append row = .error later := by
  cases offered : longer.append row with
  | error later => exact ⟨later, rfl⟩
  | ok next =>
    obtain ⟨op, read, distinct⟩ := appendAccepted.mp ⟨next, offered⟩
    obtain ⟨added, entries⟩ := extends_
    rw [← entries, List.flatMap_append, List.flatMap_append] at distinct
    have fewer : ((ops.entries ++ [op]).flatMap Operation.identifiers).Nodup := by
      rw [List.flatMap_append]
      exact distinct.sublist ((List.sublist_append_left _ _).append (List.Sublist.refl _))
    obtain ⟨smaller, ok⟩ := appendAccepted.mpr ⟨op, read, fewer⟩
    rw [rejected] at ok
    contradiction

end Operations
end DoubleDispatch.Catalog
