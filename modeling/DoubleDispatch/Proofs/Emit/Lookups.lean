import DoubleDispatch.Proofs.Catalog.Listing
import DoubleDispatch.Proofs.Emit.Ordinals

/-! What is found under an identifier. All identifiers of a catalogue differ, so each of them stands
for one entry and for that in one role: a name leads back to its entry, an enumeration name to its
position, and an identifier in another role leads nowhere. -/
namespace DoubleDispatch.Catalog

namespace Operation

theorem enumNameFirst (op : Operation) : op.identifiers[0]? = some op.enumName.text := rfl

theorem nameSecond (op : Operation) : op.identifiers[1]? = some op.name.text := rfl

theorem runnerThird (op : Operation) : op.identifiers[2]? = some op.runnerName := rfl

end Operation

/- The place of an identifier in the row of all identifiers tells its entry and its role. -/
theorem identifierPlace {entries : List Operation} {op : Operation} {i role : Nat} {x : String}
    (found : entries[i]? = some op) (own : op.identifiers[role]? = some x) :
    role < 3 ∧ (entries.flatMap Operation.identifiers)[3 * i + role]? = some x := by
  have inside : role < 3 := (List.getElem?_eq_some_iff.mp own).1
  have entry : (3 * i + role) / 3 = i := by omega
  have within : (3 * i + role) % 3 = role := by omega
  refine ⟨inside, ?_⟩
  rw [identifierAt, entry, within, found, Option.bind_some, own]

namespace Operations

variable {ops : Operations} {op a b : Operation} {i j role other : Nat} {x : String}

theorem identifierOnce (first : ops.entries[i]? = some a) (one : a.identifiers[role]? = some x)
    (second : ops.entries[j]? = some b) (again : b.identifiers[other]? = some x) :
    i = j ∧ role = other := by
  obtain ⟨_, here⟩ := identifierPlace first one
  obtain ⟨_, there⟩ := identifierPlace second again
  have inside := (List.getElem?_eq_some_iff.mp here).1
  have same := (List.getElem?_inj inside ops.distinct).mp (here.trans there.symm)
  omega

theorem getIff : ops.get? x = some op ↔ op ∈ ops.entries ∧ op.name.text = x := by
  unfold get?
  constructor
  · intro found
    exact ⟨List.mem_of_find?_eq_some found, by simpa using List.find?_some found⟩
  · rintro ⟨member, rfl⟩
    cases found : ops.entries.find? (fun other => other.name.text == op.name.text) with
    | none =>
      have refused := List.find?_eq_none.mp found op member
      simp at refused
    | some other =>
      have names : (ops.entries.map fun op => op.name.text).Nodup :=
        ops.distinctBy fun op => by simp [Operation.identifiers]
      have same : other.name.text = op.name.text := by simpa using List.find?_some found
      rw [List.inj_on_of_nodup_map names (List.mem_of_find?_eq_some found) member same]

theorem ordinalIff :
    ops.ordinalOf? x = some i ↔ ∃ op, ops.entries[i]? = some op ∧ op.enumName.text = x := by
  rw [ordinalOf?, List.findIdx?_eq_some_iff_getElem]
  constructor
  · rintro ⟨inside, same, _⟩
    exact ⟨_, List.getElem?_eq_getElem inside, by simpa using same⟩
  · rintro ⟨op, found, rfl⟩
    obtain ⟨inside, rfl⟩ := List.getElem?_eq_some_iff.mp found
    refine ⟨inside, by simp, fun j earlier same => ?_⟩
    -- an earlier entry with this enumeration name would be this entry
    have early : ops.entries[j]? = some ops.entries[j] := List.getElem?_eq_getElem _
    have equal : ops.entries[j].enumName.text = ops.entries[i].enumName.text := by
      simpa using same
    have again := ops.entries[i].enumNameFirst
    rw [← equal] at again
    have place := (identifierOnce early (Operation.enumNameFirst _) found again).1
    omega

theorem getOther (member : op ∈ ops.entries) (own : op.identifiers[role]? = some x)
    (noName : role ≠ 1) : ops.get? x = none := by
  cases found : ops.get? x with
  | none => rfl
  | some named =>
    obtain ⟨there, rfl⟩ := getIff.mp found
    obtain ⟨i, here⟩ := List.mem_iff_getElem?.mp member
    obtain ⟨j, again⟩ := List.mem_iff_getElem?.mp there
    exact absurd (identifierOnce here own again named.nameSecond).2 noName

theorem ordinalOther (member : op ∈ ops.entries) (own : op.identifiers[role]? = some x)
    (noEnumName : role ≠ 0) : ops.ordinalOf? x = none := by
  cases found : ops.ordinalOf? x with
  | none => rfl
  | some j =>
    obtain ⟨named, there, rfl⟩ := ordinalIff.mp found
    obtain ⟨i, here⟩ := List.mem_iff_getElem?.mp member
    exact absurd (identifierOnce here own there named.enumNameFirst).2 noEnumName

/- A history leaves the entries it finds and puts those of the accepted rows behind them. -/
theorem grownEntries (ops : Operations) (attempts : List Row) : ∃ added,
    RowsRead (ops.accepted attempts) added ∧
      (ops.grown attempts).entries = ops.entries ++ added := by
  induction attempts generalizing ops with
  | nil => exact ⟨[], .nil, (List.append_nil _).symm⟩
  | cons row rest ih =>
    simp only [accepted, grown, List.foldl_cons, attempt]
    cases offered : ops.append row with
    | error error => exact ih ops
    | ok next =>
      obtain ⟨op, read, longer⟩ := appendOk.mp offered
      obtain ⟨added, others, whole⟩ := ih next
      refine ⟨op :: added, .cons read others, ?_⟩
      rw [longer, List.append_assoc] at whole
      exact whole

end Operations
end DoubleDispatch.Catalog

namespace DoubleDispatch.Emit
open Catalog (Operation Operations Row RowsRead smallRows smallCatalog)

/- What a catalogue of these operations finds, and its enumeration with it. -/
structure Inverts (entries : List Operation) (ops : Operations) : Prop where
  kept : ops.entries = entries
  found : ∀ i op, entries[i]? = some op →
    ops.get? op.name.text = some op ∧ ops.ordinalOf? op.enumName.text = some i
  nameOnly : ∀ x op, ops.get? x = some op → op ∈ entries ∧ op.name.text = x
  enumNameOnly : ∀ x i, ops.ordinalOf? x = some i →
    ∃ op, entries[i]? = some op ∧ op.enumName.text = x
  noName : ∀ op ∈ entries, ops.get? op.enumName.text = none ∧ ops.get? op.runnerName = none
  noEnumName : ∀ op ∈ entries,
    ops.ordinalOf? op.name.text = none ∧ ops.ordinalOf? op.runnerName = none
  enumerated : ∀ x, (Enumeration.ofOperations ops).ordinalOf? x = ops.ordinalOf? x

theorem inverts (ops : Operations) : Inverts ops.entries ops where
  kept := rfl
  found i op place := ⟨Operations.getIff.mpr ⟨List.mem_of_getElem? place, rfl⟩,
    Operations.ordinalIff.mpr ⟨op, place, rfl⟩⟩
  nameOnly _ _ found := Operations.getIff.mp found
  enumNameOnly _ _ found := Operations.ordinalIff.mp found
  noName op member := ⟨Operations.getOther member op.enumNameFirst (by decide),
    Operations.getOther member op.runnerThird (by decide)⟩
  noEnumName op member := ⟨Operations.ordinalOther member op.nameSecond (by decide),
    Operations.ordinalOther member op.runnerThird (by decide)⟩
  enumerated := Enumeration.ordinalOfOperations ops

theorem lookupsInvert :
    (∀ entries ops, Operations.ofList entries = .ok ops → Inverts entries ops) ∧
    (∀ rows ops, Operations.ofRows rows = .ok ops →
      ∃ entries, RowsRead rows entries ∧ Inverts entries ops) ∧
    ∀ (ops : Operations) (attempts : List Row), ∃ added,
      RowsRead (ops.accepted attempts) added ∧
        Inverts (ops.entries ++ added) (ops.grown attempts) := by
  refine ⟨fun entries ops made => ?_, fun rows ops made => ?_, fun ops attempts => ?_⟩
  · exact Operations.ofListOk.mp made ▸ inverts ops
  · exact ⟨ops.entries, Outcome.mapMEach.mp (Operations.ofRowsOk.mp made), inverts ops⟩
  · obtain ⟨added, read, whole⟩ := ops.grownEntries attempts
    exact ⟨added, read, whole ▸ inverts (ops.grown attempts)⟩

/- A catalogue made in each of the three ways, and what is found under the identifiers of an entry. -/
theorem smallLookupsInvert :
    Operations.ofList smallCatalog.entries = .ok smallCatalog ∧
    Operations.ofRows smallRows = .ok smallCatalog ∧
    smallCatalog.ordinalOf? "COS_ENUM" = some 1 ∧
    smallCatalog.get? "COS_ENUM" = none ∧ smallCatalog.ordinalOf? "COSRunner" = none ∧
    ∃ op, (smallCatalog.grown smallAttempts).get? "ABS" = some op ∧
      (smallCatalog.grown smallAttempts).ordinalOf? "ABS_ENUM" = some 4 ∧
      (smallCatalog.grown smallAttempts).get? "ABS_ENUM" = none ∧
      (smallCatalog.grown smallAttempts).ordinalOf? "ABS" = none := by
  obtain ⟨ofList, ofRows, grown⟩ := lookupsInvert
  have listed : Operations.ofList smallCatalog.entries = .ok smallCatalog := by rfl
  have read : Operations.ofRows smallRows = .ok smallCatalog := by rfl
  have second : ∃ op, smallCatalog.entries[1]? = some op ∧ op.enumName.text = "COS_ENUM" ∧
      op.runnerName = "COSRunner" := ⟨_, rfl, rfl, rfl⟩
  obtain ⟨cosine, place, enumName, runner⟩ := second
  have fromList := ofList _ _ listed
  obtain ⟨entries, _, fromRows⟩ := ofRows _ _ read
  have member := List.mem_of_getElem? place
  refine ⟨listed, read, ?_, ?_, ?_, ?_⟩
  · exact enumName ▸ (fromRows.found 1 cosine (fromRows.kept ▸ place)).2
  · exact enumName ▸ (fromList.noName cosine member).1
  · exact runner ▸ (fromList.noEnumName cosine member).2
  · obtain ⟨added, _, later⟩ := grown smallCatalog smallAttempts
    have last : ∃ op, (smallCatalog.grown smallAttempts).entries[4]? = some op ∧
        op.name.text = "ABS" ∧ op.enumName.text = "ABS_ENUM" := ⟨_, rfl, rfl, rfl⟩
    obtain ⟨op, place, name, enumName⟩ := last
    rw [later.kept] at place
    have member := List.mem_of_getElem? place
    obtain ⟨named, numbered⟩ := later.found 4 op place
    exact ⟨op, name ▸ named, enumName ▸ numbered, enumName ▸ (later.noName op member).1,
      name ▸ (later.noEnumName op member).1⟩

end DoubleDispatch.Emit
