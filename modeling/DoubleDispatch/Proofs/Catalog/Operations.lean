import DoubleDispatch.Catalog.Reference
import DoubleDispatch.Proofs.Outcome
import Mathlib.Data.List.Nodup

/-! What it takes for an operation catalogue to be accepted, as a list, as rows, or as one row more;
and the rows that a catalogue can always be written back to. -/
namespace DoubleDispatch.Catalog
open Text (Identifier)
open Outcome (bindOk)

namespace Operations

theorem ofListOk {entries : List Operation} {ops : Operations} :
    ofList entries = .ok ops ↔ ops.entries = entries := by
  unfold ofList
  constructor
  · intro ok
    split at ok
    · contradiction
    · split at ok
      · contradiction
      · exact (Except.ok.inj ok) ▸ rfl
  · rintro rfl
    rw [dif_neg ops.nonempty]
    split
    · rename_i repeated
      have fresh := firstRepeatNone.mpr (marksIdentifiers ops.entries ▸ ops.distinct)
      simp [fresh] at repeated
    · rfl

theorem ofRowsOk {rows : List Row} {ops : Operations} :
    ofRows rows = .ok ops ↔ rows.mapM Operation.ofRow = .ok ops.entries := by
  simp [ofRows, bindOk, ofListOk]

theorem appendOk {ops next : Operations} {row : Row} :
    ops.append row = .ok next ↔
      ∃ op, Operation.ofRow row = .ok op ∧ next.entries = ops.entries ++ [op] := by
  simp only [append, bindOk, ofListOk]

/- The rows need not be known: what is appended is the same. -/
theorem ofRowsAppend {rows : List Row} {ops : Operations} (built : ofRows rows = .ok ops)
    (row : Row) : ofRows (rows ++ [row]) = ops.append row := by
  unfold ofRows append
  rw [List.mapM_append, ofRowsOk.mp built]
  cases read : Operation.ofRow row with
  | error error => simp [read, bind, Except.bind]
  | ok op => simp [read, bind, Except.bind, pure, Except.pure]

end Operations

/- No two operations share an identifier, whichever of theirs are compared. -/
theorem Operations.distinctBy (ops : Operations) {part : Operation → String}
    (own : ∀ op, part op ∈ op.identifiers) : (ops.entries.map part).Nodup := by
  have apart := (List.nodup_flatMap.mp ops.distinct).2
  refine List.pairwise_map.mpr (apart.imp fun {a b} disjoint same => ?_)
  exact disjoint (own a) (same ▸ own b)

theorem checkIdentifierText (operation : String) (part : Part) (name : Identifier) :
    checkIdentifier operation part name.text = .ok name := by
  rw [checkIdentifier, if_neg name.nonempty, dif_pos name.valid]

theorem checkSymbolText (operation : String) (symbol : Symbol) :
    checkSymbol operation symbol.text symbol.nonempty = .ok symbol := by
  rw [checkSymbol, dif_neg (by simp [symbol.compact])]

theorem Operation.checkKindToRow (op : Operation) : op.toRow.checkKind = .ok op.kind := by
  cases op with
  | mk name enumName distinct kind =>
    cases kind with
    | infixArithmetic symbol | prefixArithmetic symbol =>
      simp [toRow, Row.checkKind, Row.requirePayload, Row.payload, Kind.category, Kind.symbol?,
        symbol.nonempty, checkSymbolText, bind, Except.bind, pure, Except.pure]
    | elementwiseFunction function =>
      simp [toRow, Row.checkKind, Row.requirePayload, Row.payload, Kind.category, Kind.function?,
        function.nonempty, checkIdentifierText, bind, Except.bind, pure, Except.pure]
    | _ => rfl

theorem Operation.checkStrayToRow (op : Operation) (field : PayloadField) :
    op.toRow.checkStray field = .ok () := by
  cases op with
  | mk name enumName distinct kind => cases kind <;> cases field <;> rfl

theorem Operation.ofRowToRow (op : Operation) : Operation.ofRow op.toRow = .ok op := by
  have name := checkIdentifierText op.name.text .name op.name
  have enumName := checkIdentifierText op.name.text .enumName op.enumName
  unfold ofRow
  simp only [op.checkKindToRow, op.checkStrayToRow]
  simp [toRow, Row.resolvedEnumName, name, enumName, op.distinct, bind, Except.bind, pure,
    Except.pure]

theorem ofRowEach (entries : List Operation) :
    (entries.map Operation.toRow).mapM Operation.ofRow = .ok entries := by
  induction entries with
  | nil => rfl
  | cons op rest ih =>
    rw [List.map_cons, List.mapM_cons, op.ofRowToRow, ih]
    rfl

/- Every catalogue is the one that some rows are read as. -/
theorem Operations.ofRowsToRow (ops : Operations) :
    Operations.ofRows (ops.entries.map Operation.toRow) = .ok ops :=
  ofRowsOk.mpr (ofRowEach ops.entries)

/- One operation of each way to be generated, and none that is a placeholder. -/
def smallRows : List Row :=
  [.infixArithmetic "PLUS" "PLUS_ENUM" "+", .elementwiseFunction "COS" "COS_ENUM" "cos",
   .externalUnary "INV" "INV_ENUM"]

def smallCatalog : Operations where
  entries :=
    [⟨⟨"PLUS", by decide⟩, ⟨"PLUS_ENUM", by decide⟩, by decide,
       .infixArithmetic ⟨"+", by decide, by decide⟩⟩,
     ⟨⟨"COS", by decide⟩, ⟨"COS_ENUM", by decide⟩, by decide,
       .elementwiseFunction ⟨"cos", by decide⟩⟩,
     ⟨⟨"INV", by decide⟩, ⟨"INV_ENUM", by decide⟩, by decide, .externalUnary⟩]
  nonempty := by decide
  distinct := by decide

end DoubleDispatch.Catalog
