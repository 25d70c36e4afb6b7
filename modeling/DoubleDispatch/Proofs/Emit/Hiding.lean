import DoubleDispatch.Proofs.Emit.ConversionTexts
import DoubleDispatch.Proofs.Emit.Generator

/-! Names inside the classes. Two are made from the catalogue that nothing is compared with: the
pointer to a runner and the conversion to a holder. From its declaration on, such a name hides a
type that is called the same, and the declarations behind it can no longer name that type. -/
namespace DoubleDispatch.Emit
open Catalog (Operation Operations Terminals)
open Text (ClassText Field field? Conversion conversion?)

/- What the dispatcher calls its pointers, and the types that its declarations name. -/
def pointerNames (c : ClassText) : List String := (c.members.filterMap field?).map Field.name

def dispatcherTypes (c : ClassText) : List String :=
  "OGExpr" :: (c.members.filterMap field?).map Field.type

/- What the base of all nodes calls its conversions, and the types that its declarations name. -/
def conversionNames (c : ClassText) : List String :=
  (c.members.filterMap conversion?).map Conversion.name

def numericTypes (c : ClassText) : List String :=
  "OGNumeric" :: "ExprType_t" :: (c.members.filterMap conversion?).map Conversion.target

theorem pointerRunner {a b : Operation} :
    "_" ++ a.runnerName = b.runnerName ↔ b.name.text = "_" ++ a.name.text := by
  rw [runnerNameParts, runnerNameParts, ← String.append_assoc, String.append_left_inj, eq_comm]

theorem pointerNoExpression (op : Operation) : "_" ++ op.runnerName ≠ "OGExpr" := by
  intro same
  have first := congrArg (fun text => text.toList.head?) same
  simp at first

theorem conversionNoBase (op : Operation) :
    "as" ++ op.name.text ≠ "OGNumeric" ∧ "as" ++ op.name.text ≠ "ExprType_t" := by
  constructor <;>
  · intro same
    have first := congrArg (fun text => text.toList.head?) same
    simp at first

theorem prefixLonger {front : String} (nonempty : front ≠ "") (name : String) :
    name ≠ front ++ name := by
  intro same
  have lengths := congrArg String.length same
  rw [String.length_append] at lengths
  have positive : front.length ≠ 0 := by simpa using nonempty
  omega

section
variable (ops : Operations)

theorem pointersHide (type : String) :
    (type ∈ pointerNames (dispatcherText ops) ∧ type ∈ dispatcherTypes (dispatcherText ops)) ↔
      ∃ a ∈ ops.entries, ∃ b ∈ ops.entries,
        b.name.text = "_" ++ a.name.text ∧ type = b.runnerName := by
  simp only [pointerNames, dispatcherTypes, dispatcherFields, List.map_map, List.mem_cons,
    List.mem_map, Function.comp_apply]
  constructor
  · rintro ⟨⟨a, first, rfl⟩, fixed | ⟨b, second, same⟩⟩
    · exact absurd fixed (pointerNoExpression a)
    · exact ⟨a, first, b, second, pointerRunner.mp same.symm, same.symm⟩
  · rintro ⟨a, first, b, second, same, rfl⟩
    exact ⟨⟨a, first, pointerRunner.mpr same⟩, .inr ⟨b, second, rfl⟩⟩

theorem conversionsHide (type : String) :
    (type ∈ conversionNames (numericText ops) ∧ type ∈ numericTypes (numericText ops)) ↔
      ∃ a ∈ holders ops, ∃ b ∈ holders ops,
        b.name.text = "as" ++ a.name.text ∧ type = b.name.text := by
  simp only [conversionNames, numericTypes, numericConversions, List.map_map, List.mem_cons,
    List.mem_map, Function.comp_apply, conversionTo]
  constructor
  · rintro ⟨⟨a, first, rfl⟩, base | base | ⟨b, second, same⟩⟩
    · exact absurd base (conversionNoBase a).1
    · exact absurd base (conversionNoBase a).2
    · exact ⟨a, first, b, second, same, same.symm⟩
  · rintro ⟨a, first, b, second, same, rfl⟩
    exact ⟨⟨a, first, same.symm⟩, .inr (.inr ⟨b, second, rfl⟩)⟩

end

theorem hiddenTypes (ops : Operations) (terminals : Terminals) (names : Names) :
    ∃ table bases dispatcher header numeric,
      dispatchHeader ops terminals names = .ok table ∧
      readClasses .dispatchHeader names table = some bases ∧
      bases.filter (fun c => c.name = "Dispatcher") = [dispatcher] ∧
      numericHeader ops names = .ok header ∧
      readClasses .numericHeader names header = some [numeric] ∧ numeric.name = "OGNumeric" ∧
      (dispatcher.members.filterMap field? =
        ops.entries.map fun op => ⟨op.runnerName, "_" ++ op.runnerName⟩) ∧
      (numeric.members.filterMap conversion? =
        (holders ops).map fun op => ⟨op.name.text, "as" ++ op.name.text⟩) ∧
      (∀ type, type ∈ pointerNames dispatcher ∧ type ∈ dispatcherTypes dispatcher ↔
        ∃ a ∈ ops.entries, ∃ b ∈ ops.entries,
          b.name.text = "_" ++ a.name.text ∧ type = b.runnerName) ∧
      (∀ type, type ∈ conversionNames numeric ∧ type ∈ numericTypes numeric ↔
        ∃ a ∈ holders ops, ∃ b ∈ holders ops,
          b.name.text = "as" ++ a.name.text ∧ type = b.name.text) ∧
      ∀ op : Operation,
        "_" ++ op.runnerName ≠ op.runnerName ∧ "as" ++ op.name.text ≠ op.name.text := by
  have table := (dispatchHeaderWrites ops terminals names).done
    (dispatchHeaderComplete ops terminals names)
  have header := (numericHeaderWrites ops names).done (numericHeaderComplete ops names)
  refine ⟨_, _, _, _, _, table, readBases ops terminals names, rfl, header, readNumeric ops names,
    rfl, dispatcherFields ops, numericConversions ops, pointersHide ops, conversionsHide ops,
    fun op => ⟨?_, ?_⟩⟩
  · exact (prefixLonger (by decide) _).symm
  · exact (prefixLonger (by decide) _).symm

/- The second operation is called like the pointer to the runner of the first, less its ending, and
the third like the conversion to the first. -/
def hidingCatalog : Operations where
  entries :=
    [⟨⟨"X", by decide⟩, ⟨"X_ENUM", by decide⟩, by decide, .placeholderUnary⟩,
     ⟨⟨"_X", by decide⟩, ⟨"_X_ENUM", by decide⟩, by decide, .placeholderUnary⟩,
     ⟨⟨"asX", by decide⟩, ⟨"asX_ENUM", by decide⟩, by decide, .placeholderUnary⟩]
  nonempty := by decide
  distinct := by decide

theorem hidingCatalogAccepted :
    Operations.ofRows [.placeholderUnary "X", .placeholderUnary "_X", .placeholderUnary "asX"] =
      .ok hidingCatalog ∧
    (∃ g, Generator.make hidingCatalog .reference .standard = .ok g) ∧
    (∃ a ∈ hidingCatalog.entries, ∃ b ∈ hidingCatalog.entries,
      "_" ++ a.runnerName = b.runnerName) ∧
    ∃ a ∈ holders hidingCatalog, ∃ b ∈ holders hidingCatalog, "as" ++ a.name.text = b.name.text :=
  ⟨rfl, ⟨_, Generator.makeAccepted .standard (by decide)⟩, by decide, by decide⟩

end DoubleDispatch.Emit
