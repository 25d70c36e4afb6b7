import DoubleDispatch.Emit.Enumeration
import DoubleDispatch.Proofs.Json.RoundTrip
import DoubleDispatch.Proofs.Outcome

/-! The manifest of the enumeration, read back from its text with nothing but a JSON reader and the
names of the fields. Ordinals are whole numbers, and the reader decides how large these may be. -/
namespace DoubleDispatch.Emit
open Catalog (Category)
open Json (Meaning Plain parseAs)
open Decimal (digits)

def readNat : Document → Option Nat
  | .integer (.ofNat n) => some n
  | _ => none

def readCategory (name : String) : Option Category := Category.all.find? (·.name == name)

def readOptional : Document → Option (Option String)
  | .null => some none
  | .string text => some (some text)
  | _ => none

def Enumerated.ofDocument? (d : Document) : Option Enumerated := do
  let ordinal ← (← d.entry? "ordinal") |> readNat
  let enumName ← (← d.entry? "enum_name").string?
  let name ← (← d.entry? "name").string?
  let category ← (← (← d.entry? "category").string?) |> readCategory
  let functionTag ← (← d.entry? "function_tag") |> readOptional
  some ⟨ordinal, enumName, name, category, functionTag⟩

def readManifest (meaning : Meaning) (text : String) : Option (List Enumerated) := do
  let manifest ← parseAs meaning text
  let operations ← manifest.entry? "operations"
  (← operations.items?).mapM Enumerated.ofDocument?

theorem readCategoryName (c : Category) : readCategory c.name = some c := by cases c <;> rfl

theorem Enumerated.ofDocumentBack (entry : Enumerated) :
    Enumerated.ofDocument? entry.document = some entry := by
  have tag : readOptional (.ofOption .string entry.functionTag) = some entry.functionTag := by
    cases entry.functionTag <;> rfl
  simp [Enumerated.ofDocument?, document, Document.entry?, List.lookup_cons, Document.string?,
    Document.ofNat, readNat, readCategoryName, tag]

/- A reader takes a number for what it is. -/
def Exact (meaning : Meaning) (n : Nat) : Prop := meaning false (digits n) [] none = some (.ofNat n)

theorem exactPlain {meaning : Meaning} {n : Nat} (exact_ : Exact meaning n) (room : Nat) :
    Plain meaning room (.ofNat n) := by
  have negative : ¬ ((n : Int) < 0) := by omega
  refine .integer ?_
  rw [Int.natAbs_natCast, decide_eq_false negative]
  exact exact_

theorem Enumerated.documentPlain {meaning : Meaning} {entry : Enumerated}
    (exact_ : Exact meaning entry.ordinal) (room : Nat) :
    Plain meaning (room + 1) entry.document := by
  have tag : Plain meaning room (.ofOption .string entry.functionTag) := by
    cases entry.functionTag with
    | none => exact .null
    | some tag => exact .string tag
  refine .table (by decide : ["ordinal", "enum_name", "name", "category", "function_tag"].Nodup) ?_
  simp only [List.forall_mem_cons, List.not_mem_nil, false_implies, implies_true, and_true]
  exact ⟨exactPlain exact_ room, .string _, .string _, .string _, tag⟩

namespace Enumeration

theorem manifestPlain {e : Enumeration} {meaning : Meaning}
    (exact_ : ∀ entry ∈ e.entries, Exact meaning entry.ordinal) (room : Nat) :
    Plain meaning (room + 3) e.manifest := by
  refine .table (by simp) ?_
  rw [List.forall_mem_singleton]
  refine .list (List.forall_mem_map.mpr fun entry member => ?_)
  exact Enumerated.documentPlain (exact_ entry member) room

theorem parseManifest {e : Enumeration} {meaning : Meaning}
    (exact_ : ∀ entry ∈ e.entries, Exact meaning entry.ordinal) :
    parseAs meaning e.json = some e.manifest :=
  Json.parsePretty (manifestPlain exact_ 124)

theorem readManifestText {e : Enumeration} {meaning : Meaning}
    (exact_ : ∀ entry ∈ e.entries, Exact meaning entry.ordinal) :
    readManifest meaning e.json = some e.entries := by
  have entries := Outcome.mapMSome fun entry (_ : entry ∈ e.entries) => entry.ofDocumentBack
  rw [List.map_id'] at entries
  simp [readManifest, parseManifest exact_, manifest, Document.entry?, Document.items?, entries]

end Enumeration

/- Numbers without a fraction or an exponent, however large. -/
def wholeNumbers : Meaning := fun negative whole fraction exponent =>
  if fraction = [] ∧ exponent = none then
    some (.integer (Json.signed negative (Decimal.value whole)))
  else none

theorem wholeNumbersExact (n : Nat) : Exact wholeNumbers n := by
  simp [Exact, wholeNumbers, Json.signed, Decimal.valueDigits, Document.ofNat]

theorem numberExact {n : Nat} (small : n < Json.coefficientLimit) : Exact Json.number n := by
  simp [Exact, Json.number, Json.wholeInRange, small, Json.signed, Decimal.valueDigits,
    Document.ofNat]

end DoubleDispatch.Emit
