import DoubleDispatch.Proofs.Document
import DoubleDispatch.Proofs.Outcome
import DoubleDispatch.Schema.Decode

/-! What decoding accepts. Scalars and lists are told by the documents that they are read from; a
closed record takes a table exactly if no name stands twice in it, every name is one of its own and
every content fits. What is read is then a matter of what is found under each name. -/
namespace DoubleDispatch.Schema
open Document (Same lookupNone lookupMember lookupIff lookupReordered)
open Outcome (bindOk mapOk mapMEach)

section
variable {α : Type} {dialect : Dialect} {d : Document}

theorem decodeStringOk {text : String} : decodeString d = .ok text ↔ d = .string text := by
  cases d <;> simp [decodeString]

theorem decodeOptionalOk {value : Option String} :
    decodeOptional decodeString d = .ok value ↔
      (d = .null ∧ value = none) ∨ ∃ text, d = .string text ∧ value = some text := by
  cases d <;> simp [decodeOptional, decodeString, Except.map, eq_comm]

theorem decodeListOk {decode : Document → Except Mismatch α} {values : List α} :
    decodeList decode d = .ok values ↔ ∃ items, d.items? = some items ∧
      List.Forall₂ (fun item value => decode item = .ok value) items values := by
  rw [← exists_congr fun items => and_congr_right fun _ => mapMEach]
  cases d <;> simp [decodeList, Document.items?]

/- Every choice has a name of its own, so a name that is read is the name that is written. -/
theorem decodeVariantOk {all : List α} {name : α → String} (complete : ∀ a, a ∈ all)
    (injective : ∀ {a b}, name a = name b → a = b) {text : String} {a : α} :
    decodeVariant dialect all name (.string text) = .ok a ↔ text = name a := by
  simp only [decodeVariant, pickVariant]
  cases found : all.find? (fun b => name b == text) with
  | none =>
    have other := List.find?_eq_none.mp found a (complete a)
    simp only [reduceCtorEq, false_iff]
    rintro rfl
    simp at other
  | some b =>
    have same : name b = text := by simpa using List.find?_some found
    simp only [Except.ok.injEq]
    exact ⟨fun chosen => chosen ▸ same.symm, fun written => injective (same.trans written)⟩

end

/- What is found for a text that may be left out: nothing or the text; null counts as nothing. -/
def MayHold (found : Option Document) (value : Option String) : Prop :=
  found = value.map .string ∨ (found = some .null ∧ value = none)

/- What is found for a list that may be left out: nothing or a list of what the values are read
from. -/
def Lists {α : Type} (decode : Document → Except Mismatch α) (found : Option Document)
    (values : List α) : Prop :=
  (found = none ∧ values = []) ∨ ∃ content, found = some content ∧
    ∃ items, content.items? = some items ∧
      List.Forall₂ (fun item value => decode item = .ok value) items values

/- An entry that a document shows to a record: one of a table, or a field at its place in a list. -/
inductive Shown (names : List String) : Document → Entry → Prop where
  | named {entries : List Entry} {entry : Entry} (member : entry ∈ entries) :
      Shown names (.table entries) entry
  | placed {d : Document} {contents : List Document} {entry : Entry}
      (list : d.items? = some contents) (member : entry ∈ names.zip contents) : Shown names d entry

theorem orderedPerm (dialect : Dialect) (entries : List Entry) :
    (Record.ordered dialect entries).Perm entries := by
  cases dialect with
  | toml => exact List.Perm.refl entries
  | json => exact Document.sortEntriesPerm entries

namespace Record

variable {record : Record} {entries others : List Entry} {entry : Entry} {name : String}

def field? (record : Record) (name : String) : Option Field :=
  record.fields.find? fun field => field.name == name

def Takes (record : Record) (entry : Entry) : Prop :=
  ∃ field, record.field? entry.1 = some field ∧ field.check entry.2 = .ok ()

/- The entries that a closed record takes. -/
structure Fits (record : Record) (entries : List Entry) : Prop where
  once : (entries.map Prod.fst).Nodup
  takes : ∀ entry ∈ entries, record.Takes entry

theorem Takes.known (taken : record.Takes entry) : entry.1 ∈ record.names := by
  obtain ⟨field, found, _⟩ := taken
  have same : field.name = entry.1 := by simpa using List.find?_some found
  exact same ▸ List.mem_map_of_mem (List.mem_of_find?_eq_some found)

section
variable {α : Type} {decode : Document → Except Mismatch α} {content : Document}

theorem Takes.decoded (taken : record.Takes (name, content))
    (field : record.field? name = some (.of name decode)) : ∃ x, decode content = .ok x := by
  obtain ⟨_, found, checked⟩ := taken
  obtain rfl := Option.some.inj (field.symm.trans found)
  obtain ⟨x, decoded, _⟩ := mapOk.mp checked
  exact ⟨x, decoded⟩

theorem Takes.ofDecoded {x : α} (field : record.field? name = some (.of name decode))
    (decoded : decode content = .ok x) : record.Takes (name, content) :=
  ⟨_, field, mapOk.mpr ⟨x, decoded, rfl⟩⟩

end

theorem Fits.reordered (fits : record.Fits entries) (same : entries.Perm others) :
    record.Fits others where
  once := (same.map Prod.fst).nodup_iff.mp fits.once
  takes entry member := fits.takes entry (same.mem_iff.mpr member)

theorem fitsCons : record.Fits (entry :: entries) ↔
    record.Takes entry ∧ (∀ other ∈ entries, other.1 ≠ entry.1) ∧ record.Fits entries := by
  constructor
  · intro fits
    obtain ⟨first, once⟩ := List.nodup_cons.mp fits.once
    obtain ⟨taken, others⟩ := List.forall_mem_cons.mp fits.takes
    exact ⟨taken, fun other there same => first (List.mem_map.mpr ⟨other, there, same⟩), once, others⟩
  · rintro ⟨taken, apart, once, others⟩
    refine ⟨List.nodup_cons.mpr ⟨fun member => ?_, once⟩, List.forall_mem_cons.mpr ⟨taken, others⟩⟩
    obtain ⟨other, there, same⟩ := List.mem_map.mp member
    exact apart other there same

/- The names met so far are those that may not come again. -/
theorem checkEntriesSeen (closed : record.closed = true) (seen : List String) :
    record.checkEntries seen entries = .ok () ↔
      record.Fits entries ∧ ∀ entry ∈ entries, entry.1 ∉ seen := by
  induction entries generalizing seen with
  | nil =>
    have fits : record.Fits [] := ⟨List.nodup_nil, by simp⟩
    simp [checkEntries, fits]
  | cons entry rest ih =>
    obtain ⟨name, content⟩ := entry
    rw [checkEntries, fitsCons, List.forall_mem_cons]
    split
    · rename_i field found
      have takes : record.Takes (name, content) ↔ field.check content = .ok () := by
        simp [Takes, field?, found]
      split
      · rename_i again
        simp [again]
      · rename_i fresh
        rw [bindOk]
        constructor
        · rintro ⟨_, checked, accepted⟩
          obtain ⟨fits, unseen⟩ := (ih _).mp accepted
          simp only [List.mem_cons, not_or] at unseen
          exact ⟨⟨takes.mpr checked, fun other there => (unseen other there).1, fits⟩, fresh,
            fun other there => (unseen other there).2⟩
        · rintro ⟨⟨taken, apart, fits⟩, _, unseen⟩
          refine ⟨(), takes.mp taken, (ih _).mpr ⟨fits, fun other there => ?_⟩⟩
          simp [apart other there, unseen other there]
    · rename_i unknown
      simp [closed, Takes, field?, unknown]

theorem checkEntriesOk (closed : record.closed = true) :
    record.checkEntries [] entries = .ok () ↔ record.Fits entries := by
  simp [checkEntriesSeen closed]

/- A document that a record is read from: what it shows fits, and the contents found under the names
are the fields. -/
def Reads (record : Record) (dialect : Dialect) (d : Document)
    (fields : (String → Option Document) → Prop) : Prop :=
  ∃ form shown, record.form dialect d = .ok (form, shown) ∧ record.Fits shown ∧
    fields (fun name => shown.lookup name) ∧ record.checkSurplus dialect d = .ok ()

section
variable {dialect : Dialect} {d : Document} {fields : (String → Option Document) → Prop}

theorem readsTable : record.Reads dialect (.table entries) fields ↔
    record.Fits entries ∧ fields (fun name => entries.lookup name) := by
  have order := orderedPerm dialect entries
  constructor
  · rintro ⟨_, _, formed, fits, held, _⟩
    cases formed
    exact ⟨fits.reordered order, funext (lookupReordered fits.once order) ▸ held⟩
  · rintro ⟨fits, held⟩
    exact ⟨_, _, rfl, fits.reordered order.symm,
      funext (lookupReordered fits.once order.symm) ▸ held, rfl⟩

/- Nothing that a document shows is passed over. -/
theorem Reads.takes (reads : record.Reads dialect d fields) (there : Shown record.names d entry) :
    record.Takes entry := by
  obtain ⟨_, _, formed, fits, _⟩ := reads
  cases there with
  | named member =>
    cases formed
    exact fits.takes _ ((orderedPerm dialect _).mem_iff.mpr member)
  | placed list member =>
    cases d <;> simp only [Document.items?, Option.some.injEq, reduceCtorEq] at list
    all_goals
      subst list
      cases formed
      exact fits.takes _ member

end

section
variable {α : Type} {decode : Document → Except Mismatch α} {x absent : α} {form : Form}

theorem requiredOk : record.required form entries name decode = .ok x ↔
    ∃ content, entries.lookup name = some content ∧ decode content = .ok x := by
  rw [required]
  cases entries.lookup name <;> simp

theorem withDefaultOk : withDefault entries name absent decode = .ok x ↔
    (entries.lookup name = none ∧ absent = x) ∨
      ∃ content, entries.lookup name = some content ∧ decode content = .ok x := by
  rw [withDefault]
  cases entries.lookup name <;> simp

end

theorem optionalOk {value : Option String} :
    withDefault entries name none (decodeOptional decodeString) = .ok value ↔
      MayHold (entries.lookup name) value := by
  rw [withDefaultOk, MayHold]
  cases entries.lookup name with
  | none => cases value <;> simp
  | some content => cases value <;> simp [decodeOptionalOk]

theorem listOk {α : Type} {decode : Document → Except Mismatch α} {values : List α} :
    withDefault entries name [] (decodeList decode) = .ok values ↔
      Lists decode (entries.lookup name) values := by
  simp only [withDefaultOk, decodeListOk, Lists, eq_comm (a := [])]

/- Two tables of one record are the same tree if that holds field by field. -/
theorem Fits.same (fits : record.Fits entries) (other : record.Fits others)
    (each : ∀ name ∈ record.names, Option.Rel Same (entries.lookup name) (others.lookup name)) :
    Same (.table entries) (.table others) := by
  refine .table fits.once other.once fun name => ?_
  by_cases known : name ∈ record.names
  · exact each name known
  · have none : ∀ {table : List Entry}, record.Fits table → table.lookup name = .none := by
      refine fun fits => lookupNone.mpr fun member => ?_
      obtain ⟨entry, there, rfl⟩ := List.mem_map.mp member
      exact known (fits.takes entry there).known
    rw [none fits, none other]
    exact .none

end Record
end DoubleDispatch.Schema
