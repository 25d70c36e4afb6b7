import DoubleDispatch.Proofs.Schema.Decode
import DoubleDispatch.Schema.Listing

/-! Catalogue files as documents. What is written for a file is read as that file. Conversely, what
an author writes is written again as the same tree once it is read, with an empty list for one that
was left out: every key of a file, a row or a terminal either is read or makes the reading fail. -/
namespace DoubleDispatch.Schema
open Catalog (Category Domain Shape Terminal Row Listing)
open Document (Same lookupMember)
open Outcome (bindOk pureOk)

/- The keys of a file and of what it lists. -/
def fileKeys : List String := ["operations", "terminals"]

def rowKeys : List String := ["name", "enum_name", "category", "symbol", "function"]

def terminalKeys : List String := ["domain", "shape"]

variable {dialect : Dialect} {d item : Document} {entries : List Entry} {row : Row}
  {terminal : Terminal} {listing : Listing}

/- What is found in a row, a terminal and a file. -/
structure RowFields (dialect : Dialect) (row : Row) (found : String → Option Document) : Prop where
  name : found "name" = some (.string row.name)
  enumName : MayHold (found "enum_name") row.enumName
  category : ∃ content, found "category" = some content ∧
    decodeCategory dialect content = .ok row.category
  symbol : MayHold (found "symbol") row.symbol
  function : MayHold (found "function") row.function

structure TerminalFields (dialect : Dialect) (terminal : Terminal)
    (found : String → Option Document) : Prop where
  domain : ∃ content, found "domain" = some content ∧
    decodeVariant dialect Domain.all Domain.name content = .ok terminal.domain
  shape : ∃ content, found "shape" = some content ∧
    decodeVariant dialect Shape.all Shape.name content = .ok terminal.shape

structure ListingFields (dialect : Dialect) (listing : Listing)
    (found : String → Option Document) : Prop where
  operations : Lists (decodeRow dialect) (found "operations") listing.operations
  terminals : Lists (decodeTerminal dialect) (found "terminals") listing.terminals

theorem decodeRowReads : decodeRow dialect d = .ok row ↔
    (rowRecord dialect).Reads dialect d (RowFields dialect row) := by
  have closed : (rowRecord dialect).closed = true := rfl
  simp only [decodeRow, bindOk, Record.checkEntriesOk closed, Record.requiredOk, Record.optionalOk,
    decodeStringOk, pureOk]
  constructor
  · rintro ⟨⟨form, shown⟩, formed, _, fits, name, ⟨_, found, rfl⟩, category, chosen,
      enumName, first, symbol, second, function, third, _, surplus, rfl⟩
    exact ⟨form, shown, formed, fits, ⟨found, first, chosen, second, third⟩, surplus⟩
  · rintro ⟨form, shown, formed, fits, fields, surplus⟩
    exact ⟨_, formed, (), fits, _, ⟨_, fields.name, rfl⟩, _, fields.category, _,
      fields.enumName, _, fields.symbol, _, fields.function, (), surplus, rfl⟩

theorem decodeTerminalReads : decodeTerminal dialect d = .ok terminal ↔
    (terminalRecord dialect).Reads dialect d (TerminalFields dialect terminal) := by
  have closed : (terminalRecord dialect).closed = true := rfl
  simp only [decodeTerminal, bindOk, Record.checkEntriesOk closed, Record.requiredOk, pureOk]
  constructor
  · rintro ⟨⟨form, shown⟩, formed, _, fits, domain, first, shape, second, _, surplus, rfl⟩
    exact ⟨form, shown, formed, fits, ⟨first, second⟩, surplus⟩
  · rintro ⟨form, shown, formed, fits, fields, surplus⟩
    exact ⟨_, formed, (), fits, _, fields.domain, _, fields.shape, (), surplus, rfl⟩

theorem decodeListingReads : decodeListing dialect d = .ok listing ↔
    (listingRecord dialect).Reads dialect d (ListingFields dialect listing) := by
  have closed : (listingRecord dialect).closed = true := rfl
  simp only [decodeListing, bindOk, Record.checkEntriesOk closed, Record.listOk, pureOk]
  constructor
  · rintro ⟨⟨form, shown⟩, formed, _, fits, operations, first, terminals, second, _, surplus,
      rfl⟩
    exact ⟨form, shown, formed, fits, ⟨first, second⟩, surplus⟩
  · rintro ⟨form, shown, formed, fits, fields, surplus⟩
    exact ⟨_, formed, (), fits, _, fields.operations, _, fields.terminals, (), surplus,
      rfl⟩

/- A table as an author writes it: choices are written as texts, and nothing is null. -/
structure Spelled (choices : List String) (entries : List Entry) : Prop where
  texts : ∀ name ∈ choices, ∀ content, (name, content) ∈ entries → ∃ text, content = .string text
  noNull : ∀ entry ∈ entries, entry.2 ≠ .null

def SpelledTable (choices : List String) (d : Document) : Prop :=
  ∃ entries, d = .table entries ∧ Spelled choices entries

/- An item of the list that a file has under a key. -/
def Listed (key : String) (d item : Document) : Prop :=
  ∃ content items, Shown fileKeys d (key, content) ∧ content.items? = some items ∧ item ∈ items

/- A file as an author writes it. A null in the place of a list needs no mention: no list is read from
it. -/
structure Authored (entries : List Entry) : Prop where
  rows : ∀ item, Listed "operations" (.table entries) item → SpelledTable ["category"] item
  terminals : ∀ item, Listed "terminals" (.table entries) item →
    SpelledTable ["domain", "shape"] item

namespace Spelled

variable {choices : List String} {name : String}

theorem optional (spelled : Spelled choices entries) {value : Option String}
    (held : MayHold (entries.lookup name) value) : entries.lookup name = value.map .string := by
  rcases held with there | ⟨null, _⟩
  · exact there
  · exact absurd rfl (spelled.noNull _ (lookupMember null))

theorem choice (spelled : Spelled choices entries) (chosen : name ∈ choices) {α : Type}
    {all : List α} {spelling : α → String} (complete : ∀ a, a ∈ all)
    (injective : ∀ {a b}, spelling a = spelling b → a = b) {a : α}
    (read : ∃ content, entries.lookup name = some content ∧
      decodeVariant dialect all spelling content = .ok a) :
    entries.lookup name = some (.string (spelling a)) := by
  obtain ⟨content, found, decoded⟩ := read
  obtain ⟨text, rfl⟩ := spelled.texts name chosen content (lookupMember found)
  rw [found, (decodeVariantOk complete injective).mp decoded]

end Spelled

theorem sameFound {one other : Option Document} (equal : one = other) : Option.Rel Same one other := by
  subst equal
  cases one with
  | none => exact .none
  | some d => exact .some (.leaf d)

/- Rows that are spelled out and read alike are the same tree. -/
theorem rowsSame (one : SpelledTable ["category"] d) (other : SpelledTable ["category"] item)
    (read : decodeRow dialect d = .ok row) (again : decodeRow dialect item = .ok row) :
    Same d item := by
  obtain ⟨entries, rfl, first⟩ := one
  obtain ⟨others, rfl, second⟩ := other
  obtain ⟨fits, fields⟩ := Record.readsTable.mp (decodeRowReads.mp read)
  obtain ⟨fitsToo, fieldsToo⟩ := Record.readsTable.mp (decodeRowReads.mp again)
  refine fits.same fitsToo ?_
  have categories := (first.choice List.mem_cons_self Category.memAll Category.nameInjective
    fields.category).trans (second.choice List.mem_cons_self Category.memAll Category.nameInjective
      fieldsToo.category).symm
  have known : (rowRecord dialect).names = rowKeys := rfl
  simp only [known, rowKeys, List.forall_mem_cons, List.not_mem_nil, false_implies, implies_true,
    and_true]
  exact ⟨sameFound (fields.name.trans fieldsToo.name.symm),
    sameFound ((first.optional fields.enumName).trans (second.optional fieldsToo.enumName).symm),
    sameFound categories,
    sameFound ((first.optional fields.symbol).trans (second.optional fieldsToo.symbol).symm),
    sameFound ((first.optional fields.function).trans (second.optional fieldsToo.function).symm)⟩

theorem terminalsSame (one : SpelledTable ["domain", "shape"] d)
    (other : SpelledTable ["domain", "shape"] item) (read : decodeTerminal dialect d = .ok terminal)
    (again : decodeTerminal dialect item = .ok terminal) : Same d item := by
  obtain ⟨entries, rfl, first⟩ := one
  obtain ⟨others, rfl, second⟩ := other
  obtain ⟨fits, fields⟩ := Record.readsTable.mp (decodeTerminalReads.mp read)
  obtain ⟨fitsToo, fieldsToo⟩ := Record.readsTable.mp (decodeTerminalReads.mp again)
  refine fits.same fitsToo ?_
  have domains := (first.choice (by simp) Domain.memAll Domain.nameInjective fields.domain).trans
    (second.choice (by simp) Domain.memAll Domain.nameInjective fieldsToo.domain).symm
  have shapes := (first.choice (by simp) Shape.memAll Shape.nameInjective fields.shape).trans
    (second.choice (by simp) Shape.memAll Shape.nameInjective fieldsToo.shape).symm
  have known : (terminalRecord dialect).names = terminalKeys := rfl
  simp only [known, terminalKeys, List.forall_mem_cons, List.not_mem_nil, false_implies,
    implies_true, and_true]
  exact ⟨sameFound domains, sameFound shapes⟩

section
variable {α : Type} {decode : Document → Except Mismatch α} {found other : Option Document}
  {values : List α}

/- A list that was left out is as good as an empty one. -/
theorem Lists.items (lists : Lists decode found values) : ∃ items,
    (found.getD (.list [])).items? = some items ∧
      List.Forall₂ (fun item value => decode item = .ok value) items values := by
  rcases lists with ⟨rfl, rfl⟩ | ⟨content, rfl, items, listed, read⟩
  · exact ⟨[], rfl, .nil⟩
  · exact ⟨items, listed, read⟩

theorem Lists.same (one : Lists decode found values) (second : Lists decode other values)
    (each : ∀ items others, (found.getD (.list [])).items? = some items →
      (other.getD (.list [])).items? = some others → ∀ a ∈ items, ∀ b ∈ others, ∀ value,
        decode a = .ok value → decode b = .ok value → Same a b) :
    Same (found.getD (.list [])) (other.getD (.list [])) := by
  obtain ⟨items, listed, read⟩ := one.items
  obtain ⟨others, listedToo, again⟩ := second.items
  refine .list listed listedToo (List.forall₂_iff_get.mpr
    ⟨read.length_eq.trans again.length_eq.symm, fun i here there => ?_⟩)
  have inside : i < values.length := read.length_eq ▸ here
  exact each items others listed listedToo _ (List.get_mem _ _) _ (List.get_mem _ _) _
    (read.get here inside) (again.get there inside)

end

/- The entries of a file, with an empty list under each key that stands nowhere. -/
def withLists (entries : List Entry) : List Entry :=
  entries ++ (fileKeys.filter fun key => (entries.lookup key).isNone).map fun key => (key, .list [])

theorem leftOutOnce (entries : List Entry) :
    (((fileKeys.filter fun key => (entries.lookup key).isNone).map
      fun key => (key, Document.list [])).map Prod.fst).Nodup := by
  have keys : fileKeys.Nodup := by decide
  rw [List.map_map]
  simpa [Function.comp_def] using keys.filter _

theorem withListsFound {key : String} (known : key ∈ fileKeys) :
    (withLists entries).lookup key = some ((entries.lookup key).getD (.list [])) := by
  rw [withLists, List.lookup_append]
  cases found : entries.lookup key with
  | some content => simp
  | none =>
    simp only [Option.none_or, Option.getD_none]
    rw [Document.lookupIff]
    · exact List.mem_map.mpr ⟨key, List.mem_filter.mpr ⟨known, by simp [found]⟩, rfl⟩
    · exact leftOutOnce entries

theorem operationsField : (listingRecord dialect).field? "operations" =
    some (.of "operations" (decodeList (decodeRow dialect))) := rfl

theorem terminalsField : (listingRecord dialect).field? "terminals" =
    some (.of "terminals" (decodeList (decodeTerminal dialect))) := rfl

theorem withListsFits (fits : (listingRecord dialect).Fits entries) :
    (listingRecord dialect).Fits (withLists entries) where
  once := by
    rw [withLists, List.map_append]
    refine List.nodup_append.mpr ⟨fits.once, leftOutOnce entries, ?_⟩
    rintro key there _ absent rfl
    simp only [List.map_map, List.mem_map, List.mem_filter, Option.isNone_iff_eq_none] at absent
    obtain ⟨_, ⟨_, none⟩, rfl⟩ := absent
    exact Document.lookupNone.mp none there
  takes := by
    refine List.forall_mem_append.mpr ⟨fits.takes, List.forall_mem_map.mpr fun key added => ?_⟩
    have known := (List.mem_filter.mp added).1
    simp only [fileKeys, List.mem_cons, List.not_mem_nil, or_false] at known
    rcases known with rfl | rfl
    · exact .ofDecoded operationsField rfl
    · exact .ofDecoded terminalsField rfl

theorem listedFound {key : String} {items : List Document}
    (listed : ((entries.lookup key).getD (.list [])).items? = some items) (member : item ∈ items) :
    Listed key (.table entries) item := by
  cases found : entries.lookup key with
  | none =>
    rw [found] at listed
    cases listed
    contradiction
  | some content =>
    rw [found] at listed
    exact ⟨content, items, .named (lookupMember found), listed, member⟩

/- Files that are authored and read alike are the same tree, once every list is there. -/
theorem listingsSame {others : List Entry} (one : Authored entries) (other : Authored others)
    (read : decodeListing dialect (.table entries) = .ok listing)
    (again : decodeListing dialect (.table others) = .ok listing) :
    Same (.table (withLists entries)) (.table (withLists others)) := by
  obtain ⟨fits, fields⟩ := Record.readsTable.mp (decodeListingReads.mp read)
  obtain ⟨fitsToo, fieldsToo⟩ := Record.readsTable.mp (decodeListingReads.mp again)
  refine (withListsFits fits).same (withListsFits fitsToo) fun key known => ?_
  rw [withListsFound known, withListsFound known]
  have keys : (listingRecord dialect).names = fileKeys := rfl
  simp only [keys, fileKeys, List.mem_cons, List.not_mem_nil, or_false] at known
  rcases known with rfl | rfl
  · refine .some (fields.operations.same fieldsToo.operations ?_)
    intro items others listed listedToo a here b there row read again
    exact rowsSame (one.rows a (listedFound listed here)) (other.rows b (listedFound listedToo there))
      read again
  · refine .some (fields.terminals.same fieldsToo.terminals ?_)
    intro items others listed listedToo a here b there terminal read again
    exact terminalsSame (one.terminals a (listedFound listed here))
      (other.terminals b (listedFound listedToo there)) read again

theorem Spelled.ofTexts {choices : List String}
    (texts : ∀ entry ∈ entries, ∃ text, entry.2 = .string text) : Spelled choices entries where
  texts _ _ content member := texts (_, content) member
  noNull entry member null := by
    obtain ⟨text, same⟩ := texts entry member
    rw [same] at null
    contradiction

theorem optionalEntryTexts (name : String) (value : Option String) :
    ∀ entry ∈ optionalEntry name value, ∃ text, entry.2 = .string text := by
  cases value <;> simp [optionalEntry]

theorem encodedRowSpelled (row : Row) : SpelledTable ["category"] (encodeRow row) := by
  refine ⟨_, rfl, .ofTexts ?_⟩
  simp only [List.forall_mem_append, List.forall_mem_singleton]
  exact ⟨⟨⟨⟨⟨_, rfl⟩, optionalEntryTexts _ _⟩, ⟨_, rfl⟩⟩, optionalEntryTexts _ _⟩,
    optionalEntryTexts _ _⟩

theorem encodedTerminalSpelled (terminal : Terminal) :
    SpelledTable ["domain", "shape"] (encodeTerminal terminal) :=
  ⟨_, rfl, .ofTexts (by simp)⟩

theorem optionalEntryTakes {record : Record} {name : String}
    (field : record.field? name = some (.of name (decodeOptional decodeString)))
    (value : Option String) : ∀ entry ∈ optionalEntry name value, record.Takes entry := by
  cases value with
  | none => simp [optionalEntry]
  | some text =>
    rw [optionalEntry, List.forall_mem_singleton]
    exact .ofDecoded field rfl

theorem decodeEncodedRow (dialect : Dialect) (row : Row) :
    decodeRow dialect (encodeRow row) = .ok row := by
  have category : decodeCategory dialect (.string row.category.name) = .ok row.category :=
    (decodeVariantOk Category.memAll Category.nameInjective).mpr rfl
  refine decodeRowReads.mpr (Record.readsTable.mpr ⟨⟨?_, ?_⟩, ?_⟩)
  · obtain ⟨name, enumName, category, symbol, function⟩ := row
    cases enumName <;> cases symbol <;> cases function <;> simp [optionalEntry]
  · simp only [List.forall_mem_append, List.forall_mem_singleton]
    exact ⟨⟨⟨⟨.ofDecoded rfl (decodeStringOk.mpr rfl), optionalEntryTakes rfl _⟩,
      .ofDecoded rfl category⟩, optionalEntryTakes rfl _⟩, optionalEntryTakes rfl _⟩
  · obtain ⟨name, enumName, chosen, symbol, function⟩ := row
    cases enumName <;> cases symbol <;> cases function <;>
      exact ⟨rfl, .inl rfl, ⟨_, rfl, category⟩, .inl rfl, .inl rfl⟩

theorem decodeEncodedTerminal (dialect : Dialect) (terminal : Terminal) :
    decodeTerminal dialect (encodeTerminal terminal) = .ok terminal := by
  have domain : decodeVariant dialect Domain.all Domain.name (.string terminal.domain.name) =
      .ok terminal.domain := (decodeVariantOk Domain.memAll Domain.nameInjective).mpr rfl
  have shape : decodeVariant dialect Shape.all Shape.name (.string terminal.shape.name) =
      .ok terminal.shape := (decodeVariantOk Shape.memAll Shape.nameInjective).mpr rfl
  refine decodeTerminalReads.mpr (Record.readsTable.mpr ⟨⟨by simp, ?_⟩, ?_⟩)
  · simp only [List.forall_mem_cons, List.not_mem_nil, false_implies, implies_true, and_true]
    exact ⟨.ofDecoded rfl domain, .ofDecoded rfl shape⟩
  · exact ⟨⟨_, rfl, domain⟩, ⟨_, rfl, shape⟩⟩

theorem decodeEncodedList {α : Type} {decode : Document → Except Mismatch α}
    {encode : α → Document} (back : ∀ value, decode (encode value) = .ok value) (values : List α) :
    decodeList decode (.list (values.map encode)) = .ok values :=
  decodeListOk.mpr ⟨_, rfl, List.forall₂_map_left_iff.mpr
    (List.forall₂_same.mpr fun value _ => back value)⟩

theorem decodeEncodedListing (dialect : Dialect) (listing : Listing) :
    decodeListing dialect (encodeListing listing) = .ok listing := by
  have operations := decodeEncodedList (decodeEncodedRow dialect) listing.operations
  have terminals := decodeEncodedList (decodeEncodedTerminal dialect) listing.terminals
  refine decodeListingReads.mpr (Record.readsTable.mpr ⟨⟨by simp, ?_⟩, ?_⟩)
  · simp only [List.forall_mem_cons, List.not_mem_nil, false_implies, implies_true, and_true]
    exact ⟨.ofDecoded operationsField operations, .ofDecoded terminalsField terminals⟩
  · exact ⟨.inr ⟨_, rfl, decodeListOk.mp operations⟩, .inr ⟨_, rfl, decodeListOk.mp terminals⟩⟩

/- What a file is written as, entry by entry. -/
def listingEntries (listing : Listing) : List Entry :=
  [("operations", .list (listing.operations.map encodeRow)),
   ("terminals", .list (listing.terminals.map encodeTerminal))]

theorem listedTable {key : String} (listed : Listed key (.table entries) item) :
    ∃ content items, (key, content) ∈ entries ∧ content.items? = some items ∧ item ∈ items := by
  obtain ⟨content, items, shown, list, member⟩ := listed
  cases shown with
  | named there => exact ⟨content, items, there, list, member⟩
  | placed record _ => cases record

theorem encodedAuthored (listing : Listing) : Authored (listingEntries listing) where
  rows item listed := by
    obtain ⟨content, items, there, list, member⟩ := listedTable listed
    obtain rfl : content = .list (listing.operations.map encodeRow) := by
      simpa [listingEntries] using there
    obtain rfl := Option.some.inj list
    obtain ⟨row, _, rfl⟩ := List.mem_map.mp member
    exact encodedRowSpelled row
  terminals item listed := by
    obtain ⟨content, items, there, list, member⟩ := listedTable listed
    obtain rfl : content = .list (listing.terminals.map encodeTerminal) := by
      simpa [listingEntries] using there
    obtain rfl := Option.some.inj list
    obtain ⟨terminal, _, rfl⟩ := List.mem_map.mp member
    exact encodedTerminalSpelled terminal

theorem encodedComplete (listing : Listing) :
    Document.table (withLists (listingEntries listing)) = encodeListing listing := by
  simp [withLists, listingEntries, fileKeys, List.lookup_cons, encodeListing]

/- A key of a table that is none of these. -/
def Stray (keys : List String) (d : Document) : Prop :=
  ∃ entries entry, d = .table entries ∧ entry ∈ entries ∧ entry.1 ∉ keys

/- A key that nobody knows, in a file or in something that it lists. -/
inductive StrayKey (d : Document) : Prop where
  | file (stray : Stray fileKeys d)
  | row {item : Document} (listed : Listed "operations" d item) (stray : Stray rowKeys item)
  | terminal {item : Document} (listed : Listed "terminals" d item)
      (stray : Stray terminalKeys item)

theorem Record.Reads.noStray {record : Record} {fields : (String → Option Document) → Prop}
    (reads : record.Reads dialect d fields) : ¬ Stray record.names d := by
  rintro ⟨entries, entry, rfl, member, unknown⟩
  exact unknown (reads.takes (.named member)).known

theorem listedRead {α : Type} {decode : Document → Except Mismatch α} {key : String}
    (read : decodeListing dialect d = .ok listing) (listed : Listed key d item)
    (field : (listingRecord dialect).field? key = some (.of key (decodeList decode))) :
    ∃ x, decode item = .ok x := by
  obtain ⟨content, items, shown, list, member⟩ := listed
  obtain ⟨values, decoded⟩ := ((decodeListingReads.mp read).takes shown).decoded field
  obtain ⟨others, same, each⟩ := decodeListOk.mp decoded
  obtain rfl := Option.some.inj (list.symm.trans same)
  obtain ⟨i, inside, rfl⟩ := List.getElem_of_mem member
  exact ⟨_, each.get inside (each.length_eq ▸ inside)⟩

theorem noStrayKey (read : decodeListing dialect d = .ok listing) : ¬ StrayKey d := by
  intro found
  cases found with
  | file stray => exact (decodeListingReads.mp read).noStray stray
  | row listed stray =>
    obtain ⟨row, decoded⟩ := listedRead read listed operationsField
    exact (decodeRowReads.mp decoded).noStray stray
  | terminal listed stray =>
    obtain ⟨terminal, decoded⟩ := listedRead read listed terminalsField
    exact (decodeTerminalReads.mp decoded).noStray stray

theorem schemaLosesNothing (dialect : Dialect) :
    (∀ listing, decodeListing dialect (encodeListing listing) = .ok listing) ∧
    (∀ entries listing, Authored entries → decodeListing dialect (.table entries) = .ok listing →
      Same (.table (withLists entries)) (encodeListing listing)) ∧
    ∀ d, StrayKey d → ∃ mismatch, decodeListing dialect d = .error mismatch := by
  refine ⟨decodeEncodedListing dialect, fun entries listing authored read => ?_, fun d stray => ?_⟩
  · rw [← encodedComplete]
    exact listingsSame authored (encodedAuthored listing) read (decodeEncodedListing dialect listing)
  · cases result : decodeListing dialect d with
    | error mismatch => exact ⟨mismatch, rfl⟩
    | ok listing => exact absurd stray (noStrayKey result)

/- A row under a header, its keys in another order and without an enumeration name; no terminals. -/
def shuffledEntries : List Entry :=
  [("operations", .sections [.table [("symbol", .string "+"),
    ("category", .string "infix_arithmetic"), ("name", .string "PLUS")]])]

def shuffledListing : Listing := ⟨[⟨"PLUS", none, .infixArithmetic, some "+", none⟩], []⟩

def strayTerminal : Document :=
  .table [("domain", .string "real"), ("shape", .string "scalar"), ("storage", .string "row")]

def strayFile : Document := .table [("terminals", .list [strayTerminal])]

theorem shuffledListingKept :
    decodeListing .toml (encodeListing shuffledListing) = .ok shuffledListing ∧
    Authored shuffledEntries ∧
    decodeListing .toml (.table shuffledEntries) = .ok shuffledListing ∧
    Same (.table (withLists shuffledEntries)) (encodeListing shuffledListing) ∧
    StrayKey strayFile ∧ ∃ mismatch, decodeListing .toml strayFile = .error mismatch := by
  obtain ⟨back, kept, refused⟩ := schemaLosesNothing .toml
  have authored : Authored shuffledEntries := by
    constructor
    · intro item listed
      obtain ⟨content, items, there, list, member⟩ := listedTable listed
      simp only [shuffledEntries, List.mem_singleton, Prod.mk.injEq, true_and] at there
      subst there
      cases list
      rw [List.mem_singleton] at member
      exact ⟨_, member, .ofTexts (by simp)⟩
    · intro item listed
      obtain ⟨content, items, there, _⟩ := listedTable listed
      simp [shuffledEntries] at there
  have read : decodeListing .toml (.table shuffledEntries) = .ok shuffledListing := by rfl
  have stray : StrayKey strayFile :=
    .terminal ⟨_, _, .named List.mem_cons_self, rfl, List.mem_cons_self⟩
      ⟨_, ("storage", .string "row"), rfl, by simp, by decide⟩
  exact ⟨back _, authored, read, kept _ _ authored read, stray, refused _ stray⟩

end DoubleDispatch.Schema
