import DoubleDispatch.Schema.Mismatch

/-! Reading typed values out of documents. A record is met entry by entry, and the first problem
in that order is the one reported; fields that are missing show only at the end. A record may also
be written as the list of its fields in the order of their declaration. -/
namespace DoubleDispatch.Schema

def decodeString : Document → Except Mismatch String
  | .string value => .ok value
  | other => .error (.wrongType (.of other) "a string")

/- A path is a string that is asked for under another name. -/
def decodePathText : Document → Except Mismatch String
  | .string value => .ok value
  | other => .error (.wrongType (.of other) "path string")

def decodeOptional (decode : Document → Except Mismatch α) : Document → Except Mismatch (Option α)
  | .null => .ok none
  | other => (decode other).map some

def decodeList (decode : Document → Except Mismatch α) : Document → Except Mismatch (List α)
  | .list items | .sections items => items.mapM decode
  | other => .error (.wrongType (.of other) "a sequence")

/- A choice written as a table of one entry has to have an empty content. Tables opened by headers
are asked to be an empty list, and lists between brackets an empty table. -/
def checkContent (dialect : Dialect) (content : Document) : Except Mismatch Unit :=
  match dialect, content with
  | .json, .null => .ok ()
  | .json, other => .error (.wrongType (.of other) "unit")
  | .toml, .table [] | .toml, .list [] => .ok ()
  | .toml, .table _ | .toml, .list _ => .error (.contentNotEmpty .table)
  | .toml, .sections _ => .error (.contentNotEmpty .list)
  | .toml, .null => .error (.contentType "none")
  | .toml, .boolean _ => .error (.contentType "boolean")
  | .toml, .integer _ => .error (.contentType "integer")
  | .toml, .float _ => .error (.contentType "float")
  | .toml, .string _ => .error (.contentType "string")
  | .toml, .moment _ => .error (.contentType "datetime")

def pickVariant (all : List α) (name : α → String) (chosen : String) : Except Mismatch α :=
  match all.find? (fun a => name a == chosen) with
  | some a => .ok a
  | none => .error (.unknownVariant chosen (all.map name))

def decodeVariant (dialect : Dialect) (all : List α) (name : α → String) :
    Document → Except Mismatch α
  | .string chosen => pickVariant all name chosen
  | .table [(chosen, content)] => do
    let a ← pickVariant all name chosen
    checkContent dialect content
    return a
  | .table entries =>
    match dialect with
    | .toml => .error (if entries.isEmpty then .variantEmpty else .variantCrowded)
    | .json => .error .variantMap
  | other =>
    match dialect with
    | .toml => .error .variantType
    | .json => .error (.wrongType (.of other) "string or map")

structure Field where
  name : String
  check : Document → Except Mismatch Unit

def Field.of (name : String) (decode : Document → Except Mismatch α) : Field :=
  ⟨name, fun document => (decode document).map (fun _ => ())⟩

/- A closed record refuses entries it does not know; an open one passes over them. -/
structure Record where
  label : String
  fields : List Field
  closed : Bool

namespace Record

def names (record : Record) : List String := record.fields.map Field.name

def checkEntries (record : Record) (seen : List String) : List Entry → Except Mismatch Unit
  | [] => .ok ()
  | (name, content) :: rest =>
    match record.fields.find? (fun field => field.name == name) with
    | some field =>
      if name ∈ seen then .error (.repeatedField name)
      else do
        field.check content
        record.checkEntries (name :: seen) rest
    | none =>
      if record.closed then .error (.unknownField name record.names)
      else record.checkEntries seen rest

/- The one entry that a date or time shows when it is looked at as a table. -/
def momentEntry : Entry := (Document.momentName, .null)

inductive Form where
  | table
  | list
  deriving DecidableEq, Repr

def ordered (dialect : Dialect) (entries : List Entry) : List Entry :=
  match dialect with
  | .toml => entries
  | .json => Document.sortEntries entries

def form (record : Record) (dialect : Dialect) :
    Document → Except Mismatch (Form × List Entry)
  | .table entries => .ok (.table, ordered dialect entries)
  | .list items | .sections items => .ok (.list, record.names.zip items)
  | .moment _ => .ok (.table, [momentEntry])
  | other => .error (.wrongType (.of other) record.label)

/- The error for a field that is needed and was not found. -/
def missing (record : Record) (form : Form) (name : String) : Mismatch :=
  match form with
  | .table => .missingField name
  | .list => .tooShort (record.names.idxOf name) record.label record.names.length

def checkSurplus (record : Record) (dialect : Dialect) : Document → Except Mismatch Unit
  | .list items | .sections items =>
    match dialect with
    | .toml => .ok ()
    | .json =>
      if record.names.length < items.length then .error (.surplus items.length) else .ok ()
  | _ => .ok ()

def required (record : Record) (form : Form) (entries : List Entry) (name : String)
    (decode : Document → Except Mismatch α) : Except Mismatch α :=
  match entries.lookup name with
  | some content => decode content
  | none => .error (record.missing form name)

def withDefault (entries : List Entry) (name : String) (absent : α)
    (decode : Document → Except Mismatch α) : Except Mismatch α :=
  match entries.lookup name with
  | some content => decode content
  | none => .ok absent

end Record
end DoubleDispatch.Schema
