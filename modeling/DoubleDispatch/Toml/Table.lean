import DoubleDispatch.Document

/-! How tables grow while a TOML text is read. A table knows how it came about: by its own header,
as a step on the way of a header, or by a dotted key; that decides what may still be added to it.
A step on the way may get its own header later and then moves to the end of its parent. -/
namespace DoubleDispatch.Toml

inductive Origin where
  | header
  | step
  | dotted
  deriving DecidableEq, Repr

inductive Node where
  | leaf (value : Document)
  | table (origin : Origin) (entries : List (String × Node))
  | tables (elements : List (List (String × Node)))

abbrev Nodes := List (String × Node)

mutual

def Node.document : Node → Document
  | .leaf value => value
  | .table _ entries => .table (documents entries)
  | .tables elements => .sections (elementDocuments elements)

def documents : List (String × Node) → List (String × Document)
  | [] => []
  | (name, node) :: rest => (name, node.document) :: documents rest

def elementDocuments : List (List (String × Node)) → List Document
  | [] => []
  | entries :: rest => .table (documents entries) :: elementDocuments rest

end

def replace (entries : Nodes) (name : String) (node : Node) : Nodes :=
  entries.map (fun entry => if entry.1 == name then (name, node) else entry)

def remove (entries : Nodes) (name : String) : Nodes :=
  entries.filter (fun entry => entry.1 != name)

/- The last table of a list of tables, changed. -/
def changeLast (change : Nodes → Option Nodes) : List Nodes → Option (List Nodes)
  | [] => none
  | [last] => (change last).map ([·])
  | first :: rest => (changeLast change rest).map (first :: ·)

structure Pair where
  path : List String
  name : String
  value : Document

/- The way of a dotted key. Tables with a header of their own cannot be entered, and the value has
to land in the table the key starts from or in one that dotted keys made. -/
def insertAlong (landing : Bool) (entries : Nodes) (name : String) (value : Document) :
    List String → Option Nodes
  | [] =>
    if landing = true ∧ (entries.lookup name).isNone then some (entries ++ [(name, .leaf value)])
    else none
  | step :: path =>
    match entries.lookup step with
    | none =>
      (insertAlong true [] name value path).map (fun inner =>
        entries ++ [(step, .table .dotted inner)])
    | some (.table .dotted inner) =>
      (insertAlong true inner name value path).map (fun inner =>
        replace entries step (.table .dotted inner))
    | some (.table .step inner) =>
      (insertAlong false inner name value path).map (fun inner =>
        replace entries step (.table .step inner))
    | some (.table .header _) => none
    | some (.tables elements) =>
      (changeLast (fun inner => insertAlong false inner name value path) elements).map
        (fun elements => replace entries step (.tables elements))
    | some (.leaf _) => none

def insertPair (entries : Nodes) (pair : Pair) : Option Nodes :=
  insertAlong true entries pair.name pair.value pair.path

def insertPairs (entries : Nodes) (pairs : List Pair) : Option Nodes :=
  pairs.foldlM insertPair entries

/- The way of a header to the table that holds its last name. -/
def changeAt (change : Nodes → Option Nodes) (entries : Nodes) : List String → Option Nodes
  | [] => change entries
  | step :: path =>
    match entries.lookup step with
    | none =>
      (changeAt change [] path).map (fun inner => entries ++ [(step, .table .step inner)])
    | some (.table origin inner) =>
      (changeAt change inner path).map (fun inner => replace entries step (.table origin inner))
    | some (.tables elements) =>
      (changeLast (fun inner => changeAt change inner path) elements).map
        (fun elements => replace entries step (.tables elements))
    | some (.leaf _) => none

inductive Opening where
  | table
  | element
  deriving DecidableEq, Repr

/- A header and the pairs up to the next one. -/
structure Section where
  opening : Opening
  path : List String
  name : String
  pairs : List Pair

def openTable (name : String) (pairs : List Pair) (parent : Nodes) : Option Nodes := do
  let start ← match parent.lookup name with
    | none => some []
    | some (.table .step entries) => some entries
    | some _ => none
  let entries ← insertPairs start pairs
  some (remove parent name ++ [(name, .table .header entries)])

def openElement (name : String) (pairs : List Pair) (parent : Nodes) : Option Nodes := do
  let entries ← insertPairs [] pairs
  match parent.lookup name with
  | none => some (parent ++ [(name, .tables [entries])])
  | some (.tables elements) => some (replace parent name (.tables (elements ++ [entries])))
  | some _ => none

def addSection (root : Nodes) (s : Section) : Option Nodes :=
  match s.opening with
  | .table => changeAt (openTable s.name s.pairs) root s.path
  | .element => changeAt (openElement s.name s.pairs) root s.path

def assemble (pairs : List Pair) (sections : List Section) : Option Document := do
  let root ← insertPairs [] pairs
  let root ← sections.foldlM addSection root
  some (.table (documents root))

/- The table between braces that these pairs make. -/
def inlineTable (pairs : List Pair) : Option Document :=
  (insertPairs [] pairs).map (fun entries => .table (documents entries))

end DoubleDispatch.Toml
