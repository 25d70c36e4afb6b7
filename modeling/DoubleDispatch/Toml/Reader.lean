import DoubleDispatch.Toml.Value

/-! Reading a whole TOML text. A text is a sequence of lines: empty ones, pairs and headers. All of
it is read, and its tables put together, before anyone looks at what it says. -/
namespace DoubleDispatch.Toml

inductive Line where
  | empty
  | pair (pair : Pair)
  | header (opening : Opening) (path : List String) (name : String)

def expectAll (word : List Char) (cs : List Char) : Option (List Char) :=
  if word.isPrefixOf cs then some (cs.drop word.length) else none

def readHeader (opening : Opening) (closing : List Char) (cs : List Char) :
    Option (Line × List Char) := do
  let (path, name, rest) ← readKey cs
  some (.header opening path name, ← expectAll closing rest)

def readContent (cs : List Char) : Option (Line × List Char) :=
  match cs with
  | [] => some (.empty, [])
  | '\n' :: _ | '\r' :: _ | '#' :: _ => some (.empty, cs)
  | '[' :: '[' :: rest => readHeader .element [']', ']'] rest
  | '[' :: rest => readHeader .table [']'] rest
  | _ => (readPair readValue cs).map (fun (pair, rest) => (.pair pair, rest))

def readLine (cs : List Char) : Option (Line × List Char) := do
  let (line, rest) ← readContent (skipBlanks cs)
  some (line, ← finishLine rest)

def readLines : Nat → List Line → List Char → Option (List Line)
  | _, done, [] => some done.reverse
  | 0, _, _ => none
  | bound + 1, done, cs => do
    let (line, rest) ← readLine cs
    readLines bound (line :: done) rest

/- The pairs before the first header, and the sections. -/
def arrange : List Line → List Pair × List Section
  | [] => ([], [])
  | .empty :: rest => arrange rest
  | .pair pair :: rest =>
    let (pairs, sections) := arrange rest
    (pair :: pairs, sections)
  | .header opening path name :: rest =>
    let (pairs, sections) := arrange rest
    ([], ⟨opening, path, name, pairs⟩ :: sections)

def byteOrderMark : Char := Char.ofNat 0xFEFF

def skipMark : List Char → List Char
  | [] => []
  | c :: rest => if c = byteOrderMark then rest else c :: rest

def parse (text : String) : Option Document := do
  let cs := skipMark text.toList
  let lines ← readLines (cs.length + 1) [] cs
  let (pairs, sections) := arrange lines
  assemble pairs sections

end DoubleDispatch.Toml
