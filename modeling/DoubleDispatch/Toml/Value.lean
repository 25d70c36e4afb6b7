import DoubleDispatch.Toml.Text
import DoubleDispatch.Toml.Number
import DoubleDispatch.Toml.Moment
import DoubleDispatch.Toml.Table

/-! Values of TOML texts. The first character decides what kind of value is read; lists may spread
over lines, tables between braces may not. -/
namespace DoubleDispatch.Toml

abbrev ValueReader := List Char → Option (Document × List Char)

def readWord (word : List Char) (found : Document) : ValueReader := fun cs =>
  if word.isPrefixOf cs then some (found, cs.drop word.length) else none

def readScalar : ValueReader := fun cs =>
  match cs with
  | '"' :: _ | '\'' :: _ => (readString cs).map (fun (s, rest) => (.string s, rest))
  | 't' :: _ => readWord "true".toList (.boolean true) cs
  | 'f' :: _ => readWord "false".toList (.boolean false) cs
  | _ =>
    if startsMoment cs then (readMoment cs).map (fun (m, rest) => (.moment m, rest))
    else readNumber cs

def readItems (item : ValueReader) : Nat → List Document → ValueReader
  | 0, _, _ => none
  | bound + 1, done, cs => do
    match ← skipFiller cs with
    | ']' :: rest => some (.list done.reverse, rest)
    | start =>
      let (found, rest) ← item start
      match ← skipFiller rest with
      | ',' :: rest => readItems item bound (found :: done) rest
      | ']' :: rest => some (.list (found :: done).reverse, rest)
      | _ => none

def readPair (item : ValueReader) (cs : List Char) : Option (Pair × List Char) := do
  let (path, name, rest) ← readKey cs
  match rest with
  | '=' :: rest =>
    let (value, rest) ← item (skipBlanks rest)
    some (⟨path, name, value⟩, rest)
  | _ => none

def readPairs (item : ValueReader) : Nat → List Pair → List Char → Option (List Pair × List Char)
  | 0, _, _ => none
  | bound + 1, done, cs => do
    let (pair, rest) ← readPair item cs
    match skipBlanks rest with
    | ',' :: rest => readPairs item bound (pair :: done) rest
    | '}' :: rest => some ((pair :: done).reverse, rest)
    | _ => none

def readInlineTable (item : ValueReader) : ValueReader := fun cs => do
  match skipBlanks cs with
  | '}' :: rest => some (.table [], rest)
  | start =>
    let (pairs, rest) ← readPairs item (start.length + 1) [] start
    some (← inlineTable pairs, rest)

/- The number counts how many lists and tables may still be opened inside each other. -/
def readValueWithin : Nat → ValueReader
  | 0, cs =>
    match cs with
    | '[' :: _ | '{' :: _ => none
    | _ => readScalar cs
  | depth + 1, cs =>
    match cs with
    | '[' :: rest => readItems (readValueWithin depth) (rest.length + 1) [] rest
    | '{' :: rest => readInlineTable (readValueWithin depth) rest
    | _ => readScalar cs

def readValue : ValueReader := readValueWithin (depthLimit - 1)

end DoubleDispatch.Toml
