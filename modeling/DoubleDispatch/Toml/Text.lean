import DoubleDispatch.Toml.Blank

/-! Strings and keys of TOML texts. Strings stand in single or double quotes, on one line or, with
three quotes, on many; only double quotes know escapes. -/
namespace DoubleDispatch.Toml

def hexValue? (c : Char) : Option Nat :=
  if '0' ≤ c ∧ c ≤ '9' then some (c.toNat - 48)
  else if 'a' ≤ c ∧ c ≤ 'f' then some (c.toNat - 87)
  else if 'A' ≤ c ∧ c ≤ 'F' then some (c.toNat - 55)
  else none

def readHex (count : Nat) (cs : List Char) : Option (Char × List Char) := do
  let front := cs.take count
  let values ← front.mapM hexValue?
  let code := values.foldl (fun n d => 16 * n + d) 0
  if front.length = count ∧ code.isValidChar then some (Char.ofNat code, cs.drop count) else none

/- What follows a backslash, unless it ends the line. -/
def readEscape : List Char → Option (Char × List Char)
  | 'b' :: rest => some ('\x08', rest)
  | 'f' :: rest => some ('\x0c', rest)
  | 'n' :: rest => some ('\n', rest)
  | 'r' :: rest => some ('\r', rest)
  | 't' :: rest => some ('\t', rest)
  | '"' :: rest => some ('"', rest)
  | '\\' :: rest => some ('\\', rest)
  | 'u' :: rest => readHex 4 rest
  | 'U' :: rest => readHex 8 rest
  | _ => none

/- A string on one line, from behind its opening quote. -/
def readShort (quote : Char) (escapes : Bool) :
    Nat → List Char → List Char → Option (String × List Char)
  | 0, _, _ => none
  | _ + 1, _, [] => none
  | bound + 1, done, c :: rest =>
    if c = quote then some (String.ofList done.reverse, rest)
    else if c = '\\' ∧ escapes = true then
      match readEscape rest with
      | some (plain, rest) => readShort quote escapes bound (plain :: done) rest
      | none => none
    else if isTextChar c then readShort quote escapes bound (c :: done) rest
    else none

/- A backslash at the end of a line takes the following blanks and line ends away. -/
def lineContinuation? (cs : List Char) : Option (List Char) :=
  (lineEnd? (skipBlanks cs)).map skipLines

/- A string on many lines, from behind its three quotes. Up to two quotes may stand before the
three that close it. -/
def readLong (quote : Char) (escapes : Bool) :
    Nat → List Char → List Char → Option (String × List Char)
  | 0, _, _ => none
  | bound + 1, done, cs =>
    let quotes := (cs.takeWhile (· == quote)).length
    if 3 ≤ quotes then
      let kept := min (quotes - 3) 2
      some (String.ofList (List.replicate kept quote ++ done).reverse, cs.drop (kept + 3))
    else if 0 < quotes then
      readLong quote escapes bound (List.replicate quotes quote ++ done) (cs.drop quotes)
    else
      match lineEnd? cs with
      | some rest => readLong quote escapes bound ('\n' :: done) rest
      | none =>
        match cs with
        | [] => none
        | c :: rest =>
          if c = '\\' ∧ escapes = true then
            match lineContinuation? rest with
            | some rest => readLong quote escapes bound done rest
            | none =>
              match readEscape rest with
              | some (plain, rest) => readLong quote escapes bound (plain :: done) rest
              | none => none
          else if isTextChar c then readLong quote escapes bound (c :: done) rest
          else none

def readOneLine (quote : Char) (escapes : Bool) (cs : List Char) : Option (String × List Char) :=
  readShort quote escapes (cs.length + 1) [] cs

def readManyLines (quote : Char) (escapes : Bool) (cs : List Char) :
    Option (String × List Char) :=
  let body := (lineEnd? cs).getD cs
  readLong quote escapes (body.length + 1) [] body

def readString : List Char → Option (String × List Char)
  | '"' :: '"' :: '"' :: rest => readManyLines '"' true rest
  | '"' :: rest => readOneLine '"' true rest
  | '\'' :: '\'' :: '\'' :: rest => readManyLines '\'' false rest
  | '\'' :: rest => readOneLine '\'' false rest
  | _ => none

def isBareChar (c : Char) : Bool := c.isAlphanum || c == '-' || c == '_'

def readSimpleKey : List Char → Option (String × List Char)
  | '"' :: rest => readOneLine '"' true rest
  | '\'' :: rest => readOneLine '\'' false rest
  | cs =>
    match cs.takeWhile isBareChar with
    | [] => none
    | name => some (String.ofList name, cs.dropWhile isBareChar)

def readKeyBound : Nat → List Char → Option (List String × List Char)
  | 0, _ => none
  | bound + 1, cs => do
    let (name, rest) ← readSimpleKey (skipBlanks cs)
    match skipBlanks rest with
    | '.' :: rest =>
      let (names, rest) ← readKeyBound bound rest
      some (name :: names, rest)
    | rest => some ([name], rest)

/- Keys and values may be nested this deep and no deeper. -/
def depthLimit : Nat := 80

/- A dotted key with the blanks around it: the table path, then the last name. -/
def readKey (cs : List Char) : Option (List String × String × List Char) := do
  let (names, rest) ← readKeyBound (cs.length + 1) cs
  match names.getLast? with
  | some name => if names.length < depthLimit then some (names.dropLast, name, rest) else none
  | none => none

end DoubleDispatch.Toml
