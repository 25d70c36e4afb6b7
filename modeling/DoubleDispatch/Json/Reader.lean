import DoubleDispatch.Json.Number

/-! Reading one JSON text. Of two entries with one name the last value counts. What a number means
is left open in the readers; `parse` gives it the meaning of `number`. -/
namespace DoubleDispatch.Json

def isBlank (c : Char) : Bool := c == ' ' || c == '\n' || c == '\r' || c == '\t'

def skipBlanks (cs : List Char) : List Char := cs.dropWhile isBlank

def hexValue? (c : Char) : Option Nat :=
  if '0' ≤ c ∧ c ≤ '9' then some (c.toNat - 48)
  else if 'a' ≤ c ∧ c ≤ 'f' then some (c.toNat - 87)
  else if 'A' ≤ c ∧ c ≤ 'F' then some (c.toNat - 55)
  else none

def hexQuad? (a b c d : Char) : Option Nat := do
  let a ← hexValue? a
  let b ← hexValue? b
  let c ← hexValue? c
  let d ← hexValue? d
  return ((a * 16 + b) * 16 + c) * 16 + d

def isHighHalf (n : Nat) : Bool := 0xD800 ≤ n && n < 0xDC00

def isLowHalf (n : Nat) : Bool := 0xDC00 ≤ n && n < 0xE000

def shortEscape? : Char → Option Char
  | '"' => some '"'
  | '\\' => some '\\'
  | '/' => some '/'
  | 'b' => some '\x08'
  | 'f' => some '\x0c'
  | 'n' => some '\n'
  | 'r' => some '\r'
  | 't' => some '\t'
  | _ => none

/- What follows an opening quote, up to the closing one. Two escaped halves make one character. -/
def readString (done : List Char) : List Char → Rest String
  | '"' :: rest => some (String.ofList done.reverse, rest)
  | '\\' :: 'u' :: a :: b :: c :: d :: '\\' :: 'u' :: e :: f :: g :: h :: rest =>
    match hexQuad? a b c d with
    | none => none
    | some first =>
      if isHighHalf first then
        match hexQuad? e f g h with
        | none => none
        | some second =>
          if isLowHalf second then
            readString (Char.ofNat (0x10000 + (first - 0xD800) * 0x400 + (second - 0xDC00)) :: done)
              rest
          else none
      else if isLowHalf first then none
      else readString (Char.ofNat first :: done) ('\\' :: 'u' :: e :: f :: g :: h :: rest)
  | '\\' :: 'u' :: a :: b :: c :: d :: rest =>
    match hexQuad? a b c d with
    | none => none
    | some first =>
      if isHighHalf first || isLowHalf first then none
      else readString (Char.ofNat first :: done) rest
  | '\\' :: c :: rest =>
    match shortEscape? c with
    | none => none
    | some plain => readString (plain :: done) rest
  | c :: rest => if c.toNat < 32 then none else readString (c :: done) rest
  | [] => none

def expect (word : List Char) (found : Document) (cs : List Char) : Rest Document :=
  if word.isPrefixOf cs then some (found, cs.drop word.length) else none

def setEntry (entries : List Entry) (name : String) (value : Document) : List Entry :=
  if entries.any (fun entry => entry.1 == name) then
    entries.map (fun entry => if entry.1 == name then (name, value) else entry)
  else entries ++ [(name, value)]

section
variable (meaning : Meaning)

mutual

/- The bound counts steps into values and along lists; the length of the text is enough. The depth
counts the lists and tables that may still be opened inside each other. -/
def readValue : Nat → Nat → List Char → Rest Document
  | 0, _, _ => none
  | bound + 1, depth, cs =>
    match skipBlanks cs, depth with
    | '"' :: rest, _ => (readString [] rest).map (fun (s, rest) => (.string s, rest))
    | '[' :: rest, depth + 1 =>
      match skipBlanks rest with
      | ']' :: rest => some (.list [], rest)
      | rest => readItems bound depth [] rest
    | '{' :: rest, depth + 1 =>
      match skipBlanks rest with
      | '}' :: rest => some (.table [], rest)
      | rest => readEntries bound depth [] rest
    | 't' :: rest, _ => expect "rue".toList (.boolean true) rest
    | 'f' :: rest, _ => expect "alse".toList (.boolean false) rest
    | 'n' :: rest, _ => expect "ull".toList .null rest
    | '-' :: rest, _ => readMagnitude meaning true rest
    | rest, _ => readMagnitude meaning false rest

def readItems : Nat → Nat → List Document → List Char → Rest Document
  | 0, _, _, _ => none
  | bound + 1, depth, done, cs =>
    match readValue bound depth cs with
    | none => none
    | some (item, rest) =>
      match skipBlanks rest with
      | ',' :: rest => readItems bound depth (item :: done) rest
      | ']' :: rest => some (.list (item :: done).reverse, rest)
      | _ => none

def readEntries : Nat → Nat → List Entry → List Char → Rest Document
  | 0, _, _, _ => none
  | bound + 1, depth, done, cs =>
    match skipBlanks cs with
    | '"' :: rest =>
      match readString [] rest with
      | none => none
      | some (name, rest) =>
        match skipBlanks rest with
        | ':' :: rest =>
          match readValue bound depth rest with
          | none => none
          | some (value, rest) =>
            let done := setEntry done name value
            match skipBlanks rest with
            | ',' :: rest => readEntries bound depth done rest
            | '}' :: rest => some (.table done, rest)
            | _ => none
        | _ => none
    | _ => none

end

def depthLimit : Nat := 127

def parseAs (text : String) : Option Document :=
  let cs := text.toList
  match readValue meaning (cs.length + 1) depthLimit cs with
  | some (document, rest) => if skipBlanks rest = [] then some document else none
  | none => none

end

def parse (text : String) : Option Document := parseAs number text

end DoubleDispatch.Json
