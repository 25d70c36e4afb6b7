import DoubleDispatch.Document
import DoubleDispatch.Decimal.Shortest

/-! JSON text of a document, on one line or with two blanks of indentation per level. Entries are
written in their order. What JSON has no word for is written as near as it goes: a number that is
not finite as null, a moment as the string of its date and time. -/
namespace DoubleDispatch.Json
open Decimal (Binary64 digits signedText)

inductive Layout where
  | compact
  | indented
  deriving DecidableEq, Repr

def Layout.gap (layout : Layout) (depth : Nat) : List Char :=
  match layout with
  | .compact => []
  | .indented => '\n' :: List.replicate (2 * depth) ' '

def Layout.colon : Layout → List Char
  | .compact => [':']
  | .indented => [':', ' ']

def hexDigit (n : Nat) : Char := if n < 10 then Char.ofNat (48 + n) else Char.ofNat (87 + n)

def escapeChar (c : Char) : List Char :=
  if c = '"' then ['\\', '"']
  else if c = '\\' then ['\\', '\\']
  else if c = '\n' then ['\\', 'n']
  else if c = '\r' then ['\\', 'r']
  else if c = '\t' then ['\\', 't']
  else if c.toNat = 8 then ['\\', 'b']
  else if c.toNat = 12 then ['\\', 'f']
  else if c.toNat < 32 then
    ['\\', 'u', '0', '0', hexDigit (c.toNat / 16), hexDigit (c.toNat % 16)]
  else [c]

def quoted (s : String) : List Char := '"' :: (s.toList.flatMap escapeChar ++ ['"'])

def padded (width n : Nat) : List Char :=
  List.replicate (width - (digits n).length) '0' ++ digits n

def dateText (d : Date) : List Char :=
  padded 4 d.year ++ '-' :: padded 2 d.month ++ '-' :: padded 2 d.day

def timeText (t : TimeOfDay) : List Char :=
  padded 2 t.hour ++ ':' :: padded 2 t.minute ++ ':' :: padded 2 t.second ++
    (if t.fraction = [] then [] else '.' :: t.fraction)

def offsetText : Offset → List Char
  | .meridian => ['Z']
  | .east minutes =>
    (if minutes < 0 then '-' else '+') :: padded 2 (minutes.natAbs / 60) ++
      ':' :: padded 2 (minutes.natAbs % 60)

def momentText : Moment → String
  | .day date => String.ofList (dateText date)
  | .clock time => String.ofList (timeText time)
  | .both date time offset =>
    String.ofList (dateText date ++ 'T' :: timeText time ++ (offset.map offsetText).getD [])

def floatText (x : Binary64) : List Char :=
  match x with
  | .finite .. => (x.text Decimal.exponentStyle).toList
  | _ => ['n', 'u', 'l', 'l']

mutual

def write (layout : Layout) (depth : Nat) : Document → List Char
  | .null => ['n', 'u', 'l', 'l']
  | .boolean true => ['t', 'r', 'u', 'e']
  | .boolean false => ['f', 'a', 'l', 's', 'e']
  | .integer n => (signedText n).toList
  | .float x => floatText x
  | .string s => quoted s
  | .moment m => quoted (momentText m)
  | .list [] | .sections [] => ['[', ']']
  | .list (item :: rest) | .sections (item :: rest) =>
    '[' :: (layout.gap (depth + 1) ++ (write layout (depth + 1) item ++
      (writeItems layout (depth + 1) rest ++ (layout.gap depth ++ [']']))))
  | .table [] => ['{', '}']
  | .table ((name, value) :: rest) =>
    '{' :: (layout.gap (depth + 1) ++ (quoted name ++ (layout.colon ++
      (write layout (depth + 1) value ++
        (writeEntries layout (depth + 1) rest ++ (layout.gap depth ++ ['}']))))))

def writeItems (layout : Layout) (depth : Nat) : List Document → List Char
  | [] => []
  | item :: rest =>
    ',' :: (layout.gap depth ++ (write layout depth item ++ writeItems layout depth rest))

def writeEntries (layout : Layout) (depth : Nat) : List (String × Document) → List Char
  | [] => []
  | (name, value) :: rest =>
    ',' :: (layout.gap depth ++ (quoted name ++ (layout.colon ++
      (write layout depth value ++ writeEntries layout depth rest))))

end

def compact (document : Document) : String := String.ofList (write .compact 0 document)

def pretty (document : Document) : String := String.ofList (write .indented 0 document)

end DoubleDispatch.Json
