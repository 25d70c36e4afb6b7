import DoubleDispatch.Document
import DoubleDispatch.Toml.Blank

/-! Dates and times of TOML texts. A date that a time does not follow stands for itself; seconds
are always written, and the sixtieth is a leap second. -/
namespace DoubleDispatch.Toml
open Decimal (value)

def readPlaces (count : Nat) (cs : List Char) : Option (Nat × List Char) :=
  let front := cs.take count
  if front.length = count ∧ front.all Char.isDigit = true then some (value front, cs.drop count)
  else none

def expectChar (c : Char) : List Char → Option (List Char)
  | d :: rest => if c = d then some rest else none
  | [] => none

def isLeapYear (year : Nat) : Bool := year % 4 == 0 && (year % 100 != 0 || year % 400 == 0)

def daysOf (year : Nat) : Nat → Nat
  | 2 => if isLeapYear year then 29 else 28
  | 4 | 6 | 9 | 11 => 30
  | _ => 31

def readDate (cs : List Char) : Option (Date × List Char) := do
  let (year, rest) ← readPlaces 4 cs
  let (month, rest) ← readPlaces 2 (← expectChar '-' rest)
  let (day, rest) ← readPlaces 2 (← expectChar '-' rest)
  if 1 ≤ month ∧ month ≤ 12 ∧ 1 ≤ day ∧ day ≤ daysOf year month then
    some (⟨year, month, day⟩, rest)
  else none

def readSecondFraction : List Char → List Char × List Char
  | '.' :: rest =>
    match rest.takeWhile Char.isDigit with
    | [] => ([], '.' :: rest)
    | ds => (ds, rest.dropWhile Char.isDigit)
  | rest => ([], rest)

def readTime (cs : List Char) : Option (TimeOfDay × List Char) := do
  let (hour, rest) ← readPlaces 2 cs
  let (minute, rest) ← readPlaces 2 (← expectChar ':' rest)
  let (second, rest) ← readPlaces 2 (← expectChar ':' rest)
  let (fraction, rest) := readSecondFraction rest
  if hour ≤ 23 ∧ minute ≤ 59 ∧ second ≤ 60 then
    some (⟨hour, minute, second, fraction⟩, rest)
  else none

def readOffset : List Char → Option (Option Offset × List Char)
  | 'Z' :: rest | 'z' :: rest => some (some .meridian, rest)
  | '+' :: rest => do
    let (minutes, rest) ← readHours rest
    some (some (.east minutes), rest)
  | '-' :: rest => do
    let (minutes, rest) ← readHours rest
    some (some (.east (-minutes)), rest)
  | rest => some (none, rest)
where
  readHours (cs : List Char) : Option (Int × List Char) := do
    let (hour, rest) ← readPlaces 2 cs
    let (minute, rest) ← readPlaces 2 (← expectChar ':' rest)
    if hour ≤ 23 ∧ minute ≤ 59 then some ((hour * 60 + minute : Nat), rest) else none

def startsClock (cs : List Char) : Bool :=
  match readPlaces 2 cs with
  | some (_, ':' :: _) => true
  | _ => false

def startsDate (cs : List Char) : Bool :=
  match readPlaces 4 cs with
  | some (_, '-' :: _) => true
  | _ => false

/- The clock part behind a date, if one is there. -/
def clockPart? : List Char → Option (List Char)
  | c :: rest =>
    if (c == 'T' || c == 't' || c == ' ') && startsClock rest then some rest else none
  | [] => none

def readMoment (cs : List Char) : Option (Moment × List Char) := do
  if startsDate cs then
    let (date, rest) ← readDate cs
    match clockPart? rest with
    | none => some (.day date, rest)
    | some clock =>
      let (time, rest) ← readTime clock
      let (offset, rest) ← readOffset rest
      some (.both date time offset, rest)
  else
    let (time, rest) ← readTime cs
    some (.clock time, rest)

def startsMoment (cs : List Char) : Bool := startsDate cs || startsClock cs

end DoubleDispatch.Toml
