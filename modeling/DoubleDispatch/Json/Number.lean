import DoubleDispatch.Document

/-! Numbers of JSON texts. Whole numbers between -2 ^ 63 and 2 ^ 64 - 1 stay whole. Every other
number has a coefficient of 64 bits, which is rounded and then multiplied or divided by powers of
ten, each step rounded in turn; so the last digit of a long number may be off. -/
namespace DoubleDispatch.Json
open Decimal (Numeral Binary64 digitValue value)

/- What was read, and the text behind it. -/
abbrev Rest (α : Type) := Option (α × List Char)

def spanDigits (cs : List Char) : List Char × List Char :=
  (cs.takeWhile Char.isDigit, cs.dropWhile Char.isDigit)

def readFraction : List Char → Rest (List Char)
  | '.' :: rest =>
    match spanDigits rest with
    | ([], _) => none
    | (ds, rest) => some (ds, rest)
  | rest => some ([], rest)

def signed (negative : Bool) (n : Nat) : Int := if negative then -(n : Int) else n

def readUnsigned (negative : Bool) (cs : List Char) : Rest Int :=
  match spanDigits cs with
  | ([], _) => none
  | (ds, rest) => some (signed negative (value ds), rest)

def readExponent : List Char → Rest (Option Int)
  | 'e' :: rest | 'E' :: rest =>
    let found := match rest with
      | '-' :: rest => readUnsigned true rest
      | '+' :: rest => readUnsigned false rest
      | rest => readUnsigned false rest
    found.map (fun (n, rest) => (some n, rest))
  | rest => some (none, rest)

def coefficientLimit : Nat := Nat.pow 2 64

/- The digits that fit a coefficient, and how many of the given ones they are. -/
def fill (coefficient : Nat) : List Char → Nat × Nat
  | [] => (coefficient, 0)
  | c :: rest =>
    let longer := 10 * coefficient + digitValue c
    if longer < coefficientLimit then
      let (filled, count) := fill longer rest
      (filled, count + 1)
    else (coefficient, 0)

/- Digits before the point that do not fit count as places, those behind it are dropped. -/
def coefficientOf (whole fraction : List Char) : Nat × Int :=
  let (front, used) := fill 0 whole
  let (all, places) := fill front fraction
  (all, (whole.length : Int) - used - places)

def greatestPower : Nat := 308

def powerOfTen (exponent : Nat) : Binary64 := Numeral.toBinary64 ⟨false, 1, exponent⟩

/- Powers of ten beyond the greatest one are taken step by step, downwards only; a few steps bring
any coefficient to zero. Nothing may become infinite. -/
def scaleWithin : Nat → Binary64 → Int → Option Binary64
  | 0, x, _ => some x
  | steps + 1, x, exponent =>
    if exponent.natAbs ≤ greatestPower then
      let power := powerOfTen exponent.natAbs
      let scaled := if 0 ≤ exponent then x.times power else x.over power
      if scaled.isInfinite then none else some scaled
    else if x.isZero then some x
    else if 0 ≤ exponent then none
    else scaleWithin steps (x.over (powerOfTen greatestPower)) (exponent + greatestPower)

def scale (negative : Bool) (coefficient : Nat) (exponent : Int) : Option Binary64 :=
  scaleWithin 4 (Numeral.toBinary64 ⟨negative, coefficient, 0⟩) exponent

def wholeInRange (negative : Bool) (magnitude : Nat) : Bool :=
  if negative then 0 < magnitude && magnitude ≤ Nat.pow 2 63 else magnitude < coefficientLimit

def number (negative : Bool) (whole fraction : List Char) (exponent : Option Int) :
    Option Document :=
  if fraction = [] ∧ exponent = none ∧ wholeInRange negative (value whole) = true then
    some (.integer (signed negative (value whole)))
  else
    let (coefficient, places) := coefficientOf whole fraction
    (scale negative coefficient (places + exponent.getD 0)).map .float

/- What a numeral stands for: its sign, its digits before and behind the point, its exponent. -/
abbrev Meaning := Bool → List Char → List Char → Option Int → Option Document

def readMagnitude (meaning : Meaning) (negative : Bool) (cs : List Char) :
    Option (Document × List Char) := do
  let (whole, rest) := spanDigits cs
  if whole = [] ∨ (whole.head? = some '0' ∧ whole ≠ ['0']) then none
  else
    let (fraction, rest) ← readFraction rest
    let (exponent, rest) ← readExponent rest
    let found ← meaning negative whole fraction exponent
    return (found, rest)

end DoubleDispatch.Json
