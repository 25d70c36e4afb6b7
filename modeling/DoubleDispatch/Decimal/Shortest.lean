import DoubleDispatch.Decimal.Binary64

/-! The shortest decimal text of a binary number: the fewest digits that still round to it, and of
two such texts the nearer one. How the digits are set, with or without an exponent, is a matter
of style. -/
namespace DoubleDispatch.Decimal

inductive Tie where
  | up
  | even
  deriving DecidableEq, Repr

/- How a number is set: ties of the digit search, and for which places of the decimal point no
exponent is written. -/
structure Style where
  tie : Tie
  positional : Int → Bool

def positionalStyle : Style := ⟨.up, fun _ => true⟩

/-- Exponents are written below 0.00001 and from 10 ^ 16 on, always with a sign. -/
def exponentStyle : Style := ⟨.even, fun point => -5 < point && point ≤ 16⟩

/- A positive number and the ends of the interval that rounds to it, over one denominator. -/
structure Neighbourhood where
  low : Nat
  middle : Nat
  high : Nat
  den : Nat
  closed : Bool

def neighbourhood (mantissa : Nat) (exponent : Int) : Neighbourhood :=
  let below := if mantissa = Nat.pow 2 52 ∧ leastExponent < exponent then 1 else 2
  let up := if 2 ≤ exponent then Nat.pow 2 (exponent - 2).toNat else 1
  let down := if 2 ≤ exponent then 1 else Nat.pow 2 (2 - exponent).toNat
  ⟨(4 * mantissa - below) * up, 4 * mantissa * up, (4 * mantissa + 2) * up, down,
   mantissa % 2 = 0⟩

/- The number of digits before the decimal point; not positive for small numbers. -/
def pointPlace (num den : Nat) : Int :=
  let estimate : Int := ((digits num).length : Int) - (digits den).length
  let fraction := scaled 10 num den estimate
  if fraction.2 ≤ fraction.1 then estimate + 1 else estimate

def Neighbourhood.holds (n : Neighbourhood) (grid : Int) (candidate : Nat) : Bool :=
  let point := scaled 10 candidate 1 (-grid)
  let left := n.low * point.2
  let here := point.1 * n.den
  let right := n.high * point.2
  if n.closed then left ≤ here && here ≤ right else left < here && here < right

/- On one decimal grid: the multiple of the grid nearest to the number, if it rounds back. -/
def Neighbourhood.onGrid (n : Neighbourhood) (tie : Tie) (grid : Int) : Option Nat :=
  let fraction := scaled 10 n.middle n.den grid
  let lower := fraction.1 / fraction.2
  let rest := fraction.1 % fraction.2
  let upward := fraction.2 < 2 * rest ∨
    (2 * rest = fraction.2 ∧ (tie = .up ∨ lower % 2 = 1))
  match n.holds grid lower, n.holds grid (lower + 1) with
  | true, true => some (if upward then lower + 1 else lower)
  | true, false => some lower
  | false, true => some (lower + 1)
  | false, false => none

def Neighbourhood.search (n : Neighbourhood) (tie : Tie) (grid : Int) : Nat → Nat × Int
  | 0 => (n.middle, 0)
  | left + 1 =>
    match n.onGrid tie grid with
    | some coefficient => (coefficient, grid)
    | none => n.search tie (grid - 1) left

def dropTrailingZeros (ds : List Char) : List Char :=
  (ds.reverse.dropWhile (· == '0')).reverse

/- The shortest digits, and the place of the decimal point counted from their left end. -/
def shortestDigits (tie : Tie) (mantissa : Nat) (exponent : Int) : List Char × Int :=
  let n := neighbourhood mantissa exponent
  let found := n.search tie (pointPlace n.middle n.den - 1) 17
  let all := digits found.1
  (dropTrailingZeros all, all.length + found.2)

def setPositional (ds : List Char) (point : Int) : List Char :=
  if point ≤ 0 then ['0', '.'] ++ List.replicate (-point).toNat '0' ++ ds
  else if (ds.length : Int) ≤ point then
    ds ++ List.replicate (point.toNat - ds.length) '0' ++ ['.', '0']
  else ds.take point.toNat ++ '.' :: ds.drop point.toNat

def setExponent (ds : List Char) (point : Int) : List Char :=
  let mantissa := match ds with
    | [] => []
    | [d] => [d]
    | d :: rest => d :: '.' :: rest
  let sign := if point < 1 then '-' else '+'
  mantissa ++ 'e' :: sign :: digits (point - 1).natAbs

def Binary64.text (style : Style) : Binary64 → String
  | .nan => "NaN"
  | .infinite negative => if negative then "-inf" else "inf"
  | .finite negative mantissa exponent =>
    let sign := if negative then "-" else ""
    if mantissa = 0 then sign ++ "0.0"
    else
      let (ds, point) := shortestDigits style.tie mantissa exponent
      sign ++ String.ofList
        (if style.positional point then setPositional ds point else setExponent ds point)

end DoubleDispatch.Decimal
