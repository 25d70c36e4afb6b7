import DoubleDispatch.Decimal.Digits

/-! Decimal numerals and the 64-bit binary floating-point numbers nearest to them, in exact
arithmetic. A finite number is a mantissa below 2 ^ 53 times a power of two, never below
2 ^ (-1074); a numeral half way between two of them goes to the one with the even mantissa. -/
namespace DoubleDispatch.Decimal

/- The number written as coefficient times a power of ten. -/
structure Numeral where
  negative : Bool
  coefficient : Nat
  exponent : Int
  deriving DecidableEq, Repr

inductive Binary64 where
  | nan
  | infinite (negative : Bool)
  | finite (negative : Bool) (mantissa : Nat) (exponent : Int)
  deriving DecidableEq, Repr

def roundHalfEven (num den : Nat) : Nat :=
  let quotient := num / den
  let rest := num % den
  if 2 * rest < den then quotient
  else if den < 2 * rest then quotient + 1
  else if quotient % 2 = 0 then quotient
  else quotient + 1

/- A fraction divided by a power of a base, as a fraction again. -/
def scaled (base num den : Nat) (exponent : Int) : Nat × Nat :=
  if 0 ≤ exponent then (num, den * Nat.pow base exponent.toNat)
  else (num * Nat.pow base (-exponent).toNat, den)

def leastExponent : Int := -1074

def greatestExponent : Int := 971

def Binary64.zero (negative : Bool) : Binary64 := .finite negative 0 leastExponent

/- The exponent that leaves a mantissa of 53 bits, or the least one. -/
def exponentFor (num den : Nat) : Int :=
  let estimate : Int := max ((num.log2 : Int) - den.log2 - 53) leastExponent
  let fraction := scaled 2 num den estimate
  if Nat.pow 2 53 ≤ fraction.1 / fraction.2 then estimate + 1 else estimate

def nearest (negative : Bool) (num den : Nat) : Binary64 :=
  let exponent := exponentFor num den
  let fraction := scaled 2 num den exponent
  let mantissa := roundHalfEven fraction.1 fraction.2
  let carried := if mantissa = Nat.pow 2 53 then (Nat.pow 2 52, exponent + 1) else (mantissa, exponent)
  if greatestExponent < carried.2 then .infinite negative
  else .finite negative carried.1 carried.2

/- Numerals far outside the range are settled by their size, so that no huge power is formed. -/
def Numeral.toBinary64 (n : Numeral) : Binary64 :=
  if n.coefficient = 0 then .zero n.negative
  else
    let places : Int := (digits n.coefficient).length + n.exponent
    if 310 < places then .infinite n.negative
    else if places < -330 then .zero n.negative
    else
      let fraction := scaled 10 n.coefficient 1 (-n.exponent)
      nearest n.negative fraction.1 fraction.2

/- A fraction times a power of two, rounded. -/
def rounded (negative : Bool) (num den : Nat) (exponent : Int) : Binary64 :=
  if num = 0 then .zero negative
  else
    let fraction := scaled 2 num den (-exponent)
    nearest negative fraction.1 fraction.2

/- The product of finite numbers, rounded once. -/
def Binary64.times : Binary64 → Binary64 → Binary64
  | .finite s m e, .finite t n f => rounded (s != t) (m * n) 1 (e + f)
  | _, _ => .nan

/- The quotient of finite numbers, rounded once. -/
def Binary64.over : Binary64 → Binary64 → Binary64
  | .finite s m e, .finite t n f => if n = 0 then .nan else rounded (s != t) m n (e - f)
  | _, _ => .nan

def Binary64.isZero : Binary64 → Bool
  | .finite _ mantissa _ => mantissa == 0
  | _ => false

def Binary64.isInfinite : Binary64 → Bool
  | .infinite _ => true
  | _ => false

end DoubleDispatch.Decimal
