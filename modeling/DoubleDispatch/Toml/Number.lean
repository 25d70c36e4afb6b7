import DoubleDispatch.Document

/-! Numbers of TOML texts. Whole numbers have 64 bits with a sign; a number with a fraction or an
exponent is the nearest binary number, and one that is too large upwards is no number at all. -/
namespace DoubleDispatch.Toml
open Decimal (Numeral Binary64 digitValue value)

/- The digits behind the first one. An underscore has to be followed by a digit and is dropped. -/
def readMoreDigits (isDigit : Char → Bool) : List Char → Option (List Char × List Char)
  | [] => some ([], [])
  | ['_'] => none
  | '_' :: c :: rest =>
    if isDigit c then (readMoreDigits isDigit rest).map (fun (ds, rest) => (c :: ds, rest)) else none
  | c :: rest =>
    if isDigit c then (readMoreDigits isDigit rest).map (fun (ds, rest) => (c :: ds, rest))
    else some ([], c :: rest)

def readDigits (isDigit : Char → Bool) : List Char → Option (List Char × List Char)
  | [] => none
  | c :: rest =>
    if isDigit c then (readMoreDigits isDigit rest).map (fun (ds, rest) => (c :: ds, rest)) else none

def readSign : List Char → Bool × List Char
  | '-' :: rest => (true, rest)
  | '+' :: rest => (false, rest)
  | rest => (false, rest)

/- Decimal digits without a leading zero, unless zero is all there is. -/
def readWhole : List Char → Option (List Char × List Char)
  | '0' :: rest => some (['0'], rest)
  | rest => readDigits Char.isDigit rest

def readFraction : List Char → Option (List Char × List Char)
  | '.' :: rest => readDigits Char.isDigit rest
  | rest => some ([], rest)

def readExponent : List Char → Option (Option Int × List Char)
  | 'e' :: rest | 'E' :: rest => do
    let (negative, rest) := readSign rest
    let (ds, rest) ← readDigits Char.isDigit rest
    let magnitude : Int := value ds
    some (some (if negative then -magnitude else magnitude), rest)
  | rest => some (none, rest)

def wholeNumber (negative : Bool) (magnitude : Nat) : Option Document :=
  if negative then
    if magnitude ≤ Nat.pow 2 63 then some (.integer (-(Int.ofNat magnitude))) else none
  else if magnitude < Nat.pow 2 63 then some (.integer (Int.ofNat magnitude))
  else none

def fractionalNumber (negative : Bool) (whole fraction : List Char) (exponent : Int) :
    Option Document :=
  let numeral : Numeral := ⟨negative, value (whole ++ fraction), exponent - fraction.length⟩
  match numeral.toBinary64 with
  | .infinite false => none
  | number => some (.float number)

def baseDigit (base : Nat) (c : Char) : Bool :=
  match base with
  | 16 => c.isDigit || ('a' ≤ c && c ≤ 'f') || ('A' ≤ c && c ≤ 'F')
  | 8 => '0' ≤ c && c ≤ '7'
  | _ => c == '0' || c == '1'

def baseDigitValue (c : Char) : Nat :=
  if c.isDigit then digitValue c
  else if 'a' ≤ c then c.toNat - 87
  else c.toNat - 55

def readBased (base : Nat) (cs : List Char) : Option (Document × List Char) := do
  let (ds, rest) ← readDigits (baseDigit base) cs
  let number ← wholeNumber false (ds.foldl (fun n c => base * n + baseDigitValue c) 0)
  some (number, rest)

def readSpecial (negative : Bool) : List Char → Option (Document × List Char)
  | 'i' :: 'n' :: 'f' :: rest => some (.float (.infinite negative), rest)
  | 'n' :: 'a' :: 'n' :: rest => some (.float .nan, rest)
  | _ => none

def readDecimal (cs : List Char) : Option (Document × List Char) := do
  let (negative, rest) := readSign cs
  match readSpecial negative rest with
  | some found => some found
  | none =>
    let (whole, rest) ← readWhole rest
    let (fraction, rest) ← readFraction rest
    let (exponent, rest) ← readExponent rest
    let number ←
      if fraction = [] ∧ exponent = none then wholeNumber negative (value whole)
      else fractionalNumber negative whole fraction (exponent.getD 0)
    some (number, rest)

def readNumber : List Char → Option (Document × List Char)
  | '0' :: 'x' :: rest => readBased 16 rest
  | '0' :: 'o' :: rest => readBased 8 rest
  | '0' :: 'b' :: rest => readBased 2 rest
  | cs => readDecimal cs

end DoubleDispatch.Toml
