import DoubleDispatch.Json.Reader
import DoubleDispatch.Json.Writer
import Mathlib.Data.List.Basic

/-! Scalars of JSON texts are read back as they were written: strings up to their closing quote,
whole numbers up to what cannot belong to a number. -/
namespace DoubleDispatch.Json
open Decimal (digits)

theorem hexQuadControl : ∀ n < 32,
    hexQuad? '0' '0' (hexDigit (n / 16)) (hexDigit (n % 16)) = some n := by
  decide

theorem readControl {n : Nat} (small : n < 32) (done tail : List Char) :
    readString done
        ('\\' :: 'u' :: '0' :: '0' :: hexDigit (n / 16) :: hexDigit (n % 16) :: tail) =
      readString (Char.ofNat n :: done) tail := by
  have quad := hexQuadControl n small
  have high : isHighHalf n = false := by
    simp only [isHighHalf, Bool.and_eq_false_iff, decide_eq_false_iff_not]
    omega
  have low : isLowHalf n = false := by
    simp only [isLowHalf, Bool.and_eq_false_iff, decide_eq_false_iff_not]
    omega
  rw [readString.eq_def]
  split
  · rename_i heq
    simp at heq
  · rename_i heq
    simp only [List.cons.injEq, true_and] at heq
    obtain ⟨rfl, rfl, rfl, rfl, rfl⟩ := heq
    simp [quad, high, low]
  · rename_i heq
    simp only [List.cons.injEq, true_and] at heq
    obtain ⟨rfl, rfl, rfl, rfl, rfl⟩ := heq
    simp [quad, high, low]
  · rename_i single heq
    simp only [List.cons.injEq] at heq
    obtain ⟨-, rfl, rfl⟩ := heq
    exact (single _ _ _ _ _ rfl rfl).elim
  · rename_i quote wide narrow short heq
    simp only [List.cons.injEq] at heq
    exact (short _ _ heq.1.symm heq.2.symm).elim
  · contradiction

theorem readShort {c plain : Char} (short : shortEscape? c = some plain) (notWide : c ≠ 'u')
    (done tail : List Char) :
    readString done ('\\' :: c :: tail) = readString (plain :: done) tail := by
  simp [readString, notWide, short]

theorem readPlain {c : Char} (noQuote : c ≠ '"') (noEscape : c ≠ '\\') (seen : ¬ c.toNat < 32)
    (done tail : List Char) : readString done (c :: tail) = readString (c :: done) tail := by
  simp [readString, noEscape, seen]

theorem readEscaped (c : Char) (done tail : List Char) :
    readString done (escapeChar c ++ tail) = readString (c :: done) tail := by
  unfold escapeChar
  split
  · subst c
    exact readShort rfl (by decide) done tail
  split
  · subst c
    exact readShort rfl (by decide) done tail
  split
  · subst c
    exact readShort rfl (by decide) done tail
  split
  · subst c
    exact readShort rfl (by decide) done tail
  split
  · subst c
    exact readShort rfl (by decide) done tail
  split
  · rename_i code
    have char : c = '\x08' := by rw [← c.ofNat_toNat, code]
    rw [char]
    exact readShort rfl (by decide) done tail
  split
  · rename_i code
    have char : c = '\x0c' := by rw [← c.ofNat_toNat, code]
    rw [char]
    exact readShort rfl (by decide) done tail
  split
  · rename_i small
    have read := readControl small done tail
    rwa [c.ofNat_toNat] at read
  · exact readPlain (by assumption) (by assumption) (by assumption) done tail

theorem readFlatMap (cs done rest : List Char) :
    readString done (cs.flatMap escapeChar ++ '"' :: rest) =
      some (String.ofList (done.reverse ++ cs), rest) := by
  induction cs generalizing done with
  | nil => simp [readString]
  | cons c cs ih => simp [List.flatMap_cons, List.append_assoc, readEscaped, ih]

theorem readQuoted (s : String) (rest : List Char) :
    ∃ cs, quoted s ++ rest = '"' :: cs ∧ readString [] cs = some (s, rest) := by
  refine ⟨s.toList.flatMap escapeChar ++ '"' :: rest, by simp [quoted], ?_⟩
  rw [readFlatMap, List.reverse_nil, List.nil_append, String.ofList_toList]

/- What follows is no part of a number. -/
def EndsNumber (rest : List Char) : Prop :=
  ∀ c, rest.head? = some c → c.isDigit = false ∧ c ≠ '.' ∧ c ≠ 'e' ∧ c ≠ 'E'

theorem endsNumberCons {c : Char} {rest : List Char}
    (other : c.isDigit = false ∧ c ≠ '.' ∧ c ≠ 'e' ∧ c ≠ 'E') : EndsNumber (c :: rest) := by
  intro d found
  simp only [List.head?_cons, Option.some.injEq] at found
  exact found ▸ other

theorem spanDigitsAppend {ds rest : List Char} (all : ∀ c ∈ ds, c.isDigit = true)
    (ends : EndsNumber rest) : spanDigits (ds ++ rest) = (ds, rest) := by
  have none : rest.takeWhile Char.isDigit = [] ∧ rest.dropWhile Char.isDigit = rest := by
    cases rest with
    | nil => exact ⟨rfl, rfl⟩
    | cons c cs =>
      have stop := (ends c rfl).1
      simp [stop]
  rw [spanDigits, List.takeWhile_append_of_pos all, List.dropWhile_append_of_pos all, none.1,
    none.2, List.append_nil]

/- No number is written with a zero in front. -/
theorem digitsLeading {n : Nat} (zero : (digits n).head? = some '0') : digits n = ['0'] := by
  induction n using DoubleDispatch.Decimal.digits.induct with
  | case1 n small =>
    rw [digits, if_pos small] at zero ⊢
    simpa using zero
  | case2 n large ih =>
    rw [digits, if_neg large, List.head?_append_of_ne_nil _ (Decimal.digitsNonempty _)] at zero
    have front : n / 10 = 0 := by rw [← Decimal.valueDigits (n / 10), ih zero]; rfl
    omega

theorem readMagnitudeDigits {meaning : Meaning} {negative : Bool} {n : Nat} {found : Document}
    (exact_ : meaning negative (digits n) [] none = some found) {rest : List Char}
    (ends : EndsNumber rest) :
    readMagnitude meaning negative (digits n ++ rest) = some (found, rest) := by
  have leading : ¬ (digits n = [] ∨ ((digits n).head? = some '0' ∧ digits n ≠ ['0'])) := by
    rintro (empty | ⟨zero, other⟩)
    · exact Decimal.digitsNonempty n empty
    · exact other (digitsLeading zero)
  have fraction : readFraction rest = some ([], rest) := by
    cases rest with
    | nil => rfl
    | cons c cs => simp [readFraction, (ends c rfl).2.1]
  have exponent : readExponent rest = some (none, rest) := by
    cases rest with
    | nil => rfl
    | cons c cs => simp [readExponent, (ends c rfl).2.2.1, (ends c rfl).2.2.2]
  simp [readMagnitude, spanDigitsAppend (Decimal.digitsAreDigits n) ends, leading, fraction,
    exponent, exact_]

end DoubleDispatch.Json
