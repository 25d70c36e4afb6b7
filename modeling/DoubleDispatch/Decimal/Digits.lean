/-! Decimal digits of a natural number, written without leading zeros, and the number that digits
stand for. Reading gives back what was written. -/
namespace DoubleDispatch.Decimal

def digitChar (d : Nat) : Char := Char.ofNat (48 + d)

def digitValue (c : Char) : Nat := c.toNat - 48

def digits (n : Nat) : List Char :=
  if n < 10 then [digitChar n] else digits (n / 10) ++ [digitChar (n % 10)]

def text (n : Nat) : String := String.ofList (digits n)

def value (cs : List Char) : Nat := cs.foldl (fun n c => 10 * n + digitValue c) 0

def signedText (n : Int) : String :=
  if n < 0 then "-" ++ text n.natAbs else text n.natAbs

theorem digitCharAt {d : Nat} (small : d < 10) :
    digitValue (digitChar d) = d ∧ (digitChar d).isDigit = true := by
  have cases : d = 0 ∨ d = 1 ∨ d = 2 ∨ d = 3 ∨ d = 4 ∨ d = 5 ∨ d = 6 ∨ d = 7 ∨ d = 8 ∨ d = 9 := by
    omega
  rcases cases with rfl | rfl | rfl | rfl | rfl | rfl | rfl | rfl | rfl | rfl <;> decide

theorem valueAppend (front : List Char) (last : Char) :
    value (front ++ [last]) = 10 * value front + digitValue last := by
  simp [value, List.foldl_append]

theorem valueDigits (n : Nat) : value (digits n) = n := by
  induction n using digits.induct with
  | case1 n small =>
    rw [digits, if_pos small]
    simp [value, (digitCharAt small).1]
  | case2 n large ih =>
    have last : n % 10 < 10 := Nat.mod_lt _ (by omega)
    rw [digits, if_neg large, valueAppend, ih, (digitCharAt last).1]
    omega

theorem digitsAreDigits (n : Nat) : ∀ c ∈ digits n, c.isDigit = true := by
  induction n using digits.induct with
  | case1 n small =>
    rw [digits, if_pos small]
    intro c found
    rw [List.mem_singleton.mp found]
    exact (digitCharAt small).2
  | case2 n large ih =>
    rw [digits, if_neg large]
    intro c found
    rcases List.mem_append.mp found with front | last
    · exact ih c front
    · rw [List.mem_singleton.mp last]
      exact (digitCharAt (Nat.mod_lt _ (by omega))).2

theorem digitsNonempty (n : Nat) : digits n ≠ [] := by
  rw [digits]
  split <;> simp

end DoubleDispatch.Decimal
