/-!
# Digits

A natural number in a base, most significant digit first, and back. `toNat_ofNat` says that
nothing is lost on the way.
-/

namespace SpanExport.Digits

/-- The digits of `n` before those already known. -/
def ofNatOnto (base n : Nat) (known : List Nat) : List Nat :=
  if n < base ∨ base < 2 then n :: known else ofNatOnto base (n / base) (n % base :: known)
termination_by n
decreasing_by exact Nat.div_lt_self (by omega) (by omega)

/-- The digits of `n`. A number below the base is its own digit, so zero is `[0]`. -/
def ofNat (base n : Nat) : List Nat := ofNatOnto base n []

theorem ofNatOnto_append (base n : Nat) (xs ys : List Nat) :
    ofNatOnto base n (xs ++ ys) = ofNatOnto base n xs ++ ys := by
  fun_induction ofNatOnto base n xs with
  | case1 n xs h => rw [ofNatOnto, if_pos h]; rfl
  | case2 n xs h ih => rw [ofNatOnto, if_neg h]; exact ih

theorem ofNat_eq (base n : Nat) :
    ofNat base n = if n < base ∨ base < 2 then [n] else ofNat base (n / base) ++ [n % base] := by
  rw [ofNat, ofNatOnto]
  split
  · rfl
  · exact ofNatOnto_append base (n / base) [] [n % base]

def toNat (base : Nat) (digits : List Nat) : Nat :=
  digits.foldl (fun n d => base * n + d) 0

theorem toNat_append_one (base : Nat) (ds : List Nat) (d : Nat) :
    toNat base (ds ++ [d]) = base * toNat base ds + d := by
  simp [toNat, List.foldl_append]

theorem toNat_ofNat (base n : Nat) : toNat base (ofNat base n) = n := by
  induction n using Nat.strongRecOn with
  | ind n ih =>
    rw [ofNat_eq]
    split
    · simp [toNat]
    · rw [toNat_append_one, ih _ (Nat.div_lt_self (by omega) (by omega))]
      exact Nat.div_add_mod n base

theorem ofNat_ne_nil (base n : Nat) : ofNat base n ≠ [] := by
  rw [ofNat_eq]; split <;> simp

/-! ## Written digits -/

/-- The written digits, in lower case above nine. -/
def text (base n : Nat) : List Char := (ofNat base n).map Nat.digitChar

/-- The written digits with zeros in front, `width` of them at least. -/
def padded (width base n : Nat) : List Char :=
  List.replicate (width - (text base n).length) '0' ++ text base n

/-- An integer in base ten. -/
def decimal (n : Int) : List Char :=
  if n < 0 then '-' :: text 10 n.natAbs else text 10 n.natAbs

/-- A natural number in base ten with zeros in front. -/
def decimalPadded (width n : Nat) : String := String.ofList (padded width 10 n)

end SpanExport.Digits
