import SpanExport.Number.Decimal
import SpanExport.Proofs.Number.Accuracy
import SpanExport.Proofs.Time.Range

/-!
# Milliseconds

The milliseconds between two times are the number nearest to the exact quotient, however large the
times are. So they keep the order of the times and change sign with them, whole milliseconds are
exact, and up to `2 ^ 52` nanoseconds can be told from them again.
-/

namespace SpanExport.Duration

open Binary64

variable {s f s' f' : Int} {x x' : Binary64} {a a' : ℚ}

theorem isTooLong_swap (s f : Int) :
    IsTooLong (some f) (some s) ↔ IsTooLong (some s) (some f) := by
  have hmagnitude : (s - f).natAbs = (f - s).natAbs := by omega
  constructor <;> rintro ⟨_, _, ⟨⟩, ⟨⟩, hs, hf, hlong⟩
  · exact ⟨_, _, rfl, rfl, hf, hs, hmagnitude ▸ hlong⟩
  · exact ⟨_, _, rfl, rfl, hf, hs, hmagnitude ▸ hlong⟩

theorem isNearest_of_milliseconds (hs : s ≠ 0) (hf : f ≠ 0)
    (h : milliseconds (some s) (some f) = .ok x) : x.IsNearest ((f - s : Int) / 10 ^ 6) := by
  have hbound : (f - s).natAbs < overflowBound * 1000000 := by
    by_contra hlong
    have herror := milliseconds_eq_error_iff.2 ⟨s, f, rfl, rfl, hs, hf, by omega⟩
    cases herror.symm.trans h
  have hnearest := ofIntRatio_isNearest (by decide) hbound
  have hmilli : ((1000000 : Nat) : ℚ) = 10 ^ 6 := by norm_num
  have hratio : ofIntRatio (f - s) 1000000 = x := by
    rw [milliseconds_of_set hs hf] at h
    split at h
    · cases h
    · exact Except.ok.inj h
  rwa [hratio, hmilli] at hnearest

theorem toRat?_of_swap (hs : s ≠ 0) (hf : f ≠ 0) (h : milliseconds (some s) (some f) = .ok x)
    (h' : milliseconds (some f) (some s) = .ok x') (ha : x.toRat? = some a) :
    x'.toRat? = some (-a) := by
  have hopposite := (isNearest_of_milliseconds hs hf h).neg
  have hswapped := isNearest_of_milliseconds hf hs h'
  have hquotient : -(((f - s : Int) : ℚ) / 10 ^ 6) = ((s - f : Int) : ℚ) / 10 ^ 6 := by
    rw [← neg_div, ← Int.cast_neg, neg_sub]
  rw [hquotient] at hopposite
  obtain ⟨b, hb⟩ := hswapped.exists_toRat?
  rw [hb, hswapped.unique hopposite hb (toRat?_neg_of_some ha)]

theorem le_of_milliseconds (hs : s ≠ 0) (hf : f ≠ 0) (hs' : s' ≠ 0) (hf' : f' ≠ 0)
    (h : milliseconds (some s) (some f) = .ok x) (h' : milliseconds (some s') (some f') = .ok x')
    (ha : x.toRat? = some a) (ha' : x'.toRat? = some a') (hle : f - s ≤ f' - s') : a ≤ a' := by
  have hquotient : ((f - s : Int) : ℚ) / 10 ^ 6 ≤ (f' - s' : Int) / 10 ^ 6 :=
    div_le_div_of_nonneg_right (by exact_mod_cast hle) (by norm_num)
  have hnearest := isNearest_of_milliseconds hs hf h
  exact hnearest.le_of_le (isNearest_of_milliseconds hs' hf' h') ha ha' hquotient

theorem eq_of_whole {k : Int} (hx : x.IsNearest ((f - s : Int) / 10 ^ 6)) (ha : x.toRat? = some a)
    (hwhole : f - s = 10 ^ 6 * k) (hk : k.natAbs ≤ 2 ^ 53) : a = k := by
  obtain ⟨y, hy⟩ := exists_toRat?_intCast hk
  have hquotient : ((f - s : Int) : ℚ) / 10 ^ 6 = k := by
    rw [hwhole, Int.cast_mul, div_eq_iff (by norm_num), mul_comm]
    norm_num
  rw [hquotient] at hx
  exact Option.some.inj (ha.symm.trans (hx.toRat?_eq hy))

/-- Below `2 ^ 52` nanoseconds the error is less than half of one. -/
theorem nanoseconds_error (hx : x.IsNearest ((f - s : Int) / 10 ^ 6)) (ha : x.toRat? = some a)
    (hless : (f - s).natAbs < 2 ^ 52) : |10 ^ 6 * a - (f - s : Int)| < 1 / 2 := by
  by_cases hzero : f - s = 0
  · have hexact := eq_of_whole (k := 0) hx ha (by simpa using hzero) (by decide)
    rw [hzero, hexact]
    norm_num
  generalize f - s = d at *
  have hmilli : (0 : ℚ) < 10 ^ 6 := by norm_num
  have hquotient : |(d : ℚ) / 10 ^ 6| = |(d : ℚ)| / 10 ^ 6 := by rw [abs_div, abs_of_pos hmilli]
  have hlow : 1 ≤ |(d : ℚ)| := by
    rw [← Int.cast_abs]
    exact_mod_cast Int.one_le_abs hzero
  have hhigh : |(d : ℚ)| < 2 ^ 52 := by
    rw [← Int.cast_abs, Int.abs_eq_natAbs]
    exact_mod_cast hless
  have herror := hx.error_le ha (by rw [hquotient]; linarith) (by rw [hquotient]; linarith)
  rw [hquotient] at herror
  calc |10 ^ 6 * a - d| = 10 ^ 6 * |(d : ℚ) / 10 ^ 6 - a| := by
        rw [← congrArg (· * |(d : ℚ) / 10 ^ 6 - a|) (abs_of_pos hmilli), ← abs_mul, mul_sub,
          mul_div_cancel₀ _ hmilli.ne', abs_sub_comm]
    _ ≤ |(d : ℚ)| / 2 ^ 53 := by linarith
    _ < 1 / 2 := by linarith

/-- The failure of a duration is told by the times alone. Every other one between times that are set
is the number nearest to the exact quotient. So exchanged times have the opposite duration, whole
milliseconds are exact up to `2 ^ 53` of them, and up to `2 ^ 52` nanoseconds no other integer is as
near to the duration. A duration does not decrease when the start is earlier or the finish later,
and it is zero where a time is not set. -/
theorem milliseconds_isNearest :
    (∀ s f : Int, s ≠ 0 → f ≠ 0 →
      (milliseconds (some s) (some f) = .error .tooLarge ↔ IsTooLong (some s) (some f)) ∧
      (¬ IsTooLong (some s) (some f) →
        ∃ x y a, milliseconds (some s) (some f) = .ok x ∧ milliseconds (some f) (some s) = .ok y ∧
          x.toRat? = some a ∧ y.toRat? = some (-a) ∧ x.IsNearest ((f - s) / 10 ^ 6) ∧
          (∀ k : Int, f - s = 10 ^ 6 * k → k.natAbs ≤ 2 ^ 53 → a = k) ∧
          ((f - s).natAbs < 2 ^ 52 → ∀ k : Int, k ≠ f - s →
            |10 ^ 6 * a - (f - s)| < |10 ^ 6 * a - k|))) ∧
    (∀ s f s' f' : Int, s ≠ 0 → f ≠ 0 → s' ≠ 0 → f' ≠ 0 → s' ≤ s → f ≤ f' →
      ∀ x y a b, milliseconds (some s) (some f) = .ok x → milliseconds (some s') (some f') = .ok y →
        x.toRat? = some a → y.toRat? = some b → a ≤ b) ∧
    ∀ start finish : Option Int, start.getD 0 = 0 ∨ finish.getD 0 = 0 →
      milliseconds start finish = .ok .zero ∧ Binary64.zero.toRat? = some 0 := by
  refine ⟨fun s f hs hf => ⟨milliseconds_eq_error_iff, fun hshort => ?_⟩, ?_, ?_⟩
  · obtain ⟨x, hx⟩ := exists_milliseconds hshort
    obtain ⟨y, hy⟩ := exists_milliseconds (mt (isTooLong_swap s f).1 hshort)
    have hnearest := isNearest_of_milliseconds hs hf hx
    obtain ⟨a, ha⟩ := hnearest.exists_toRat?
    refine ⟨x, y, a, hx, hy, ha, toRat?_of_swap hs hf hx hy ha, by exact_mod_cast hnearest,
      fun k => eq_of_whole hnearest ha, fun hless k hk => ?_⟩
    exact_mod_cast abs_lt_of_lt_half (nanoseconds_error hnearest ha hless) hk
  · intro s f s' f' hs hf hs' hf' hstart hfinish x y a b hx hy ha hb
    exact le_of_milliseconds hs hf hs' hf' hx hy ha hb (by omega)
  · intro start finish hunset
    exact ⟨milliseconds_of_unset hunset, toRat?_zero⟩

/-- One nanosecond late in the year 2023 can be told from the milliseconds. After four and a
half thousand years a quotient half way between two numbers goes to the even one. -/
theorem milliseconds_afterEpoch :
    (1700000000123456789 : Int) ≠ 0 ∧
    ¬ IsTooLong (some 1700000000123456789) (some 1700000000123456790) ∧
    ¬ IsTooLong (some 1700000000123456789) (some 142437488355451472414) ∧
    (∃ x a, milliseconds (some 1700000000123456789) (some 1700000000123456790) = .ok x ∧
      x.text = "1e-06" ∧ x.toRat? = some a ∧ a ≤ 2 ^ 47 ∧
      ∀ k : Int, k ≠ 1 → |10 ^ 6 * a - 1| < |10 ^ 6 * a - k|) ∧
    ∃ z, milliseconds (some 1700000000123456789) (some 142437488355451472414) = .ok z ∧
      z.toRat? = some (2 ^ 47) ∧ z.IsNearest (2 ^ 47 + 1 / 2 ^ 6) ∧
      milliseconds (some 0) (some 1700000000123456789) = .ok .zero := by
  have hset : (1700000000123456789 : Int) ≠ 0 := by decide
  have hbound := le_overflowBound 50 (by decide)
  have hshort : ¬ IsTooLong (some 1700000000123456789) (some 1700000000123456790) := by
    rintro ⟨_, _, ⟨⟩, ⟨⟩, -, -, hlong⟩
    omega
  have hlater : ¬ IsTooLong (some 1700000000123456789) (some 142437488355451472414) := by
    rintro ⟨_, _, ⟨⟩, ⟨⟩, -, -, hlong⟩
    omega
  have hmicro : milliseconds (some 1700000000123456789) (some 1700000000123456790) =
      .ok (.finite false 4722366482869645 1002 (by decide)) := by decide +kernel
  have htie : milliseconds (some 1700000000123456789) (some 142437488355451472414) =
      .ok (.finite false (Nat.pow 2 52) 1069 (by decide)) := by decide +kernel
  obtain ⟨hnearest, hgrows, hunset⟩ := milliseconds_isNearest
  obtain ⟨x, -, a, hx, -, ha, -, -, -, hrecovered⟩ := (hnearest _ _ hset (by decide)).2 hshort
  obtain ⟨z, -, b, hz, -, hb, -, hmiddle, -, -⟩ := (hnearest _ _ hset (by decide)).2 hlater
  have hle := hgrows _ _ _ _ hset (by decide) hset (by decide) le_rfl (by decide) _ _ _ _ hx hz ha hb
  obtain rfl := Except.ok.inj (hx.symm.trans hmicro)
  obtain rfl := Except.ok.inj (hz.symm.trans htie)
  have hpower : toRat? (.finite false (Nat.pow 2 52) 1069 (by decide)) = some (2 ^ 47) := by
    rw [toRat?_finite (k := 5) (by decide) rfl]
    norm_num
  obtain rfl : b = 2 ^ 47 := Option.some.inj (hb.symm.trans hpower)
  refine ⟨hset, hshort, hlater, ⟨_, a, hx, by decide +kernel, ha, hle, fun k hk => ?_⟩,
    _, hz, hpower, ?_, (hunset _ _ (.inl rfl)).1⟩
  · have hless := hrecovered (by decide) k hk
    norm_num at hless
    exact hless
  · norm_num at hmiddle ⊢
    exact hmiddle

end SpanExport.Duration
