import SpanExport.Proofs.Number.Overflow
import SpanExport.Proofs.Time.Conversion
import SpanExport.Time.Duration

/-!
# Times in range

Two times are too far apart for a number of milliseconds just when that would be rounded beyond the
largest number. No two times that have timestamps are.
-/

namespace SpanExport.Duration

/-- Both times are set, and the milliseconds between them are rounded beyond the largest number. -/
def IsTooLong (start finish : Option Int) : Prop :=
  ∃ s f : Int, start = some s ∧ finish = some f ∧ s ≠ 0 ∧ f ≠ 0 ∧
    Binary64.overflowBound * 10 ^ 6 ≤ (f - s).natAbs

theorem milliseconds_of_unset {start finish : Option Int}
    (h : start.getD 0 = 0 ∨ finish.getD 0 = 0) : milliseconds start finish = .ok .zero := by
  unfold milliseconds
  split
  · rfl
  · rfl
  · rename_i hs hf
    rcases h with h | h
    · exact absurd h hs
    · exact absurd h hf

theorem milliseconds_of_set {s f : Int} (hs : s ≠ 0) (hf : f ≠ 0) :
    milliseconds (some s) (some f) =
      match Binary64.ofIntRatio (f - s) 1000000 with
      | .infinite _ => .error .tooLarge
      | x => .ok x := by
  unfold milliseconds
  split
  · contradiction
  · contradiction
  · rewrite [Option.getD_some, Option.getD_some]
    cases Binary64.ofIntRatio (f - s) 1000000 <;> rfl

theorem milliseconds_eq_error_iff {start finish : Option Int} :
    milliseconds start finish = .error .tooLarge ↔ IsTooLong start finish := by
  by_cases hset : start.getD 0 = 0 ∨ finish.getD 0 = 0
  · rw [milliseconds_of_unset hset]
    refine iff_of_false (by simp) ?_
    rintro ⟨s, f, rfl, rfl, hs, hf, -⟩
    exact hset.elim hs hf
  · obtain ⟨s, rfl⟩ : ∃ s, start = some s := by
      cases start with
      | none => exact absurd (.inl rfl) hset
      | some s => exact ⟨s, rfl⟩
    obtain ⟨f, rfl⟩ : ∃ f, finish = some f := by
      cases finish with
      | none => exact absurd (.inr rfl) hset
      | some f => exact ⟨f, rfl⟩
    simp only [Option.getD_some, not_or] at hset
    have hlong : IsTooLong (some s) (some f) ↔
        ¬ (Binary64.ofIntRatio (f - s) 1000000).IsFinite := by
      rw [Binary64.ofIntRatio, Binary64.ofRatio_isFinite_iff _ (by decide), Nat.not_lt]
      simp [IsTooLong, hset]
    rw [milliseconds_of_set hset.1 hset.2, hlong]
    rcases Binary64.ofRatio_cases (decide (f - s < 0)) (f - s).natAbs 1000000 with
      ⟨mant, exp, canonical, hratio, -⟩ | ⟨hratio, -⟩
    · rw [Binary64.ofIntRatio, hratio]
      simp [Binary64.IsFinite]
    · rw [Binary64.ofIntRatio, hratio]
      simp [Binary64.IsFinite]

theorem exists_milliseconds {start finish : Option Int} (h : ¬ IsTooLong start finish) :
    ∃ duration, milliseconds start finish = .ok duration := by
  cases hduration : milliseconds start finish with
  | ok duration => exact ⟨duration, rfl⟩
  | error cause =>
    cases cause
    exact absurd (milliseconds_eq_error_iff.1 hduration) h

theorem milliseconds_isOk {start finish : Int} {before after : Option Timestamp}
    (hstart : Timestamp.ofNanoseconds (some start) = .ok before)
    (hfinish : Timestamp.ofNanoseconds (some finish) = .ok after) :
    ∃ duration, milliseconds (some start) (some finish) = .ok duration := by
  have hrange : ∀ {ns : Int} {t : Option Timestamp}, Timestamp.ofNanoseconds (some ns) = .ok t →
      ns.natAbs ≤ 253402300800 * 10 ^ 9 := by
    intro ns t h
    by_cases hzero : ns = 0
    · omega
    · rcases Timestamp.ofNanoseconds_cases hzero with ⟨-, -, hrange, -⟩ | ⟨cause, herror, -⟩
      · unfold Timestamp.InRange at hrange
        omega
      · cases herror.symm.trans h
  refine exists_milliseconds ?_
  rintro ⟨s, f, ⟨⟩, ⟨⟩, -, -, hlong⟩
  have hbound := Binary64.le_overflowBound 50 (by decide)
  have hs := hrange hstart
  have hf := hrange hfinish
  omega

end SpanExport.Duration
