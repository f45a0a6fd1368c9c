import Mathlib.Order.MinMax
import ProvisionWatch.Time.Instant

/-!
# The order of time

Instants are linearly ordered: the earlier second comes first, and in one second the
smaller fraction, so that a leap second comes after the second it follows and before
the next.  Spans are linearly ordered by their length, and a duration becomes the
shorter of its own length and the longest span.

Main results:

- The instances of `LinearOrder` for `Instant` and for `Span`.
- Theorem `Duration.toSpan_eq_min`: a duration is cut to the longest span.
- Theorem `Duration.toSpan_le_iff`: the cut is not seen by anything shorter.
-/

namespace ProvisionWatch

/-! ## Instants -/

namespace Instant

/-- An instant is told by its second and by the fraction of it. -/
theorem eq_of_parts {a b : Instant} (hs : a.second = b.second) (hn : a.nano = b.nano) :
    a = b := by
  obtain ⟨s, n, _, _, _⟩ := a
  obtain ⟨s', n', _, _, _⟩ := b
  simp only at hs hn
  subst hs hn
  rfl

/-- Seconds come before fractions. -/
instance : LinearOrder Instant where
  le_refl a := Or.inr ⟨rfl, Nat.le_refl _⟩
  le_trans a b c hab hbc := by grind
  lt_iff_le_not_ge a b := by grind
  le_antisymm a b hab hba := eq_of_parts (by grind) (by grind)
  le_total a b := by grind
  toDecidableLE := inferInstance

end Instant

/-! ## Spans -/

/-- The shorter span comes first. -/
instance : LinearOrder Span where
  le_refl a := Int.le_refl a.nanos
  le_trans _ _ _ := Int.le_trans
  le_antisymm _ _ hab hba := congrArg Span.mk (Int.le_antisymm hab hba)
  le_total a b := Int.le_total a.nanos b.nanos
  toDecidableLE := inferInstance

theorem Span.le_def (a b : Span) : a ≤ b ↔ a.nanos ≤ b.nanos :=
  Iff.rfl

theorem Span.lt_def (a b : Span) : a < b ↔ a.nanos < b.nanos := by
  rw [← not_le, le_def, Int.not_le]

namespace Duration

/-- A duration is cut to the longest span. -/
theorem toSpan_eq_min (d : Duration) : d.toSpan = min ⟨d.nanos⟩ Span.longest := by
  rw [min_def]
  rfl

/-- What is shorter than the longest span does not see that a duration was cut to it. -/
theorem toSpan_le_iff (d : Duration) {s : Span} (h : s < Span.longest) :
    d.toSpan ≤ s ↔ (d.nanos : Int) ≤ s.nanos := by
  rw [toSpan_eq_min, min_le_iff, or_iff_left (not_le.mpr h), Span.le_def]

end Duration
end ProvisionWatch
