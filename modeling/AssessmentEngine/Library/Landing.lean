import Mathlib.Algebra.Order.Floor.Ring
import Mathlib.Algebra.Order.Field.Basic

/-!
# Landing a load on a capacity

A load `w` that runs on a capacity of `n` units takes the share `w / n` of it.  The least
capacity on which the share does not exceed a line `t` is `⌈w / t⌉` (`landing_le_iff`).  The
load itself is conserved when the capacity changes, so landing a second time changes nothing
(`landing_share_mul`).
-/

namespace Landing

variable {K : Type*} [Field K] [LinearOrder K] [IsStrictOrderedRing K]

/-- The share of a capacity of `n` units that a load takes. -/
def share (load : K) (n : ℤ) : K := load / n

lemma line_le_share_iff {load line : K} {n : ℤ} (hn : 0 < n) :
    line ≤ share load n ↔ line * n ≤ load :=
  le_div_iff₀ (by exact_mod_cast hn)

variable [FloorRing K]

/-- The least capacity on which a load takes at most the share `line`. -/
def landing (load line : K) : ℤ := ⌈load / line⌉

lemma landing_le_iff {load line : K} {n : ℤ} (hline : 0 < line) :
    landing load line ≤ n ↔ load ≤ line * n := by
  rw [landing, Int.ceil_le, div_le_iff₀ hline, mul_comm]

lemma le_line_mul_landing {load line : K} (hline : 0 < line) : load ≤ line * landing load line :=
  (landing_le_iff hline).mp le_rfl

lemma landing_pos {load line : K} (hline : 0 < line) (hload : 0 < load) : 0 < landing load line :=
  Int.ceil_pos.mpr (div_pos hload hline)

/-- A larger load needs at least as large a capacity. -/
lemma landing_mono {load load' line : K} (hline : 0 < line) (h : load ≤ load') :
    landing load line ≤ landing load' line :=
  (landing_le_iff hline).mpr (h.trans (le_line_mul_landing hline))

omit [IsStrictOrderedRing K] in
/-- Landing a load that was already landed gives the same capacity. -/
lemma landing_share_mul {load line : K} {n : ℤ} (hn : n ≠ 0) :
    landing (n * share load n) line = landing load line := by
  have hne : (n : K) ≠ 0 := by exact_mod_cast hn
  rw [share, mul_div_cancel₀ load hne]

end Landing
