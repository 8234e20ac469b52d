import Mathlib.Tactic

/-!
# Clock readings in saturating 64-bit seconds

A system clock counts its ticks in 63 bits, and no tick is longer than 100 ns:
readings stay far below the range of the `i64` seconds they are kept in, and
adding a small number of seconds to a reading never saturates.
-/
namespace JustRun.Machine

def i64Min : ℤ := -2 ^ 63

def i64Max : ℤ := 2 ^ 63 - 1

def saturate (n : ℤ) : ℤ := max i64Min (min i64Max n)

/-- `i64::saturating_add`. -/
def saturatingAdd (a b : ℤ) : ℤ := saturate (a + b)

/-- `i64::saturating_sub`. -/
def saturatingSub (a b : ℤ) : ℤ := saturate (a - b)

theorem saturate_of_mem {n : ℤ} (hlo : i64Min ≤ n) (hhi : n ≤ i64Max) : saturate n = n := by
  simp [saturate, hlo, hhi]

/-- The last second a clock of 2^63 ticks of 100 ns can show. -/
def maxReading : ℤ := 922337203685

/-- What `duration_since(UNIX_EPOCH)` can answer, in seconds. -/
abbrev Reading := {t : ℤ // 0 ≤ t ∧ t ≤ maxReading}

theorem Reading.nonneg (t : Reading) : 0 ≤ t.val := t.property.1

theorem Reading.saturatingAdd_eq (t : Reading) {k : ℤ} (h0 : 0 ≤ k) (hk : k ≤ maxReading) :
    saturatingAdd t k = t + k := by
  have ht := t.property
  simp only [maxReading] at hk ht
  exact saturate_of_mem (by simp only [i64Min]; omega) (by simp only [i64Max]; omega)

theorem Reading.saturatingSub_eq (t : Reading) {k : ℤ} (h0 : 0 ≤ k) (hk : k ≤ maxReading) :
    saturatingSub t k = t - k := by
  have ht := t.property
  simp only [maxReading] at hk ht
  exact saturate_of_mem (by simp only [i64Min]; omega) (by simp only [i64Max]; omega)

end JustRun.Machine
