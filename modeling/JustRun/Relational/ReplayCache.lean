import JustRun.Relational.Table

/-!
# A replay cache with a retention horizon

A key is accepted once: accepting reserves it together with the time of use.
Every attempt first drops the reservations older than its own horizon, so a
key can be accepted again only after an attempt whose horizon had passed it.
-/
namespace JustRun.Relational

structure Reservation (κ : Type) where
  key : κ
  usedAt : ℤ
  deriving DecidableEq

abbrev ReplayCache (κ : Type) := Table (Reservation.key (κ := κ))

namespace ReplayCache
variable {κ : Type}

def prune (c : ReplayCache κ) (horizon : ℤ) : ReplayCache κ :=
  c.deleteWhere (fun r => r.usedAt < horizon)

theorem mem_prune {c : ReplayCache κ} {horizon : ℤ} {r : Reservation κ} :
    r ∈ c.prune horizon ↔ r ∈ c ∧ horizon ≤ r.usedAt := by
  simp [prune]

variable [DecidableEq κ]

/-- Prune, then reserve the key unless it is still taken. -/
def reserve (c : ReplayCache κ) (horizon : ℤ) (k : κ) (now : ℤ) : Bool × ReplayCache κ :=
  match (c.prune horizon).insert? (fun _ => false) ⟨k, now⟩ with
  | some c' => (true, c')
  | none => (false, c.prune horizon)

variable {c : ReplayCache κ} {horizon now : ℤ} {k : κ}

theorem reserve_mem {r : Reservation κ} (h : r ∈ (c.reserve horizon k now).2) :
    r ∈ c ∨ ((c.reserve horizon k now).1 = true ∧ r = ⟨k, now⟩) := by
  unfold reserve at h ⊢
  split at h
  · next c' hi =>
    rcases (Table.mem_insert hi).mp h with h | h
    · exact .inl (mem_prune.mp h).1
    · exact .inr ⟨by simp, h⟩
  · exact .inl (mem_prune.mp h).1

/-- Only the horizon removes a reservation. -/
theorem reserve_keeps {r : Reservation κ} (h : r ∈ c) (hr : horizon ≤ r.usedAt) :
    r ∈ (c.reserve horizon k now).2 := by
  have hp : r ∈ c.prune horizon := mem_prune.mpr ⟨h, hr⟩
  unfold reserve
  split
  · next c' hi => exact (Table.mem_insert hi).mpr (.inl hp)
  · exact hp

theorem reserve_adds (h : (c.reserve horizon k now).1 = true) :
    ⟨k, now⟩ ∈ (c.reserve horizon k now).2 := by
  unfold reserve at h ⊢
  split at h
  · next c' hi => simpa [hi] using (Table.mem_insert hi).mpr (.inr rfl)
  · cases h

/-- Acceptance is exactly the absence of a reservation that survives the horizon. -/
theorem reserve_accepts_iff :
    (c.reserve horizon k now).1 = true ↔ ∀ r ∈ c, r.key = k → r.usedAt < horizon := by
  have hfind : (c.prune horizon).find? k = none ↔ ∀ r ∈ c, r.key = k → r.usedAt < horizon := by
    simp only [Table.find?_eq_none, mem_prune]
    constructor
    · intro h r hr hk
      by_contra hlt
      exact h r ⟨hr, by omega⟩ hk
    · rintro h r ⟨hr, hle⟩ hk
      have := h r hr hk
      omega
  rw [← hfind]
  unfold reserve
  constructor
  · intro h
    split at h
    · next c' hi => exact (Table.insert?_eq_some hi).1
    · cases h
  · intro h
    simp [Table.insert?, Table.anyRow, h]

end ReplayCache
end JustRun.Relational
