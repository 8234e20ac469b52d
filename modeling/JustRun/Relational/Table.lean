import Mathlib.Tactic

/-!
# Tables with a primary key

A table is a list of rows without two rows of one key. The statements of a
relational store keep that by construction: an insertion is refused on a
conflict, an update may not touch the key, an upsert replaces the row.
-/
namespace JustRun.Relational

structure Table {ρ κ : Type} (key : ρ → κ) where
  rows : List ρ
  nodup : (rows.map key).Nodup

namespace Table
variable {ρ κ : Type} {key : ρ → κ}

instance : Membership ρ (Table key) := ⟨fun t r => r ∈ t.rows⟩

theorem mem_rows {t : Table key} {r : ρ} : r ∈ t.rows ↔ r ∈ t := Iff.rfl

def empty : Table key := ⟨[], by simp⟩

@[simp] theorem not_mem_empty (r : ρ) : ¬ r ∈ (empty : Table key) := List.not_mem_nil

/-- Two rows of one key are the same row. -/
theorem eq_of_key {t : Table key} {r r' : ρ} (h : r ∈ t) (h' : r' ∈ t) (hk : key r = key r') :
    r = r' := List.inj_on_of_nodup_map t.nodup h h' hk

/-- `UPDATE .. SET .. WHERE p`. -/
def updateWhere (t : Table key) (p : ρ → Bool) (f : ρ → ρ) (hf : ∀ r, key (f r) = key r) :
    Table key where
  rows := t.rows.map (fun r => if p r then f r else r)
  nodup := by
    have hk : (fun r => key (if p r then f r else r)) = key := by
      funext r
      split <;> simp [hf]
    simpa [Function.comp_def, hk] using t.nodup

/-- `DELETE .. WHERE p`. -/
def deleteWhere (t : Table key) (p : ρ → Bool) : Table key where
  rows := t.rows.filter (fun r => !p r)
  nodup := t.nodup.sublist ((List.filter_sublist).map key)

@[simp] theorem mem_updateWhere {t : Table key} {p : ρ → Bool} {f : ρ → ρ}
    {hf : ∀ r, key (f r) = key r} {r : ρ} :
    r ∈ t.updateWhere p f hf ↔ ∃ r' ∈ t, (if p r' then f r' else r') = r := List.mem_map

@[simp] theorem mem_deleteWhere {t : Table key} {p : ρ → Bool} {r : ρ} :
    r ∈ t.deleteWhere p ↔ r ∈ t ∧ p r = false := by
  rw [← mem_rows, deleteWhere, List.mem_filter, mem_rows]
  simp

/-- Some row satisfies `p`: the number of rows `p` selects is positive. -/
def anyRow (t : Table key) (p : ρ → Bool) : Bool := t.rows.any p

theorem anyRow_iff {t : Table key} {p : ρ → Bool} : t.anyRow p = true ↔ ∃ r ∈ t, p r = true :=
  List.any_eq_true

/-- A column that an update does not set stays as it is. -/
theorem map_update {β : Type} {t t' : Table key} {p : ρ → Bool} {f : ρ → ρ}
    (ht : t'.rows = t.rows.map (fun r => if p r then f r else r)) {g : ρ → β}
    (hg : ∀ r, g (f r) = g r) : t'.rows.map g = t.rows.map g := by
  rw [ht, List.map_map]
  refine List.map_congr_left fun r _ => ?_
  simp only [Function.comp_apply]
  split
  · exact hg r
  · rfl

variable [DecidableEq κ]

def find? (t : Table key) (k : κ) : Option ρ := t.rows.find? (fun r => key r = k)

theorem find?_eq_some {t : Table key} {k : κ} {r : ρ} : t.find? k = some r ↔ r ∈ t ∧ key r = k := by
  constructor
  · intro h
    exact ⟨List.mem_of_find?_eq_some h, by simpa using List.find?_some h⟩
  · rintro ⟨hr, rfl⟩
    have hs : (t.find? (key r)).isSome := by
      rw [find?, List.find?_isSome]
      exact ⟨r, hr, by simp⟩
    obtain ⟨r', h⟩ := Option.isSome_iff_exists.mp hs
    have hk : key r' = key r := by simpa using List.find?_some h
    rw [h, eq_of_key (List.mem_of_find?_eq_some h) hr hk]

theorem find?_eq_none {t : Table key} {k : κ} : t.find? k = none ↔ ∀ r ∈ t, key r ≠ k := by
  simp [find?, mem_rows]

@[simp] theorem find?_empty (k : κ) : (empty : Table key).find? k = none := rfl

theorem find?_key {t : Table key} {k : κ} {r : ρ} (h : t.find? k = some r) : key r = k :=
  (find?_eq_some.mp h).2

theorem find?_updateWhere (t : Table key) (p : ρ → Bool) (f : ρ → ρ)
    (hf : ∀ r, key (f r) = key r) (k : κ) :
    (t.updateWhere p f hf).find? k = (t.find? k).map (fun r => if p r then f r else r) := by
  have hk : (fun r => decide (key (if p r then f r else r) = k)) = fun r => decide (key r = k) := by
    funext r
    split <;> simp [hf]
  simp only [find?, updateWhere, List.find?_map, Function.comp_def, hk]

/-- An update keeps a row related to itself when it relates the rows it changes. -/
theorem find?_updateWhere_rel {R : ρ → ρ → Prop} {t t' : Table key} {k : κ} {row : ρ}
    (hrow : t.find? k = some row) (hrefl : R row row) {p : ρ → Bool} {f : ρ → ρ}
    (ht : t'.rows = t.rows.map (fun r => if p r then f r else r))
    (hf : ∀ r, key (f r) = key r) (hR : p row = true → R row (f row)) :
    ∃ row', t'.find? k = some row' ∧ R row row' := by
  obtain rfl : t' = t.updateWhere p f hf := by cases t'; cases ht; rfl
  refine ⟨if p row then f row else row, by rw [find?_updateWhere, hrow]; rfl, ?_⟩
  split
  · next hp => exact hR hp
  · exact hrefl

theorem find?_deleteWhere (t : Table key) (p : ρ → Bool) (k : κ) :
    (t.deleteWhere p).find? k = (t.find? k).filter (fun r => !p r) := by
  ext r
  simp only [Option.filter_eq_some_iff, find?_eq_some, mem_deleteWhere, Bool.not_eq_true']
  tauto

/-- Whether `UPDATE .. WHERE key = k AND q` changes a row is a matter of the row of `k`. -/
theorem anyRow_key (t : Table key) (k : κ) (q : ρ → Bool) :
    t.anyRow (fun r => key r = k && q r) = (t.find? k).any q := by
  rw [Bool.eq_iff_iff, anyRow_iff, Option.any_eq_true]
  simp only [Bool.and_eq_true, decide_eq_true_eq, find?_eq_some]
  constructor
  · rintro ⟨r, hr, hk, hq⟩
    exact ⟨r, ⟨hr, hk⟩, hq⟩
  · rintro ⟨r, ⟨hr, hk⟩, hq⟩
    exact ⟨r, hr, hk, hq⟩

/-- `INSERT`: refused when the key is taken or `conflict` selects a row. -/
def insert? (t : Table key) (conflict : ρ → Bool) (r : ρ) : Option (Table key) :=
  if h : t.find? (key r) = none then
    if t.anyRow conflict then none
    else some ⟨t.rows ++ [r], by
      have hn : ∀ x ∈ t.rows, key x ≠ key r := find?_eq_none.mp h
      simpa [List.nodup_append, t.nodup] using hn⟩
  else none

theorem insert?_eq_some {t t' : Table key} {conflict : ρ → Bool} {r : ρ}
    (h : t.insert? conflict r = some t') :
    t.find? (key r) = none ∧ t.anyRow conflict = false ∧ t'.rows = t.rows ++ [r] := by
  unfold insert? at h
  split at h
  · next hk =>
    split at h
    · cases h
    · next hc => cases h; exact ⟨hk, by simpa using hc, rfl⟩
  · cases h

theorem mem_insert {t t' : Table key} {conflict : ρ → Bool} {r x : ρ}
    (h : t.insert? conflict r = some t') : x ∈ t' ↔ x ∈ t ∨ x = r := by
  rw [← mem_rows, (insert?_eq_some h).2.2]
  simp [mem_rows]

theorem find?_insert {t t' : Table key} {conflict : ρ → Bool} {r : ρ}
    (h : t.insert? conflict r = some t') (k : κ) :
    t'.find? k = if key r = k then some r else t.find? k := by
  ext x
  have hnone := find?_eq_none.mp (insert?_eq_some h).1
  split
  · next hk =>
    subst hk
    simp only [find?_eq_some, mem_insert h, Option.some.injEq]
    constructor
    · rintro ⟨hx | rfl, hkx⟩
      · exact absurd hkx (hnone x hx)
      · rfl
    · rintro rfl; exact ⟨.inr rfl, rfl⟩
  · next hk =>
    simp only [find?_eq_some, mem_insert h]
    constructor
    · rintro ⟨hx | rfl, hkx⟩
      · exact ⟨hx, hkx⟩
      · exact absurd hkx hk
    · rintro ⟨hx, hkx⟩; exact ⟨.inl hx, hkx⟩

/-- `INSERT .. ON CONFLICT(key) DO UPDATE` of every other column. -/
def upsert (t : Table key) (r : ρ) : Table key where
  rows := (t.deleteWhere (fun x => key x = key r)).rows ++ [r]
  nodup := by
    have hn := (t.deleteWhere (fun x => key x = key r)).nodup
    have hk : ∀ x ∈ (t.deleteWhere (fun x => key x = key r)).rows, key x ≠ key r := by
      intro x hx
      simpa using (mem_deleteWhere.mp hx).2
    simpa [List.nodup_append, hn] using hk

theorem mem_upsert {t : Table key} {r x : ρ} :
    x ∈ t.upsert r ↔ (x ∈ t ∧ key x ≠ key r) ∨ x = r := by
  rw [← mem_rows, upsert, List.mem_append, mem_rows, mem_deleteWhere]
  simp

theorem length_upsert_le (t : Table key) (r : ρ) :
    (t.upsert r).rows.length ≤ t.rows.length + 1 := by
  rw [upsert, List.length_append, List.length_singleton]
  exact Nat.add_le_add_right (List.length_filter_le _ _) 1

theorem find?_upsert (t : Table key) (r : ρ) (k : κ) :
    (t.upsert r).find? k = if key r = k then some r else t.find? k := by
  ext x
  simp only [find?_eq_some, mem_upsert]
  split
  · next hk =>
    subst hk
    simp only [Option.some.injEq]
    constructor
    · rintro ⟨⟨-, hx⟩ | rfl, hkx⟩
      · exact absurd hkx hx
      · rfl
    · rintro rfl; exact ⟨.inr rfl, rfl⟩
  · next hk =>
    simp only [find?_eq_some]
    constructor
    · rintro ⟨⟨hx, -⟩ | rfl, hkx⟩
      · exact ⟨hx, hkx⟩
      · exact absurd hkx hk
    · rintro ⟨hx, rfl⟩; exact ⟨.inl ⟨hx, fun h => hk h.symm⟩, rfl⟩

end Table
end JustRun.Relational
