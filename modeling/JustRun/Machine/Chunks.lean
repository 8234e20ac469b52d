import Mathlib.Tactic

/-!
# Lists in chunks

A list of `size` elements is cut into chunks of `width`, the last of which may be
shorter. Chunk `i` starts at `i * width`; the number of chunks is rounded up.
-/
namespace JustRun.Machine

def chunkCount (size width : ℕ) : ℕ := (size + (width - 1)) / width

def chunkLength (size width i : ℕ) : ℕ := min (size - i * width) width

variable {size width i : ℕ}

/-- The chunks are those that start inside the list. -/
theorem lt_chunkCount_iff (hw : 0 < width) : i < chunkCount size width ↔ i * width < size := by
  rw [chunkCount, Nat.lt_iff_add_one_le, Nat.le_div_iff_mul_le hw, Nat.add_mul, Nat.one_mul]
  omega

theorem chunkLength_pos (hw : 0 < width) (hi : i < chunkCount size width) :
    0 < chunkLength size width i := by
  have hstart := (lt_chunkCount_iff hw).mp hi
  simp only [chunkLength]
  omega

theorem chunkLength_le : chunkLength size width i ≤ width := min_le_right _ _

/-- A chunk ends where the next one starts, and the last one at the end of the list. -/
theorem chunk_end (hw : 0 < width) (hi : i < chunkCount size width) :
    i * width + chunkLength size width i =
      if i + 1 < chunkCount size width then (i + 1) * width else size := by
  have hstart := (lt_chunkCount_iff hw).mp hi
  have hnext : (i + 1) * width = i * width + width := Nat.succ_mul i width
  split
  · next hlt =>
    have hend := (lt_chunkCount_iff hw).mp hlt
    simp only [chunkLength]
    omega
  · next hle =>
    have hend : ¬ (i + 1) * width < size := fun h => hle ((lt_chunkCount_iff hw).mpr h)
    simp only [chunkLength]
    omega

/-- Every position lies in exactly one chunk. -/
theorem chunk_of_position (hw : 0 < width) {b : ℕ} (hb : b < size) :
    ∃! i, i < chunkCount size width ∧ i * width ≤ b ∧ b < i * width + chunkLength size width i := by
  have hdiv : b / width * width ≤ b := Nat.div_mul_le_self b width
  have hlt : b < b / width * width + width := by
    have hmod := Nat.div_add_mod' b width
    have hm := Nat.mod_lt b hw
    omega
  refine ⟨b / width, ⟨(lt_chunkCount_iff hw).mpr (by omega), hdiv, ?_⟩, ?_⟩
  · simp only [chunkLength]
    omega
  · rintro j ⟨-, hle, hend⟩
    simp only [chunkLength] at hend
    have hj : b < (j + 1) * width := by
      rw [Nat.succ_mul]
      omega
    exact (Nat.div_eq_of_lt_le hle hj).symm

variable {α : Type}

def chunk (content : List α) (width i : ℕ) : List α :=
  (content.drop (i * width)).take (chunkLength content.length width i)

theorem length_chunk (content : List α) (width i : ℕ) :
    (chunk content width i).length = chunkLength content.length width i := by
  simp only [chunk, List.length_take, List.length_drop, chunkLength]
  omega

/-- The chunks before `i + 1` are those before `i` and chunk `i`. -/
theorem take_append_chunk (content : List α) (width i : ℕ) :
    content.take (i * width) ++ chunk content width i = content.take ((i + 1) * width) := by
  rw [chunk, ← List.take_add, Nat.succ_mul, chunkLength]
  by_cases hle : width ≤ content.length - i * width
  · rw [min_eq_right hle]
  · rw [min_eq_left (by omega), List.take_of_length_le (by omega), List.take_of_length_le (by omega)]

theorem take_chunkCount (hw : 0 < width) (content : List α) :
    content.take (chunkCount content.length width * width) = content := by
  have hnot : ¬ chunkCount content.length width < chunkCount content.length width := lt_irrefl _
  rw [lt_chunkCount_iff hw] at hnot
  exact List.take_of_length_le (by omega)

end JustRun.Machine
