import JustRun.Machine.Text

/-!
# Delimited texts

Fields joined by a separator can be read back from the left while they do not
contain it, and from the right likewise. A text is determined by its bytes.
-/
namespace JustRun.Machine

section Fields
variable {α : Type} {sep : α}

/-- A field without the separator ends at the first one. -/
theorem append_cons_inj_left {a a' b b' : List α} (ha : sep ∉ a) (ha' : sep ∉ a') :
    a ++ sep :: b = a' ++ sep :: b' ↔ a = a' ∧ b = b' := by
  refine ⟨fun h => ?_, fun ⟨ha, hb⟩ => ha ▸ hb ▸ rfl⟩
  induction a generalizing a' with
  | nil =>
    cases a' with
    | nil => exact ⟨rfl, List.tail_eq_of_cons_eq h⟩
    | cons x a' =>
      obtain rfl : sep = x := List.head_eq_of_cons_eq h
      exact absurd List.mem_cons_self ha'
  | cons x a ih =>
    cases a' with
    | nil =>
      obtain rfl : x = sep := List.head_eq_of_cons_eq h
      exact absurd List.mem_cons_self ha
    | cons y a' =>
      obtain rfl : x = y := List.head_eq_of_cons_eq h
      obtain ⟨rfl, rfl⟩ := ih (fun hm => ha (List.mem_cons_of_mem x hm))
        (fun hm => ha' (List.mem_cons_of_mem x hm)) (List.tail_eq_of_cons_eq h)
      exact ⟨rfl, rfl⟩

/-- A field without the separator starts after the last one. -/
theorem append_cons_inj_right {a a' b b' : List α} (hb : sep ∉ b) (hb' : sep ∉ b') :
    a ++ sep :: b = a' ++ sep :: b' ↔ a = a' ∧ b = b' := by
  have hrev : ∀ l r : List α, (l ++ sep :: r).reverse = r.reverse ++ sep :: l.reverse := by
    intro l r
    simp
  rw [← List.reverse_inj, hrev, hrev, append_cons_inj_left (by simpa using hb) (by simpa using hb'),
    List.reverse_inj, List.reverse_inj, and_comm]

end Fields

theorem bytes_inj {s t : String} : bytes s = bytes t ↔ s = t := by
  refine ⟨fun h => ?_, fun h => h ▸ rfl⟩
  rw [← String.toByteArray_inj]
  apply ByteArray.ext
  exact Array.toList_inj.mp h

theorem bytes_append (s t : String) : bytes (s ++ t) = bytes s ++ bytes t := by
  simp [bytes, String.toByteArray_append]

/-- A character that no decimal numeral contains. -/
theorem not_mem_repr {c : Char} (hc : c.isDigit = false) (n : ℕ) : c ∉ (toString n).toList := by
  intro h
  have hdigit : c.isDigit = true :=
    Nat.isDigit_of_mem_toDigits (b := 10) (n := n) (by decide) (by decide)
      (by simpa [Nat.toString_eq_repr, Nat.toList_repr] using h)
  exact Bool.noConfusion (hc.symm.trans hdigit)

theorem numeral_inj {m n : ℕ} (h : (toString m).toList = (toString n).toList) : m = n := by
  rw [Nat.toString_eq_repr, Nat.toString_eq_repr, Nat.toList_repr, Nat.toList_repr] at h
  rw [← Nat.ofDigitChars_toDigits (b := 10) (n := m) (by decide) (by decide), h,
    Nat.ofDigitChars_toDigits (by decide) (by decide)]

end JustRun.Machine
