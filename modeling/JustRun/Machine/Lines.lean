import JustRun.Machine.Text

/-!
# Tables of text

A table is one line for each row, the columns of which are separated by a character
that none of them contains. What is written so is read back.
-/
namespace JustRun.Machine

/-- `s.split(sep)`. -/
def splitOn (sep : Char) (s : String) : List String := (s.toList.splitOn sep).map String.ofList

/-- A line without the carriage return before its end. -/
def dropCarriageReturn (l : List Char) : List Char :=
  if l.getLast? = some '\r' then l.dropLast else l

/-- `str::lines`: an empty text after the last newline is no line. -/
def lines (s : String) : List String :=
  let parts := s.toList.splitOn '\n'
  (if parts.getLast? = some [] then parts.dropLast else parts).map
    fun l => String.ofList (dropCarriageReturn l)

/-- One row, with a separator between its columns. -/
def joinWith (sep : Char) (columns : List String) : String :=
  String.ofList (List.intercalate [sep] (columns.map String.toList))

/-- Every line with its newline. -/
def unlines (rows : List String) : String := String.ofList (rows.flatMap fun r => r.toList ++ ['\n'])

/-- No white space at either end. -/
def Trimmed (s : String) : Prop :=
  (∀ c ∈ s.toList.head?, isWhitespace c = false) ∧ ∀ c ∈ s.toList.getLast?, isWhitespace c = false

theorem trimmed_iff {s : String} : Trimmed s ↔ (s.toList.head?.all fun c => !isWhitespace c) = true ∧
    (s.toList.getLast?.all fun c => !isWhitespace c) = true := by
  simp [Trimmed, Option.all_eq_true]

instance (s : String) : Decidable (Trimmed s) := decidable_of_iff _ trimmed_iff.symm

theorem trim_of_trimmed {s : String} (h : Trimmed s) : trim s = s := by
  have hend : s.toList.rdropWhile isWhitespace = s.toList := by
    rw [List.rdropWhile_eq_self_iff]
    intro hne
    have hlast := h.2 _ (List.getLast?_eq_some_getLast hne)
    simpa using hlast
  rw [trim, hend]
  cases hl : s.toList with
  | nil => simp [← String.toList_inj, hl]
  | cons c l =>
    have hc := h.1 c (by simp [hl])
    rw [List.dropWhile_cons_of_neg (by simp [hc]), ← hl, String.ofList_toList]

theorem trimmed_append {s t : String} (hs : s ≠ "") (ht : t ≠ "")
    (hhead : ∀ c ∈ s.toList.head?, isWhitespace c = false)
    (hlast : ∀ c ∈ t.toList.getLast?, isWhitespace c = false) : Trimmed (s ++ t) := by
  have hs : s.toList ≠ [] := by simpa using hs
  have ht : t.toList ≠ [] := by simpa using ht
  rw [Trimmed, String.toList_append, List.head?_append_of_ne_nil _ hs, List.getLast?_append_of_ne_nil _ ht]
  exact ⟨hhead, hlast⟩

theorem splitOn_joinWith {sep : Char} {columns : List String} (hne : columns ≠ [])
    (h : ∀ c ∈ columns, sep ∉ c.toList) : splitOn sep (joinWith sep columns) = columns := by
  have hsplit : (List.intercalate [sep] (columns.map String.toList)).splitOn sep =
      columns.map String.toList :=
    List.splitOn_intercalate sep (by simpa using h) (by simpa using hne)
  rw [splitOn, joinWith, String.toList_ofList, hsplit, List.map_map]
  simp [Function.comp_def]

theorem splitOn_newlines (rows : List String) (h : ∀ r ∈ rows, '\n' ∉ r.toList) :
    (rows.flatMap fun r => r.toList ++ ['\n']).splitOn '\n' = rows.map String.toList ++ [[]] := by
  induction rows with
  | nil => rfl
  | cons r rows ih =>
    rw [List.forall_mem_cons] at h
    rw [List.flatMap_cons, List.append_assoc, List.singleton_append,
      List.splitOn_append_cons_self_of_not_mem h.1, ih h.2]
    rfl

theorem lines_unlines {rows : List String}
    (h : ∀ r ∈ rows, '\n' ∉ r.toList ∧ r.toList.getLast? ≠ some '\r') : lines (unlines rows) = rows := by
  have hsplit := splitOn_newlines rows fun r hr => (h r hr).1
  simp only [lines, unlines, String.toList_ofList, hsplit, List.getLast?_append, List.getLast?_singleton,
    Option.some_or, if_true, List.dropLast_concat, List.map_map]
  refine (List.map_congr_left fun r hr => ?_).trans (List.map_id rows)
  rw [Function.comp_apply, dropCarriageReturn, if_neg (h r hr).2, String.ofList_toList, id]

end JustRun.Machine
