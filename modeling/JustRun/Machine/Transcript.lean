import Mathlib.Tactic

/-!
# Machines that answer

Every command changes the state and gives an answer. The transcript of a run has its
commands in order, each with its answer.
-/
namespace JustRun.Machine
variable {σ α ρ β : Type} (step : σ → α → ρ × σ)

/-- The state after a run. -/
def final (s : σ) (as : List α) : σ := as.foldl (fun s a => (step s a).2) s

def transcript (s : σ) : List α → List (α × ρ)
  | [] => []
  | a :: as => (a, (step s a).1) :: transcript (step s a).2 as

@[simp] theorem final_snoc (s : σ) (as : List α) (a : α) :
    final step s (as ++ [a]) = (step (final step s as) a).2 := by
  simp [final]

@[simp] theorem transcript_snoc (s : σ) (as : List α) (a : α) :
    transcript step s (as ++ [a]) =
      transcript step s as ++ [(a, (step (final step s as) a).1)] := by
  induction as generalizing s with
  | nil => rfl
  | cons b as ih =>
    rw [List.cons_append, transcript, transcript, ih]
    rfl

variable {step}

/-- The run rule: the invariant may speak of the transcript so far. -/
theorem run_induct {I : List (α × ρ) → σ → Prop} {s : σ} (h0 : I [] s)
    (hstep : ∀ log s a, I log s → I (log ++ [(a, (step s a).1)]) (step s a).2) (as : List α) :
    I (transcript step s as) (final step s as) := by
  induction as using List.reverseRecOn with
  | nil => exact h0
  | append_singleton as a ih =>
    rw [transcript_snoc, final_snoc]
    exact hstep _ _ a ih

/-- `C` holds of every command, after the transcript and in the state that it finds. -/
def EachCall (step : σ → α → ρ × σ) (C : List (α × ρ) → σ → α → Prop) (s : σ) (as : List α) : Prop :=
  ∀ before a, before ++ [a] <+: as → C (transcript step s before) (final step s before) a

theorem eachCall_congr {I : List (α × ρ) → σ → Prop} {C D : List (α × ρ) → σ → α → Prop} {s : σ}
    {as : List α} (hI : ∀ before, I (transcript step s before) (final step s before))
    (h : ∀ log s a, I log s → (C log s a ↔ D log s a)) :
    EachCall step C s as ↔ EachCall step D s as := by
  unfold EachCall
  apply forall_congr'
  intro before
  apply forall_congr'
  intro a
  rw [h _ _ a (hI before)]

/-- `C` holds of every command in the state that it finds. -/
def Throughout (step : σ → α → ρ × σ) (C : σ → α → Prop) (s : σ) : List α → Prop
  | [] => True
  | a :: as => C s a ∧ Throughout step C (step s a).2 as

instance Throughout.decidable (step : σ → α → ρ × σ) (C : σ → α → Prop) [∀ s a, Decidable (C s a)]
    (s : σ) (as : List α) : Decidable (Throughout step C s as) :=
  match as with
  | [] => .isTrue trivial
  | a :: as => @instDecidableAnd _ _ _ (Throughout.decidable step C (step s a).2 as)

theorem Throughout.keeps {C : σ → α → Prop} {I : σ → Prop} {s : σ} {as : List α}
    (h : Throughout step C s as) (h0 : I s) (hs : ∀ s a, C s a → I s → I (step s a).2) :
    I (final step s as) := by
  induction as generalizing s with
  | nil => exact h0
  | cons a as ih => exact ih h.2 (hs s a h.1 h0)

/-! ### The last entry of a kind -/

def lastIndex (p : β → Bool) : List β → Option ℕ
  | [] => none
  | x :: l => match lastIndex p l with
    | some i => some (i + 1)
    | none => if p x then some 0 else none

@[simp] theorem lastIndex_snoc (p : β → Bool) (l : List β) (x : β) :
    lastIndex p (l ++ [x]) = if p x then some l.length else lastIndex p l := by
  induction l with
  | nil => simp [lastIndex]
  | cons y l ih =>
    rw [List.cons_append, lastIndex, ih]
    by_cases hx : p x = true
    · simp [hx]
    · simp [hx, lastIndex]

theorem lastIndex_lt {p : β → Bool} {l : List β} {i : ℕ} (h : lastIndex p l = some i) :
    i < l.length := by
  induction l using List.reverseRecOn with
  | nil => cases h
  | append_singleton l x ih =>
    rw [lastIndex_snoc] at h
    rw [List.length_append, List.length_singleton]
    by_cases hx : p x = true
    · rw [if_pos hx, Option.some.injEq] at h
      omega
    · rw [if_neg hx] at h
      exact Nat.lt_succ_of_lt (ih h)

end JustRun.Machine
