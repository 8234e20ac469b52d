import Mathlib.Tactic

/-!
# Machines that take commands

A command changes the state or fails and leaves it as it is. A property of the
states visited is carried along a run by what one successful command does.
-/
namespace JustRun.Machine
variable {σ α ε : Type} (step : σ → α → Except ε σ)

/-- The state after one command. -/
def after (s : σ) (a : α) : σ :=
  match step s a with
  | .ok s' => s'
  | .error _ => s

/-- The state after a run. -/
def afterAll (s : σ) (as : List α) : σ := as.foldl (after step) s

/-- `P` holds in every state the run visits. -/
def EachState (P : σ → Prop) (s : σ) (as : List α) : Prop :=
  ∀ as', as' <+: as → P (afterAll step s as')

/-- `C` holds of every successful command and the state it is given in. -/
def EachSuccess (C : σ → α → Prop) (s : σ) (as : List α) : Prop :=
  ∀ as' a s', as' ++ [a] <+: as → step (afterAll step s as') a = .ok s' → C (afterAll step s as') a

variable {step} {s : σ} {as : List α} {I P : σ → Prop} {C : σ → α → Prop}

theorem after_of_ok {s' : σ} {a : α} (h : step s a = .ok s') : after step s a = s' := by
  rw [after, h]

theorem after_of_error {e : ε} {a : α} (h : step s a = .error e) : after step s a = s := by
  rw [after, h]

@[simp] theorem afterAll_snoc (s : σ) (as : List α) (a : α) :
    afterAll step s (as ++ [a]) = after step (afterAll step s as) a := by
  simp [afterAll]

theorem exists_of_isOk {β : Type} {x : Except ε β} (h : x.isOk = true) : ∃ b, x = .ok b := by
  cases x with
  | error e => cases h
  | ok b => exact ⟨b, rfl⟩

/-- What successful commands preserve holds in every state. -/
theorem eachState_of_step (h0 : I s) (hstep : ∀ s a s', I s → step s a = .ok s' → I s') :
    EachState step I s as := by
  intro as' _
  clear * - h0 hstep
  induction as' using List.reverseRecOn with
  | nil => exact h0
  | append_singleton as' a ih =>
    rw [afterAll_snoc]
    cases h : step (afterAll step s as') a with
    | error e => rwa [after_of_error h]
    | ok s' =>
      rw [after_of_ok h]
      exact hstep _ a s' ih h

/-- A property that one successful command keeps exactly under `C` holds in every state exactly
when every successful command meets `C`. -/
theorem eachState_iff (hI : EachState step I s as) (h0 : P s)
    (hstep : ∀ s a s', I s → P s → step s a = .ok s' → (P s' ↔ C s a)) :
    EachState step P s as ↔ EachSuccess step C s as := by
  constructor
  · intro hP as' a s' hpre h
    have hpre' : as' <+: as := (List.prefix_append as' [a]).trans hpre
    refine (hstep _ a s' (hI as' hpre') (hP as' hpre') h).mp ?_
    have hnext := hP (as' ++ [a]) hpre
    rwa [afterAll_snoc, after_of_ok h] at hnext
  · intro hC as' hpre
    induction as' using List.reverseRecOn with
    | nil => exact h0
    | append_singleton as' a ih =>
      have hpre' : as' <+: as := (List.prefix_append as' [a]).trans hpre
      rw [afterAll_snoc]
      cases h : step (afterAll step s as') a with
      | error e =>
        rw [after_of_error h]
        exact ih hpre'
      | ok s' =>
        rw [after_of_ok h]
        exact (hstep _ a s' (hI as' hpre') (ih hpre') h).mpr (hC as' a s' hpre h)

/-- A property of one command that follows from another in the states of the run. -/
theorem EachSuccess.imp {D : σ → α → Prop} (hC : EachSuccess step C s as)
    (hI : EachState step I s as) (h : ∀ s a s', I s → step s a = .ok s' → C s a → D s a) :
    EachSuccess step D s as := by
  intro as' a s' hpre hok
  exact h _ a s' (hI as' ((List.prefix_append as' [a]).trans hpre)) hok (hC as' a s' hpre hok)

theorem eachSuccess_nil : EachSuccess step C s [] := by
  intro as' a s' hpre
  simp at hpre

/-- Condition and run can be looked at one command after the other. -/
theorem eachSuccess_cons {a : α} (hfirst : C s a) (hrest : EachSuccess step C (after step s a) as) :
    EachSuccess step C s (a :: as) := by
  intro as' b s' hpre hok
  cases as' with
  | nil =>
    obtain rfl : b = a := by simpa using hpre
    exact hfirst
  | cons a' as' =>
    rw [List.cons_append, List.cons_prefix_cons] at hpre
    obtain ⟨rfl, hpre⟩ := hpre
    exact hrest as' b s' hpre hok

end JustRun.Machine
