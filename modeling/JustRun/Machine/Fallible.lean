import Mathlib.Tactic

/-!
# Computations that fail

The early returns of a function that answers a value or an error, taken apart.
-/
namespace JustRun.Machine
variable {ε α β : Type}

/-- `if c { return Err(e) }`. -/
def failIf (c : Bool) (e : ε) : Except ε Unit := if c then .error e else .ok ()

/-- `let Some(a) = o else { return Err(e) }`. -/
def orFail (o : Option α) (e : ε) : Except ε α :=
  match o with
  | some a => .ok a
  | none => .error e

theorem bind_eq_ok {x : Except ε α} {f : α → Except ε β} {b : β} :
    (x >>= f) = .ok b ↔ ∃ a, x = .ok a ∧ f a = .ok b := by
  cases x with
  | error e => exact ⟨fun h => (nomatch h), fun ⟨_, h, _⟩ => nomatch h⟩
  | ok a => exact ⟨fun h => ⟨a, rfl, h⟩, fun ⟨_, h, hf⟩ => by cases h; exact hf⟩

theorem mapError_eq_ok {ε' : Type} {x : Except ε α} {f : ε → ε'} {a : α} :
    x.mapError f = .ok a ↔ x = .ok a := by
  cases x <;> simp [Except.mapError]

@[simp] theorem failIf_eq_ok {c : Bool} {e : ε} {u : Unit} : failIf c e = .ok u ↔ c = false := by
  cases c <;> simp [failIf]

@[simp] theorem orFail_eq_ok {o : Option α} {e : ε} {a : α} : orFail o e = .ok a ↔ o = some a := by
  cases o <;> simp [orFail]

end JustRun.Machine
