import Mathlib.Tactic

/-!
# Sequential programs over atomic calls

A handler of a concurrent service is a tree: a node calls one atomic operation
of the shared state and continues with its answer, a leaf returns or fails.
What a program may call, and what it may answer, is stated against the history
of its own calls, so that the statement is stable under any interleaving.
-/
namespace JustRun.Concurrency

/-- A program in `Op`-calls that answers an `α` or fails with an `ε`. -/
inductive Prog (Op : Type) (Res : Op → Type) (ε α : Type) where
  | ret (value : α)
  | fail (error : ε)
  | call (op : Op) (next : Res op → Prog Op Res ε α)

/-- One call together with its answer. -/
abbrev Entry (Op : Type) (Res : Op → Type) := (op : Op) × Res op

namespace Prog
variable {Op : Type} {Res : Op → Type} {ε α β : Type}

def bind : Prog Op Res ε α → (α → Prog Op Res ε β) → Prog Op Res ε β
  | .ret a, f => f a
  | .fail e, _ => .fail e
  | .call op next, f => .call op (fun r => (next r).bind f)

instance : Monad (Prog Op Res ε) where
  pure := .ret
  bind := .bind

theorem bind_ret (p : Prog Op Res ε α) : p.bind .ret = p := by
  induction p with
  | ret a => rfl
  | fail e => rfl
  | call op next ih => exact congrArg (Prog.call op) (funext ih)

theorem bind_bind {γ : Type} (p : Prog Op Res ε α) (f : α → Prog Op Res ε β)
    (g : β → Prog Op Res ε γ) : (p.bind f).bind g = p.bind (fun a => (f a).bind g) := by
  induction p with
  | ret a => rfl
  | fail e => rfl
  | call op next ih => exact congrArg (Prog.call op) (funext ih)

instance : LawfulMonad (Prog Op Res ε) :=
  .mk' _ bind_ret (fun _ _ => rfl) bind_bind

/-- The early exit `if c { return Err(e) }`. -/
def rejectIf (c : Bool) (e : ε) : Prog Op Res ε Unit := if c then .fail e else .ret ()

/-- The early exit on a missing value. -/
def orReject (o : Option α) (e : ε) : Prog Op Res ε α :=
  match o with
  | some a => .ret a
  | none => .fail e

/-- A pure check inside a program. -/
def ofExcept : Except ε α → Prog Op Res ε α
  | .ok a => .ret a
  | .error e => .fail e

/-- Every call the program issues satisfies `P` of the calls before it, and
every answer satisfies `Q` of all its calls; the first history is `h`. -/
def Meets (P : List (Entry Op Res) → Op → Prop) (Q : List (Entry Op Res) → Except ε α → Prop) :
    Prog Op Res ε α → List (Entry Op Res) → Prop
  | .ret a, h => Q h (.ok a)
  | .fail e, h => Q h (.error e)
  | .call op next, h => P h op ∧ ∀ r, (next r).Meets P Q (h ++ [⟨op, r⟩])

variable {P P' : List (Entry Op Res) → Op → Prop} {h : List (Entry Op Res)}
  {Q Q' : List (Entry Op Res) → Except ε α → Prop}
  {R : List (Entry Op Res) → Except ε β → Prop}

@[simp] theorem meets_ret (a : α) : (Prog.ret a : Prog Op Res ε α).Meets P Q h ↔ Q h (.ok a) :=
  Iff.rfl

@[simp] theorem meets_pure (a : α) : (pure a : Prog Op Res ε α).Meets P Q h ↔ Q h (.ok a) :=
  Iff.rfl

@[simp] theorem meets_fail (e : ε) :
    (Prog.fail e : Prog Op Res ε α).Meets P Q h ↔ Q h (.error e) := Iff.rfl

@[simp] theorem meets_call (op : Op) (next : Res op → Prog Op Res ε α) :
    (Prog.call op next).Meets P Q h ↔ P h op ∧ ∀ r, (next r).Meets P Q (h ++ [⟨op, r⟩]) :=
  Iff.rfl

/-- The calls of a sequence are those of its parts, one history after the other. -/
theorem meets_bind (p : Prog Op Res ε α) (f : α → Prog Op Res ε β) :
    (p >>= f).Meets P R h ↔ p.Meets P (fun h' r => match r with
      | .ok a => (f a).Meets P R h'
      | .error e => R h' (.error e)) h := by
  induction p generalizing h with
  | ret a => rfl
  | fail e => rfl
  | call op next ih => exact and_congr_right fun _ => forall_congr' fun r => ih r

@[simp] theorem meets_rejectIf_bind (c : Bool) (e : ε) (f : Unit → Prog Op Res ε β) :
    (rejectIf c e >>= f).Meets P R h ↔
      (c = true → R h (.error e)) ∧ (c = false → (f ()).Meets P R h) := by
  cases c <;> simp [meets_bind, rejectIf]

@[simp] theorem meets_orReject_bind (o : Option α) (e : ε) (f : α → Prog Op Res ε β) :
    (orReject o e >>= f).Meets P R h ↔
      (o = none → R h (.error e)) ∧ ∀ a, o = some a → (f a).Meets P R h := by
  cases o <;> simp [meets_bind, orReject]

@[simp] theorem meets_ofExcept_bind (x : Except ε α) (f : α → Prog Op Res ε β) :
    (ofExcept x >>= f).Meets P R h ↔
      (∀ e, x = .error e → R h (.error e)) ∧ ∀ a, x = .ok a → (f a).Meets P R h := by
  cases x <;> simp [meets_bind, ofExcept]

section Unfailing

-- Where errors say nothing, every line may end the program.
variable (he : ∀ h e, R h (.error e))

include he

theorem meets_check {x : Except ε α} {f : α → Prog Op Res ε β}
    (hf : ∀ a, x = .ok a → (f a).Meets P R h) : (ofExcept x >>= f).Meets P R h :=
  (meets_ofExcept_bind _ _).mpr ⟨fun _ _ => he _ _, hf⟩

theorem meets_refuse {c : Bool} {e : ε} {f : Unit → Prog Op Res ε β}
    (hf : c = false → (f ()).Meets P R h) : (rejectIf c e >>= f).Meets P R h :=
  (meets_rejectIf_bind _ _ _).mpr ⟨fun _ => he _ _, hf⟩

theorem meets_present {o : Option α} {e : ε} {f : α → Prog Op Res ε β}
    (hf : ∀ a, o = some a → (f a).Meets P R h) : (orReject o e >>= f).Meets P R h :=
  (meets_orReject_bind _ _ _).mpr ⟨fun _ => he _ _, hf⟩

end Unfailing

theorem Meets.mono {p : Prog Op Res ε α} (hp : p.Meets P Q h)
    (hP : ∀ h' op, h <+: h' → P h' op → P' h' op)
    (hQ : ∀ h' r, h <+: h' → Q h' r → Q' h' r) : p.Meets P' Q' h := by
  induction p generalizing h with
  | ret a => exact hQ _ _ (List.prefix_refl h) hp
  | fail e => exact hQ _ _ (List.prefix_refl h) hp
  | call op next ih =>
    refine ⟨hP _ _ (List.prefix_refl h) hp.1, fun r => ih r (hp.2 r) ?_ ?_⟩
    · exact fun h' op' hh => hP h' op' ((List.prefix_append h _).trans hh)
    · exact fun h' a hh => hQ h' a ((List.prefix_append h _).trans hh)

/-- A part of a sequence is replaced by its own specification: what it answers
from the history `h` on is all that the rest needs. -/
theorem Meets.bind {p : Prog Op Res ε α} {f : α → Prog Op Res ε β} (hp : p.Meets P Q h)
    (hf : ∀ h' a, h <+: h' → Q h' (.ok a) → (f a).Meets P R h')
    (he : ∀ h' e, h <+: h' → Q h' (.error e) → R h' (.error e)) : (p >>= f).Meets P R h := by
  rw [meets_bind]
  refine hp.mono (fun _ _ _ => id) fun h' r hh hr => ?_
  cases r with
  | ok a => exact hf h' a hh hr
  | error e => exact he h' e hh hr

/-- Every call of the program is followed as `φ` says. -/
def Everywhere (φ : (op : Op) → (Res op → Prog Op Res ε α) → Prop) : Prog Op Res ε α → Prop
  | .ret _ | .fail _ => True
  | .call op next => φ op next ∧ ∀ r, (next r).Everywhere φ

variable {φ : (op : Op) → (Res op → Prog Op Res ε α) → Prop}

theorem Meets.everywhere {p : Prog Op Res ε α} (hp : p.Meets P Q h)
    (hφ : ∀ h op next, P h op → φ op next) : p.Everywhere φ := by
  induction p generalizing h with
  | ret a => trivial
  | fail e => trivial
  | call op next ih => exact ⟨hφ h op next hp.1, fun r => ih r (hp.2 r)⟩

@[simp] theorem everywhere_rejectIf_bind (c : Bool) (e : ε) (f : Unit → Prog Op Res ε α) :
    (rejectIf c e >>= f).Everywhere φ ↔ (c = false → (f ()).Everywhere φ) := by
  cases c
  · exact ⟨fun h _ => h, fun h => h rfl⟩
  · exact ⟨fun _ h => Bool.noConfusion h, fun _ => trivial⟩

@[simp] theorem everywhere_orReject_bind {β : Type} (o : Option β) (e : ε)
    (f : β → Prog Op Res ε α) :
    (orReject o e >>= f).Everywhere φ ↔ ∀ b, o = some b → (f b).Everywhere φ := by
  cases o with
  | none => exact ⟨fun _ b hb => absurd hb (by simp), fun _ => trivial⟩
  | some b => exact ⟨fun h b' hb => Option.some.inj hb ▸ h, fun h => h b rfl⟩

@[simp] theorem everywhere_ofExcept_bind {β : Type} (x : Except ε β) (f : β → Prog Op Res ε α) :
    (ofExcept x >>= f).Everywhere φ ↔ ∀ b, x = .ok b → (f b).Everywhere φ := by
  cases x with
  | error e => exact ⟨fun _ b hb => (nomatch hb), fun _ => trivial⟩
  | ok b => exact ⟨fun h b' hb => Except.ok.inj hb ▸ h, fun h => h b rfl⟩

end Prog

section Faults
variable {Op : Type} {Val : Op → Type} {ε α β : Type}

/-- Calls that may fail answer `none`; the program then fails with `fault`. -/
def perform (fault : ε) (op : Op) : Prog Op (fun op => Option (Val op)) ε (Val op) :=
  .call op fun
    | some v => .ret v
    | none => .fail fault

variable {P : List (Entry Op fun op => Option (Val op)) → Op → Prop}
  {h : List (Entry Op fun op => Option (Val op))}
  {R : List (Entry Op fun op => Option (Val op)) → Except ε β → Prop}

@[simp] theorem meets_perform_bind (fault : ε) (op : Op)
    (f : Val op → Prog Op (fun op => Option (Val op)) ε β) :
    (perform fault op >>= f).Meets P R h ↔
      P h op ∧ R (h ++ [⟨op, none⟩]) (.error fault) ∧
        ∀ v, (f v).Meets P R (h ++ [⟨op, some v⟩]) := by
  rw [Prog.meets_bind]
  constructor
  · rintro ⟨hP, hr⟩
    exact ⟨hP, hr none, fun v => hr (some v)⟩
  · rintro ⟨hP, he, hv⟩
    refine ⟨hP, fun r => ?_⟩
    cases r with
    | none => exact he
    | some v => exact hv v

@[simp] theorem everywhere_perform_bind
    {φ : (op : Op) → (Option (Val op) → Prog Op (fun op => Option (Val op)) ε α) → Prop}
    (fault : ε) (op : Op) (f : Val op → Prog Op (fun op => Option (Val op)) ε α) :
    (perform fault op >>= f).Everywhere φ ↔
      φ op (fun | some v => f v | none => .fail fault) ∧ ∀ v, (f v).Everywhere φ := by
  have hnext : (perform fault op >>= f) = .call op fun | some v => f v | none => .fail fault := by
    refine congrArg (Prog.call op) (funext fun r => ?_)
    cases r <;> rfl
  rw [hnext]
  constructor
  · rintro ⟨hφ, hr⟩
    exact ⟨hφ, fun v => hr (some v)⟩
  · rintro ⟨hφ, hv⟩
    refine ⟨hφ, fun r => ?_⟩
    cases r with
    | none => trivial
    | some v => exact hv v

end Faults

section Errors
variable {Op : Type} {Val : Op → Type} {ε α β : Type}

/-- A call whose error is the error of the program: `call(..)?`. -/
def request (op : Op) : Prog Op (fun op => Except ε (Val op)) ε (Val op) := .call op .ofExcept

variable {P : List (Entry Op fun op => Except ε (Val op)) → Op → Prop}
  {h : List (Entry Op fun op => Except ε (Val op))}
  {R : List (Entry Op fun op => Except ε (Val op)) → Except ε β → Prop}

@[simp] theorem meets_request_bind (op : Op)
    (f : Val op → Prog Op (fun op => Except ε (Val op)) ε β) :
    (request op >>= f).Meets P R h ↔
      P h op ∧ (∀ e, R (h ++ [⟨op, .error e⟩]) (.error e)) ∧
        ∀ v, (f v).Meets P R (h ++ [⟨op, .ok v⟩]) := by
  rw [Prog.meets_bind]
  constructor
  · rintro ⟨hP, hr⟩
    exact ⟨hP, fun e => hr (.error e), fun v => hr (.ok v)⟩
  · rintro ⟨hP, he, hv⟩
    refine ⟨hP, fun r => ?_⟩
    cases r with
    | error e => exact he e
    | ok v => exact hv v

theorem meets_request {op : Op} {f : Val op → Prog Op (fun op => Except ε (Val op)) ε β}
    (he : ∀ h e, R h (.error e)) (hP : P h op)
    (hf : ∀ v, (f v).Meets P R (h ++ [⟨op, .ok v⟩])) : (request op >>= f).Meets P R h :=
  (meets_request_bind _ _).mpr ⟨hP, fun _ => he _ _, hf⟩

@[simp] theorem everywhere_request_bind
    {φ : (op : Op) → (Except ε (Val op) → Prog Op (fun op => Except ε (Val op)) ε α) → Prop}
    (op : Op) (f : Val op → Prog Op (fun op => Except ε (Val op)) ε α) :
    (request op >>= f).Everywhere φ ↔
      φ op (fun | .ok v => f v | .error e => .fail e) ∧ ∀ v, (f v).Everywhere φ := by
  have hnext : (request op >>= f) = .call op fun | .ok v => f v | .error e => .fail e := by
    refine congrArg (Prog.call op) (funext fun r => ?_)
    cases r <;> rfl
  rw [hnext]
  constructor
  · rintro ⟨hφ, hr⟩
    exact ⟨hφ, fun v => hr (.ok v)⟩
  · rintro ⟨hφ, hv⟩
    refine ⟨hφ, fun r => ?_⟩
    cases r with
    | error e => trivial
    | ok v => exact hv v

end Errors

end JustRun.Concurrency
