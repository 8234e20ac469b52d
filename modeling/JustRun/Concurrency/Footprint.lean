import JustRun.Concurrency.Sequential

/-!
# The calls of a program

A program that makes only calls of one kind: the kind is closed under sequence, and what such
calls keep, the program keeps, however it ends.
-/
namespace JustRun.Concurrency.Prog
variable {Op : Type} {Res : Op → Type} {ε α β σ Choice : Type} {A : Op → Prop}

/-- Every call of the program is in `A`. -/
def Only (A : Op → Prop) (p : Prog Op Res ε α) : Prop := p.Everywhere fun op _ => A op

@[simp] theorem only_ret (a : α) : (Prog.ret a : Prog Op Res ε α).Only A := trivial

@[simp] theorem only_fail (e : ε) : (Prog.fail e : Prog Op Res ε α).Only A := trivial

@[simp] theorem only_call (op : Op) (next : Res op → Prog Op Res ε α) :
    (Prog.call op next).Only A ↔ A op ∧ ∀ r, (next r).Only A := Iff.rfl

@[simp] theorem only_ofExcept (x : Except ε α) : (ofExcept x : Prog Op Res ε α).Only A := by
  cases x <;> trivial

@[simp] theorem only_rejectIf (c : Bool) (e : ε) : (rejectIf c e : Prog Op Res ε Unit).Only A := by
  cases c <;> trivial

@[simp] theorem only_orReject (o : Option α) (e : ε) :
    (orReject o e : Prog Op Res ε α).Only A := by
  cases o <;> trivial

theorem Only.bind {p : Prog Op Res ε α} {f : α → Prog Op Res ε β} (hp : p.Only A)
    (hf : ∀ a, (f a).Only A) : (p >>= f).Only A := by
  induction p with
  | ret a => exact hf a
  | fail e => trivial
  | call op next ih => exact ⟨hp.1, fun r => ih r (hp.2 r)⟩

theorem Only.attempt {p : Prog Op Res ε α} (hp : p.Only A) : p.attempt.Only A := by
  induction p with
  | ret a => trivial
  | fail e => trivial
  | call op next ih => exact ⟨hp.1, fun r => ih r (hp.2 r)⟩

theorem Only.mono {A' : Op → Prop} {p : Prog Op Res ε α} (hp : p.Only A) (hA : ∀ op, A op → A' op) :
    p.Only A' := by
  induction p with
  | ret a => trivial
  | fail e => trivial
  | call op next ih => exact ⟨hA op hp.1, fun r => ih r (hp.2 r)⟩

/-- What the calls in `A` may do to a history, the program may. -/
theorem Only.meets {p : Prog Op Res ε α} (hp : p.Only A) {P : List (Entry Op Res) → Op → Prop}
    (I : List (Entry Op Res) → Prop) (hP : ∀ h op, I h → A op → P h op)
    (hI : ∀ h op r, I h → A op → I (h ++ [⟨op, r⟩])) {h : List (Entry Op Res)} (hh : I h) :
    p.Meets P (fun h' _ => I h') h := by
  induction p generalizing h with
  | ret a => exact hh
  | fail e => exact hh
  | call op next ih =>
    exact ⟨hP h op hh hp.1, fun r => ih r (hp.2 r) (hI h op r hh hp.1)⟩

/-- What the calls in `A` keep of the state, the program keeps. -/
theorem Only.ensures {p : Prog Op Res ε α} (hp : p.Only A)
    {exec : Choice → σ → (op : Op) → Option (Res op × σ)} (I : σ → Prop)
    (hI : ∀ op c s r s', A op → exec c s op = some (r, s') → I s → I s')
    {h : List (Entry Op Res)} {s : σ} (hs : I s) : p.Ensures exec (fun _ _ s' => I s') h s := by
  induction p generalizing h s with
  | ret a => exact hs
  | fail e => exact hs
  | call op next ih =>
    intro c r s' hx
    exact ih r (hp.2 r) (hI op c s r s' hp.1 hx hs)

end JustRun.Concurrency.Prog
