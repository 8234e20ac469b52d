import JustRun.Concurrency.Sequential

/-!
# Programs that catch

A program runs a part to its end and continues with the outcome, value or error.
What it ensures is what the continuation ensures after the part.
-/
namespace JustRun.Concurrency.Prog
variable {Op : Type} {Res : Op → Type} {ε ε' α β σ Choice : Type}

/-- `try p`, then `f` with the outcome. -/
def tryThen : Prog Op Res ε' α → (Except ε' α → Prog Op Res ε β) → Prog Op Res ε β
  | .ret a, f => f (.ok a)
  | .fail e, f => f (.error e)
  | .call op next, f => .call op fun r => (next r).tryThen f

/-- The program with another error. -/
def mapFail (g : ε' → ε) (p : Prog Op Res ε' α) : Prog Op Res ε α :=
  p.tryThen fun
    | .ok a => .ret a
    | .error e => .fail (g e)

theorem meets_tryThen {P : List (Entry Op Res) → Op → Prop} {R : List (Entry Op Res) → Except ε β → Prop}
    {h : List (Entry Op Res)} (p : Prog Op Res ε' α) (f : Except ε' α → Prog Op Res ε β) :
    (p.tryThen f).Meets P R h ↔ p.Meets P (fun h' r => (f r).Meets P R h') h := by
  induction p generalizing h with
  | ret a => rfl
  | fail e => rfl
  | call op next ih => exact and_congr_right fun _ => forall_congr' fun r => ih r

variable {exec : Choice → σ → (op : Op) → Option (Res op × σ)} {h : List (Entry Op Res)} {s : σ}
  {R : List (Entry Op Res) → Except ε β → σ → Prop}

theorem ensures_tryThen (p : Prog Op Res ε' α) (f : Except ε' α → Prog Op Res ε β) :
    (p.tryThen f).Ensures exec R h s ↔
      p.Ensures exec (fun h' r s' => (f r).Ensures exec R h' s') h s := by
  induction p generalizing h s with
  | ret a => rfl
  | fail e => rfl
  | call op next ih =>
    exact forall_congr' fun _ => forall_congr' fun r => forall_congr' fun _ =>
      imp_congr_right fun _ => ih r

theorem ensures_mapFail {T : List (Entry Op Res) → Except ε α → σ → Prop} (g : ε' → ε)
    (p : Prog Op Res ε' α) : (p.mapFail g).Ensures exec T h s ↔
      p.Ensures exec (fun h' r s' => T h' (r.mapError g) s') h s := by
  rw [mapFail, ensures_tryThen]
  have hcases : (fun (h' : List (Entry Op Res)) (r : Except ε' α) (s' : σ) =>
      (match r with
        | .ok a => (.ret a : Prog Op Res ε α)
        | .error e => .fail (g e)).Ensures exec T h' s') =
      fun h' r s' => T h' (r.mapError g) s' := by
    funext h' r s'
    cases r <;> rfl
  rw [hcases]

theorem ensures_mapFail_bind (g : ε' → ε) {p : Prog Op Res ε' α} {f : α → Prog Op Res ε β}
    (hp : p.Ensures exec (fun h' r s' => match r with
      | .ok a => (f a).Ensures exec R h' s'
      | .error e => R h' (.error (g e)) s') h s) : (p.mapFail g >>= f).Ensures exec R h s := by
  rw [ensures_bind, ensures_mapFail]
  refine hp.mono fun h' r s' _ hr => ?_
  cases r with
  | ok a => exact hr
  | error e => exact hr

/-- What the calls of a part keep, the part keeps. -/
theorem Everywhere.ensures {P : Op → Prop} {p : Prog Op Res ε α}
    (hp : p.Everywhere fun op _ => P op) (I : σ → Prop)
    (hI : ∀ op c s r s', P op → exec c s op = some (r, s') → I s → I s') (hs : I s) :
    p.Ensures exec (fun _ _ s' => I s') h s := by
  induction p generalizing h s with
  | ret a => exact hs
  | fail e => exact hs
  | call op next ih =>
    intro c r s' hx
    exact ih r (hp.2 r) (hI op c s r s' hp.1 hx hs)

/-- Calls that a part does not make are not added to the history. -/
theorem Everywhere.ensures_filter {sel : Op → Bool} {p : Prog Op Res ε α}
    (hp : p.Everywhere fun op _ => sel op = false) :
    p.Ensures exec (fun h' _ _ => (h'.filter fun e => sel e.1) = h.filter fun e => sel e.1) h s := by
  induction p generalizing h s with
  | ret a => rfl
  | fail e => rfl
  | call op next ih =>
    intro c r s' _
    refine (ih r (hp.2 r)).mono fun h' _ _ _ hh => hh.trans ?_
    rw [List.filter_append, List.filter_cons_of_neg (by simp [hp.1]), List.filter_nil, List.append_nil]

theorem Ensures.and {Q Q' : List (Entry Op Res) → Except ε α → σ → Prop} {p : Prog Op Res ε α}
    (hp : p.Ensures exec Q h s) (hp' : p.Ensures exec Q' h s) :
    p.Ensures exec (fun h' r s' => Q h' r s' ∧ Q' h' r s') h s := by
  induction p generalizing h s with
  | ret a => exact ⟨hp, hp'⟩
  | fail e => exact ⟨hp, hp'⟩
  | call op next ih => exact fun c r s' hx => ih r (hp c r s' hx) (hp' c r s' hx)

section Parts
variable {φ : Op → Prop}

theorem everywhere_bind {p : Prog Op Res ε α} {f : α → Prog Op Res ε β}
    (hp : p.Everywhere fun op _ => φ op) (hf : ∀ a, (f a).Everywhere fun op _ => φ op) :
    (p >>= f).Everywhere fun op _ => φ op := by
  induction p with
  | ret a => exact hf a
  | fail e => trivial
  | call op next ih => exact ⟨hp.1, fun r => ih r (hp.2 r)⟩

theorem everywhere_tryThen {p : Prog Op Res ε' α} {f : Except ε' α → Prog Op Res ε β}
    (hp : p.Everywhere fun op _ => φ op) (hf : ∀ r, (f r).Everywhere fun op _ => φ op) :
    (p.tryThen f).Everywhere fun op _ => φ op := by
  induction p with
  | ret a => exact hf (.ok a)
  | fail e => exact hf (.error e)
  | call op next ih => exact ⟨hp.1, fun r => ih r (hp.2 r)⟩

theorem everywhere_ofExcept (x : Except ε α) :
    (ofExcept x : Prog Op Res ε α).Everywhere fun op _ => φ op := by
  cases x <;> trivial

end Parts
end JustRun.Concurrency.Prog
