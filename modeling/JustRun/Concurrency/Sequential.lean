import JustRun.Concurrency.Interleaving

/-!
# A program that runs alone

One program over a state nobody else changes: the environment only chooses how
each call turns out. `Ensures` is what holds however it chooses, taken apart along
the program; `alone` is the execution for one list of choices.
-/
namespace JustRun.Concurrency.Prog
variable {Op : Type} {Res : Op → Type} {ε α β σ Choice : Type}

/-- The program with its failure as an answer. -/
def attempt : Prog Op Res ε α → Prog Op Res ε (Except ε α)
  | .ret a => .ret (.ok a)
  | .fail e => .ret (.error e)
  | .call op next => .call op fun r => (next r).attempt

variable (exec : Choice → σ → (op : Op) → Option (Res op × σ))

/-- The execution under these choices, with the calls made; `none` when they run out or one is
no possible outcome. -/
def alone : Prog Op Res ε α → List (Entry Op Res) → σ → List Choice →
    Option (List (Entry Op Res) × Except ε α × σ)
  | .ret a, h, s, _ => some (h, .ok a, s)
  | .fail e, h, s, _ => some (h, .error e, s)
  | .call _ _, _, _, [] => none
  | .call op next, h, s, c :: cs => match exec c s op with
    | some (r, s') => (next r).alone (h ++ [⟨op, r⟩]) s' cs
    | none => none

/-- A run alone has failed, with such a history and state. -/
def failedSo (good : List (Entry Op Res) → σ → Bool) :
    Option (List (Entry Op Res) × Except ε α × σ) → Bool
  | some (h, .error _, s) => good h s
  | _ => false

theorem failedSo_eq_true {good : List (Entry Op Res) → σ → Bool}
    {out : Option (List (Entry Op Res) × Except ε α × σ)} (hout : failedSo good out = true) :
    ∃ h e s, out = some (h, .error e, s) ∧ good h s = true := by
  cases out with
  | none => cases hout
  | some out =>
    obtain ⟨h, r, s⟩ := out
    cases r with
    | ok _ => cases hout
    | error e => exact ⟨h, e, s, rfl, hout⟩

/-- However its calls turn out, the program ends as `Q` says. -/
def Ensures (Q : List (Entry Op Res) → Except ε α → σ → Prop) :
    Prog Op Res ε α → List (Entry Op Res) → σ → Prop
  | .ret a, h, s => Q h (.ok a) s
  | .fail e, h, s => Q h (.error e) s
  | .call op next, h, s =>
    ∀ c r s', exec c s op = some (r, s') → (next r).Ensures Q (h ++ [⟨op, r⟩]) s'

variable {exec} {Q Q' : List (Entry Op Res) → Except ε α → σ → Prop} {h : List (Entry Op Res)} {s : σ}
  {R : List (Entry Op Res) → Except ε β → σ → Prop}

theorem Ensures.alone {p : Prog Op Res ε α} (hp : p.Ensures exec Q h s) {cs : List Choice}
    {h' : List (Entry Op Res)} {r : Except ε α} {s' : σ}
    (ha : p.alone exec h s cs = some (h', r, s')) : Q h' r s' := by
  induction p generalizing h s cs with
  | ret a =>
    cases ha
    exact hp
  | fail e =>
    cases ha
    exact hp
  | call op next ih =>
    cases cs with
    | nil => cases ha
    | cons c cs =>
      rw [Prog.alone] at ha
      split at ha
      · next r' s'' hx => exact ih r' (hp c r' s'' hx) ha
      · cases ha

/-- What every execution satisfies, the program ensures. -/
theorem ensures_of_alone {p : Prog Op Res ε α}
    (hp : ∀ cs h' r s', p.alone exec h s cs = some (h', r, s') → Q h' r s') :
    p.Ensures exec Q h s := by
  induction p generalizing h s with
  | ret a => exact hp [] h (.ok a) s rfl
  | fail e => exact hp [] h (.error e) s rfl
  | call op next ih =>
    intro c r s' hx
    refine ih r fun cs h' r' s'' ha => hp (c :: cs) h' r' s'' ?_
    rw [Prog.alone, hx]
    exact ha

@[simp] theorem ensures_ret (a : α) :
    (Prog.ret a : Prog Op Res ε α).Ensures exec Q h s ↔ Q h (.ok a) s := Iff.rfl

@[simp] theorem ensures_pure (a : α) :
    (pure a : Prog Op Res ε α).Ensures exec Q h s ↔ Q h (.ok a) s := Iff.rfl

@[simp] theorem ensures_fail (e : ε) :
    (Prog.fail e : Prog Op Res ε α).Ensures exec Q h s ↔ Q h (.error e) s := Iff.rfl

theorem ensures_bind (p : Prog Op Res ε α) (f : α → Prog Op Res ε β) :
    (p >>= f).Ensures exec R h s ↔ p.Ensures exec (fun h' r s' => match r with
      | .ok a => (f a).Ensures exec R h' s'
      | .error e => R h' (.error e) s') h s := by
  induction p generalizing h s with
  | ret a => rfl
  | fail e => rfl
  | call op next ih =>
    exact forall_congr' fun _ => forall_congr' fun r => forall_congr' fun _ =>
      imp_congr_right fun _ => ih r

theorem ensures_attempt (p : Prog Op Res ε α)
    {T : List (Entry Op Res) → Except ε (Except ε α) → σ → Prop} :
    p.attempt.Ensures exec T h s ↔ p.Ensures exec (fun h' r s' => T h' (.ok r) s') h s := by
  induction p generalizing h s with
  | ret a => rfl
  | fail e => rfl
  | call op next ih =>
    exact forall_congr' fun _ => forall_congr' fun r => forall_congr' fun _ =>
      imp_congr_right fun _ => ih r

@[simp] theorem ensures_rejectIf_bind (c : Bool) (e : ε) (f : Unit → Prog Op Res ε β) :
    (rejectIf c e >>= f).Ensures exec R h s ↔
      (c = true → R h (.error e) s) ∧ (c = false → (f ()).Ensures exec R h s) := by
  cases c <;> simp [ensures_bind, rejectIf]

@[simp] theorem ensures_orReject_bind (o : Option α) (e : ε) (f : α → Prog Op Res ε β) :
    (orReject o e >>= f).Ensures exec R h s ↔
      (o = none → R h (.error e) s) ∧ ∀ a, o = some a → (f a).Ensures exec R h s := by
  cases o <;> simp [ensures_bind, orReject]

@[simp] theorem ensures_ofExcept_bind (x : Except ε α) (f : α → Prog Op Res ε β) :
    (ofExcept x >>= f).Ensures exec R h s ↔
      (∀ e, x = .error e → R h (.error e) s) ∧ ∀ a, x = .ok a → (f a).Ensures exec R h s := by
  cases x <;> simp [ensures_bind, ofExcept]

theorem Ensures.mono {p : Prog Op Res ε α} (hp : p.Ensures exec Q h s)
    (hQ : ∀ h' r s', h <+: h' → Q h' r s' → Q' h' r s') : p.Ensures exec Q' h s := by
  induction p generalizing h s with
  | ret a => exact hQ h (.ok a) s (List.prefix_refl h) hp
  | fail e => exact hQ h (.error e) s (List.prefix_refl h) hp
  | call op next ih =>
    intro c r s' hx
    refine ih r (hp c r s' hx) fun h' r' s'' hh => hQ h' r' s'' ?_
    exact (List.prefix_append h _).trans hh

/-- The calls made before stay in the history. -/
theorem ensures_history (p : Prog Op Res ε α) : p.Ensures exec (fun h' _ _ => h <+: h') h s := by
  induction p generalizing h s with
  | ret a => exact List.prefix_refl h
  | fail e => exact List.prefix_refl h
  | call op next ih =>
    intro c r s' _
    exact (ih r).mono fun _ _ _ _ hh => (List.prefix_append h _).trans hh

/-- A part of a sequence is replaced by its own specification. -/
theorem Ensures.bind {p : Prog Op Res ε α} {f : α → Prog Op Res ε β} (hp : p.Ensures exec Q h s)
    (hf : ∀ h' a s', h <+: h' → Q h' (.ok a) s' → (f a).Ensures exec R h' s')
    (he : ∀ h' e s', h <+: h' → Q h' (.error e) s' → R h' (.error e) s') :
    (p >>= f).Ensures exec R h s := by
  rw [ensures_bind]
  refine hp.mono fun h' r s' hh hr => ?_
  cases r with
  | ok a => exact hf h' a s' hh hr
  | error e => exact he h' e s' hh hr

/-- A specification of the calls is one of the executions, with what the calls it allows keep. -/
theorem Meets.ensures {P : List (Entry Op Res) → Op → Prop}
    {T : List (Entry Op Res) → Except ε α → Prop} {p : Prog Op Res ε α} (hp : p.Meets P T h)
    (I : σ → Prop) (hI : ∀ h op c s r s', P h op → exec c s op = some (r, s') → I s → I s')
    (hs : I s) : p.Ensures exec (fun h' r s' => T h' r ∧ I s') h s := by
  induction p generalizing h s with
  | ret a => exact ⟨hp, hs⟩
  | fail e => exact ⟨hp, hs⟩
  | call op next ih =>
    intro c r s' hx
    exact ih r (hp.2 r) (hI h op c s r s' hp.1 hx hs)

/-- Some choices make the program return. -/
def MayReturn (exec : Choice → σ → (op : Op) → Option (Res op × σ)) : Prog Op Res ε α → σ → Prop
  | .ret _, _ => True
  | .fail _, _ => False
  | .call op next, s => ∃ c r s', exec c s op = some (r, s') ∧ (next r).MayReturn exec s'

theorem MayReturn.alone {p : Prog Op Res ε α} (hp : p.MayReturn exec s) :
    ∃ cs h' a s', p.alone exec h s cs = some (h', .ok a, s') := by
  induction p generalizing h s with
  | ret a => exact ⟨[], h, a, s, rfl⟩
  | fail e => exact hp.elim
  | call op next ih =>
    obtain ⟨c, r, s', hx, hnext⟩ := hp
    obtain ⟨cs, h', a, s'', ha⟩ := ih r (h := h ++ [⟨op, r⟩]) hnext
    refine ⟨c :: cs, h', a, s'', ?_⟩
    rw [Prog.alone, hx]
    exact ha

theorem mayReturn_ofExcept_bind {x : Except ε α} {f : α → Prog Op Res ε β} {a : α} (hx : x = .ok a)
    (hf : (f a).MayReturn exec s) : (ofExcept x >>= f).MayReturn exec s := by
  subst hx
  exact hf

theorem mayReturn_rejectIf_bind {b : Bool} {e : ε} {f : Unit → Prog Op Res ε β} (hb : b = false)
    (hf : (f ()).MayReturn exec s) : (rejectIf b e >>= f).MayReturn exec s := by
  subst hb
  exact hf

theorem mayReturn_orReject_bind {o : Option α} {e : ε} {f : α → Prog Op Res ε β} {a : α}
    (ho : o = some a) (hf : (f a).MayReturn exec s) : (orReject o e >>= f).MayReturn exec s := by
  subst ho
  exact hf

section Errors
variable {Val : Op → Type} {exec : Choice → σ → (op : Op) → Option (Except ε (Val op) × σ)}
  {h : List (Entry Op fun op => Except ε (Val op))}
  {R : List (Entry Op fun op => Except ε (Val op)) → Except ε β → σ → Prop}

theorem ensures_request_bind (op : Op) (f : Val op → Prog Op (fun op => Except ε (Val op)) ε β) :
    (request op >>= f).Ensures exec R h s ↔
      (∀ c e s', exec c s op = some (.error e, s') → R (h ++ [⟨op, .error e⟩]) (.error e) s') ∧
      ∀ c v s', exec c s op = some (.ok v, s') → (f v).Ensures exec R (h ++ [⟨op, .ok v⟩]) s' := by
  rw [ensures_bind]
  constructor
  · intro hp
    exact ⟨fun c e => hp c (.error e), fun c v => hp c (.ok v)⟩
  · rintro ⟨he, hv⟩ c r s' hx
    cases r with
    | error e => exact he c e s' hx
    | ok v => exact hv c v s' hx

theorem mayReturn_request_bind {op : Op} {c : Choice} {v : Val op} {s s' : σ}
    {f : Val op → Prog Op (fun op => Except ε (Val op)) ε β} (hx : exec c s op = some (.ok v, s'))
    (hf : (f v).MayReturn exec s') : (request op >>= f).MayReturn exec s :=
  ⟨c, .ok v, s', hx, hf⟩

end Errors
end JustRun.Concurrency.Prog

namespace JustRun.Concurrency.System
variable {σ Request Op : Type} {Res : Op → Type} {ε α Choice Env : Type}
  {S : System σ Request Op Res ε α Choice Env}

/-- A handler of a system that is left alone finishes as its program does. -/
theorem run_alone {w : World σ Request Op Res ε α} {pid : ℕ} {request : Request}
    {p : Prog Op Res ε α} (ht : w.threads pid = some ⟨request, p⟩) {cs : List Choice}
    {h h' : List (Entry Op Res)} {a : α} {s' : σ}
    (ha : p.alone S.exec h w.state cs = some (h', .ok a, s')) :
    (S.run w (cs.map (.exec pid))).Finished pid request a := by
  induction p generalizing w h cs with
  | ret b =>
    cases ha
    exact (Reaches.run S w _).finished ht
  | fail e => cases ha
  | call op next ih =>
    cases cs with
    | nil => cases ha
    | cons choice cs =>
      rw [Prog.alone] at ha
      split at ha
      · next r s'' hx =>
        rw [List.map_cons, run_cons, step_exec ht hx]
        exact ih r (World.afterCall_threads_self w pid request op next r s'') ha
      · cases ha

end JustRun.Concurrency.System
