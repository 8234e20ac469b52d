import JustRun.Concurrency.Sequential

/-!
# A program that stops midway

The states between the calls of a program that runs alone, in which it may be stopped for good,
and the ways in which it may come to its end.
-/
namespace JustRun.Concurrency.Prog
variable {Op : Type} {Res : Op → Type} {ε α β σ Choice : Type}

section Definitions
variable (exec : Choice → σ → (op : Op) → Option (Res op × σ))

/-- The program may be stopped in this state. -/
def StopsIn : Prog Op Res ε α → σ → σ → Prop
  | .ret _, s, c => c = s
  | .fail _, s, c => c = s
  | .call op next, s, c =>
    c = s ∨ ∃ choice r s', exec choice s op = some (r, s') ∧ (next r).StopsIn s' c

/-- The program may end so, in this state. -/
def Ends : Prog Op Res ε α → σ → Except ε α → σ → Prop
  | .ret a, s, r, s' => r = .ok a ∧ s' = s
  | .fail e, s, r, s' => r = .error e ∧ s' = s
  | .call op next, s, r, s'' =>
    ∃ choice answer s', exec choice s op = some (answer, s') ∧ (next answer).Ends s' r s''

/-- However its calls turn out, the program changes nothing. -/
def Still (p : Prog Op Res ε α) (s : σ) : Prop := ∀ c, p.StopsIn exec s c → c = s

end Definitions

variable {exec : Choice → σ → (op : Op) → Option (Res op × σ)} {p : Prog Op Res ε α}
  {f : α → Prog Op Res ε β} {s s' s'' c : σ}

/-- The program may be stopped before its first call. -/
theorem stopsIn_start (p : Prog Op Res ε α) (s : σ) : p.StopsIn exec s s := by
  cases p with
  | ret a => rfl
  | fail e => rfl
  | call op next => exact .inl rfl

/-- The end of an execution is among its stops. -/
theorem stopsIn_of_alone {h h' : List (Entry Op Res)} {cs : List Choice} {r : Except ε α}
    (ha : p.alone exec h s cs = some (h', r, s')) : p.StopsIn exec s s' := by
  induction p generalizing h s cs with
  | ret a =>
    cases ha
    rfl
  | fail e =>
    cases ha
    rfl
  | call op next ih =>
    cases cs with
    | nil => cases ha
    | cons choice cs =>
      rw [Prog.alone] at ha
      split at ha
      · next r' s'' hx => exact .inr ⟨choice, r', s'', hx, ih r' ha⟩
      · cases ha

theorem Ends.alone {r : Except ε α} (hp : p.Ends exec s r s') :
    ∃ cs h, p.alone exec [] s cs = some (h, r, s') := by
  suffices hany : ∀ h₀, ∃ cs h, p.alone exec h₀ s cs = some (h, r, s') from hany []
  induction p generalizing s with
  | ret a =>
    obtain ⟨rfl, rfl⟩ := hp
    exact fun h₀ => ⟨[], h₀, rfl⟩
  | fail e =>
    obtain ⟨rfl, rfl⟩ := hp
    exact fun h₀ => ⟨[], h₀, rfl⟩
  | call op next ih =>
    obtain ⟨choice, answer, s₁, hx, hnext⟩ := hp
    intro h₀
    obtain ⟨cs, h, ha⟩ := ih answer hnext (h₀ ++ [⟨op, answer⟩])
    refine ⟨choice :: cs, h, ?_⟩
    rw [Prog.alone, hx]
    exact ha

theorem Ends.bind {a : α} {r : Except ε β} (hp : p.Ends exec s (.ok a) s')
    (hf : (f a).Ends exec s' r s'') : (p >>= f).Ends exec s r s'' := by
  induction p generalizing s with
  | ret b =>
    obtain ⟨hb, rfl⟩ := hp
    cases hb
    exact hf
  | fail e => cases hp.1
  | call op next ih =>
    obtain ⟨choice, answer, s₁, hx, hnext⟩ := hp
    exact ⟨choice, answer, s₁, hx, ih answer hnext⟩

theorem Ends.bind_error {e : ε} (hp : p.Ends exec s (.error e) s') :
    (p >>= f).Ends exec s (.error e) s' := by
  induction p generalizing s with
  | ret b => cases hp.1
  | fail e' =>
    obtain ⟨he, rfl⟩ := hp
    cases he
    exact ⟨rfl, rfl⟩
  | call op next ih =>
    obtain ⟨choice, answer, s₁, hx, hnext⟩ := hp
    exact ⟨choice, answer, s₁, hx, ih answer hnext⟩

/-- What comes after the first part may be stopped as well. -/
theorem Ends.stopsIn_bind {a : α} (hp : p.Ends exec s (.ok a) s')
    (hf : (f a).StopsIn exec s' c) : (p >>= f).StopsIn exec s c := by
  induction p generalizing s with
  | ret b =>
    obtain ⟨hb, rfl⟩ := hp
    cases hb
    exact hf
  | fail e => cases hp.1
  | call op next ih =>
    obtain ⟨choice, answer, s₁, hx, hnext⟩ := hp
    exact .inr ⟨choice, answer, s₁, hx, ih answer hnext⟩

theorem still_ret (a : α) : (Prog.ret a : Prog Op Res ε α).Still exec s := fun _ hc => hc

theorem still_fail (e : ε) : (Prog.fail e : Prog Op Res ε α).Still exec s := fun _ hc => hc

theorem still_call {op : Op} {next : Res op → Prog Op Res ε α}
    (h : ∀ choice r s', exec choice s op = some (r, s') → s' = s ∧ (next r).Still exec s) :
    (Prog.call op next).Still exec s := by
  rintro c (rfl | ⟨choice, r, s', hx, hc⟩)
  · rfl
  · obtain ⟨rfl, hnext⟩ := h choice r s' hx
    exact hnext c hc

theorem Still.bind (hp : p.Still exec s) (hf : ∀ a, (f a).Still exec s) :
    (p >>= f).Still exec s := by
  induction p generalizing s with
  | ret a => exact hf a
  | fail e => exact still_fail e
  | call op next ih =>
    apply still_call
    intro choice r s' hx
    obtain rfl : s' = s := hp s' (.inr ⟨choice, r, s', hx, stopsIn_start _ _⟩)
    exact ⟨rfl, ih r (fun c hc => hp c (.inr ⟨choice, r, s', hx, hc⟩)) hf⟩

end JustRun.Concurrency.Prog
