import JustRun.Concurrency.Program

/-!
# Interleaved runs

Handlers of any number of requests share one state. A run is a list of actions
chosen by the environment: a request arrives, one handler executes its next
call atomically, or the environment moves the shared state itself. Actions
that are not enabled leave the world as it is, so every list is a run.
-/
namespace JustRun.Concurrency

/-- A system: the program of each request, the atomic effect of a call under a
choice of the environment (`none` when the call cannot happen so), and the
moves of the environment. -/
structure System (σ Request Op : Type) (Res : Op → Type) (ε α Choice Env : Type) where
  handler : Request → Prog Op Res ε α
  exec : Choice → σ → (op : Op) → Option (Res op × σ)
  env : Env → σ → σ

structure Thread (Request Op : Type) (Res : Op → Type) (ε α : Type) where
  request : Request
  rest : Prog Op Res ε α

/-- A call as it happened: by which handler, in which state, with which answer. -/
structure LogEntry (σ Op : Type) (Res : Op → Type) where
  pid : ℕ
  before : σ
  op : Op
  res : Res op

/-- The log is a history variable: no handler reads it. -/
structure World (σ Request Op : Type) (Res : Op → Type) (ε α : Type) where
  state : σ
  threads : ℕ → Option (Thread Request Op Res ε α)
  log : List (LogEntry σ Op Res)

inductive Action (Request Choice Env : Type) where
  | spawn (pid : ℕ) (request : Request)
  | exec (pid : ℕ) (choice : Choice)
  | env (move : Env)

variable {σ Request Op : Type} {Res : Op → Type} {ε α Choice Env : Type}

/-- The handler an action is about. -/
def Action.pid? : Action Request Choice Env → Option ℕ
  | .spawn pid _ | .exec pid _ => some pid
  | .env _ => none

/-- The run without the handlers in `Q`. -/
def without (Q : ℕ → Bool) (acts : List (Action Request Choice Env)) :
    List (Action Request Choice Env) := acts.filter (fun a => !a.pid?.any Q)

/-- The request that `pid` starts with in these actions. -/
def spawned? (pid : ℕ) : List (Action Request Choice Env) → Option Request
  | [] => none
  | .spawn q request :: acts => if q = pid then some request else spawned? pid acts
  | _ :: acts => spawned? pid acts

theorem spawned?_without {Q : ℕ → Bool} {pid : ℕ} (acts : List (Action Request Choice Env)) :
    spawned? pid (without Q acts) = if Q pid then none else spawned? pid acts := by
  induction acts with
  | nil => simp [without, spawned?]
  | cons a acts ih =>
    cases a with
    | spawn q request =>
      by_cases hq : q = pid
      · subst hq
        cases hQ : Q q <;> simp_all [without, spawned?, Action.pid?]
      · cases hQ : Q q <;> simp_all [without, spawned?, Action.pid?]
    | exec q choice => cases hQ : Q q <;> simp_all [without, spawned?, Action.pid?]
    | env move => simp_all [without, spawned?, Action.pid?]

theorem spawned?_mem {pid : ℕ} {acts : List (Action Request Choice Env)} {request : Request}
    (h : spawned? pid acts = some request) : pid ∈ acts.filterMap Action.pid? := by
  rw [List.mem_filterMap]
  induction acts with
  | nil => cases h
  | cons a acts ih =>
    have htail : spawned? pid acts = some request → ∃ b ∈ a :: acts, b.pid? = some pid := by
      intro h
      obtain ⟨b, hb, hpid⟩ := ih h
      exact ⟨b, List.mem_cons_of_mem a hb, hpid⟩
    cases a with
    | spawn q r =>
      by_cases hq : q = pid
      · exact ⟨.spawn q r, List.mem_cons_self, congrArg some hq⟩
      · exact htail (by simpa [spawned?, hq] using h)
    | exec q choice => exact htail h
    | env move => exact htail h

def LogEntry.entry (e : LogEntry σ Op Res) : Entry Op Res := ⟨e.op, e.res⟩

/-- The calls of one handler, in order. -/
def historyOf (pid : ℕ) (log : List (LogEntry σ Op Res)) : List (Entry Op Res) :=
  (log.filter (·.pid = pid)).map LogEntry.entry

@[simp] theorem historyOf_nil (pid : ℕ) : historyOf pid ([] : List (LogEntry σ Op Res)) = [] := rfl

theorem historyOf_append (pid : ℕ) (l l' : List (LogEntry σ Op Res)) :
    historyOf pid (l ++ l') = historyOf pid l ++ historyOf pid l' := by
  simp [historyOf]

theorem historyOf_snoc_self (l : List (LogEntry σ Op Res)) (e : LogEntry σ Op Res) :
    historyOf e.pid (l ++ [e]) = historyOf e.pid l ++ [e.entry] := by
  simp [historyOf]

theorem historyOf_snoc_ne {pid : ℕ} (l : List (LogEntry σ Op Res)) {e : LogEntry σ Op Res}
    (h : e.pid ≠ pid) : historyOf pid (l ++ [e]) = historyOf pid l := by
  simp [historyOf, h]

theorem mem_historyOf {pid : ℕ} {l : List (LogEntry σ Op Res)} {x : Entry Op Res} :
    x ∈ historyOf pid l ↔ ∃ e ∈ l, e.pid = pid ∧ e.entry = x := by
  simp [historyOf, and_assoc]

/-- What happens at most once names the entry it happens in. -/
theorem eq_of_once {β : Type} {log : List (LogEntry σ Op Res)} (f : LogEntry σ Op Res → Option β)
    (once : ∀ l e l', log = l ++ e :: l' → ∀ e' ∈ l', ∀ b, f e = some b → f e' ≠ some b)
    {e e' : LogEntry σ Op Res} (he : e ∈ log) (he' : e' ∈ log) {b : β} (h : f e = some b)
    (h' : f e' = some b) : e = e' := by
  obtain ⟨l, l', hl⟩ := List.append_of_mem he
  rw [hl, List.mem_append, List.mem_cons] at he'
  rcases he' with he' | rfl | he'
  · obtain ⟨l₁, l₂, rfl⟩ := List.append_of_mem he'
    exact absurd h (once l₁ e' (l₂ ++ e :: l') (by simp [hl]) e (by simp) b h')
  · rfl
  · exact absurd h' (once l e l' hl e' he' b h)

namespace World

def init (s : σ) : World σ Request Op Res ε α := ⟨s, fun _ => none, []⟩

def history (w : World σ Request Op Res ε α) (pid : ℕ) : List (Entry Op Res) :=
  historyOf pid w.log

/-- The handler `pid` has called `op` and received `r`. -/
def afterCall (w : World σ Request Op Res ε α) (pid : ℕ) (request : Request) (op : Op)
    (next : Res op → Prog Op Res ε α) (r : Res op) (s : σ) : World σ Request Op Res ε α where
  state := s
  threads := Function.update w.threads pid (some ⟨request, next r⟩)
  log := w.log ++ [⟨pid, w.state, op, r⟩]

/-- The handler of `pid` has finished with this answer. -/
def Finished (w : World σ Request Op Res ε α) (pid : ℕ) (request : Request) (a : α) : Prop :=
  w.threads pid = some ⟨request, .ret a⟩

/-- The handler of `pid` has failed with this error. -/
def Failed (w : World σ Request Op Res ε α) (pid : ℕ) (request : Request) (e : ε) : Prop :=
  w.threads pid = some ⟨request, .fail e⟩

/-- The request that `pid` serves. -/
def request? (w : World σ Request Op Res ε α) (pid : ℕ) : Option Request :=
  (w.threads pid).map Thread.request

/-- The call that `pid` makes next. -/
def pending? (w : World σ Request Op Res ε α) (pid : ℕ) : Option Op :=
  match w.threads pid with
  | some ⟨_, .call op _⟩ => some op
  | _ => none

/-- The answer that `pid` has finished with. -/
def answer? (w : World σ Request Op Res ε α) (pid : ℕ) : Option α :=
  match w.threads pid with
  | some ⟨_, .ret a⟩ => some a
  | _ => none

theorem finished_iff {w : World σ Request Op Res ε α} {pid : ℕ} {request : Request} {a : α} :
    w.Finished pid request a ↔ w.request? pid = some request ∧ w.answer? pid = some a := by
  unfold Finished request? answer?
  match w.threads pid with
  | none => simp
  | some ⟨_, .ret _⟩ => simp
  | some ⟨_, .fail _⟩ => simp
  | some ⟨_, .call _ _⟩ => simp

/-- The error that `pid` has failed with. -/
def error? (w : World σ Request Op Res ε α) (pid : ℕ) : Option ε :=
  match w.threads pid with
  | some ⟨_, .fail e⟩ => some e
  | _ => none

theorem failed_iff {w : World σ Request Op Res ε α} {pid : ℕ} {request : Request} {e : ε} :
    w.Failed pid request e ↔ w.request? pid = some request ∧ w.error? pid = some e := by
  unfold Failed request? error?
  match w.threads pid with
  | none => simp
  | some ⟨_, .ret _⟩ => simp
  | some ⟨_, .fail _⟩ => simp
  | some ⟨_, .call _ _⟩ => simp

theorem finished_of_answer? {w : World σ Request Op Res ε α} {pid : ℕ} {a : α}
    (h : w.answer? pid = some a) : ∃ request, w.Finished pid request a := by
  unfold answer? at h
  split at h
  · next request a' ht =>
    cases h
    exact ⟨request, ht⟩
  · cases h

theorem pending?_eq_some {w : World σ Request Op Res ε α} {pid : ℕ} {op : Op}
    (h : w.pending? pid = some op) :
    ∃ request next, w.threads pid = some ⟨request, .call op next⟩ := by
  unfold pending? at h
  split at h
  · next request op' next ht =>
    cases h
    exact ⟨request, next, ht⟩
  · cases h

theorem request?_eq {w : World σ Request Op Res ε α} {pid : ℕ} {t : Thread Request Op Res ε α}
    (h : w.threads pid = some t) : w.request? pid = some t.request := by
  simp [request?, h]

theorem pending?_eq {w : World σ Request Op Res ε α} {pid : ℕ} {request : Request} {op : Op}
    {next : Res op → Prog Op Res ε α} (h : w.threads pid = some ⟨request, .call op next⟩) :
    w.pending? pid = some op := by
  simp [pending?, h]

variable (w : World σ Request Op Res ε α) (pid : ℕ) (request : Request) (op : Op)
  (next : Res op → Prog Op Res ε α) (r : Res op) (s : σ)

@[simp] theorem afterCall_state : (w.afterCall pid request op next r s).state = s := rfl

@[simp] theorem afterCall_log :
    (w.afterCall pid request op next r s).log = w.log ++ [⟨pid, w.state, op, r⟩] := rfl

@[simp] theorem afterCall_threads_self :
    (w.afterCall pid request op next r s).threads pid = some ⟨request, next r⟩ := by
  simp [afterCall]

variable {pid} in
theorem afterCall_threads_ne {q : ℕ} (hq : q ≠ pid) :
    (w.afterCall pid request op next r s).threads q = w.threads q := by
  simp [afterCall, hq]

theorem history_afterCall_self :
    (w.afterCall pid request op next r s).history pid = w.history pid ++ [⟨op, r⟩] :=
  historyOf_snoc_self w.log ⟨pid, w.state, op, r⟩

variable {pid} in
theorem history_afterCall_ne {q : ℕ} (hq : q ≠ pid) :
    (w.afterCall pid request op next r s).history q = w.history q :=
  historyOf_snoc_ne w.log (Ne.symm hq)

end World

namespace System
variable (S : System σ Request Op Res ε α Choice Env)

def step (w : World σ Request Op Res ε α) : Action Request Choice Env → World σ Request Op Res ε α
  | .spawn pid request => match w.threads pid with
    | some _ => w
    | none => { w with threads := Function.update w.threads pid (some ⟨request, S.handler request⟩) }
  | .exec pid choice => match w.threads pid with
    | some ⟨request, .call op next⟩ => match S.exec choice w.state op with
      | some (r, s) => w.afterCall pid request op next r s
      | none => w
    | _ => w
  | .env move => { w with state := S.env move w.state }

def run (w : World σ Request Op Res ε α) (acts : List (Action Request Choice Env)) :
    World σ Request Op Res ε α := acts.foldl S.step w

@[simp] theorem run_nil (w : World σ Request Op Res ε α) : S.run w [] = w := rfl

@[simp] theorem run_cons (w : World σ Request Op Res ε α) (a : Action Request Choice Env)
    (acts : List (Action Request Choice Env)) : S.run w (a :: acts) = S.run (S.step w a) acts := rfl

theorem run_append (w : World σ Request Op Res ε α) (l l' : List (Action Request Choice Env)) :
    S.run w (l ++ l') = S.run (S.run w l) l' := List.foldl_append

/-- What one action can do: nothing, start a handler, execute its next call, or
move the environment. -/
theorem step_cases (w : World σ Request Op Res ε α) (a : Action Request Choice Env) :
    S.step w a = w ∨
    (∃ pid request, a = .spawn pid request ∧ w.threads pid = none ∧ S.step w a =
      { w with threads := Function.update w.threads pid (some ⟨request, S.handler request⟩) }) ∨
    (∃ pid choice request op next r s, a = .exec pid choice ∧
      w.threads pid = some ⟨request, .call op next⟩ ∧ S.exec choice w.state op = some (r, s) ∧
      S.step w a = w.afterCall pid request op next r s) ∨
    ∃ move, a = .env move ∧ S.step w a = { w with state := S.env move w.state } := by
  cases a with
  | spawn pid request =>
    cases h : w.threads pid with
    | some t => exact .inl (by simp [step, h])
    | none => exact .inr (.inl ⟨pid, request, rfl, h, by simp [step, h]⟩)
  | exec pid choice =>
    match h : w.threads pid with
    | none => exact .inl (by simp [step, h])
    | some ⟨request, .ret a⟩ => exact .inl (by simp [step, h])
    | some ⟨request, .fail e⟩ => exact .inl (by simp [step, h])
    | some ⟨request, .call op next⟩ =>
      match he : S.exec choice w.state op with
      | none => exact .inl (by simp [step, h, he])
      | some (r, s) =>
        exact .inr (.inr (.inl ⟨pid, choice, request, op, next, r, s, rfl, h, he, by
          simp [step, h, he]⟩))
  | env move => exact .inr (.inr (.inr ⟨move, rfl, rfl⟩))

/-- `w'` is reached from `w` by some run. -/
def Reaches (w w' : World σ Request Op Res ε α) : Prop := ∃ acts, S.run w acts = w'

theorem Reaches.refl (w : World σ Request Op Res ε α) : S.Reaches w w := ⟨[], rfl⟩

theorem Reaches.trans {w w' w'' : World σ Request Op Res ε α} (h : S.Reaches w w')
    (h' : S.Reaches w' w'') : S.Reaches w w'' := by
  obtain ⟨l, rfl⟩ := h
  obtain ⟨l', rfl⟩ := h'
  exact ⟨l ++ l', S.run_append w l l'⟩

theorem Reaches.step (w : World σ Request Op Res ε α) (a : Action Request Choice Env) :
    S.Reaches w (S.step w a) := ⟨[a], rfl⟩

theorem Reaches.run (w : World σ Request Op Res ε α) (acts : List (Action Request Choice Env)) :
    S.Reaches w (S.run w acts) := ⟨acts, rfl⟩

/-- Each step of the run meets `C` in the world before it. -/
def Along (C : World σ Request Op Res ε α → Action Request Choice Env → Prop) :
    World σ Request Op Res ε α → List (Action Request Choice Env) → Prop
  | _, [] => True
  | w, a :: acts => C w a ∧ Along C (S.step w a) acts

instance Along.decidable (C : World σ Request Op Res ε α → Action Request Choice Env → Prop)
    [∀ w a, Decidable (C w a)] (w : World σ Request Op Res ε α)
    (acts : List (Action Request Choice Env)) : Decidable (Along S C w acts) :=
  match acts with
  | [] => .isTrue trivial
  | a :: acts => @instDecidableAnd _ _ _ (Along.decidable C (S.step w a) acts)

variable {S}

/-- The run rule: what holds at the start and survives each step holds after the run.
The step may use that its world was itself reached, and the condition of the run. -/
theorem Along.keeps {C : World σ Request Op Res ε α → Action Request Choice Env → Prop}
    (I : World σ Request Op Res ε α → Prop) {w : World σ Request Op Res ε α}
    {acts : List (Action Request Choice Env)} (h : S.Along C w acts) (h0 : I w)
    (hs : ∀ v a, S.Reaches w v → C v a → I v → I (S.step v a)) : I (S.run w acts) := by
  suffices hI : ∀ v acts, S.Reaches w v → S.Along C v acts → I v → I (S.run v acts) from
    hI w acts (.refl S w) h h0
  intro v acts
  induction acts generalizing v with
  | nil => exact fun _ _ hv => hv
  | cons a acts ih =>
    rintro hr ⟨hc, ha⟩ hv
    exact ih _ (hr.trans S (.step S v a)) ha (hs v a hr hc hv)

theorem Along.mono {C C' : World σ Request Op Res ε α → Action Request Choice Env → Prop}
    {w : World σ Request Op Res ε α} {acts : List (Action Request Choice Env)}
    (h : S.Along C w acts) (hC : ∀ w a, C w a → C' w a) : S.Along C' w acts := by
  induction acts generalizing w with
  | nil => trivial
  | cons a acts ih => exact ⟨hC w a h.1, ih h.2⟩

theorem along_append {C : World σ Request Op Res ε α → Action Request Choice Env → Prop}
    {w : World σ Request Op Res ε α} {l l' : List (Action Request Choice Env)} :
    S.Along C w (l ++ l') ↔ S.Along C w l ∧ S.Along C (S.run w l) l' := by
  induction l generalizing w with
  | nil => exact ⟨fun h => ⟨trivial, h⟩, fun h => h.2⟩
  | cons a l ih => exact (and_congr_right fun _ => ih).trans and_assoc.symm

/-- A property that one step keeps exactly under `C` holds in every world that the run visits
exactly when every step meets `C`. -/
theorem visited_iff_along {P : World σ Request Op Res ε α → Prop}
    {C : World σ Request Op Res ε α → Action Request Choice Env → Prop}
    {w : World σ Request Op Res ε α} {acts : List (Action Request Choice Env)} (h0 : P w)
    (hs : ∀ v a, S.Reaches w v → P v → (P (S.step v a) ↔ C v a)) :
    (∀ acts', acts' <+: acts → P (S.run w acts')) ↔ S.Along C w acts := by
  induction acts generalizing w with
  | nil =>
    refine ⟨fun _ => trivial, fun _ acts' hpre => ?_⟩
    rw [List.prefix_nil.mp hpre]
    exact h0
  | cons a acts ih =>
    have hstep := hs w a (.refl S w) h0
    have hlater : P (S.step w a) → ((∀ acts', acts' <+: acts → P (S.run (S.step w a) acts')) ↔
        S.Along C (S.step w a) acts) :=
      fun h => ih h fun v b hv => hs v b ((Reaches.step S w a).trans S hv)
    constructor
    · intro h
      have hnext : P (S.step w a) := h [a] (by simp)
      exact ⟨hstep.mp hnext, (hlater hnext).mp fun acts' hpre =>
        h (a :: acts') (List.cons_prefix_cons.mpr ⟨rfl, hpre⟩)⟩
    · rintro ⟨hc, hrest⟩ acts' hpre
      cases acts' with
      | nil => exact h0
      | cons b acts' =>
        obtain ⟨rfl, htail⟩ := List.cons_prefix_cons.mp hpre
        exact (hlater (hstep.mpr hc)).mpr hrest acts' htail

/-- A condition on the actions alone. -/
theorem along_of_forall {C : Action Request Choice Env → Prop} {w : World σ Request Op Res ε α}
    {acts : List (Action Request Choice Env)} (h : ∀ a ∈ acts, C a) :
    S.Along (fun _ a => C a) w acts := by
  induction acts generalizing w with
  | nil => trivial
  | cons a acts ih => exact ⟨h a List.mem_cons_self, ih fun b hb => h b (List.mem_cons_of_mem a hb)⟩

theorem along_true (w : World σ Request Op Res ε α) (acts : List (Action Request Choice Env)) :
    S.Along (fun _ _ => True) w acts :=
  along_of_forall fun _ _ => trivial

/-- The run rule for unconditional runs. -/
theorem Reaches.induct (I : World σ Request Op Res ε α → Prop)
    {w w' : World σ Request Op Res ε α} (h : S.Reaches w w') (h0 : I w)
    (hs : ∀ v a, S.Reaches w v → I v → I (S.step v a)) : I w' := by
  obtain ⟨acts, rfl⟩ := h
  exact (along_true w acts).keeps I h0 fun v a hv _ => hs v a hv

section Specification
variable {P : Request → List (Entry Op Res) → Op → Prop}
  {Q : Request → List (Entry Op Res) → Except ε α → Prop}

/-- Every handler in flight meets the rest of its specification. -/
theorem Reaches.meets (hspec : ∀ r, (S.handler r).Meets (P r) (Q r) []) {s : σ}
    {w : World σ Request Op Res ε α} (hw : S.Reaches (.init s) w) {pid : ℕ}
    {t : Thread Request Op Res ε α} (ht : w.threads pid = some t) :
    t.rest.Meets (P t.request) (Q t.request) (w.history pid) := by
  suffices hI : (∀ pid, w.threads pid = none → w.history pid = []) ∧
      ∀ pid t, w.threads pid = some t →
        t.rest.Meets (P t.request) (Q t.request) (w.history pid) from hI.2 pid t ht
  clear ht pid t
  refine hw.induct (fun w => (∀ pid, w.threads pid = none → w.history pid = []) ∧
      ∀ pid t, w.threads pid = some t →
        t.rest.Meets (P t.request) (Q t.request) (w.history pid))
    ⟨fun _ _ => rfl, fun _ _ h => by simp [World.init] at h⟩ ?_
  rintro v a - ⟨hnone, hmeets⟩
  rcases S.step_cases v a with h | ⟨pid, request, -, hp, h⟩ |
    ⟨pid, choice, request, op, next, r, s', -, hp, -, h⟩ | ⟨move, -, h⟩
  · rw [h]; exact ⟨hnone, hmeets⟩
  · rw [h]
    refine ⟨fun q hq => hnone q ?_, fun q t hq => ?_⟩
    · by_cases hqp : q = pid
      · simpa [hqp] using hp
      · simpa [Function.update_of_ne hqp] using hq
    · by_cases hqp : q = pid
      · subst hqp
        obtain rfl : _ = t := by simpa using hq
        have hh : historyOf q v.log = [] := hnone q hp
        simpa [World.history, hh] using hspec request
      · exact hmeets q t (by simpa [Function.update_of_ne hqp] using hq)
  · rw [h]
    refine ⟨fun q hq => ?_, fun q t hq => ?_⟩
    · by_cases hqp : q = pid
      · subst hqp; simp at hq
      · rw [v.history_afterCall_ne _ _ _ _ _ hqp]
        exact hnone q (by simpa [v.afterCall_threads_ne _ _ _ _ _ hqp] using hq)
    · by_cases hqp : q = pid
      · subst hqp
        obtain rfl : _ = t := by simpa using hq
        rw [v.history_afterCall_self]
        exact (hmeets q _ hp).2 r
      · rw [v.history_afterCall_ne _ _ _ _ _ hqp]
        exact hmeets q t (by simpa [v.afterCall_threads_ne _ _ _ _ _ hqp] using hq)
  · rw [h]; exact ⟨hnone, hmeets⟩

end Specification

/-- What holds everywhere in the programs holds of what is left of them. -/
theorem Reaches.everywhere {φ : (op : Op) → (Res op → Prog Op Res ε α) → Prop}
    (hφ : ∀ r, (S.handler r).Everywhere φ) {s : σ} {w : World σ Request Op Res ε α}
    (hw : S.Reaches (.init s) w) {pid : ℕ} {t : Thread Request Op Res ε α}
    (ht : w.threads pid = some t) : t.rest.Everywhere φ := by
  refine hw.induct (fun w => ∀ pid t, w.threads pid = some t → t.rest.Everywhere φ)
    (fun _ _ h => by simp [World.init] at h) ?_ pid t ht
  intro v a _ ih q t hq
  rcases S.step_cases v a with h | ⟨pid, request, -, hp, h⟩ |
    ⟨pid, choice, request, op, next, r, s', -, hp, -, h⟩ | ⟨move, -, h⟩
  · exact ih q t (h ▸ hq)
  · rw [h] at hq
    by_cases hqp : q = pid
    · subst hqp
      obtain rfl : _ = t := by simpa using hq
      exact hφ request
    · exact ih q t (by simpa [Function.update_of_ne hqp] using hq)
  · rw [h] at hq
    by_cases hqp : q = pid
    · subst hqp
      obtain rfl : _ = t := by simpa using hq
      exact (ih q _ hp).2 r
    · exact ih q t (by simpa [v.afterCall_threads_ne _ _ _ _ _ hqp] using hq)
  · exact ih q t (by simpa [h] using hq)

/-- The two-run rule: the actions of the handlers in `Q` are missing in the second run,
so the relation survives them there, and every other action in both runs at once. -/
theorem Along.keeps_without {C D : World σ Request Op Res ε α → Action Request Choice Env → Prop}
    (R : World σ Request Op Res ε α → World σ Request Op Res ε α → Prop) (Q : ℕ → Bool)
    {w w' final : World σ Request Op Res ε α} {acts : List (Action Request Choice Env)}
    (h : S.Along C w acts) (h' : S.Along D w' (without Q acts)) (hfinal : S.run w acts = final)
    (h0 : R w w')
    (hmissing : ∀ v v' a, S.Reaches (S.step v a) final → a.pid?.any Q = true → C v a → R v v' →
      R (S.step v a) v')
    (hkept : ∀ v v' a, S.Reaches (S.step v a) final → a.pid?.any Q = false → C v a → D v' a →
      R v v' → R (S.step v a) (S.step v' a)) : R final (S.run w' (without Q acts)) := by
  induction acts generalizing w w' with
  | nil => exact hfinal ▸ h0
  | cons a acts ih =>
    have hreach : S.Reaches (S.step w a) final := ⟨acts, hfinal⟩
    cases hQ : a.pid?.any Q with
    | true =>
      rw [show without Q (a :: acts) = without Q acts by simp [without, hQ]] at h' ⊢
      exact ih h.2 h' hfinal (hmissing w w' a hreach hQ h.1 h0)
    | false =>
      rw [show without Q (a :: acts) = a :: without Q acts by simp [without, hQ]] at h' ⊢
      exact ih h.2 h'.2 hfinal (hkept w w' a hreach hQ h.1 h'.1 h0)

/-- An action moves no handler but its own. -/
theorem step_threads_ne (w : World σ Request Op Res ε α) {a : Action Request Choice Env} {pid : ℕ}
    (h : a.pid? ≠ some pid) : (S.step w a).threads pid = w.threads pid := by
  rcases S.step_cases w a with hs | ⟨q, request, rfl, -, hs⟩ |
    ⟨q, choice, request, op, next, r, s', rfl, -, -, hs⟩ | ⟨move, rfl, hs⟩
  · rw [hs]
  · have hne : pid ≠ q := fun hq => h (congrArg some hq.symm)
    rw [hs]
    exact Function.update_of_ne hne _ _
  · have hne : pid ≠ q := fun hq => h (congrArg some hq.symm)
    rw [hs]
    exact w.afterCall_threads_ne _ _ _ _ _ hne
  · rw [hs]

theorem step_exec {w : World σ Request Op Res ε α} {pid : ℕ} {choice : Choice} {request : Request}
    {op : Op} {next : Res op → Prog Op Res ε α} {r : Res op} {s : σ}
    (ht : w.threads pid = some ⟨request, .call op next⟩)
    (hx : S.exec choice w.state op = some (r, s)) :
    S.step w (.exec pid choice) = w.afterCall pid request op next r s := by
  simp [step, ht, hx]

/-- A handler that makes no call does not move. -/
theorem step_exec_idle {w : World σ Request Op Res ε α} {pid : ℕ} {choice : Choice}
    (h : w.pending? pid = none) : S.step w (.exec pid choice) = w := by
  unfold World.pending? at h
  simp only [step]
  match ht : w.threads pid with
  | none => rfl
  | some ⟨_, .ret _⟩ => rfl
  | some ⟨_, .fail _⟩ => rfl
  | some ⟨_, .call _ _⟩ => simp [ht] at h

theorem step_spawn {w : World σ Request Op Res ε α} {pid : ℕ} {request : Request}
    (h : w.threads pid = none) : S.step w (.spawn pid request) =
      { w with threads := Function.update w.threads pid (some ⟨request, S.handler request⟩) } := by
  simp [step, h]

theorem step_spawn_started {w : World σ Request Op Res ε α} {pid : ℕ} {request r : Request}
    (h : w.request? pid = some r) : S.step w (.spawn pid request) = w := by
  obtain ⟨t, ht, -⟩ := Option.map_eq_some_iff.mp h
  simp [step, ht]

/-- The request a handler serves never changes. -/
theorem Reaches.request {w w' : World σ Request Op Res ε α} (h : S.Reaches w w') {pid : ℕ}
    {t : Thread Request Op Res ε α} (ht : w.threads pid = some t) :
    ∃ t', w'.threads pid = some t' ∧ t'.request = t.request := by
  refine h.induct (fun w => ∃ t', w.threads pid = some t' ∧ t'.request = t.request) ⟨t, ht, rfl⟩ ?_
  rintro v a - ⟨t', ht', hr⟩
  rcases S.step_cases v a with h | ⟨q, request, -, hq, h⟩ |
    ⟨q, choice, request, op, next, r, s', -, hq, -, h⟩ | ⟨move, -, h⟩
  · exact ⟨t', by rw [h, ht'], hr⟩
  · have hne : pid ≠ q := by rintro rfl; simp [ht'] at hq
    exact ⟨t', by simpa [h, Function.update_of_ne hne] using ht', hr⟩
  · by_cases hqp : pid = q
    · subst hqp
      obtain rfl : t' = _ := by simpa [ht'] using hq
      exact ⟨⟨request, next r⟩, by simp [h], hr⟩
    · exact ⟨t', by rw [h, v.afterCall_threads_ne _ _ _ _ _ hqp, ht'], hr⟩
  · exact ⟨t', by rw [h]; exact ht', hr⟩

theorem Reaches.request? {w w' : World σ Request Op Res ε α} (h : S.Reaches w w') {pid : ℕ}
    {r : Request} (hr : w.request? pid = some r) : w'.request? pid = some r := by
  obtain ⟨t, ht, rfl⟩ := Option.map_eq_some_iff.mp hr
  obtain ⟨t', ht', hreq⟩ := h.request ht
  rw [World.request?_eq ht', hreq]

/-- A finished handler stays so. -/
theorem Reaches.finished {w w' : World σ Request Op Res ε α} (h : S.Reaches w w') {pid : ℕ}
    {request : Request} {a : α} (hf : w.Finished pid request a) : w'.Finished pid request a := by
  refine h.induct (fun w => w.Finished pid request a) hf fun v b _ hv => ?_
  rcases S.step_cases v b with h | ⟨q, r, -, hq, h⟩ |
    ⟨q, choice, r, op, next, res, s', -, hq, -, h⟩ | ⟨move, -, h⟩
  · rw [h]
    exact hv
  · have hne : pid ≠ q := by
      rintro rfl
      exact absurd (hv.symm.trans hq) (by simp)
    rw [h]
    exact (Function.update_of_ne hne _ _).trans hv
  · have hne : pid ≠ q := by
      rintro rfl
      exact absurd (hv.symm.trans hq) (by simp)
    rw [h]
    exact (v.afterCall_threads_ne _ _ _ _ _ hne).trans hv
  · rw [h]
    exact hv

theorem step_request? (w : World σ Request Op Res ε α) (pid : ℕ) (a : Action Request Choice Env) :
    (S.step w a).request? pid = (w.request? pid).or (spawned? pid [a]) := by
  cases hr : w.request? pid with
  | some r => exact (Reaches.step S w a).request? hr
  | none =>
    have hnone : w.threads pid = none := by simpa [World.request?] using hr
    rw [Option.none_or]
    rcases S.step_cases w a with h | ⟨q, request, rfl, hq, h⟩ |
      ⟨q, choice, request, op, next, r, s', rfl, hq, -, h⟩ | ⟨move, rfl, h⟩
    · cases a with
      | spawn q request =>
        have hne : q ≠ pid := by
          rintro rfl
          have ht := congrArg (fun w => w.threads q) h
          simp [System.step, hnone] at ht
        simp [h, hr, spawned?, hne]
      | exec q choice => simp [h, hr, spawned?]
      | env move => simp [h, hr, spawned?]
    · by_cases hqp : q = pid
      · subst hqp; simp [h, World.request?, spawned?]
      · simp [h, World.request?, spawned?, hqp, Function.update_of_ne (Ne.symm hqp), hnone]
    · have hne : pid ≠ q := by rintro rfl; simp [hnone] at hq
      simp [h, World.request?, spawned?, w.afterCall_threads_ne _ _ _ _ _ hne, hnone]
    · simp [h, World.request?, spawned?, hnone]

/-- The handlers of a run serve the requests that its actions started them with. -/
theorem run_request? (w : World σ Request Op Res ε α) (pid : ℕ)
    (acts : List (Action Request Choice Env)) :
    (S.run w acts).request? pid = (w.request? pid).or (spawned? pid acts) := by
  induction acts generalizing w with
  | nil => simp [spawned?]
  | cons a acts ih =>
    have hcons : spawned? pid (a :: acts) = (spawned? pid [a]).or (spawned? pid acts) := by
      cases a with
      | spawn q request => by_cases hq : q = pid <;> simp [spawned?, hq]
      | exec q choice => rfl
      | env move => rfl
    rw [run_cons, ih, step_request?, hcons, Option.or_assoc]

/-- The log only grows. -/
theorem Reaches.log_prefix {w w' : World σ Request Op Res ε α} (h : S.Reaches w w') :
    w.log <+: w'.log := by
  refine h.induct (fun w' => w.log <+: w'.log) (List.prefix_refl _) ?_
  intro v a _ ih
  rcases S.step_cases v a with h | ⟨q, request, -, hq, h⟩ |
    ⟨q, choice, request, op, next, r, s', -, hq, -, h⟩ | ⟨move, -, h⟩
  all_goals rw [h]
  · exact ih
  · exact ih
  · exact ih.trans (List.prefix_append _ _)
  · exact ih

/-- An entry logged since `w` marks a point of the run: the world its call was made in. -/
theorem Reaches.point {w w' : World σ Request Op Res ε α} (h : S.Reaches w w')
    {l l' : List (LogEntry σ Op Res)} {e : LogEntry σ Op Res} (hl : w'.log = w.log ++ l ++ e :: l') :
    ∃ v choice request next s', S.Reaches w v ∧ v.log = w.log ++ l ∧ v.state = e.before ∧
      v.threads e.pid = some ⟨request, .call e.op next⟩ ∧
      S.exec choice e.before e.op = some (e.res, s') ∧
      S.Reaches (v.afterCall e.pid request e.op next e.res s') w' := by
  refine h.induct (fun w' => ∀ l', w'.log = w.log ++ l ++ e :: l' →
    ∃ v choice request next s', S.Reaches w v ∧ v.log = w.log ++ l ∧ v.state = e.before ∧
      v.threads e.pid = some ⟨request, .call e.op next⟩ ∧
      S.exec choice e.before e.op = some (e.res, s') ∧
      S.Reaches (v.afterCall e.pid request e.op next e.res s') w') ?_ ?_ l' hl
  · intro l' hl
    have hlen := congrArg List.length hl
    simp at hlen
  clear hl l' h w'
  intro v a hv ih l' hl
  -- An entry that was there before the step keeps its point.
  have hold : ∀ l', v.log = w.log ++ l ++ e :: l' → ∃ u choice request next s', S.Reaches w u ∧
      u.log = w.log ++ l ∧ u.state = e.before ∧
      u.threads e.pid = some ⟨request, .call e.op next⟩ ∧
      S.exec choice e.before e.op = some (e.res, s') ∧
      S.Reaches (u.afterCall e.pid request e.op next e.res s') (S.step v a) := by
    intro l' hl
    obtain ⟨u, choice, request, next, s', h1, h2, h3, h4, h5, h6⟩ := ih l' hl
    exact ⟨u, choice, request, next, s', h1, h2, h3, h4, h5, h6.trans S (.step S v a)⟩
  rcases S.step_cases v a with h | ⟨q, request, -, hq, h⟩ |
    ⟨q, choice, request, op, next, r, s', rfl, hq, hx, h⟩ | ⟨move, -, h⟩
  · exact hold l' (by rw [← hl, h])
  · exact hold l' (by rw [← hl, h])
  · rw [h, World.afterCall_log] at hl
    rcases List.eq_nil_or_concat l' with rfl | ⟨l'', x, rfl⟩
    · obtain ⟨hlog, he⟩ := List.append_inj' hl rfl
      obtain rfl : _ = e := by simpa using he
      exact ⟨v, choice, request, next, s', hv, hlog, rfl, hq, hx, by rw [h]; exact .refl S _⟩
    · rw [List.concat_eq_append, ← List.cons_append, ← List.append_assoc] at hl
      exact hold l'' (List.append_inj' hl rfl).1
  · exact hold l' (by rw [← hl, h])

/-- A handler started after `w` has made all its calls after `w`. -/
theorem Reaches.entry_since {s : σ} {w w' : World σ Request Op Res ε α} (hw : S.Reaches (.init s) w)
    (h : S.Reaches w w') {pid : ℕ} (hp : w.threads pid = none) {e : LogEntry σ Op Res}
    (he : e ∈ w'.log) (hpid : e.pid = pid) : ∃ l l', w'.log = w.log ++ l ++ e :: l' := by
  obtain ⟨l, hl⟩ := h.log_prefix
  have hnot : e ∉ w.log := by
    intro hm
    obtain ⟨l₁, l₂, hsplit⟩ := List.append_of_mem hm
    obtain ⟨v, _, request, next, s', -, -, -, -, -, hr⟩ := hw.point (l := l₁) hsplit
    obtain ⟨t, ht, -⟩ := hr.request (World.afterCall_threads_self v e.pid request e.op next e.res s')
    simp [hpid, hp] at ht
  have hmem : e ∈ l := by
    rw [← hl] at he
    exact (List.mem_append.mp he).resolve_left hnot
  obtain ⟨l₁, l₂, rfl⟩ := List.append_of_mem hmem
  exact ⟨l₁, l₂, by rw [← hl, List.append_assoc]⟩

/-- The frame rule of a run: a predicate of the state lasts while the calls logged
since `w` satisfy `B`, when every such call and every move of the environment keep it. -/
theorem Reaches.keeps_while {J : σ → Prop} (B : LogEntry σ Op Res → Prop)
    {w w' : World σ Request Op Res ε α} (h : S.Reaches w w') {l : List (LogEntry σ Op Res)}
    (hl : w'.log = w.log ++ l) (hB : ∀ e ∈ l, B e) (h0 : J w.state)
    (hexec : ∀ v pid request op next choice r s', S.Reaches w v →
      v.threads pid = some ⟨request, .call op next⟩ → S.exec choice v.state op = some (r, s') →
      B ⟨pid, v.state, op, r⟩ → J v.state → J s')
    (henv : ∀ move s, J s → J (S.env move s)) : J w'.state := by
  refine h.induct (fun w' => ∀ l, w'.log = w.log ++ l → (∀ e ∈ l, B e) → J w'.state)
    (fun _ _ _ => h0) ?_ l hl hB
  clear hl hB h l w'
  intro v a hv ih l hl hB
  rcases S.step_cases v a with h | ⟨pid, request, -, -, h⟩ |
    ⟨pid, choice, request, op, next, r, s', -, ht, hx, h⟩ | ⟨move, -, h⟩
  · rw [h] at hl ⊢; exact ih l hl hB
  · rw [h] at hl ⊢; exact ih l hl hB
  · rw [h, World.afterCall_log] at hl
    rw [h, World.afterCall_state]
    rcases List.eq_nil_or_concat l with rfl | ⟨l', x, rfl⟩
    · obtain ⟨l', hl'⟩ := hv.log_prefix
      have hlen := congrArg List.length hl
      simp [← hl'] at hlen
    · rw [List.concat_eq_append, ← List.append_assoc] at hl
      obtain ⟨hlog, hx'⟩ := List.append_inj' hl rfl
      obtain rfl : _ = x := by simpa using hx'
      have hlast : B ⟨pid, v.state, op, r⟩ := hB _ (by simp)
      exact hexec v pid request op next choice r s' hv ht hx hlast
        (ih l' hlog fun e he => hB e (by simp [he]))
  · rw [h] at hl ⊢; exact henv move _ (ih l hl hB)

/-- What every call and every move of the environment keeps, a run keeps. -/
theorem Reaches.keeps {J : σ → Prop} {w w' : World σ Request Op Res ε α} (h : S.Reaches w w')
    (h0 : J w.state)
    (hexec : ∀ v pid request op next choice r s', S.Reaches w v →
      v.threads pid = some ⟨request, .call op next⟩ → S.exec choice v.state op = some (r, s') →
      J v.state → J s')
    (henv : ∀ move s, J s → J (S.env move s)) : J w'.state := by
  obtain ⟨l, hl⟩ := h.log_prefix
  exact h.keeps_while (fun _ => True) hl.symm (fun _ _ => trivial) h0
    (fun v pid request op next choice r s' hv ht hx _ =>
      hexec v pid request op next choice r s' hv ht hx) henv

/-- What a call has brought about lasts while the later calls satisfy `B`. -/
theorem Reaches.holds_since {J : σ → Prop} (B : LogEntry σ Op Res → Prop) {s₀ : σ}
    {w : World σ Request Op Res ε α} (hw : S.Reaches (.init s₀) w)
    {l l' : List (LogEntry σ Op Res)} {e : LogEntry σ Op Res} (hl : w.log = l ++ e :: l')
    (hB : ∀ x ∈ l', B x)
    (hstart : ∀ choice s', S.exec choice e.before e.op = some (e.res, s') → J s')
    (hexec : ∀ v pid request op next choice r s', S.Reaches (.init s₀) v →
      v.threads pid = some ⟨request, .call op next⟩ → S.exec choice v.state op = some (r, s') →
      B ⟨pid, v.state, op, r⟩ → J v.state → J s')
    (henv : ∀ move s, J s → J (S.env move s)) : J w.state := by
  obtain ⟨v, choice, request, next, s', hv, hlog, hstate, ht, hx, hr⟩ :=
    hw.point (l := l) hl
  have hafter : S.Reaches (.init s₀) (v.afterCall e.pid request e.op next e.res s') := by
    refine hv.trans S ⟨[.exec e.pid choice], ?_⟩
    simp [System.step, ht, hstate, hx]
  have hlog' : w.log = (v.afterCall e.pid request e.op next e.res s').log ++ l' := by
    have hafterLog : (v.afterCall e.pid request e.op next e.res s').log = l ++ [e] := by
      rw [World.afterCall_log, hstate]
      exact congrArg (· ++ [e]) hlog
    rw [hafterLog, hl, List.append_assoc]
    rfl
  exact hr.keeps_while B hlog' hB (hstart choice s' hx)
    (fun u pid request op next choice r s' hu => hexec u pid request op next choice r s'
      (hafter.trans S hu)) henv

section Logged
variable {P : Request → List (Entry Op Res) → Op → Prop}
  {Q : Request → List (Entry Op Res) → Except ε α → Prop}

/-- Every logged call was allowed by the specification of its handler, after the
calls it had made before. -/
theorem Reaches.logged (hspec : ∀ r, (S.handler r).Meets (P r) (Q r) []) {s : σ}
    {w : World σ Request Op Res ε α} (hw : S.Reaches (.init s) w)
    {l l' : List (LogEntry σ Op Res)} {e : LogEntry σ Op Res} (hl : w.log = l ++ e :: l') :
    ∃ t, w.threads e.pid = some t ∧ P t.request (historyOf e.pid l) e.op := by
  obtain ⟨v, choice, request, next, s', hv, hlog, -, ht, -, hr⟩ := hw.point (l := l) hl
  obtain ⟨t, ht', hreq⟩ := hr.request (World.afterCall_threads_self v e.pid request e.op next e.res s')
  obtain rfl : v.log = l := hlog
  exact ⟨t, ht', hreq ▸ (hv.meets hspec ht).1⟩

end Logged
end System
end JustRun.Concurrency
