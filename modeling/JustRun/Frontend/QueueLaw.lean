import JustRun.Frontend.TaskQueue

/-!
# What a task queue owes its caller

The items are called in order; each is running, recorded or has its result; the items that are
passed without a call are cancelled. This is kept by a start, a settlement and a cancellation,
and at the end of each callback nothing is left to be started.
-/
namespace JustRun.Frontend
open Machine

variable {Item Value : Type}

def called? : QueueEvent Value → Option ℕ
  | .called index => some index
  | _ => none

def isCancelled : QueueEvent Value → Bool
  | .cancelled => true
  | _ => false

def isResolved : QueueEvent Value → Bool
  | .resolved => true
  | _ => false

/-- The items whose worker has been called, in order. -/
def Queue.calls (s : Queue Item Value) : List ℕ := s.events.filterMap called?

/-- So many items may be in progress. -/
def Task.atMost (t : Task Item) (n : ℕ) : Prop :=
  match t.concurrency with
  | none => n ≤ 1
  | some (.finite q) => (n : ℤ) ≤ max 1 ⌊q⌋
  | some .posInf => True
  | some .negInf => n ≤ 1
  | some .nan => n = 0

/-- Each item has its own result: of its promise, or cancelled if its worker was not called. -/
structure OwnResults (t : Task Item) (s : Queue Item Value) (r : QueueResult Item Value) : Prop where
  length : r.results.length = t.items.length
  settled : ∀ i item outcome, t.items[i]? = some item → .settled i outcome ∈ s.events →
    r.results[i]? = some (resultOf item outcome)
  called : ∀ i ∈ s.calls, ∃ outcome, .settled i outcome ∈ s.events
  uncalled : ∀ i item, t.items[i]? = some item → i ∉ s.calls → r.results[i]? = some (.cancelled item)

structure QueueLaw (t : Task Item) (s : Queue Item Value) : Prop where
  inOrder : ∃ k ≤ t.items.length, s.calls = List.range k
  bounded : t.atMost (s.running.length + s.recorded.length)
  stopped : s.events.Pairwise fun a b => isCancelled a = true → called? b = none
  resolves : s.running = [] → s.recorded = [] →
    (s.events.filter isResolved).length = 1 ∧ ∃ r, s.done = some r ∧ OwnResults t s r
  resolvedOnce : (s.events.filter isResolved).length ≤ 1
  resolvedLast : s.done.isSome → s.running = [] ∧ s.recorded = []

/-! ### The limit -/

theorem Task.limit_eq (t : Task Item) (q : ℚ) (h : t.concurrency = some (.finite q)) :
    t.limit = .finite ((max 1 ⌊q⌋ : ℤ) : ℚ) := by
  simp [Task.limit, h, JsNumber.floor, JsNumber.ofNat, JsNumber.max]

theorem Task.lt_limit (t : Task Item) {n : ℕ} (h : (JsNumber.ofNat n).lt t.limit = true) :
    t.atMost (n + 1) := by
  unfold Task.atMost
  match hc : t.concurrency with
  | none => 
    simp [Task.limit, hc, JsNumber.floor, JsNumber.ofNat, JsNumber.max, JsNumber.lt] at h
    omega
  | some (.finite q) =>
    rw [t.limit_eq q hc] at h
    simp only [JsNumber.ofNat, JsNumber.lt, decide_eq_true_eq] at h
    have hlt : (n : ℤ) < max 1 ⌊q⌋ := by exact_mod_cast h
    dsimp only
    omega
  | some .posInf => trivial
  | some .negInf =>
    simp [Task.limit, hc, JsNumber.floor, JsNumber.ofNat, JsNumber.max, JsNumber.lt] at h
    omega
  | some .nan =>
    simp [Task.limit, hc, JsNumber.floor, JsNumber.ofNat, JsNumber.max, JsNumber.lt] at h

theorem Task.limit_pos (t : Task Item) (h : t.concurrency ≠ some .nan) :
    (JsNumber.ofNat 0).lt t.limit = true := by
  match hc : t.concurrency with
  | none => simp [Task.limit, hc, JsNumber.floor, JsNumber.ofNat, JsNumber.max, JsNumber.lt]
  | some (.finite q) =>
    rw [t.limit_eq q hc]
    simp [JsNumber.ofNat, JsNumber.lt]
  | some .posInf => simp [Task.limit, hc, JsNumber.floor, JsNumber.ofNat, JsNumber.max, JsNumber.lt]
  | some .negInf => simp [Task.limit, hc, JsNumber.floor, JsNumber.ofNat, JsNumber.max, JsNumber.lt]
  | some .nan => exact absurd hc h

theorem Task.atMost_mono (t : Task Item) {m n : ℕ} (hmn : m ≤ n) (h : t.atMost n) : t.atMost m := by
  unfold Task.atMost at h ⊢
  split
  all_goals simp_all
  all_goals omega

end JustRun.Frontend
