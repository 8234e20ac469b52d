import JustRun.Machine.Numbers

/-!
# The task queue

`lib/taskQueue.ts`: `runTaskQueue` as a state that the callbacks of its promises and the calls of
`cancel` change, each of them from its start to its end.
-/
namespace JustRun.Frontend
open Machine

variable {Item Value : Type}

/-- What a promise is rejected with. -/
inductive Thrown where
  | error (message : String)
  | text (text : String)
  /-- Any other value, by its `String(..)`. -/
  | other (text : String)

def toReason : Thrown → String
  | .error message => message
  | .text text => text
  | .other text => text

inductive QueueItemResult (Item Value : Type) where
  | fulfilled (item : Item) (value : Value)
  | rejected (item : Item) (reason : String)
  | cancelled (item : Item)
  deriving DecidableEq

structure QueueResult (Item Value : Type) where
  results : List (QueueItemResult Item Value)
  cancelled : Bool
  deriving DecidableEq

structure QueueProgress (Item Value : Type) where
  total : ℕ
  completed : ℕ
  active : ℕ
  item : Option Item
  result : Option (QueueItemResult Item Value)
  deriving DecidableEq

/-- What happens while an item is started: whether the progress callback that announces it calls
`cancel`, whether the worker does, and whether the call of the worker throws. -/
structure Start where
  announcementCancels : Bool
  workerCancels : Bool
  throws : Bool

/-- The arguments of `runTaskQueue`. -/
structure Task (Item : Type) where
  items : List Item
  concurrency : Option JsNumber
  start : ℕ → Start

/-- `Math.max(1, Math.floor(options.concurrency ?? 1))`. -/
def Task.limit (t : Task Item) : JsNumber :=
  JsNumber.max (.ofNat 1) (t.concurrency.getD (.ofNat 1)).floor

inductive QueueEvent (Value : Type) where
  | called (index : ℕ)
  | settled (index : ℕ) (outcome : Except Thrown Value)
  | cancelled
  | resolved

/-- `running` are the items whose promise has not settled, `recorded` those whose `finally` is
still to come. `handle` tells whether the caller has the handle. -/
structure Queue (Item Value : Type) where
  results : List (Option (QueueItemResult Item Value))
  nextIndex : ℕ
  active : ℕ
  cancelled : Bool
  done : Option (QueueResult Item Value)
  running : List ℕ
  recorded : List ℕ
  handle : Bool
  events : List (QueueEvent Value)
  progress : List (QueueProgress Item Value)

namespace Queue
variable (t : Task Item) (s : Queue Item Value)

/-- `options.onProgress`. -/
def report (item : Option Item) (result : Option (QueueItemResult Item Value)) : Queue Item Value :=
  { s with progress := s.progress ++
      [⟨t.items.length, (s.results.filter Option.isSome).length, s.active, item, result⟩] }

/-- A promise resolves once. -/
def resolveDone : Queue Item Value :=
  match s.done with
  | some _ => s
  | none => { s with
      done := some ⟨s.results.filterMap id, s.cancelled⟩
      events := s.events ++ [.resolved] }

def finishIfReady : Queue Item Value :=
  if s.active ≠ 0 ∨ s.results.any Option.isNone then s else s.resolveDone

/-- All items that are not started are cancelled. -/
def markPendingCancelled : Queue Item Value :=
  report t { s with
    results := s.results.take s.nextIndex ++
      (t.items.drop s.nextIndex).map fun item => some (.cancelled item)
    nextIndex := t.items.length } none none

/-- `handle.cancel()`. -/
def cancel : Queue Item Value :=
  if s.cancelled then s
  else finishIfReady (markPendingCancelled t { s with
    cancelled := true
    events := s.events ++ [.cancelled] })

/-- A call of `cancel` from a callback: it needs the handle. -/
def callback (cancels : Bool) : Queue Item Value :=
  if cancels && s.handle then s.cancel t else s

/-- The body of the loop of `pump`; `false` when the worker throws. -/
def startNext (item : Item) : Queue Item Value × Bool :=
  let index := s.nextIndex
  let announced := report t { s with nextIndex := index + 1, active := s.active + 1 } (some item) none
  let ready := announced.callback t (t.start index).announcementCancels
  let called := callback t { ready with events := ready.events ++ [.called index] }
    (t.start index).workerCancels
  if (t.start index).throws then (called, false)
  else ({ called with running := called.running ++ [index] }, true)

/-- The loop of `pump`. -/
def startAll : ℕ → Queue Item Value → Queue Item Value × Bool
  | 0, s => (s, true)
  | fuel + 1, s => match t.items[s.nextIndex]? with
    | none => (s, true)
    | some item =>
      if !s.cancelled && (JsNumber.ofNat s.active).lt t.limit then
        match s.startNext t item with
        | (s', true) => startAll fuel s'
        | (s', false) => (s', false)
      else (s, true)

/-- `pump`; an item is passed at most once, and `false` is the error of a worker. -/
def pump : Queue Item Value × Bool :=
  match startAll t t.items.length (if s.cancelled then s.markPendingCancelled t else s) with
  | (s', true) => (s'.finishIfReady, true)
  | (s', false) => (s', false)

end Queue

/-- `runTaskQueue` up to its return. Without a return there is no handle. -/
def runTaskQueue (Value : Type) (t : Task Item) : Queue Item Value :=
  match Queue.pump t ⟨t.items.map fun _ => none, 0, 0, false, none, [], [], false, [], []⟩ with
  | (s, true) => { s with handle := true }
  | (s, false) => s

inductive QueueAction (Value : Type) where
  /-- The promise of the item settles, and `then` or `catch` records it. -/
  | settle (index : ℕ) (outcome : Except Thrown Value)
  /-- The callback of `finally`; its progress callback may call `cancel`. -/
  | finish (index : ℕ) (cancels : Bool)
  | cancel

/-- The result of an item by the outcome of its promise. -/
def resultOf (item : Item) : Except Thrown Value → QueueItemResult Item Value
  | .ok value => .fulfilled item value
  | .error thrown => .rejected item (toReason thrown)

namespace Queue
variable (t : Task Item) (s : Queue Item Value)

def record (index : ℕ) (item : Item) (outcome : Except Thrown Value) : Queue Item Value :=
  { s with
    results := s.results.set index (some (resultOf item outcome))
    running := s.running.erase index
    recorded := s.recorded ++ [index]
    events := s.events ++ [.settled index outcome] }

/-- The callback of `finally`. -/
def finish (index : ℕ) (item : Item) (cancels : Bool) : Queue Item Value :=
  let left := report t { s with active := s.active - 1, recorded := s.recorded.erase index }
    (some item) (s.results.getD index none)
  match (left.callback t cancels).pump t with
  | (s', true) => s'.finishIfReady
  | (s', false) => s'

def step : QueueAction Value → Queue Item Value
  | .settle index outcome => match t.items[index]? with
    | some item => if index ∈ s.running then s.record index item outcome else s
    | none => s
  | .finish index cancels => match t.items[index]? with
    | some item => if index ∈ s.recorded then s.finish t index item cancels else s
    | none => s
  | .cancel => s.callback t true

end Queue

/-- All that can happen after the call. -/
def queueRun (t : Task Item) (acts : List (QueueAction Value)) : Queue Item Value :=
  acts.foldl (fun s a => s.step t a) (runTaskQueue Value t)

end JustRun.Frontend
