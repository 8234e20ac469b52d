import JustRun.Terminal.Sessions

/-!
# The session slots

A slot is reserved by a start and released by it, or by the reader it leaves behind, and by
nobody else. The counter is the number of the slots that are held, and each listed session is
that of a slot of its own.
-/
namespace JustRun.Terminal
open Machine Concurrency Concurrency.Prog Concurrency.System

abbrev TerminalHistory := List (Entry TerminalOp TerminalRes)

def calls (h : TerminalHistory) : List TerminalOp := h.map Sigma.fst

def registeredId? : TerminalOp → Option String
  | .register id _ => some id
  | _ => none

def registeredIds (h : TerminalHistory) : List String := (calls h).filterMap registeredId?

/-- One of the steps between the reservation and the registration has failed. -/
def StartFailed (h : TerminalHistory) : Prop :=
  ∃ error : String, ⟨.openPty, .error error⟩ ∈ h ∨ (∃ spec, ⟨.spawnCommand spec, .error error⟩ ∈ h) ∨
    ∃ child, ⟨.cloneReader child, .error error⟩ ∈ h ∨ ⟨.takeWriter child, .error error⟩ ∈ h

/-- The reader has waited for its child. -/
def Reaped (h : TerminalHistory) : Prop := ∃ child, .wait child ∈ calls h

/-- What a call presupposes of the calls before it. -/
def Follows (h : TerminalHistory) : TerminalOp → Prop
  | .reserve => h = []
  | .release => ⟨.reserve, true⟩ ∈ h ∧ .release ∉ calls h ∧ (StartFailed h ∨ Reaped h) ∧
      ∀ id ∈ registeredIds h, .unregister id ∈ calls h
  | .register _ _ => ⟨.reserve, true⟩ ∈ h ∧ .release ∉ calls h ∧ registeredIds h = [] ∧
      ∀ id, .unregister id ∉ calls h
  | .unregister id => ∀ id' ∈ registeredIds h, id' = id
  | .wait child => ∃ spec, ⟨.spawnCommand spec, .ok child⟩ ∈ h
  | _ => True

/-- A handler that holds a slot does not end. -/
def Settled (h : TerminalHistory) : Prop := ⟨.reserve, true⟩ ∈ h → .release ∈ calls h

/-! ### The handlers -/

/-- The calls of a handler that neither reserves nor registers. -/
def Quiet (h : TerminalHistory) : Prop :=
  ∀ op ∈ calls h, op ≠ .reserve ∧ registeredId? op = none

theorem quiet_nil : Quiet [] := by simp [Quiet, calls]

theorem quiet_snoc {h : TerminalHistory} (hh : Quiet h) (op : TerminalOp) (r : TerminalRes op)
    (hop : op ≠ .reserve ∧ registeredId? op = none) : Quiet (h ++ [⟨op, r⟩]) := by
  intro op' hop'
  simp only [calls, List.map_append, List.mem_append, List.map_cons, List.map_nil,
    List.mem_singleton] at hop'
  rcases hop' with hop' | rfl
  · exact hh op' hop'
  · exact hop

theorem Quiet.settled {h : TerminalHistory} (hh : Quiet h) : Settled h := by
  intro hmem
  exact absurd rfl (hh .reserve (List.mem_map_of_mem hmem)).1

theorem Quiet.registeredIds {h : TerminalHistory} (hh : Quiet h) : registeredIds h = [] := by
  rw [Terminal.registeredIds, List.filterMap_eq_nil_iff]
  exact fun op hop => (hh op hop).2

theorem stop_quiet (id : String) {h : TerminalHistory} (hh : Quiet h) :
    (stop id).Meets Follows (fun h' _ => Quiet h') h := by
  have hfree : ∀ id' ∈ registeredIds h, id' = id := by simp [hh.registeredIds]
  refine ⟨hfree, fun entry => ?_⟩
  have h₁ := quiet_snoc hh (.unregister id) entry ⟨by simp, rfl⟩
  cases entry with
  | none => exact ⟨trivial, fun stopped => quiet_snoc h₁ _ _ ⟨by simp, rfl⟩⟩
  | some entry =>
    refine ⟨trivial, fun _ => ⟨trivial, fun killed => ?_⟩⟩
    have h₂ := quiet_snoc h₁ (.flag entry.child) () ⟨by simp, rfl⟩
    have h₃ := quiet_snoc h₂ (.kill entry.child) killed ⟨by simp, rfl⟩
    cases killed with
    | error error => exact h₃
    | ok done => exact ⟨trivial, fun _ => quiet_snoc h₃ _ _ ⟨by simp, rfl⟩⟩

theorem stopEach_quiet (ids : List String) {h : TerminalHistory} (hh : Quiet h) :
    (stopEach ids).Meets Follows (fun h' _ => Quiet h') h := by
  induction ids generalizing h with
  | nil => exact hh
  | cons id ids ih =>
    exact (stop_quiet id hh).bind (fun _ _ _ hq => ih hq) fun _ _ _ hq => hq

theorem write_quiet (id data : String) : (write id data).Meets Follows (fun h' _ => Quiet h') [] := by
  unfold write
  cases validateInput data with
  | error error => exact quiet_nil
  | ok done =>
    refine ⟨trivial, fun entry => ?_⟩
    have h₁ := quiet_snoc quiet_nil (.lookup id) entry ⟨by simp, rfl⟩
    cases entry with
    | none => exact h₁
    | some entry =>
      refine ⟨trivial, fun written => ?_⟩
      have h₂ := quiet_snoc h₁ (.writeAll entry.child data) written ⟨by simp, rfl⟩
      cases written <;> exact h₂

/-- A start that holds its slot and has not registered its session. -/
structure Holding (h : TerminalHistory) : Prop where
  reserved : ⟨.reserve, true⟩ ∈ h
  unreleased : .release ∉ calls h
  unregistered : registeredIds h = []
  kept : ∀ id, .unregister id ∉ calls h

theorem calls_snoc (h : TerminalHistory) (op : TerminalOp) (r : TerminalRes op) :
    calls (h ++ [⟨op, r⟩]) = calls h ++ [op] := by
  simp [calls]

theorem registeredIds_snoc (h : TerminalHistory) (op : TerminalOp) (r : TerminalRes op) :
    registeredIds (h ++ [⟨op, r⟩]) = registeredIds h ++ (registeredId? op).toList := by
  rw [registeredIds, calls_snoc, List.filterMap_append, registeredIds]
  cases hop : registeredId? op <;> simp [hop]

theorem Holding.snoc {h : TerminalHistory} (hh : Holding h) (op : TerminalOp) (r : TerminalRes op)
    (hrelease : op ≠ .release) (hregister : registeredId? op = none)
    (hkept : ∀ id, op ≠ .unregister id) : Holding (h ++ [⟨op, r⟩]) where
  reserved := List.mem_append_left _ hh.reserved
  unreleased := by simp [calls_snoc, hh.unreleased, hrelease.symm]
  unregistered := by simp [registeredIds_snoc, hh.unregistered, hregister]
  kept := fun id => by simp [calls_snoc, hh.kept id, (hkept id).symm]

/-- The reader of a session, before it leaves the registry. -/
structure Reading (id : String) (child : ℕ) (h : TerminalHistory) : Prop where
  reserved : ⟨.reserve, true⟩ ∈ h
  unreleased : .release ∉ calls h
  registered : registeredIds h = [id]
  spawned : ∃ spec, ⟨.spawnCommand spec, .ok child⟩ ∈ h

theorem Reading.snoc {id : String} {child : ℕ} {h : TerminalHistory} (hh : Reading id child h)
    (op : TerminalOp) (r : TerminalRes op) (hrelease : op ≠ .release)
    (hregister : registeredId? op = none) : Reading id child (h ++ [⟨op, r⟩]) where
  reserved := List.mem_append_left _ hh.reserved
  unreleased := by simp [calls_snoc, hh.unreleased, hrelease.symm]
  registered := by simp [registeredIds_snoc, hh.registered, hregister]
  spawned := by
    obtain ⟨spec, hspec⟩ := hh.spawned
    exact ⟨spec, List.mem_append_left _ hspec⟩

theorem reap_follows {id : String} {child : ℕ} {h : TerminalHistory} (hh : Reading id child h)
    (readError : Option String) :
    (reap id child readError).Meets Follows (fun h' _ => Settled h') h := by
  refine ⟨hh.spawned, fun exit => ⟨trivial, fun stopped => ⟨trivial, fun _ => ?_⟩⟩⟩
  have h₁ := hh.snoc (.wait child) exit (by simp) rfl
  have h₂ := h₁.snoc (.wasFlagged child) stopped (by simp) rfl
  have h₃ := h₂.snoc (.emit ⟨id, "exit", readError.getD "",
    some (exitStatus stopped readError exit), exit.toOption⟩) () (by simp) rfl
  have hown : Follows _ (.unregister id) := fun id' hid => by
    rw [h₃.registered] at hid
    exact List.mem_singleton.mp hid
  refine ⟨hown, fun entry => ?_⟩
  have h₄ := h₃.snoc (.unregister id) entry (by simp) rfl
  refine ⟨⟨h₄.reserved, h₄.unreleased, .inr ⟨child, ?_⟩, fun id' hid => ?_⟩, fun _ _ => ?_⟩
  · simp [calls]
  · rw [h₄.registered] at hid
    obtain rfl := List.mem_singleton.mp hid
    simp [calls]
  · simp [calls]

theorem spawnReader_follows {id : String} {child : ℕ} {h : TerminalHistory}
    (hh : Reading id child h) :
    (spawnReader id child).Meets Follows (fun h' _ => Settled h') h := by
  refine ⟨trivial, fun output => ?_⟩
  have h₁ := hh.snoc (.read child) output (by simp) rfl
  by_cases hover : overruns 0 output.sizes = true
  · simp only [hover, if_true]
    exact ⟨trivial, fun killed => reap_follows (h₁.snoc _ killed (by simp) rfl) _⟩
  · simp only [hover]
    exact reap_follows h₁ _

/-- The last steps of a start that has failed. -/
theorem failReleasing_follows {h : TerminalHistory} (hh : Holding h) (hfailed : StartFailed h)
    (error : String) : (failReleasing error : TerminalProg TerminalAnswer).Meets Follows
      (fun h' _ => Settled h') h := by
  refine ⟨⟨hh.reserved, hh.unreleased, .inl hfailed, by simp [hh.unregistered]⟩, fun _ _ => ?_⟩
  simp [calls]

theorem StartFailed.mono {h : TerminalHistory} (hh : StartFailed h) (x : Entry TerminalOp TerminalRes) :
    StartFailed (h ++ [x]) := by
  obtain ⟨error, hmem | ⟨spec, hmem⟩ | ⟨child, hmem | hmem⟩⟩ := hh
  · exact ⟨error, .inl (List.mem_append_left _ hmem)⟩
  · exact ⟨error, .inr (.inl ⟨spec, List.mem_append_left _ hmem⟩)⟩
  · exact ⟨error, .inr (.inr ⟨child, .inl (List.mem_append_left _ hmem)⟩)⟩
  · exact ⟨error, .inr (.inr ⟨child, .inr (List.mem_append_left _ hmem)⟩)⟩

theorem killReleasing_follows {h : TerminalHistory} (hh : Holding h) (hfailed : StartFailed h)
    (child : ℕ) (error : String) : (killReleasing child error : TerminalProg TerminalAnswer).Meets
      Follows (fun h' _ => Settled h') h := by
  refine ⟨trivial, fun killed => ?_⟩
  exact failReleasing_follows (hh.snoc _ killed (by simp) rfl (by simp)) (hfailed.mono _) error

theorem runSession_follows {h : TerminalHistory} (hh : Holding h) (info : TerminalSessionInfo)
    {child : ℕ} (hspawned : ∃ spec, ⟨.spawnCommand spec, .ok child⟩ ∈ h) :
    (runSession info child).Meets Follows (fun h' _ => Settled h') h := by
  refine ⟨⟨hh.reserved, hh.unreleased, hh.unregistered, hh.kept⟩, fun _ => ?_⟩
  have hreading : Reading info.id child (h ++ [⟨.register info.id ⟨info, child⟩, ()⟩]) := by
    obtain ⟨spec, hspec⟩ := hspawned
    exact {
      reserved := List.mem_append_left _ hh.reserved
      unreleased := by simp [calls_snoc, hh.unreleased]
      registered := by simp [registeredIds_snoc, hh.unregistered, registeredId?]
      spawned := ⟨spec, List.mem_append_left _ hspec⟩ }
  exact (spawnReader_follows hreading).bind (fun _ _ _ hq => hq) fun _ _ _ hq => hq

theorem connect_follows {h : TerminalHistory} (hh : Holding h) (info : TerminalSessionInfo)
    {child : ℕ} (hspawned : ∃ spec, ⟨.spawnCommand spec, .ok child⟩ ∈ h) :
    (connect info child).Meets Follows (fun h' _ => Settled h') h := by
  obtain ⟨spec, hspec⟩ := hspawned
  refine ⟨trivial, fun cloned => ?_⟩
  have h₁ := hh.snoc (.cloneReader child) cloned (by simp) rfl (by simp)
  cases cloned with
  | error error => exact killReleasing_follows h₁ ⟨error, .inr (.inr ⟨child, .inl (by simp)⟩)⟩ _ _
  | ok _ =>
    refine ⟨trivial, fun taken => ?_⟩
    have h₂ := h₁.snoc (.takeWriter child) taken (by simp) rfl (by simp)
    cases taken with
    | error error => exact killReleasing_follows h₂ ⟨error, .inr (.inr ⟨child, .inr (by simp)⟩)⟩ _ _
    | ok _ => exact runSession_follows h₂ info ⟨spec, by simp [hspec]⟩

theorem openTerminal_follows {h : TerminalHistory} (hh : Holding h) (spec : CommandSpec)
    (kind title : String) :
    (openTerminal spec kind title).Meets Follows (fun h' _ => Settled h') h := by
  refine ⟨trivial, fun id => ⟨trivial, fun opened => ?_⟩⟩
  have h₁ := hh.snoc .newId id (by simp) rfl (by simp)
  have h₂ := h₁.snoc .openPty opened (by simp) rfl (by simp)
  cases opened with
  | error error => exact failReleasing_follows h₂ ⟨error, .inl (by simp)⟩ _
  | ok _ =>
    refine ⟨trivial, fun spawned => ?_⟩
    have h₃ := h₂.snoc (.spawnCommand spec) spawned (by simp) rfl (by simp)
    cases spawned with
    | error error => exact failReleasing_follows h₃ ⟨error, .inr (.inl ⟨spec, by simp⟩)⟩ _
    | ok child => exact connect_follows h₃ _ ⟨spec, by simp⟩

theorem start_follows (host : TerminalHost) (request : TerminalStartRequest) :
    (start host request).Meets Follows (fun h' _ => Settled h') [] := by
  refine (meets_ofExcept_bind _ _).mpr ⟨fun _ _ hmem => absurd hmem (by simp), fun command _ => ?_⟩
  refine ⟨rfl, fun reserved => ?_⟩
  cases reserved with
  | false => exact fun hmem => absurd hmem (by simp)
  | true =>
    have hholding : Holding [⟨.reserve, true⟩] := by
      constructor <;> simp [calls, registeredIds, registeredId?]
    exact openTerminal_follows hholding _ _ _

theorem handler_follows (host : TerminalHost) (request : TerminalRequest) :
    (handler host request).Meets Follows (fun h' _ => Settled h') [] := by
  cases request with
  | start request => exact start_follows host request
  | stop id =>
    exact (stop_quiet id quiet_nil).bind (fun _ _ _ hq => hq.settled) fun _ _ _ hq => hq.settled
  | stopAll =>
    have hall : stopAll.Meets Follows (fun h' _ => Quiet h') [] :=
      ⟨trivial, fun ids => stopEach_quiet ids (quiet_snoc quiet_nil _ _ ⟨by simp, rfl⟩)⟩
    exact hall.bind (fun _ _ _ hq => hq.settled) fun _ _ _ hq => hq.settled
  | write id data =>
    exact (write_quiet id data).bind (fun _ _ _ hq => hq.settled) fun _ _ _ hq => hq.settled

/-! ### The log -/

abbrev TerminalLogEntry := LogEntry TerminalRegistry TerminalOp TerminalRes

/-- The handler that has reserved a slot here. -/
def reserved? : TerminalLogEntry → Option ℕ
  | ⟨pid, _, .reserve, true⟩ => some pid
  | _ => none

/-- The handler that has released its slot here. -/
def released? : TerminalLogEntry → Option ℕ
  | ⟨pid, _, .release, _⟩ => some pid
  | _ => none

def reservations (w : TerminalWorld) : List ℕ := w.log.filterMap reserved?

def releases (w : TerminalWorld) : List ℕ := w.log.filterMap released?

theorem reserved?_eq_some {e : TerminalLogEntry} {pid : ℕ} :
    reserved? e = some pid ↔ e.pid = pid ∧ e.entry = ⟨.reserve, true⟩ := by
  obtain ⟨q, before, op, res⟩ := e
  cases op with
  | reserve => cases res <;> simp [reserved?, LogEntry.entry]
  | _ => simp [reserved?, LogEntry.entry]

theorem released?_eq_some {e : TerminalLogEntry} {pid : ℕ} :
    released? e = some pid ↔ e.pid = pid ∧ e.op = .release := by
  obtain ⟨q, before, op, res⟩ := e
  cases op <;> simp [released?]

theorem mem_calls_historyOf {pid : ℕ} {log : List TerminalLogEntry} {op : TerminalOp} :
    op ∈ calls (historyOf pid log) ↔ ∃ e ∈ log, e.pid = pid ∧ e.op = op := by
  simp [calls, historyOf, LogEntry.entry, and_assoc]

theorem mem_reservations {w : TerminalWorld} {pid : ℕ} :
    pid ∈ reservations w ↔ ⟨.reserve, true⟩ ∈ w.history pid := by
  simp only [reservations, List.mem_filterMap, reserved?_eq_some, World.history,
    mem_historyOf]

theorem mem_releases {w : TerminalWorld} {pid : ℕ} :
    pid ∈ releases w ↔ .release ∈ calls (w.history pid) := by
  simp only [releases, List.mem_filterMap, released?_eq_some, World.history,
    mem_calls_historyOf]

section Runs
variable {host : TerminalHost} {w : TerminalWorld}

theorem logged (hw : (terminals host).Reaches fresh w) {l l' : List TerminalLogEntry}
    {e : TerminalLogEntry} (hl : w.log = l ++ e :: l') : Follows (historyOf e.pid l) e.op := by
  obtain ⟨t, -, hf⟩ := hw.logged (P := fun _ => Follows) (Q := fun _ h _ => Settled h)
    (handler_follows host) hl
  exact hf

theorem pending_follows (hw : (terminals host).Reaches fresh w) {pid : ℕ} {request : TerminalRequest}
    {op : TerminalOp} {next : TerminalRes op → TerminalProg TerminalAnswer}
    (ht : w.threads pid = some ⟨request, .call op next⟩) : Follows (w.history pid) op :=
  (hw.meets (P := fun _ => Follows) (Q := fun _ h _ => Settled h) (handler_follows host) ht).1

theorem reservations_nodup (hw : (terminals host).Reaches fresh w) : (reservations w).Nodup := by
  apply nodup_filterMap_of_once
  intro l e l' hl e' he' pid hpid hpid'
  obtain ⟨l₁, l₂, rfl⟩ := List.append_of_mem he'
  obtain ⟨rfl, -⟩ := reserved?_eq_some.mp hpid
  obtain ⟨hsame, hentry⟩ := reserved?_eq_some.mp hpid'
  have hlog : w.log = (l ++ e :: l₁) ++ e' :: l₂ := by simp [hl]
  have hfirst := logged hw hlog
  rw [show e'.op = .reserve from congrArg Sigma.fst hentry, hsame] at hfirst
  have hmem : e.entry ∈ historyOf e.pid (l ++ e :: l₁) :=
    mem_historyOf.mpr ⟨e, by simp, rfl, rfl⟩
  rw [show historyOf e.pid (l ++ e :: l₁) = [] from hfirst] at hmem
  exact absurd hmem (by simp)

theorem releases_nodup (hw : (terminals host).Reaches fresh w) : (releases w).Nodup := by
  apply nodup_filterMap_of_once
  intro l e l' hl e' he' pid hpid hpid'
  obtain ⟨l₁, l₂, rfl⟩ := List.append_of_mem he'
  obtain ⟨rfl, hop⟩ := released?_eq_some.mp hpid
  obtain ⟨hsame, hop'⟩ := released?_eq_some.mp hpid'
  have hlog : w.log = (l ++ e :: l₁) ++ e' :: l₂ := by simp [hl]
  have hfirst := logged hw hlog
  rw [hop', hsame] at hfirst
  exact absurd (mem_calls_historyOf.mpr ⟨e, by simp, rfl, hop⟩) hfirst.2.1

theorem releases_subset (hw : (terminals host).Reaches fresh w) : releases w ⊆ reservations w := by
  intro pid hpid
  obtain ⟨e, he, hsome⟩ := List.mem_filterMap.mp hpid
  obtain ⟨rfl, hop⟩ := released?_eq_some.mp hsome
  obtain ⟨l, l', hl⟩ := List.append_of_mem he
  have hrelease := logged hw hl
  rw [hop] at hrelease
  rw [mem_reservations, World.history, hl, historyOf_append]
  exact List.mem_append_left _ hrelease.1

/-- Slots that are held beside the released ones fit in the reservations. -/
theorem length_held_le (hw : (terminals host).Reaches fresh w) {held : List ℕ} (hnodup : held.Nodup)
    (hheld : ∀ pid ∈ held, pid ∈ reservations w ∧ pid ∉ releases w) :
    held.length + (releases w).length ≤ (reservations w).length := by
  have hboth : (held ++ releases w).Nodup :=
    hnodup.append (releases_nodup hw) fun pid hpid => (hheld pid hpid).2
  have hsub : held ++ releases w ⊆ reservations w := by
    intro pid hpid
    rcases List.mem_append.mp hpid with hpid | hpid
    · exact (hheld pid hpid).1
    · exact releases_subset hw hpid
  have hlen := (List.subperm_of_subset hboth hsub).length_le
  rwa [List.length_append] at hlen

/-! ### One call -/

theorem exec_active {choice : TerminalChoice} {s s' : TerminalRegistry} {op : TerminalOp}
    {r : TerminalRes op} (hx : s.exec choice op = some (r, s')) (pid : ℕ) :
    (reserved? ⟨pid, s, op, r⟩ = some pid ∧ released? ⟨pid, s, op, r⟩ = none ∧
      s.active.toNat < maxTerminalSessions ∧ s'.active = s.active + 1) ∨
    (reserved? ⟨pid, s, op, r⟩ = none ∧ released? ⟨pid, s, op, r⟩ = some pid ∧ op = .release ∧
      s'.active = s.active - 1) ∨
    (reserved? ⟨pid, s, op, r⟩ = none ∧ released? ⟨pid, s, op, r⟩ = none ∧
      s'.active = s.active) := by
  cases op with
  | reserve =>
    simp only [TerminalRegistry.exec] at hx
    split at hx
    · next hfree =>
      cases hx
      exact .inl ⟨rfl, rfl, hfree, rfl⟩
    · cases hx
      exact .inr (.inr ⟨rfl, rfl, rfl⟩)
  | release =>
    cases hx
    exact .inr (.inl ⟨rfl, rfl, rfl, rfl⟩)
  | spawnCommand spec =>
    refine .inr (.inr ⟨rfl, rfl, ?_⟩)
    simp only [TerminalRegistry.exec] at hx
    split at hx <;> cases hx <;> rfl
  | wait child =>
    refine .inr (.inr ⟨rfl, rfl, ?_⟩)
    obtain ⟨exit, -, heq⟩ := Option.map_eq_some_iff.mp hx
    cases heq
    rfl
  | _ =>
    cases hx
    exact .inr (.inr ⟨rfl, rfl, rfl⟩)

/-- The ids of the listed sessions. -/
def TerminalRegistry.keys (s : TerminalRegistry) : List String := s.entries.map Prod.fst

theorem exec_keys {choice : TerminalChoice} {s s' : TerminalRegistry} {op : TerminalOp}
    {r : TerminalRes op} (hx : s.exec choice op = some (r, s')) :
    s'.keys = s.keys ∧ (∀ id, op ≠ .unregister id) ∨
    (∃ id, op = .unregister id ∧ s'.keys = s.keys.filter (· ≠ id)) ∨
    ∃ id entry, op = .register id entry ∧ s'.keys = s.keys.filter (· ≠ id) ++ [id] := by
  cases op with
  | register id entry =>
    cases hx
    refine .inr (.inr ⟨id, entry, rfl, ?_⟩)
    simp [TerminalRegistry.keys, List.filter_map, Function.comp_def]
  | unregister id =>
    cases hx
    refine .inr (.inl ⟨id, rfl, ?_⟩)
    simp [TerminalRegistry.keys, List.filter_map, Function.comp_def]
  | reserve =>
    simp only [TerminalRegistry.exec] at hx
    refine .inl ⟨?_, by simp⟩
    split at hx <;> cases hx <;> rfl
  | spawnCommand spec =>
    simp only [TerminalRegistry.exec] at hx
    refine .inl ⟨?_, by simp⟩
    split at hx <;> cases hx <;> rfl
  | wait child =>
    obtain ⟨exit, -, heq⟩ := Option.map_eq_some_iff.mp hx
    cases heq
    exact .inl ⟨rfl, by simp⟩
  | _ =>
    cases hx
    refine .inl ⟨?_, by simp⟩
    simp only [TerminalRegistry.keys]

/-! ### The balance -/

/-- The slot of this handler is the one the listed session stands for. -/
structure Backs (w : TerminalWorld) (id : String) (pid : ℕ) : Prop where
  reserved : pid ∈ reservations w
  unreleased : pid ∉ releases w
  registered : registeredIds (w.history pid) = [id]

structure Balanced (w : TerminalWorld) : Prop where
  counted : w.state.active.toNat + (releases w).length = (reservations w).length
  limited : w.state.active.toNat ≤ maxTerminalSessions
  nodup : w.state.keys.Nodup
  backed : ∀ id ∈ w.state.keys, ∃ pid, Backs w id pid ∧ .unregister id ∉ calls (w.history pid)

theorem Balanced.listed (hw : (terminals host).Reaches fresh w) (hb : Balanced w) :
    w.state.entries.length ≤ w.state.active.toNat := by
  choose! holder hholder using hb.backed
  have hinj : ∀ id ∈ w.state.keys, ∀ id' ∈ w.state.keys, holder id = holder id' → id = id' := by
    intro id hid id' hid' heq
    have hids := (hholder id hid).1.registered
    rw [heq, (hholder id' hid').1.registered] at hids
    exact (List.singleton_inj.mp hids).symm
  have hheld := length_held_le hw (List.Nodup.map_on hinj hb.nodup) fun pid hpid => by
    obtain ⟨id, hid, rfl⟩ := List.mem_map.mp hpid
    exact ⟨(hholder id hid).1.reserved, (hholder id hid).1.unreleased⟩
  rw [List.length_map, TerminalRegistry.keys, List.length_map] at hheld
  have hcounted := hb.counted
  omega

theorem reservations_afterCall (w : TerminalWorld) (pid : ℕ) (request : TerminalRequest)
    (op : TerminalOp) (next : TerminalRes op → TerminalProg TerminalAnswer) (r : TerminalRes op)
    (s : TerminalRegistry) : reservations (w.afterCall pid request op next r s) =
      reservations w ++ (reserved? ⟨pid, w.state, op, r⟩).toList := by
  rw [reservations, World.afterCall_log, List.filterMap_append,
    reservations]
  cases h : reserved? ⟨pid, w.state, op, r⟩ <;> simp [h]

theorem releases_afterCall (w : TerminalWorld) (pid : ℕ) (request : TerminalRequest)
    (op : TerminalOp) (next : TerminalRes op → TerminalProg TerminalAnswer) (r : TerminalRes op)
    (s : TerminalRegistry) : releases (w.afterCall pid request op next r s) =
      releases w ++ (released? ⟨pid, w.state, op, r⟩).toList := by
  rw [releases, World.afterCall_log, List.filterMap_append, releases]
  cases h : released? ⟨pid, w.state, op, r⟩ <;> simp [h]

/-- A slot stands for its session until the session is taken from the list. -/
theorem Backs.afterCall (hw : (terminals host).Reaches fresh w) {id : String} {q : ℕ}
    (hb : Backs w id q) (hlisted : .unregister id ∉ calls (w.history q)) {pid : ℕ}
    {request : TerminalRequest} {op : TerminalOp}
    {next : TerminalRes op → TerminalProg TerminalAnswer}
    (ht : w.threads pid = some ⟨request, .call op next⟩) (hop : op ≠ .unregister id)
    (r : TerminalRes op) (s : TerminalRegistry) :
    Backs (w.afterCall pid request op next r s) id q ∧
      .unregister id ∉ calls ((w.afterCall pid request op next r s).history q) := by
  have hfollows := pending_follows hw ht
  have hmem : q ∈ reservations (w.afterCall pid request op next r s) := by
    rw [reservations_afterCall]
    exact List.mem_append_left _ hb.reserved
  by_cases hq : q = pid
  · subst hq
    have hrelease : op ≠ .release := by
      rintro rfl
      exact hlisted (hfollows.2.2.2 id (by simp [hb.registered]))
    have hregister : registeredId? op = none := by
      cases op with
      | register id' entry => exact absurd (hb.registered.symm.trans hfollows.2.2.1) (by simp)
      | _ => rfl
    refine ⟨⟨hmem, ?_, ?_⟩, ?_⟩
    · rw [releases_afterCall]
      have hnone : released? ⟨q, w.state, op, r⟩ = none := by
        cases op <;> first | rfl | exact absurd rfl hrelease
      rw [hnone, Option.toList_none, List.append_nil]
      exact hb.unreleased
    · rw [w.history_afterCall_self, registeredIds_snoc, hb.registered, hregister]
      rfl
    · rw [w.history_afterCall_self, calls_snoc, List.mem_append, List.mem_singleton, not_or]
      exact ⟨hlisted, fun h => hop h.symm⟩
  · have hhistory := w.history_afterCall_ne request op next r s hq
    refine ⟨⟨hmem, ?_, by rw [hhistory]; exact hb.registered⟩, by rwa [hhistory]⟩
    rw [mem_releases, hhistory, ← mem_releases]
    exact hb.unreleased

/-- A handler that releases a slot holds one. -/
theorem releases_lt (hw : (terminals host).Reaches fresh w) {pid : ℕ} {request : TerminalRequest}
    {next : TerminalRes .release → TerminalProg TerminalAnswer}
    (ht : w.threads pid = some ⟨request, .call .release next⟩) :
    (releases w).length < (reservations w).length := by
  have hfollows := pending_follows hw ht
  have hheld := length_held_le hw (List.nodup_singleton pid) fun q hq => by
    obtain rfl := List.mem_singleton.mp hq
    exact ⟨mem_reservations.mpr hfollows.1, fun h => hfollows.2.1 (mem_releases.mp h)⟩
  rw [List.length_singleton] at hheld
  omega

theorem balanced_afterCall (hw : (terminals host).Reaches fresh w) (hb : Balanced w) {pid : ℕ}
    {choice : TerminalChoice} {request : TerminalRequest} {op : TerminalOp}
    {next : TerminalRes op → TerminalProg TerminalAnswer}
    (ht : w.threads pid = some ⟨request, .call op next⟩) {r : TerminalRes op}
    {s' : TerminalRegistry} (hx : w.state.exec choice op = some (r, s')) :
    Balanced (w.afterCall pid request op next r s') := by
  have hcounted := hb.counted
  have hlimited := hb.limited
  have hcount : s'.active.toNat + (releases (w.afterCall pid request op next r s')).length =
      (reservations (w.afterCall pid request op next r s')).length ∧
      s'.active.toNat ≤ maxTerminalSessions := by
    rw [releases_afterCall, reservations_afterCall]
    rcases exec_active hx pid with ⟨hres, hrel, hfree, hactive⟩ | ⟨hres, hrel, rfl, hactive⟩ |
      ⟨hres, hrel, hactive⟩
    · have hsucc : (w.state.active + 1).toNat = w.state.active.toNat + 1 := by
        rw [maxTerminalSessions] at hfree
        rw [UInt64.toNat_add, UInt64.toNat_one]
        omega
      rw [hres, hrel, hactive, hsucc]
      simp only [Option.toList_some, Option.toList_none, List.length_append, List.length_nil,
        List.length_singleton]
      omega
    · have hheld := releases_lt hw ht
      have hpred : (w.state.active - 1).toNat = w.state.active.toNat - 1 := by
        apply UInt64.toNat_sub_of_le
        rw [UInt64.le_iff_toNat_le, UInt64.toNat_one]
        omega
      rw [hres, hrel, hactive, hpred]
      simp only [Option.toList_some, Option.toList_none, List.length_append, List.length_nil,
        List.length_singleton]
      omega
    · rw [hres, hrel, hactive]
      simp only [Option.toList_none, List.append_nil]
      exact ⟨hcounted, hlimited⟩
  have hold : ∀ id ∈ w.state.keys, op ≠ .unregister id → ∃ q,
      Backs (w.afterCall pid request op next r s') id q ∧
        .unregister id ∉ calls ((w.afterCall pid request op next r s').history q) := by
    intro id hid hop
    obtain ⟨q, hq, hlisted⟩ := hb.backed id hid
    exact ⟨q, hq.afterCall hw hlisted ht hop r s'⟩
  refine ⟨hcount.1, hcount.2, ?_, fun id hid => ?_⟩
  · rw [World.afterCall_state]
    rcases exec_keys hx with ⟨hkeys, -⟩ | ⟨id, -, hkeys⟩ | ⟨id, entry, -, hkeys⟩
    · rw [hkeys]
      exact hb.nodup
    · rw [hkeys]
      exact hb.nodup.filter _
    · rw [hkeys]
      refine (hb.nodup.filter _).append (List.nodup_singleton id) fun id' hmem hid' => ?_
      simp only [List.mem_filter, List.mem_singleton, decide_eq_true_eq] at hmem hid'
      exact hmem.2 hid'
  · rw [World.afterCall_state] at hid
    rcases exec_keys hx with ⟨hkeys, hother⟩ | ⟨id', rfl, hkeys⟩ | ⟨id', entry, rfl, hkeys⟩
    · exact hold id (hkeys ▸ hid) (hother id)
    · rw [hkeys, List.mem_filter] at hid
      refine hold id hid.1 fun heq => ?_
      simp only [TerminalOp.unregister.injEq] at heq
      simp [heq] at hid
    · rw [hkeys, List.mem_append, List.mem_singleton] at hid
      rcases hid with hid | rfl
      · exact hold id (List.mem_filter.mp hid).1 (by simp)
      -- The session just listed is that of the handler that lists it.
      · have hfollows := pending_follows hw ht
        refine ⟨pid, ⟨?_, ?_, ?_⟩, ?_⟩
        · rw [reservations_afterCall]
          exact List.mem_append_left _ (mem_reservations.mpr hfollows.1)
        · rw [mem_releases, w.history_afterCall_self, calls_snoc]
          simp [hfollows.2.1]
        · rw [w.history_afterCall_self, registeredIds_snoc, hfollows.2.2.1]
          rfl
        · rw [w.history_afterCall_self, calls_snoc]
          simp [hfollows.2.2.2 id]

/-- The balance is a matter of the log, the list and the counter. -/
theorem Balanced.congr {v : TerminalWorld} (hb : Balanced v) (hlog : w.log = v.log)
    (hkeys : w.state.keys = v.state.keys) (hactive : w.state.active = v.state.active) :
    Balanced w := by
  have hres : reservations w = reservations v := congrArg (List.filterMap reserved?) hlog
  have hrel : releases w = releases v := congrArg (List.filterMap released?) hlog
  have hhistory : ∀ pid, w.history pid = v.history pid := fun pid => congrArg (historyOf pid) hlog
  refine ⟨?_, hactive ▸ hb.limited, hkeys ▸ hb.nodup, fun id hid => ?_⟩
  · rw [hactive, hrel, hres]
    exact hb.counted
  · obtain ⟨pid, hp, hlisted⟩ := hb.backed id (hkeys ▸ hid)
    refine ⟨pid, ⟨hres ▸ hp.reserved, hrel ▸ hp.unreleased, ?_⟩, by rwa [hhistory]⟩
    rw [hhistory]
    exact hp.registered

theorem balanced (hw : (terminals host).Reaches fresh w) : Balanced w := by
  refine hw.induct Balanced ⟨rfl, Nat.zero_le _, List.nodup_nil, fun id hid => ?_⟩
    fun v a hv hb => ?_
  · exact absurd hid (by simp [fresh, World.init, TerminalRegistry.keys])
  rcases (terminals host).step_cases v a with hs | ⟨pid, request, rfl, hp, hs⟩ |
    ⟨pid, choice, request, op, next, r, s', rfl, ht, hx, hs⟩ | ⟨move, rfl, hs⟩
  · rw [hs]
    exact hb
  · rw [hs]
    exact hb.congr rfl rfl rfl
  · rw [hs]
    exact balanced_afterCall hv hb ht hx
  · rw [hs]
    exact hb.congr rfl rfl rfl

/-! ### The end of the children -/

def TerminalRegistry.AllEnded (s : TerminalRegistry) : Prop :=
  ∀ child < s.children, (s.ended.lookup child).isSome

/-- The children that handlers know of have been spawned. -/
theorem spawned_lt (hw : (terminals host).Reaches fresh w) {e : TerminalLogEntry} (he : e ∈ w.log)
    {spec : CommandSpec} {child : ℕ} (hentry : e.entry = ⟨.spawnCommand spec, .ok child⟩) :
    child < w.state.children := by
  obtain ⟨l, l', hl⟩ := List.append_of_mem he
  obtain ⟨pid, before, op, res⟩ := e
  obtain ⟨rfl, hres⟩ := Sigma.mk.inj hentry
  obtain rfl := eq_of_heq hres
  refine hw.holds_since (J := fun s => child < s.children) (fun _ => True) hl (fun _ _ => trivial)
    ?_ ?_ fun _ _ h => h
  · intro choice s' hx
    change before.exec choice (.spawnCommand spec) = _ at hx
    simp only [TerminalRegistry.exec] at hx
    split at hx <;> cases hx
    exact Nat.lt_succ_self _
  · intro v q request op next choice r s' hv ht hx _ hlt
    change v.state.exec choice op = _ at hx
    cases op with
    | spawnCommand spec =>
      simp only [TerminalRegistry.exec] at hx
      split at hx <;> cases hx
      · exact hlt
      · exact Nat.lt_succ_of_lt hlt
    | reserve =>
      simp only [TerminalRegistry.exec] at hx
      split at hx <;> cases hx <;> exact hlt
    | wait child =>
      obtain ⟨exit, -, heq⟩ := Option.map_eq_some_iff.mp hx
      cases heq
      exact hlt
    | _ =>
      cases hx
      exact hlt

/-- Once all children have ended, no handler waits. -/
theorem unblocked (hw : (terminals host).Reaches fresh w) (hended : w.state.AllEnded) {pid : ℕ}
    {op : TerminalOp} (hop : w.pending? pid = some op) (choice : TerminalChoice) :
    (w.state.exec choice op).isSome := by
  obtain ⟨request, next, ht⟩ := World.pending?_eq_some hop
  cases op with
  | wait child =>
    obtain ⟨spec, hspec⟩ := pending_follows hw ht
    obtain ⟨e, he, -, hentry⟩ := mem_historyOf.mp hspec
    obtain ⟨code, hcode⟩ := Option.isSome_iff_exists.mp (hended child (spawned_lt hw he hentry))
    cases hfault : choice.fault <;> simp [TerminalRegistry.exec, TerminalRegistry.awaitEnd, hfault, hcode]
  | reserve =>
    simp only [TerminalRegistry.exec]
    split <;> rfl
  | spawnCommand spec =>
    simp only [TerminalRegistry.exec]
    split <;> rfl
  | _ => rfl

/-- A handler that makes no more calls has given its slot back. -/
theorem released_of_ended (hw : (terminals host).Reaches fresh w) {pid : ℕ}
    (hreserved : pid ∈ reservations w) (hidle : w.pending? pid = none) : pid ∈ releases w := by
  have hmem := mem_reservations.mp hreserved
  obtain ⟨e, he, rfl, -⟩ := mem_historyOf.mp hmem
  obtain ⟨l, l', hl⟩ := List.append_of_mem he
  obtain ⟨t, ht, -⟩ := hw.logged (P := fun _ => Follows) (Q := fun _ h _ => Settled h)
    (handler_follows host) hl
  have hrest := hw.meets (P := fun _ => Follows) (Q := fun _ h _ => Settled h)
    (handler_follows host) ht
  obtain ⟨request, rest⟩ := t
  rw [mem_releases]
  cases rest with
  | ret answer => exact hrest hmem
  | fail error => exact hrest hmem
  | call op next => exact absurd (World.pending?_eq ht) (by simp [hidle])

theorem active_eq_zero (hw : (terminals host).Reaches fresh w)
    (hidle : ∀ pid ∈ reservations w, w.pending? pid = none) : w.state.active = 0 := by
  have hsub : reservations w ⊆ releases w :=
    fun pid hpid => released_of_ended hw hpid (hidle pid hpid)
  have hlen := (List.subperm_of_subset (reservations_nodup hw) hsub).length_le
  have hcounted := (balanced hw).counted
  apply UInt64.toNat_inj.mp
  rw [UInt64.toNat_zero]
  omega

end Runs

/-- The slots of a world: `held` is what the counter counts, and each release is the only one
of its reservation, after the start has failed or the reader has waited for its child. -/
structure SlotsConserved (w : TerminalWorld) : Prop where
  listed : w.state.entries.length ≤ w.state.active.toNat
  limited : w.state.active.toNat ≤ maxTerminalSessions
  held : w.state.active.toNat + (releases w).length = (reservations w).length
  once : (reservations w).Nodup ∧ (releases w).Nodup
  owed : ∀ l e l', w.log = l ++ e :: l' → e.op = .release →
    ⟨.reserve, true⟩ ∈ historyOf e.pid l ∧
      (StartFailed (historyOf e.pid l) ∨ Reaped (historyOf e.pid l))
  returned : ∀ pid ∈ reservations w, w.pending? pid = none → pid ∈ releases w
  unblocked : w.state.AllEnded → ∀ pid op, w.pending? pid = some op →
    ∀ choice, (w.state.exec choice op).isSome
  zero : (∀ pid ∈ reservations w, w.pending? pid = none) → w.state.active = 0

end JustRun.Terminal
