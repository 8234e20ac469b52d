import JustRun.Settings.Overlap

/-!
# No update is lost

The settings file is that of the settings in memory as long as its last writer is also the last
to store; the settings in memory keep what a call has stored until another edits it.
-/
namespace JustRun.Settings
open Machine Concurrency Concurrency.Prog Concurrency.System

variable {Other : Type}

abbrev SettingsLogEntry (Other : Type) :=
  LogEntry (SettingsState Other) (SettingsOp Other) SettingsRes

/-- The handler that has opened or written this file here. -/
def touched? (file : Path) : SettingsLogEntry Other → Option ℕ
  | ⟨pid, _, .createFile path, .ok _⟩ => if path = file then some pid else none
  | ⟨pid, _, .writeAll path _, _⟩ => if path = file then some pid else none
  | _ => none

def lastWriter (file : Path) (w : SettingsWorld Other) : Option ℕ :=
  (w.log.filterMap (touched? file)).getLast?

/-- The handler that has stored settings here. -/
def stored? : SettingsLogEntry Other → Option ℕ
  | ⟨pid, _, .store _, _⟩ => some pid
  | _ => none

def HasStored (w : SettingsWorld Other) (pid : ℕ) : Prop := pid ∈ w.log.filterMap stored?

instance (w : SettingsWorld Other) (pid : ℕ) : Decidable (HasStored w pid) :=
  inferInstanceAs (Decidable (_ ∈ _))

def read? : Entry (SettingsOp Other) SettingsRes → Option (AppSettings Other)
  | ⟨.get, s⟩ => some s
  | _ => none

/-- The edit that a handler works for. -/
def editOf? (w : SettingsWorld Other) (pid : ℕ) : Option (AppSettings Other → AppSettings Other) :=
  (w.request? pid).bind SettingsRequest.edit?

/-! ### The condition -/

/-- A handler that stores finds in memory what it has read, up to what it edits, and nobody who
has stored already has written the file since; one that writes finds no longer file. -/
def Finds (host : Host Other) (w : SettingsWorld Other) (pid : ℕ) : SettingsOp Other → Prop
  | .writeAll path content => path = host.settingsFile →
    ∀ old ∈ w.state.files path, old.length ≤ (bytes content).length
  | .store _ => (∀ s ∈ (w.history pid).filterMap read?, ∀ f ∈ editOf? w pid,
      f w.state.memory = f s) ∧
    ∀ q ∈ lastWriter host.settingsFile w, q ≠ pid → ¬ HasStored w q
  | _ => True

/-- The step of a run in which no call stores over another. -/
def Undisturbed (host : Host Other) (w : SettingsWorld Other) : SettingsAction Other → Prop
  | .exec pid _ => ∀ op ∈ w.pending? pid, Finds host w pid op
  | _ => True

instance [DecidableEq Other] (host : Host Other) (w : SettingsWorld Other) (pid : ℕ)
    (op : SettingsOp Other) : Decidable (Finds host w pid op) :=
  match op with
  | .writeAll path content => inferInstanceAs (Decidable (path = host.settingsFile →
      ∀ old ∈ w.state.files path, old.length ≤ (bytes content).length))
  | .store _ => inferInstanceAs (Decidable ((∀ s ∈ (w.history pid).filterMap read?,
      ∀ f ∈ editOf? w pid, f w.state.memory = f s) ∧
        ∀ q ∈ lastWriter host.settingsFile w, q ≠ pid → ¬ HasStored w q))
  | .get | .pathExists _ | .readToString _ | .removeFile _ | .createDirs _ | .createFile _
  | .readMode _ | .setMode _ | .currentExe | .runId | .bootout _ | .bootstrap .. 
  | .setRuntimeProxy _ => isTrue trivial

instance [DecidableEq Other] (host : Host Other) (w : SettingsWorld Other)
    (a : SettingsAction Other) : Decidable (Undisturbed host w a) :=
  match a with
  | .exec pid _ => inferInstanceAs (Decidable (∀ op ∈ w.pending? pid, Finds host w pid op))
  | .spawn .. | .env _ => isTrue trivial

/-! ### What is kept -/

/-- The file is the text of the settings, or is read as them. -/
def Holds (serde : Serde Other) (content : Option (List UInt8)) (s : AppSettings Other) : Prop :=
  content = some (bytes (serde.toStringPretty s)) ∨
    (content.bind decodeText).bind serde.fromStr = some s

/-- All calls have returned `Ok`. -/
def AllReturned (w : SettingsWorld Other) : Prop :=
  ∀ pid t, w.threads pid = some t → ∃ a, t.rest = .ret a

/-- Where the entry stores the settings of a call, the edit of the call leaves `g` as it is. -/
def Leaves {β : Type} (g : AppSettings Other → β) (w : SettingsWorld Other)
    (e : SettingsLogEntry Other) : Prop :=
  stored? e = some e.pid → ∀ f ∈ editOf? w e.pid, ∀ s, g (f s) = g s

def tagsOf (id : String) (s : AppSettings Other) : Option (List String) := (getTags s).lookup id

/-- The tags that a device has after `set_tags`. -/
def wantedTags (tags : List String) : Option (List String) :=
  if normalizeTags tags = [] then none else some (normalizeTags tags)

/-- The tags of a `set_tags` for this device whose settings are stored here. -/
def setBy? (w : SettingsWorld Other) (id : String) (e : SettingsLogEntry Other) :
    Option (List String) :=
  (stored? e).bind fun pid => match w.request? pid with
    | some (.setTags deviceId tags) => if trim deviceId = id then some tags else none
    | _ => none

/-- The tags of the last `set_tags` for this device. -/
def lastSet? (w : SettingsWorld Other) (id : String) : Option (List String) :=
  w.log.reverse.findSome? (setBy? w id)

/-- What no interleaving should lose, once all calls have returned: the file, the tags, and each
field `g` since any completed update whose successors do not edit it. -/
structure Kept (host : Host Other) (serde : Serde Other) (w : SettingsWorld Other) : Prop where
  file : Holds serde (w.state.files host.settingsFile) w.state.memory
  tags : ∀ id tags, lastSet? w id = some tags → tagsOf id w.state.memory = wantedTags tags
  fields : ∀ (β : Type) (g : AppSettings Other → β) l e l' s, w.log = l ++ e :: l' →
    e.op = .store s → (∀ e' ∈ l', Leaves g w e') → g w.state.memory = g s

/-! ### The edits -/

theorem lookup_filter_of_mem {p : String × List String → Bool} {record : TagRecord} {id : String}
    (hp : ∀ tags, p (id, tags) = true) : (record.filter p).lookup id = record.lookup id := by
  induction record with
  | nil => rfl
  | cons x record ih =>
    obtain ⟨key, tags⟩ := x
    by_cases hkey : id = key
    · subst hkey
      simp [hp]
    · have hne : (id == key) = false := by simpa using hkey
      by_cases hx : p (key, tags) = true
      · simp [hx, List.lookup_cons, hne, ih]
      · simp [hx, List.lookup_cons, hne, ih]

theorem lookup_filter_of_not_mem {p : String × List String → Bool} {record : TagRecord}
    {id : String} (hp : ∀ tags, p (id, tags) = false) : (record.filter p).lookup id = none := by
  rw [List.lookup_eq_none_iff]
  intro x hx
  obtain ⟨-, hpx⟩ := List.mem_filter.mp hx
  rw [bne_iff_ne]
  rintro rfl
  exact absurd (hp x.2) (by simp [hpx])

theorem lookup_append {record record' : TagRecord} {id : String} :
    (record ++ record').lookup id = (record.lookup id).or (record'.lookup id) := by
  induction record with
  | nil => rfl
  | cons x record ih =>
    obtain ⟨key, tags⟩ := x
    rw [List.cons_append, List.lookup_cons, List.lookup_cons]
    cases hkey : id == key
    · exact ih
    · rfl

theorem lookup_mergeTagRecord (existing : Option TagRecord) (id : String) (tags : List String)
    (id' : String) : (mergeTagRecord existing id tags).lookup id' =
      if id' = id then wantedTags tags else (existing.getD []).lookup id' := by
  unfold mergeTagRecord wantedTags
  by_cases hid : id' = id
  · subst hid
    rw [if_pos rfl]
    split
    · exact lookup_filter_of_not_mem (by simp)
    · rw [TagRecord.insert, lookup_append, lookup_filter_of_not_mem (by simp [String.lt_irrefl]),
        List.lookup_cons_self, Option.none_or]
  · rw [if_neg hid]
    split
    · exact lookup_filter_of_mem (by simp [hid])
    · have hne : (id' == id) = false := by simpa using hid
      rw [TagRecord.insert, lookup_append, List.lookup_cons, hne]
      by_cases hlt : id' < id
      · rw [lookup_filter_of_mem (by simp [hlt]), lookup_filter_of_not_mem (by simp [hlt])]
        exact Option.or_none
      · rw [lookup_filter_of_not_mem (by simp [hlt]), lookup_filter_of_mem (by simp [hlt, hid])]
        rfl

/-- `set_tags` changes the tags of its device, and only these. -/
theorem tagsOf_withTags (id : String) (tags : List String) (s : AppSettings Other) (id' : String) :
    tagsOf id' (withTags id tags s) = if id' = id then wantedTags tags else tagsOf id' s := by
  have hmerged := lookup_mergeTagRecord s.deviceTags id tags id'
  unfold tagsOf getTags withTags
  dsimp only
  split
  · next hempty =>
    rw [hempty] at hmerged
    exact hmerged
  · exact hmerged

/-! ### One call -/

theorem touched?_eq_some {file : Path} {e : SettingsLogEntry Other} {q : ℕ}
    (h : touched? file e = some q) : q = e.pid ∧ (e.entry = ⟨.createFile file, .ok ()⟩ ∨
      ∃ content, e.op = .writeAll file content) := by
  obtain ⟨pid, before, op, res⟩ := e
  cases op with
  | createFile path =>
    cases res with
    | error error => cases h
    | ok created =>
      simp only [touched?, Option.ite_none_right_eq_some, Option.some.injEq] at h
      obtain ⟨rfl, rfl⟩ := h
      exact ⟨rfl, .inl rfl⟩
  | writeAll path content =>
    simp only [touched?, Option.ite_none_right_eq_some, Option.some.injEq] at h
    obtain ⟨rfl, rfl⟩ := h
    exact ⟨rfl, .inr ⟨content, rfl⟩⟩
  | _ => cases h

theorem stored?_eq_some {e : SettingsLogEntry Other} {q : ℕ} (h : stored? e = some q) :
    q = e.pid ∧ ∃ new, e.op = .store new := by
  obtain ⟨pid, before, op, res⟩ := e
  cases op with
  | store new =>
    cases h
    exact ⟨rfl, new, rfl⟩
  | _ => cases h

theorem stored?_store (pid : ℕ) (s new : _) (r : SettingsRes (.store new)) :
    stored? (⟨pid, s, .store new, r⟩ : SettingsLogEntry Other) = some pid := rfl

theorem setBy?_eq_some {w : SettingsWorld Other} {id : String} {e : SettingsLogEntry Other}
    {tags : List String} : setBy? w id e = some tags ↔ stored? e = some e.pid ∧
      ∃ deviceId, trim deviceId = id ∧ w.request? e.pid = some (.setTags deviceId tags) := by
  unfold setBy?
  constructor
  · intro h
    obtain ⟨pid, hs, h⟩ := Option.bind_eq_some_iff.mp h
    obtain rfl := (stored?_eq_some hs).1
    refine ⟨hs, ?_⟩
    split at h
    · next deviceId tags' hrequest =>
      simp only [Option.ite_none_right_eq_some, Option.some.injEq] at h
      exact ⟨deviceId, h.1, h.2 ▸ hrequest⟩
    · cases h
  · rintro ⟨hs, deviceId, hid, hrequest⟩
    simp [hs, hrequest, hid]

section Exec
variable {choice : SettingsChoice} {s s' : SettingsState Other} {op : SettingsOp Other}
  {r : SettingsRes op}

theorem exec_memory (hx : s.exec choice op = some (r, s')) :
    (∃ new, op = .store new ∧ s'.memory = new) ∨ s'.memory = s.memory := by
  cases op with
  | store new =>
    cases hx
    exact .inl ⟨new, rfl, rfl⟩
  | removeFile path =>
    obtain rfl : _ = s' := congrArg Prod.snd (Option.some.inj hx)
    rcases s.remove_cases choice path with h | h <;> simp [h]
  | createFile path =>
    obtain rfl : _ = s' := congrArg Prod.snd (Option.some.inj hx)
    rcases s.create_cases choice path with ⟨error, h⟩ | h <;> simp [h]
  | writeAll path content =>
    obtain ⟨written, rfl, -⟩ := s.write_cases hx
    exact .inr rfl
  | runId | bootout | bootstrap =>
    obtain rfl : _ = s' := congrArg Prod.snd (Option.some.inj hx)
    obtain ⟨loaded, h⟩ := s.command_cases choice _
    rw [h]
    exact .inr rfl
  | _ =>
    cases hx
    exact .inr rfl

/-- What a call can do to a file. -/
theorem exec_file (hx : s.exec choice op = some (r, s')) (pid : ℕ) (file : Path)
    (hremove : op ≠ .removeFile file) :
    (touched? file ⟨pid, s, op, r⟩ = none ∧ s'.files file = s.files file) ∨
    (touched? file ⟨pid, s, op, r⟩ = some pid ∧ op = .createFile file ∧ s'.files file = some []) ∨
    ∃ content written, touched? file ⟨pid, s, op, r⟩ = some pid ∧ op = .writeAll file content ∧
      s'.files file = (s.files file).map (overlay written) ∧
      ((⟨op, r⟩ : Entry (SettingsOp Other) SettingsRes) = ⟨.writeAll file content, .ok ()⟩ →
        written = bytes content) := by
  cases op with
  | removeFile path =>
    obtain rfl : _ = s' := congrArg Prod.snd (Option.some.inj hx)
    have hne : file ≠ path := fun h => hremove (by rw [h])
    refine .inl ⟨rfl, ?_⟩
    rcases s.remove_cases choice path with h | h <;> simp [h, Function.update_of_ne hne]
  | createFile path =>
    have hr : s.create choice path = (r, s') := Option.some.inj hx
    rcases s.create_cases choice path with ⟨error, h⟩ | h
    · obtain ⟨rfl, rfl⟩ := Prod.mk.inj (hr.symm.trans h)
      exact .inl ⟨rfl, rfl⟩
    · obtain ⟨rfl, rfl⟩ := Prod.mk.inj (hr.symm.trans h)
      by_cases hpath : path = file
      · subst hpath
        exact .inr (.inl ⟨by simp [touched?], rfl, by simp⟩)
      · exact .inl ⟨by simp [touched?, hpath], by simp [Function.update_of_ne (Ne.symm hpath)]⟩
  | writeAll path content =>
    obtain ⟨written, rfl, hwritten⟩ := s.write_cases hx
    by_cases hpath : path = file
    · subst hpath
      refine .inr (.inr ⟨content, written, by simp [touched?], rfl, by simp, fun h => ?_⟩)
      exact hwritten (eq_of_heq (Sigma.mk.inj h).2)
    · exact .inl ⟨by simp [touched?, hpath], by simp [Function.update_of_ne (Ne.symm hpath)]⟩
  | runId | bootout | bootstrap =>
    obtain rfl : _ = s' := congrArg Prod.snd (Option.some.inj hx)
    obtain ⟨loaded, h⟩ := s.command_cases choice _
    rw [h]
    exact .inl ⟨rfl, rfl⟩
  | _ =>
    cases hx
    exact .inl ⟨rfl, rfl⟩

end Exec

/-! ### Runs -/

section Runs
variable {host : Host Other} {serde : Serde Other} {s₀ : SettingsState Other}
  {w : SettingsWorld Other}

theorem pending_follows (hw : (calls host serde).Reaches (.init s₀) w) {pid : ℕ}
    {request : SettingsRequest Other} {op : SettingsOp Other}
    {next : SettingsRes op → SettingsProg Other (SettingsAnswer Other)}
    (ht : w.threads pid = some ⟨request, .call op next⟩) :
    Follows host serde request (w.history pid) op :=
  (hw.meets (P := Follows host serde) (Q := fun _ => Settled host) (fun _ => handler_follows _)
    ht).1

theorem lastWriter_afterCall (w : SettingsWorld Other) (file : Path) (pid : ℕ)
    (request : SettingsRequest Other) (op : SettingsOp Other)
    (next : SettingsRes op → SettingsProg Other (SettingsAnswer Other)) (r : SettingsRes op)
    (s : SettingsState Other) : lastWriter file (w.afterCall pid request op next r s) =
      (touched? file ⟨pid, w.state, op, r⟩).or (lastWriter file w) := by
  rw [lastWriter, World.afterCall_log, List.filterMap_append, lastWriter]
  cases h : touched? file ⟨pid, w.state, op, r⟩ <;> simp [h]

theorem hasStored_afterCall (w : SettingsWorld Other) (pid : ℕ) (request : SettingsRequest Other)
    (op : SettingsOp Other) (next : SettingsRes op → SettingsProg Other (SettingsAnswer Other))
    (r : SettingsRes op) (s : SettingsState Other) (q : ℕ) :
    HasStored (w.afterCall pid request op next r s) q ↔
      HasStored w q ∨ stored? ⟨pid, w.state, op, r⟩ = some q := by
  rw [HasStored, World.afterCall_log, List.filterMap_append, List.mem_append, HasStored]
  cases h : stored? ⟨pid, w.state, op, r⟩ <;> simp [h, eq_comm]

/-- A handler in flight has stored only what is in its history. -/
theorem hasStored_iff {pid : ℕ} : HasStored w pid ↔ ∃ new, ⟨.store new, ()⟩ ∈ w.history pid := by
  simp only [HasStored, List.mem_filterMap, World.history, mem_historyOf]
  constructor
  · rintro ⟨e, he, hsome⟩
    obtain ⟨rfl, new, hop⟩ := stored?_eq_some hsome
    obtain ⟨pid, before, op, res⟩ := e
    cases hop
    exact ⟨new, _, he, rfl, rfl⟩
  · rintro ⟨new, e, he, rfl, hentry⟩
    obtain ⟨pid, before, op, res⟩ := e
    obtain rfl : op = .store new := congrArg Sigma.fst hentry
    exact ⟨_, he, rfl⟩

theorem lastWriter_isSome {file : Path} {e : SettingsLogEntry Other} (he : e ∈ w.log)
    (hentry : e.entry = ⟨.createFile file, .ok ()⟩) : (lastWriter file w).isSome := by
  obtain ⟨pid, before, op, res⟩ := e
  obtain ⟨rfl, hres⟩ := Sigma.mk.inj hentry
  obtain rfl := eq_of_heq hres
  rw [lastWriter, List.getLast?_isSome]
  apply List.ne_nil_of_mem (a := pid)
  rw [List.mem_filterMap]
  exact ⟨_, he, by simp [touched?]⟩

theorem mem_track {file : Path} {h : SettingsHistory Other} {x : Entry (SettingsOp Other) SettingsRes}
    (hx : x ∈ h) (htracked : isTracked file x.1 = true) : x ∈ track file h :=
  List.mem_filter.mpr ⟨hx, htracked⟩

/-- How the settings file, its last writer and memory go together. -/
structure Tidy (host : Host Other) (serde : Serde Other) (s₀ : SettingsState Other)
    (w : SettingsWorld Other) : Prop where
  untouched : lastWriter host.settingsFile w = none →
    w.state.files host.settingsFile = s₀.files host.settingsFile ∧ w.state.memory = s₀.memory
  present : (lastWriter host.settingsFile w).isSome → (w.state.files host.settingsFile).isSome
  written : ∀ q, lastWriter host.settingsFile w = some q → ∀ content,
    ⟨.writeAll host.settingsFile content, .ok ()⟩ ∈ w.history q →
      w.state.files host.settingsFile = some (bytes content)
  stored : ∀ q, lastWriter host.settingsFile w = some q → HasStored w q →
    w.state.files host.settingsFile = some (bytes (serde.toStringPretty w.state.memory))

theorem Tidy.congr {v : SettingsWorld Other} (hv : Tidy host serde s₀ v) (hstate : w.state = v.state)
    (hlog : w.log = v.log) : Tidy host serde s₀ w := by
  have hlast : lastWriter host.settingsFile w = lastWriter host.settingsFile v :=
    congrArg (fun log => (log.filterMap (touched? host.settingsFile)).getLast?) hlog
  have hhistory : ∀ pid, w.history pid = v.history pid := fun pid => congrArg (historyOf pid) hlog
  refine ⟨?_, ?_, fun q hq content hmem => ?_, fun q hq hs => ?_⟩
  · rw [hlast, hstate]
    exact hv.untouched
  · rw [hlast, hstate]
    exact hv.present
  · rw [hstate]
    exact hv.written q (hlast ▸ hq) content (hhistory q ▸ hmem)
  · rw [hstate]
    refine hv.stored q (hlast ▸ hq) ?_
    rwa [HasStored, hlog] at hs

section Call
variable {pid : ℕ} {choice : SettingsChoice} {request : SettingsRequest Other}
  {op : SettingsOp Other} {next : SettingsRes op → SettingsProg Other (SettingsAnswer Other)}
  {r : SettingsRes op} {s' : SettingsState Other}

/-- A handler that opens or writes the file has neither stored nor written it before. -/
theorem fresh_of_touched (hw : (calls host serde).Reaches (.init s₀) w)
    (ht : w.threads pid = some ⟨request, .call op next⟩)
    (htouched : touched? host.settingsFile ⟨pid, w.state, op, r⟩ = some pid) :
    ¬ HasStored w pid ∧ ∀ content, ⟨.writeAll host.settingsFile content, .ok ()⟩ ∉ w.history pid := by
  have htracked : ∀ content, isTracked host.settingsFile
      (.writeAll host.settingsFile content : SettingsOp Other) = true := by
    simp [isTracked]
  rw [hasStored_iff]
  have hfollows := pending_follows hw ht
  rcases (touched?_eq_some htouched).2 with hentry | ⟨content, hop⟩
  · obtain rfl : op = .createFile host.settingsFile := congrArg Sigma.fst hentry
    obtain ⟨s, f, -, htrack⟩ := hfollows rfl
    refine ⟨?_, fun content hmem => ?_⟩
    · rintro ⟨new, hmem⟩
      have hmem : _ ∈ track host.settingsFile (w.history pid) := mem_track hmem rfl
      simp [htrack] at hmem
    · have hmem := mem_track hmem (htracked content)
      simp [htrack] at hmem
  · obtain rfl : op = .writeAll host.settingsFile content := hop
    obtain ⟨s, f, -, -, htrack⟩ := hfollows rfl
    refine ⟨?_, fun content hmem => ?_⟩
    · rintro ⟨new, hmem⟩
      have hmem : _ ∈ track host.settingsFile (w.history pid) := mem_track hmem rfl
      simp [htrack] at hmem
    · have hmem := mem_track hmem (htracked content)
      simp [htrack] at hmem

theorem touched?_none_of_store {new : AppSettings Other} {file : Path} {pid : ℕ}
    {s : SettingsState Other} {r : SettingsRes (.store new)} :
    touched? file (⟨pid, s, .store new, r⟩ : SettingsLogEntry Other) = none := rfl

/-- The write that a store presupposes. -/
theorem written_of_store (hw : (calls host serde).Reaches (.init s₀) w) {new : AppSettings Other}
    {next : SettingsRes (.store new) → SettingsProg Other (SettingsAnswer Other)}
    (ht : w.threads pid = some ⟨request, .call (.store new) next⟩) :
    ⟨.createFile host.settingsFile, .ok ()⟩ ∈ w.history pid ∧
      ⟨.writeAll host.settingsFile (serde.toStringPretty new), .ok ()⟩ ∈ w.history pid := by
  obtain ⟨s, f, -, -, htrack⟩ := pending_follows hw ht
  have hmem : ∀ x ∈ track host.settingsFile (w.history pid), x ∈ w.history pid :=
    fun x hx => (List.mem_filter.mp hx).1
  rw [htrack] at hmem
  exact ⟨hmem _ (by simp), hmem _ (by simp)⟩

theorem created_of_write (hw : (calls host serde).Reaches (.init s₀) w) {content : String}
    {next : SettingsRes (.writeAll host.settingsFile content) →
      SettingsProg Other (SettingsAnswer Other)}
    (ht : w.threads pid = some ⟨request, .call (.writeAll host.settingsFile content) next⟩) :
    (lastWriter host.settingsFile w).isSome := by
  obtain ⟨s, f, -, -, htrack⟩ := pending_follows hw ht rfl
  have hmem : (⟨.createFile host.settingsFile, .ok ()⟩ : Entry (SettingsOp Other) SettingsRes) ∈
      track host.settingsFile (w.history pid) := by
    rw [htrack]
    simp
  obtain ⟨e, he, -, hentry⟩ := mem_historyOf.mp (List.mem_filter.mp hmem).1
  exact lastWriter_isSome he hentry

theorem tidy_store (hw : (calls host serde).Reaches (.init s₀) w) (hv : Tidy host serde s₀ w)
    {new : AppSettings Other}
    {next : SettingsRes (.store new) → SettingsProg Other (SettingsAnswer Other)}
    (ht : w.threads pid = some ⟨request, .call (.store new) next⟩)
    (hfinds : ∀ q ∈ lastWriter host.settingsFile w, q ≠ pid → ¬ HasStored w q) :
    Tidy host serde s₀ (w.afterCall pid request (.store new) next ()
      { w.state with memory := new }) := by
  obtain ⟨hcreated, hwritten⟩ := written_of_store hw ht
  have hlast : lastWriter host.settingsFile (w.afterCall pid request (.store new) next ()
      { w.state with memory := new }) = lastWriter host.settingsFile w := by
    rw [lastWriter_afterCall, touched?_none_of_store, Option.none_or]
  have hsome : (lastWriter host.settingsFile w).isSome := by
    obtain ⟨e, he, -, hentry⟩ := mem_historyOf.mp hcreated
    exact lastWriter_isSome he hentry
  refine ⟨fun hnone => ?_, fun _ => hv.present hsome, fun q hq content hmem => ?_,
    fun q hq hs => ?_⟩
  · rw [hlast] at hnone
    rw [hnone] at hsome
    cases hsome
  · rw [hlast] at hq
    refine hv.written q hq content ?_
    by_cases hqp : q = pid
    · subst hqp
      rw [w.history_afterCall_self] at hmem
      simpa using hmem
    · rwa [w.history_afterCall_ne _ _ _ _ _ hqp] at hmem
  · rw [hlast] at hq
    by_cases hqp : q = pid
    · subst hqp
      exact hv.written q hq _ hwritten
    · rw [hasStored_afterCall, stored?_store] at hs
      rcases hs with hs | hs
      · exact absurd hs (hfinds q hq hqp)
      · exact absurd (Option.some.inj hs).symm hqp

/-- Any other call. -/
theorem tidy_call (hw : (calls host serde).Reaches (.init s₀) w) (hv : Tidy host serde s₀ w)
    (ht : w.threads pid = some ⟨request, .call op next⟩)
    (hx : w.state.exec choice op = some (r, s')) (hstore : ∀ new, op ≠ .store new)
    (hfinds : Finds host w pid op) :
    Tidy host serde s₀ (w.afterCall pid request op next r s') := by
  have hmemory : s'.memory = w.state.memory := by
    rcases exec_memory hx with ⟨new, hop, -⟩ | h
    · exact absurd hop (hstore new)
    · exact h
  have hunstored : stored? (⟨pid, w.state, op, r⟩ : SettingsLogEntry Other) = none := by
    cases h : stored? (⟨pid, w.state, op, r⟩ : SettingsLogEntry Other) with
    | none => rfl
    | some q =>
      obtain ⟨-, new, hop⟩ := stored?_eq_some h
      exact absurd hop (hstore new)
  have hremove : op ≠ .removeFile host.settingsFile := by
    rintro rfl
    exact pending_follows hw ht rfl
  have hstored : ∀ q, HasStored (w.afterCall pid request op next r s') q ↔ HasStored w q := by
    intro q
    rw [hasStored_afterCall, hunstored]
    simp
  -- The file and its last writer change together.
  rcases exec_file hx pid host.settingsFile hremove with ⟨htouched, hfile⟩ | htouch
  · have hlast : lastWriter host.settingsFile (w.afterCall pid request op next r s') =
        lastWriter host.settingsFile w := by
      rw [lastWriter_afterCall, htouched, Option.none_or]
    refine ⟨fun hnone => ?_, fun hsome => ?_, fun q hq content hmem => ?_, fun q hq hs => ?_⟩
    · rw [World.afterCall_state, hfile, hmemory]
      exact hv.untouched (hlast ▸ hnone)
    · rw [World.afterCall_state, hfile]
      exact hv.present (hlast ▸ hsome)
    · rw [World.afterCall_state, hfile]
      refine hv.written q (hlast ▸ hq) content ?_
      by_cases hqp : q = pid
      · subst hqp
        rw [w.history_afterCall_self, List.mem_append, List.mem_singleton] at hmem
        rcases hmem with hmem | hmem
        · exact hmem
        · obtain ⟨rfl, -⟩ := Sigma.mk.inj hmem
          simp [touched?] at htouched
      · rwa [w.history_afterCall_ne _ _ _ _ _ hqp] at hmem
    · rw [World.afterCall_state, hfile, hmemory]
      exact hv.stored q (hlast ▸ hq) ((hstored q).mp hs)
  · have htouched : touched? host.settingsFile ⟨pid, w.state, op, r⟩ = some pid := by
      rcases htouch with ⟨h, -⟩ | ⟨content, written, h, -⟩ <;> exact h
    obtain ⟨hfresh, hunwritten⟩ := fresh_of_touched hw ht htouched
    have hlast : lastWriter host.settingsFile (w.afterCall pid request op next r s') = some pid := by
      rw [lastWriter_afterCall, htouched, Option.some_or]
    refine ⟨fun hnone => ?_, fun _ => ?_, fun q hq content hmem => ?_, fun q hq hs => ?_⟩
    · rw [hlast] at hnone
      cases hnone
    · rw [World.afterCall_state]
      rcases htouch with ⟨-, -, hfile⟩ | ⟨content, written, -, rfl, hfile, -⟩
      · rw [hfile]
        rfl
      · rw [hfile, Option.isSome_map]
        exact hv.present (created_of_write hw ht)
    · obtain rfl : pid = q := Option.some.inj (hlast.symm.trans hq)
      rw [w.history_afterCall_self, List.mem_append, List.mem_singleton] at hmem
      rcases hmem with hmem | hmem
      · exact absurd hmem (hunwritten content)
      · rcases htouch with ⟨-, rfl, -⟩ | ⟨content', written, -, rfl, hfile, hok⟩
        · exact absurd (congrArg Sigma.fst hmem) (by simp)
        · obtain ⟨old, hold⟩ := Option.isSome_iff_exists.mp (hv.present (created_of_write hw ht))
          have hshort := hfinds rfl old hold
          obtain ⟨hop, -⟩ := Sigma.mk.inj hmem
          simp only [SettingsOp.writeAll.injEq, true_and] at hop
          subst hop
          rw [World.afterCall_state, hfile, hold, hok hmem.symm, Option.map_some, overlay,
            List.drop_eq_nil_of_le hshort, List.append_nil]
    · obtain rfl : pid = q := Option.some.inj (hlast.symm.trans hq)
      exact absurd ((hstored pid).mp hs) hfresh

end Call
/-- A field that no later call edits is as it was stored. -/
def Lasting (w : SettingsWorld Other) : Prop :=
  ∀ (β : Type) (g : AppSettings Other → β) l e l' s, w.log = l ++ e :: l' → e.op = .store s →
    (∀ e' ∈ l', Leaves g w e') → g w.state.memory = g s

theorem Leaves.of_reaches {β : Type} {g : AppSettings Other → β} {v : SettingsWorld Other}
    {e : SettingsLogEntry Other} (hreaches : (calls host serde).Reaches v w) (h : Leaves g w e) :
    Leaves g v e := by
  intro hs f hf
  obtain ⟨request, hrequest, hedit⟩ := Option.bind_eq_some_iff.mp hf
  refine h hs f (Option.bind_eq_some_iff.mpr ⟨request, ?_, hedit⟩)
  exact hreaches.request? hrequest

theorem lasting_step (hreaches : (calls host serde).Reaches w v) (hw : Lasting w)
    (hmemory : v.state.memory = w.state.memory) (hlog : v.log = w.log) : Lasting v := by
  intro β g l e l' s hl hop hleaves
  rw [hmemory]
  refine hw β g l e l' s (hlog ▸ hl) hop fun e' he' => ?_
  exact (hleaves e' he').of_reaches hreaches

/-- The value that a handler stores is its edit of what it has read. -/
theorem edited_of_store (hw : (calls host serde).Reaches (.init s₀) w) {pid : ℕ}
    {request : SettingsRequest Other} {new : AppSettings Other}
    {next : SettingsRes (.store new) → SettingsProg Other (SettingsAnswer Other)}
    (ht : w.threads pid = some ⟨request, .call (.store new) next⟩)
    (hfinds : Finds host w pid (.store new)) :
    ∃ f, editOf? w pid = some f ∧ new = f w.state.memory := by
  obtain ⟨s, f, hedit, rfl, htrack⟩ := pending_follows hw ht
  have hof : editOf? w pid = some f := by
    rw [editOf?, World.request?_eq ht]
    exact hedit
  have hread : s ∈ (w.history pid).filterMap read? := by
    have hmem : (⟨.get, s⟩ : Entry (SettingsOp Other) SettingsRes) ∈
        track host.settingsFile (w.history pid) := by
      rw [htrack]
      simp
    exact List.mem_filterMap.mpr ⟨_, (List.mem_filter.mp hmem).1, rfl⟩
  exact ⟨f, hof, (hfinds.1 s hread f hof).symm⟩

theorem lasting_call (hw : (calls host serde).Reaches (.init s₀) w) (hv : Lasting w) {pid : ℕ}
    {choice : SettingsChoice} {request : SettingsRequest Other} {op : SettingsOp Other}
    {next : SettingsRes op → SettingsProg Other (SettingsAnswer Other)}
    (ht : w.threads pid = some ⟨request, .call op next⟩) {r : SettingsRes op}
    {s' : SettingsState Other} (hx : w.state.exec choice op = some (r, s'))
    (hfinds : Finds host w pid op)
    (hreaches : (calls host serde).Reaches w (w.afterCall pid request op next r s')) :
    Lasting (w.afterCall pid request op next r s') := by
  intro β g l e l' s hl hop hleaves
  rw [World.afterCall_state]
  rw [World.afterCall_log] at hl
  -- The last entry is the stored one, or comes after it.
  rcases List.eq_nil_or_concat l' with rfl | ⟨l'', x, rfl⟩
  · obtain ⟨-, hlast⟩ := List.append_inj' hl rfl
    obtain rfl : _ = e := by simpa using hlast
    obtain rfl : op = .store s := hop
    cases hx
    rfl
  · rw [List.concat_eq_append, ← List.cons_append, ← List.append_assoc] at hl
    obtain ⟨hl', hlast⟩ := List.append_inj' hl rfl
    obtain rfl : _ = x := by simpa using hlast
    have hbefore : g w.state.memory = g s := by
      refine hv β g l e l'' s hl' hop fun e' he' => (hleaves e' ?_).of_reaches hreaches
      simp [he']
    rcases exec_memory hx with ⟨new, rfl, hmemory⟩ | hmemory
    · obtain ⟨f, hedit, rfl⟩ := edited_of_store hw ht hfinds
      have hkeeps := (hleaves ⟨pid, w.state, .store (f w.state.memory), r⟩ (by simp)).of_reaches
        hreaches rfl f hedit w.state.memory
      rw [hmemory, hkeeps, hbefore]
    · rw [hmemory, hbefore]

/-- What the run rule carries. -/
theorem tidy_and_lasting {acts : List (SettingsAction Other)}
    (hrun : (calls host serde).Along (Undisturbed host) (.init s₀) acts) :
    Tidy host serde s₀ ((calls host serde).run (.init s₀) acts) ∧
      Lasting ((calls host serde).run (.init s₀) acts) := by
  have hnone : lastWriter host.settingsFile (.init s₀ : SettingsWorld Other) = none := rfl
  refine hrun.keeps (fun w => Tidy host serde s₀ w ∧ Lasting w)
    ⟨⟨fun _ => ⟨rfl, rfl⟩, by simp [hnone], by simp [hnone], by simp [hnone]⟩, ?_⟩ ?_
  · intro β g l e l' s hl
    simp [World.init] at hl
  rintro v a hv hc ⟨htidy, hlasting⟩
  have hreaches := Reaches.step (calls host serde) v a
  rcases (calls host serde).step_cases v a with hs | ⟨pid, request, rfl, hp, hs⟩ |
    ⟨pid, choice, request, op, next, r, s', rfl, ht, hx, hs⟩ | ⟨move, rfl, hs⟩
  · rw [hs]
    exact ⟨htidy, hlasting⟩
  · rw [hs] at hreaches ⊢
    exact ⟨htidy.congr rfl rfl, lasting_step hreaches hlasting rfl rfl⟩
  · have hfinds : Finds host v pid op := hc op (World.pending?_eq ht)
    rw [hs] at hreaches ⊢
    refine ⟨?_, lasting_call hv hlasting ht hx hfinds hreaches⟩
    by_cases hstore : ∃ new, op = .store new
    · obtain ⟨new, rfl⟩ := hstore
      cases hx
      exact tidy_store hv htidy ht hfinds.2
    · exact tidy_call hv htidy ht hx (fun new hop => hstore ⟨new, hop⟩) hfinds
  · exact move.elim

/-- When all calls have returned, the last writer of the file has stored. -/
theorem Tidy.holds (hw : (calls host serde).Reaches (.init s₀) w) (hv : Tidy host serde s₀ w)
    (hstart : Holds serde (s₀.files host.settingsFile) s₀.memory) (hreturned : AllReturned w) :
    Holds serde (w.state.files host.settingsFile) w.state.memory := by
  cases hlast : lastWriter host.settingsFile w with
  | none =>
    obtain ⟨hfile, hmemory⟩ := hv.untouched hlast
    rw [hfile, hmemory]
    exact hstart
  | some q =>
    refine .inl (hv.stored q hlast ?_)
    obtain ⟨e, he, hsome⟩ := List.mem_filterMap.mp (List.mem_of_getLast? hlast)
    obtain ⟨rfl, htouch⟩ := touched?_eq_some hsome
    obtain ⟨l, l', hl⟩ := List.append_of_mem he
    obtain ⟨t, ht, -⟩ := hw.logged (P := Follows host serde) (Q := fun _ => Settled host)
      (fun _ => handler_follows _) hl
    obtain ⟨a, hret⟩ := hreturned e.pid t ht
    have hsettled := hw.meets (P := Follows host serde) (Q := fun _ => Settled host)
      (fun _ => handler_follows _) ht
    rw [hret] at hsettled
    rw [hasStored_iff]
    rcases hsettled with ⟨s, htrack⟩ | ⟨new, hmem⟩
    · have hentry : e.entry ∈ w.history e.pid := mem_historyOf.mpr ⟨e, he, rfl, rfl⟩
      have htracked : isTracked host.settingsFile e.op = true := by
        rcases htouch with h | ⟨content, h⟩
        · rw [show e.op = _ from congrArg Sigma.fst h]
          simp [isTracked]
        · rw [h]
          simp [isTracked]
      have hmem := mem_track hentry htracked
      rw [htrack, List.mem_singleton] at hmem
      have hget : e.op = .get := congrArg Sigma.fst hmem
      rcases htouch with h | ⟨content, h⟩
      · exact absurd (hget.symm.trans (congrArg Sigma.fst h)) (by simp)
      · exact absurd (hget.symm.trans h) (by simp)
    · exact ⟨new, (List.mem_filter.mp hmem).1⟩

end Runs

/-- An edit other than `set_tags` for this device leaves the tags of the device alone. -/
theorem edit_leaves_tags {request : SettingsRequest Other}
    {f : AppSettings Other → AppSettings Other} (hf : request.edit? = some f) {id : String}
    (hother : ∀ deviceId tags, request = .setTags deviceId tags → trim deviceId ≠ id)
    (s : AppSettings Other) : tagsOf id (f s) = tagsOf id s := by
  cases request with
  | get => cases hf
  | getTags => cases hf
  | setTags deviceId tags =>
    cases hf
    rw [tagsOf_withTags, if_neg (hother deviceId tags rfl).symm]
  | update edit =>
    cases hf
    rw [tagsOf, getTags, edit.deviceTags, tagsOf, getTags]

/-- **No lost settings update.** -/
theorem no_update_is_lost (host : Host Other) (serde : Serde Other) (s₀ : SettingsState Other)
    (hstart : Holds serde (s₀.files host.settingsFile) s₀.memory)
    (acts : List (SettingsAction Other))
    (hrun : (calls host serde).Along (Undisturbed host) (.init s₀) acts)
    (hreturned : AllReturned ((calls host serde).run (.init s₀) acts)) :
    Kept host serde ((calls host serde).run (.init s₀) acts) := by
  have hreaches := Reaches.run (calls host serde) (.init s₀) acts
  obtain ⟨htidy, hlasting⟩ := tidy_and_lasting hrun
  refine ⟨htidy.holds hreaches hstart hreturned, fun id tags hset => ?_, hlasting⟩
  obtain ⟨later, e, earlier, hlog, he, hlater⟩ := List.findSome?_eq_some_iff.mp hset
  have hl : ((calls host serde).run (.init s₀) acts).log = earlier.reverse ++ e :: later.reverse := by
    rw [← List.reverse_inj, hlog]
    simp
  obtain ⟨hs, deviceId, rfl, hrequest⟩ := setBy?_eq_some.mp he
  obtain ⟨-, new, hop⟩ := stored?_eq_some hs
  have hkept := hlasting _ (tagsOf (trim deviceId)) _ e _ new hl hop ?_
  · rw [hkept]
    obtain ⟨t, ht, hfollows⟩ := hreaches.logged (P := Follows host serde)
      (Q := fun _ => Settled host) (fun _ => handler_follows _) hl
    rw [World.request?_eq ht, Option.some.injEq] at hrequest
    rw [hop, hrequest] at hfollows
    obtain ⟨s, f, hedit, rfl, -⟩ := hfollows
    cases hedit
    rw [tagsOf_withTags, if_pos rfl]
  · intro e' he' hs' f hf s
    obtain ⟨request, hrequest', hedit⟩ := Option.bind_eq_some_iff.mp hf
    refine edit_leaves_tags hedit (fun deviceId' tags' hset hid => ?_) s
    have hnone := hlater e' (List.mem_reverse.mp he')
    have hsome : setBy? ((calls host serde).run (.init s₀) acts) (trim deviceId) e' = some tags' :=
      setBy?_eq_some.mpr ⟨hs', deviceId', hid, hset ▸ hrequest'⟩
    rw [hnone] at hsome
    cases hsome

/-- Only the handlers that the actions name have to be looked at. -/
theorem allReturned_of_answers {host : Host Other} {serde : Serde Other} {s₀ : SettingsState Other}
    {acts : List (SettingsAction Other)}
    (h : ∀ pid ∈ acts.filterMap Action.pid?,
      (((calls host serde).run (.init s₀) acts).answer? pid).isSome) :
    AllReturned ((calls host serde).run (.init s₀) acts) := by
  intro pid t ht
  have hrequest := (calls host serde).run_request? (.init s₀) pid acts
  rw [World.request?_eq ht] at hrequest
  have hpid := spawned?_mem (hrequest.symm : spawned? pid acts = some t.request)
  obtain ⟨a, ha⟩ := Option.isSome_iff_exists.mp (h pid hpid)
  obtain ⟨request, hfinished⟩ := World.finished_of_answer? ha
  exact ⟨a, congrArg Thread.rest (Option.some.inj (ht.symm.trans hfinished))⟩

/-- One `set_tags` after the other. -/
def separateRun : List (SettingsAction Unit) :=
  .spawn 1 (.setTags "a" ["x"]) :: List.replicate 15 (.exec 1 working) ++
    .spawn 2 (.setTags "b" ["y"]) :: List.replicate 15 (.exec 2 working)

theorem no_update_is_lost_separate :
    Kept sampleHost sampleSerde ((calls sampleHost sampleSerde).run (.init sampleState) separateRun) :=
  no_update_is_lost sampleHost sampleSerde sampleState (.inl (by decide +kernel)) separateRun
    (by decide +kernel) (allReturned_of_answers (by decide +kernel))

/-- Both read before one of them stores. -/
def overlappingRun : List (SettingsAction Unit) :=
  [.spawn 1 (.setTags "a" ["x"]), .spawn 2 (.setTags "b" ["y"]), .exec 1 working, .exec 2 working] ++
    List.replicate 14 (.exec 1 working) ++ List.replicate 14 (.exec 2 working)

theorem overlapping_update_is_lost :
    ¬ ∀ (host : Host Unit) (serde : Serde Unit) (s₀ : SettingsState Unit)
      (acts : List (SettingsAction Unit)),
      Holds serde (s₀.files host.settingsFile) s₀.memory →
      AllReturned ((calls host serde).run (.init s₀) acts) →
      Kept host serde ((calls host serde).run (.init s₀) acts) := by
  intro hclaim
  have hkept := hclaim sampleHost sampleSerde sampleState overlappingRun (.inl (by decide +kernel))
    (allReturned_of_answers (by decide +kernel))
  have htags := hkept.tags "a" ["x"] (by decide +kernel)
  exact absurd htags (by decide +kernel)

end JustRun.Settings
