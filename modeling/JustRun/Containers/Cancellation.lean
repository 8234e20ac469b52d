import JustRun.Containers.Creation

/-!
# What a cancellation removes

A clean-up removes the container and the volume of a name when the flags say that they have been
created. The flags do not say by whom: they are those of the creation that has set them last, of
whatever name, also after its end. And the name of the volume is made from that of the container,
which may begin with the prefix once more.
-/
namespace JustRun.Containers
open Machine Concurrency

/-! ### Names -/

def DockerRequest.name : DockerRequest → String
  | create req => req.name
  | cancel name => name

/-- The container and the volume of an instance. -/
def objectName (name : String) : DockerObject → String
  | .container => createContainerName name
  | .volume => dataVolumeName (sanitizeName name)

/-- What a clean-up for an instance removes. -/
def cleanupTarget (name : String) : DockerObject → String
  | .container => createContainerName name
  | .volume => dataVolumeName (trimStartMatches "rdc-" (createContainerName name))

theorem objectName_inj {name name' : String} {object : DockerObject} :
    objectName name object = objectName name' object ↔ sanitizeName name = sanitizeName name' := by
  cases object with
  | container => simp [objectName, createContainerName, String.append_right_inj]
  | volume =>
    simp [objectName, dataVolumeName, String.append_right_inj, String.append_left_inj]

/-- The prefix is taken off once where the name does not begin with it. -/
theorem trimStartMatches_prefix {sanitized : String}
    (h : "rdc-".toList.isPrefixOf sanitized.toList = false) :
    trimStartMatches "rdc-" ("rdc-" ++ sanitized) = sanitized := by
  have hrest : ∀ turns, trimStart "rdc-".toList turns sanitized.toList = sanitized.toList := by
    intro turns
    cases turns with
    | zero => rfl
    | succ turns => rw [trimStart, h, if_neg Bool.false_ne_true]
  have hlength : ("rdc-" ++ sanitized).length = (sanitized.length + 3) + 1 := by
    rw [String.length_append]
    have : "rdc-".length = 4 := by decide
    omega
  have hdrop : ("rdc-".toList ++ sanitized.toList).drop "rdc-".toList.length = sanitized.toList :=
    List.drop_left
  have hprefix : "rdc-".toList.isPrefixOf ("rdc-".toList ++ sanitized.toList) = true := by
    rw [List.isPrefixOf_iff_prefix]
    exact List.prefix_append _ _
  rw [trimStartMatches, hlength, String.toList_append, trimStart, hprefix, if_pos rfl, hdrop, hrest,
    String.ofList_toList]

theorem cleanupTarget_eq {name : String} {object : DockerObject}
    (h : object = .volume → "rdc-".toList.isPrefixOf (sanitizeName name).toList = false) :
    cleanupTarget name object = objectName name object := by
  cases object with
  | container => rfl
  | volume => rw [cleanupTarget, createContainerName, trimStartMatches_prefix (h rfl), objectName]

/-! ### What the handlers call -/

abbrev DockerEntry := Entry DockerOp DockerRes

/-- After this entry all objects of its kind and name are the creation's own: `docker run` has made
the container, or there was no volume. -/
def vouches (object : DockerObject) : DockerEntry → Bool
  | ⟨.run _, r⟩ => object == .container && r.success
  | ⟨.volumeExists _, found⟩ => object == .volume && found == some false
  | _ => false

/-- What a handler may call after its history. -/
def Allowed (r : DockerRequest) (h : List DockerEntry) : DockerOp → Prop
  | .run args => ∃ req, r = .create req ∧ args.container = objectName req.name .container ∧
    args.volume = objectName req.name .volume
  | .volumeExists volume | .volumeCreate volume =>
    ∃ req, r = .create req ∧ volume = objectName req.name .volume
  | .setCreated object true => (∃ req, r = .create req) ∧
    ∃ h' entry, h = h' ++ [entry] ∧ vouches object entry = true
  | .remove object name => name = cleanupTarget r.name object ∧
    ∃ h', h = h' ++ [⟨.created object, true⟩]
  | _ => True

abbrev Follows (r : DockerRequest) {α : Type} (p : DockerProg α) (h : List DockerEntry) : Prop :=
  p.Meets (Allowed r) (fun _ _ => True) h

theorem cleanup_follows {r : DockerRequest} {h : List DockerEntry} {containerName : String}
    (hname : containerName = createContainerName r.name) :
    Follows r (cleanupCreateArtifacts containerName) h := by
  subst hname
  apply Prog.Meets.bind (Q := fun _ _ => True)
  · refine ⟨trivial, fun created => ?_⟩
    cases created with
    | true => exact ⟨⟨rfl, h, rfl⟩, fun _ => trivial⟩
    | false => trivial
  · intro h' _ _ _
    refine ⟨trivial, fun created => ?_⟩
    cases created with
    | false => trivial
    | true =>
      show Follows r (if _ then _ else _) _
      split
      · exact ⟨⟨rfl, h', rfl⟩, fun _ => trivial⟩
      · trivial
  · exact fun _ _ _ _ => trivial

section Creation
variable {req : CreateInstanceRequest} {h : List DockerEntry}

theorem cancelled_follows : Follows (.create req) (cancelledCreateResult req.container) h := by
  apply Prog.Meets.bind (cleanup_follows rfl)
  · exact fun _ _ _ _ => trivial
  · exact fun _ _ _ _ => trivial

theorem unlessCancelled_follows {go : DockerProg ShellResult}
    (hgo : Follows (.create req) go (h ++ [⟨.cancelRequested, false⟩])) :
    Follows (.create req) (unlessCancelled req go) h := by
  refine ⟨trivial, fun cancelled => ?_⟩
  cases cancelled with
  | true => exact cancelled_follows
  | false => exact hgo

theorem finish_follows {r : ShellResult} : Follows (.create req) (finish req r) h :=
  unlessCancelled_follows trivial

theorem installCloak_follows {r : ShellResult} : Follows (.create req) (installCloak req r) h := by
  unfold installCloak
  split
  · refine ⟨trivial, fun message => ?_⟩
    cases message <;> exact finish_follows
  · exact finish_follows

theorem firstBoot_follows {r : ShellResult} : Follows (.create req) (firstBoot req r) h := by
  unfold firstBoot
  split
  · refine ⟨trivial, fun message => ?_⟩
    cases message <;> exact installCloak_follows
  · exact installCloak_follows

theorem afterRun_follows {r : ShellResult} : Follows (.create req) (afterRun req r) h := by
  unfold afterRun
  split
  · refine ⟨trivial, fun ready => unlessCancelled_follows ?_⟩
    unfold afterReady
    split
    · exact firstBoot_follows
    · exact finish_follows
  · exact finish_follows

theorem runContainer_follows {image : String} :
    Follows (.create req) (runContainer req image) h := by
  refine ⟨⟨req, rfl, rfl, rfl⟩, fun r => ?_⟩
  show Follows _ (if r.success then _ else _) _
  split
  · next hsuccess =>
    refine ⟨⟨⟨req, rfl⟩, h, _, rfl, ?_⟩, fun _ => unlessCancelled_follows afterRun_follows⟩
    simp [vouches, hsuccess]
  · trivial

theorem createVolume_follows {image : String} :
    Follows (.create req) (createVolume req image) h := by
  refine ⟨⟨req, rfl, rfl⟩, fun found => ⟨?_, fun _ => ⟨⟨req, rfl, rfl⟩, fun _ => ?_⟩⟩⟩
  · match found with
    | none => trivial
    | some true => trivial
    | some false => exact ⟨⟨req, rfl⟩, h, _, rfl, by simp [vouches]⟩
  · exact runContainer_follows

theorem prepareImage_follows : Follows (.create req) (prepareImage req) h := by
  have hcreate : ∀ {h image}, Follows (.create req) (unlessCancelled req (createVolume req image)) h :=
    unlessCancelled_follows createVolume_follows
  have hlayer : ∀ {h base}, Follows (.create req) (layerGapps req base) h := by
    refine ⟨trivial, fun tag => ?_⟩
    cases tag with
    | ok tag => exact hcreate
    | error e => trivial
  unfold prepareImage
  split
  · refine ⟨trivial, fun tag => ?_⟩
    cases tag with
    | error e => trivial
    | ok tag =>
      show Follows _ (if _ then _ else _) _
      split
      · exact hlayer
      · exact hcreate
  · split
    · exact hlayer
    · exact hcreate

theorem ensureImage_follows : Follows (.create req) (ensureImage req) h := by
  refine ⟨trivial, fun found => ?_⟩
  cases found with
  | true => exact unlessCancelled_follows prepareImage_follows
  | false =>
    refine ⟨trivial, fun pulled => ?_⟩
    show Follows _ (if pulled.success then _ else _) _
    split
    · exact unlessCancelled_follows prepareImage_follows
    · trivial

theorem checkName_follows : Follows (.create req) (checkName req) h := by
  unfold checkName
  split
  · trivial
  · refine ⟨trivial, fun existing => ?_⟩
    show Follows _ (if _ then _ else _) _
    split
    · trivial
    · refine ⟨trivial, fun taken => ?_⟩
      cases taken with
      | some suggested => trivial
      | none => exact ensureImage_follows

end Creation

theorem handler_follows (r : DockerRequest) : Follows r r.handler [] := by
  cases r with
  | create req =>
    refine ⟨trivial, fun _ => ⟨trivial, fun _ => ⟨trivial, fun _ => ?_⟩⟩⟩
    show Follows _ (if _ then _ else _) _
    split
    · trivial
    · exact unlessCancelled_follows checkName_follows
  | cancel name =>
    show Follows _ (cancelCreate name) _
    simp only [cancelCreate]
    split
    · trivial
    · refine ⟨trivial, fun _ => ?_⟩
      apply Prog.Meets.bind (cleanup_follows rfl)
      · exact fun _ _ _ _ => trivial
      · exact fun _ _ _ _ => trivial

/-! ### Creations in progress -/

abbrev DockerLog := List (LogEntry DockerState DockerOp DockerRes)

/-- The creation that the handler has not ended. -/
def inProgress? (w : DockerWorld) (pid : ℕ) : Option CreateInstanceRequest :=
  match w.request? pid, w.pending? pid with
  | some (.create req), some _ => some req
  | _, _ => none

/-- A logged call of the handler has made the object with this name and number. -/
def MadeBy (w : DockerWorld) (pid : ℕ) (object : DockerObject) (p : String × ℕ) : Prop :=
  ∃ e ∈ w.log, e.pid = pid ∧ p ∉ e.before.objects object ∧
    ∃ choice s', e.before.exec choice e.op = some (e.res, s') ∧ p ∈ s'.objects object

def DockerOp.sets (object : DockerObject) : DockerOp → Bool
  | .setCreated o _ => o == object
  | _ => false

/-- The call that has set a flag last. -/
def setter? (object : DockerObject) (log : DockerLog) :
    Option (LogEntry DockerState DockerOp DockerRes) :=
  (log.filter fun e => e.op.sets object).getLast?

/-! ### The condition -/

/-- The calls that make containers or volumes. -/
def DockerOp.makes : DockerOp → Bool
  | .run _ | .volumeCreate _ => true
  | _ => false

def DockerOp.removes : DockerOp → Bool
  | .remove _ _ => true
  | _ => false

/-- A flag that is found set was set last by a creation of this name that is in progress, and a
name whose volume may be removed does not begin with the prefix. -/
def FlagIsOwn (w : DockerWorld) (pid : ℕ) (object : DockerObject) : Prop :=
  ∀ r ∈ w.request? pid,
    (∃ e ∈ setter? object w.log, ∃ req ∈ inProgress? w e.pid,
      sanitizeName req.name = sanitizeName r.name) ∧
    (object = .volume → "rdc-".toList.isPrefixOf (sanitizeName r.name).toList = false)

/-- No other creation of the name is in progress. -/
def MakesAlone (w : DockerWorld) (pid : ℕ) : Prop :=
  ∀ e ∈ w.log, e.pid ≠ pid → ∀ other ∈ inProgress? w e.pid, ∀ r ∈ w.request? pid,
    sanitizeName other.name ≠ sanitizeName r.name

/-- No clean-up of the name is about to remove anything. -/
def EndsUnobserved (w : DockerWorld) (pid : ℕ) : Prop :=
  ∀ req ∈ inProgress? w pid, ∀ e ∈ w.log, e.pid ≠ pid → (∃ op ∈ w.pending? e.pid, op.removes = true) →
    ∀ r ∈ w.request? e.pid, sanitizeName r.name ≠ sanitizeName req.name

/-- A clean-up finds a flag set only by a creation of its name in progress, which does not end
before the removal; while one is, nobody else makes anything of its name. -/
def KeepsApart (w : DockerWorld) : DockerAction → Prop
  | .exec pid choice => (∀ op ∈ w.pending? pid,
      (∀ object, op = .created object → w.state.created object = true → FlagIsOwn w pid object) ∧
      (op.makes = true → MakesAlone w pid)) ∧
    ((docker.step w (.exec pid choice)).pending? pid = none → EndsUnobserved w pid)
  | .env (.make object name) => ∀ e ∈ w.log, ∀ req ∈ inProgress? w e.pid,
    objectName req.name object ≠ name
  | _ => True

instance (w : DockerWorld) (pid : ℕ) (object : DockerObject) : Decidable (FlagIsOwn w pid object) :=
  inferInstanceAs (Decidable (∀ r ∈ w.request? pid, _))

instance (w : DockerWorld) (pid : ℕ) : Decidable (MakesAlone w pid) :=
  inferInstanceAs (Decidable (∀ e ∈ w.log, _))

instance (w : DockerWorld) (pid : ℕ) : Decidable (EndsUnobserved w pid) :=
  inferInstanceAs (Decidable (∀ req ∈ inProgress? w pid, _))

instance : Fintype DockerObject := ⟨{.container, .volume}, fun object => by cases object <;> decide⟩

instance (w : DockerWorld) (a : DockerAction) : Decidable (KeepsApart w a) :=
  match a with
  | .exec _ _ => instDecidableAnd
  | .env (.make _ _) => inferInstanceAs (Decidable (∀ e ∈ w.log, _))
  | .spawn _ _ | .env (.remove _ _) => .isTrue trivial

/-! ### One call -/

namespace DockerState
variable {s s' : DockerState} {choice : DockerChoice} {op : DockerOp} {r : DockerRes op}
  {object : DockerObject} {p : String × ℕ}

theorem mem_make {made : DockerObject} {name : String} (h : p ∈ (s.make made name).objects object) :
    p ∈ s.objects object ∨ made = object ∧ p.1 = name := by
  unfold make at h
  split at h
  · exact .inl h
  · by_cases hobject : object = made
    · subst hobject
      simp only [Function.update_self, List.mem_cons] at h
      rcases h with rfl | h
      · exact .inr ⟨rfl, rfl⟩
      · exact .inl h
    · left
      simpa only [Function.update_of_ne hobject] using h

theorem mem_remove {removed : DockerObject} {name : String}
    (h : p ∈ (s.remove removed name).objects object) : p ∈ s.objects object := by
  by_cases hobject : object = removed
  · subst hobject
    simp only [remove, Function.update_self] at h
    exact List.mem_of_mem_filter h
  · simpa [remove, Function.update_of_ne hobject] using h

theorem mem_run {s' : DockerState} {args : RunArgs} (hrun : s.run args choice = some s')
    (h : p ∈ s'.objects object) : p ∈ s.objects object ∨
      object = .container ∧ p.1 = args.container ∨ object = .volume ∧ p.1 = args.volume := by
  have hboth : p ∈ ((s.make .volume args.volume).make .container args.container).objects object →
      p ∈ s.objects object ∨ object = .container ∧ p.1 = args.container ∨
        object = .volume ∧ p.1 = args.volume := by
    intro h
    rcases mem_make h with h | ⟨rfl, hname⟩
    · rcases mem_make h with h | ⟨rfl, hname⟩
      · exact .inl h
      · exact .inr (.inr ⟨rfl, hname⟩)
    · exact .inr (.inl ⟨rfl, hname⟩)
  unfold run at hrun
  split at hrun
  · split at hrun
    · cases hrun
    · cases hrun
      exact hboth h
  · split at hrun <;> cases hrun
    · exact .inl h
    · rcases mem_make h with h | ⟨rfl, hname⟩
      · exact .inl h
      · exact .inr (.inr ⟨rfl, hname⟩)
    · exact hboth h

/-- An object that was not there before a call has been made by it, under the name that the
request of the call gives it. -/
theorem exec_objects (hx : s.exec choice op = some (r, s')) (hp : p ∈ s'.objects object)
    (hnew : p ∉ s.objects object) {request : DockerRequest} {h : List DockerEntry}
    (hallowed : Allowed request h op) :
    op.makes = true ∧ p.1 = objectName request.name object := by
  cases op with
  | run args =>
    obtain ⟨req, rfl, hcontainer, hvolume⟩ := hallowed
    obtain ⟨s'', hrun, heq⟩ := Option.map_eq_some_iff.mp hx
    cases heq
    rcases mem_run hrun hp with hp | ⟨rfl, hname⟩ | ⟨rfl, hname⟩
    · exact absurd hp hnew
    · exact ⟨rfl, hname.trans hcontainer⟩
    · exact ⟨rfl, hname.trans hvolume⟩
  | volumeCreate volume =>
    obtain ⟨req, rfl, hvolume⟩ := hallowed
    cases hx
    split at hp
    · rcases mem_make hp with hp | ⟨rfl, hname⟩
      · exact absurd hp hnew
      · exact ⟨rfl, hname.trans hvolume⟩
    · exact absurd hp hnew
  | remove removed name =>
    cases hx
    split at hp
    · exact absurd (mem_remove hp) hnew
    · exact absurd hp hnew
  | _ =>
    cases hx
    exact absurd hp hnew

/-- No object of the name was there before a call that vouches for it. -/
theorem vouches_fresh (hx : s.exec choice op = some (r, s')) {request : DockerRequest}
    {h : List DockerEntry} (hallowed : Allowed request h op)
    (hvouches : vouches object ⟨op, r⟩ = true) (hname : p.1 = objectName request.name object) :
    p ∉ s.objects object := by
  have habsent : ∀ name, s.has object name = false → p.1 = name → p ∉ s.objects object := by
    intro name hhas hname hp
    have hany : s.has object name = true := List.any_eq_true.mpr ⟨p, hp, by simpa using hname⟩
    rw [hhas] at hany
    cases hany
  cases op with
  | run args =>
    obtain ⟨req, rfl, hcontainer, -⟩ := hallowed
    simp only [vouches, Bool.and_eq_true, beq_iff_eq] at hvouches
    obtain ⟨rfl, hsuccess⟩ := hvouches
    obtain ⟨s'', hrun, heq⟩ := Option.map_eq_some_iff.mp hx
    cases heq
    rw [run, if_pos hsuccess] at hrun
    split at hrun
    · cases hrun
    · next hfree =>
      apply habsent args.container (by simpa using hfree)
      rw [hname, hcontainer]
      rfl
  | volumeExists volume =>
    obtain ⟨req, rfl, hvolume⟩ := hallowed
    simp only [vouches, Bool.and_eq_true, beq_iff_eq] at hvouches
    obtain ⟨rfl, rfl⟩ := hvouches
    simp only [exec, Option.some.injEq, Prod.mk.injEq] at hx
    obtain ⟨hfound, -⟩ := hx
    split at hfound
    · apply habsent volume (by simpa using hfound)
      rw [hname, hvolume]
      rfl
    · cases hfound
  | _ => cases hvouches

theorem exec_created (hx : s.exec choice op = some (r, s')) :
    op.sets object = false ∧ s'.created object = s.created object ∨
      ∃ value, op = .setCreated object value ∧ s'.created object = value := by
  have hmake : ∀ (s : DockerState) made name, (s.make made name).created = s.created := by
    intro s made name
    unfold make
    split <;> rfl
  cases op with
  | setCreated set value =>
    cases hx
    by_cases hobject : set = object
    · subst hobject
      exact .inr ⟨value, rfl, Function.update_self _ _ _⟩
    · exact .inl ⟨by simp [DockerOp.sets, hobject], Function.update_of_ne (Ne.symm hobject) _ _⟩
  | run args =>
    refine .inl ⟨rfl, ?_⟩
    obtain ⟨s'', hrun, heq⟩ := Option.map_eq_some_iff.mp hx
    cases heq
    unfold run at hrun
    split at hrun
    · split at hrun <;> cases hrun
      rw [hmake, hmake]
    · split at hrun <;> cases hrun
      · rfl
      · rw [hmake]
      · rw [hmake, hmake]
  | volumeCreate volume =>
    refine .inl ⟨rfl, ?_⟩
    cases hx
    split
    · rw [hmake]
    · rfl
  | remove removed name =>
    refine .inl ⟨rfl, ?_⟩
    cases hx
    split <;> rfl
  | _ =>
    refine .inl ⟨rfl, ?_⟩
    cases hx
    rfl

theorem apply_created (move : DockerMove) (s : DockerState) : (move.apply s).created = s.created := by
  cases move with
  | make made name =>
    show (s.make made name).created = s.created
    unfold make
    split <;> rfl
  | remove removed name => rfl

end DockerState

/-! ### Runs -/

theorem inProgress?_eq_some {w : DockerWorld} {pid : ℕ} {req : CreateInstanceRequest} :
    inProgress? w pid = some req ↔ w.request? pid = some (.create req) ∧ w.pending? pid ≠ none := by
  unfold inProgress?
  constructor
  · intro h
    split at h
    · next hr hp =>
      cases h
      exact ⟨hr, by simp [hp]⟩
    · cases h
  · rintro ⟨hr, hp⟩
    obtain ⟨op, hop⟩ := Option.ne_none_iff_exists'.mp hp
    simp [hr, hop]

theorem inProgress?_congr {w w' : DockerWorld} {pid : ℕ} (h : w'.threads pid = w.threads pid) :
    inProgress? w' pid = inProgress? w pid := by
  simp [inProgress?, World.request?, World.pending?, h]

theorem setter?_snoc (object : DockerObject) (log : DockerLog)
    (e : LogEntry DockerState DockerOp DockerRes) : setter? object (log ++ [e]) =
      if e.op.sets object then some e else setter? object log := by
  unfold setter?
  rw [List.filter_append]
  by_cases he : e.op.sets object = true
  · simp [he]
  · simp [he]

theorem MadeBy.mono {w w' : DockerWorld} {pid : ℕ} {object : DockerObject} {p : String × ℕ}
    (h : MadeBy w pid object p) (hlog : w.log ⊆ w'.log) : MadeBy w' pid object p := by
  obtain ⟨e, he, hmade⟩ := h
  exact ⟨e, hlog he, hmade⟩

variable {containers volumes : List String} {w : DockerWorld}

/-- A flag that is set was set by the call that has set it last. -/
theorem created_setter (hw : docker.Reaches (launched containers volumes) w) {object : DockerObject}
    (h : w.state.created object = true) :
    ∃ e, setter? object w.log = some e ∧ e.op = .setCreated object true := by
  refine hw.induct (fun w => w.state.created object = true → ∃ e, setter? object w.log = some e ∧
    e.op = .setCreated object true) (fun h => by cases h) ?_ h
  intro v a _ ih h
  rcases docker.step_cases v a with hs | ⟨q, request, -, -, hs⟩ |
    ⟨q, choice, request, op, next, r, s', -, -, hx, hs⟩ | ⟨move, -, hs⟩
  · rw [hs] at h ⊢
    exact ih h
  · rw [hs] at h ⊢
    exact ih h
  · rw [hs, World.afterCall_state] at h
    rw [hs, World.afterCall_log, setter?_snoc]
    have hcases : op.sets object = false ∧ _ ∨ _ := DockerState.exec_created hx
    rcases hcases with ⟨hsets, hcreated⟩ | ⟨value, rfl, hset⟩
    · rw [hcreated] at h
      rw [if_neg (by simp [hsets])]
      exact ih h
    · rw [hset] at h
      subst h
      exact ⟨_, if_pos (by simp [DockerOp.sets]), rfl⟩
  · rw [hs] at h ⊢
    apply ih
    rwa [show docker.env move v.state = move.apply v.state from rfl, DockerState.apply_created] at h

/-- The flag is the creation's own: a call before vouches for what it speaks of. -/
theorem setter_vouched (hw : docker.Reaches (launched containers volumes) w) {object : DockerObject}
    {e : LogEntry DockerState DockerOp DockerRes} (he : setter? object w.log = some e)
    (hop : e.op = .setCreated object true) :
    ∃ x ∈ w.log, x.pid = e.pid ∧ vouches object x.entry = true := by
  have hmem : e ∈ w.log := List.mem_of_mem_filter (List.mem_of_getLast? he)
  obtain ⟨l, l', hl⟩ := List.append_of_mem hmem
  obtain ⟨t, -, hallowed⟩ := hw.logged handler_follows hl
  rw [hop] at hallowed
  obtain ⟨-, h', entry, hhistory, hvouches⟩ := hallowed
  have hentry : entry ∈ historyOf e.pid l := by
    rw [hhistory]
    simp
  obtain ⟨x, hx, hpid, rfl⟩ := mem_historyOf.mp hentry
  exact ⟨x, by simp [hl, hx], hpid, hvouches⟩

/-- What a creation in progress has vouched for is its own. -/
def Vouched (w : DockerWorld) : Prop :=
  ∀ e ∈ w.log, ∀ object, vouches object e.entry = true → ∀ req, inProgress? w e.pid = some req →
    ∀ p ∈ w.state.objects object, p.1 = objectName req.name object → MadeBy w e.pid object p

/-- What a handler is about to remove, a creation of that name in progress has vouched for. -/
def Backed (w : DockerWorld) : Prop :=
  ∀ pid r object name next, w.threads pid = some ⟨r, .call (.remove object name) next⟩ →
    name = objectName r.name object ∧ ∃ e ∈ w.log, vouches object e.entry = true ∧
      ∃ req, inProgress? w e.pid = some req ∧ sanitizeName req.name = sanitizeName r.name

section Step
variable {v : DockerWorld} {pid : ℕ} {choice : DockerChoice} {request : DockerRequest}
  {op : DockerOp} {next : DockerRes op → DockerProg ShellResult} {reply : DockerRes op}
  {s' : DockerState}

/-- A creation in progress after a call was so before. -/
theorem inProgress?_of_afterCall (ht : v.threads pid = some ⟨request, .call op next⟩) {q : ℕ}
    {req : CreateInstanceRequest}
    (h : inProgress? (v.afterCall pid request op next reply s') q = some req) :
    inProgress? v q = some req := by
  by_cases hq : q = pid
  · subst hq
    rw [inProgress?_eq_some] at h ⊢
    obtain ⟨hr, -⟩ := h
    rw [World.request?_eq (World.afterCall_threads_self v q request op next reply s')] at hr
    exact ⟨(World.request?_eq ht).trans hr, by simp [World.pending?_eq ht]⟩
  · rwa [inProgress?_congr (v.afterCall_threads_ne _ _ _ _ _ hq)] at h

theorem Vouched.exec (hV : Vouched v) (ht : v.threads pid = some ⟨request, .call op next⟩)
    (hx : docker.exec choice v.state op = some (reply, s')) (hallowed : Allowed request (v.history pid) op)
    (halone : op.makes = true → MakesAlone v pid) :
    Vouched (v.afterCall pid request op next reply s') := by
  intro e he object hvouches req hreq p hp hname
  have hbefore := inProgress?_of_afterCall ht hreq
  -- An object that the call has made is made by its handler.
  have hmade : p ∉ v.state.objects object →
      MadeBy (v.afterCall pid request op next reply s') pid object p := by
    intro hnew
    exact ⟨⟨pid, v.state, op, reply⟩, by simp, rfl, hnew, choice, s', hx, hp⟩
  rw [World.afterCall_log, List.mem_append, List.mem_singleton] at he
  rcases he with he | rfl
  · by_cases hold : p ∈ v.state.objects object
    · exact (hV e he object hvouches req hbefore p hold hname).mono (List.subset_append_left _ _)
    · obtain ⟨hmakes, hname'⟩ := DockerState.exec_objects hx hp hold hallowed
      by_cases hpid : e.pid = pid
      · exact hpid ▸ hmade hold
      · have hsame := objectName_inj.mp (hname.symm.trans hname')
        exact absurd hsame (halone hmakes e he hpid req hbefore request (World.request?_eq ht))
  · have hr : request = .create req := by
      have hr := (inProgress?_eq_some.mp hbefore).1
      rwa [World.request?_eq ht, Option.some.injEq] at hr
    subst hr
    exact hmade (DockerState.vouches_fresh hx hallowed hvouches hname)

end Step

theorem vouched_run (h : docker.ReachedAlong KeepsApart (launched containers volumes) w) :
    Vouched w := by
  refine h.keeps Vouched (fun e he => by cases he) ?_
  intro v a hv hc hV
  rcases docker.step_cases v a with hs | ⟨q, request, rfl, hq, hs⟩ |
    ⟨q, choice, request, op, next, r, s', rfl, ht, hx, hs⟩ | ⟨move, rfl, hs⟩
  · rwa [hs]
  · rw [hs]
    intro e he object hvouches req hreq p hp hname
    obtain ⟨l, l', hl⟩ := List.append_of_mem he
    obtain ⟨t, ht, -⟩ := hv.reaches.logged handler_follows hl
    have hne : e.pid ≠ q := by
      intro heq
      rw [heq, hq] at ht
      cases ht
    rw [inProgress?_congr (Function.update_of_ne hne _ _)] at hreq
    exact hV e he object hvouches req hreq p hp hname
  · rw [hs]
    exact hV.exec ht hx (hv.reaches.meets handler_follows ht).1 (hc.1 op (World.pending?_eq ht)).2
  · rw [hs]
    intro e he object hvouches req hreq p hp hname
    refine hV e he object hvouches req hreq p ?_ hname
    cases move with
    | make made name =>
      rcases DockerState.mem_make hp with hp | ⟨rfl, hmade⟩
      · exact hp
      · exact absurd (hname.symm.trans hmade) (hc e he req hreq)
    | remove removed name => exact DockerState.mem_remove hp

/-- A handler about to remove something has read its flag, which an entry of the log shows. -/
theorem exists_entry_of_remove (hw : docker.Reaches (launched containers volumes) w) {pid : ℕ}
    {r : DockerRequest} {object : DockerObject} {name : String}
    {next : DockerRes (.remove object name) → DockerProg ShellResult}
    (ht : w.threads pid = some ⟨r, .call (.remove object name) next⟩) : ∃ e ∈ w.log, e.pid = pid := by
  obtain ⟨⟨-, h, hhistory⟩, -⟩ := hw.meets handler_follows ht
  apply World.exists_entry
  rw [hhistory]
  simp

/-- A handler that goes on to a removal has found the flag of the object set. -/
theorem backed_of_found {v : DockerWorld} {pid : ℕ} {choice : DockerChoice} {request : DockerRequest}
    {op : DockerOp} {next : DockerRes op → DockerProg ShellResult} {reply : DockerRes op}
    {s' : DockerState} {object : DockerObject} {name : String}
    {next' : DockerRes (.remove object name) → DockerProg ShellResult}
    (hv : docker.Reaches (launched containers volumes) v)
    (ht : v.threads pid = some ⟨request, .call op next⟩)
    (hx : docker.exec choice v.state op = some (reply, s'))
    (hown : ∀ object, op = .created object → v.state.created object = true → FlagIsOwn v pid object)
    (hp : next reply = .call (.remove object name) next') :
    name = objectName request.name object ∧ ∃ e ∈ v.log, vouches object e.entry = true ∧
      ∃ req, inProgress? v e.pid = some req ∧ sanitizeName req.name = sanitizeName request.name := by
  have hspec := (hv.meets handler_follows ht).2 reply
  rw [hp] at hspec
  obtain ⟨⟨rfl, h', hhistory⟩, -⟩ := hspec
  obtain ⟨rfl, hreply⟩ :=
    Sigma.mk.inj_iff.mp (List.singleton_inj.mp (List.append_inj' hhistory rfl).2)
  obtain rfl := eq_of_heq hreply
  have hset : v.state.created object = true := (Prod.mk.inj (Option.some.inj hx)).1
  obtain ⟨⟨e, he, req, hreq, hsame⟩, hprefix⟩ := hown object rfl hset request (World.request?_eq ht)
  obtain ⟨setter, hsetter, hop⟩ := created_setter hv hset
  obtain rfl : setter = e := Option.some.inj (hsetter.symm.trans he)
  obtain ⟨x, hx', hpid, hvouches⟩ := setter_vouched hv hsetter hop
  exact ⟨cleanupTarget_eq hprefix, x, hx', hvouches, req, hpid ▸ hreq, hsame⟩

theorem backed_run (h : docker.ReachedAlong KeepsApart (launched containers volumes) w) :
    Backed w := by
  refine h.keeps Backed (fun pid r object name next ht => by cases ht) ?_
  intro v a hv hc hB
  rcases docker.step_cases v a with hs | ⟨q, request, rfl, hq, hs⟩ |
    ⟨q, choice, request, op, next, reply, s', rfl, ht, hx, hs⟩ | ⟨move, rfl, hs⟩
  · rwa [hs]
  · rw [hs]
    intro pid r object name next ht
    by_cases hpid : pid = q
    · -- A handler that has just started makes another call first.
      subst hpid
      have hspec := handler_follows r
      obtain ⟨rfl, hrest⟩ : request = r ∧ docker.handler request = .call (.remove object name) next := by
        simpa using ht
      rw [Follows, show request.handler = _ from hrest] at hspec
      obtain ⟨⟨-, h', hnil⟩, -⟩ := hspec
      simp at hnil
    · have ht' : v.threads pid = some ⟨r, .call (.remove object name) next⟩ := by
        simpa only [Function.update_of_ne hpid] using ht
      obtain ⟨hname, e, he, hvouches, req, hreq, hsame⟩ := hB pid r object name next ht'
      obtain ⟨l, l', hl⟩ := List.append_of_mem he
      obtain ⟨t, hlogged, -⟩ := hv.reaches.logged handler_follows hl
      have hne : e.pid ≠ q := by
        intro heq
        rw [heq, hq] at hlogged
        cases hlogged
      exact ⟨hname, e, he, hvouches, req,
        (inProgress?_congr (Function.update_of_ne hne _ _)).trans hreq, hsame⟩
  · rw [hs]
    intro pid r object name next' ht'
    obtain ⟨hcall, hend⟩ := hc
    rw [hs] at hend
    by_cases hpid : pid = q
    · subst hpid
      obtain ⟨rfl, hrest⟩ : request = r ∧ next reply = .call (.remove object name) next' := by
        simpa using ht'
      obtain ⟨hname, e, he, hvouches, req, hreq, hsame⟩ := backed_of_found hv.reaches ht hx
        (hcall op (World.pending?_eq ht)).1 hrest
      refine ⟨hname, e, by simp [he], hvouches, req, ?_, hsame⟩
      by_cases hself : e.pid = pid
      · rw [inProgress?_eq_some] at hreq ⊢
        rw [hself] at hreq ⊢
        rw [World.request?_eq ht] at hreq
        exact ⟨(World.request?_eq ht').trans hreq.1, by simp [World.pending?_eq ht']⟩
      · exact (inProgress?_congr (v.afterCall_threads_ne _ _ _ _ _ hself)).trans hreq
    · rw [v.afterCall_threads_ne _ _ _ _ _ hpid] at ht'
      obtain ⟨hname, e, he, hvouches, req, hreq, hsame⟩ := hB pid r object name next' ht'
      refine ⟨hname, e, by simp [he], hvouches, req, ?_, hsame⟩
      by_cases hself : e.pid = q
      · -- The creation goes on: were this its end, no clean-up of its name would stand here.
        rw [hself] at hreq ⊢
        rw [inProgress?_eq_some]
        refine ⟨?_, fun hnone => ?_⟩
        · rw [World.request?_eq (v.afterCall_threads_self q request op next reply s'),
            ← World.request?_eq ht]
          exact (inProgress?_eq_some.mp hreq).1
        · obtain ⟨x, hx', rfl⟩ := exists_entry_of_remove hv.reaches ht'
          exact hend hnone req hreq x hx' hpid ⟨_, World.pending?_eq ht', rfl⟩ r
            (World.request?_eq ht') hsame.symm
      · exact (inProgress?_congr (v.afterCall_threads_ne _ _ _ _ _ hself)).trans hreq
  · rw [hs]
    exact hB

/-- Where clean-ups and creations keep apart, a clean-up removes only what a creation of the same
name has made that is still in progress. -/
theorem only_own_artifacts_are_removed {acts : List DockerAction}
    (h : docker.Along KeepsApart (launched containers volumes) acts) (acts' : List DockerAction)
    (pid : ℕ) (choice : DockerChoice) (hpre : acts' ++ [.exec pid choice] <+: acts)
    (object : DockerObject) (p : String × ℕ) :
    let w := docker.run (launched containers volumes) acts'
    w.pending? pid = some (.remove object p.1) → p ∈ w.state.objects object →
      ∃ r q req, w.request? pid = some r ∧ w.request? q = some (.create req) ∧
        w.pending? q ≠ none ∧ sanitizeName req.name = sanitizeName r.name ∧ MadeBy w q object p := by
  intro w hpending hp
  have hw : docker.ReachedAlong KeepsApart (launched containers volumes) w := h.before hpre
  obtain ⟨r, next, ht⟩ := World.pending?_eq_some hpending
  obtain ⟨hname, e, he, hvouches, req, hreq, hsame⟩ := backed_run hw pid r object p.1 next ht
  obtain ⟨hrequest, hgoing⟩ := inProgress?_eq_some.mp hreq
  refine ⟨r, e.pid, req, World.request?_eq ht, hrequest, hgoing, hsame, ?_⟩
  apply vouched_run hw e he object hvouches req hreq p hp
  rw [hname, objectName_inj.mpr hsame.symm]

/-! ### Sample runs -/

/-- Commands succeed, the image is there and the port is free. -/
def smooth : DockerChoice := ⟨⟨true, "", "", 0⟩, .nothing, .ok "image", none⟩

def serve (pid : ℕ) (request : DockerRequest) (calls : ℕ) : List DockerAction :=
  .spawn pid request :: List.replicate calls (.exec pid smooth)

def sampleCreate (name : String) : CreateInstanceRequest :=
  ⟨name, "13", "", 5555, false, false, false, false⟩

/-- The creation of `a` is cancelled when its container has been made. -/
def cancelledRun : List DockerAction :=
  serve 1 (.create (sampleCreate "a")) 14 ++ serve 2 (.cancel "a") 2

theorem only_own_artifacts_are_removed_once :
    let w := docker.run (launched ["rdc-b"] []) cancelledRun
    ∃ r q req, w.request? 2 = some r ∧ w.request? q = some (.create req) ∧ w.pending? q ≠ none ∧
      sanitizeName req.name = sanitizeName r.name ∧ MadeBy w q .container ("rdc-a", 2) := by
  have happart : docker.Along KeepsApart (launched ["rdc-b"] [])
      (cancelledRun ++ [.exec 2 smooth]) := by decide +kernel
  exact only_own_artifacts_are_removed happart cancelledRun 2 smooth (List.prefix_refl _) .container
    ("rdc-a", 2) (by decide +kernel) (by decide +kernel)

/-- `a` has been created, and a creation of `b` is cancelled that has not begun. -/
def otherRun : List DockerAction :=
  serve 1 (.create (sampleCreate "a")) 16 ++ serve 2 (.cancel "b") 2

theorem other_instance_is_removed :
    ¬ ∀ (containers volumes : List String) (acts acts' : List DockerAction) (pid : ℕ)
      (choice : DockerChoice), acts' ++ [.exec pid choice] <+: acts →
      ∀ (object : DockerObject) (p : String × ℕ),
        let w := docker.run (launched containers volumes) acts'
        w.pending? pid = some (.remove object p.1) → p ∈ w.state.objects object →
          ∃ r q req, w.request? pid = some r ∧ w.request? q = some (.create req) ∧
            w.pending? q ≠ none ∧ sanitizeName req.name = sanitizeName r.name ∧
              MadeBy w q object p := by
  intro h
  obtain ⟨-, -, -, -, -, -, -, e, he, -, hnew, -⟩ := h ["rdc-b"] [] (otherRun ++ [.exec 2 smooth])
    otherRun 2 smooth (List.prefix_refl _) .container ("rdc-b", 0) (by decide +kernel)
    (by decide +kernel)
  have hold : ∀ e ∈ (docker.run (launched ["rdc-b"] []) otherRun).log,
      ("rdc-b", 0) ∈ e.before.objects .container := by decide +kernel
  exact hnew (hold e he)

end JustRun.Containers
