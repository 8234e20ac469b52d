import JustRun.Authorization.Runs

/-!
# Replay of signed requests and of grants

A signed request reserves its key in the nonce table. The reservation outlives
the acceptance window of the request, unless an attempt with a later clock
reading prunes it: a handler that has stalled since its own reading is then
accepted a second time.
-/
namespace JustRun.Authorization
open Machine Relational Concurrency

/-- The reservation a logged call has made. -/
def reservation? : ServiceEntry → Option (Reservation String)
  | ⟨_, _, .consumeNonce key now, some true⟩ => some ⟨key, now⟩
  | _ => none

/-- The clock reading of a logged attempt to reserve. -/
def attemptedAt? : ServiceEntry → Option ℤ
  | ⟨_, _, .consumeNonce _ now, _⟩ => some now
  | _ => none

theorem reservation?_eq_some {e : ServiceEntry} {r : Reservation String} :
    reservation? e = some r ↔
      e = ⟨e.pid, e.before, .consumeNonce r.key r.usedAt, some true⟩ := by
  obtain ⟨pid, s, op, res⟩ := e
  constructor
  · intro h
    unfold reservation? at h
    split at h
    · next heq => cases heq; cases h; rfl
    · cases h
  · intro h
    rw [h]
    rfl

/-- The reservation of a handler that got past `consume_nonce`. -/
theorem exists_reservation?_iff {w : ServiceWorld} {pid : ℕ} {r : Reservation String} :
    (∃ e ∈ w.log, e.pid = pid ∧ reservation? e = some r) ↔
      Answered (w.history pid) (.consumeNonce r.key r.usedAt) true := by
  rw [answered_iff]
  constructor
  · rintro ⟨e, he, rfl, hr⟩
    exact ⟨e.before, reservation?_eq_some.mp hr ▸ he⟩
  · rintro ⟨s, he⟩
    exact ⟨_, he, rfl, rfl⟩

variable {cfg : Config}

theorem exec_consumeNonce {s s' : State} {choice : Choice} {key : String} {now : ℤ} {v : Bool}
    (h : s.exec cfg choice (.consumeNonce key now) = some (some v, s')) :
    (s.usedNonces.reserve (saturatingSub now nonceRetentionSecs) key now).1 = v ∧
      s'.usedNonces = (s.usedNonces.reserve (saturatingSub now nonceRetentionSecs) key now).2 := by
  rcases State.exec_cases h with ⟨hnone, -⟩ | ⟨draw, v', hv, heff, -⟩
  · cases hnone
  · cases hv
    have heff' := Option.some.inj heff
    exact ⟨congrArg Prod.fst heff', congrArg (fun p => p.2.usedNonces) heff'.symm⟩

/-- A call keeps every reservation that its own horizon, if it has one, does not pass. -/
theorem exec_keeps_reservation {s s' : State} {choice : Choice} {call : Call}
    {res : Option call.Val} (h : s.exec cfg choice call = some (res, s')) {r : Reservation String}
    (hr : r ∈ s.usedNonces)
    (hlate : ∀ key now, call = .consumeNonce key now →
      saturatingSub now nonceRetentionSecs ≤ r.usedAt) : r ∈ s'.usedNonces := by
  cases call with
  | consumeNonce key now =>
    have hle := hlate key now rfl
    cases res with
    | some v =>
      rw [(exec_consumeNonce h).2]
      exact ReplayCache.reserve_keeps hr hle
    | none =>
      rcases State.exec_cases h with ⟨-, rfl | ⟨nonce, now', hcall, rfl⟩⟩ | ⟨_, _, hv, -⟩
      · exact hr
      · cases hcall
        exact ReplayCache.mem_prune.mpr ⟨hr, hle⟩
      · cases hv
  | _ => rw [(exec_frame h).usedNonces rfl]; exact hr

/-- The reading of an attempt is a clock reading, within the window of its stamp. -/
theorem Reachable.attempt {w : ServiceWorld} (hw : Reachable cfg w) {pid : ℕ} {request : Request}
    {key : String} {now : ℤ} {next : Option Bool → Handler Response}
    (ht : w.threads pid = some ⟨request, .call (.consumeNonce key now) next⟩) :
    ∃ (t : Reading) (stamp : Stamp), now = t.val ∧ request.stamp? cfg = some stamp ∧
      stamp.key = key ∧ t - requestMaxAgeSecs ≤ stamp.iat ∧ stamp.iat ≤ t + maxClockSkewSecs := by
  obtain ⟨t, stamp, rfl, -, hstamp, hkey, htime⟩ := (hw.meets ht).1
  exact ⟨t, stamp, rfl, hstamp, hkey, (validateRequestTime_iff stamp.iat t).mp htime⟩

/-- A reservation stays while no attempt reads a clock beyond its retention. -/
theorem Reachable.reservation_stays {w : ServiceWorld} (hw : Reachable cfg w)
    {l l' : List ServiceEntry} {e : ServiceEntry} (hl : w.log = l ++ e :: l')
    {r : Reservation String} (hr : reservation? e = some r)
    (hl' : ∀ x ∈ l', ∀ now, attemptedAt? x = some now → now ≤ r.usedAt + nonceRetentionSecs) :
    r ∈ w.state.usedNonces := by
  have hmade := reservation?_eq_some.mp hr
  refine hw.holds_since (fun s => r ∈ s.usedNonces) (fun x => ∀ now, attemptedAt? x = some now →
    now ≤ r.usedAt + nonceRetentionSecs) hl hl' ?_ ?_ ?_
  · intro choice s' hx
    rw [hmade] at hx
    rw [(exec_consumeNonce hx).2]
    exact ReplayCache.reserve_adds (exec_consumeNonce hx).1
  · intro v pid request call next choice res s' hv ht hx hlate hmem
    refine exec_keeps_reservation hx hmem fun key now hcall => ?_
    subst hcall
    obtain ⟨t, stamp, rfl, -⟩ := hv.attempt ht
    have hle := hlate t.val rfl
    rw [t.saturatingSub_eq (by decide) (by decide)]
    omega
  · intro move s hmem
    rw [State.move_usedNonces]
    exact hmem

/-- The logged call took a handler of a request in `same` past `consume_nonce`. -/
def passes (same : Request → Bool) (w : ServiceWorld) (e : ServiceEntry) : Bool :=
  (w.request? e.pid).any same && (reservation? e).isSome

def Passed (same : Request → Bool) (w : ServiceWorld) (pid : ℕ) : Prop :=
  ∃ e ∈ w.log, e.pid = pid ∧ passes same w e = true

/-- Attempts after a pass of a request in `same` have read the clock no later than
the retention period after that pass had read it. -/
def Unpruned (same : Request → Bool) (w : ServiceWorld) : Prop :=
  w.log.Pairwise fun e x => passes same w e = true →
    ∀ r ∈ reservation? e, ∀ now ∈ attemptedAt? x, now ≤ r.usedAt + nonceRetentionSecs

/-- A step of a run without stalled replays: before a handler of a request in
`same` attempts its reservation, no other attempt has pruned an earlier one. -/
def Prompt (same : Request → Bool) (w : ServiceWorld) : ServiceAction → Prop
  | .exec pid _ => (w.request? pid).any same = true →
      ((w.pending? pid).any fun | .consumeNonce .. => true | _ => false) = true → Unpruned same w
  | _ => True

instance (same : Request → Bool) (w : ServiceWorld) : Decidable (Unpruned same w) :=
  inferInstanceAs (Decidable (List.Pairwise _ _))

instance (same : Request → Bool) (w : ServiceWorld) (a : ServiceAction) :
    Decidable (Prompt same w a) :=
  match a with
  | .exec _ _ => inferInstanceAs (Decidable (_ → _ → Unpruned same w))
  | .spawn .. | .env _ => isTrue trivial

instance (same : Request → Bool) (w : ServiceWorld) (pid : ℕ) : Decidable (Passed same w pid) :=
  inferInstanceAs (Decidable (∃ e ∈ w.log, e.pid = pid ∧ passes same w e = true))

/-- A reservation carries the key of its handler's stamp and lies in its window. -/
theorem Reachable.reserved {w : ServiceWorld} (hw : Reachable cfg w) {e : ServiceEntry}
    (he : e ∈ w.log) {r : Reservation String} (hr : reservation? e = some r) {request : Request}
    (hreq : w.request? e.pid = some request) {stamp : Stamp}
    (hstamp : request.stamp? cfg = some stamp) :
    r.key = stamp.key ∧ r.usedAt - requestMaxAgeSecs ≤ stamp.iat ∧
      stamp.iat ≤ r.usedAt + maxClockSkewSecs := by
  obtain ⟨l, l', hl⟩ := List.append_of_mem he
  obtain ⟨t, ht, hguard⟩ := hw.guarded hl
  obtain rfl : t.request = request := by simpa [World.request?, ht] using hreq
  rw [reservation?_eq_some.mp hr] at hguard
  obtain ⟨now, stamp', hnow, -, hstamp', hkey, htime⟩ := hguard
  obtain rfl : stamp' = stamp := by simpa [hstamp] using hstamp'.symm
  rw [hnow]
  exact ⟨hkey.symm, (validateRequestTime_iff stamp'.iat now).mp htime⟩

/-- While no attempt has pruned the first pass, a second one is refused. -/
theorem refuses_second {same : Request → Bool} {stamp : Stamp}
    (hsame : ∀ request, same request = true → request.stamp? cfg = some stamp) {w : ServiceWorld}
    (hw : Reachable cfg w) {e : ServiceEntry} (he : e ∈ w.log) (hp : passes same w e = true)
    {pid : ℕ} {request : Request} {key : String} {now : ℤ} {next : Option Bool → Handler Response}
    (ht : w.threads pid = some ⟨request, .call (.consumeNonce key now) next⟩)
    (hs : same request = true) (hunpruned : Unpruned same w) {choice : Choice} {s' : State} :
    w.state.exec cfg choice (.consumeNonce key now) ≠ some (some true, s') := by
  intro hx
  obtain ⟨hany, hr⟩ := Bool.and_eq_true_iff.mp hp
  obtain ⟨r, hr⟩ := Option.isSome_iff_exists.mp hr
  obtain ⟨first, hfirst, hfirstSame⟩ := (Option.any_eq_true _ _).mp hany
  obtain ⟨hkey, hold, hnew⟩ := hw.reserved he hr hfirst (hsame first hfirstSame)
  obtain ⟨t, stamp', rfl, hstamp', rfl, hold', hnew'⟩ := hw.attempt ht
  obtain rfl : stamp' = stamp := by simpa [hsame request hs] using hstamp'.symm
  -- The first reservation is still there, and its retention has not passed.
  have hmem : r ∈ w.state.usedNonces := by
    obtain ⟨l, l', hl⟩ := List.append_of_mem he
    refine hw.reservation_stays hl hr fun x hx now hnow => ?_
    have hpair := hunpruned
    rw [Unpruned, hl, List.pairwise_append] at hpair
    exact (List.pairwise_cons.mp hpair.2.1).1 x hx hp r hr now hnow
  have hlt := ReplayCache.reserve_accepts_iff.mp (exec_consumeNonce hx).1 r hmem hkey
  rw [t.saturatingSub_eq (by decide) (by decide)] at hlt
  simp only [nonceRetentionSecs, requestMaxAgeSecs, maxClockSkewSecs] at *
  omega

/-- What passes is settled when it is logged. -/
theorem passes_of_reaches {same : Request → Bool} {w w' : ServiceWorld} (hw : Reachable cfg w)
    (h : (service cfg).Reaches w w') {e : ServiceEntry} (he : e ∈ w.log) :
    passes same w' e = passes same w e := by
  rw [passes, hw.logged_request h he, passes]

/-- Requests of one stamp pass at most once in a run without stalled replays. -/
theorem stamp_passes_once (same : Request → Bool) (stamp : Stamp)
    (hsame : ∀ request, same request = true → request.stamp? cfg = some stamp) (clock : Reading)
    (canonical : String → Option Path) (files : Path → Option (List UInt8))
    (acts : List ServiceAction)
    (h : System.Along (service cfg) (Prompt same) (start clock canonical files) acts) {p q : ℕ}
    (hp : Passed same ((service cfg).run (start clock canonical files) acts) p)
    (hq : Passed same ((service cfg).run (start clock canonical files) acts) q) : p = q := by
  obtain ⟨e, he, rfl, hpe⟩ := hp
  obtain ⟨e', he', rfl, hpe'⟩ := hq
  refine h.keeps (fun w => ∀ e ∈ w.log, ∀ e' ∈ w.log, passes same w e = true →
    passes same w e' = true → e.pid = e'.pid) ?_ ?_ e he e' he' hpe hpe'
  · intro e he
    simp [start, World.init] at he
  clear hpe hpe' he he' e e'
  intro v a hv hprompt ih
  have hvr : Reachable cfg v := ⟨clock, canonical, files, hv⟩
  have hstep : (service cfg).Reaches v ((service cfg).step v a) := .step _ v a
  have hold : ∀ e ∈ v.log, passes same ((service cfg).step v a) e = passes same v e :=
    fun e he => passes_of_reaches hvr hstep he
  rcases service_step_cases cfg v a with h | ⟨q, request, -, -, h⟩ |
    ⟨pid, choice, request, op, next, res, s', rfl, ht, hx, h⟩ | ⟨move, -, h⟩
  · rw [h]
    exact ih
  · intro e he e' he' hp hp'
    rw [h] at he he'
    exact ih e he e' he' (hold e he ▸ hp) (hold e' he' ▸ hp')
  · -- After a pass, the entry that this step logs is none.
    have hnew : ∀ e ∈ v.log, passes same v e = true →
        passes same ((service cfg).step v (.exec pid choice)) ⟨pid, v.state, op, res⟩ = false := by
      intro e he hp
      by_contra hne
      obtain ⟨hany, hr⟩ := Bool.and_eq_true_iff.mp (Bool.eq_true_of_not_eq_false hne)
      obtain ⟨r, hr⟩ := Option.isSome_iff_exists.mp hr
      have hs : same request = true := by
        rw [hstep.request? (World.request?_eq ht)] at hany
        exact hany
      obtain ⟨rfl, hres⟩ : op = .consumeNonce r.key r.usedAt ∧ HEq res (some true) := by
        simpa using reservation?_eq_some.mp hr
      obtain rfl := eq_of_heq hres
      refine refuses_second hsame hvr he hp ht hs ?_ hx
      exact hprompt (by simp [World.request?_eq ht, hs]) (by simp [World.pending?_eq ht])
    intro e he e' he' hp hp'
    rw [h, World.afterCall_log, List.mem_append, List.mem_singleton] at he he'
    rcases he with he | rfl <;> rcases he' with he' | rfl
    · exact ih e he e' he' (hold e he ▸ hp) (hold e' he' ▸ hp')
    · rw [hnew e he (hold e he ▸ hp)] at hp'
      cases hp'
    · rw [hnew e' he' (hold e' he' ▸ hp')] at hp
      cases hp
    · rfl
  · intro e he e' he' hp hp'
    rw [h] at he he'
    exact ih e he e' he' (hold e he ▸ hp) (hold e' he' ▸ hp')

/-- Fewer requests ask less of a run. -/
theorem Prompt.mono {same same' : Request → Bool} (hsub : ∀ r, same' r = true → same r = true)
    {w : ServiceWorld} {a : ServiceAction} (h : Prompt same w a) : Prompt same' w a := by
  cases a with
  | spawn pid request => trivial
  | env move => trivial
  | exec pid choice =>
    intro hs hpending
    have hany : ∀ p, (w.request? p).any same' = true → (w.request? p).any same = true := by
      intro p hp
      obtain ⟨r, hr, hsr⟩ := (Option.any_eq_true _ _).mp hp
      exact (Option.any_eq_true _ _).mpr ⟨r, hr, hsub r hsr⟩
    refine (h (hany pid hs) hpending).imp fun {e x} hex hp => hex ?_
    obtain ⟨hp, hr⟩ := Bool.and_eq_true_iff.mp hp
    exact Bool.and_eq_true_iff.mpr ⟨hany e.pid hp, hr⟩

/-- A signed request passes at most once in every run in which none of its handlers
attempts the reservation after a later reading has pruned an earlier pass. -/
theorem signed_request_passes_once (request : Request) (stamp : Stamp)
    (hsigned : request.stamp? cfg = some stamp) (clock : Reading)
    (canonical : String → Option Path) (files : Path → Option (List UInt8))
    (acts : List ServiceAction)
    (h : System.Along (service cfg) (Prompt (· = request)) (start clock canonical files) acts)
    {p q : ℕ}
    (hp : Passed (· = request) ((service cfg).run (start clock canonical files) acts) p)
    (hq : Passed (· = request) ((service cfg).run (start clock canonical files) acts) q) :
    p = q := by
  refine stamp_passes_once (· = request) stamp (fun r hr => ?_) clock canonical files acts h hp hq
  obtain rfl : r = request := by simpa using hr
  exact hsigned

/-- A device sends its request twice, and the second handler reads the clock at once. -/
def promptRun : List ServiceAction :=
  sampleEnroll 0 "client" "device" ++ serve 2 (.createSession (sampleSession "client" "device" "n" 1300)) ["", "", ""] ++
    serve 3 (.createSession (sampleSession "client" "device" "n" 1300)) ["", "", ""]

theorem signed_request_passes_once_prompt :
    Passed (· = .createSession (sampleSession "client" "device" "n" 1300))
      ((service sampleConfig).run sampleStart promptRun) 2 ∧
    ∀ q, Passed (· = .createSession (sampleSession "client" "device" "n" 1300))
      ((service sampleConfig).run sampleStart promptRun) q → q = 2 := by
  have hp : Passed (· = .createSession (sampleSession "client" "device" "n" 1300))
      ((service sampleConfig).run sampleStart promptRun) 2 := by decide +kernel
  refine ⟨hp, fun q hq => ?_⟩
  exact signed_request_passes_once (.createSession (sampleSession "client" "device" "n" 1300)) ⟨"n", 1300⟩ rfl _ _ _ _
    (by decide +kernel) hq hp

/-- One second past the retention of a nonce used at the sampled start. -/
def sampleLapse : Reading := ⟨1601, by decide⟩

/-- The second handler reads the clock 600 seconds after the first, and stalls until a
request with a reading one second later has pruned the nonce. -/
def stalledRun : List ServiceAction :=
  sampleEnroll 0 "client" "device" ++ serve 2 (.createSession (sampleSession "client" "device" "n" 1300)) ["", "", ""] ++
    .env (.tick ⟨1600, by decide⟩) ::
    serve 3 (.createSession (sampleSession "client" "device" "n" 1300)) ["", ""] ++
    .env (.tick sampleLapse) ::
    serve 4 (.createSession (sampleSession "client" "device" "m" 1601)) ["", "", ""] ++ [.exec 3 (.run ⟨"", []⟩)]

theorem stalled_request_passes_twice :
    ¬ ∀ (cfg : Config) (request : Request) (stamp : Stamp), request.stamp? cfg = some stamp →
      ∀ (clock : Reading) (canonical : String → Option Path) (files : Path → Option (List UInt8))
        (acts : List ServiceAction) (p q : ℕ),
        Passed (· = request) ((service cfg).run (start clock canonical files) acts) p →
        Passed (· = request) ((service cfg).run (start clock canonical files) acts) q → p = q := by
  intro h
  have heq := h sampleConfig (.createSession (sampleSession "client" "device" "n" 1300)) ⟨"n", 1300⟩ rfl
    ⟨1000, by decide⟩ samplePath sampleFiles stalledRun 2 3
    (by decide +kernel) (by decide +kernel)
  exact absurd heq (by decide)

end JustRun.Authorization
