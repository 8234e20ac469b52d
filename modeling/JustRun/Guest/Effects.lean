import JustRun.Guest.Upgrade

/-!
# What the steps of the runner do

One rule for each step, from the state in which it is made: what it leaves when it works,
and that a failing one leaves everything. A part that only asks leaves everything too.
-/
namespace JustRun.Guest
open Machine Concurrency

/-- Steps that leave the containers as they are. -/
def DockerOp.isQuiet : DockerOp → Bool
  | isPresent _ | inspect _ | volumeInspect _ | run _ | ask _ => true
  | _ => false

variable {α β ε : Type} {R : List (Entry Call fun c => Except GuestError c.op.Val) →
  Except GuestError β → Containers → Prop} {h : List (Entry Call fun c => Except GuestError c.op.Val)}
  {d d' : Containers} {name old new : String} {c : Inspected} {phase : Phase}

theorem exec_quiet {choice : Choice} {call : Call} {r : Except GuestError call.op.Val}
    (hquiet : call.op.isQuiet = true) (hx : exec choice d call = some (r, d')) : d' = d := by
  obtain ⟨phase, op⟩ := call
  cases choice with
  | fault text =>
    cases hx
    rfl
  | answer a =>
    cases op with
    | isPresent name | inspect name | volumeInspect name | run words | ask words =>
      cases hx
      rfl
    | change name what | rename old new | create name body | remove name => cases hquiet

/-- A step that Docker does not refuse in this state works or fails without effect. -/
theorem ensures_step {call : Call} {f : call.op.Val → Runner β}
    (next : Answer → call.op.Val × Containers)
    (hworks : ∀ a, perform a d call.op = (.ok (next a).1, (next a).2))
    (hfault : ∀ t, R (h ++ [⟨call, .error (.fault t)⟩]) (.error (.fault t)) d)
    (hok : ∀ a, (f (next a).1).Ensures exec R (h ++ [⟨call, .ok (next a).1⟩]) (next a).2) :
    (request call >>= f).Ensures exec R h d := by
  rw [Prog.ensures_request_bind]
  constructor
  · intro choice e d' hx
    cases choice with
    | fault t =>
      cases hx
      exact hfault t
    | answer a => simp [exec, hworks a] at hx
  · intro choice v d' hx
    cases choice with
    | fault t => cases hx
    | answer a =>
      simp only [exec, hworks a, Option.some.injEq, Prod.mk.injEq, Except.ok.injEq] at hx
      obtain ⟨rfl, rfl⟩ := hx
      exact hok a

theorem ensures_change {what : Change} {f : Unit → Runner β} (hc : d name = some c)
    (hfault : ∀ t, R (h ++ [⟨⟨phase, .change name what⟩, .error (.fault t)⟩]) (.error (.fault t)) d)
    (hok : (f ()).Ensures exec R (h ++ [⟨⟨phase, .change name what⟩, .ok ()⟩])
      (Function.update d name (some (what.apply c)))) :
    (request (Call.mk phase (.change name what)) >>= f).Ensures exec R h d :=
  ensures_step (fun _ => ((), Function.update d name (some (what.apply c))))
    (fun _ => by simp [perform, hc]) hfault fun _ => hok

theorem ensures_rename {f : Unit → Runner β} (hold : d old = some c) (hnew : d new = none)
    (hfault : ∀ t, R (h ++ [⟨⟨phase, .rename old new⟩, .error (.fault t)⟩]) (.error (.fault t)) d)
    (hok : (f ()).Ensures exec R (h ++ [⟨⟨phase, .rename old new⟩, .ok ()⟩])
      (Function.update (Function.update d old none) new (some c))) :
    (request (Call.mk phase (.rename old new)) >>= f).Ensures exec R h d :=
  ensures_step (fun _ => ((), Function.update (Function.update d old none) new (some c)))
    (fun _ => by simp [perform, hold, hnew]) hfault fun _ => hok

theorem ensures_remove {f : Unit → Runner β} (hc : d name = some c)
    (hfault : ∀ t, R (h ++ [⟨⟨phase, .remove name⟩, .error (.fault t)⟩]) (.error (.fault t)) d)
    (hok : (f ()).Ensures exec R (h ++ [⟨⟨phase, .remove name⟩, .ok ()⟩])
      (Function.update d name none)) :
    (request (Call.mk phase (.remove name)) >>= f).Ensures exec R h d :=
  ensures_step (fun _ => ((), Function.update d name none)) (fun _ => by simp [perform, hc])
    hfault fun _ => hok

theorem ensures_create {body : CreateBody} {f : Unit → Runner β} (hnone : d name = none)
    (hfault : ∀ t, R (h ++ [⟨⟨phase, .create name body⟩, .error (.fault t)⟩]) (.error (.fault t)) d)
    (hok : ∀ mounts, (f ()).Ensures exec R (h ++ [⟨⟨phase, .create name body⟩, .ok ()⟩])
      (Function.update d name (some ⟨body.config, body.hostConfig, mounts, false⟩))) :
    (request (Call.mk phase (.create name body)) >>= f).Ensures exec R h d :=
  ensures_step (fun a => ((), Function.update d name
      (some ⟨body.config, body.hostConfig, a.mounts, false⟩)))
    (fun _ => by simp [perform, hnone]) hfault fun a => hok a.mounts

/-- A name that is taken is refused. -/
theorem ensures_rename_taken {f : Unit → Runner β} (hnew : d new ≠ none)
    (hfail : ∀ e, R (h ++ [⟨⟨phase, .rename old new⟩, .error e⟩]) (.error e) d) :
    (request (Call.mk phase (.rename old new)) >>= f).Ensures exec R h d := by
  obtain ⟨other, hother⟩ := Option.ne_none_iff_exists'.mp hnew
  rw [Prog.ensures_request_bind]
  constructor
  · intro choice e d' hx
    have hd : d' = d := by
      cases choice with
      | fault t =>
        cases hx
        rfl
      | answer a => cases hold : d old <;> simp [exec, perform, hold, hother] at hx <;> exact hx.2.symm
    subst hd
    exact hfail e
  · intro choice v d' hx
    cases choice with
    | fault t => cases hx
    | answer a => cases hold : d old <;> simp [exec, perform, hold, hother] at hx

/-- A part that only asks leaves the containers as they are. -/
theorem ensures_quiet {p : Prog Call (fun c => Except GuestError c.op.Val) ε α}
    {h : List (Entry Call fun c => Except GuestError c.op.Val)}
    (hp : p.Everywhere fun call _ => call.op.isQuiet = true) :
    p.Ensures exec (fun _ _ d' => d' = d) h d :=
  hp.ensures (· = d) (fun _ _ _ _ _ hquiet hx hd => (exec_quiet hquiet hx).trans hd) rfl

/-- In a sequence such a part is passed over, whatever it answers. -/
theorem ensures_quiet_bind {p : Runner α} {f : α → Runner β}
    (hp : p.Everywhere fun call _ => call.op.isQuiet = true)
    (hf : ∀ h a, (f a).Ensures exec R h d) (he : ∀ h e, R h (.error e) d) :
    (p >>= f).Ensures exec R h d := by
  refine (ensures_quiet hp).bind ?_ ?_
  · intro h' a s' _ hs
    subst hs
    exact hf h' a
  · intro h' e s' _ hs
    subst hs
    exact he h' e

theorem ensures_inspect {f : Inspected → Runner β} (hc : d name = some c)
    (hfault : ∀ t, R (h ++ [⟨⟨phase, .inspect name⟩, .error (.fault t)⟩]) (.error (.fault t)) d)
    (hok : (f c).Ensures exec R (h ++ [⟨⟨phase, .inspect name⟩, .ok c⟩]) d) :
    (request (Call.mk phase (.inspect name)) >>= f).Ensures exec R h d :=
  ensures_step (fun _ => (c, d)) (fun _ => by simp [perform, hc]) hfault fun _ => hok

/-! ### Which steps the parts make -/

section Parts
variable {φ : Call → Prop}

theorem everywhere_request (φ : Call → Prop) {call : Call} (hcall : φ call) :
    (request call : Runner call.op.Val).Everywhere fun call _ => φ call := by
  refine ⟨hcall, fun r => ?_⟩
  cases r <;> trivial

theorem everywhere_onlyIf {b : Bool} {p : Runner Unit}
    (hp : p.Everywhere fun call _ => φ call) : (onlyIf b p).Everywhere fun call _ => φ call := by
  unfold onlyIf
  split
  · exact hp
  · trivial

theorem everywhere_raise {text : String} {b : Bool} :
    (onlyIf b (raise text)).Everywhere fun call _ => φ call :=
  everywhere_onlyIf (p := .fail (.raised text)) trivial

theorem everywhere_textIf {b : Bool} {p : Runner String}
    (hp : p.Everywhere fun call _ => φ call) : (textIf b p).Everywhere fun call _ => φ call := by
  unfold textIf
  split
  · exact hp
  · trivial

theorem everywhere_forEach {l : List α} {p : α → Runner Unit}
    (hp : ∀ x, (p x).Everywhere fun call _ => φ call) :
    (forEach l p).Everywhere fun call _ => φ call := by
  induction l with
  | nil => trivial
  | cons x rest ih => exact Prog.everywhere_bind (hp x) fun _ => ih

variable (hφ : ∀ call : Call, call.op.isQuiet = true → φ call)
include hφ

theorem everywhere_run (words : List String) :
    (run .forward words).Everywhere fun call _ => φ call :=
  everywhere_request φ (hφ _ rfl)

theorem everywhere_isPresent (name : String) :
    (isPresent .forward name).Everywhere fun call _ => φ call := by
  refine ⟨hφ _ rfl, fun r => ?_⟩
  cases r <;> trivial

theorem presentTraces_within (request : Request) :
    (presentTraces request).Everywhere fun call _ => φ call := by
  unfold presentTraces
  split
  · refine Prog.everywhere_bind (everywhere_request φ (hφ _ rfl)) fun cpuinfo => ?_
    exact Prog.everywhere_bind (everywhere_request φ (hφ _ rfl)) fun version => trivial
  · trivial

theorem everywhere_ask (words : List String) :
    (ask .forward words).Everywhere fun call _ => φ call :=
  everywhere_request φ (hφ _ rfl)

theorem copiedProps_within (container path : String) :
    (copiedProps container path).Everywhere fun call _ => φ call := by
  refine Prog.everywhere_tryThen (everywhere_run hφ _) fun r => ?_
  cases r with
  | error e => trivial
  | ok text =>
    refine Prog.everywhere_bind (everywhere_ask hφ _) fun found => ?_
    split
    · exact Prog.everywhere_bind (everywhere_run hφ _) fun _ => trivial
    · trivial

theorem imageVersion_within (image : String) :
    (imageVersion image).Everywhere fun call _ => φ call := by
  refine Prog.everywhere_bind (everywhere_run hφ _) fun container => ?_
  refine Prog.everywhere_tryThen ?_ fun outcome => ?_
  · refine Prog.everywhere_bind (copiedProps_within hφ _ _) fun props => ?_
    refine Prog.everywhere_bind (copiedProps_within hφ _ _) fun props' => ?_
    exact Prog.everywhere_ofExcept _
  · exact Prog.everywhere_bind (everywhere_run hφ _) fun _ => Prog.everywhere_ofExcept _

theorem deviceVersion_within (name : String) :
    (deviceVersion name).Everywhere fun call _ => φ call :=
  Prog.everywhere_bind (everywhere_request φ (hφ _ rfl)) fun _ => imageVersion_within hφ _

theorem volumePath_within (volume : String) :
    (volumePath volume).Everywhere fun call _ => φ call := by
  refine Prog.everywhere_bind (everywhere_request φ (hφ _ rfl)) fun info => ?_
  split
  · trivial
  · refine Prog.everywhere_bind (everywhere_ask hφ _) fun isDir => ?_
    split <;> trivial

theorem cloneVolume_within (old new : String) :
    (cloneVolume old new).Everywhere fun call _ => φ call := by
  refine Prog.everywhere_bind (volumePath_within hφ _) fun source => ?_
  refine Prog.everywhere_bind (everywhere_run hφ _) fun _ => ?_
  refine Prog.everywhere_bind (volumePath_within hφ _) fun target => ?_
  exact Prog.everywhere_bind (everywhere_run hφ _) fun _ => trivial

theorem seedAdbKeys_within (root key : String) :
    (seedAdbKeys root key).Everywhere fun call _ => φ call := by
  refine Prog.everywhere_bind (everywhere_ask hφ _) fun present => ?_
  refine Prog.everywhere_bind (everywhere_textIf (everywhere_run hφ _)) fun existing => ?_
  refine Prog.everywhere_bind (everywhere_onlyIf ?_) fun _ => ?_
  · exact Prog.everywhere_bind (everywhere_run hφ _) fun _ => trivial
  · refine Prog.everywhere_bind (everywhere_run hφ _) fun _ => ?_
    exact Prog.everywhere_bind (everywhere_run hφ _) fun _ => trivial

theorem seedMagisk_within (root : String) (request : Request) :
    (seedMagisk root request).Everywhere fun call _ => φ call := by
  refine Prog.everywhere_bind (everywhere_run hφ _) fun _ => ?_
  refine Prog.everywhere_bind (everywhere_run hφ _) fun _ => ?_
  refine Prog.everywhere_bind (everywhere_run hφ _) fun _ => ?_
  refine Prog.everywhere_bind (everywhere_ask hφ _) fun isConf => ?_
  refine Prog.everywhere_bind (everywhere_onlyIf ?_) fun _ => ?_
  · exact Prog.everywhere_bind (everywhere_run hφ _) fun _ => trivial
  · refine everywhere_forEach fun module => ?_
    refine Prog.everywhere_bind (everywhere_ask hφ _) fun isDir => ?_
    exact everywhere_onlyIf (Prog.everywhere_bind (everywhere_run hφ _) fun _ => trivial)

theorem seedData_within (volume : String) (request : Request) :
    (seedData volume request).Everywhere fun call _ => φ call := by
  refine Prog.everywhere_bind (volumePath_within hφ _) fun root => ?_
  refine Prog.everywhere_bind (everywhere_run hφ _) fun _ => ?_
  refine Prog.everywhere_bind (everywhere_onlyIf (seedAdbKeys_within hφ _ _)) fun _ => ?_
  refine Prog.everywhere_bind (everywhere_onlyIf (seedMagisk_within hφ _ _)) fun _ => ?_
  refine Prog.everywhere_bind (everywhere_ask hφ _) fun isCloak => everywhere_onlyIf ?_
  refine Prog.everywhere_bind (everywhere_run hφ _) fun _ => ?_
  refine Prog.everywhere_bind (everywhere_run hφ _) fun _ => ?_
  exact Prog.everywhere_bind (everywhere_run hφ _) fun _ => trivial

theorem waitBoot_within (name : String) (preset : Bool) (polls : ℕ) (last : String) :
    (waitBoot name preset polls last).Everywhere fun call _ => φ call := by
  induction polls generalizing last with
  | zero => trivial
  | succ polls ih =>
    refine Prog.everywhere_bind (everywhere_ask hφ _) fun early => ?_
    split
    · trivial
    · refine Prog.everywhere_tryThen (everywhere_run hφ _) fun r => ?_
      cases r with
      | error e => exact ih _
      | ok last' =>
        dsimp only
        split
        · trivial
        · exact ih _

theorem activateMagisk_within {name : String} (hrestart : φ ⟨.forward, .change name .restart⟩)
    (request : Request) : (activateMagisk name request).Everywhere fun call _ => φ call := by
  refine Prog.everywhere_bind (everywhere_request φ hrestart) fun _ => ?_
  refine Prog.everywhere_bind (waitBoot_within hφ _ _ _ _) fun _ => ?_
  refine Prog.everywhere_bind (everywhere_run hφ _) fun checks => ?_
  refine Prog.everywhere_bind (everywhere_raise) fun _ => ?_
  refine Prog.everywhere_bind (everywhere_run hφ _) fun magiskd => ?_
  refine Prog.everywhere_bind (everywhere_textIf (everywhere_run hφ _)) fun zygiskd => ?_
  refine Prog.everywhere_bind (everywhere_raise) fun _ => ?_
  refine Prog.everywhere_bind (everywhere_forEach fun module => ?_) fun _ => ?_
  · exact Prog.everywhere_bind (everywhere_run hφ _) fun _ => trivial
  refine Prog.everywhere_bind (everywhere_onlyIf ?_) fun _ => everywhere_forEach fun prop => ?_
  · exact Prog.everywhere_bind (everywhere_run hφ _) fun _ => everywhere_raise
  · exact Prog.everywhere_bind (everywhere_run hφ _) fun _ => everywhere_raise

theorem activate_within {name : String} (hrestart : φ ⟨.forward, .change name .restart⟩)
    (request : Request) : (activate name request).Everywhere fun call _ => φ call := by
  refine Prog.everywhere_bind (waitBoot_within hφ _ _ _ _) fun _ => ?_
  refine Prog.everywhere_bind (everywhere_onlyIf (activateMagisk_within hφ hrestart _)) fun _ => ?_
  refine Prog.everywhere_bind (everywhere_onlyIf ?_) fun _ => ?_
  · refine Prog.everywhere_bind (everywhere_forEach fun package => ?_) fun _ => ?_
    · exact Prog.everywhere_bind (everywhere_run hφ _) fun _ => everywhere_raise
    · exact Prog.everywhere_bind (everywhere_run hφ _) fun _ => trivial
  refine Prog.everywhere_bind (everywhere_onlyIf ?_) fun _ => ?_
  · refine Prog.everywhere_bind (everywhere_run hφ _) fun _ => ?_
    refine Prog.everywhere_bind (everywhere_run hφ _) fun result => ?_
    exact Prog.everywhere_bind (everywhere_textIf (everywhere_run hφ _)) fun _ => everywhere_raise
  · exact Prog.everywhere_bind (everywhere_run hφ _) fun _ => trivial

end Parts
end JustRun.Guest
