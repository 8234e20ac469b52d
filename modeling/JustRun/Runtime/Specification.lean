import JustRun.Runtime.Sections

/-!
# What the handlers call

Each handler against the history of its own calls: a container is started right after a probe
in a turn of its own, stopped after a section has found it idle, and a node is stopped right
after a listing of it.
-/
namespace JustRun.Runtime
open Machine Concurrency

abbrev RuntimeEntry := Entry RuntimeOp RuntimeRes

/-- The call has given the request its turn. -/
def grantsTurn (request : StartRequest) : RuntimeEntry → Bool
  | ⟨.gate r _, .decided .starting _⟩ => decide (r = request)
  | ⟨.regate r _, .decided .starting _⟩ => decide (r = request)
  | ⟨.awaitTurn r _, .starting⟩ => decide (r = request)
  | _ => false

/-- The containers that a call leaves its handler free to stop. -/
def choose (held : List Placed) : RuntimeEntry → List Placed
  | ⟨.checkIdle container _, .idle _⟩ => [container]
  | ⟨.beginReclaim vm _, some candidates⟩ => candidates.map fun name => ⟨vm, name⟩
  | ⟨.checkIdle _ _, _⟩ | ⟨.beginReclaim _ _, _⟩ | ⟨.stop _, _⟩ | ⟨.endReclaim _, _⟩ => []
  | _ => held

/-- The containers found idle that the handler has not gone on to stop. -/
def chosen (h : List RuntimeEntry) : List Placed := h.foldl choose []

@[simp] theorem chosen_snoc (h : List RuntimeEntry) (entry : RuntimeEntry) :
    chosen (h ++ [entry]) = choose (chosen h) entry := by
  simp [chosen]

/-- A listing of the node has shown the container. -/
def Listed (h : List RuntimeEntry) (container : Placed) : Prop :=
  ∃ rows, (⟨.list container.vm, some rows⟩ : RuntimeEntry) ∈ h ∧
    ∃ row ∈ rows, row.instanceName = container.instanceName

/-- What a handler may call after its history. -/
def Allowed (r : RuntimeRequest) (h : List RuntimeEntry) : RuntimeOp → Prop
  | .gate request _ | .regate request _ | .awaitTurn request _ | .abandon request
  | .settle request _ => r = .requestStart request
  | .start request => r = .requestStart request ∧ ∃ h' entry pressure,
    h = h' ++ [entry, ⟨.probe, pressure⟩] ∧ grantsTurn request entry = true ∧ pressure ≠ .critical
  | .beginReclaim vm now => (∃ request, r = .requestStart request ∧ request.vm = vm) ∧
    (⟨.clock, now⟩ : RuntimeEntry) ∈ h
  | .endReclaim released => ∀ container ∈ released, Listed h container
  | .stop container => container ∈ chosen h ∧ (r = .releaseIdle container ∨
    (∃ request, r = .requestStart request) ∧ Listed h container)
  | .checkIdle container now => (r = .releaseIdle container ∨
    ∃ serial package, r = .hibernateApp container serial package) ∧
      (⟨.clock, now⟩ : RuntimeEntry) ∈ h
  | .stopVm vm => ∃ container h' rows, r = .releaseIdle container ∧ container.vm = vm ∧
    h = h' ++ [⟨.list vm, some rows⟩] ∧
      shouldStopVmAfterIdleRelease false (some rows) container.instanceName = true
  | .clear container => r = .releaseIdle container
  | .mark container _ => ∃ kind, r = .markActivity container kind
  | _ => True

abbrev Follows (r : RuntimeRequest) {α : Type} (p : RuntimeProg α) (h : List RuntimeEntry) : Prop :=
  p.Meets (Allowed r) (fun _ _ => True) h

theorem launch_follows {request : StartRequest} {h : List RuntimeEntry} {entry : RuntimeEntry}
    (hturn : grantsTurn request entry = true) :
    Follows (.requestStart request) (launch request) (h ++ [entry]) := by
  refine ⟨trivial, fun pressure => ?_⟩
  cases pressure with
  | critical => exact ⟨rfl, fun _ => trivial⟩
  | normal | caution | unknown =>
    refine ⟨⟨rfl, h, entry, _, List.append_assoc _ _ _, hturn, by decide⟩, fun result => ?_⟩
    exact ⟨rfl, fun decision => trivial⟩

theorem runTurn_follows {request : StartRequest} {h : List RuntimeEntry} {entry : RuntimeEntry}
    {decision : StartDecision} {deadline : ℕ}
    (hturn : decision = .starting → grantsTurn request entry = true) :
    Follows (.requestStart request) (runTurn request decision deadline) (h ++ [entry]) := by
  cases decision with
  | starting => exact launch_follows (hturn rfl)
  | queued =>
    refine ⟨rfl, fun reply => ?_⟩
    cases reply with
    | starting => exact launch_follows (by simp [grantsTurn])
    | cancelled => trivial
    | timedOut => trivial
  | ready => trivial
  | blocked pressure => trivial
  | failed reason => trivial

theorem selectIdleReclaimCandidate_mem {rows : List ListedInstance} {reclaimable : List String}
    {target candidate : String}
    (h : selectIdleReclaimCandidate rows reclaimable target = some candidate) :
    candidate ∈ reclaimable ∧ ∃ row ∈ rows, row.instanceName = candidate := by
  obtain ⟨name, hname, hpick⟩ := List.exists_of_findSome?_eq_some h
  split at hpick
  · cases hpick
  · split at hpick
    · cases hpick
    · next row hrow =>
      have hsame : row.instanceName = name := by simpa using List.find?_some hrow
      split at hpick
      · cases hpick
        exact ⟨hsame ▸ hname, row, List.mem_of_find?_eq_some hrow, rfl⟩
      · cases hpick

/-- The calls before a list of entries are among those after it. -/
theorem Listed.append {h : List RuntimeEntry} {container : Placed} (hl : Listed h container)
    (h' : List RuntimeEntry) : Listed (h ++ h') container := by
  obtain ⟨rows, hmem, hrow⟩ := hl
  exact ⟨rows, List.mem_append_left h' hmem, hrow⟩

/-- What is answered as released has been listed. -/
abbrev ReleasesListed (h : List RuntimeEntry) : Except String (Option Placed) → Prop
  | .ok released => ∀ container ∈ released, Listed h container
  | .error _ => True

theorem stopCandidate_follows {request : StartRequest} {h : List RuntimeEntry} {vm : String}
    {candidate : Option String}
    (hmem : ∀ name ∈ candidate, ⟨vm, name⟩ ∈ chosen h ∧ Listed h ⟨vm, name⟩) :
    (stopCandidate vm candidate).Meets (Allowed (.requestStart request)) ReleasesListed h := by
  cases candidate with
  | none => exact fun container hc => by cases hc
  | some name =>
    obtain ⟨hchosen, hlisted⟩ := hmem name rfl
    refine ⟨⟨hchosen, .inr ⟨⟨request, rfl⟩, hlisted⟩⟩, fun result => ?_⟩
    cases result with
    | error error => exact fun container hc => by cases hc
    | ok output =>
      intro container hc
      split at hc
      · cases hc
        exact hlisted.append _
      · cases hc

theorem releaseCandidate_follows {request : StartRequest} {h : List RuntimeEntry} {vm : String}
    (target : String) {candidates : List String}
    (hchosen : chosen h = candidates.map fun name => ⟨vm, name⟩) :
    (releaseCandidate vm target candidates).Meets (Allowed (.requestStart request)) ReleasesListed h := by
  refine ⟨trivial, fun rows => ?_⟩
  cases rows with
  | none => exact fun container hc => by cases hc
  | some rows =>
    apply stopCandidate_follows
    intro name hname
    obtain ⟨hmem, hrow⟩ := selectIdleReclaimCandidate_mem hname
    refine ⟨?_, rows, by simp, hrow⟩
    rw [chosen_snoc]
    simpa [choose, hchosen] using hmem

theorem tryAutoRelease_follows {request : StartRequest} {h : List RuntimeEntry}
    {now : SystemTime} (hnow : (⟨.clock, now⟩ : RuntimeEntry) ∈ h) :
    Follows (.requestStart request)
      (tryAutoReleaseIdleInstance request.vm request.instanceName now) h := by
  refine ⟨⟨⟨request, rfl, rfl⟩, hnow⟩, fun candidates => ?_⟩
  cases candidates with
  | none => trivial
  | some candidates =>
    have hchosen : chosen (h ++ [⟨.beginReclaim request.vm now, some candidates⟩]) =
        candidates.map fun name => ⟨request.vm, name⟩ := by
      rw [chosen_snoc]
      rfl
    apply Prog.Meets.bind (releaseCandidate_follows request.instanceName hchosen)
    · intro h' released _ hlisted
      exact ⟨hlisted, fun _ => trivial⟩
    · exact fun _ _ _ _ => trivial

theorem reprobeAfterGuestReclaim_follows {r : RuntimeRequest} {h : List RuntimeEntry} {vm : String}
    {pressure : MemoryPressure} {other auto : Bool} :
    Follows r (reprobeAfterGuestReclaim vm pressure other auto) h := by
  unfold reprobeAfterGuestReclaim
  split
  · refine ⟨trivial, fun freed => ?_⟩
    cases freed with
    | false => trivial
    | true => exact ⟨trivial, fun _ => trivial⟩
  · trivial

theorem reprobeAfterIdleRelease_follows {request : StartRequest} {h : List RuntimeEntry}
    {pressure : MemoryPressure} {other auto : Bool} :
    Follows (.requestStart request) (reprobeAfterIdleRelease request pressure other auto) h := by
  unfold reprobeAfterIdleRelease
  split
  · refine ⟨trivial, fun now => ?_⟩
    apply Prog.Meets.bind (tryAutoRelease_follows (List.mem_append_right h List.mem_cons_self))
    · intro h' released _ _
      cases released with
      | false => trivial
      | true => exact ⟨trivial, fun _ => trivial⟩
    · exact fun _ _ _ _ => trivial
  · trivial

theorem runtimeRequestStart_follows (request : StartRequest) :
    Follows (.requestStart request) (runtimeRequestStart request) [] := by
  refine ⟨trivial, fun pressure => ⟨rfl, fun reply => ?_⟩⟩
  cases reply with
  | decided decision deadline =>
    apply runTurn_follows
    rintro rfl
    simp [grantsTurn]
  | blocked other auto =>
    apply Prog.Meets.bind reprobeAfterGuestReclaim_follows
    · intro h pressure _ _
      apply Prog.Meets.bind reprobeAfterIdleRelease_follows
      · intro h pressure _ _
        refine ⟨rfl, fun reply => ?_⟩
        cases reply with
        | decided decision deadline =>
          apply runTurn_follows
          rintro rfl
          simp [grantsTurn]
        | blocked other auto => trivial
      · exact fun _ _ _ _ => trivial
    · exact fun _ _ _ _ => trivial

theorem stopVmAfterRelease_follows {container : Placed} {h : List RuntimeEntry} {warm : Bool} :
    Follows (.releaseIdle container) (stopVmAfterRelease container warm) h := by
  unfold stopVmAfterRelease
  split
  · trivial
  · refine ⟨trivial, fun rows => ?_⟩
    show Follows _ (stopEmptyVm container rows) _
    unfold stopEmptyVm
    cases rows with
    | none => trivial
    | some rows =>
      split
      · next hempty =>
        refine ⟨⟨container, h, rows, rfl, rfl, rfl, hempty⟩, fun result => ?_⟩
        cases result <;> trivial
      · trivial

theorem stopIdle_follows {container : Placed} {h : List RuntimeEntry} (warm : Bool)
    (hchosen : container ∈ chosen h) :
    Follows (.releaseIdle container) (stopIdle container warm) h := by
  refine ⟨⟨hchosen, .inl rfl⟩, fun result => ?_⟩
  cases result with
  | error error => trivial
  | ok output =>
    show Follows _ (if output.success then finishRelease container warm else _) _
    split
    · apply Prog.Meets.bind stopVmAfterRelease_follows
      · intro h' reason _ _
        cases reason with
        | none => exact ⟨rfl, fun _ => trivial⟩
        | some reason => trivial
      · exact fun _ _ _ _ => trivial
    · trivial

theorem runtimeReleaseIdle_follows (container : Placed) :
    Follows (.releaseIdle container) (runtimeReleaseIdle container) [] := by
  refine ⟨trivial, fun now => ⟨⟨.inl rfl, List.mem_cons_self⟩, fun reply => ?_⟩⟩
  cases reply with
  | kept isProtected => trivial
  | idle warm =>
    cases warm with
    | false => exact stopIdle_follows false (by simp [chosen, choose])
    | true => exact ⟨trivial, fun pressure => stopIdle_follows _ (by simp [chosen, choose])⟩

theorem handler_follows (r : RuntimeRequest) : Follows r r.handler [] := by
  cases r with
  | requestStart request => exact runtimeRequestStart_follows request
  | releaseIdle container => exact runtimeReleaseIdle_follows container
  | markActivity container kind =>
    show Follows _ (runtimeMarkActivity container kind) _
    unfold runtimeMarkActivity
    cases parseActivityKind kind with
    | error error => trivial
    | ok kind' => exact ⟨⟨kind, rfl⟩, fun _ => trivial⟩
  | hibernateApp container serial package =>
    show Follows _ (runtimeHibernateApp container serial package) _
    unfold runtimeHibernateApp
    split
    · trivial
    · refine ⟨trivial, fun now => ⟨⟨.inr ⟨serial, package, rfl⟩, List.mem_cons_self⟩, ?_⟩⟩
      intro reply
      cases reply with
      | kept isProtected => trivial
      | idle warm => exact ⟨trivial, fun _ => trivial⟩

end JustRun.Runtime
