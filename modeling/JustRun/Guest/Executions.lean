import JustRun.Guest.Runner

/-!
# One execution for each grant

What a runner may call is a specification of its own calls (`Permitted`). A grant is consumed
once, a marker is created once, written by the handler that consumed the grant, and removed
once; what an `activate` has read and what it removes need not be the same marker.
-/
namespace JustRun.Guest
open Machine Concurrency

/-! ### What a runner calls -/

def RunnerOp.isConsume : RunnerOp → Bool
  | consume _ => true
  | _ => false

def RunnerOp.isCreate : RunnerOp → Bool
  | createMarker _ => true
  | _ => false

def RunnerOp.isRead : RunnerOp → Bool
  | readMarker _ => true
  | _ => false

def RunnerOp.isExecute : RunnerOp → Bool
  | execute _ _ _ => true
  | _ => false

section Handler
variable (art : Artifact) (request : RunnerRequest)

/-- The claims of the grant in the request. -/
def GrantSays (grant claims : Members) : Prop :=
  request.executionGrant = some grant ∧ signedDocument art grant = some claims ∧
    ∃ jti, claims.lookup "jti" = some jti

/-- The receipt was verified for these claims. -/
def ReceiptFor (receipt claims : Members) : Prop :=
  ∃ now receiptClaims, verifyReceipt art now receipt claims = .ok receiptClaims

/-- The calls that are allowed after these ones. -/
def Permitted (h : List (Entry RunnerOp RunnerRes)) : RunnerOp → Prop
  | .consume grant => (∃ claims, GrantSays art request grant claims) ∧ ∀ e ∈ h, e.1.isConsume = false
  | .createMarker _ => ∀ e ∈ h, e.1.isCreate = false
  | .writeMarker file receipt => GuestAction.ofText request.action = some .authorize ∧
      ∃ grant claims path, GrantSays art request grant claims ∧ ReceiptFor art receipt claims ∧
        (⟨.consume grant, .ok receipt⟩ : Entry RunnerOp RunnerRes) ∈ h ∧
        (⟨.createMarker path, .ok file⟩ : Entry RunnerOp RunnerRes) ∈ h
  | .readMarker _ => ∀ e ∈ h, e.1.isRead = false
  | .unlinkMarker path => ∃ file content,
      (⟨.readMarker path, .ok (file, content)⟩ : Entry RunnerOp RunnerRes) ∈ h
  | .execute action claims marker => GuestAction.ofText request.action = some action ∧
      action ≠ .authorize ∧ (∀ e ∈ h, e.1.isExecute = false) ∧
      ∃ grant, GrantSays art request grant claims ∧ match marker with
        | none => action ≠ .activate ∧
            ∃ receipt, (⟨.consume grant, .ok receipt⟩ : Entry RunnerOp RunnerRes) ∈ h
        | some file => action = .activate ∧ ∃ path receipt removed, ReceiptFor art receipt claims ∧
            (⟨.readMarker path, .ok (file, some receipt)⟩ : Entry RunnerOp RunnerRes) ∈ h ∧
            (⟨.unlinkMarker path, .ok removed⟩ : Entry RunnerOp RunnerRes) ∈ h
  | _ => True

variable {art request}

theorem validateRunnerRequest_ok {action : GuestAction}
    (h : validateRunnerRequest request = .ok action) :
    GuestAction.ofText request.action = some action := by
  simp only [validateRunnerRequest, bind_eq_ok, orFail_eq_ok] at h
  obtain ⟨action', haction, -, -, -, -, -, -, -, -, -, -, hret⟩ := h
  cases hret
  exact haction

/-- What the checks before any effect establish. -/
theorem meets_authorizedAction {R : List (Entry RunnerOp RunnerRes) → Except String Unit → Prop}
    (he : ∀ h e, R h (.error e)) {f : GuestAction × Members → Main Unit}
    (hf : ∀ now action grant claims, GuestAction.ofText request.action = some action →
      GrantSays art request grant claims →
      (f (action, claims)).Meets (Permitted art request) R [⟨.clock, .ok now⟩]) :
    (authorizedAction art request >>= f).Meets (Permitted art request) R [] := by
  rw [authorizedAction]
  simp only [bind_assoc]
  refine Prog.meets_check he fun action haction => Prog.meets_refuse he fun _ => ?_
  refine meets_request he trivial fun now => Prog.meets_check he fun claims hclaims => ?_
  obtain ⟨grant, hgrant, hsaid, hjti⟩ := verifyExecutionGrant_ok hclaims
  exact hf now action grant claims (validateRunnerRequest_ok haction) ⟨hgrant, hsaid, hjti⟩

theorem meets_consume {R : List (Entry RunnerOp RunnerRes) → Except String Unit → Prop}
    (he : ∀ h e, R h (.error e)) {f : Members → Main Unit} {grant claims : Members}
    {h : List (Entry RunnerOp RunnerRes)} (hsaid : GrantSays art request grant claims)
    (hfirst : ∀ e ∈ h, e.1.isConsume = false)
    (hf : ∀ receipt, (f receipt).Meets (Permitted art request) R
      (h ++ [⟨.consume grant, .ok receipt⟩])) :
    (consumeExecutionGrant request >>= f).Meets (Permitted art request) R h := by
  rw [consumeExecutionGrant]
  simp only [bind_assoc]
  refine Prog.meets_present he fun grant' hgrant => ?_
  obtain rfl : grant = grant' := Option.some.inj (hsaid.1.symm.trans hgrant)
  exact meets_request he ⟨⟨claims, hsaid⟩, hfirst⟩ hf

theorem meets_protectedWork {R : List (Entry RunnerOp RunnerRes) → Except String Unit → Prop}
    (he : ∀ h e, R h (.error e)) (hr : ∀ h, R h (.ok ())) {action : GuestAction} {claims : Members}
    {marker : Option ℕ} {h : List (Entry RunnerOp RunnerRes)}
    (hp : Permitted art request h (.execute action claims marker))
    (hp' : ∀ name r, Permitted art request (h ++ [⟨.lock name, r⟩]) (.execute action claims marker)) :
    (protectedWork action request claims marker).Meets (Permitted art request) R h := by
  unfold protectedWork
  split
  · rw [← bind_pure (syscall _)]
    exact meets_request he hp fun _ => hr _
  · refine meets_request he trivial fun _ => ?_
    rw [← bind_pure (syscall (.execute _ _ _))]
    exact meets_request he (hp' _ _) fun _ => hr _

/-- An action that consumes its grant itself. -/
theorem meets_online {action : GuestAction} {now : ℤ} {grant claims : Members}
    (haction : GuestAction.ofText request.action = some action)
    (hsaid : GrantSays art request grant claims) (hne : action ≠ .authorize) (hne' : action ≠ .activate) :
    (do let _ ← consumeExecutionGrant request
        protectedWork action request claims none : Main Unit).Meets (Permitted art request)
      (fun _ _ => True) [⟨.clock, .ok now⟩] := by
  refine meets_consume (fun _ _ => trivial) hsaid (by simp [RunnerOp.isConsume]) fun receipt => ?_
  refine meets_protectedWork (fun _ _ => trivial) (fun _ => trivial) ?_ fun name r => ?_
  · exact ⟨haction, hne, by simp [RunnerOp.isExecute], grant, hsaid, hne', receipt, by simp⟩
  · exact ⟨haction, hne, by simp [RunnerOp.isExecute], grant, hsaid, hne', receipt, by simp⟩

theorem meets_writeMarker {now : ℤ} {grant claims receipt : Members}
    (haction : GuestAction.ofText request.action = some .authorize)
    (hsaid : GrantSays art request grant claims) :
    (writeExecutionAuthorizationMarker art request claims receipt).Meets (Permitted art request)
      (fun _ _ => True) ([⟨.clock, .ok now⟩] ++ [⟨.consume grant, .ok receipt⟩]) := by
  have he : ∀ (h : List (Entry RunnerOp RunnerRes)) (e : String), True := fun _ _ => trivial
  refine meets_request he trivial fun now' => ?_
  refine Prog.meets_check he fun receiptClaims hreceipt => Prog.meets_check he fun path _ => ?_
  refine meets_request he (by simp [Permitted, RunnerOp.isCreate]) fun file => ?_
  rw [Prog.meets_tryThen]
  refine ⟨?_, fun r => ?_⟩
  · exact ⟨haction, grant, claims, path, hsaid, ⟨now', receiptClaims, hreceipt⟩, by simp, by simp⟩
  · cases r with
    | error e => exact ⟨trivial, fun _ => trivial⟩
    | ok _ =>
      refine ⟨trivial, fun r => ?_⟩
      cases r with
      | error e => exact ⟨trivial, fun _ => trivial⟩
      | ok _ => trivial

theorem main_meets (art : Artifact) (request : RunnerRequest) :
    (main art request).Meets (Permitted art request) (fun _ _ => True) [] := by
  have he : ∀ (h : List (Entry RunnerOp RunnerRes)) (e : String), True := fun _ _ => trivial
  refine meets_authorizedAction he fun now action grant claims haction hsaid => ?_
  cases action with
  | authorize =>
    refine meets_consume he hsaid (by simp [RunnerOp.isConsume]) fun receipt => ?_
    exact meets_writeMarker haction hsaid
  | activate =>
    simp only [requireExecutionAuthorizationMarker, bind_assoc]
    refine Prog.meets_check he fun path hpath => ?_
    refine meets_request he (by simp [Permitted, RunnerOp.isRead]) fun marker => Prog.meets_present he fun receipt hreceipt => ?_
    refine meets_request he trivial fun now' => Prog.meets_check he fun receiptClaims hverified => ?_
    simp only [pure_bind]
    refine Prog.meets_check he fun path' hpath' => ?_
    obtain rfl : path = path' := Except.ok.inj (hpath.symm.trans hpath')
    refine meets_request he ⟨marker.1, marker.2, by simp⟩ fun removed => ?_
    have hread : marker = (marker.1, some receipt) := by rw [← hreceipt]
    refine meets_protectedWork he (fun _ => trivial) ?_ fun name r => ?_
    · refine ⟨haction, by decide, by simp [RunnerOp.isExecute], grant, hsaid, rfl, path, receipt, removed,
        ⟨now', receiptClaims, hverified⟩, ?_, by simp⟩
      rw [← hread]
      simp
    · refine ⟨haction, by decide, by simp [RunnerOp.isExecute], grant, hsaid, rfl, path, receipt, removed,
        ⟨now', receiptClaims, hverified⟩, ?_, by simp⟩
      rw [← hread]
      simp
  | build => exact meets_online haction hsaid (by decide) (by decide)
  | seed => exact meets_online haction hsaid (by decide) (by decide)
  | upgrade => exact meets_online haction hsaid (by decide) (by decide)
  | restore => exact meets_online haction hsaid (by decide) (by decide)
  | details => exact meets_online haction hsaid (by decide) (by decide)

end Handler

/-! ### What the node does -/

section Node
variable {art : Artifact} {locate : String → ℕ} {choice : RunnerChoice} {s s' : Node}

theorem exec_consume_ok {grant receipt : Members}
    (hx : Node.exec art locate choice s (.consume grant) = some (.ok receipt, s')) :
    ∃ jti, grantJti art grant = some jti ∧ jti ∉ s.consumed ∧ jti ∈ s'.consumed := by
  cases choice with
  | receipt members =>
    rw [Node.exec] at hx
    split at hx
    · cases hx
    · next jti hjti =>
      split at hx
      · cases hx
      · next hnew =>
        cases hx
        exact ⟨jti, hjti, hnew, List.mem_cons_self⟩
  | _ => cases hx

theorem exec_unlinkMarker_ok {path : String} {file : ℕ}
    (hx : Node.exec art locate choice s (.unlinkMarker path) = some (.ok file, s')) :
    s.dir (locate path) = some file ∧
      s' = { s with dir := Function.update s.dir (locate path) none } := by
  cases choice with
  | works =>
    rw [Node.exec] at hx
    split at hx
    · cases hx
    · next file' hfile =>
      cases hx
      exact ⟨hfile, rfl⟩
  | _ => cases hx

theorem exec_readMarker_ok {path : String} {file : ℕ} {content : Option Members}
    (hx : Node.exec art locate choice s (.readMarker path) = some (.ok (file, content), s')) :
    content = s.content file := by
  cases choice with
  | works =>
    rw [Node.exec] at hx
    split at hx
    · cases hx
    · cases hx
      rfl
  | _ => cases hx

/-- What a call does to the node: nothing, identifiers are accepted, a place is cleared, a new
empty file takes a place, or a file is written. -/
theorem exec_cases {op : RunnerOp} {r : RunnerRes op}
    (hx : Node.exec art locate choice s op = some (r, s')) :
    s' = s ∨ (∃ jtis, s' = { s with consumed := jtis ++ s.consumed }) ∨
    (∃ place, s' = { s with dir := Function.update s.dir place none }) ∨
    (∃ place, s' = { s with
      dir := Function.update s.dir place (some s.next)
      content := Function.update s.content s.next none
      next := s.next + 1 }) ∨
    ∃ file receipt, op = .writeMarker file receipt ∧
      s' = { s with content := Function.update s.content file (some receipt) } := by
  cases choice with
  | fault text =>
    cases hx
    exact .inl rfl
  | time now =>
    cases op with
    | clock =>
      cases hx
      exact .inl rfl
    | _ => cases hx
  | lost =>
    cases op with
    | consume grant =>
      cases hx
      exact .inr (.inl ⟨_, rfl⟩)
    | _ => cases hx
  | receipt members =>
    cases op with
    | consume grant =>
      rw [Node.exec] at hx
      split at hx
      · cases hx
        exact .inl rfl
      · next jti _ =>
        split at hx
        · cases hx
          exact .inl rfl
        · cases hx
          exact .inr (.inl ⟨[jti], rfl⟩)
    | _ => cases hx
  | works =>
    cases op with
    | clock | consume grant => cases hx
    | createMarker path =>
      rw [Node.exec] at hx
      split at hx
      · cases hx
        exact .inl rfl
      · cases hx
        exact .inr (.inr (.inr (.inl ⟨_, rfl⟩)))
    | writeMarker file receipt =>
      cases hx
      exact .inr (.inr (.inr (.inr ⟨file, receipt, rfl, rfl⟩)))
    | discardMarker path =>
      cases hx
      exact .inr (.inr (.inl ⟨_, rfl⟩))
    | readMarker path =>
      rw [Node.exec] at hx
      split at hx <;> cases hx <;> exact .inl rfl
    | unlinkMarker path =>
      rw [Node.exec] at hx
      split at hx
      · cases hx
        exact .inl rfl
      · cases hx
        exact .inr (.inr (.inl ⟨_, rfl⟩))
    | secureMarker path | lock name | execute action claims marker =>
      cases hx
      exact .inl rfl

/-- No accepted identifier is forgotten. -/
theorem exec_consumed {op : RunnerOp} {r : RunnerRes op}
    (hx : Node.exec art locate choice s op = some (r, s')) : s.consumed ⊆ s'.consumed := by
  obtain rfl | ⟨jtis, rfl⟩ | ⟨place, rfl⟩ | ⟨place, rfl⟩ | ⟨file, receipt, -, rfl⟩ := exec_cases hx
  · exact List.Subset.refl _
  · exact List.subset_append_right _ _
  · exact List.Subset.refl _
  · exact List.Subset.refl _
  · exact List.Subset.refl _

/-- What stands in a file was written there. -/
theorem exec_content {op : RunnerOp} {r : RunnerRes op} {file : ℕ} {receipt : Members}
    (hx : Node.exec art locate choice s op = some (r, s')) (hc : s'.content file = some receipt) :
    s.content file = some receipt ∨ op = .writeMarker file receipt := by
  obtain rfl | ⟨jtis, rfl⟩ | ⟨place, rfl⟩ | ⟨place, rfl⟩ | ⟨file', receipt', rfl, rfl⟩ := exec_cases hx
  · exact .inl hc
  · exact .inl hc
  · exact .inl hc
  · by_cases hfile : file = s.next
    · simp [hfile] at hc
    · exact .inl (by simpa [hfile] using hc)
  · by_cases hfile : file = file'
    · subst hfile
      refine .inr ?_
      rw [show receipt' = receipt by simpa using hc]
    · exact .inl (by simpa [hfile] using hc)

/-- Files stand below the next number, each at one place. -/
structure Node.Ordered (s : Node) : Prop where
  below : ∀ place file, s.dir place = some file → file < s.next
  apart : ∀ place place' file, s.dir place = some file → s.dir place' = some file → place = place'

/-- The file stands at no place any more. -/
def Node.Gone (s : Node) (file : ℕ) : Prop := file < s.next ∧ ∀ place, s.dir place ≠ some file

theorem Node.Ordered.clear (hs : s.Ordered) (place : ℕ) :
    Node.Ordered { s with dir := Function.update s.dir place none } := by
  have hold : ∀ p file, Function.update s.dir place none p = some file → s.dir p = some file := by
    intro p file h
    by_cases hp : p = place
    · simp [hp] at h
    · simpa [hp] using h
  exact ⟨fun p file h => hs.below p file (hold p file h),
    fun p p' file h h' => hs.apart p p' file (hold p file h) (hold p' file h')⟩

theorem Node.Ordered.exec {op : RunnerOp} {r : RunnerRes op} (hs : s.Ordered)
    (hx : Node.exec art locate choice s op = some (r, s')) : s'.Ordered := by
  obtain rfl | ⟨jtis, rfl⟩ | ⟨place, rfl⟩ | ⟨place, rfl⟩ | ⟨file, receipt, -, rfl⟩ := exec_cases hx
  · exact hs
  · exact ⟨hs.below, hs.apart⟩
  · exact hs.clear place
  · refine ⟨fun p file h => ?_, fun p p' file h h' => ?_⟩
    · by_cases hp : p = place
      · subst hp
        obtain rfl : s.next = file := by simpa using h
        exact Nat.lt_succ_self _
      · exact (hs.below p file (by simpa [hp] using h)).trans (Nat.lt_succ_self _)
    · by_cases hp : p = place
      · subst hp
        obtain rfl : s.next = file := by simpa using h
        by_contra hne
        exact absurd (hs.below p' s.next (by simpa [Ne.symm hne] using h')) (lt_irrefl _)
      · by_cases hp' : p' = place
        · subst hp'
          obtain rfl : s.next = file := by simpa using h'
          exact absurd (hs.below p s.next (by simpa [hp] using h)) (lt_irrefl _)
        · exact hs.apart p p' file (by simpa [hp] using h) (by simpa [hp'] using h')
  · exact ⟨hs.below, hs.apart⟩

theorem Node.Gone.clear {file : ℕ} (hg : s.Gone file) (place : ℕ) :
    Node.Gone { s with dir := Function.update s.dir place none } file := by
  refine ⟨hg.1, fun p h => ?_⟩
  by_cases hp : p = place
  · simp [hp] at h
  · exact hg.2 p (by simpa [hp] using h)

theorem Node.Gone.exec {op : RunnerOp} {r : RunnerRes op} {file : ℕ} (hg : s.Gone file)
    (hx : Node.exec art locate choice s op = some (r, s')) : s'.Gone file := by
  obtain rfl | ⟨jtis, rfl⟩ | ⟨place, rfl⟩ | ⟨place, rfl⟩ | ⟨file', receipt, -, rfl⟩ := exec_cases hx
  · exact hg
  · exact hg
  · exact hg.clear place
  · refine ⟨hg.1.trans (Nat.lt_succ_self _), fun p h => ?_⟩
    by_cases hp : p = place
    · subst hp
      obtain rfl : s.next = file := by simpa using h
      exact lt_irrefl _ hg.1
    · exact hg.2 p (by simpa [hp] using h)
  · exact hg

/-- A file that is removed from its only place is gone. -/
theorem Node.Ordered.gone (hs : s.Ordered) {place file : ℕ} (hfile : s.dir place = some file) :
    Node.Gone { s with dir := Function.update s.dir place none } file := by
  refine ⟨hs.below place file hfile, fun p h => ?_⟩
  by_cases hp : p = place
  · simp [hp] at h
  · exact hp (hs.apart p place file (by simpa [hp] using h) hfile)

end Node

/-! ### What happens once on a node -/

/-- The identifier that the service accepted in an entry of the log. -/
def acceptedGrant (art : Artifact) (e : RunnerEntry) : Option Field :=
  match e with
  | ⟨_, _, .consume grant, .ok _⟩ => grantJti art grant
  | _ => none

def createdFile (e : RunnerEntry) : Option ℕ :=
  match e with
  | ⟨_, _, .createMarker _, .ok file⟩ => some file
  | _ => none

def removedFile (e : RunnerEntry) : Option ℕ :=
  match e with
  | ⟨_, _, .unlinkMarker _, .ok file⟩ => some file
  | _ => none

theorem acceptedGrant_eq_some {art : Artifact} {e : RunnerEntry} {jti : Field}
    (h : acceptedGrant art e = some jti) :
    ∃ pid s grant receipt, e = ⟨pid, s, .consume grant, .ok receipt⟩ ∧ grantJti art grant = some jti := by
  obtain ⟨pid, s, op, r⟩ := e
  cases op with
  | consume grant =>
    cases r with
    | error text => cases h
    | ok receipt => exact ⟨pid, s, grant, receipt, rfl, h⟩
  | _ => cases h

theorem createdFile_eq_some {e : RunnerEntry} {file : ℕ} (h : createdFile e = some file) :
    ∃ pid s path, e = ⟨pid, s, .createMarker path, .ok file⟩ := by
  obtain ⟨pid, s, op, r⟩ := e
  cases op with
  | createMarker path =>
    cases r with
    | error text => cases h
    | ok file' =>
      obtain rfl : file' = file := Option.some.inj h
      exact ⟨pid, s, path, rfl⟩
  | _ => cases h

theorem removedFile_eq_some {e : RunnerEntry} {file : ℕ} (h : removedFile e = some file) :
    ∃ pid s path, e = ⟨pid, s, .unlinkMarker path, .ok file⟩ := by
  obtain ⟨pid, s, op, r⟩ := e
  cases op with
  | unlinkMarker path =>
    cases r with
    | error text => cases h
    | ok file' =>
      obtain rfl : file' = file := Option.some.inj h
      exact ⟨pid, s, path, rfl⟩
  | _ => cases h

section Runs
variable {art : Artifact} {locate : String → ℕ}
  {w : World Node RunnerRequest RunnerOp RunnerRes String Unit}

theorem ordered_of_reaches (hw : (runners art locate).Reaches (.init .empty) w) : w.state.Ordered := by
  refine hw.keeps ?_ ?_ ?_
  · exact ⟨fun _ _ h => (nomatch h), fun _ _ _ h => (nomatch h)⟩
  · exact fun v pid request op next choice r s' _ _ hx hs => hs.exec hx
  · exact fun place s hs => hs.clear place

/-- Each identifier is accepted once. -/
theorem accepted_once (hw : (runners art locate).Reaches (.init .empty) w) {e e' : RunnerEntry}
    (he : e ∈ w.log) (he' : e' ∈ w.log) {jti : Field} (h : acceptedGrant art e = some jti)
    (h' : acceptedGrant art e' = some jti) : e = e' := by
  refine eq_of_once (acceptedGrant art) (hw.once _ (fun jti s => jti ∈ s.consumed) ?_ ?_ ?_) he he' h h'
  · intro v pid request op next choice r s' jti _ _ hx hjti
    obtain ⟨_, _, grant, receipt, heq, hgrant⟩ := acceptedGrant_eq_some hjti
    cases heq
    obtain ⟨jti', hjti', hnew, hin⟩ := exec_consume_ok hx
    obtain rfl : jti' = jti := Option.some.inj (hjti'.symm.trans hgrant)
    exact ⟨hnew, hin⟩
  · exact fun v pid request op next choice r s' jti _ _ hx hin => exec_consumed hx hin
  · exact fun _ _ _ hin => hin

/-- Each file is removed once. -/
theorem removed_once (hw : (runners art locate).Reaches (.init .empty) w) {e e' : RunnerEntry}
    (he : e ∈ w.log) (he' : e' ∈ w.log) {file : ℕ} (h : removedFile e = some file)
    (h' : removedFile e' = some file) : e = e' := by
  refine eq_of_once removedFile (hw.once _ (fun file s => s.Gone file) ?_ ?_ ?_) he he' h h'
  · intro v pid request op next choice r s' file hv _ hx hfile
    obtain ⟨_, _, path, heq⟩ := removedFile_eq_some hfile
    cases heq
    obtain ⟨hdir, rfl⟩ := exec_unlinkMarker_ok hx
    exact ⟨fun hgone => hgone.2 _ hdir, (ordered_of_reaches hv).gone hdir⟩
  · exact fun v pid request op next choice r s' file _ _ hx hgone => hgone.exec hx
  · exact fun place s file hgone => hgone.clear place

/-- What stands in a file was written into it before. -/
theorem written_of_content (hw : (runners art locate).Reaches (.init .empty) w) {file : ℕ}
    {receipt : Members} (hc : w.state.content file = some receipt) :
    ∃ x ∈ w.log, x.op = .writeMarker file receipt := by
  revert file receipt
  refine hw.induct (fun w => ∀ {file receipt}, w.state.content file = some receipt →
    ∃ x ∈ w.log, x.op = .writeMarker file receipt) (fun hc => nomatch hc) ?_
  intro v a _ ih file receipt hc
  rcases (runners art locate).step_cases v a with h | ⟨pid, request, -, -, h⟩ |
    ⟨pid, choice, request, op, next, r, s', -, -, hx, h⟩ | ⟨place, -, h⟩
  · rw [h] at hc ⊢
    exact ih hc
  · rw [h] at hc ⊢
    exact ih hc
  · rw [h, World.afterCall_state] at hc
    rw [h, World.afterCall_log]
    obtain hold | rfl := exec_content hx hc
    · obtain ⟨x, hx, hop⟩ := ih hold
      exact ⟨x, List.mem_append_left _ hx, hop⟩
    · exact ⟨_, List.mem_append_right _ List.mem_cons_self, rfl⟩
  · rw [h] at hc ⊢
    exact ih hc

/-! ### Where an execution comes from -/

/-- The handler of an entry serves a request; these are its calls before. -/
theorem permitted_of_log (hw : (runners art locate).Reaches (.init .empty) w) {l l' : List RunnerEntry}
    {e : RunnerEntry} (hl : w.log = l ++ e :: l') :
    ∃ t, w.threads e.pid = some t ∧ Permitted art t.request (historyOf e.pid l) e.op :=
  hw.logged (main_meets art) hl

/-- An execution without a marker has consumed its grant itself. -/
theorem executed_online (hw : (runners art locate).Reaches (.init .empty) w) {e : RunnerEntry}
    (he : e ∈ w.log) {action : GuestAction} {claims : Members} (hop : e.op = .execute action claims none) :
    ∃ x ∈ w.log, x.pid = e.pid ∧ acceptedGrant art x = claims.lookup "jti" := by
  obtain ⟨l, l', hl⟩ := List.append_of_mem he
  obtain ⟨t, -, hP⟩ := permitted_of_log hw hl
  rw [hop] at hP
  obtain ⟨-, -, -, grant, ⟨-, hsaid, -⟩, -, receipt, hmem⟩ := hP
  obtain ⟨x, hx, hpid, hentry⟩ := mem_historyOf.mp hmem
  refine ⟨x, by simp [hl, hx], hpid, ?_⟩
  obtain ⟨pid, s, op, r⟩ := x
  cases hentry
  rw [acceptedGrant, grantJti, hsaid, Option.bind_some]

/-- The marker that an `activate` has read was written by the `authorize` that consumed its grant. -/
theorem executed_marker (hw : (runners art locate).Reaches (.init .empty) w) {l l' : List RunnerEntry}
    {e : RunnerEntry} (hl : w.log = l ++ e :: l') {action : GuestAction} {claims : Members} {file : ℕ}
    (hop : e.op = .execute action claims (some file)) :
    ∃ y ∈ l, ∃ receipt t grant claims', y.op = .writeMarker file receipt ∧
      ReceiptFor art receipt claims ∧ w.threads y.pid = some t ∧
      GuestAction.ofText t.request.action = some .authorize ∧
      t.request.executionGrant = some grant ∧ signedDocument art grant = some claims' ∧
      (∀ field ∈ "jti" :: receiptSharedFields, claims'.lookup field = claims.lookup field) ∧
      (∃ x ∈ w.log, x.pid = y.pid ∧ acceptedGrant art x = claims.lookup "jti") ∧
      ∃ z ∈ w.log, z.pid = y.pid ∧ createdFile z = some file := by
  obtain ⟨t₀, -, hP⟩ := permitted_of_log hw hl
  rw [hop] at hP
  obtain ⟨-, -, -, -, -, -, path, receipt, removed, hreceipt, hread, -⟩ := hP
  -- At the read the receipt stood in the file, so it had been written.
  obtain ⟨x, hx, -, hentry⟩ := mem_historyOf.mp hread
  obtain ⟨l₁, l₂, rfl⟩ := List.append_of_mem hx
  obtain ⟨pid, s, op, r⟩ := x
  cases hentry
  obtain ⟨v, choice, request, next, s', hv, hvlog, hstate, -, hexec, -⟩ := hw.point
    (show w.log = [] ++ l₁ ++ ⟨pid, s, .readMarker path, .ok (file, some receipt)⟩ :: (l₂ ++ e :: l') by
      rw [hl]; simp)
  have hvlog : v.log = l₁ := hvlog
  have hstate : v.state = s := hstate
  have hcontent := exec_readMarker_ok hexec
  rw [← hstate] at hcontent
  obtain ⟨y, hy, hyop⟩ := written_of_content hv hcontent.symm
  rw [hvlog] at hy
  -- The specification of its handler says under which grant it was written.
  obtain ⟨l₃, l₄, rfl⟩ := List.append_of_mem hy
  obtain ⟨t, ht, hP'⟩ := permitted_of_log hw (show w.log = l₃ ++ y :: (l₄ ++
    ⟨pid, s, .readMarker path, .ok (file, some receipt)⟩ :: l₂ ++ e :: l') by rw [hl]; simp)
  rw [hyop] at hP'
  obtain ⟨haction, grant, claims', path', ⟨hgrant, hsaid, -⟩, ⟨now', receiptClaims', hverified'⟩,
    hconsumed, hcreated⟩ := hP'
  obtain ⟨now, receiptClaims, hverified⟩ := hreceipt
  obtain ⟨hdoc, hshared, hjti⟩ := verifyReceipt_ok hverified
  obtain ⟨hdoc', hshared', hjti'⟩ := verifyReceipt_ok hverified'
  obtain rfl : receiptClaims = receiptClaims' := Option.some.inj (hdoc.symm.trans hdoc')
  have hsame : claims'.lookup "jti" = claims.lookup "jti" := hjti'.symm.trans hjti
  refine ⟨y, by simp, receipt, t, grant, claims', hyop, ⟨now, receiptClaims, hverified⟩, ht, haction,
    hgrant, hsaid, ?_, ?_, ?_⟩
  · rw [List.forall_mem_cons]
    exact ⟨hsame, fun field hfield => (hshared' field hfield).symm.trans (hshared field hfield)⟩
  · obtain ⟨x, hx, hpid, hentry⟩ := mem_historyOf.mp hconsumed
    refine ⟨x, by simp [hl, hx], hpid, ?_⟩
    obtain ⟨pid, s, op, r⟩ := x
    cases hentry
    rw [acceptedGrant, grantJti, hsaid, Option.bind_some, hsame]
  · obtain ⟨z, hz, hpid, hentry⟩ := mem_historyOf.mp hcreated
    refine ⟨z, by simp [hl, hz], hpid, ?_⟩
    obtain ⟨pid, s, op, r⟩ := z
    cases hentry
    rfl

/-! ### Removing the marker that was read -/

/-- If the handler is about to remove a marker, it is the one it has read. -/
def removesWhatItRead (locate : String → ℕ) (w : World Node RunnerRequest RunnerOp RunnerRes String Unit)
    (pid : ℕ) : Bool :=
  match w.pending? pid with
  | some (.unlinkMarker path) => (w.history pid).all fun
    | ⟨.readMarker path', .ok (file, _)⟩ =>
      decide (path' = path) → (w.state.dir (locate path)).all fun removed => decide (removed = file)
    | _ => true
  | _ => true

def RemovesWhatItRead (locate : String → ℕ)
    (w : World Node RunnerRequest RunnerOp RunnerRes String Unit) :
    Action RunnerRequest RunnerChoice ℕ → Prop
  | .exec pid _ => removesWhatItRead locate w pid = true
  | _ => True

/-- Under this condition every file that is removed is one that was read. -/
theorem removed_eq_read {acts : List (Action RunnerRequest RunnerChoice ℕ)}
    (h : (runners art locate).Along (RemovesWhatItRead locate) (.init .empty) acts) :
    ∀ l pid s path removed l', ((runners art locate).run (.init .empty) acts).log =
        l ++ ⟨pid, s, .unlinkMarker path, .ok removed⟩ :: l' →
      ∀ file content, (⟨.readMarker path, .ok (file, content)⟩ : Entry RunnerOp RunnerRes) ∈
        historyOf pid l → removed = file := by
  refine h.keeps (fun w => ∀ l pid s path removed l',
    w.log = l ++ ⟨pid, s, .unlinkMarker path, .ok removed⟩ :: l' → ∀ file content,
      (⟨.readMarker path, .ok (file, content)⟩ : Entry RunnerOp RunnerRes) ∈ historyOf pid l →
        removed = file) ?_ ?_
  · intro l pid s path removed l' hl
    simp [World.init] at hl
  intro v a _ hcond ih l pid s path removed l' hl file content hmem
  rcases (runners art locate).step_cases v a with hs | ⟨q, request, -, -, hs⟩ |
    ⟨q, choice, request, op, next, r, s', rfl, ht, hx, hs⟩ | ⟨place, -, hs⟩
  · rw [hs] at hl
    exact ih l pid s path removed l' hl file content hmem
  · rw [hs] at hl
    exact ih l pid s path removed l' hl file content hmem
  · rw [hs, World.afterCall_log] at hl
    rcases List.eq_nil_or_concat l' with rfl | ⟨l'', x, rfl⟩
    · -- The entry is this step.
      obtain ⟨hlog, he⟩ := List.append_inj' hl rfl
      cases he
      have hdir := (exec_unlinkMarker_ok hx).1
      have hread : removesWhatItRead locate v pid = true := hcond
      rw [removesWhatItRead, World.pending?_eq ht] at hread
      have hentry := List.all_eq_true.mp hread ⟨.readMarker path, .ok (file, content)⟩
        (by rw [World.history, hlog]; exact hmem)
      simpa [hdir] using hentry
    · rw [List.concat_eq_append, ← List.cons_append, ← List.append_assoc] at hl
      exact ih l pid s path removed l'' (List.append_inj' hl rfl).1 file content hmem
  · rw [hs] at hl
    exact ih l pid s path removed l' hl file content hmem

/-- The marker that enabled an `activate` was removed by it. -/
theorem enabling_removed {acts : List (Action RunnerRequest RunnerChoice ℕ)}
    (h : (runners art locate).Along (RemovesWhatItRead locate) (.init .empty) acts)
    (hrun : (runners art locate).run (.init .empty) acts = w) {e : RunnerEntry} (he : e ∈ w.log)
    {file : ℕ} (hfile : enablingMarker e = some file) :
    ∃ u ∈ w.log, u.pid = e.pid ∧ removedFile u = some file := by
  have hw : (runners art locate).Reaches (.init .empty) w := ⟨acts, hrun⟩
  obtain ⟨l, l', hl⟩ := List.append_of_mem he
  obtain ⟨t, -, hP⟩ := permitted_of_log hw hl
  have hop : ∃ action claims, e.op = .execute action claims (some file) := by
    rw [enablingMarker] at hfile
    split at hfile
    · next action claims marker hop => exact ⟨action, claims, hfile ▸ hop⟩
    · cases hfile
  obtain ⟨action, claims, hop⟩ := hop
  rw [hop] at hP
  obtain ⟨-, -, -, -, -, -, path, receipt, removed, -, hread, hunlink⟩ := hP
  obtain ⟨x, hx, hxpid, hxentry⟩ := mem_historyOf.mp hread
  obtain ⟨u, hu, hupid, huentry⟩ := mem_historyOf.mp hunlink
  obtain ⟨l₁, l₂, rfl⟩ := List.append_of_mem hu
  have hul : w.log = l₁ ++ u :: (l₂ ++ e :: l') := by rw [hl]; simp
  obtain ⟨t', -, hP'⟩ := permitted_of_log hw hul
  obtain ⟨pid, s, op, r⟩ := u
  cases huentry
  obtain ⟨file', content, hmem⟩ := hP'
  -- The handler has read one marker only.
  obtain ⟨x', hx', hxpid', hxentry'⟩ := mem_historyOf.mp hmem
  have hsame : x = x' := by
    refine hw.once_each (main_meets art) RunnerOp.isRead ?_ (by rw [hl]; exact List.mem_append_left _ hx)
      (by rw [hul]; exact List.mem_append_left _ hx') ?_ ?_ ?_
    · intro r h op hperm hsel
      cases op with
      | readMarker path => exact hperm
      | _ => cases hsel
    · exact hxpid.trans (hupid.symm.trans hxpid'.symm)
    · have hop : x.op = .readMarker path := congrArg Sigma.fst hxentry
      rw [hop]
      rfl
    · have hop : x'.op = .readMarker path := congrArg Sigma.fst hxentry'
      rw [hop]
      rfl
  subst hsame
  have hentries := hxentry.symm.trans hxentry'
  simp only [Sigma.mk.injEq, heq_eq_eq, true_and, Except.ok.injEq, Prod.mk.injEq] at hentries
  obtain rfl := hentries.1
  obtain rfl := removed_eq_read h l₁ pid s path removed (l₂ ++ e :: l') (by rw [hrun]; exact hul)
    file content hmem
  exact ⟨_, by rw [hul]; simp, hupid, rfl⟩

/-- No handler executes twice. -/
theorem execute_once (hw : (runners art locate).Reaches (.init .empty) w) {l l' : List RunnerEntry}
    {e e' : RunnerEntry} (hl : w.log = l ++ e :: l') (he' : e' ∈ l') (h : e.op.isExecute = true)
    (h' : e'.op.isExecute = true) : e.pid ≠ e'.pid := by
  intro hpid
  obtain ⟨l₁, l₂, rfl⟩ := List.append_of_mem he'
  obtain ⟨t, -, hP⟩ := permitted_of_log hw
    (show w.log = (l ++ e :: l₁) ++ e' :: l₂ by rw [hl]; simp)
  have hmem : e.entry ∈ historyOf e'.pid (l ++ e :: l₁) :=
    mem_historyOf.mpr ⟨e, by simp, hpid, rfl⟩
  obtain ⟨pid', s', op', r'⟩ := e'
  cases op' with
  | execute action claims marker => exact Bool.noConfusion (h.symm.trans (hP.2.2.1 _ hmem))
  | _ => cases h'

theorem executedGrant_eq_some {e : RunnerEntry} {jti : Field} (h : executedGrant e = some jti) :
    ∃ action claims marker, e.op = .execute action claims marker ∧ claims.lookup "jti" = some jti := by
  rw [executedGrant] at h
  split at h
  · next action claims marker hop => exact ⟨action, claims, marker, hop, h⟩
  · cases h

theorem enablingMarker_isExecute {e : RunnerEntry} {file : ℕ} (h : enablingMarker e = some file) :
    e.op.isExecute = true := by
  rw [enablingMarker] at h
  split at h
  · next hop => rw [hop, RunnerOp.isExecute]
  · cases h

/-- Markers that enable an `activate` enable one handler only. -/
theorem enabled_same {acts : List (Action RunnerRequest RunnerChoice ℕ)}
    (h : (runners art locate).Along (RemovesWhatItRead locate) (.init .empty) acts)
    (hrun : (runners art locate).run (.init .empty) acts = w) {e e' : RunnerEntry} (he : e ∈ w.log)
    (he' : e' ∈ w.log) {file : ℕ} (hfile : enablingMarker e = some file)
    (hfile' : enablingMarker e' = some file) : e.pid = e'.pid := by
  obtain ⟨u, hu, hupid, hremoved⟩ := enabling_removed h hrun he hfile
  obtain ⟨u', hu', hupid', hremoved'⟩ := enabling_removed h hrun he' hfile'
  obtain rfl := removed_once ⟨acts, hrun⟩ hu hu' hremoved hremoved'
  exact hupid.symm.trans hupid'

/-- Grants execute in one handler only. -/
theorem executed_same {acts : List (Action RunnerRequest RunnerChoice ℕ)}
    (h : (runners art locate).Along (RemovesWhatItRead locate) (.init .empty) acts)
    (hrun : (runners art locate).run (.init .empty) acts = w) {e e' : RunnerEntry} (he : e ∈ w.log)
    (he' : e' ∈ w.log) {jti : Field} (hjti : executedGrant e = some jti)
    (hjti' : executedGrant e' = some jti) : e.pid = e'.pid := by
  have hw : (runners art locate).Reaches (.init .empty) w := ⟨acts, hrun⟩
  -- An online execution has no marker of another handler, which serves an `authorize`.
  have hmixed : ∀ {e e' : RunnerEntry} {action action' : GuestAction} {claims claims' : Members}
      {file : ℕ}, e ∈ w.log → e' ∈ w.log → e.op = .execute action claims none →
      e'.op = .execute action' claims' (some file) → claims.lookup "jti" = some jti →
      claims'.lookup "jti" = some jti → False := by
    intro e e' action action' claims claims' file he he' hop hop' hjti hjti'
    obtain ⟨l, l', hl⟩ := List.append_of_mem he
    obtain ⟨l₁, l₁', hl₁⟩ := List.append_of_mem he'
    obtain ⟨x, hx, hxpid, hxacc⟩ := executed_online hw he hop
    obtain ⟨y, -, -, t, -, -, -, -, ht, haction, -, -, -, ⟨x', hx', hxpid', hxacc'⟩, -⟩ :=
      executed_marker hw hl₁ hop'
    obtain rfl := accepted_once hw hx hx' (hxacc.trans hjti) (hxacc'.trans hjti')
    obtain ⟨t', ht', hP⟩ := permitted_of_log hw hl
    rw [hop] at hP
    rw [← hxpid, hxpid', ht] at ht'
    obtain rfl := Option.some.inj ht'
    exact hP.2.1 (Option.some.inj (hP.1.symm.trans haction))
  obtain ⟨action, claims, marker, hop, hlookup⟩ := executedGrant_eq_some hjti
  obtain ⟨action', claims', marker', hop', hlookup'⟩ := executedGrant_eq_some hjti'
  cases marker with
  | none =>
    cases marker' with
    | none =>
      obtain ⟨x, hx, hxpid, hxacc⟩ := executed_online hw he hop
      obtain ⟨x', hx', hxpid', hxacc'⟩ := executed_online hw he' hop'
      obtain rfl := accepted_once hw hx hx' (hxacc.trans hlookup) (hxacc'.trans hlookup')
      exact hxpid.symm.trans hxpid'
    | some file => exact (hmixed he he' hop hop' hlookup hlookup').elim
  | some file =>
    cases marker' with
    | none => exact (hmixed he' he hop' hop hlookup' hlookup).elim
    | some file' =>
      obtain ⟨l, l', hl⟩ := List.append_of_mem he
      obtain ⟨l₁, l₁', hl₁⟩ := List.append_of_mem he'
      obtain ⟨y, -, -, -, -, -, -, -, -, -, -, -, -, ⟨x, hx, hxpid, hxacc⟩, z, hz, hzpid, hzfile⟩ :=
        executed_marker hw hl hop
      obtain ⟨y', -, -, -, -, -, -, -, -, -, -, -, -, ⟨x', hx', hxpid', hxacc'⟩, z', hz', hzpid', hzfile'⟩ :=
        executed_marker hw hl₁ hop'
      obtain rfl := accepted_once hw hx hx' (hxacc.trans hlookup) (hxacc'.trans hlookup')
      -- The handler that consumed the grant has created one marker.
      obtain rfl : z = z' := by
        refine hw.once_each (main_meets art) RunnerOp.isCreate ?_ hz hz' ?_ ?_ ?_
        · intro r h op hperm hsel
          cases op with
          | createMarker path => exact hperm
          | _ => cases hsel
        · exact hzpid.trans (hxpid.symm.trans (hxpid'.trans hzpid'.symm))
        · obtain ⟨pid, s, path, rfl⟩ := createdFile_eq_some hzfile
          rfl
        · obtain ⟨pid, s, path, rfl⟩ := createdFile_eq_some hzfile'
          rfl
      obtain rfl := Option.some.inj (hzfile.symm.trans hzfile')
      exact enabled_same h hrun he he' (by rw [enablingMarker, hop]) (by rw [enablingMarker, hop'])

end Runs

/-- Grants and markers are used once, and every `activate` follows an `authorize` of its grant. -/
structure OneExecution (art : Artifact) (w : World Node RunnerRequest RunnerOp RunnerRes String Unit) :
    Prop where
  grants : (w.log.filterMap executedGrant).Nodup
  markers : (w.log.filterMap enablingMarker).Nodup
  authorized : ∀ l e l' claims marker, w.log = l ++ e :: l' → e.op = .execute .activate claims marker →
    ∃ file, marker = some file ∧ ∃ y ∈ l, ∃ receipt t grant claims', y.op = .writeMarker file receipt ∧
      ReceiptFor art receipt claims ∧ w.threads y.pid = some t ∧
      GuestAction.ofText t.request.action = some .authorize ∧
      t.request.executionGrant = some grant ∧ signedDocument art grant = some claims' ∧
      ∀ field ∈ "jti" :: receiptSharedFields, claims'.lookup field = claims.lookup field

theorem one_execution_per_grant (art : Artifact) (locate : String → ℕ)
    (acts : List (Action RunnerRequest RunnerChoice ℕ))
    (h : (runners art locate).Along (RemovesWhatItRead locate) (.init .empty) acts) :
    OneExecution art ((runners art locate).run (.init .empty) acts) := by
  have hw : (runners art locate).Reaches (.init .empty) ((runners art locate).run (.init .empty) acts) :=
    ⟨acts, rfl⟩
  refine ⟨System.nodup_filterMap_of_once ?_, System.nodup_filterMap_of_once ?_, ?_⟩
  · intro l e l' hl e' he' jti hjti hjti'
    have hexec : ∀ {e : RunnerEntry}, executedGrant e = some jti → e.op.isExecute = true := by
      intro e hjti
      obtain ⟨action, claims, marker, hop, -⟩ := executedGrant_eq_some hjti
      rw [hop, RunnerOp.isExecute]
    exact execute_once hw hl he' (hexec hjti) (hexec hjti')
      (executed_same h rfl (by rw [hl]; simp) (by rw [hl]; simp [he']) hjti hjti')
  · intro l e l' hl e' he' file hfile hfile'
    exact execute_once hw hl he' (enablingMarker_isExecute hfile) (enablingMarker_isExecute hfile')
      (enabled_same h rfl (by rw [hl]; simp) (by rw [hl]; simp [he']) hfile hfile')
  · intro l e l' claims marker hl hop
    cases marker with
    | none =>
      obtain ⟨t, -, hP⟩ := permitted_of_log hw hl
      rw [hop] at hP
      obtain ⟨-, -, -, grant, -, hne, -⟩ := hP
      exact absurd rfl hne
    | some file =>
      obtain ⟨y, hy, receipt, t, grant, claims', hyop, hreceipt, ht, haction, hgrant, hsaid, hsame, -⟩ :=
        executed_marker hw hl hop
      exact ⟨file, rfl, y, hy, receipt, t, grant, claims', hyop, hreceipt, ht, haction, hgrant, hsaid,
        hsame⟩

/-! ### A marker that is replaced before it is removed -/

instance (locate : String → ℕ) (w : World Node RunnerRequest RunnerOp RunnerRes String Unit)
    (a : Action RunnerRequest RunnerChoice ℕ) : Decidable (RemovesWhatItRead locate w a) :=
  match a with
  | .exec pid _ => inferInstanceAs (Decidable (removesWhatItRead locate w pid = true))
  | .spawn _ _ => .isTrue trivial
  | .env _ => .isTrue trivial

/-- The claims of a grant, or of its receipt. -/
def sampleClaims (audience jtiField jti : String) : Members :=
  [("iss", .text "rdc-auth"), ("aud", .text audience), ("client_id", .text "c"), ("device_id", .text "d"),
    ("session_id", .text "s"), ("client_version", .text "1"), ("artifact_id", .text "r"),
    ("artifact_sha256", .text "0123456789abcdef0123456789abcdef0123456789abcdef0123456789abcdef"),
    ("action", .text "preset_apply"), ("vm", .text "v"), ("instance", .text "a"), ("iat", .int 1000),
    ("exp", .int 1300), (jtiField, .text jti), ("nonce", .text "n")]

def sampleArtifact : Artifact where
  keyId := "k"
  sha256 := "0123456789abcdef0123456789abcdef0123456789abcdef0123456789abcdef"
  decodeBase64 text := List.lookup text [("sig", List.replicate 64 0), ("grant-1", [1]), ("grant-2", [2]),
    ("receipt-1", [3]), ("receipt-2", [4])]
  verifies _ _ := true
  parse payload := List.lookup payload [([1], some (sampleClaims "rdc-guest-runner" "jti" "jti-1")),
    ([2], some (sampleClaims "rdc-guest-runner" "jti" "jti-2")),
    ([3], some (sampleClaims "rdc-qemu-center" "grant_jti" "jti-1")),
    ([4], some (sampleClaims "rdc-qemu-center" "grant_jti" "jti-2"))]

def sampleDocument (payload : String) : Members :=
  [("key_id", .text "k"), ("payload", .text payload), ("signature", .text "sig"), ("device_proof", .text "p")]

def sampleRequest (action grant : String) : RunnerRequest where
  action := action
  body := plainRequest
  vm := "v"
  executionInstance := none
  executionGrant := some (sampleDocument grant)
  executionAuthorizationPath := some "/run/rdc-presets/job-1/execution-authorized"
  context := none
  directory := ["run", "rdc-presets", "job-1"]
  baseImage := none

/-- The handler starts and makes these calls. -/
def started (pid : ℕ) (request : RunnerRequest) (choices : List RunnerChoice) :
    List (Action RunnerRequest RunnerChoice ℕ) := .spawn pid request :: choices.map (.exec pid)

def authorizing (receipt : String) : List RunnerChoice :=
  [.time 1000, .receipt (sampleDocument receipt), .time 1000, .works, .works, .works]

/-- Two handlers activate under the same grant; between reading and removing the marker of one of
them, the other one goes through and a marker of another grant takes the place. -/
def replacedMarker : List (Action RunnerRequest RunnerChoice ℕ) :=
  started 0 (sampleRequest "authorize" "grant-1") (authorizing "receipt-1") ++
  started 1 (sampleRequest "activate" "grant-1") [.time 1000, .works, .time 1000] ++
  started 2 (sampleRequest "activate" "grant-1") [.time 1000, .works, .time 1000, .works, .works, .works] ++
  started 3 (sampleRequest "authorize" "grant-2") (authorizing "receipt-2") ++
  [.exec 1 .works, .exec 1 .works, .exec 1 .works]

theorem grant_executes_twice : ¬ ∀ (art : Artifact) (locate : String → ℕ)
    (acts : List (Action RunnerRequest RunnerChoice ℕ)),
    OneExecution art ((runners art locate).run (.init .empty) acts) := by
  intro hclaim
  have hnodup := (hclaim sampleArtifact (fun _ => 0) replacedMarker).grants
  have hlog : ((runners sampleArtifact fun _ => 0).run (.init .empty) replacedMarker).log.filterMap
      executedGrant = [.text "jti-1", .text "jti-1"] := by decide +kernel
  rw [hlog] at hnodup
  exact absurd hnodup (by decide)

/-- An `authorize`, then the `activate` it is for. -/
def activated : List (Action RunnerRequest RunnerChoice ℕ) :=
  started 0 (sampleRequest "authorize" "grant-1") (authorizing "receipt-1") ++
  started 1 (sampleRequest "activate" "grant-1") [.time 1000, .works, .time 1000, .works, .works, .works]

theorem one_execution_per_grant_activated :
    OneExecution sampleArtifact ((runners sampleArtifact fun _ => 0).run (.init .empty) activated) ∧
      ((runners sampleArtifact fun _ => 0).run (.init .empty) activated).log.filterMap executedGrant =
        [.text "jti-1"] :=
  ⟨one_execution_per_grant sampleArtifact (fun _ => 0) activated (by decide +kernel), by decide +kernel⟩

end JustRun.Guest
