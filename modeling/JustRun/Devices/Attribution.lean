import JustRun.Devices.Listing

/-!
# Which container a row names

The criteria for a container look at text: a longer port has the serial as a part, a name may be
a part of the serial, and a port is compared without the host. A container counts as shown as
soon as some row has one of its ports.
-/
namespace JustRun.Devices
open Machine

/-! ### Serials and ports -/

/-- Host and port of a serial, which may have an IPv6 host in brackets. -/
def serialAddress (serial : String) : Option (String × UInt16) :=
  match (splitOn ':' serial).reverse with
  | port :: host :: rest => (parseU16 port).map (joinWith ':' (host :: rest).reverse, ·)
  | _ => none

def isLoopbackHost (host : String) : Bool :=
  host == "localhost" || host == "[::1]" ||
    match (splitOn '.' host).map parseU16 with
    | [some a, some b, some c, some d] => a == 127 && b ≤ 255 && c ≤ 255 && d ≤ 255
    | _ => false

def boundPorts (ports : String) : List UInt16 := (splitOn ',' ports).filterMap partPort

/-- The serial is that of the container: a loopback host with one of its bound ports. -/
def isBound (serial : String) (c : DockerContainer) : Bool :=
  match serialAddress serial with
  | some (host, port) => isLoopbackHost host && (boundPorts c.ports).contains port
  | none => false

/-- The first container that is looked up for the serial and has it. -/
def owner (containers : List DockerContainer) (serial : String) : Option DockerContainer :=
  containers.find? fun c => criteria serial c && isBound serial c

/-! ### The claim and the condition -/

variable (adbDevices : List AdbDevice) (containers : List DockerContainer)

def redroids : List DockerContainer := containers.filter (·.isRedroid)

/-- The serials of which the container is the owner. -/
def servedBy (c : DockerContainer) : List AdbDevice :=
  (adbDevices.filter AdbDevice.isListed).filter fun d => decide (owner containers d.serial = some c)

/-- Rows name the containers of their serials, and all serials and Redroid containers once. -/
structure RowsRight : Prop where
  attributed : ∀ d ∈ adbDevices, d.isListed = true → ∀ row ∈ listDevices adbDevices containers,
    row.serial = d.serial → ∀ c ∈ containers, row.containerId = c.id → isBound d.serial c = true
  serials : ∀ d ∈ adbDevices, d.isListed = true →
    (listDevices adbDevices containers).countP (·.serial == d.serial) = 1
  shown : ∀ c ∈ containers, c.isRedroid = true →
    (listDevices adbDevices containers).countP (·.containerId == c.id) = 1

/-- A container that meets a criterion without being bound comes after one that is. -/
def MeetsBoundFirst (serial : String) : Prop :=
  ∀ before c after, containers = before ++ c :: after → criteria serial c = true →
    isBound serial c = true ∨ ∃ c' ∈ before, criteria serial c' = true ∧ isBound serial c' = true

/-- The container owns one listed serial. Or it owns none, and neither a listed serial has one of
its ports nor an earlier container that owns none. -/
def ShownOnce (before : List DockerContainer) (c : DockerContainer) : Prop :=
  (servedBy adbDevices containers c).length = 1 ∨ servedBy adbDevices containers c = [] ∧
    (∀ d ∈ adbDevices, d.isListed = true → portMatch d.serial c.ports = false) ∧
    ∀ c' ∈ before, servedBy adbDevices containers c' = [] → portMatch (ownSerial c') c.ports = false

structure WellAssigned : Prop where
  bound : ∀ d ∈ adbDevices, d.isListed = true → MeetsBoundFirst containers d.serial
  distinct : ((adbDevices.filter AdbDevice.isListed).map AdbDevice.serial).Nodup
  once : ∀ before c after, redroids containers = before ++ c :: after →
    ShownOnce adbDevices containers before c

/-! ### Ports in texts -/

theorem dropSign_of_digits {chars : List Char} (h : ∀ c ∈ chars, c.isDigit = true) :
    dropSign chars = chars := by
  unfold dropSign
  split
  · exact absurd (h '+' List.mem_cons_self) (by decide)
  · rfl

theorem parseU16_toString (port : UInt16) : parseU16 (toString port) = some port := by
  have htext : (toString port).toList = Nat.toDigits 10 port.toNat := by
    show (toString port.toNat).toList = _
    rw [Nat.toString_eq_repr, Nat.toList_repr]
  have hdigits : ∀ c ∈ Nat.toDigits 10 port.toNat, c.isDigit = true := fun c hc =>
    Nat.isDigit_of_mem_toDigits (by decide) (by decide) hc
  have hne : Nat.toDigits 10 port.toNat ≠ [] := Nat.toDigits_ne_nil
  have hvalue : Nat.ofDigitChars 10 (Nat.toDigits 10 port.toNat) 0 = port.toNat :=
    Nat.ofDigitChars_toDigits (by decide) (by decide)
  rw [parseU16, htext, dropSign_of_digits hdigits, hvalue,
    if_pos ⟨hne, List.all_eq_true.mpr hdigits, port.toNat_lt⟩, UInt16.ofNat_toNat]

theorem parsePort_own (port : UInt16) :
    parsePortFromSerial ("127.0.0.1:" ++ toString port) = some port := by
  have hcolon : ':' ∉ (toString port).toList := by
    show ':' ∉ (toString port.toNat).toList
    exact not_mem_repr (by decide) _
  have hsplit : splitOn ':' ("127.0.0.1:" ++ toString port) = ["127.0.0.1", toString port] := by
    have hjoin : "127.0.0.1:" ++ toString port = joinWith ':' ["127.0.0.1", toString port] := by
      apply String.toList_inj.mp
      simp [joinWith]
    rw [hjoin, splitOn_joinWith (by simp)]
    intro column hcolumn
    rcases List.mem_cons.mp hcolumn with rfl | hcolumn
    · decide
    · rwa [List.mem_singleton.mp hcolumn]
  rw [parsePortFromSerial, hsplit]
  exact parseU16_toString port

/-- A container has the port of the serial that it is shown under. -/
theorem portMatch_ownSerial {c : DockerContainer} (h : ownSerial c ≠ "") :
    portMatch (ownSerial c) c.ports = true := by
  unfold ownSerial at h ⊢
  cases hport : extractHostPort c.ports with
  | none => simp [hport] at h
  | some port =>
    obtain ⟨part, hpart, hvalue⟩ := List.exists_of_findSome?_eq_some hport
    simp only [portMatch, parsePort_own]
    exact List.any_eq_true.mpr ⟨part, hpart, by simp [hvalue]⟩

/-! ### Rows -/

section Fold
variable {devices : List DeviceInfo} {c : DockerContainer}

theorem addContainer_eq (devices : List DeviceInfo) (c : DockerContainer) :
    addContainer devices c = devices ++ if isShown devices c then [] else [containerRow c] := by
  unfold addContainer
  split <;> simp [*]

theorem isShown_mono {devices' : List DeviceInfo} (h : devices ⊆ devices')
    (hs : isShown devices c = true) : isShown devices' c = true := by
  obtain ⟨row, hrow, hshown⟩ := List.any_eq_true.mp hs
  exact List.any_eq_true.mpr ⟨row, h hrow, hshown⟩

/-- The rows of the second pass are those of containers which the first rows do not show. -/
theorem foldl_addContainer (devices : List DeviceInfo) (l : List DockerContainer) :
    ∃ own, l.foldl addContainer devices = devices ++ own ∧
      ∀ row ∈ own, ∃ c ∈ l, row = containerRow c ∧ isShown devices c = false := by
  induction l generalizing devices with
  | nil => exact ⟨[], by simp, by simp⟩
  | cons c l ih =>
    have hmono : devices ⊆ addContainer devices c := by
      rw [addContainer_eq]
      exact List.subset_append_left _ _
    obtain ⟨own, hown, hrows⟩ := ih (addContainer devices c)
    refine ⟨(if isShown devices c then [] else [containerRow c]) ++ own, ?_, fun row hrow => ?_⟩
    · rw [List.foldl_cons, hown, addContainer_eq, List.append_assoc]
    · rcases List.mem_append.mp hrow with hrow | hrow
      · split at hrow
        · cases hrow
        · next hnew =>
          exact ⟨c, List.mem_cons_self, List.mem_singleton.mp hrow, by simpa using hnew⟩
      · obtain ⟨c', hc', rfl, hnew⟩ := hrows row hrow
        refine ⟨c', List.mem_cons_of_mem c hc', rfl, ?_⟩
        by_contra hshown
        rw [Bool.not_eq_false] at hshown
        rw [isShown_mono hmono hshown] at hnew
        cases hnew

theorem countP_foldl_of_notMem {l : List DockerContainer} {id : String}
    (h : ∀ c ∈ l, c.id ≠ id) : (l.foldl addContainer devices).countP (·.containerId == id) =
      devices.countP (·.containerId == id) := by
  induction l generalizing devices with
  | nil => rfl
  | cons c l ih =>
    have hne : (c.id == id) = false := beq_false_of_ne (h c List.mem_cons_self)
    rw [List.foldl_cons, ih fun c hc => h c (List.mem_cons_of_mem _ hc), addContainer_eq,
      List.countP_append]
    split <;> simp [containerRow, hne]

end Fold

variable {adbDevices : List AdbDevice} {containers : List DockerContainer} {d : AdbDevice}
  {c : DockerContainer}

/-- The rows of the first pass. -/
def adbRows (adbDevices : List AdbDevice) (containers : List DockerContainer) : List DeviceInfo :=
  (adbDevices.filter AdbDevice.isListed).map (adbRow containers)

theorem mem_adbRows {row : DeviceInfo} : row ∈ adbRows adbDevices containers ↔
    ∃ d ∈ adbDevices, d.isListed = true ∧ adbRow containers d = row := by
  simp [adbRows, and_assoc]

@[simp] theorem adbRow_serial (containers : List DockerContainer) (d : AdbDevice) :
    (adbRow containers d).serial = d.serial := by
  unfold adbRow
  split <;> rfl

theorem adbRow_containerId (containers : List DockerContainer) (d : AdbDevice) :
    (adbRow containers d).containerId =
      ((matched containers d.serial).map DockerContainer.id).getD "" := by
  unfold adbRow
  split <;> simp [*]

theorem not_isShown {row : DeviceInfo} {devices : List DeviceInfo} (h : isShown devices c = false)
    (hrow : row ∈ devices) : row.containerId ≠ c.id ∧ portMatch row.serial c.ports = false := by
  have hnot := List.any_eq_false.mp h row hrow
  simpa using hnot

/-- No container is shown on its own under a listed serial. -/
theorem ownSerial_ne (hnew : isShown (adbRows adbDevices containers) c = false)
    (hd : d ∈ adbDevices) (hlisted : d.isListed = true) : ownSerial c ≠ d.serial := by
  intro hown
  have hmem : adbRow containers d ∈ adbRows adbDevices containers :=
    mem_adbRows.mpr ⟨d, hd, hlisted, rfl⟩
  have hport := (not_isShown hnew hmem).2
  rw [adbRow_serial, ← hown, portMatch_ownSerial (by rw [hown]; exact d.isWord)] at hport
  cases hport

/-- The rows: those of the serials, and some of containers that these do not show. -/
theorem listDevices_eq (adbDevices : List AdbDevice) (containers : List DockerContainer) :
    ∃ own, listDevices adbDevices containers = adbRows adbDevices containers ++ own ∧
      ∀ row ∈ own, ∃ c ∈ redroids containers, row = containerRow c ∧
        isShown (adbRows adbDevices containers) c = false :=
  foldl_addContainer _ _

theorem DockerListing.eq_of_id (L : DockerListing) {c c' : DockerContainer} (hc : c ∈ L.containers)
    (hc' : c' ∈ L.containers) (h : c.id = c'.id) : c = c' :=
  List.inj_on_of_nodup_map L.ids hc hc' h

theorem DockerListing.adbRow_containerId_iff (L : DockerListing) (hc : c ∈ L.containers) :
    (adbRow L.containers d).containerId = c.id ↔ matched L.containers d.serial = some c := by
  rw [adbRow_containerId]
  constructor
  · intro h
    cases hm : matched L.containers d.serial with
    | none =>
      rw [hm] at h
      exact absurd h.symm (L.named c hc)
    | some c' =>
      rw [hm] at h
      exact congrArg some (L.eq_of_id (List.mem_of_find?_eq_some hm) hc h)
  · intro h
    simp [h]

/-! ### The three parts -/

theorem matched_bound (h : MeetsBoundFirst containers d.serial)
    (hm : matched containers d.serial = some c) : isBound d.serial c = true := by
  obtain ⟨hcriteria, before, after, hsplit, hbefore⟩ := List.find?_eq_some_iff_append.mp hm
  rcases h before c after hsplit hcriteria with hbound | ⟨c', hc', hcriteria', -⟩
  · exact hbound
  · have hnot := hbefore c' hc'
    rw [hcriteria'] at hnot
    cases hnot

/-- Where containers that are bound come first, the container looked up is the owner. -/
theorem matched_eq_owner (h : MeetsBoundFirst containers d.serial) :
    matched containers d.serial = owner containers d.serial := by
  cases hm : matched containers d.serial with
  | none =>
    have hnone := List.find?_eq_none.mp hm
    refine (List.find?_eq_none.mpr fun c hc => ?_).symm
    simp [hnone c hc]
  | some c =>
    have hbound := matched_bound h hm
    obtain ⟨hcriteria, before, after, hsplit, hbefore⟩ := List.find?_eq_some_iff_append.mp hm
    refine (List.find?_eq_some_iff_append.mpr ⟨by simp [hcriteria, hbound], before, after, hsplit,
      fun c' hc' => ?_⟩).symm
    have hnot := hbefore c' hc'
    simp only [Bool.not_eq_true'] at hnot
    simp [hnot]

theorem attributed_iff (L : DockerListing) :
    (∀ d ∈ adbDevices, d.isListed = true → ∀ row ∈ listDevices adbDevices L.containers,
      row.serial = d.serial → ∀ c ∈ L.containers, row.containerId = c.id →
        isBound d.serial c = true) ↔
      ∀ d ∈ adbDevices, d.isListed = true → MeetsBoundFirst L.containers d.serial := by
  constructor
  · intro h d hd hlisted before c after hsplit hcriteria
    have hfound : ∀ c', matched L.containers d.serial = some c' → isBound d.serial c' = true := by
      intro c' hm
      have hc' := List.mem_of_find?_eq_some hm
      refine h d hd hlisted (adbRow L.containers d) ?_ (adbRow_serial _ d) c' hc'
        ((L.adbRow_containerId_iff hc').mpr hm)
      obtain ⟨own, hrows, -⟩ := listDevices_eq adbDevices L.containers
      rw [hrows]
      exact List.mem_append_left own (mem_adbRows.mpr ⟨d, hd, hlisted, rfl⟩)
    -- The container looked up is one of those before, or it is this one.
    cases hbefore : before.find? (criteria d.serial) with
    | some c' =>
      have hm : matched L.containers d.serial = some c' := by
        rw [matched, hsplit, List.find?_append, hbefore, Option.some_or]
      exact .inr ⟨c', List.mem_of_find?_eq_some hbefore, List.find?_some hbefore, hfound c' hm⟩
    | none =>
      have hm : matched L.containers d.serial = some c := by
        rw [matched, hsplit, List.find?_append, hbefore, Option.none_or,
          List.find?_cons_of_pos hcriteria]
      exact .inl (hfound c hm)
  · intro h d hd hlisted row hrow hserial c hc hid
    obtain ⟨own, hrows, hown⟩ := listDevices_eq adbDevices L.containers
    rw [hrows, List.mem_append] at hrow
    have hfirst : row ∈ adbRows adbDevices L.containers := by
      refine hrow.resolve_right fun hrow => ?_
      obtain ⟨c', -, rfl, hnew⟩ := hown row hrow
      exact ownSerial_ne hnew hd hlisted hserial
    obtain ⟨d', hd', hlisted', rfl⟩ := mem_adbRows.mp hfirst
    rw [adbRow_serial] at hserial
    rw [← hserial]
    exact matched_bound (h d' hd' hlisted') ((L.adbRow_containerId_iff hc).mp hid)

theorem serials_iff :
    (∀ d ∈ adbDevices, d.isListed = true →
      (listDevices adbDevices containers).countP (·.serial == d.serial) = 1) ↔
      ((adbDevices.filter AdbDevice.isListed).map AdbDevice.serial).Nodup := by
  have hcount : ∀ d ∈ adbDevices, d.isListed = true →
      (listDevices adbDevices containers).countP (·.serial == d.serial) =
        ((adbDevices.filter AdbDevice.isListed).map AdbDevice.serial).count d.serial := by
    intro d hd hlisted
    obtain ⟨own, hrows, hown⟩ := listDevices_eq adbDevices containers
    have hnone : own.countP (·.serial == d.serial) = 0 := by
      rw [List.countP_eq_zero]
      intro row hrow hserial
      obtain ⟨c, -, rfl, hnew⟩ := hown row hrow
      exact ownSerial_ne hnew hd hlisted (beq_iff_eq.mp hserial)
    rw [hrows, List.countP_append, hnone, Nat.add_zero, adbRows, List.countP_map, List.count,
      List.countP_map]
    apply List.countP_congr
    intro d' _
    simp
  rw [List.nodup_iff_count_eq_one]
  constructor
  · intro h serial hserial
    obtain ⟨d, hd, rfl⟩ := List.mem_map.mp hserial
    obtain ⟨hd, hlisted⟩ := List.mem_filter.mp hd
    exact (hcount d hd hlisted).symm.trans (h d hd hlisted)
  · intro h d hd hlisted
    rw [hcount d hd hlisted]
    exact h d.serial (List.mem_map_of_mem (List.mem_filter.mpr ⟨hd, hlisted⟩))

/-- The rows of the first pass that name a container are those of the serials it owns. -/
theorem countP_adbRows (L : DockerListing) (hc : c ∈ L.containers)
    (hbound : ∀ d ∈ adbDevices, d.isListed = true → MeetsBoundFirst L.containers d.serial) :
    (adbRows adbDevices L.containers).countP (·.containerId == c.id) =
      (servedBy adbDevices L.containers c).length := by
  rw [adbRows, List.countP_map, servedBy, ← List.countP_eq_length_filter]
  apply List.countP_congr
  intro d hd
  obtain ⟨hd, hlisted⟩ := List.mem_filter.mp hd
  rw [Function.comp_apply, beq_iff_eq, L.adbRow_containerId_iff hc, matched_eq_owner (hbound d hd hlisted),
    decide_eq_true_eq]

section Shown
variable {before after : List DockerContainer}

/-- The rows when the loop comes to a container. -/
def rowsBefore (adbDevices : List AdbDevice) (containers before : List DockerContainer) :
    List DeviceInfo := before.foldl addContainer (adbRows adbDevices containers)

/-- A container is shown by the rows of its serials, and by one more if it is not shown yet. -/
theorem countP_rows (L : DockerListing)
    (hbound : ∀ d ∈ adbDevices, d.isListed = true → MeetsBoundFirst L.containers d.serial)
    (hsplit : redroids L.containers = before ++ c :: after) :
    (listDevices adbDevices L.containers).countP (·.containerId == c.id) =
      (servedBy adbDevices L.containers c).length +
        if isShown (rowsBefore adbDevices L.containers before) c then 0 else 1 := by
  have hsub : (redroids L.containers).Sublist L.containers := List.filter_sublist
  have hids : ((redroids L.containers).map DockerContainer.id).Nodup := L.ids.sublist (hsub.map _)
  have hc : c ∈ L.containers := hsub.subset (by simp [hsplit])
  rw [hsplit, List.map_append, List.map_cons, List.nodup_append, List.nodup_cons] at hids
  obtain ⟨-, ⟨hafter, -⟩, hbefore⟩ := hids
  have hrows : listDevices adbDevices L.containers =
      after.foldl addContainer (addContainer (rowsBefore adbDevices L.containers before) c) := by
    show (redroids L.containers).foldl addContainer (adbRows adbDevices L.containers) = _
    rw [hsplit, List.foldl_append, List.foldl_cons]
    rfl
  have hnotAfter : ∀ c' ∈ after, c'.id ≠ c.id := by
    intro c' hc' hid
    rw [← hid] at hafter
    exact hafter (List.mem_map_of_mem hc')
  have hnotBefore : ∀ c' ∈ before, c'.id ≠ c.id := fun c' hc' =>
    hbefore _ (List.mem_map_of_mem hc') _ List.mem_cons_self
  rw [hrows, countP_foldl_of_notMem hnotAfter, addContainer_eq, List.countP_append, rowsBefore,
    countP_foldl_of_notMem hnotBefore, countP_adbRows L hc hbound]
  congr 1
  split <;> simp [containerRow]

/-- Rows before: those of the serials, and those of earlier containers that own no serial. -/
theorem mem_rowsBefore (L : DockerListing)
    (hbound : ∀ d ∈ adbDevices, d.isListed = true → MeetsBoundFirst L.containers d.serial)
    (hsub : ∀ c ∈ before, c ∈ L.containers) {row : DeviceInfo}
    (h : row ∈ rowsBefore adbDevices L.containers before) :
    row ∈ adbRows adbDevices L.containers ∨
      ∃ c ∈ before, row = containerRow c ∧ servedBy adbDevices L.containers c = [] := by
  obtain ⟨own, hrows, hown⟩ := foldl_addContainer (adbRows adbDevices L.containers) before
  rw [rowsBefore, hrows, List.mem_append] at h
  refine h.imp_right fun h => ?_
  obtain ⟨c, hc, rfl, hnew⟩ := hown row h
  refine ⟨c, hc, rfl, ?_⟩
  rw [← List.length_eq_zero_iff, ← countP_adbRows L (hsub c hc) hbound, List.countP_eq_zero]
  intro row hrow hid
  exact (not_isShown hnew hrow).1 (beq_iff_eq.mp hid)

theorem adbRow_mem_rowsBefore (hd : d ∈ adbDevices) (hlisted : d.isListed = true) :
    adbRow containers d ∈ rowsBefore adbDevices containers before := by
  obtain ⟨own, hrows, -⟩ := foldl_addContainer (adbRows adbDevices containers) before
  rw [rowsBefore, hrows]
  exact List.mem_append_left own (mem_adbRows.mpr ⟨d, hd, hlisted, rfl⟩)

/-- A container that no row shows when its turn comes has got one afterwards. -/
theorem containerRow_mem_rowsBefore {between : List DockerContainer}
    (hnew : isShown (rowsBefore adbDevices containers before) c = false) :
    containerRow c ∈ rowsBefore adbDevices containers (before ++ c :: between) := by
  have hgrown : addContainer (rowsBefore adbDevices containers before) c =
      rowsBefore adbDevices containers before ++ [containerRow c] := by
    rw [addContainer_eq, hnew]
    rfl
  obtain ⟨own, hrows, -⟩ := foldl_addContainer
    (addContainer (rowsBefore adbDevices containers before) c) between
  rw [rowsBefore, List.foldl_append, List.foldl_cons, ← rowsBefore, hrows, hgrown]
  simp

theorem isShown_of_servedBy (L : DockerListing) (hc : c ∈ L.containers)
    (hbound : ∀ d ∈ adbDevices, d.isListed = true → MeetsBoundFirst L.containers d.serial)
    (hserved : 0 < (servedBy adbDevices L.containers c).length) :
    isShown (rowsBefore adbDevices L.containers before) c = true := by
  rw [← countP_adbRows L hc hbound] at hserved
  obtain ⟨row, hrow, hid⟩ := List.countP_pos_iff.mp hserved
  obtain ⟨own, hrows, -⟩ := foldl_addContainer (adbRows adbDevices L.containers) before
  rw [rowsBefore, hrows]
  exact List.any_eq_true.mpr ⟨row, List.mem_append_left own hrow, by simp [hid]⟩

theorem isShown_eq_false (L : DockerListing)
    (hbound : ∀ d ∈ adbDevices, d.isListed = true → MeetsBoundFirst L.containers d.serial)
    (hsplit : redroids L.containers = before ++ c :: after)
    (hnone : servedBy adbDevices L.containers c = [])
    (hlisted : ∀ d ∈ adbDevices, d.isListed = true → portMatch d.serial c.ports = false)
    (hearlier : ∀ c' ∈ before, servedBy adbDevices L.containers c' = [] →
      portMatch (ownSerial c') c.ports = false) :
    isShown (rowsBefore adbDevices L.containers before) c = false := by
  have hsub : (redroids L.containers).Sublist L.containers := List.filter_sublist
  have hids : ((redroids L.containers).map DockerContainer.id).Nodup := L.ids.sublist (hsub.map _)
  rw [hsplit, List.map_append, List.map_cons, List.nodup_append] at hids
  have hbefore : ∀ c' ∈ before, c' ∈ L.containers := fun c' hc' => hsub.subset (by simp [hsplit, hc'])
  have hc : c ∈ L.containers := hsub.subset (by simp [hsplit])
  rw [isShown, List.any_eq_false]
  intro row hrow hshows
  rw [Bool.or_eq_true, beq_iff_eq] at hshows
  rcases mem_rowsBefore L hbound hbefore hrow with hfirst | ⟨c', hc', rfl, hnone'⟩
  · obtain ⟨d, hd, hl, rfl⟩ := mem_adbRows.mp hfirst
    rcases hshows with hid | hport
    · have hcount : (adbRows adbDevices L.containers).countP (·.containerId == c.id) = 0 := by
        rw [countP_adbRows L hc hbound, hnone, List.length_nil]
      rw [List.countP_eq_zero] at hcount
      exact hcount _ hfirst (by simp [hid])
    · rw [adbRow_serial, hlisted d hd hl] at hport
      cases hport
  · rcases hshows with hid | hport
    · exact hids.2.2 _ (List.mem_map_of_mem hc') _ List.mem_cons_self hid
    · rw [show portMatch (containerRow c').serial c.ports = portMatch (ownSerial c') c.ports from rfl,
        hearlier c' hc' hnone'] at hport
      cases hport

theorem shown_iff (L : DockerListing)
    (hbound : ∀ d ∈ adbDevices, d.isListed = true → MeetsBoundFirst L.containers d.serial) :
    (∀ c ∈ L.containers, c.isRedroid = true →
      (listDevices adbDevices L.containers).countP (·.containerId == c.id) = 1) ↔
      ∀ before c after, redroids L.containers = before ++ c :: after →
        ShownOnce adbDevices L.containers before c := by
  constructor
  · intro h
    have hcount : ∀ {before c after}, redroids L.containers = before ++ c :: after →
        (servedBy adbDevices L.containers c).length +
          (if isShown (rowsBefore adbDevices L.containers before) c then 0 else 1) = 1 := by
      intro before c after hsplit
      obtain ⟨hc, hredroid⟩ :=
        List.mem_filter.mp (show c ∈ redroids L.containers by simp [hsplit])
      exact (countP_rows L hbound hsplit).symm.trans (h c hc hredroid)
    have hnew : ∀ {before c after}, redroids L.containers = before ++ c :: after →
        servedBy adbDevices L.containers c = [] →
          isShown (rowsBefore adbDevices L.containers before) c = false := by
      intro before c after hsplit hnone
      have hone := hcount hsplit
      rw [hnone, List.length_nil] at hone
      by_contra hshown
      rw [Bool.not_eq_false] at hshown
      rw [hshown] at hone
      cases hone
    intro before c after hsplit
    by_cases hnone : servedBy adbDevices L.containers c = []
    · right
      refine ⟨hnone, fun d hd hlisted => ?_, fun c' hc' hnone' => ?_⟩
      · have hrow : adbRow L.containers d ∈ rowsBefore adbDevices L.containers before :=
          adbRow_mem_rowsBefore hd hlisted
        simpa using (not_isShown (hnew hsplit hnone) hrow).2
      · -- The earlier container has got a row of its own.
        obtain ⟨before', between, rfl⟩ := List.append_of_mem hc'
        have hsplit' : redroids L.containers = before' ++ c' :: (between ++ c :: after) := by
          simpa using hsplit
        exact (not_isShown (hnew hsplit hnone)
          (containerRow_mem_rowsBefore (hnew hsplit' hnone'))).2
    · left
      have hpos := List.length_pos_iff.mpr hnone
      have hone := hcount hsplit
      omega
  · intro h c hc hredroid
    obtain ⟨before, after, hsplit⟩ :=
      List.append_of_mem (show c ∈ redroids L.containers from List.mem_filter.mpr ⟨hc, hredroid⟩)
    rw [countP_rows L hbound hsplit]
    rcases h before c after hsplit with hone | ⟨hnone, hlisted, hearlier⟩
    · rw [hone, isShown_of_servedBy L hc hbound (by omega)]
      rfl
    · rw [hnone, isShown_eq_false L hbound hsplit hnone hlisted hearlier]
      rfl

end Shown

/-- A device in the LAN. -/
def lanDevice : AdbDevice := ⟨"192.168.1.7:5555", "device", "", "Pixel", by decide⟩

/-- One instance with the usual port. -/
def oneInstance : DockerListing where
  containers := [⟨"4f1a", "rdc-a", "redroid/redroid:13", "Up 2 hours", "127.0.0.1:5555->5555/tcp", ""⟩]
  ids := by decide
  named := by decide

end JustRun.Devices
