import JustRun.Guest.Inspect
import JustRun.Machine.Paths

/-!
# The original data of an upgraded container

The new container has the copied volume at `/data` and nothing of the original one,
provided the original volume is not also mounted through `HostConfig.Mounts` at another
target or inherited through `VolumesFrom`.
-/
namespace JustRun.Guest
open Machine

/-- The target is `/data` once Docker has cleaned it. -/
def atData (target : String) : Bool := decide (cleanComponents target = ["data"])

def bindAtData (b : String) : Bool := (bindTarget b).any atData

def mountAtData (m : HostMount) : Bool := m.target.any atData

def bindWritable (b : String) : Bool :=
  !((bindMode b).map (splitOn ',')).any fun options => options.contains "ro"

namespace HostConfig

def bindList (h : HostConfig) : List String := h.binds.getD []

def mountList (h : HostConfig) : List HostMount := h.mounts.getD []

/-- How many entries mount something at `/data`. -/
def dataEntries (h : HostConfig) : ℕ :=
  (h.bindList.filter bindAtData).length + (h.mountList.filter mountAtData).length

/-- The volume is mounted writable at `/data`, once. -/
structure MountsAtData (h : HostConfig) (volume : String) : Prop where
  once : h.dataEntries = 1
  binds : ∀ b ∈ h.bindList, bindAtData b = true → bindSource b = volume ∧ bindWritable b = true
  mounts : ∀ m ∈ h.mountList, mountAtData m = true →
    m.type = some "volume" ∧ m.source = some volume ∧ m.readOnly = false

/-- No bind, mount or inherited volume is this one; `volumesOf` are those a container mounts. -/
structure LeavesAlone (h : HostConfig) (volumesOf : String → List String) (volume : String) :
    Prop where
  binds : ∀ b ∈ h.bindList, bindSource b ≠ volume
  mounts : ∀ m ∈ h.mountList, m.type = some "volume" → m.source ≠ some volume
  inherited : ∀ entry ∈ h.volumesFrom.getD [], volume ∉ volumesOf (beforeColon entry)

/-- What is asked of the original container: its data is mounted by at most one entry, which spells
its target `/data`, and the volume is neither mounted again by an entry of `Mounts` nor inherited. -/
structure DataMountedPlainly (h : HostConfig) (volumesOf : String → List String) (volume : String) :
    Prop where
  once : h.dataEntries ≤ 1
  binds : ∀ b ∈ h.bindList, bindAtData b = true →
    bindTarget b = some "/data" ∧ bindSource b = volume ∧ bindWritable b = true
  mounts : ∀ m ∈ h.mountList, mountAtData m = true →
    m.target = some "/data" ∧ m.type = some "volume" ∧ m.readOnly = false
  elsewhere : ∀ m ∈ h.mountList, m.target ≠ some "/data" → m.type = some "volume" →
    m.source ≠ some volume
  inherited : ∀ entry ∈ h.volumesFrom.getD [], volume ∉ volumesOf (beforeColon entry)

end HostConfig

/-- Names that Docker gives volumes. -/
def isVolumeName (name : String) : Bool :=
  name.toList.head?.any Char.isAlphanum && name.toList.all fun c =>
    c.isAlphanum || c == '_' || c == '.' || c == '-'

def traceBinds (request : TraceRequest) : List String :=
  if request.cleanTraces then traceFiles.map fun trace => traceBind request.context trace.1 trace.2
  else []

/-- The traces are not mounted over the data: no colon in the context moves a target there. -/
def TracesAside (request : TraceRequest) : Prop :=
  ∀ b ∈ traceBinds request, bindAtData b = false

section Binds
variable {oldVolume newVolume b : String}

theorem isVolumeName_colon (h : isVolumeName newVolume = true) : ':' ∉ newVolume.toList := by
  simp only [isVolumeName, Bool.and_eq_true, List.all_eq_true] at h
  intro hmem
  exact absurd (h.2 ':' hmem) (by decide)

theorem isVolumeName_slash (h : isVolumeName newVolume = true) :
    newVolume.toList.head? ≠ some '/' := by
  simp only [isVolumeName, Bool.and_eq_true] at h
  intro hhead
  rw [hhead] at h
  exact absurd h.1 (by decide)

theorem beforeColon_append {s : String} (hs : ':' ∉ s.toList) {rest : List Char}
    (hrest : rest.head?.all (· = ':')) : beforeColon (String.ofList (s.toList ++ rest)) = s := by
  have hkeep : ∀ c ∈ s.toList, decide (c ≠ ':') = true := by
    intro c hc
    simpa using fun h : c = ':' => hs (h ▸ hc)
  rw [beforeColon, String.toList_ofList, List.takeWhile_append_of_pos hkeep]
  cases rest with
  | nil => simp
  | cons c rest =>
    have hc : c = ':' := by simpa using hrest
    simp [hc]

theorem afterColon_append {s : String} (hs : ':' ∉ s.toList) (rest : List Char) :
    afterColon (String.ofList (s.toList ++ rest)) = afterColon (String.ofList rest) := by
  have hkeep : ∀ c ∈ s.toList, decide (c ≠ ':') = true := by
    intro c hc
    simpa using fun h : c = ':' => hs (h ▸ hc)
  rw [afterColon, afterColon, String.toList_ofList, String.toList_ofList,
    List.dropWhile_append_of_pos hkeep]

/-- A bind is its source and a rest that starts with the first colon. -/
theorem bindSource_append (b : String) : ∃ rest, b = String.ofList ((bindSource b).toList ++ rest) ∧
    rest.head?.all (· = ':') ∧ ':' ∉ (bindSource b).toList := by
  refine ⟨b.toList.dropWhile (· ≠ ':'), ?_, ?_, ?_⟩
  · rw [bindSource, beforeColon, String.toList_ofList, List.takeWhile_append_dropWhile,
      String.ofList_toList]
  · cases hrest : b.toList.dropWhile (· ≠ ':') with
    | nil => rfl
    | cons c rest =>
      have hc := List.head?_dropWhile_not (· ≠ ':') b.toList
      rw [hrest] at hc
      simpa using hc
  · rw [bindSource, beforeColon, String.toList_ofList]
    intro hmem
    have hc := List.mem_takeWhile_imp hmem
    simp at hc

/-- The new volume takes the place of the old one; target and options stay. -/
theorem replaceVolume_spec (oldVolume : String) (hnew : ':' ∉ newVolume.toList) (b : String) :
    bindSource (replaceVolume oldVolume newVolume b) =
        (if bindSource b = oldVolume then newVolume else bindSource b) ∧
      afterColon (replaceVolume oldVolume newVolume b) = afterColon b := by
  unfold replaceVolume
  split
  · next hold =>
    obtain ⟨rest, hb, hrest, hcolon⟩ := bindSource_append b
    have hlist : b.toList = (bindSource b).toList ++ rest := by
      simpa using congrArg String.toList hb
    have hdrop : b.toList.drop oldVolume.toList.length = rest := by
      rw [← hold, hlist, List.drop_left]
    rw [hdrop]
    refine ⟨beforeColon_append hnew hrest, ?_⟩
    rw [afterColon_append hnew, hb, afterColon_append hcolon]
  · exact ⟨rfl, rfl⟩

/-- A new volume at `/data`, as it is appended where nothing is mounted there. -/
theorem dataBind_spec (hnew : ':' ∉ newVolume.toList) :
    bindSource (newVolume ++ ":/data") = newVolume ∧
      afterColon (newVolume ++ ":/data") = some "/data" := by
  have hsplit : newVolume ++ ":/data" = String.ofList (newVolume.toList ++ ":/data".toList) := by
    simp
  rw [hsplit]
  refine ⟨beforeColon_append hnew (by decide), ?_⟩
  rw [afterColon_append hnew]
  decide +kernel

theorem bindTarget_congr {b' : String} (h : afterColon b = afterColon b') :
    bindTarget b = bindTarget b' := by
  rw [bindTarget, bindTarget, h]

theorem bindAtData_congr {b' : String} (h : afterColon b = afterColon b') :
    bindAtData b = bindAtData b' := by
  rw [bindAtData, bindAtData, bindTarget_congr h]

theorem bindWritable_congr {b' : String} (h : afterColon b = afterColon b') :
    bindWritable b = bindWritable b' := by
  rw [bindWritable, bindWritable, bindMode, bindMode, h]

end Binds

theorem atData_data : atData "/data" = true := by decide +kernel

theorem bindAtData_of_target {b : String} (h : bindTarget b = some "/data") :
    bindAtData b = true := by
  rw [bindAtData, h]
  exact atData_data

/-! ### The configuration before the traces -/

section Clone
variable {inspected : Inspected} {image oldVolume newVolume : String} {body : CreateBody}
  {volumesOf : String → List String}

/-- Nothing is mounted at `/data`, spelled so: Docker shows the volume in `Mounts` only. -/
def HostConfig.anonymousData (h : HostConfig) : Bool :=
  !(h.bindList.any fun b => bindTarget b == some "/data") &&
    !(h.mountList.any fun m => m.target == some "/data")

theorem cloneConfig_ok (hnew : ':' ∉ newVolume.toList)
    (h : cloneConfig inspected image oldVolume newVolume = .ok body) :
    body.hostConfig.bindList = inspected.hostConfig.bindList.map (replaceVolume oldVolume newVolume) ++
        (if inspected.hostConfig.anonymousData then [newVolume ++ ":/data"] else []) ∧
      body.hostConfig.mountList = inspected.hostConfig.mountList.map (replaceMount newVolume) ∧
      body.hostConfig.volumesFrom = inspected.hostConfig.volumesFrom := by
  simp only [cloneConfig, bind_eq_ok, failIf_eq_ok] at h
  obtain ⟨-, -, h⟩ := h
  cases h
  have hbinds : ((inspected.hostConfig.binds.getD []).map (replaceVolume oldVolume newVolume)).any
      (fun b => bindTarget b == some "/data") =
      inspected.hostConfig.bindList.any fun b => bindTarget b == some "/data" := by
    rw [List.any_map]
    refine congrArg (List.any _) (funext fun b => ?_)
    rw [Function.comp_apply, bindTarget_congr (replaceVolume_spec oldVolume hnew b).2]
  have hmounts : ((inspected.hostConfig.mounts.map (List.map (replaceMount newVolume))).getD []) =
      inspected.hostConfig.mountList.map (replaceMount newVolume) := by
    cases hm : inspected.hostConfig.mounts <;> simp [HostConfig.mountList, hm]
  have htargets : (inspected.hostConfig.mountList.map (replaceMount newVolume)).any
      (fun m => m.target == some "/data") =
      inspected.hostConfig.mountList.any fun m => m.target == some "/data" := by
    rw [List.any_map]
    refine congrArg (List.any _) (funext fun m => ?_)
    simp only [Function.comp_apply, replaceMount]
    split <;> rfl
  refine ⟨?_, hmounts, rfl⟩
  simp only [HostConfig.bindList, Option.getD_some, hbinds, hmounts, htargets]
  split
  · next hnone => rw [if_pos (by simpa [HostConfig.anonymousData, HostConfig.bindList] using hnone)]
  · next hsome =>
    rw [if_neg (by simpa [HostConfig.anonymousData, HostConfig.bindList] using hsome),
      List.append_nil]

theorem replaceMount_spec (newVolume : String) (m : HostMount) :
    (replaceMount newVolume m).target = m.target ∧ (replaceMount newVolume m).type = m.type ∧
      (replaceMount newVolume m).readOnly = m.readOnly ∧
      (replaceMount newVolume m).source =
        if m.target = some "/data" ∧ m.type = some "volume" then some newVolume else m.source := by
  unfold replaceMount
  split <;> exact ⟨rfl, rfl, rfl, rfl⟩

theorem mountAtData_replace (m : HostMount) :
    mountAtData (replaceMount newVolume m) = mountAtData m := by
  rw [mountAtData, mountAtData, (replaceMount_spec newVolume m).1]

theorem dataEntries_map (oldVolume : String) (hnew : ':' ∉ newVolume.toList) (binds : List String)
    (mounts : List HostMount) :
    ((binds.map (replaceVolume oldVolume newVolume)).filter bindAtData).length =
        (binds.filter bindAtData).length ∧
      ((mounts.map (replaceMount newVolume)).filter mountAtData).length =
        (mounts.filter mountAtData).length := by
  constructor
  · rw [List.filter_map, List.length_map]
    refine congrArg List.length (List.filter_congr fun b _ => ?_)
    exact bindAtData_congr (replaceVolume_spec oldVolume hnew b).2
  · rw [List.filter_map, List.length_map]
    exact congrArg List.length (List.filter_congr fun m _ => mountAtData_replace m)

/-- An entry that spells its target `/data` is the only one at it. -/
theorem HostConfig.spelled_of_once {h : HostConfig} (hnot : h.anonymousData = false)
    (honce : h.dataEntries ≤ 1) : h.dataEntries = 1 ∧
      (∀ b ∈ h.bindList, bindAtData b = true → bindTarget b = some "/data") ∧
      ∀ m ∈ h.mountList, mountAtData m = true → m.target = some "/data" := by
  have hone : ∀ {α : Type} (l : List α), l.length = 1 → ∀ x ∈ l, ∀ y ∈ l, x = y := by
    intro α l hl x hx y hy
    obtain ⟨z, rfl⟩ := List.length_eq_one_iff.mp hl
    rw [List.mem_singleton.mp hx, List.mem_singleton.mp hy]
  have hnone : ∀ {α : Type} (l : List α), l.length = 0 → ∀ x, x ∉ l := by
    intro α l hl x hx
    rw [List.length_eq_zero_iff.mp hl] at hx
    cases hx
  simp only [HostConfig.anonymousData, Bool.and_eq_false_iff, Bool.not_eq_false', List.any_eq_true,
    beq_iff_eq] at hnot
  rw [HostConfig.dataEntries] at honce ⊢
  rcases hnot with ⟨b₀, hb₀, htarget⟩ | ⟨m₀, hm₀, htarget⟩
  · have hmem : b₀ ∈ h.bindList.filter bindAtData :=
      List.mem_filter.mpr ⟨hb₀, bindAtData_of_target htarget⟩
    have hpos := List.length_pos_of_mem hmem
    refine ⟨by omega, fun b hb hat => ?_, fun m hm hat => ?_⟩
    · rw [hone _ (by omega) b (List.mem_filter.mpr ⟨hb, hat⟩) b₀ hmem, htarget]
    · exact absurd (List.mem_filter.mpr ⟨hm, hat⟩) (hnone _ (by omega) m)
  · have hmem : m₀ ∈ h.mountList.filter mountAtData :=
      List.mem_filter.mpr ⟨hm₀, by rw [mountAtData, htarget]; exact atData_data⟩
    have hpos := List.length_pos_of_mem hmem
    refine ⟨by omega, fun b hb hat => ?_, fun m hm hat => ?_⟩
    · exact absurd (List.mem_filter.mpr ⟨hb, hat⟩) (hnone _ (by omega) b)
    · rw [hone _ (by omega) m (List.mem_filter.mpr ⟨hm, hat⟩) m₀ hmem, htarget]

theorem HostConfig.dataEntries_eq_zero {h : HostConfig} (hzero : h.dataEntries = 0) :
    (∀ b ∈ h.bindList, ¬ bindAtData b = true) ∧ ∀ m ∈ h.mountList, ¬ mountAtData m = true := by
  rw [HostConfig.dataEntries, Nat.add_eq_zero_iff, List.length_eq_zero_iff, List.length_eq_zero_iff,
    List.filter_eq_nil_iff, List.filter_eq_nil_iff] at hzero
  exact hzero

theorem HostConfig.dataEntries_eq_zero_of {h : HostConfig}
    (hb : ∀ b ∈ h.bindList, ¬ bindAtData b = true)
    (hm : ∀ m ∈ h.mountList, ¬ mountAtData m = true) : h.dataEntries = 0 := by
  rw [HostConfig.dataEntries, List.filter_eq_nil_iff.mpr hb, List.filter_eq_nil_iff.mpr hm]
  rfl

/-- Where an entry spells `/data`, the volume is not anonymous. -/
theorem HostConfig.anonymous_iff {h : HostConfig} : h.anonymousData = true ↔
    (∀ b ∈ h.bindList, bindTarget b ≠ some "/data") ∧
      ∀ m ∈ h.mountList, m.target ≠ some "/data" := by
  simp [HostConfig.anonymousData]

/-- The copied volume is mounted once exactly when the original one was mounted plainly. -/
theorem cloneConfig_mountsAtData (hnew : ':' ∉ newVolume.toList)
    (hfresh : ∀ b ∈ inspected.hostConfig.bindList, bindSource b ≠ newVolume)
    (h : cloneConfig inspected image oldVolume newVolume = .ok body) :
    body.hostConfig.MountsAtData newVolume ↔ inspected.hostConfig.dataEntries ≤ 1 ∧
      (∀ b ∈ inspected.hostConfig.bindList, bindAtData b = true →
        bindTarget b = some "/data" ∧ bindSource b = oldVolume ∧ bindWritable b = true) ∧
      ∀ m ∈ inspected.hostConfig.mountList, mountAtData m = true →
        m.target = some "/data" ∧ m.type = some "volume" ∧ m.readOnly = false := by
  obtain ⟨hbinds, hmounts, -⟩ := cloneConfig_ok hnew h
  obtain ⟨happend, hafter⟩ := dataBind_spec hnew
  have htarget : bindTarget (newVolume ++ ":/data") = some "/data" := by
    rw [bindTarget, hafter]
    rfl
  have hwritable : bindWritable (newVolume ++ ":/data") = true := by
    rw [bindWritable, bindMode, hafter]
    rfl
  have hcount : body.hostConfig.dataEntries = inspected.hostConfig.dataEntries +
      if inspected.hostConfig.anonymousData then 1 else 0 := by
    obtain ⟨hb, hm⟩ := dataEntries_map oldVolume hnew inspected.hostConfig.bindList
      inspected.hostConfig.mountList
    rw [HostConfig.dataEntries, HostConfig.dataEntries, hbinds, hmounts, List.filter_append,
      List.length_append, hb, hm]
    split
    · rw [List.filter_cons_of_pos (bindAtData_of_target htarget)]
      simp
      omega
    · simp
  constructor
  · intro hdata
    have honce := hdata.once
    rw [hcount] at honce
    by_cases hanon : inspected.hostConfig.anonymousData = true
    · rw [if_pos hanon] at honce
      obtain ⟨hnobind, hnomount⟩ := HostConfig.dataEntries_eq_zero (h := inspected.hostConfig) (by omega)
      exact ⟨by omega, fun b hb hat => absurd hat (hnobind b hb),
        fun m hm hat => absurd hat (hnomount m hm)⟩
    · rw [if_neg hanon] at honce
      obtain ⟨-, hspelled, hspelledMount⟩ := HostConfig.spelled_of_once (by simpa using hanon) honce.le
      refine ⟨honce.le, fun b hb hat => ?_, fun m hm hat => ?_⟩
      · obtain ⟨hsource, hrest⟩ := replaceVolume_spec oldVolume hnew b
        have hmem : replaceVolume oldVolume newVolume b ∈ body.hostConfig.bindList := by
          rw [hbinds]
          exact List.mem_append_left _ (List.mem_map_of_mem hb)
        obtain ⟨hs, hw⟩ := hdata.binds _ hmem (by rwa [bindAtData_congr hrest])
        rw [bindWritable_congr hrest] at hw
        rw [hsource] at hs
        split at hs
        · next hold => exact ⟨hspelled b hb hat, hold, hw⟩
        · exact absurd hs (hfresh b hb)
      · obtain ⟨-, htype, hro, -⟩ := replaceMount_spec newVolume m
        have hmem : replaceMount newVolume m ∈ body.hostConfig.mountList := by
          rw [hmounts]
          exact List.mem_map_of_mem hm
        obtain ⟨ht, -, hw⟩ := hdata.mounts _ hmem (by rwa [mountAtData_replace])
        exact ⟨hspelledMount m hm hat, htype ▸ ht, hro ▸ hw⟩
  · rintro ⟨honce, hb, hm⟩
    refine ⟨?_, fun b' hb' hat => ?_, fun m' hm' hat => ?_⟩
    · rw [hcount]
      by_cases hanon : inspected.hostConfig.anonymousData = true
      · rw [if_pos hanon]
        obtain ⟨hnobind, hnomount⟩ := HostConfig.anonymous_iff.mp hanon
        have hzero := HostConfig.dataEntries_eq_zero_of
          (fun b hmem hat => hnobind b hmem (hb b hmem hat).1)
          (fun m hmem hat => hnomount m hmem (hm m hmem hat).1)
        omega
      · rw [if_neg hanon]
        have hone := (HostConfig.spelled_of_once (by simpa using hanon) honce).1
        omega
    · rw [hbinds, List.mem_append] at hb'
      rcases hb' with hb' | hb'
      · obtain ⟨b, hmem, rfl⟩ := List.mem_map.mp hb'
        obtain ⟨hsource, hrest⟩ := replaceVolume_spec oldVolume hnew b
        rw [bindAtData_congr hrest] at hat
        obtain ⟨-, hold, hw⟩ := hb b hmem hat
        rw [hsource, if_pos hold, bindWritable_congr hrest]
        exact ⟨rfl, hw⟩
      · split at hb'
        · obtain rfl := List.mem_singleton.mp hb'
          exact ⟨happend, hwritable⟩
        · cases hb'
    · rw [hmounts] at hm'
      obtain ⟨m, hmem, rfl⟩ := List.mem_map.mp hm'
      obtain ⟨-, htype, hro, hsource⟩ := replaceMount_spec newVolume m
      rw [mountAtData_replace] at hat
      obtain ⟨ht, hvolume, hw⟩ := hm m hmem hat
      rw [htype, hro, hsource, if_pos ⟨ht, hvolume⟩]
      exact ⟨hvolume, rfl, hw⟩

/-- No bind is left with the old volume. -/
theorem cloneConfig_binds (hnew : ':' ∉ newVolume.toList) (hne : newVolume ≠ oldVolume)
    (h : cloneConfig inspected image oldVolume newVolume = .ok body) :
    ∀ b ∈ body.hostConfig.bindList, bindSource b ≠ oldVolume := by
  obtain ⟨hbinds, -, -⟩ := cloneConfig_ok hnew h
  intro b' hb'
  rw [hbinds, List.mem_append] at hb'
  rcases hb' with hb' | hb'
  · obtain ⟨b, -, rfl⟩ := List.mem_map.mp hb'
    rw [(replaceVolume_spec oldVolume hnew b).1]
    split
    · exact hne
    · next hold => exact hold
  · split at hb'
    · obtain rfl := List.mem_singleton.mp hb'
      rw [(dataBind_spec hnew).1]
      exact hne
    · cases hb'

/-- Only mounts outside `/data` and inherited volumes can still be the original one. -/
theorem cloneConfig_leavesAlone (hnew : ':' ∉ newVolume.toList) (hne : newVolume ≠ oldVolume)
    (h : cloneConfig inspected image oldVolume newVolume = .ok body) :
    body.hostConfig.LeavesAlone volumesOf oldVolume ↔
      (∀ m ∈ inspected.hostConfig.mountList, m.target ≠ some "/data" → m.type = some "volume" →
        m.source ≠ some oldVolume) ∧
      ∀ entry ∈ inspected.hostConfig.volumesFrom.getD [], oldVolume ∉ volumesOf (beforeColon entry) := by
  obtain ⟨-, hmounts, hfrom⟩ := cloneConfig_ok hnew h
  constructor
  · rintro ⟨-, hm, hinherited⟩
    rw [hfrom] at hinherited
    refine ⟨fun m hmem htarget htype hsource => ?_, hinherited⟩
    have hsame : replaceMount newVolume m = m := by
      rw [replaceMount, if_neg fun h => htarget h.1]
    refine hm m ?_ htype hsource
    rw [hmounts, ← hsame]
    exact List.mem_map_of_mem hmem
  · rintro ⟨helsewhere, hinherited⟩
    refine ⟨cloneConfig_binds hnew hne h, fun m' hm' htype => ?_, by rwa [hfrom]⟩
    rw [hmounts] at hm'
    obtain ⟨m, hmem, rfl⟩ := List.mem_map.mp hm'
    obtain ⟨-, hmtype, -, hsource⟩ := replaceMount_spec newVolume m
    rw [hmtype] at htype
    rw [hsource]
    split
    · simpa using hne
    · next hnot => exact helsewhere m hmem (fun htarget => hnot ⟨htarget, htype⟩) htype

end Clone

/-! ### The traces -/

section Traces
variable {isFile : List String → Bool} {context : List String} {binds binds' : List String}
  {request : TraceRequest} {body body' : CreateBody} {volume : String}
  {volumesOf : String → List String}

theorem traceFiles_aside {trace : String × String} (h : trace ∈ traceFiles) :
    atData trace.2 = false := by
  revert trace
  decide +kernel

/-- A trace takes the place of what was mounted at its target, and of nothing at `/data`. -/
theorem addTrace_ok {trace : String × String} (htrace : trace ∈ traceFiles)
    (h : addTrace isFile context binds trace = .ok binds') :
    binds'.filter bindAtData = binds.filter bindAtData ++
        [traceBind context trace.1 trace.2].filter bindAtData ∧
      ∀ b ∈ binds', b ∈ binds ∨ b = traceBind context trace.1 trace.2 := by
  simp only [addTrace, bind_eq_ok] at h
  obtain ⟨-, -, h⟩ := h
  cases h
  constructor
  · rw [List.filter_append, List.filter_filter]
    congr 1
    refine List.filter_congr fun b _ => ?_
    rw [Bool.and_eq_left_iff_imp]
    intro hat
    rw [bne_iff_ne]
    intro htarget
    rw [bindAtData, htarget, Option.any_some, traceFiles_aside htrace] at hat
    cases hat
  · intro b hb
    rcases List.mem_append.mp hb with hb | hb
    · exact .inl (List.mem_of_mem_filter hb)
    · exact .inr (List.mem_singleton.mp hb)

theorem configureTraces_ok (h : configureTraces isFile body request = .ok body') :
    body'.hostConfig.bindList.filter bindAtData = body.hostConfig.bindList.filter bindAtData ++
        (traceBinds request).filter bindAtData ∧
      (∀ b ∈ body'.hostConfig.bindList, b ∈ body.hostConfig.bindList ∨ b ∈ traceBinds request) ∧
      body'.hostConfig.mountList = body.hostConfig.mountList ∧
      body'.hostConfig.volumesFrom = body.hostConfig.volumesFrom := by
  unfold configureTraces at h
  split at h
  · next hno =>
    cases h
    simp only [Bool.not_eq_true'] at hno
    simp [traceBinds, hno]
  · next hclean =>
    simp only [Bool.not_eq_true', Bool.not_eq_false] at hclean
    simp only [traceFiles, List.foldlM_cons, List.foldlM_nil, bind_eq_ok] at h
    obtain ⟨binds, ⟨first, hfirst, second, hsecond, hbinds⟩, h⟩ := h
    cases hbinds
    cases h
    obtain ⟨hat₁, hmem₁⟩ := addTrace_ok (by simp [traceFiles]) hfirst
    obtain ⟨hat₂, hmem₂⟩ := addTrace_ok (by simp [traceFiles]) hsecond
    have htraces : traceBinds request = [traceBind request.context "cpuinfo" "/proc/cpuinfo"] ++
        [traceBind request.context "version" "/proc/version"] := by
      simp [traceBinds, hclean, traceFiles]
    refine ⟨?_, fun b hb => ?_, rfl, rfl⟩
    · rw [htraces, List.filter_append, ← List.append_assoc]
      exact hat₂.trans (congrArg (· ++ _) hat₁)
    · rw [htraces, List.mem_append, List.mem_singleton, List.mem_singleton]
      rcases hmem₂ b hb with hb | hb
      · rcases hmem₁ b hb with hb | hb
        · exact .inl hb
        · exact .inr (.inl hb)
      · exact .inr (.inr hb)

theorem bindSource_trace {b : String} (h : b ∈ traceBinds request) :
    (bindSource b).toList.head? = some '/' := by
  unfold traceBinds at h
  split at h
  · obtain ⟨trace, -, rfl⟩ := List.mem_map.mp h
    simp [bindSource, beforeColon, traceBind]
  · cases h

theorem bindSource_trace_ne {b : String} (h : b ∈ traceBinds request)
    (hvolume : isVolumeName volume = true) : bindSource b ≠ volume := by
  rintro rfl
  exact isVolumeName_slash hvolume (bindSource_trace h)

theorem configureTraces_mountsAtData (hvolume : isVolumeName volume = true)
    (h : configureTraces isFile body request = .ok body') :
    body'.hostConfig.MountsAtData volume ↔
      body.hostConfig.MountsAtData volume ∧ TracesAside request := by
  obtain ⟨hat, hmem, hmounts, -⟩ := configureTraces_ok h
  have hin : ∀ b, b ∈ body'.hostConfig.bindList ∧ bindAtData b = true ↔
      (b ∈ body.hostConfig.bindList ∨ b ∈ traceBinds request) ∧ bindAtData b = true := by
    intro b
    rw [← List.mem_filter, hat, List.mem_append, List.mem_filter, List.mem_filter, or_and_right]
  have hcount (haside : TracesAside request) :
      body'.hostConfig.dataEntries = body.hostConfig.dataEntries := by
    have hnone : (traceBinds request).filter bindAtData = [] := by
      rw [List.filter_eq_nil_iff]
      intro b hb
      simp [haside b hb]
    rw [HostConfig.dataEntries, HostConfig.dataEntries, hat, hnone, List.append_nil, hmounts]
  constructor
  · intro hdata
    have haside : TracesAside request := by
      intro b hb
      by_contra htrue
      rw [Bool.not_eq_false] at htrue
      obtain ⟨hmem', -⟩ := (hin b).mpr ⟨.inr hb, htrue⟩
      exact bindSource_trace_ne hb hvolume (hdata.binds b hmem' htrue).1
    refine ⟨⟨?_, fun b hb hbat => ?_, ?_⟩, haside⟩
    · rw [← hcount haside]
      exact hdata.once
    · exact hdata.binds b ((hin b).mpr ⟨.inl hb, hbat⟩).1 hbat
    · rw [← hmounts]
      exact hdata.mounts
  · rintro ⟨hdata, haside⟩
    refine ⟨?_, fun b hb hbat => ?_, ?_⟩
    · rw [hcount haside]
      exact hdata.once
    · rcases ((hin b).mp ⟨hb, hbat⟩).1 with hb | hb
      · exact hdata.binds b hb hbat
      · rw [haside b hb] at hbat
        cases hbat
    · rw [hmounts]
      exact hdata.mounts

theorem configureTraces_leavesAlone (hvolume : isVolumeName volume = true)
    (hbinds : ∀ b ∈ body.hostConfig.bindList, bindSource b ≠ volume)
    (h : configureTraces isFile body request = .ok body') :
    body'.hostConfig.LeavesAlone volumesOf volume ↔
      body.hostConfig.LeavesAlone volumesOf volume := by
  obtain ⟨-, hmem, hmounts, hfrom⟩ := configureTraces_ok h
  constructor
  · rintro ⟨-, hm, hinherited⟩
    rw [hmounts] at hm
    rw [hfrom] at hinherited
    exact ⟨hbinds, hm, hinherited⟩
  · rintro ⟨-, hm, hinherited⟩
    refine ⟨fun b hb => ?_, by rwa [hmounts], by rwa [hfrom]⟩
    exact (hmem b hb).elim (hbinds b) fun hb => bindSource_trace_ne hb hvolume

end Traces

/-- The configuration of an upgraded container has the new volume writable at `/data`, once, and
nothing of the old one, exactly when the original container mounted it plainly. -/
theorem upgraded_data_is_isolated_iff (isFile : List String → Bool)
    (volumesOf : String → List String) (inspected : Inspected) (request : TraceRequest)
    (image oldVolume newVolume : String) (body body' : CreateBody)
    (hold : isVolumeName oldVolume = true) (hnew : isVolumeName newVolume = true)
    (hne : newVolume ≠ oldVolume)
    (hfresh : ∀ b ∈ inspected.hostConfig.bindList, bindSource b ≠ newVolume)
    (_hdata : dataVolume inspected = .ok oldVolume)
    (hclone : cloneConfig inspected image oldVolume newVolume = .ok body)
    (htraces : configureTraces isFile body request = .ok body') :
    body'.hostConfig.MountsAtData newVolume ∧ body'.hostConfig.LeavesAlone volumesOf oldVolume ↔
      inspected.hostConfig.DataMountedPlainly volumesOf oldVolume ∧ TracesAside request := by
  have hcolon := isVolumeName_colon hnew
  rw [configureTraces_mountsAtData hnew htraces, configureTraces_leavesAlone hold
      (cloneConfig_binds hcolon hne hclone) htraces, cloneConfig_mountsAtData hcolon hfresh hclone,
    cloneConfig_leavesAlone hcolon hne hclone]
  constructor
  · rintro ⟨⟨⟨honce, hbinds, hmounts⟩, haside⟩, helsewhere, hinherited⟩
    exact ⟨⟨honce, hbinds, hmounts, helsewhere, hinherited⟩, haside⟩
  · rintro ⟨⟨honce, hbinds, hmounts, helsewhere, hinherited⟩, haside⟩
    exact ⟨⟨⟨honce, hbinds, hmounts⟩, haside⟩, helsewhere, hinherited⟩

/-! ### A volume mounted twice -/

def plainHost : HostConfig where
  binds := some ["qc-a-data:/data"]
  mounts := none
  volumesFrom := none
  networkMode := some "bridge"
  restartPolicy := some ⟨some "unless-stopped", 0⟩
  cgroupParent := none
  containerIdFile := ""

def plainInspected : Inspected where
  config := ⟨"redroid", []⟩
  hostConfig := plainHost
  mounts := [⟨"/data", "volume", some "qc-a-data", some true⟩]
  running := true

/-- The volume of `/data` is also mounted at `/backup`, both by `--mount`. -/
def twiceMounted : Inspected where
  config := ⟨"redroid", []⟩
  hostConfig :=
    { plainHost with
      binds := none
      mounts := some [⟨some "volume", some "qc-a-data", some "/data", false⟩,
        ⟨some "volume", some "qc-a-data", some "/backup", false⟩] }
  mounts := [⟨"/data", "volume", some "qc-a-data", some true⟩,
    ⟨"/backup", "volume", some "qc-a-data", some true⟩]
  running := true

def noTraces : TraceRequest := ⟨false, ["run", "rdc-presets", "job-1"]⟩

theorem second_mount_keeps_old_volume :
    ¬ ∀ (isFile : List String → Bool) (volumesOf : String → List String) (inspected : Inspected)
      (request : TraceRequest) (image oldVolume newVolume : String) (body body' : CreateBody),
      isVolumeName oldVolume = true → isVolumeName newVolume = true → newVolume ≠ oldVolume →
      (∀ b ∈ inspected.hostConfig.bindList, bindSource b ≠ newVolume) →
      dataVolume inspected = .ok oldVolume →
      cloneConfig inspected image oldVolume newVolume = .ok body →
      configureTraces isFile body request = .ok body' →
      body'.hostConfig.MountsAtData newVolume ∧ body'.hostConfig.LeavesAlone volumesOf oldVolume := by
  intro hclaim
  obtain ⟨-, -, hmounts, -⟩ := hclaim (fun _ => true) (fun _ => []) twiceMounted noTraces "redroid-2"
    "qc-a-data" "qc-a-upgrade-0123456789ab-data"
    ⟨⟨"redroid-2", []⟩, { twiceMounted.hostConfig with
      binds := some []
      mounts := some [⟨some "volume", some "qc-a-upgrade-0123456789ab-data", some "/data", false⟩,
        ⟨some "volume", some "qc-a-data", some "/backup", false⟩] }⟩
    ⟨⟨"redroid-2", []⟩, { twiceMounted.hostConfig with
      binds := some []
      mounts := some [⟨some "volume", some "qc-a-upgrade-0123456789ab-data", some "/data", false⟩,
        ⟨some "volume", some "qc-a-data", some "/backup", false⟩] }⟩
    (by decide +kernel) (by decide +kernel) (by decide +kernel) (by decide +kernel)
    (by decide +kernel) (by decide +kernel) (by decide +kernel)
  exact hmounts ⟨some "volume", some "qc-a-data", some "/backup", false⟩
    (by simp [HostConfig.mountList]) rfl rfl

theorem upgraded_data_is_isolated_plain :
    (HostConfig.MountsAtData { plainHost with binds := some ["qc-a-upgrade-0123456789ab-data:/data"] }
        "qc-a-upgrade-0123456789ab-data") ∧
      HostConfig.LeavesAlone { plainHost with binds := some ["qc-a-upgrade-0123456789ab-data:/data"] }
        (fun _ => []) "qc-a-data" :=
  (upgraded_data_is_isolated_iff (fun _ => true) (fun _ => []) plainInspected noTraces "redroid-2"
    "qc-a-data" "qc-a-upgrade-0123456789ab-data"
    ⟨⟨"redroid-2", []⟩,
      { plainHost with binds := some ["qc-a-upgrade-0123456789ab-data:/data"] }⟩
    ⟨⟨"redroid-2", []⟩,
      { plainHost with binds := some ["qc-a-upgrade-0123456789ab-data:/data"] }⟩
    (by decide +kernel) (by decide +kernel) (by decide +kernel) (by decide +kernel)
    (by decide +kernel) (by decide +kernel) (by decide +kernel)).mpr
    ⟨⟨by decide +kernel, by decide +kernel, by decide +kernel, by decide +kernel, by decide +kernel⟩,
      by simp [TracesAside, traceBinds, noTraces]⟩

end JustRun.Guest
