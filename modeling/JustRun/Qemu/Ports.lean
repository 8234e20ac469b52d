import Mathlib.Tactic

/-!
# Host ports

`qemu-center/src/vm.rs`: the first free port, and the first free block of consecutive
ports. The arithmetic is that of the release build: `start + count` wraps at 65536.
-/
namespace JustRun.Qemu

/-- `RESERVED_HOST_PORT_RANGES`. -/
def reservedHostPortRanges : List (UInt16 × UInt16) := [(5555, 6000)]

inductive PortError where
  | zeroCount
  | exhausted (base count : UInt16)
  deriving DecidableEq

def PortError.text : PortError → String
  | .zeroCount => "port block size must be > 0"
  | .exhausted base count => "no free block of " ++ toString count ++ " ports at or above " ++
      toString base ++ " (65535 limit / reserved ranges)"

def portIsReserved (p : UInt16) : Bool :=
  reservedHostPortRanges.any fun (lo, hi) => decide (lo ≤ p) && decide (p ≤ hi)

/-- The condition of both searches. -/
def available (used : Finset UInt16) (p : UInt16) : Bool := decide (p ∉ used) && !portIsReserved p

/-- `lo..hi`. -/
def portRange (lo hi : UInt16) : List UInt16 :=
  (List.range' lo.toNat (hi.toNat - lo.toNat)).map UInt16.ofNat

def nextFreePort (used : Finset UInt16) (base : UInt16) : Option UInt16 :=
  ((List.range' base.toNat (65536 - base.toNat)).map UInt16.ofNat).find? (available used)

/-- The `block` of one pass of the loop. -/
def portBlock (start : ℕ) (count : UInt16) : List UInt16 :=
  portRange (.ofNat start) (.ofNat start + count)

/-- The loop runs over the starts with `start + count - 1 ≤ 65535`. -/
def allocatePortBlock (used : Finset UInt16) (base count : UInt16) :
    Except PortError (List UInt16) :=
  if count = 0 then .error .zeroCount
  else match (List.range' base.toNat (65537 - count.toNat - base.toNat)).find?
      fun start => (portBlock start count).all (available used) with
    | some start => .ok (portBlock start count)
    | none => .error (.exhausted base count)

/-- Exactly `n` consecutive ports, none of them 0. -/
def IsBlock (ports : List UInt16) (n : ℕ) : Prop :=
  ∃ start, 1 ≤ start ∧ start + n ≤ 65536 ∧ ports.map UInt16.toNat = List.range' start n

/-- Some free block ends before port 65535, and the first candidate is no free block from port 0. -/
def BlockAvoidsEnds (used : Finset UInt16) (base count : UInt16) : Prop :=
  (∃ start, base.toNat ≤ start ∧ start + count.toNat ≤ 65535 ∧
    ∀ p, start ≤ p → p < start + count.toNat → available used (.ofNat p) = true) ∧
  (base = 0 → ∃ p, p < count.toNat ∧ available used (.ofNat p) = false)

section Search
variable {used : Finset UInt16} {base count p : UInt16} {start : ℕ} {block : List UInt16}

theorem available_iff : available used p = true ↔ p ∉ used ∧ portIsReserved p = false := by
  simp [available]

theorem nextFreePort_available (h : nextFreePort used base = some p) : available used p = true :=
  List.find?_some h

/-- A block that ends before port 65535 has the ports it should have. -/
theorem portBlock_inside (h : start + count.toNat ≤ 65535) :
    portBlock start count = (List.range' start count.toNat).map UInt16.ofNat := by
  have hlo : (UInt16.ofNat start).toNat = start := by
    rw [UInt16.toNat_ofNat']
    omega
  have hhi : (UInt16.ofNat start + count).toNat = start + count.toNat := by
    rw [UInt16.toNat_add, hlo]
    omega
  rw [portBlock, portRange, hlo, hhi, Nat.add_sub_cancel_left]

/-- The end of the last block is 0, so its range is empty. -/
theorem portBlock_last (h : start + count.toNat = 65536) (hpos : 0 < count.toNat) :
    portBlock start count = [] := by
  have hlo : (UInt16.ofNat start).toNat = start := by
    rw [UInt16.toNat_ofNat']
    omega
  have hhi : (UInt16.ofNat start + count).toNat = 0 := by
    rw [UInt16.toNat_add, hlo, h]
  rw [portBlock, portRange, hlo, hhi]
  simp

theorem map_toNat_ofNat {n : ℕ} (h : start + n ≤ 65536) :
    ((List.range' start n).map UInt16.ofNat).map UInt16.toNat = List.range' start n := by
  rw [List.map_map]
  refine (List.map_congr_left fun q hq => ?_).trans (List.map_id _)
  rw [List.mem_range'_1] at hq
  simp only [Function.comp_apply, id_eq, UInt16.toNat_ofNat']
  omega

theorem count_pos (h : count ≠ 0) : 0 < count.toNat :=
  Nat.pos_of_ne_zero fun h0 => h (UInt16.toNat_inj.mp h0)

theorem allocatePortBlock_ok (h : allocatePortBlock used base count = .ok block) :
    0 < count.toNat ∧ ∃ start, base.toNat ≤ start ∧ start + count.toNat ≤ 65536 ∧
      block = portBlock start count ∧ (∀ p ∈ block, available used p = true) ∧
      ∀ earlier, base.toNat ≤ earlier → earlier < start →
        ∃ p, earlier ≤ p ∧ p < earlier + count.toNat ∧ available used (.ofNat p) = false := by
  unfold allocatePortBlock at h
  split at h
  · cases h
  next hcount =>
    refine ⟨count_pos hcount, ?_⟩
    split at h
    · next start hfind =>
      cases h
      rw [List.find?_range'_eq_some] at hfind
      obtain ⟨hall, hmem, hearlier⟩ := hfind
      rw [List.mem_range'_1] at hmem
      refine ⟨start, hmem.1, by omega, rfl, List.all_eq_true.mp hall, fun earlier hle hlt => ?_⟩
      have hnot := hearlier earlier hle hlt
      rw [portBlock_inside (by omega)] at hnot
      simpa [List.mem_range'_1, and_assoc] using hnot
    · cases h

/-- The block is as asked for exactly when the search stays away from both ends. -/
theorem allocatePortBlock_isBlock (h : allocatePortBlock used base count = .ok block) :
    IsBlock block count.toNat ↔ BlockAvoidsEnds used base count := by
  obtain ⟨hpos, start, hbase, hend, rfl, hall, hearlier⟩ := allocatePortBlock_ok h
  constructor
  · rintro ⟨first, hfirst, hlast, hports⟩
    have hinside : start + count.toNat ≤ 65535 := by
      by_contra hout
      rw [portBlock_last (by omega) hpos] at hports
      have hlen := congrArg List.length hports
      simp only [List.map_nil, List.length_nil, List.length_range'] at hlen
      omega
    rw [portBlock_inside hinside] at hports hall
    rw [map_toNat_ofNat (by omega)] at hports
    obtain rfl : start = first := by
      have hhead := congrArg List.head? hports
      rw [List.head?_range', List.head?_range', if_neg hpos.ne'] at hhead
      exact (by simpa using hhead : ¬ count.toNat = 0 ∧ start = first).2
    refine ⟨⟨start, hbase, hinside, fun p hle hlt => ?_⟩, fun hzero => ?_⟩
    · exact hall _ (List.mem_map_of_mem (List.mem_range'_1.mpr ⟨hle, hlt⟩))
    · obtain ⟨p, -, hlt, hp⟩ := hearlier 0 (by simp [hzero]) hfirst
      exact ⟨p, by omega, hp⟩
  · rintro ⟨⟨free, hle, hfree, hfreeall⟩, hzero⟩
    have hbefore : start ≤ free := by
      by_contra hlt
      obtain ⟨p, hp, hp', hnot⟩ := hearlier free hle (by omega)
      rw [hfreeall p hp hp'] at hnot
      cases hnot
    have hinside : start + count.toNat ≤ 65535 := by omega
    rw [portBlock_inside hinside] at hall ⊢
    refine ⟨start, ?_, by omega, map_toNat_ofNat (by omega)⟩
    by_contra hstart
    obtain rfl : start = 0 := by omega
    obtain ⟨p, hp, hnot⟩ := hzero (UInt16.toNat_inj.mp (by simpa using hbase))
    have htrue := hall _ (List.mem_map_of_mem (List.mem_range'_1.mpr ⟨Nat.zero_le p, by omega⟩))
    rw [hnot] at htrue
    cases htrue

/-- The ports of a block are distinct, also where the search reached the end. -/
theorem allocatePortBlock_nodup (h : allocatePortBlock used base count = .ok block) :
    block.Nodup := by
  obtain ⟨hpos, start, hbase, hend, rfl, -, -⟩ := allocatePortBlock_ok h
  by_cases hinside : start + count.toNat ≤ 65535
  · rw [portBlock_inside hinside]
    refine List.Nodup.of_map UInt16.toNat ?_
    rw [map_toNat_ofNat (by omega)]
    exact List.nodup_range'
  · rw [portBlock_last (by omega) hpos]
    exact List.nodup_nil

theorem allocatePortBlock_available (h : allocatePortBlock used base count = .ok block) :
    ∀ p ∈ block, p ∉ used ∧ portIsReserved p = false := by
  obtain ⟨-, -, -, -, -, hall, -⟩ := allocatePortBlock_ok h
  exact fun p hp => available_iff.mp (hall p hp)

end Search
end JustRun.Qemu
