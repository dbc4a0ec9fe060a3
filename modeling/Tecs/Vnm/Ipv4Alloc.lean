import Tecs.Vnm.Ipv4AddrPool

set_option autoImplicit false

namespace Tecs

def TIPV4AddrRangeItem.Holds (r : TIPV4AddrRangeItem) (ip : UInt32) : Prop :=
  r.tIPStart.uIP ≤ ip ∧ ip ≤ r.tIPEnd.uIP

namespace CIPv4AddrPool

open CIPv4AddrRange

/-- A division of the draw traps: some octet of the end is one below that of the start, or two below
and the factor the smallest number. -/
def Traps (r : TIPV4AddrRangeItem) (nKey : Int32) (uuid : UUIDValue) : Prop :=
  ∃ i < 4, divisor r i = 0 ∨ (divisor r i = -1 ∧ nFactor nKey uuid i = Int32.minValue)

variable (self : CIPv4AddrPool) (pool : List CDbLogicNetworkIpPool)

/-- The network does not hold the address under any mask. -/
def Free (ip : UInt32) : Prop :=
  ∀ row ∈ pool, row.uuid = self.strNetworkUUID → row.ipNum ≠ ip

/-- The network holds the address under the mask of the range. -/
def HeldIn (r : TIPV4AddrRangeItem) (ip : UInt32) : Prop :=
  ∃ row ∈ pool, row.uuid = self.strNetworkUUID ∧ row.ipNum = ip ∧
    row.maskNum = r.tIPStart.uMask

def AllHeld : Prop := ∀ r ∈ self.pIPv4AddrRange, ∀ ip, r.Holds ip → ¬ self.Free pool ip

/-- The octets of the draw lead to a free address of a range with another mask. -/
def Strays (r : TIPV4AddrRangeItem) (nKey : Int32) (uuid : UUIDValue) : Prop :=
  ∃ ip, calcIPv4Addr r nKey uuid = some ip ∧ self.Free pool ip ∧
    ∃ other ∈ self.pIPv4AddrRange, other.Holds ip ∧ other.tIPStart.uMask ≠ r.tIPStart.uMask

/-- An address of the round that starts with the draw can be added. -/
def Serves (r : TIPV4AddrRangeItem) (nKey : Int32) (uuid : UUIDValue) (k : ℕ) : Prop :=
  ∃ dwAddr, calcIPv4Addr r nKey uuid = some dwAddr ∧
    ∃ ip ∈ round (interval r) r.tIPStart.uIP k dwAddr, self.checkAddIpPool pool ip = true

def Fails (r : TIPV4AddrRangeItem) (nKey : Int32) (uuid : UUIDValue) (k : ℕ) : Prop :=
  ¬ Traps r nKey uuid ∧ ¬ self.Serves pool r nKey uuid k

/-- The first address of the range that is not held under its mask is free. -/
def FirstFree (r : TIPV4AddrRangeItem) (ip : UInt32) : Prop :=
  r.Holds ip ∧ self.Free pool ip ∧
    ∀ before, r.tIPStart.uIP ≤ before → before < ip → self.HeldIn pool r before

/-- The first draw that does not fail serves without straying, or all four fail and the scan finds
an address. -/
def Lucky (nKey : Int32) (draws : ℕ → UUIDValue) (n : ℕ) (r : TIPV4AddrRangeItem) : Prop :=
  (∃ k < 4, (∀ j < k, self.Fails pool r nKey (draws (n + j)) j) ∧
    self.Serves pool r nKey (draws (n + k)) k ∧ ¬ self.Strays pool r nKey (draws (n + k))) ∨
  ((∀ k < 4, self.Fails pool r nKey (draws (n + k)) k) ∧ ∃ ip, self.FirstFree pool r ip)

def Spent (nKey : Int32) (draws : ℕ → UUIDValue) (n : ℕ) (r : TIPV4AddrRangeItem) : Prop :=
  (∀ k < 4, self.Fails pool r nKey (draws (n + k)) k) ∧ ∀ ip, ¬ self.FirstFree pool r ip

/-- Only spent ranges come before a lucky one. -/
def Reaches (nKey : Int32) (draws : ℕ → UUIDValue) :
    List (TRangeUsedInfo TIPV4AddrRangeItem) → ℕ → Prop
  | [], _ => False
  | info :: rest, n =>
      self.Lucky pool nKey draws n info.tRange ∨
        (self.Spent pool nKey draws n info.tRange ∧ Reaches nKey draws rest (n + 4))

/-- Some range of the network with that mask holds the address. -/
def Fits (r : TIPV4AddrRangeItem) (ip : UInt32) : Prop :=
  ∃ other ∈ self.pIPv4AddrRange, other.Holds ip ∧ other.tIPStart.uMask = r.tIPStart.uMask

/-- What an allocation is to come to. -/
structure Right (p : CIPv4AddrPool) (rows : List CDbLogicNetworkIpPool)
    (result : Alloc TIPv4Addr) : Prop where
  defined : result ≠ .divided
  fresh : ∀ tItem, result = .allocated tItem →
    (∃ r ∈ p.pIPv4AddrRange, r.Holds tItem.uIP ∧ r.tIPStart.uMask = tItem.uMask) ∧
      p.Free rows tItem.uIP
  complete : result = .failed ↔ p.AllHeld rows

structure Valid (p : CIPv4AddrPool) : Prop where
  valid : ∀ r ∈ p.pIPv4AddrRange, isValidIPv4Range r = true
  disjoint : p.pIPv4AddrRange.Pairwise fun a b => ∀ ip, ¬ (a.Holds ip ∧ b.Holds ip)

variable {self pool} {nKey : Int32} {draws : ℕ → UUIDValue} {n : ℕ} {r : TIPV4AddrRangeItem}

theorem checkAddIpPool_iff (ip : UInt32) : self.checkAddIpPool pool ip = true ↔
    (∃ r ∈ self.pIPv4AddrRange, r.Holds ip) ∧ self.Free pool ip := by
  simp only [checkAddIpPool, TIPV4AddrRangeItem.Holds, Free, Bool.and_eq_true, List.any_eq_true,
    decide_eq_true_eq, Bool.not_eq_true', List.any_eq_false, not_and]

theorem HeldIn.not_free {ip : UInt32} (held : self.HeldIn pool r ip) : ¬ self.Free pool ip := by
  intro free
  have ⟨row, mem, own, same, _⟩ := held
  exact free row mem own same

theorem movedOctet_eq_none_iff (i : ℕ) (factor : Int32) : movedOctet r i factor = none ↔
    divisor r i = 0 ∨ (divisor r i = -1 ∧ factor = Int32.minValue) := by
  rw [movedOctet]
  split_ifs with traps <;> simp [traps]

theorem calcIPv4Addr_eq_none_iff (uuid : UUIDValue) :
    calcIPv4Addr r nKey uuid = none ↔ Traps r nKey uuid := by
  have four : Traps r nKey uuid ↔ movedOctet r 0 (nFactor nKey uuid 0) = none ∨
      movedOctet r 1 (nFactor nKey uuid 1) = none ∨ movedOctet r 2 (nFactor nKey uuid 2) = none ∨
      movedOctet r 3 (nFactor nKey uuid 3) = none := by
    simp only [Traps, ← movedOctet_eq_none_iff, Nat.exists_lt_succ_left, Nat.not_lt_zero,
      false_and, exists_false, or_false]
  rw [four, calcIPv4Addr]
  cases movedOctet r 0 (nFactor nKey uuid 0) with
  | none => simp
  | some a =>
      cases movedOctet r 1 (nFactor nKey uuid 1) with
      | none => simp
      | some b =>
          cases movedOctet r 2 (nFactor nKey uuid 2) with
          | none => simp
          | some c => cases movedOctet r 3 (nFactor nKey uuid 3) <;> simp

theorem interval_ne_zero (valid : isValidIPv4Range r = true) : interval r ≠ 0 := by
  have le := start_le valid
  have top := end_top valid
  have one : (1 : UInt32).toNat = 1 := rfl
  have size : (r.tIPEnd.uIP - r.tIPStart.uIP).toNat = r.tIPEnd.uIP.toNat - r.tIPStart.uIP.toNat :=
    UInt32.toNat_sub_of_le _ _ le
  intro zero
  have number : (interval r).toNat = 0 := by rw [zero]; rfl
  rw [interval, UInt32.toNat_add, size, one] at number
  omega

theorem holds_follow (valid : isValidIPv4Range r = true) (a : UInt32) :
    r.Holds (a % interval r + r.tIPStart.uIP) := by
  have le := start_le valid
  have top := end_top valid
  have one : (1 : UInt32).toNat = 1 := rfl
  have difference : (r.tIPEnd.uIP - r.tIPStart.uIP).toNat =
      r.tIPEnd.uIP.toNat - r.tIPStart.uIP.toNat := UInt32.toNat_sub_of_le _ _ le
  rw [UInt32.le_iff_toNat_le] at le
  have size : (interval r).toNat = r.tIPEnd.uIP.toNat - r.tIPStart.uIP.toNat + 1 := by
    rw [interval, UInt32.toNat_add, difference, one]
    omega
  have rest : a.toNat % (interval r).toNat < (interval r).toNat := Nat.mod_lt _ (by omega)
  have sum : (a % interval r + r.tIPStart.uIP).toNat =
      a.toNat % (interval r).toNat + r.tIPStart.uIP.toNat := by
    rw [UInt32.toNat_add, UInt32.toNat_mod]
    omega
  rw [TIPV4AddrRangeItem.Holds, UInt32.le_iff_toNat_le, UInt32.le_iff_toNat_le, sum]
  omega

/-- Only the draw itself can leave the range. -/
theorem mem_round (valid : isValidIPv4Range r = true) {k : ℕ} {dwAddr ip : UInt32}
    (mem : ip ∈ round (interval r) r.tIPStart.uIP k dwAddr) : ip = dwAddr ∨ r.Holds ip := by
  rw [round, List.mem_iterate] at mem
  obtain ⟨m, _, reached⟩ := mem
  cases m with
  | zero => exact .inl reached
  | succ m =>
      right
      rw [reached, Function.iterate_succ_apply']
      exact holds_follow valid _

/-- An address is in one range at most. -/
theorem Valid.same (valid : self.Valid) {a b : TIPV4AddrRangeItem} (ma : a ∈ self.pIPv4AddrRange)
    (mb : b ∈ self.pIPv4AddrRange) {ip : UInt32} (ha : a.Holds ip) (hb : b.Holds ip) : a = b := by
  by_contra other
  have : Std.Symm fun a b : TIPV4AddrRangeItem => ∀ ip, ¬ (a.Holds ip ∧ b.Holds ip) :=
    ⟨fun _ _ apart ip both => apart ip both.symm⟩
  exact valid.disjoint.forall ma mb other ip ⟨ha, hb⟩

/-- The first address of a round that can be added fits its mask, unless the draw strays. -/
theorem fits_iff_not_strays (valid : self.Valid) (mem : r ∈ self.pIPv4AddrRange)
    {uuid : UUIDValue} {k : ℕ} {dwAddr ip : UInt32} (drawn : calcIPv4Addr r nKey uuid = some dwAddr)
    (first : (round (interval r) r.tIPStart.uIP k dwAddr).find? (self.checkAddIpPool pool) =
      some ip) :
    self.Fits r ip ↔ ¬ self.Strays pool r nKey uuid := by
  have accepted := List.find?_some first
  have ⟨⟨holder, inRanges, holds⟩, free⟩ := (checkAddIpPool_iff ip).mp accepted
  by_cases own : ip = dwAddr
  · subst own
    constructor
    · rintro ⟨other, inList, inside, mask⟩ ⟨a, same, _, stranger, listed, outside, different⟩
      rw [drawn] at same
      cases same
      exact different (valid.same inList listed inside outside ▸ mask)
    · intro straight
      refine ⟨holder, inRanges, holds, ?_⟩
      by_contra different
      exact straight ⟨ip, drawn, free, holder, inRanges, holds, different⟩
  · have inside := (mem_round (valid.valid r mem) (List.mem_of_find?_eq_some first)).resolve_left
      own
    refine iff_of_true ⟨r, mem, inside, rfl⟩ ?_
    rintro ⟨a, same, freeDraw, stranger, listed, outside, _⟩
    rw [drawn] at same
    cases same
    -- the draw itself would have been the first
    have drawOk := (checkAddIpPool_iff dwAddr).mpr ⟨⟨stranger, listed, outside⟩, freeDraw⟩
    have head : round (interval r) r.tIPStart.uIP k dwAddr =
        dwAddr :: (round (interval r) r.tIPStart.uIP k dwAddr).tail := by
      rw [round]
      split_ifs <;> rfl
    rw [head, List.find?_cons, drawOk] at first
    exact own (Option.some.inj first).symm

theorem listed_iff {ip : UInt32} (holds : r.Holds ip) :
    ((self.queryByLnRange pool r.tIPStart.uIP r.tIPEnd.uIP).any fun row =>
      row.ipNum = ip && row.maskNum = r.tIPStart.uMask) = true ↔ self.HeldIn pool r ip := by
  simp only [queryByLnRange, HeldIn, List.any_eq_true, List.mem_filter, Bool.and_eq_true,
    decide_eq_true_eq]
  constructor
  · intro found
    have ⟨row, ⟨mem, own, _⟩, same, mask⟩ := found
    exact ⟨row, mem, own.1, same, mask⟩
  · intro found
    have ⟨row, mem, own, same, mask⟩ := found
    subst same
    exact ⟨row, ⟨mem, ⟨own, holds.1⟩, holds.2⟩, rfl, mask⟩

/-- The scan ends at the first address that is not held under the mask of the range. -/
theorem scanAllocIP_cases (self : CIPv4AddrPool) (pool : List CDbLogicNetworkIpPool)
    (valid : isValidIPv4Range r = true) :
    (self.scanAllocIP pool r = none ∧ ∀ ip, r.Holds ip → self.HeldIn pool r ip) ∨
    ∃ ip, self.scanAllocIP pool r = some ip ∧ r.Holds ip ∧ ¬ self.HeldIn pool r ip ∧
      ∀ before, r.tIPStart.uIP ≤ before → before < ip → self.HeldIn pool r before := by
  rw [scanAllocIP]
  cases scanRange_cases _ (end_top valid) r.tIPStart.uIP with
  | inl ended =>
      left
      refine ⟨ended.1, fun ip holds => ?_⟩
      exact (listed_iff holds).mp (ended.2 ip holds.1 holds.2)
  | inr found =>
      have ⟨ip, result, low, high, absent, before⟩ := found
      right
      refine ⟨ip, result, ⟨low, high⟩, ?_, fun b start less => ?_⟩
      · intro held
        exact Bool.false_ne_true (absent.symm.trans ((listed_iff ⟨low, high⟩).mpr held))
      · have stop : b ≤ r.tIPEnd.uIP := UInt32.le_trans (UInt32.le_of_lt less) high
        exact (listed_iff ⟨start, stop⟩).mp (before b start less)

theorem misses_iff (k : ℕ) : Misses (fun n => calcIPv4Addr r nKey (draws n)) (interval r)
      r.tIPStart.uIP (self.checkAddIpPool pool) n k ↔
    self.Fails pool r nKey (draws (n + k)) k := by
  rw [Misses, Fails, ← calcIPv4Addr_eq_none_iff, Serves]
  cases drawn : calcIPv4Addr r nKey (draws (n + k)) <;> simp

/-- The tries of a range end at the first draw that does not fail. -/
theorem tryRange_cases (self : CIPv4AddrPool) (pool : List CDbLogicNetworkIpPool) (nKey : Int32)
    (draws : ℕ → UUIDValue) (n : ℕ) (valid : isValidIPv4Range r = true) :
    (∃ k < 4, (∀ j < k, self.Fails pool r nKey (draws (n + j)) j) ∧
      Traps r nKey (draws (n + k)) ∧ self.tryRange pool r nKey draws n = .divided) ∨
    (∃ k < 4, (∀ j < k, self.Fails pool r nKey (draws (n + j)) j) ∧
      ∃ dwAddr ip, calcIPv4Addr r nKey (draws (n + k)) = some dwAddr ∧
        (round (interval r) r.tIPStart.uIP k dwAddr).find? (self.checkAddIpPool pool) = some ip ∧
        self.tryRange pool r nKey draws n =
          .saved ip (pool ++ [⟨self.strNetworkUUID, ip, r.tIPStart.uMask⟩])) ∨
    ((∀ k < 4, self.Fails pool r nKey (draws (n + k)) k) ∧
      self.tryRange pool r nKey draws n = .missed (n + 4)) := by
  have saves : ∀ ip, self.saveIPv4Addr2DB pool ⟨ip, r.tIPStart.uMask⟩ =
      if self.checkAddIpPool pool ip then
        some (pool ++ [⟨self.strNetworkUUID, ip, r.tIPStart.uMask⟩])
      else none := fun _ => rfl
  have four : self.tryRange pool r nKey draws n =
      tryFrom (fun ip => self.saveIPv4Addr2DB pool ⟨ip, r.tIPStart.uMask⟩)
        (fun n => calcIPv4Addr r nKey (draws n)) (interval r) r.tIPStart.uIP n 0 := rfl
  have rounds := tryFrom_cases (fun n => calcIPv4Addr r nKey (draws n)) r.tIPStart.uIP
    (interval_ne_zero valid) saves n 4 0 rfl
  rw [four]
  simpa only [misses_iff, calcIPv4Addr_eq_none_iff, Nat.zero_le, true_implies] using rounds

/-- The first draw that does not fail decides. -/
theorem lucky_iff_of_first {k : ℕ} (four : k < 4)
    (before : ∀ j < k, self.Fails pool r nKey (draws (n + j)) j)
    (stops : ¬ self.Fails pool r nKey (draws (n + k)) k) :
    self.Lucky pool nKey draws n r ↔ self.Serves pool r nKey (draws (n + k)) k ∧
      ¬ self.Strays pool r nKey (draws (n + k)) := by
  constructor
  · rintro (⟨j, _, earlier, serves, straight⟩ | ⟨all, _⟩)
    · have late : ¬ j < k := fun less => (before j less).2 serves
      have soon : ¬ k < j := fun less => stops (earlier k less)
      have same : j = k := by omega
      exact same ▸ ⟨serves, straight⟩
    · exact absurd (all k four) stops
  · rintro ⟨serves, straight⟩
    exact .inl ⟨k, four, before, serves, straight⟩

theorem lucky_iff_of_fails (all : ∀ k < 4, self.Fails pool r nKey (draws (n + k)) k) :
    self.Lucky pool nKey draws n r ↔ ∃ ip, self.FirstFree pool r ip := by
  constructor
  · rintro (⟨k, four, _, serves, _⟩ | ⟨_, found⟩)
    · exact absurd serves (all k four).2
    · exact found
  · exact fun found => .inr ⟨all, found⟩

/-- How a range comes to its result. -/
inductive RangeResult (self : CIPv4AddrPool) (pool : List CDbLogicNetworkIpPool) (nKey : Int32)
    (draws : ℕ → UUIDValue) (n : ℕ) (r : TIPV4AddrRangeItem) : Prop
  | divided (unlucky : ¬ self.Lucky pool nKey draws n r)
    (unspent : ¬ self.Spent pool nKey draws n r)
      (tries : self.tryRange pool r nKey draws n = .divided)
  | tried (ip : UInt32) (after : List CDbLogicNetworkIpPool)
      (lucky : self.Lucky pool nKey draws n r ↔ self.Fits r ip)
      (unspent : ¬ self.Spent pool nKey draws n r) (accepted : self.checkAddIpPool pool ip = true)
      (tries : self.tryRange pool r nKey draws n = .saved ip after)
  | scanned (ip : UInt32) (lucky : self.Lucky pool nKey draws n r)
      (unspent : ¬ self.Spent pool nKey draws n r) (fits : self.Fits r ip)
      (accepted : self.checkAddIpPool pool ip = true)
      (tries : self.tryRange pool r nKey draws n = .missed (n + 4))
      (scan : self.scanAllocIP pool r = some ip)
  | passed (unlucky : ¬ self.Lucky pool nKey draws n r) (spent : self.Spent pool nKey draws n r)
      (tries : self.tryRange pool r nKey draws n = .missed (n + 4))
      (scan : ∀ ip, self.scanAllocIP pool r = some ip → self.checkAddIpPool pool ip ≠ true)

/-- The scan gives the first free address of the range, or one that cannot be added. -/
theorem scanAllocIP_firstFree (pool : List CDbLogicNetworkIpPool) (valid : self.Valid)
    (mem : r ∈ self.pIPv4AddrRange) :
    (∃ ip, self.FirstFree pool r ip ∧ self.scanAllocIP pool r = some ip) ∨
    ((∀ ip, ¬ self.FirstFree pool r ip) ∧
      ∀ ip, self.scanAllocIP pool r = some ip → self.checkAddIpPool pool ip ≠ true) := by
  cases scanAllocIP_cases self pool (valid.valid r mem) with
  | inl ended =>
      right
      refine ⟨fun ip found => (ended.2 ip found.1).not_free found.2.1, fun ip scanned => ?_⟩
      rw [ended.1] at scanned
      cases scanned
  | inr found =>
      have ⟨ip, result, inside, unlisted, before⟩ := found
      by_cases free : self.Free pool ip
      · exact .inl ⟨ip, ⟨inside, free, before⟩, result⟩
      · right
        refine ⟨fun other found => ?_, fun other scanned => ?_⟩
        · -- the first address that is not held under the mask would be another one
          have ⟨inside', free', before'⟩ := found
          have below : ¬ ip < other := fun less => unlisted (before' ip inside.1 less)
          have above : ¬ other < ip := fun less => (before other inside'.1 less).not_free free'
          have same : other = ip :=
            UInt32.le_antisymm (UInt32.not_lt.mp below) (UInt32.not_lt.mp above)
          exact free (same ▸ free')
        · rw [result] at scanned
          cases scanned
          exact fun ok => free ((checkAddIpPool_iff ip).mp ok).2

theorem allocRange_cases (pool : List CDbLogicNetworkIpPool) (valid : self.Valid)
    (mem : r ∈ self.pIPv4AddrRange) (nKey : Int32) (draws : ℕ → UUIDValue) (n : ℕ) :
    RangeResult self pool nKey draws n r := by
  have proper := valid.valid r mem
  rcases tryRange_cases self pool nKey draws n proper with
    ⟨k, four, before, traps, ended⟩ | ⟨k, four, before, dwAddr, ip, drawn, first, ended⟩ |
      ⟨all, ended⟩
  · have stops : ¬ self.Fails pool r nKey (draws (n + k)) k := fun fails => fails.1 traps
    refine .divided ?_ (fun spent => stops (spent.1 k four)) ended
    rw [lucky_iff_of_first four before stops]
    rintro ⟨⟨dwAddr, drawn, _⟩, _⟩
    rw [(calcIPv4Addr_eq_none_iff _).mpr traps] at drawn
    cases drawn
  · have serves : self.Serves pool r nKey (draws (n + k)) k :=
      ⟨dwAddr, drawn, ip, List.mem_of_find?_eq_some first, List.find?_some first⟩
    have stops : ¬ self.Fails pool r nKey (draws (n + k)) k := fun fails => fails.2 serves
    refine .tried ip _ ?_ (fun spent => stops (spent.1 k four)) (List.find?_some first) ended
    rw [lucky_iff_of_first four before stops, fits_iff_not_strays valid mem drawn first]
    exact and_iff_right serves
  · cases scanAllocIP_firstFree pool valid mem with
    | inl found =>
        have ⟨ip, firstFree, scan⟩ := found
        have accepted : self.checkAddIpPool pool ip = true :=
          (checkAddIpPool_iff ip).mpr ⟨⟨r, mem, firstFree.1⟩, firstFree.2.1⟩
        exact .scanned ip ((lucky_iff_of_fails all).mpr ⟨ip, firstFree⟩)
          (fun spent => spent.2 ip firstFree) ⟨r, mem, firstFree.1, rfl⟩ accepted ended scan
    | inr nothing =>
        have ⟨nowhere, refused⟩ := nothing
        refine .passed (fun lucky => ?_) ⟨all, nowhere⟩ ended refused
        have ⟨ip, found⟩ := (lucky_iff_of_fails all).mp lucky
        exact nowhere ip found

/-- A list of ranges gives an accepted address, whose mask decides, or none. -/
theorem allocLoop_cases (pool : List CDbLogicNetworkIpPool) (nKey : Int32)
    (draws : ℕ → UUIDValue) (valid : self.Valid)
    (infos : List (TRangeUsedInfo TIPV4AddrRangeItem)) :
    ∀ n, (∀ info ∈ infos, info.tRange ∈ self.pIPv4AddrRange) →
    (∃ info ∈ infos, ∃ ip, self.checkAddIpPool pool ip = true ∧
      (self.Reaches pool nKey draws infos n ↔ self.Fits info.tRange ip) ∧
      (self.allocLoop pool nKey draws infos n).1 = .allocated ⟨ip, info.tRange.tIPStart.uMask⟩) ∨
    (¬ self.Reaches pool nKey draws infos n ∧
      ((self.allocLoop pool nKey draws infos n).1 = .failed ∨
        (self.allocLoop pool nKey draws infos n).1 = .divided)) := by
  induction infos with
  | nil =>
      intro n _
      exact .inr ⟨fun reaches => reaches, .inl rfl⟩
  | cons info rest ih =>
      intro n listed
      have here := List.mem_cons_self (a := info) (l := rest)
      have later := ih (n + 4) fun i inRest => listed i (List.mem_cons_of_mem _ inRest)
      rw [Reaches]
      cases allocRange_cases pool valid (listed info here) nKey draws n with
      | divided unlucky unspent tries =>
          right
          refine ⟨?_, .inr ?_⟩
          · simp only [unlucky, unspent, false_and, or_self, not_false_eq_true]
          · rw [allocLoop, tries]
      | tried ip after lucky unspent accepted tries =>
          left
          refine ⟨info, here, ip, accepted, ?_, ?_⟩
          · simp only [unspent, false_and, or_false]
            exact lucky
          · rw [allocLoop, tries]
      | scanned ip lucky unspent fits accepted tries scan =>
          left
          refine ⟨info, here, ip, accepted, iff_of_true (.inl lucky) fits, ?_⟩
          simp only [allocLoop, tries, scan, saveIPv4Addr2DB, accepted, if_true]
      | passed unlucky spent tries scan =>
          have goesOn : self.allocLoop pool nKey draws (info :: rest) n =
              self.allocLoop pool nKey draws rest (n + 4) := by
            simp only [allocLoop, tries]
            cases found : self.scanAllocIP pool info.tRange with
            | none => rfl
            | some ip => simp [saveIPv4Addr2DB, scan ip found]
          have same : (self.Lucky pool nKey draws n info.tRange ∨
              (self.Spent pool nKey draws n info.tRange ∧
                self.Reaches pool nKey draws rest (n + 4))) ↔
              self.Reaches pool nKey draws rest (n + 4) := by
            simp only [unlucky, spent, true_and, false_or]
          rw [goesOn, same]
          refine later.imp_left fun found => ?_
          have ⟨i, inRest, comes⟩ := found
          exact ⟨i, List.mem_cons_of_mem _ inRest, comes⟩

/-- Where every address of a range is held, it has as many rows as addresses. -/
theorem full_of_allHeld (all : self.AllHeld pool) (valid : self.Valid)
    (mem : r ∈ self.pIPv4AddrRange) :
    (interval r).toNat ≤ (self.queryByLnRange pool r.tIPStart.uIP r.tIPEnd.uIP).length := by
  have le := start_le (valid.valid r mem)
  have top := end_top (valid.valid r mem)
  have one : (1 : UInt32).toNat = 1 := rfl
  have difference : (r.tIPEnd.uIP - r.tIPStart.uIP).toNat =
      r.tIPEnd.uIP.toNat - r.tIPStart.uIP.toNat := UInt32.toNat_sub_of_le _ _ le
  have size : (interval r).toNat = r.tIPEnd.uIP.toNat - r.tIPStart.uIP.toNat + 1 := by
    rw [interval, UInt32.toNat_add, difference, one]
    omega
  have held : List.range' r.tIPStart.uIP.toNat (interval r).toNat ⊆
      (self.queryByLnRange pool r.tIPStart.uIP r.tIPEnd.uIP).map fun row => row.ipNum.toNat := by
    intro number inRange
    rw [List.mem_range'_1, size] at inRange
    rw [UInt32.le_iff_toNat_le] at le
    have value : (UInt32.ofNat number).toNat = number :=
      UInt32.toNat_ofNat_of_lt' (by show number < 2 ^ 32; omega)
    have inside : r.Holds (UInt32.ofNat number) := by
      rw [TIPV4AddrRangeItem.Holds, UInt32.le_iff_toNat_le, UInt32.le_iff_toNat_le, value]
      omega
    have taken := all r mem _ inside
    simp only [Free, not_forall, not_not] at taken
    have ⟨row, inPool, own, same⟩ := taken
    refine List.mem_map.mpr ⟨row, ?_, by rw [same, value]⟩
    rw [queryByLnRange, List.mem_filter]
    have inRow : r.Holds row.ipNum := same ▸ inside
    simpa [own, inPool, TIPV4AddrRangeItem.Holds] using inRow
  have count := (List.subperm_of_subset List.nodup_range' held).length_le
  rwa [List.length_range', List.length_map] at count

/-- An allocation is right just when all addresses are held, or a lucky range comes after spent ones
only. -/
theorem allocIPv4Addr_right_iff (pool : List CDbLogicNetworkIpPool) (nKey : Int32)
    (draws : ℕ → UUIDValue) (valid : self.Valid) (order : FreeSort TIPV4AddrRangeItem) :
    self.Right pool (self.allocIPv4Addr pool order nKey draws).1 ↔
      self.AllHeld pool ∨
      self.Reaches pool nKey draws (self.getAvailableRange pool order self.pIPv4AddrRange) 0 := by
  have listed : ∀ info ∈ self.getAvailableRange pool order self.pIPv4AddrRange,
      info.tRange ∈ self.pIPv4AddrRange := fun info mem => (mem_getAvailableRange order mem).1
  have loop : (self.allocIPv4Addr pool order nKey draws).1 = (self.allocLoop pool nKey draws
      (self.getAvailableRange pool order self.pIPv4AddrRange) 0).1 := by
    rw [allocIPv4Addr]
    by_cases full : (self.getAvailableRange pool order self.pIPv4AddrRange).isEmpty
    · rw [if_pos full, List.isEmpty_iff.mp full]
      rfl
    · rw [if_neg full]
  have held : self.AllHeld pool →
      self.getAvailableRange pool order self.pIPv4AddrRange = [] := by
    intro all
    apply List.eq_nil_iff_forall_not_mem.mpr
    intro info mem
    have ⟨inRanges, nCnt, counted, less⟩ := mem_getAvailableRange order mem
    have proper := start_le (valid.valid _ inRanges)
    rw [getIPv4AddrCnt, queryAllocNum, if_neg (UInt32.not_lt.mpr proper)] at counted
    have many := full_of_allHeld all valid inRanges
    rw [Option.some.inj counted] at many
    exact absurd less (Nat.not_lt.mpr many)
  rw [loop]
  by_cases all : self.AllHeld pool
  · rw [held all, allocLoop]
    exact iff_of_true ⟨by simp, by simp, iff_of_true rfl all⟩ (.inl all)
  · rw [or_iff_right all]
    rcases allocLoop_cases pool nKey draws valid _ 0 listed with
      ⟨info, mem, ip, accepted, reaches, allocated⟩ | ⟨unreached, ended⟩
    · have ⟨_, free⟩ := (checkAddIpPool_iff ip).mp accepted
      rw [reaches, allocated]
      constructor
      · intro right
        exact (right.fresh _ rfl).1
      · intro fits
        refine ⟨by simp, ?_, iff_of_false (by simp) all⟩
        intro tItem same
        cases same
        exact ⟨fits, free⟩
    · refine iff_of_false (fun right => ?_) unreached
      cases ended with
      | inl failed => exact all (right.complete.mp failed)
      | inr divided => exact right.defined divided

section Inputs

open CIPv4Addr

/-- A range from the lowest to the highest address, both under one mask. -/
def under (mask low high : UInt32) : TIPV4AddrRangeItem := ⟨⟨low, mask⟩, ⟨high, mask⟩⟩

def mask24 : UInt32 := ofOctets 255 255 255 0

def mask8 : UInt32 := ofOctets 255 0 0 0

def netOf (ranges : List TIPV4AddrRangeItem) : CIPv4AddrPool := ⟨"net", ranges, by decide⟩

def oneRange : CIPv4AddrPool := netOf [under mask24 (ofOctets 10 0 0 5) (ofOctets 10 0 0 9)]

/-- Nothing held, the first draw gives an address. -/
theorem allocIPv4Addr_right_at_first :
    oneRange.Right []
      (oneRange.allocIPv4Addr [] (.mostFree _) 0 fun _ => ⟨0, 0, 0, 0, 0⟩).1 := by
  have valid : oneRange.Valid := ⟨by decide, List.pairwise_singleton ..⟩
  have drawn : calcIPv4Addr (under mask24 (ofOctets 10 0 0 5) (ofOctets 10 0 0 9)) 0
      ⟨0, 0, 0, 0, 0⟩ = some (ofOctets 10 0 0 7) := by decide
  have serves : oneRange.Serves [] (under mask24 (ofOctets 10 0 0 5) (ofOctets 10 0 0 9)) 0
      ⟨0, 0, 0, 0, 0⟩ 0 := ⟨_, drawn, ofOctets 10 0 0 7, by decide, by decide⟩
  refine (allocIPv4Addr_right_iff [] 0 (fun _ => ⟨0, 0, 0, 0, 0⟩) valid (.mostFree _)).mpr
    (.inr (.inl (.inl ⟨0, by decide, fun j less => absurd less (Nat.not_lt_zero j), serves, ?_⟩)))
  rintro ⟨ip, _, _, other, mem, _, different⟩
  rw [List.mem_singleton.mp mem] at different
  exact different rfl

/-- The third octet falls by one, the second rises. -/
def crossing : CIPv4AddrPool := netOf [under mask8 (ofOctets 10 0 1 5) (ofOctets 10 1 0 9)]

/-- The third octet falls by two. -/
def falling : CIPv4AddrPool := netOf [under mask8 (ofOctets 10 0 2 5) (ofOctets 10 1 0 9)]

def twoMasks : CIPv4AddrPool :=
  netOf [under mask24 (ofOctets 10 0 0 5) (ofOctets 10 0 0 9),
    under mask8 (ofOctets 10 0 0 1) (ofOctets 10 0 0 3)]

def three : CIPv4AddrPool := netOf [under mask24 (ofOctets 10 0 0 1) (ofOctets 10 0 0 3)]

def otherMask : CDbLogicNetworkIpPool := ⟨"net", ofOctets 10 0 0 1, mask8⟩

/-- An octet divides by zero, or the smallest number by -1. A negative remainder leads into
another range, whose mask the address does not get. An address held under another mask stops the
scan, and the allocation fails with two free addresses. -/
theorem addresses_go_wrong :
    (crossing.Valid ∧
      (crossing.allocIPv4Addr [] (.mostFree _) 0 fun _ => ⟨0, 0, 0, 0, 0⟩).1 = .divided) ∧
    (falling.Valid ∧
      (falling.allocIPv4Addr [] (.mostFree _) 0 fun _ => ⟨0, 0, Int32.minValue, 0, 0⟩).1 =
        .divided) ∧
    (twoMasks.Valid ∧
      (twoMasks.allocIPv4Addr [] (.mostFree _) 0 fun _ => ⟨0, 0, 0, -4, -1⟩).1 =
        .allocated ⟨ofOctets 10 0 0 2, mask24⟩) ∧
    (three.Valid ∧ ¬ three.AllHeld [otherMask] ∧
      (three.allocIPv4Addr [otherMask] (.mostFree _) 0 fun _ => ⟨0, 0, 0, 0, 1⟩).1 =
        .failed) := by
  refine ⟨⟨⟨by decide, List.pairwise_singleton ..⟩, by decide⟩,
    ⟨⟨by decide, List.pairwise_singleton ..⟩, by decide⟩, ⟨⟨by decide, ?_⟩, by decide⟩,
    ⟨⟨by decide, List.pairwise_singleton ..⟩, ?_, by decide⟩⟩
  · refine List.pairwise_pair.mpr ?_
    intro ip both
    have above : ofOctets 10 0 0 5 ≤ ip := both.1.1
    have below : ip ≤ ofOctets 10 0 0 3 := both.2.2
    exact absurd (UInt32.le_trans above below) (by decide)
  · intro all
    have free : three.Free [otherMask] (ofOctets 10 0 0 2) := by
      intro row mem _
      rw [List.mem_singleton.mp mem]
      decide
    exact all _ (List.mem_singleton_self _) (ofOctets 10 0 0 2) ⟨by decide, by decide⟩ free

end Inputs

end CIPv4AddrPool

end Tecs
