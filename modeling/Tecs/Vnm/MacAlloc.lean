import Tecs.Vnm.MacPool

set_option autoImplicit false

namespace Tecs

/-- An address of six bytes in one of the range's OUIs. -/
def TMACRangeItem.Holds (r : TMACRangeItem) (tMAC : TUInt32MAC) : Prop :=
  tMAC.dwOUI = r.tStartMAC.dwOUI ∧ r.tStartMAC.dwData ≤ tMAC.dwData ∧
    tMAC.dwData ≤ r.tEndMAC.dwData

/-- A valid range of a list for one of the two OUIs, as it is read from the database. -/
structure TMACRangeItem.Of (r : TMACRangeItem) (dwOUI : UInt32) : Prop where
  valid : r.isValidMACRange = true
  start : r.tStartMAC.dwOUI = dwOUI
  stop : r.tEndMAC.dwOUI = dwOUI
  known : dwOUI = TUInt32MAC.c_dwZTEOUI1 ∨ dwOUI = TUInt32MAC.c_dwZTEOUI2
  bytes : r.tEndMAC.dwData.toNat < 2 ^ 24

namespace CMACPool

/-- No netplane holds the address. -/
def Free (pool : List CDbNetplaneMacPool) (tMAC : TUInt32MAC) : Prop :=
  ∀ row ∈ pool, row.macNum ≠ tMAC.macNum

structure Valid (p : CMACPool) : Prop where
  oui1 : ∀ r ∈ p.pOUI1MACRange, r.Of TUInt32MAC.c_dwZTEOUI1
  oui2 : ∀ r ∈ p.pOUI2MACRange, r.Of TUInt32MAC.c_dwZTEOUI2

/-- The sixteen addresses tried in a range; its one address, if it has no more. -/
def tried (r : TMACRangeItem) (nKey : Int32) (draws : ℕ → UUIDValue) (n : ℕ) : List UInt32 :=
  if r.tEndMAC.dwData = r.tStartMAC.dwData then [r.tStartMAC.dwData]
  else attempts (r.tEndMAC.dwData - r.tStartMAC.dwData) r.tStartMAC.dwData
    (fun n => calcMACAddr nKey r.tEndMAC.dwData r.tStartMAC.dwData (draws n)) 16 0 (n + 1)
    (calcMACAddr nKey r.tEndMAC.dwData r.tStartMAC.dwData (draws n))

variable (self : CMACPool) (pool : List CDbNetplaneMacPool)

/-- The netplane itself holds the address. -/
def Own (tMAC : TUInt32MAC) : Prop :=
  ∃ row ∈ pool, row.uuid = self.strNetplaneUUID ∧ row.macNum = tMAC.macNum

/-- One of the addresses tried is free, or else the first that the netplane itself does not hold. -/
def Lucky (nKey : Int32) (draws : ℕ → UUIDValue) (n : ℕ) (r : TMACRangeItem) : Prop :=
  (∃ dwData ∈ tried r nKey draws n, Free pool ⟨r.tStartMAC.dwOUI, dwData⟩) ∨
  ∃ dwData, r.Holds ⟨r.tStartMAC.dwOUI, dwData⟩ ∧ Free pool ⟨r.tStartMAC.dwOUI, dwData⟩ ∧
    ∀ before, r.tStartMAC.dwData ≤ before → before < dwData →
      self.Own pool ⟨r.tStartMAC.dwOUI, before⟩

/-- A lucky range comes before any unlucky one of a single address. -/
def Reaches (nKey : Int32) (draws : ℕ → UUIDValue) : List (TRangeUsedInfo TMACRangeItem) → ℕ → Prop
  | [], _ => False
  | info :: rest, n =>
      self.Lucky pool nKey draws n info.tRange ∨
        (info.tRange.tEndMAC.dwData ≠ info.tRange.tStartMAC.dwData ∧
          Reaches nKey draws rest (n + 4))

/-- How a list of ranges comes to its result. -/
def Comes (nKey : Int32) (draws : ℕ → UUIDValue) : List (TRangeUsedInfo TMACRangeItem) → ℕ →
    Alloc TUInt32MAC × List CDbNetplaneMacPool × ℕ → Prop
  | [], n, result => result = (.failed, pool, n)
  | info :: rest, n, result =>
      (self.Lucky pool nKey draws n info.tRange ∧
        ∃ tMAC, result.1 = .allocated tMAC ∧ info.tRange.Holds tMAC ∧ Free pool tMAC) ∨
      (¬ self.Lucky pool nKey draws n info.tRange ∧
        info.tRange.tEndMAC.dwData ≠ info.tRange.tStartMAC.dwData ∧
        Comes nKey draws rest (n + 4) result) ∨
      (¬ self.Lucky pool nKey draws n info.tRange ∧
        info.tRange.tEndMAC.dwData = info.tRange.tStartMAC.dwData ∧ result.1 = .divided)

def AllHeld : Prop :=
  ∀ r ∈ self.ranges, ∀ tMAC, r.Holds tMAC → ¬ Free pool tMAC

/-- What an allocation is to come to. -/
structure Right (p : CMACPool) (rows : List CDbNetplaneMacPool)
    (result : Alloc TUInt32MAC) : Prop where
  defined : result ≠ .divided
  fresh : ∀ tMAC, result = .allocated tMAC → (∃ r ∈ p.ranges, r.Holds tMAC) ∧ Free rows tMAC
  complete : result = .failed ↔ p.AllHeld rows

variable {self pool}

theorem start_le {r : TMACRangeItem} {dwOUI : UInt32} (of : r.Of dwOUI) :
    r.tStartMAC.dwData ≤ r.tEndMAC.dwData := by
  have valid := of.valid
  simp only [TMACRangeItem.isValidMACRange, Bool.and_eq_true, decide_eq_true_eq] at valid
  exact valid.2

theorem set_eq {dwOUI dwData : UInt32}
    (known : dwOUI = TUInt32MAC.c_dwZTEOUI1 ∨ dwOUI = TUInt32MAC.c_dwZTEOUI2)
    (bytes : dwData.toNat < 2 ^ 24) : TUInt32MAC.set ⟨dwOUI, dwData⟩ = ⟨dwOUI, dwData⟩ := by
  have low : dwData &&& 0x00FFFFFF = dwData := by
    apply UInt32.toNat_inj.mp
    rw [UInt32.toNat_and]
    change dwData.toNat &&& (2 ^ 24 - 1) = _
    rw [Nat.and_two_pow_sub_one_eq_mod, Nat.mod_eq_of_lt bytes]
  have oui : dwOUI &&& 0x00FFFFFF = dwOUI := by
    cases known with
    | inl same => rw [same]; decide
    | inr same => rw [same]; decide
  rw [TUInt32MAC.set, low, oui]

theorem mem_ranges (valid : self.Valid) {r : TMACRangeItem} (mem : r ∈ self.ranges) :
    r.Of r.tStartMAC.dwOUI := by
  cases List.mem_append.mp mem with
  | inl mem =>
      have of := valid.oui1 r mem
      exact of.start ▸ of
  | inr mem =>
      have of := valid.oui2 r mem
      exact of.start ▸ of

theorem set_of_holds {r : TMACRangeItem} (of : r.Of r.tStartMAC.dwOUI) {tMAC : TUInt32MAC}
    (holds : r.Holds tMAC) : tMAC.set = tMAC := by
  have high := UInt32.le_iff_toNat_le.mp holds.2.2
  obtain ⟨dwOUI, dwData⟩ := tMAC
  have oui : dwOUI = r.tStartMAC.dwOUI := holds.1
  subst oui
  exact set_eq of.known (Nat.lt_of_le_of_lt high of.bytes)

/-- An address of a range is accepted unless some netplane holds it. -/
theorem checkAddMacPool_iff (pool : List CDbNetplaneMacPool) (valid : self.Valid)
    {r : TMACRangeItem} (mem : r ∈ self.ranges) {tMAC : TUInt32MAC} (holds : r.Holds tMAC) :
    self.checkAddMacPool pool tMAC.set.macNum = true ↔ Free pool tMAC := by
  have of := mem_ranges valid mem
  have stop := of.stop
  rw [set_of_holds of holds]
  have ⟨oui, low, high⟩ := holds
  rw [UInt32.le_iff_toNat_le] at low high
  have inside : r.tStartMAC.macNum ≤ tMAC.macNum ∧ tMAC.macNum ≤ r.tEndMAC.macNum := by
    simp only [TUInt32MAC.macNum, stop, oui]
    omega
  simp only [checkAddMacPool, Free, Bool.and_eq_true, List.any_eq_true, decide_eq_true_eq,
    Bool.not_eq_true', List.any_eq_false]
  exact ⟨fun ok => ok.2, fun free => ⟨⟨r, mem, inside⟩, free⟩⟩

theorem saveMAC2DB_cases (pool : List CDbNetplaneMacPool) (valid : self.Valid)
    {r : TMACRangeItem} (mem : r ∈ self.ranges) {tMAC : TUInt32MAC} (holds : r.Holds tMAC) :
    (Free pool tMAC ∧ ∃ after, self.saveMAC2DB pool tMAC = some after) ∨
    (¬ Free pool tMAC ∧ self.saveMAC2DB pool tMAC = none) := by
  have accepted := checkAddMacPool_iff pool valid mem holds
  rw [saveMAC2DB]
  by_cases free : Free pool tMAC
  · exact .inl ⟨free, _, if_pos (accepted.mpr free)⟩
  · exact .inr ⟨free, if_neg fun ok => free (accepted.mp ok)⟩

theorem calcMACAddr_mem {s e : UInt32} (nKey : Int32) (le : s ≤ e) (uuid : UUIDValue) :
    s ≤ calcMACAddr nKey e s uuid ∧ calcMACAddr nKey e s uuid ≤ e := by
  rw [calcMACAddr]
  split
  · exact ⟨UInt32.le_refl s, le⟩
  · rename_i several
    exact mod_add_mem le several

theorem tried_mem {nKey : Int32} {draws : ℕ → UUIDValue} {n : ℕ} {r : TMACRangeItem}
    (le : r.tStartMAC.dwData ≤ r.tEndMAC.dwData) : ∀ a ∈ tried r nKey draws n,
    r.Holds ⟨r.tStartMAC.dwOUI, a⟩ := by
  intro a mem
  rw [tried] at mem
  split at mem
  · rw [List.mem_singleton] at mem
    subst mem
    exact ⟨rfl, UInt32.le_refl _, le⟩
  · rename_i several
    have inside := attempts_mem (fun a => r.tStartMAC.dwData ≤ a ∧ a ≤ r.tEndMAC.dwData)
      (fun n => calcMACAddr_mem nKey le (draws n)) (fun _ => mod_add_mem le several)
      16 0 (n + 1) _ (calcMACAddr_mem nKey le (draws n)) a mem
    exact ⟨rfl, inside⟩

theorem listed_iff {s e b dwOUI : UInt32} (low : s ≤ b) (high : b ≤ e) :
    ((self.queryByNpRange pool (TUInt32MAC.macNum ⟨dwOUI, s⟩) (TUInt32MAC.macNum ⟨dwOUI, e⟩)).any
      fun row => TUInt32MAC.macNum ⟨dwOUI, b⟩ = row.macNum) = true ↔
    self.Own pool ⟨dwOUI, b⟩ := by
  rw [UInt32.le_iff_toNat_le] at low high
  simp only [queryByNpRange, Own, List.any_eq_true, List.mem_filter, Bool.and_eq_true,
    decide_eq_true_eq]
  constructor
  · intro found
    have ⟨row, ⟨mem, own, _⟩, same⟩ := found
    exact ⟨row, mem, own.1, same.symm⟩
  · intro found
    have ⟨row, mem, own, same⟩ := found
    refine ⟨row, ⟨mem, ⟨own, ?_⟩, ?_⟩, same.symm⟩
    · rw [same]
      simp only [TUInt32MAC.macNum]
      omega
    · rw [same]
      simp only [TUInt32MAC.macNum]
      omega

theorem scanAllocMAC_cases (self : CMACPool) (pool : List CDbNetplaneMacPool) {r : TMACRangeItem}
    {dwOUI : UInt32} (of : r.Of dwOUI) :
    (self.scanAllocMAC pool dwOUI r.tStartMAC.dwData r.tEndMAC.dwData = none ∧
      ∀ b, r.Holds ⟨dwOUI, b⟩ → self.Own pool ⟨dwOUI, b⟩) ∨
    ∃ a, self.scanAllocMAC pool dwOUI r.tStartMAC.dwData r.tEndMAC.dwData = some a ∧
      r.Holds ⟨dwOUI, a⟩ ∧ ¬ self.Own pool ⟨dwOUI, a⟩ ∧
      ∀ before, r.tStartMAC.dwData ≤ before → before < a → self.Own pool ⟨dwOUI, before⟩ := by
  have top : r.tEndMAC.dwData.toNat + 1 < 2 ^ 32 := by
    have bytes := of.bytes
    omega
  rw [scanAllocMAC]
  cases scanRange_cases _ top r.tStartMAC.dwData with
  | inl ended =>
      left
      refine ⟨ended.1, fun b holds => ?_⟩
      have ⟨_, low, high⟩ := holds
      exact (listed_iff low high).mp (ended.2 b low high)
  | inr found =>
      have ⟨a, result, low, high, absent, before⟩ := found
      right
      refine ⟨a, result, ⟨of.start.symm, low, high⟩, ?_, fun b start less => ?_⟩
      · intro own
        exact Bool.false_ne_true (absent.symm.trans ((listed_iff low high).mpr own))
      · have stop : b ≤ r.tEndMAC.dwData := UInt32.le_trans (UInt32.le_of_lt less) high
        exact (listed_iff start stop).mp (before b start less)

theorem Own.not_free {tMAC : TUInt32MAC} (own : self.Own pool tMAC) : ¬ Free pool tMAC := by
  intro free
  have ⟨row, mem, _, same⟩ := own
  exact free row mem same

section Outcome

variable {nKey : Int32} {draws : ℕ → UUIDValue} {r : TMACRangeItem} {n : ℕ}

theorem tryRange_single (dwOUI s : UInt32) :
    self.tryRange pool dwOUI s s nKey draws n =
      match self.saveMAC2DB pool ⟨dwOUI, s⟩ with
      | some pool => .saved s pool
      | none => .divided := by
  simp only [tryRange, calcMACAddr, if_true]
  rw [tryLoop]
  cases self.saveMAC2DB pool ⟨dwOUI, s⟩ with
  | some after => rfl
  | none => simp

theorem tryRange_eq (several : r.tEndMAC.dwData ≠ r.tStartMAC.dwData) :
    self.tryRange pool r.tStartMAC.dwOUI r.tStartMAC.dwData r.tEndMAC.dwData nKey draws n =
      match (tried r nKey draws n).find? fun a =>
        self.checkAddMacPool pool (TUInt32MAC.set ⟨r.tStartMAC.dwOUI, a⟩).macNum with
      | some a => .saved a (pool ++ [⟨self.strNetplaneUUID,
          (TUInt32MAC.set ⟨r.tStartMAC.dwOUI, a⟩).macNum⟩])
      | none => .missed (n + 4) := by
  have gap : r.tEndMAC.dwData - r.tStartMAC.dwData ≠ 0 := by
    intro zero
    apply several
    have back := congrArg (· + r.tStartMAC.dwData) zero
    simpa using back
  rw [tryRange, drawn, if_neg several, tried, if_neg several]
  exact tryLoop_eq (fun n => calcMACAddr nKey r.tEndMAC.dwData r.tStartMAC.dwData (draws n))
    (fun _ => rfl) gap (fun _ => rfl) 16 0 (n + 1) _

/-- With more than one address a free attempt is saved, or all of them are missed. -/
theorem tryRange_cases (pool : List CDbNetplaneMacPool) (nKey : Int32) (draws : ℕ → UUIDValue)
    (n : ℕ) (valid : self.Valid) (mem : r ∈ self.ranges)
    (several : r.tEndMAC.dwData ≠ r.tStartMAC.dwData) :
    (∃ a ∈ tried r nKey draws n, Free pool ⟨r.tStartMAC.dwOUI, a⟩ ∧ ∃ after,
      self.tryRange pool r.tStartMAC.dwOUI r.tStartMAC.dwData r.tEndMAC.dwData nKey draws n =
        .saved a after) ∨
    ((∀ a ∈ tried r nKey draws n, ¬ Free pool ⟨r.tStartMAC.dwOUI, a⟩) ∧
      self.tryRange pool r.tStartMAC.dwOUI r.tStartMAC.dwData r.tEndMAC.dwData nKey draws n =
        .missed (n + 4)) := by
  have accepted : ∀ a ∈ tried r nKey draws n,
      self.checkAddMacPool pool (TUInt32MAC.set ⟨r.tStartMAC.dwOUI, a⟩).macNum = true ↔
        Free pool ⟨r.tStartMAC.dwOUI, a⟩ := fun a inTried =>
    checkAddMacPool_iff pool valid mem (tried_mem (start_le (mem_ranges valid mem)) a inTried)
  rw [tryRange_eq several]
  cases first : (tried r nKey draws n).find? _ with
  | some a =>
      have inTried := List.mem_of_find?_eq_some first
      have ok := List.find?_some first
      left
      exact ⟨a, inTried, (accepted a inTried).mp ok, _, rfl⟩
  | none =>
      right
      refine ⟨fun a inTried free => ?_, rfl⟩
      exact List.find?_eq_none.mp first a inTried ((accepted a inTried).mpr free)

/-- The one address of a range is stored, or the loop divides by the difference of its ends. -/
theorem allocLoop_single (valid : self.Valid) {info : TRangeUsedInfo TMACRangeItem}
    (mem : info.tRange ∈ self.ranges) (rest : List (TRangeUsedInfo TMACRangeItem))
    (single : info.tRange.tEndMAC.dwData = info.tRange.tStartMAC.dwData) :
    self.Comes pool nKey draws (info :: rest) n
      (self.allocLoop pool info.tRange.tStartMAC.dwOUI nKey draws (info :: rest) n) := by
  have of := mem_ranges valid mem
  have holds : info.tRange.Holds ⟨info.tRange.tStartMAC.dwOUI, info.tRange.tStartMAC.dwData⟩ :=
    ⟨rfl, UInt32.le_refl _, start_le of⟩
  rw [allocLoop, Comes]
  simp only [single, tryRange_single]
  cases saveMAC2DB_cases pool valid mem holds with
  | inl stored =>
      left
      refine ⟨.inl ⟨info.tRange.tStartMAC.dwData, ?_, stored.1⟩, _, ?_, holds, stored.1⟩
      · simp [tried, single]
      · obtain ⟨after, saved⟩ := stored.2
        rw [saved]
        simp only
        rw [set_of_holds of holds]
  | inr refused =>
      have unlucky : ¬ self.Lucky pool nKey draws n info.tRange := by
        intro lucky
        cases lucky with
        | inl found =>
            obtain ⟨a, mem, free⟩ := found
            simp only [tried, single, if_true, List.mem_singleton] at mem
            exact refused.1 (mem ▸ free)
        | inr found =>
            obtain ⟨a, inside, free, _⟩ := found
            have same : a = info.tRange.tStartMAC.dwData :=
              UInt32.le_antisymm (single ▸ inside.2.2) inside.2.1
            exact refused.1 (same ▸ free)
      right; right
      refine ⟨unlucky, trivial, ?_⟩
      rw [refused.2]

/-- With several addresses the loop stores one of those tried, or else the first of the scan. -/
theorem allocLoop_several (valid : self.Valid) {info : TRangeUsedInfo TMACRangeItem}
    (mem : info.tRange ∈ self.ranges) (rest : List (TRangeUsedInfo TMACRangeItem))
    (several : info.tRange.tEndMAC.dwData ≠ info.tRange.tStartMAC.dwData)
    (later : self.Comes pool nKey draws rest (n + 4)
      (self.allocLoop pool info.tRange.tStartMAC.dwOUI nKey draws rest (n + 4))) :
    self.Comes pool nKey draws (info :: rest) n
      (self.allocLoop pool info.tRange.tStartMAC.dwOUI nKey draws (info :: rest) n) := by
  have of := mem_ranges valid mem
  have le := start_le of
  rw [allocLoop, Comes]
  cases tryRange_cases pool nKey draws n valid mem several with
  | inl saved =>
      have ⟨a, inTried, free, after, result⟩ := saved
      have inside := tried_mem le a inTried
      left
      refine ⟨.inl ⟨a, inTried, free⟩, _, ?_, inside, free⟩
      simp only [result]
      rw [set_of_holds of inside]
  | inr missed =>
      have taken := missed.1
      simp only [missed.2]
      cases scanAllocMAC_cases self pool of with
      | inl ended =>
          have unlucky : ¬ self.Lucky pool nKey draws n info.tRange := by
            intro lucky
            cases lucky with
            | inl found =>
                have ⟨a, tries, free⟩ := found
                exact taken a tries free
            | inr found =>
                have ⟨a, inside, free, _⟩ := found
                exact (ended.2 a inside).not_free free
          right; left
          refine ⟨unlucky, several, ?_⟩
          rw [ended.1]
          exact later
      | inr found =>
          have ⟨a, result, inside, other, before⟩ := found
          rw [result]
          simp only
          cases saveMAC2DB_cases pool valid mem inside with
          | inl stored =>
              left
              refine ⟨.inr ⟨a, inside, stored.1, before⟩, _, ?_, inside, stored.1⟩
              have ⟨after, saved⟩ := stored.2
              rw [saved]
              simp only
              rw [set_of_holds of inside]
          | inr refused =>
              have unlucky : ¬ self.Lucky pool nKey draws n info.tRange := by
                intro lucky
                cases lucky with
                | inl found =>
                    have ⟨b, tries, free⟩ := found
                    exact taken b tries free
                | inr found =>
                    -- both are the first address that the netplane does not hold
                    have ⟨b, inside', free, before'⟩ := found
                    have ab : ¬ a < b := fun less => other (before' a inside.2.1 less)
                    have ba : ¬ b < a := fun less => (before b inside'.2.1 less).not_free free
                    have same : b = a :=
                      UInt32.le_antisymm (UInt32.not_lt.mp ab) (UInt32.not_lt.mp ba)
                    exact refused.1 (same ▸ free)
              right; left
              refine ⟨unlucky, several, ?_⟩
              rw [refused.2]
              exact later

theorem allocLoop_comes (pool : List CDbNetplaneMacPool) (nKey : Int32) (draws : ℕ → UUIDValue)
    (valid : self.Valid) {dwOUI : UInt32} (infos : List (TRangeUsedInfo TMACRangeItem)) :
    ∀ {n : ℕ}, (∀ info ∈ infos, info.tRange ∈ self.ranges ∧ info.tRange.tStartMAC.dwOUI = dwOUI) →
    self.Comes pool nKey draws infos n (self.allocLoop pool dwOUI nKey draws infos n) := by
  induction infos with
  | nil =>
      intro n _
      exact rfl
  | cons info rest ih =>
      intro n listed
      have ⟨mem, start⟩ := listed info (List.mem_cons_self ..)
      have later : self.Comes pool nKey draws rest (n + 4)
          (self.allocLoop pool dwOUI nKey draws rest (n + 4)) :=
        ih fun i inRest => listed i (List.mem_cons_of_mem _ inRest)
      subst start
      by_cases single : info.tRange.tEndMAC.dwData = info.tRange.tStartMAC.dwData
      · exact allocLoop_single valid mem rest single
      · exact allocLoop_several valid mem rest single later

theorem Comes.failed {infos : List (TRangeUsedInfo TMACRangeItem)} :
    ∀ {n : ℕ} {result : Alloc TUInt32MAC × List CDbNetplaneMacPool × ℕ},
    self.Comes pool nKey draws infos n result → result.1 = .failed → result.2.1 = pool := by
  induction infos with
  | nil =>
      intro n result comes _
      rw [Comes] at comes
      rw [comes]
  | cons info rest ih =>
      intro n result comes failed
      rcases comes with ⟨_, tMAC, allocated, _⟩ | ⟨_, _, later⟩ | ⟨_, _, divided⟩
      · rw [failed] at allocated
        cases allocated
      · exact ih later failed
      · rw [failed] at divided
        cases divided

theorem Comes.append {front back : List (TRangeUsedInfo TMACRangeItem)}
    {result : Alloc TUInt32MAC × List CDbNetplaneMacPool × ℕ} {m : ℕ} : ∀ {n : ℕ},
    self.Comes pool nKey draws front n (.failed, pool, m) →
    self.Comes pool nKey draws back m result →
    self.Comes pool nKey draws (front ++ back) n result := by
  induction front with
  | nil =>
      intro n comes then_
      have count : m = n := congrArg (·.2.2) comes
      exact count ▸ then_
  | cons info rest ih =>
      intro n comes then_
      rcases comes with ⟨_, tMAC, allocated, _⟩ | ⟨unlucky, several, later⟩ | ⟨_, _, divided⟩
      · cases allocated
      · exact .inr (.inl ⟨unlucky, several, ih later then_⟩)
      · cases divided

theorem Comes.ended {front : List (TRangeUsedInfo TMACRangeItem)}
    (back : List (TRangeUsedInfo TMACRangeItem))
    {result : Alloc TUInt32MAC × List CDbNetplaneMacPool × ℕ}
      (ended : result.1 ≠ .failed) : ∀ {n : ℕ},
    self.Comes pool nKey draws front n result →
    self.Comes pool nKey draws (front ++ back) n result := by
  induction front with
  | nil =>
      intro n comes
      rw [Comes] at comes
      exact absurd (congrArg (·.1) comes) ended
  | cons info rest ih =>
      intro n comes
      rcases comes with lucky | ⟨unlucky, several, later⟩ | divided
      · exact .inl lucky
      · exact .inr (.inl ⟨unlucky, several, ih later⟩)
      · exact .inr (.inr divided)

/-- A list gives an address that no one holds, fails without a range of one address, or divides by
zero at one. -/
theorem Comes.cases {infos : List (TRangeUsedInfo TMACRangeItem)}
    {result : Alloc TUInt32MAC × List CDbNetplaneMacPool × ℕ} : ∀ {n : ℕ},
    self.Comes pool nKey draws infos n result →
    (self.Reaches pool nKey draws infos n ∧ ∃ info ∈ infos, ∃ tMAC,
      result.1 = .allocated tMAC ∧ info.tRange.Holds tMAC ∧ Free pool tMAC) ∨
    (¬ self.Reaches pool nKey draws infos n ∧ result.1 = .failed ∧
      ∀ info ∈ infos, info.tRange.tEndMAC.dwData ≠ info.tRange.tStartMAC.dwData) ∨
    (¬ self.Reaches pool nKey draws infos n ∧ result.1 = .divided ∧
      ¬ ∀ info ∈ infos, info.tRange.tEndMAC.dwData ≠ info.tRange.tStartMAC.dwData) := by
  induction infos with
  | nil =>
      intro n comes
      rw [Comes] at comes
      exact .inr (.inl ⟨fun reaches => reaches, by rw [comes], by simp⟩)
  | cons info rest ih =>
      intro n comes
      simp only [Reaches, List.forall_mem_cons, List.exists_mem_cons_iff]
      rcases comes with ⟨lucky, found⟩ | ⟨unlucky, several, later⟩ | ⟨unlucky, single, divided⟩
      · exact .inl ⟨.inl lucky, .inl found⟩
      · rcases ih later with ⟨reaches, found⟩ | ⟨missed, ended⟩ | ⟨missed, divided⟩
        · exact .inl ⟨.inr ⟨several, reaches⟩, .inr found⟩
        · exact .inr (.inl ⟨by simp [unlucky, missed], ended.1, several, ended.2⟩)
        · exact .inr (.inr ⟨by simp [unlucky, missed], divided.1, fun all => divided.2 all.2⟩)
      · simp [unlucky, single, divided]

/-- The ranges that are tried: those of the first OUI, then those of the second. -/
def tries (self : CMACPool) (pool : List CDbNetplaneMacPool) (order : FreeSort TMACRangeItem) :
    List (TRangeUsedInfo TMACRangeItem) :=
  self.getAvailableRange pool order self.pOUI1MACRange ++
    self.getAvailableRange pool order self.pOUI2MACRange

theorem allocMACAtRange_comes (pool : List CDbNetplaneMacPool) (nKey : Int32)
    (draws : ℕ → UUIDValue) (valid : self.Valid) (order : FreeSort TMACRangeItem) {dwOUI : UInt32}
    {vecMACRange : List TMACRangeItem} (n : ℕ)
    (listed : ∀ r ∈ vecMACRange, r ∈ self.ranges ∧ r.tStartMAC.dwOUI = dwOUI) :
    self.Comes pool nKey draws (self.getAvailableRange pool order vecMACRange) n
      (self.allocMACAtRange pool order nKey draws vecMACRange dwOUI n) := by
  have from_ : ∀ info ∈ self.getAvailableRange pool order vecMACRange,
      info.tRange ∈ self.ranges ∧ info.tRange.tStartMAC.dwOUI = dwOUI :=
    fun info mem => listed _ (mem_getAvailableRange order mem).1
  have loop := allocLoop_comes pool nKey draws valid _ (n := n) from_
  rw [allocMACAtRange]
  by_cases none_ : vecMACRange.isEmpty
  · rw [if_pos none_, List.isEmpty_iff.mp none_, getAvailableRange, getAvailableRange_nil, Comes]
  · rw [if_neg none_]
    simp only
    by_cases full : (self.getAvailableRange pool order vecMACRange).isEmpty
    · rw [if_pos full, List.isEmpty_iff.mp full, Comes]
    · rw [if_neg full]
      exact loop

theorem allocMAC_comes (pool : List CDbNetplaneMacPool) (nKey : Int32) (draws : ℕ → UUIDValue)
    (valid : self.Valid) (order : FreeSort TMACRangeItem) :
    self.Comes pool nKey draws (self.tries pool order) 0
      (self.allocMAC pool order nKey draws) := by
  have first := allocMACAtRange_comes pool nKey draws valid order 0
    fun r mem => ⟨List.mem_append_left _ mem, (valid.oui1 r mem).start⟩
  have second := fun n => allocMACAtRange_comes pool nKey draws valid order n
    fun r mem => ⟨List.mem_append_right _ mem, (valid.oui2 r mem).start⟩
  rw [allocMAC, tries]
  split
  · rename_i after n result
    rw [result] at first
    have kept : after = pool := first.failed rfl
    rw [kept] at first
    exact first.append (second n)
  · rename_i ended
    apply first.ended
    intro failed
    exact ended _ _ (Prod.ext failed rfl)

/-- An allocation is right just when a range that gives an address comes in time, or all addresses
are held and there is no range of one address left to divide at. -/
theorem allocMAC_right_iff (pool : List CDbNetplaneMacPool) (nKey : Int32)
    (draws : ℕ → UUIDValue) (valid : self.Valid) (order : FreeSort TMACRangeItem) :
    self.Right pool (self.allocMAC pool order nKey draws).1 ↔
      self.Reaches pool nKey draws (self.tries pool order) 0 ∨
      (self.AllHeld pool ∧ ∀ info ∈ self.tries pool order,
        info.tRange.tEndMAC.dwData ≠ info.tRange.tStartMAC.dwData) := by
  have listed : ∀ info ∈ self.tries pool order, info.tRange ∈ self.ranges := by
    intro info mem
    cases List.mem_append.mp mem with
    | inl mem => exact List.mem_append_left _ (mem_getAvailableRange order mem).1
    | inr mem => exact List.mem_append_right _ (mem_getAvailableRange order mem).1
  rcases (allocMAC_comes pool nKey draws valid order).cases with
    ⟨reaches, info, mem, tMAC, allocated, holds, free⟩ | ⟨missed, failed, several⟩ |
      ⟨missed, divided, single⟩
  · refine iff_of_true ?_ (.inl reaches)
    rw [allocated]
    refine ⟨by simp, ?_, iff_of_false (by simp) ?_⟩
    · intro other same
      cases same
      exact ⟨⟨_, listed info mem, holds⟩, free⟩
    · intro all
      exact all _ (listed info mem) tMAC holds free
  · rw [failed]
    constructor
    · intro right
      exact .inr ⟨right.complete.mp rfl, several⟩
    · intro condition
      have all : self.AllHeld pool := condition.elim (fun reaches => absurd reaches missed) (·.1)
      exact ⟨by simp, by simp, iff_of_true rfl all⟩
  · rw [divided]
    refine iff_of_false (fun right => right.defined rfl) ?_
    intro condition
    cases condition with
    | inl reaches => exact missed reaches
    | inr rest => exact single rest.2

end Outcome

/-- The addresses from a first to a last one of the first OUI, as the ranges of one netplane. -/
def between (first last : UInt32) : CMACPool :=
  ⟨"own", [⟨⟨TUInt32MAC.c_dwZTEOUI1, first⟩, ⟨TUInt32MAC.c_dwZTEOUI1, last⟩⟩], []⟩

def heldElsewhere (dwData : UInt32) : CDbNetplaneMacPool :=
  ⟨"other", TUInt32MAC.macNum ⟨TUInt32MAC.c_dwZTEOUI1, dwData⟩⟩

theorem between_valid {first last : UInt32}
    (valid : TMACRangeItem.isValidMACRange
      ⟨⟨TUInt32MAC.c_dwZTEOUI1, first⟩, ⟨TUInt32MAC.c_dwZTEOUI1, last⟩⟩ = true)
    (bytes : last.toNat < 2 ^ 24) : (between first last).Valid where
  oui1 r mem := by
    rw [between, List.mem_singleton] at mem
    subst mem
    exact ⟨valid, rfl, rfl, .inl rfl, bytes⟩
  oui2 r mem := by simp [between] at mem

/-- Nothing held, the first draw gives an address. -/
theorem allocMAC_right_at_first :
    (between 7 9).Right [] ((between 7 9).allocMAC [] (.mostFree _) 0 fun _ =>
      ⟨1, 2, 3, 4, 5⟩).1 := by
  refine (allocMAC_right_iff [] 0 (fun _ => ⟨1, 2, 3, 4, 5⟩) (between_valid rfl (by decide))
    (.mostFree _)).mpr (.inl (.inl (.inl ?_)))
  exact ⟨_, List.mem_cons_self .., by simp [Free]⟩

/-- Another netplane holds the one address: the allocation divides by zero where it should fail.
Another netplane holds the first of two: the allocation fails although the last one is free. -/
theorem held_elsewhere_goes_wrong :
    ((between 7 7).Valid ∧ (between 7 7).AllHeld [heldElsewhere 7] ∧
      ((between 7 7).allocMAC [heldElsewhere 7] (.mostFree _) 0 fun _ => ⟨1, 2, 3, 4, 5⟩).1 =
        .divided) ∧
    ((between 7 8).Valid ∧ ¬ (between 7 8).AllHeld [heldElsewhere 7] ∧
      ((between 7 8).allocMAC [heldElsewhere 7] (.mostFree _) 0 fun _ => ⟨1, 2, 3, 4, 5⟩).1 =
        .failed) := by
  refine ⟨⟨between_valid rfl (by decide), ?_, by decide⟩,
    ⟨between_valid rfl (by decide), ?_, by decide⟩⟩
  · intro r mem tMAC holds free
    rw [ranges, between, List.append_nil, List.mem_singleton] at mem
    subst mem
    obtain ⟨dwOUI, dwData⟩ := tMAC
    have ⟨oui, low, high⟩ := holds
    simp only at oui low high
    have same : dwData = 7 := UInt32.le_antisymm high low
    exact free (heldElsewhere 7) (List.mem_singleton_self _) (by rw [oui, same]; rfl)
  · intro all
    have free : Free [heldElsewhere 7] ⟨TUInt32MAC.c_dwZTEOUI1, 8⟩ := by
      simp [Free, heldElsewhere, TUInt32MAC.macNum]
    exact all _ (List.mem_singleton_self _) ⟨TUInt32MAC.c_dwZTEOUI1, 8⟩
      ⟨rfl, by decide, by decide⟩ free

end CMACPool

end Tecs
