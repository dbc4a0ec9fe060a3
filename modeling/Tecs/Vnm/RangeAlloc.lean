import Mathlib

set_option autoImplicit false

namespace Tecs

/-- A range with the number of its used and of its free addresses. -/
structure TRangeUsedInfo (Item : Type) where
  nUsedCnt : UInt32
  nFreeCnt : UInt32
  tRange : Item
deriving Repr, DecidableEq

/-- The numbers cut from a fresh UUID. -/
structure UUIDValue where
  nFactorA : Int32
  nFactorB : Int32
  nFactorC : Int32
  nFactorD : Int16
  nFactorE : Int16

/-- The sort by free addresses, most first: ranges with as many come out in any order. -/
structure FreeSort (Item : Type) where
  sort : List (TRangeUsedInfo Item) → List (TRangeUsedInfo Item)
  perm : ∀ rs, (sort rs).Perm rs
  ordered : ∀ rs, (sort rs).Pairwise fun a b => ¬ b.nFreeCnt > a.nFreeCnt

/-- An insertion sort by the free addresses is such a sort. -/
def FreeSort.mostFree (Item : Type) : FreeSort Item where
  sort rs := rs.insertionSort fun a b => b.nFreeCnt ≤ a.nFreeCnt
  perm rs := List.perm_insertionSort _ rs
  ordered rs := by
    have : Std.Total fun a b : TRangeUsedInfo Item => b.nFreeCnt ≤ a.nFreeCnt :=
      ⟨fun a b => UInt32.le_total b.nFreeCnt a.nFreeCnt⟩
    have : IsTrans (TRangeUsedInfo Item) fun a b => b.nFreeCnt ≤ a.nFreeCnt :=
      ⟨fun _ _ _ ab bc => UInt32.le_trans bc ab⟩
    refine (List.pairwise_insertionSort _ rs).imp fun {a b} le => ?_
    exact UInt32.not_lt.mpr le

/-- What one allocation comes to: an address, the return code -1, or a division that traps. -/
inductive Alloc (Addr : Type)
  | allocated (tItem : Addr)
  | failed
  | divided
deriving Repr, DecidableEq

/-- How the tries in one range end: at a saved address, after the last one, or at a division. -/
inductive Try (Pool : Type)
  | saved (dwAddr : UInt32) (pool : Pool)
  | missed (n : ℕ)
  | divided

section Available

variable {Item : Type} (count : Item → Option ℕ) (size : Item → UInt32)

/-- A range that cannot be counted, or has no address left, is passed over. -/
def getAvailableRange (order : FreeSort Item) (vecRange : List Item) :
    List (TRangeUsedInfo Item) :=
  order.sort (vecRange.filterMap fun item =>
    match count item with
    | none => none
    | some nCnt =>
        let nTotalCnt := size item
        if nCnt ≥ nTotalCnt.toNat then none
        else some ⟨UInt32.ofNat nCnt, nTotalCnt - UInt32.ofNat nCnt, item⟩)

variable {count size}

theorem mem_getAvailableRange (order : FreeSort Item) {vecRange : List Item}
    {info : TRangeUsedInfo Item} (mem : info ∈ getAvailableRange count size order vecRange) :
    info.tRange ∈ vecRange ∧
      ∃ nCnt, count info.tRange = some nCnt ∧ nCnt < (size info.tRange).toNat := by
  rw [getAvailableRange, (order.perm _).mem_iff, List.mem_filterMap] at mem
  have ⟨item, inList, made⟩ := mem
  cases counted : count item with
  | none => simp [counted] at made
  | some nCnt =>
      simp only [counted] at made
      split at made
      · cases made
      · rename_i less
        cases made
        exact ⟨inList, nCnt, counted, Nat.not_le.mp less⟩

theorem getAvailableRange_nil (order : FreeSort Item) :
    getAvailableRange count size order [] = [] :=
  (order.perm []).eq_nil

end Available

section Tries

variable {Pool : Type} (save : UInt32 → Option Pool) (calcAddr : ℕ → Option UInt32)
  (dwSize dwStart : UInt32)

/-- One round for each address tried; the next one is drawn, or follows from the last. Draws are
numbered, and the division of one of them may trap. -/
def tryLoop : ℕ → ℕ → ℕ → UInt32 → Try Pool
  | 0, _, n, _ => .missed n
  | left + 1, nTryCnt, n, dwAddr =>
      match save dwAddr with
      | some pool => .saved dwAddr pool
      | none =>
          let nTryCnt := nTryCnt + 1
          if nTryCnt > 15 then .missed n
          else if nTryCnt % 5 = 0 then
            match calcAddr n with
            | none => .divided
            | some next => tryLoop left nTryCnt (n + 1) next
          else if dwSize = 0 then .divided
          else if nTryCnt > 10 then
            tryLoop left nTryCnt n ((dwAddr + 100000) % dwSize + dwStart)
          else
            tryLoop left nTryCnt n ((dwAddr + 1) % dwSize + dwStart)

variable (next : ℕ → UInt32)

/-- The addresses that are tried one after the other while all of them are refused. -/
def attempts : ℕ → ℕ → ℕ → UInt32 → List UInt32
  | 0, _, _, _ => []
  | left + 1, nTryCnt, n, dwAddr =>
      dwAddr ::
        if nTryCnt + 1 > 15 then []
        else if (nTryCnt + 1) % 5 = 0 then attempts left (nTryCnt + 1) (n + 1) (next n)
        else if nTryCnt + 1 > 10 then
          attempts left (nTryCnt + 1) n ((dwAddr + 100000) % dwSize + dwStart)
        else attempts left (nTryCnt + 1) n ((dwAddr + 1) % dwSize + dwStart)

/-- How many draws a run of misses takes. -/
def misses : ℕ → ℕ → ℕ → ℕ
  | 0, _, n => n
  | left + 1, nTryCnt, n =>
      if nTryCnt + 1 > 15 then n
      else if (nTryCnt + 1) % 5 = 0 then misses left (nTryCnt + 1) (n + 1)
      else misses left (nTryCnt + 1) n

variable {save calcAddr dwSize dwStart next}

/-- Where nothing divides by zero, the first attempt that is accepted is saved. -/
theorem tryLoop_eq (next : ℕ → UInt32) (drawn : ∀ n, calcAddr n = some (next n))
    (size : dwSize ≠ 0) {accept : UInt32 → Bool} {stored : UInt32 → Pool}
    (saves : ∀ a, save a = if accept a then some (stored a) else none) (left : ℕ) :
    ∀ nTryCnt n dwAddr, tryLoop save calcAddr dwSize dwStart left nTryCnt n dwAddr =
      match (attempts dwSize dwStart next left nTryCnt n dwAddr).find? accept with
      | some a => .saved a (stored a)
      | none => .missed (misses left nTryCnt n) := by
  induction left with
  | zero =>
      intro nTryCnt n dwAddr
      rfl
  | succ left ih =>
      intro nTryCnt n dwAddr
      rw [tryLoop, attempts, misses, List.find?_cons, saves]
      cases accept dwAddr with
      | true => rfl
      | false =>
          simp only [drawn, size, if_false, Bool.false_eq_true]
          split_ifs
          · rfl
          · exact ih ..
          · exact ih ..
          · exact ih ..

theorem attempts_mem (P : UInt32 → Prop) (drawn : ∀ n, P (next n))
    (moved : ∀ a, P (a % dwSize + dwStart)) (left : ℕ) : ∀ nTryCnt n dwAddr, P dwAddr →
    ∀ a ∈ attempts dwSize dwStart next left nTryCnt n dwAddr, P a := by
  induction left with
  | zero =>
      intro nTryCnt n dwAddr _ a mem
      simp [attempts] at mem
  | succ left ih =>
      intro nTryCnt n dwAddr first a mem
      rw [attempts, List.mem_cons] at mem
      cases mem with
      | inl same => exact same ▸ first
      | inr mem =>
          split_ifs at mem
          · simp at mem
          · exact ih _ _ _ (drawn n) a mem
          · exact ih _ _ _ (moved _) a mem
          · exact ih _ _ _ (moved _) a mem

/-- The addresses tried from a draw up to the next one: five in a round, one in the fourth. -/
def round (dwSize dwStart : UInt32) (k : ℕ) (dwAddr : UInt32) : List UInt32 :=
  List.iterate (fun a => (a + if k < 2 then 1 else 100000) % dwSize + dwStart) dwAddr
    (if k < 3 then 5 else 1)

section Rounds

variable (size : dwSize ≠ 0) {accept : UInt32 → Bool} {stored : UInt32 → Pool}
  (saves : ∀ a, save a = if accept a then some (stored a) else none) (left n : ℕ)
include size saves

theorem tryLoop_follow (nTryCnt : ℕ) (few : nTryCnt + 1 ≤ 15) (inside : (nTryCnt + 1) % 5 ≠ 0)
    (dwAddr : UInt32) :
    tryLoop save calcAddr dwSize dwStart (left + 1) nTryCnt n dwAddr =
      if accept dwAddr then .saved dwAddr (stored dwAddr)
      else tryLoop save calcAddr dwSize dwStart left (nTryCnt + 1) n
        ((dwAddr + if nTryCnt + 1 > 10 then 100000 else 1) % dwSize + dwStart) := by
  rw [tryLoop, saves]
  cases accept dwAddr with
  | true => rfl
  | false =>
      simp only [size, if_false, Nat.not_lt.mpr few, inside, Bool.false_eq_true, gt_iff_lt]
      split_ifs <;> rfl

/-- The last tries of one of the first three rounds, and the next draw. -/
theorem tryLoop_rest {k : ℕ} (early : k < 3) (rest : ℕ) : ∀ (nTryCnt : ℕ) (dwAddr : UInt32),
    rest < 5 → nTryCnt + rest = 5 * k + 4 →
    tryLoop save calcAddr dwSize dwStart (left + rest + 1) nTryCnt n dwAddr =
      match (List.iterate (fun a => (a + if k < 2 then 1 else 100000) % dwSize + dwStart)
        dwAddr (rest + 1)).find? accept with
      | some a => .saved a (stored a)
      | none =>
          match calcAddr n with
          | none => .divided
          | some next => tryLoop save calcAddr dwSize dwStart left (5 * (k + 1)) (n + 1) next := by
  induction rest with
  | zero =>
      intro nTryCnt dwAddr _ last
      have few : ¬ nTryCnt + 1 > 15 := by omega
      have draws : (nTryCnt + 1) % 5 = 0 := by omega
      have count : nTryCnt + 1 = 5 * (k + 1) := by omega
      rw [tryLoop, saves]
      cases accepted : accept dwAddr with
      | true => simp [List.iterate, accepted]
      | false =>
          simp only [few, draws, if_false, if_true, List.iterate, List.find?_cons, accepted,
            List.find?_nil, Bool.false_eq_true]
          rw [count]
  | succ rest ih =>
      intro nTryCnt dwAddr less last
      have late : nTryCnt + 1 > 10 ↔ ¬ k < 2 := by omega
      rw [show left + (rest + 1) + 1 = left + rest + 1 + 1 from rfl,
        tryLoop_follow size saves (left + rest + 1) n nTryCnt (by omega) (by omega), List.iterate,
        List.find?_cons]
      cases accept dwAddr with
      | true => rfl
      | false =>
          simp only [late, ite_not, Bool.false_eq_true, if_false]
          exact ih (nTryCnt + 1) _ (by omega) (by omega)

/-- In a round nothing is drawn. -/
theorem tryLoop_round {k : ℕ} (early : k < 3) (dwAddr : UInt32) :
    tryLoop save calcAddr dwSize dwStart (left + 5) (5 * k) n dwAddr =
      match (round dwSize dwStart k dwAddr).find? accept with
      | some a => .saved a (stored a)
      | none =>
          match calcAddr n with
          | none => .divided
          | some next => tryLoop save calcAddr dwSize dwStart left (5 * (k + 1)) (n + 1) next := by
  rw [round, if_pos early]
  exact tryLoop_rest size saves left n early 4 (5 * k) dwAddr (by omega) (by omega)

variable (save calcAddr dwSize dwStart) in
/-- The tries of a range from one of its four draws on. -/
def tryFrom (n k : ℕ) : Try Pool :=
  if k < 4 then
    match calcAddr (n + k) with
    | none => .divided
    | some dwAddr => tryLoop save calcAddr dwSize dwStart (16 - 5 * k) (5 * k) (n + k + 1) dwAddr
  else .missed (n + 4)

variable (calcAddr dwSize dwStart accept) in
/-- A round that is drawn without an accepted address. -/
def Misses (n k : ℕ) : Prop :=
  ∃ dwAddr, calcAddr (n + k) = some dwAddr ∧
    (round dwSize dwStart k dwAddr).find? accept = none

/-- A draw divides, or an address of its round is saved, or the next round follows. -/
theorem tryFrom_step {k : ℕ} (four : k < 4) :
    (calcAddr (n + k) = none ∧ tryFrom save calcAddr dwSize dwStart n k = .divided) ∨
    (∃ dwAddr a, calcAddr (n + k) = some dwAddr ∧
      (round dwSize dwStart k dwAddr).find? accept = some a ∧
      tryFrom save calcAddr dwSize dwStart n k = .saved a (stored a)) ∨
    (Misses calcAddr dwSize dwStart accept n k ∧
      tryFrom save calcAddr dwSize dwStart n k =
        tryFrom save calcAddr dwSize dwStart n (k + 1)) := by
  rw [tryFrom, if_pos four]
  cases drawn : calcAddr (n + k) with
  | none => exact .inl ⟨rfl, rfl⟩
  | some dwAddr =>
      right
      by_cases early : k < 3
      · have left : 16 - 5 * k = 16 - 5 * (k + 1) + 5 := by omega
        simp only [left, tryLoop_round size saves _ _ early]
        cases first : (round dwSize dwStart k dwAddr).find? accept with
        | some a => exact .inl ⟨dwAddr, a, rfl, first, rfl⟩
        | none =>
            refine .inr ⟨⟨dwAddr, drawn, first⟩, ?_⟩
            rw [tryFrom, if_pos (by omega)]
            rfl
      · have last : k = 3 := by omega
        subst last
        have only : round dwSize dwStart 3 dwAddr = [dwAddr] := rfl
        simp only [tryLoop, saves]
        cases accepted : accept dwAddr with
        | true => exact .inl ⟨dwAddr, dwAddr, rfl, by simp [only, accepted], rfl⟩
        | false => exact .inr ⟨⟨dwAddr, drawn, by simp [only, accepted]⟩, rfl⟩

variable (calcAddr dwStart) in
/-- The rounds end at the first one that does not miss. -/
theorem tryFrom_cases (rounds : ℕ) : ∀ k, k + rounds = 4 →
    (∃ j < 4, (∀ i, k ≤ i → i < j → Misses calcAddr dwSize dwStart accept n i) ∧
      calcAddr (n + j) = none ∧ tryFrom save calcAddr dwSize dwStart n k = .divided) ∨
    (∃ j < 4, (∀ i, k ≤ i → i < j → Misses calcAddr dwSize dwStart accept n i) ∧
      ∃ dwAddr a, calcAddr (n + j) = some dwAddr ∧
        (round dwSize dwStart j dwAddr).find? accept = some a ∧
        tryFrom save calcAddr dwSize dwStart n k = .saved a (stored a)) ∨
    ((∀ i, k ≤ i → i < 4 → Misses calcAddr dwSize dwStart accept n i) ∧
      tryFrom save calcAddr dwSize dwStart n k = .missed (n + 4)) := by
  have before : ∀ k i, k ≤ i → i < k → Misses calcAddr dwSize dwStart accept n i :=
    fun k i start below => absurd below (Nat.not_lt.mpr start)
  induction rounds with
  | zero =>
      intro k last
      refine .inr (.inr ⟨fun i start below => before k i start (by omega), ?_⟩)
      rw [tryFrom, if_neg (by omega)]
  | succ rounds ih =>
      intro k more
      rcases tryFrom_step size saves n (by omega : k < 4) with
        ⟨drawn, ended⟩ | ⟨dwAddr, a, drawn, first, ended⟩ | ⟨missed, ended⟩
      · exact .inl ⟨k, by omega, before k, drawn, ended⟩
      · exact .inr (.inl ⟨k, by omega, before k, dwAddr, a, drawn, first, ended⟩)
      · have wider : ∀ {j : ℕ}, (∀ i, k + 1 ≤ i → i < j →
            Misses calcAddr dwSize dwStart accept n i) →
            ∀ i, k ≤ i → i < j → Misses calcAddr dwSize dwStart accept n i := by
          intro j later i start below
          by_cases first : i = k
          · exact first ▸ missed
          · exact later i (by omega) below
        rw [ended]
        rcases ih (k + 1) (by omega) with
          ⟨j, four, misses, drawn⟩ | ⟨j, four, misses, found⟩ | ⟨misses, all⟩
        · exact .inl ⟨j, four, wider misses, drawn⟩
        · exact .inr (.inl ⟨j, four, wider misses, found⟩)
        · exact .inr (.inr ⟨wider misses, all⟩)

end Rounds

end Tries

section Scan

/-- The addresses of a range are gone through from the first, up to one that is not listed. -/
def scanLoop (listed : UInt32 → Bool) (dwEnd : UInt32) : ℕ → UInt32 → Option UInt32
  | 0, _ => none
  | left + 1, i =>
      if i ≤ dwEnd then
        if listed i then scanLoop listed dwEnd left (i + 1) else some i
      else none

def scanRange (listed : UInt32 → Bool) (dwStart dwEnd : UInt32) : Option UInt32 :=
  scanLoop listed dwEnd (dwEnd.toNat + 1 - dwStart.toNat) dwStart

variable (listed : UInt32 → Bool) {dwEnd : UInt32}

theorem scanLoop_cases (top : dwEnd.toNat + 1 < 2 ^ 32) (left : ℕ) : ∀ (i : UInt32),
    dwEnd.toNat + 1 - i.toNat ≤ left →
    (scanLoop listed dwEnd left i = none ∧ ∀ b, i ≤ b → b ≤ dwEnd → listed b = true) ∨
    ∃ a, scanLoop listed dwEnd left i = some a ∧ i ≤ a ∧ a ≤ dwEnd ∧ listed a = false ∧
      ∀ b, i ≤ b → b < a → listed b = true := by
  induction left with
  | zero =>
      intro i enough
      left
      refine ⟨rfl, fun b low high => ?_⟩
      rw [UInt32.le_iff_toNat_le] at low high
      omega
  | succ left ih =>
      intro i enough
      rw [scanLoop]
      by_cases more : i ≤ dwEnd
      · rw [if_pos more]
        rw [UInt32.le_iff_toNat_le] at more
        cases taken : listed i with
        | true =>
            rw [if_pos rfl]
            have one : (1 : UInt32).toNat = 1 := rfl
            have next : (i + 1).toNat = i.toNat + 1 := by
              rw [UInt32.toNat_add, one]
              omega
            have above : ∀ b, i ≤ b → b ≠ i → i + 1 ≤ b := by
              intro b low other
              rw [UInt32.le_iff_toNat_le] at low ⊢
              have : b.toNat ≠ i.toNat := fun same => other (UInt32.toNat_inj.mp same)
              omega
            cases ih (i + 1) (by omega) with
            | inl ended =>
                left
                refine ⟨ended.1, fun b low high => ?_⟩
                by_cases same : b = i
                · exact same ▸ taken
                · exact ended.2 b (above b low same) high
            | inr found =>
                have ⟨a, result, low, high, absent, before⟩ := found
                right
                refine ⟨a, result, ?_, high, absent, fun b low less => ?_⟩
                · rw [UInt32.le_iff_toNat_le] at low ⊢
                  omega
                · by_cases same : b = i
                  · exact same ▸ taken
                  · exact before b (above b low same) less
        | false =>
            right
            refine ⟨i, by simp, UInt32.le_refl i, UInt32.le_iff_toNat_le.mpr more, taken, ?_⟩
            intro b low less
            exact absurd less (UInt32.not_lt.mpr low)
      · rw [if_neg more]
        left
        refine ⟨rfl, fun b low high => ?_⟩
        exact absurd (UInt32.le_trans low high) more

/-- The scan finds the first address of the range that is not listed, if there is one. -/
theorem scanRange_cases (top : dwEnd.toNat + 1 < 2 ^ 32) (dwStart : UInt32) :
    (scanRange listed dwStart dwEnd = none ∧
      ∀ b, dwStart ≤ b → b ≤ dwEnd → listed b = true) ∨
    ∃ a, scanRange listed dwStart dwEnd = some a ∧ dwStart ≤ a ∧ a ≤ dwEnd ∧
      listed a = false ∧ ∀ b, dwStart ≤ b → b < a → listed b = true :=
  scanLoop_cases listed top _ dwStart (Nat.le_refl _)

end Scan

theorem mod_add_mem {a s e : UInt32} (le : s ≤ e) (several : e ≠ s) :
    s ≤ a % (e - s) + s ∧ a % (e - s) + s ≤ e := by
  rw [UInt32.le_iff_toNat_le] at le
  have different : e.toNat ≠ s.toNat := fun same => several (UInt32.toNat_inj.mp same)
  have bound := e.toNat_lt
  have size : (e - s).toNat = e.toNat - s.toNat :=
    UInt32.toNat_sub_of_le _ _ (UInt32.le_iff_toNat_le.mpr le)
  have rest : a.toNat % (e.toNat - s.toNat) < e.toNat - s.toNat := Nat.mod_lt _ (by omega)
  rw [UInt32.le_iff_toNat_le, UInt32.le_iff_toNat_le, UInt32.toNat_add, UInt32.toNat_mod, size]
  omega

end Tecs
