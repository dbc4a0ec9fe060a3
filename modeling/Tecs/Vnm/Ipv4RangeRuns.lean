import Tecs.Vnm.Ipv4PoolMgr
import Tecs.Vnm.Ipv4Subnet
import Tecs.Vnm.RangeWrites

set_option autoImplicit false

namespace Tecs

namespace CDbIpRange

instance : Bounds CDbIpRange where
  lo row := row.beginNum.toNat
  hi row := row.endNum.toNat

def Holds (row : CDbIpRange) (ip : UInt32) : Prop := row.beginNum ≤ ip ∧ ip ≤ row.endNum

def InSubnet (row : CDbIpRange) (ip : UInt32) : Prop :=
  ip &&& row.maskNum = row.beginNum &&& row.maskNum

/-- A row within one subnet of its mask. -/
structure Proper (row : CDbIpRange) : Prop where
  le : row.beginNum ≤ row.endNum
  top : row.endNum.toNat + 1 < 2 ^ 32
  mask : CIPv4Addr.isValidMask row.maskNum = true
  subnet : row.InSubnet row.endNum

def SameSubnet (a b : CDbIpRange) : Prop := a.maskNum = b.maskNum ∧ a.InSubnet b.beginNum

/-- Rows of one subnet have a gap between them; otherwise the subnets share no address. -/
structure Clear (a b : CDbIpRange) : Prop where
  gap : SameSubnet a b → Intervals.Separate a b
  apart : ¬ SameSubnet a b → ∀ ip, ¬ (a.InSubnet ip ∧ b.InSubnet ip)

theorem sameSubnet_symm {a b : CDbIpRange} (same : SameSubnet a b) : SameSubnet b a := by
  have ⟨mask, net⟩ := same
  refine ⟨mask.symm, ?_⟩
  rw [InSubnet] at net ⊢
  rw [← mask, net]

theorem SameSubnet.inSubnet_iff {a b : CDbIpRange} (same : SameSubnet a b) (ip : UInt32) :
    a.InSubnet ip ↔ b.InSubnet ip := by
  have ⟨mask, net⟩ := same
  rw [InSubnet] at net
  rw [InSubnet, InSubnet, ← mask, net]

theorem SameSubnet.trans {a b c : CDbIpRange} (first : SameSubnet a b) (second : SameSubnet b c) :
    SameSubnet a c :=
  ⟨first.1.trans second.1, (first.inSubnet_iff _).mpr second.2⟩

instance : Std.Symm Clear where
  symm a b clear := by
    refine ⟨fun same => ?_, fun other ip both => ?_⟩
    · exact (clear.gap (sameSubnet_symm same)).symm
    · exact clear.apart (fun same => other (sameSubnet_symm same)) ip both.symm

theorem Proper.inSubnet {row : CDbIpRange} (proper : row.Proper) {ip : UInt32}
    (holds : row.Holds ip) : row.InSubnet ip :=
  CIPv4Addr.and_between proper.mask proper.subnet.symm holds.1 holds.2

theorem Clear.disjoint {a b : CDbIpRange} (clear : Clear a b) (properA : a.Proper)
    (properB : b.Proper) (ip : UInt32) : ¬ (a.Holds ip ∧ b.Holds ip) := by
  rintro ⟨inA, inB⟩
  by_cases same : SameSubnet a b
  · have gap := clear.gap same
    have lowA := UInt32.le_iff_toNat_le.mp inA.1
    have highA := UInt32.le_iff_toNat_le.mp inA.2
    have lowB := UInt32.le_iff_toNat_le.mp inB.1
    have highB := UInt32.le_iff_toNat_le.mp inB.2
    simp only [Intervals.Separate, Intervals.Before, Bounds.lo, Bounds.hi] at gap
    omega
  · exact clear.apart same ip ⟨properA.inSubnet inA, properB.inSubnet inB⟩

end CDbIpRange

namespace CIPv4PoolMgr

open Bounds Intervals CDbIpRange CIPv4AddrRange CIPv4Addr RangeArithmetic

/-- No address belongs to two rows of a network, and each row lies in the subnet of its own mask. -/
structure Sound (rows : List CDbIpRange) : Prop where
  disjoint : rows.Pairwise fun a b => ∀ ip, ¬ (a.Holds ip ∧ b.Holds ip)
  subnet : ∀ row ∈ rows, isValidMask row.maskNum = true ∧ ∀ ip, row.Holds ip → row.InSubnet ip

/-- The invariant of a network's rows. -/
structure Kept (rows : List CDbIpRange) : Prop where
  proper : ∀ row ∈ rows, row.Proper
  clear : rows.Pairwise Clear

theorem Kept.sound {rows : List CDbIpRange} (kept : Kept rows) : Sound rows where
  disjoint := by
    refine kept.clear.imp_of_mem ?_
    intro a b memA memB clear
    exact clear.disjoint (kept.proper a memA) (kept.proper b memB)
  subnet row mem := ⟨(kept.proper row mem).mask, fun _ => (kept.proper row mem).inSubnet⟩

/-- The row in which a valid request is stored. -/
structure Requested (t : TIPV4AddrRangeItem) : Prop where
  masks : t.tIPStart.uMask = t.tIPEnd.uMask
  proper : (ofItem t).Proper

theorem requested {t : TIPV4AddrRangeItem} (valid : isValidIPv4Range t = true)
    (same : isSameSubnet t = true) : Requested t := by
  have le := start_le valid
  have top := end_top valid
  simp only [isValidIPv4Range, isValid, Bool.and_eq_true, decide_eq_true_eq] at valid
  obtain ⟨⟨⟨start, stop⟩, lengths⟩, _⟩ := valid
  obtain ⟨k, ⟨lowK, highK⟩, formK⟩ := isValidMask_form start.1.1.1
  obtain ⟨l, ⟨lowL, highL⟩, formL⟩ := isValidMask_form stop.1.1.1
  have masks : t.tIPStart.uMask = t.tIPEnd.uMask := by
    rw [formK, formL, prefixLen_inj k (by omega) lowK, prefixLen_inj l (by omega) lowL] at lengths
    have equal : k = l := by omega
    rw [formK, formL, equal]
  simp only [isSameSubnet, decide_eq_true_eq, masks] at same
  exact ⟨masks, le, top, stop.1.1.1, same.symm⟩

section Related

variable {host : Bool} {t : TIPV4AddrRangeItem}

instance (a b : CDbIpRange) : Decidable (SameSubnet a b) := inferInstanceAs (Decidable (_ ∧ _ = _))

/-- Networks that differ under the shorter of two masks share no address. -/
theorem apart_of_minMask {a b m n : UInt32} (validM : isValidMask m = true)
    (validN : isValidMask n = true) (masks : m ≠ n)
    (differ : a &&& (if h2NL host m < h2NL host n then m else n) ≠
      b &&& (if h2NL host m < h2NL host n then m else n)) (ip : UInt32) :
    ¬ (ip &&& n = a &&& n ∧ ip &&& m = b &&& m) := by
  have ⟨k, ⟨lowK, highK⟩, formK⟩ := isValidMask_form validM
  have ⟨l, ⟨lowL, highL⟩, formL⟩ := isValidMask_form validN
  subst formK formL
  have shorter := h2NL_lt k (by omega) l (by omega) host lowK lowL
  rintro ⟨inA, inB⟩
  by_cases less : l < k
  · rw [if_pos (shorter.mpr less)] at differ
    exact differ ((and_shorter (Nat.le_of_lt less) (by omega) inA).symm.trans inB)
  · rw [if_neg fun order => less (shorter.mp order)] at differ
    have different : k ≠ l := fun same => masks (by rw [same])
    exact differ (inA.symm.trans (and_shorter (by omega) (by omega) inB))

def minMask (host : Bool) (row : CDbIpRange) (t : TIPV4AddrRangeItem) : UInt32 :=
  if h2NL host row.maskNum < h2NL host t.tIPStart.uMask then row.maskNum else t.tIPStart.uMask

theorem relatedRanges_cons (row : CDbIpRange) (rest : List CDbIpRange) :
    relatedRanges host t (row :: rest) =
      if row.maskNum ≠ t.tIPEnd.uMask then
        if t.tIPStart.uIP &&& minMask host row t = row.beginNum &&& minMask host row t then none
        else relatedRanges host t rest
      else if t.tIPStart.uIP &&& t.tIPStart.uMask ≠ row.beginNum &&& row.maskNum then
        relatedRanges host t rest
      else (relatedRanges host t rest).map (row :: ·) := rfl

/-- The rows in the subnet of the request; the subnets of all others share no address with it. -/
theorem relatedRanges_some (req : Requested t) (rows : List CDbIpRange) :
    ∀ {related : List CDbIpRange}, (∀ row ∈ rows, row.Proper) →
    relatedRanges host t rows = some related →
    related = rows.filter (SameSubnet (ofItem t)) ∧
      ∀ row ∈ rows, ¬ SameSubnet (ofItem t) row →
        ∀ ip, ¬ ((ofItem t).InSubnet ip ∧ row.InSubnet ip) := by
  have masks := req.masks
  induction rows with
  | nil =>
      intro related _ result
      exact ⟨(Option.some.inj result).symm, by simp⟩
  | cons row rest ih =>
      intro related proper result
      have properRow := proper row (List.mem_cons_self ..)
      have later := fun r inRest => proper r (List.mem_cons_of_mem row inRest)
      rw [relatedRanges_cons] at result
      by_cases other : row.maskNum ≠ t.tIPEnd.uMask
      · have foreign : ¬ SameSubnet (ofItem t) row := fun same => other same.1.symm
        rw [if_pos other] at result
        by_cases shared : t.tIPStart.uIP &&& minMask host row t =
            row.beginNum &&& minMask host row t
        · rw [if_pos shared] at result
          cases result
        · rw [if_neg shared] at result
          have ⟨made, apart⟩ := ih later result
          refine ⟨?_, List.forall_mem_cons.mpr ⟨fun _ => ?_, apart⟩⟩
          · rw [made, List.filter_cons, if_neg (by simpa using foreign)]
          · rw [minMask, masks] at shared
            exact apart_of_minMask properRow.mask req.proper.mask other shared
      · have mask := not_not.mp other
        rw [if_neg other] at result
        by_cases differ : t.tIPStart.uIP &&& t.tIPStart.uMask ≠ row.beginNum &&& row.maskNum
        · rw [if_pos differ] at result
          have foreign : ¬ SameSubnet (ofItem t) row := by
            intro same
            have net : row.beginNum &&& t.tIPEnd.uMask = t.tIPStart.uIP &&& t.tIPEnd.uMask := same.2
            rw [masks, mask] at differ
            exact differ net.symm
          have ⟨made, apart⟩ := ih later result
          refine ⟨?_, List.forall_mem_cons.mpr ⟨fun _ ip both => ?_, apart⟩⟩
          · rw [made, List.filter_cons, if_neg (by simpa using foreign)]
          · have inT : ip &&& t.tIPEnd.uMask = t.tIPStart.uIP &&& t.tIPEnd.uMask := both.1
            have inRow : ip &&& row.maskNum = row.beginNum &&& row.maskNum := both.2
            rw [mask] at inRow
            rw [masks, mask] at differ
            exact differ (inT.symm.trans inRow)
        · have own : SameSubnet (ofItem t) row := by
            rw [not_not, masks, mask] at differ
            exact ⟨mask.symm, differ.symm⟩
          rw [if_neg differ, Option.map_eq_some_iff] at result
          have ⟨rest', result, cons⟩ := result
          have ⟨made, apart⟩ := ih later result
          refine ⟨?_, List.forall_mem_cons.mpr ⟨fun foreign => absurd own foreign, apart⟩⟩
          rw [← cons, made, List.filter_cons, if_pos (by simpa using own)]

end Related

theorem Kept.nodup {rows : List CDbIpRange} (kept : Kept rows) : rows.Nodup := by
  refine kept.clear.imp_of_mem ?_
  rintro row _ mem _ clear rfl
  have gap := clear.gap ⟨rfl, rfl⟩
  have le := UInt32.le_iff_toNat_le.mp (kept.proper row mem).le
  simp only [Intervals.Separate, Intervals.Before, Bounds.lo, Bounds.hi] at gap
  omega

theorem Kept.perm {rows rows' : List CDbIpRange} (kept : Kept rows) (same : rows.Perm rows') :
    Kept rows' :=
  ⟨fun row mem => kept.proper row (same.mem_iff.mpr mem),
    (same.pairwise_iff fun clear => Std.Symm.symm _ _ clear).mp kept.clear⟩

/-- Rows of the subnet of a request take the place of others. -/
structure Newcomers (t : TIPV4AddrRangeItem) (others news : List CDbIpRange) : Prop where
  away : ∀ row ∈ others, ∀ ip, ¬ ((ofItem t).InSubnet ip ∧ row.InSubnet ip)
  proper : ∀ row ∈ news, row.Proper
  same : ∀ row ∈ news, SameSubnet (ofItem t) row
  gaps : news.Pairwise Separate

theorem Newcomers.fresh {t : TIPV4AddrRangeItem} {others news : List CDbIpRange}
    (come : Newcomers t others news) : ∀ row ∈ others, row ∉ news := by
  intro row old new
  exact come.away row old row.beginNum ⟨(come.same row new).2, rfl⟩

theorem Kept.replace {t : TIPV4AddrRangeItem} {others news : List CDbIpRange} (kept : Kept others)
    (come : Newcomers t others news) : Kept (others ++ news) where
  proper := List.forall_mem_append.mpr ⟨kept.proper, come.proper⟩
  clear := by
    rw [List.pairwise_append]
    refine ⟨kept.clear, come.gaps.imp_of_mem fun memA memB gap => ?_, fun a memA b memB => ?_⟩
    · refine ⟨fun _ => gap, fun other => absurd ?_ other⟩
      exact (sameSubnet_symm (come.same _ memA)).trans (come.same _ memB)
    · have same := come.same b memB
      refine ⟨fun together => ?_, fun _ ip both => ?_⟩
      · have meeting := same.trans (sameSubnet_symm together)
        exact absurd ⟨rfl, (meeting.inSubnet_iff _).mp rfl⟩ (come.away a memA (ofItem t).beginNum)
      · exact come.away a memA ip ⟨(same.inSubnet_iff ip).mpr both.2, both.1⟩

section Merge

variable {t : TIPV4AddrRangeItem}

/-- A row with the mask of the request. -/
def row (t : TIPV4AddrRangeItem) (r : TRange) : CDbIpRange := ⟨r.dwStart, r.dwEnd, t.tIPEnd.uMask⟩

def requestKind (t : TIPV4AddrRangeItem) : RangeKind TIPV4AddrRangeItem :=
  kind t.tIPStart.uMask t.tIPEnd.uMask

theorem row_injective : Function.Injective (row t) := by
  rintro ⟨start, stop⟩ ⟨start', stop'⟩ same
  simp only [row, CDbIpRange.mk.injEq, and_true] at same
  rw [same.1, same.2]

theorem filter_rows (rs us : List TRange) :
    (us.map (row t)).filter (· ∉ rs.map (row t)) = (us.filter (· ∉ rs)).map (row t) := by
  rw [List.filter_map]
  congr 1
  refine List.filter_congr fun r _ => ?_
  simp only [Function.comp_apply, List.mem_map_of_injective row_injective]

theorem plan_rows (rs us : List TRange) (none : Session.plan us rs = []) :
    Session.plan (us.map (row t)) (rs.map (row t)) = [] := by
  simp only [Session.plan, List.append_eq_nil_iff, List.map_eq_nil_iff] at none
  rw [Session.plan, filter_rows, filter_rows, none.1, none.2]
  rfl

theorem ranges_related {related : List CDbIpRange}
    (same : ∀ old ∈ related, SameSubnet (ofItem t) old) :
    ((requestKind t).ranges (related.map item)).map (row t) = related := by
  have own : ∀ old ∈ related, ((row t ∘ (requestKind t).toRange) ∘ item) old = id old := by
    intro old mem
    have mask : t.tIPEnd.uMask = old.maskNum := (same old mem).1
    simp only [Function.comp_apply, row, mask]
    rfl
  rw [RangeKind.ranges, List.map_map, List.map_map, List.map_congr_left own, List.map_id]

/-- The merged ranges stay in the subnet of the request. -/
theorem merged_newcomers (std : StdSort) (valid : isValidIPv4Range t = true) (req : Requested t)
    {related others : List CDbIpRange}
    (safe : SortsSafely ((requestKind t).gathered (related.map item) t)) (nonempty : related ≠ [])
    (kept : Kept related)
    (same : ∀ old ∈ related, SameSubnet (ofItem t) old)
    (away : ∀ row ∈ others, ∀ ip, ¬ ((ofItem t).InSubnet ip ∧ row.InSubnet ip)) :
    let result := addRange std (related.map item) t
    let news := result.2.map ofItem
    result.1 = 0 ∧ Newcomers t others news ∧ news.Nodup ∧
      (Session.plan news related = [] ∨ ∃ s, news.filter (· ∉ related) = [s]) := by
  intro result news
  have rows := ranges_related same
  have below : ∀ r ∈ t :: related.map item,
      hi ((requestKind t).toRange r) < 4294967295 := by
    refine List.forall_mem_cons.mpr ⟨?_, List.forall_mem_map.mpr fun old mem => ?_⟩
    · exact Nat.lt_of_succ_lt_succ req.proper.top
    · exact Nat.lt_of_succ_lt_succ (kept.proper old mem).top
  have apart : Apart ((requestKind t).ranges (related.map item)) := by
    rw [← apart_map (f := row t) (fun _ => rfl) fun _ => rfl, rows]
    refine ⟨fun old mem => UInt32.le_iff_toNat_le.mp (kept.proper old mem).le, ?_⟩
    refine kept.clear.imp_of_mem fun memA memB clear => clear.gap ?_
    exact (sameSubnet_symm (same _ memA)).trans (same _ memB)
  obtain ⟨done, canonical, union⟩ := @RangeKind.addRange_canonical _ (requestKind t) std _ _ apart
    safe valid (by simpa [RangeKind.ranges] using below)
  have items : result.2 = ((requestKind t).ranges result.2).map (requestKind t).ofRange :=
    @RangeKind.addRange_items _ (requestKind t) std _ _ (by simpa using nonempty) done
  have made : news = ((requestKind t).ranges result.2).map (row t) := calc
    news = (((requestKind t).ranges result.2).map (requestKind t).ofRange).map ofItem := by
      rw [← items]
    _ = ((requestKind t).ranges result.2).map (row t) := by
      rw [List.map_map]
      rfl
  have spot : ∀ ip : UInt32, Covers ((requestKind t).ranges result.2) ip.toNat →
      (ofItem t).InSubnet ip ∧ ip.toNat + 1 < 2 ^ 32 := by
    intro ip covered
    rcases (union ip.toNat).mp covered with ⟨r, mem, low, high⟩ | ⟨low, high⟩
    · obtain ⟨_, memItem, equalR⟩ := List.mem_map.mp mem
      obtain ⟨old, memOld, equalItem⟩ := List.mem_map.mp memItem
      subst equalR equalItem
      have holds : old.Holds ip := ⟨UInt32.le_iff_toNat_le.mpr low, UInt32.le_iff_toNat_le.mpr high⟩
      have inOld := (kept.proper old memOld).inSubnet holds
      exact ⟨((same old memOld).inSubnet_iff ip).mpr inOld,
        Nat.lt_of_le_of_lt (Nat.succ_le_succ high) (kept.proper old memOld).top⟩
    · have holds : (ofItem t).Holds ip :=
        ⟨UInt32.le_iff_toNat_le.mpr low, UInt32.le_iff_toNat_le.mpr high⟩
      exact ⟨req.proper.inSubnet holds, Nat.lt_of_le_of_lt (Nat.succ_le_succ high) req.proper.top⟩
  have inside : ∀ r ∈ (requestKind t).ranges result.2,
      (row t r).Proper ∧ SameSubnet (ofItem t) (row t r) := by
    intro r mem
    have le := canonical.proper r mem
    have first := spot r.dwStart ⟨r, mem, Nat.le_refl _, le⟩
    have last := spot r.dwEnd ⟨r, mem, le, Nat.le_refl _⟩
    have own : SameSubnet (ofItem t) (row t r) := ⟨rfl, first.1⟩
    exact ⟨⟨UInt32.le_iff_toNat_le.mpr le, last.2, req.proper.mask, (own.inSubnet_iff _).mp last.1⟩,
      own⟩
  have gaps : Apart news := by
    rw [made, apart_map (f := row t) (fun _ => rfl) fun _ => rfl]
    exact canonical.apart
  refine ⟨done, ⟨away, ?_, ?_, gaps.apart⟩, gaps.nodup, ?_⟩
  · rw [made]
    exact List.forall_mem_map.mpr fun r mem => (inside r mem).1
  · rw [made]
    exact List.forall_mem_map.mpr fun r mem => (inside r mem).2
  · have single := addition_single apart (List.Perm.refl _) canonical.apart
      (UInt32.le_iff_toNat_le.mp req.proper.le) union
    rw [made, ← rows]
    rcases single with none | ⟨s, one⟩
    · exact .inl (plan_rows _ _ none)
    · rw [filter_rows]
      exact .inr ⟨row t s, congrArg (List.map (row t)) one⟩

end Merge

theorem requested_newcomers {t : TIPV4AddrRangeItem} (req : Requested t) {others : List CDbIpRange}
    (away : ∀ row ∈ others, ∀ ip, ¬ ((ofItem t).InSubnet ip ∧ row.InSubnet ip)) :
    Newcomers t others [ofItem t] where
  away := away
  proper := by simpa using req.proper
  same := by
    intro row mem
    rw [List.mem_singleton.mp mem]
    exact ⟨rfl, rfl⟩
  gaps := List.pairwise_singleton ..

/-- What is written for a valid request, once its related rows are found. -/
theorem written_kept (host : Bool) (std : StdSort) (accepts : CDbIpRange → Bool)
    {t : TIPV4AddrRangeItem} {outVInfo rows related : List CDbIpRange}
    (valid : isValidIPv4Range t = true) (req : Requested t) (kept : Kept rows)
    (read : outVInfo.Perm rows) (found : relatedRanges host t outVInfo = some related)
    (safe : SortsSafely ((requestKind t).gathered (related.map item) t)) :
    Kept (if related.isEmpty then written (Session.add accepts ⟨rows, []⟩ (.ofItem t))
      else
        let (ret, vecCalcRange) := addRange std (related.map item) t
        if ret ≠ 0 then (.calcError, rows)
        else written (Session.save accepts (vecCalcRange.map .ofItem) related ⟨rows, []⟩)).2 := by
  obtain ⟨made, apart⟩ := relatedRanges_some req outVInfo (kept.perm read.symm).proper found
  let others := outVInfo.filter fun row => !decide (SameSubnet (ofItem t) row)
  have split : (others ++ related).Perm rows := by
    rw [made]
    exact (List.perm_append_comm.trans (List.filter_append_perm _ outVInfo)).trans read
  have away : ∀ row ∈ others, ∀ ip, ¬ ((ofItem t).InSubnet ip ∧ row.InSubnet ip) := by
    intro row mem
    obtain ⟨memRead, other⟩ := List.mem_filter.mp mem
    exact apart row memRead (by simpa using other)
  have keptSplit := kept.perm split.symm
  have keptOthers : Kept others :=
    ⟨fun row mem => keptSplit.proper row (List.mem_append_left _ mem),
      (List.pairwise_append.mp keptSplit.clear).1⟩
  have keptRelated : Kept related :=
    ⟨fun row mem => keptSplit.proper row (List.mem_append_right _ mem),
      (List.pairwise_append.mp keptSplit.clear).2.1⟩
  by_cases empty : related.isEmpty = true
  · have none : related = [] := by simpa using empty
    rw [if_pos empty]
    rw [none, List.append_nil] at split
    have added := (keptOthers.replace (requested_newcomers req away)).perm (split.append_right _)
    by_cases accepted : accepts (ofItem t) = true
    · rw [Session.add, if_neg (by simp), if_pos accepted]
      exact added
    · rw [Session.add, if_neg (by simp), if_neg accepted]
      exact kept
  · have filled : related ≠ [] := by simpa using empty
    have same : ∀ old ∈ related, SameSubnet (ofItem t) old := by
      intro old mem
      rw [made] at mem
      simpa using (List.mem_filter.mp mem).2
    obtain ⟨done, come, nodup, single⟩ :=
      merged_newcomers std valid req safe filled keptRelated same away
    rw [if_neg empty]
    simp only [done, ne_eq, not_true_eq_false, if_false]
    change Kept (Session.save _ _ _ _).2.rows
    rcases @save_rows _ _ accepts _ _ _ kept.nodup nodup others split come.fresh
        single with same | made
    · rw [same]
      exact kept
    · exact (keptOthers.replace come).perm made.symm

/-- A call that reads the rows of a network keeps its invariant, whatever it answers. -/
theorem addIPv4Range_kept (host : Bool) (std : StdSort) (accepts : CDbIpRange → Bool)
    (cMsg : CIPv4RangeMsg) {outVInfo rows : List CDbIpRange} (kept : Kept rows)
    (read : outVInfo.Perm rows) (safe : SortsSafely (sortInput host cMsg outVInfo)) :
    Kept (addIPv4Range host std accepts cMsg outVInfo rows).2 := by
  rw [addIPv4Range]
  unfold sortInput at safe
  by_cases unnamed : cMsg.strUUID = ""
  · rw [if_pos unnamed]
    exact kept
  rw [if_neg unnamed]
  cases start : cMsg.cIPStart with
  | none => exact kept
  | some tIPStart =>
  cases stop : cMsg.cIPEnd with
  | none => exact kept
  | some tIPEnd =>
  rw [start, stop] at safe
  change SortsSafely (if _ then _ else _) at safe
  simp only
  obtain ⟨t, both⟩ : ∃ t : TIPV4AddrRangeItem, t = ⟨tIPStart, tIPEnd⟩ := ⟨_, rfl⟩
  have masks : kind tIPStart.uMask tIPEnd.uMask = requestKind t := by
    rw [both]
    rfl
  rw [masks, ← both] at safe
  rw [← both]
  by_cases valid : isValidIPv4Range t = true
  swap
  · rw [if_pos (by simpa using valid)]
    exact kept
  rw [if_neg (by simpa using valid)]
  by_cases subnet : isSameSubnet t = true
  swap
  · rw [if_pos (by simpa using subnet)]
    exact kept
  rw [if_neg (by simpa using subnet)]
  have req := requested valid subnet
  rw [if_pos ⟨unnamed, valid, subnet⟩] at safe
  cases found : relatedRanges host t outVInfo with
  | none => exact kept
  | some related =>
      rw [found] at safe
      exact written_kept host std accepts valid req kept read found safe

theorem kept_nil : Kept [] := ⟨by simp, List.Pairwise.nil⟩

theorem kept_update {tables : String → List CDbIpRange} (kept : ∀ uuid, Kept (tables uuid))
    (name : String) {rows : List CDbIpRange} (new : Kept rows) (uuid : String) :
    Kept (Function.update tables name rows uuid) := by
  by_cases same : uuid = name
  · rw [same, Function.update_self]
    exact new
  · rw [Function.update_of_ne same]
    exact kept uuid

namespace Tables

def Kept (tables : Tables) : Prop :=
  (∀ uuid, CIPv4PoolMgr.Kept (tables.ipRange uuid)) ∧
    ∀ uuid, CIPv4PoolMgr.Kept (tables.logicNetworkIpRange uuid)

end Tables

theorem step_kept (host : Bool) (std : StdSort) {tables : Tables} (kept : tables.Kept) {call : Call}
    (sorts : call.Sorts host tables) : (call.step host std tables).2.Kept := by
  have ⟨netplanes, logicNetworks⟩ := kept
  cases call with
  | addNetplane read cMsg =>
      have new := addIPv4Range_kept host std checkAddNetplaneIprange cMsg
        (netplanes cMsg.strUUID) (read.perm _) sorts
      exact ⟨kept_update netplanes _ new, logicNetworks⟩
  | addLogicNetwork read view cMsg =>
      have new := addIPv4Range_kept host std
        (checkAddLogicnetworkIprange tables view cMsg.strUUID) cMsg
        (logicNetworks cMsg.strUUID) (read.perm _) sorts
      exact ⟨netplanes, kept_update logicNetworks _ new⟩

/-- Every call of the run comes to rows that can be sorted with its request. -/
def AllSort (host : Bool) (std : StdSort) (calls : List Call) : Prop :=
  ∀ earlier call, earlier ++ [call] <+: calls → call.Sorts host (run host std earlier)

theorem run_kept (host : Bool) (std : StdSort) (calls : List Call)
    (sorts : AllSort host std calls) : (run host std calls).Kept := by
  induction calls using List.reverseRecOn with
  | nil => exact ⟨fun _ => kept_nil, fun _ => kept_nil⟩
  | append_singleton calls call ih =>
      have before := ih fun earlier call' part => sorts earlier call' (part.trans (by simp))
      rw [run, List.foldl_append]
      exact step_kept host std before (sorts calls call (List.prefix_refl _))

/-- After every run of additions that can be sorted no address belongs to two ranges of a
network. -/
theorem run_sound (host : Bool) (std : StdSort) (calls : List Call)
    (sorts : AllSort host std calls) (uuid : String) :
    Sound ((run host std calls).ipRange uuid) ∧
      Sound ((run host std calls).logicNetworkIpRange uuid) := by
  have ⟨netplanes, logicNetworks⟩ := run_kept host std calls sorts
  exact ⟨(netplanes uuid).sound, (logicNetworks uuid).sound⟩

/-- Addresses of the network 10.0.0.0 under the mask 255.255.255.0, in a netplane. -/
def addNetplane (start stop : UInt32) : Call :=
  .addNetplane ⟨fun rows => rows, fun _ => List.Perm.refl _⟩
    ⟨"n", some ⟨0x0a000000 + start, 0xffffff00⟩, some ⟨0x0a000000 + stop, 0xffffff00⟩⟩

theorem run_sound_merged :
    AllSort false .byStart [addNetplane 2 4, addNetplane 5 9] ∧
      Sound ((run false .byStart [addNetplane 2 4, addNetplane 5 9]).ipRange "n") := by
  have sorts : AllSort false .byStart [addNetplane 2 4, addNetplane 5 9] := by
    rintro earlier call ⟨rest, split⟩
    rcases earlier with _ | ⟨first, _ | ⟨second, more⟩⟩
    · obtain ⟨rfl, -⟩ := List.cons.inj split
      decide
    · obtain ⟨rfl, later⟩ := List.cons.inj split
      obtain ⟨rfl, -⟩ := List.cons.inj later
      decide
    · simp at split
  exact ⟨sorts, (run_sound false .byStart _ sorts "n").1⟩

/-- Sixteen rows of one subnet, of which the one in the middle starts last, and a row of another. -/
def outOfOrder : List Call :=
  addNetplane 1 9 :: [258, 260, 262, 264, 266, 268, 270, 272, 356, 274, 276, 278, 280, 282, 284,
    286].map fun host => addNetplane host host

/-- A request that starts with the last of them makes the sort run off the vector, and what it finds
there is stored in place of the request. -/
theorem run_unsound : ¬ ∀ (host : Bool) (std : StdSort) (calls : List Call) (uuid : String),
    Sound ((run host std calls).ipRange uuid) ∧
      Sound ((run host std calls).logicNetworkIpRange uuid) := by
  intro sound
  have rows : (run false (.behind [⟨0x0a000005, 0x0a000007⟩])
      (outOfOrder ++ [addNetplane 356 357])).ipRange "n" =
      (run false .byStart outOfOrder).ipRange "n" ++ [⟨0x0a000005, 0x0a000007, 0xffffff00⟩] := by
    decide +kernel
  have first : ⟨0x0a000001, 0x0a000009, 0xffffff00⟩ ∈
      (run false .byStart outOfOrder).ipRange "n" := by
    decide +kernel
  have apart := (sound false (.behind [⟨0x0a000005, 0x0a000007⟩])
    (outOfOrder ++ [addNetplane 356 357]) "n").1.disjoint
  rw [rows, List.pairwise_append] at apart
  exact apart.2.2 _ first _ (List.mem_singleton_self _) 0x0a000006
    ⟨⟨by decide, by decide⟩, by decide, by decide⟩


end CIPv4PoolMgr

end Tecs
