import Tecs.Evb.CdcpRequests

set_option autoImplicit false

/-! The channels of a bridge and their S-VIDs, against the contract above `TxSVIDConfig`. -/

namespace Tecs.Cdcp.Assignments

open Requests

section Definitions

/-- The loop over the channels of the other side. -/
def assignSVIDs (alloc : ℕ → Bool) (i : ℕ) :
    List TagCdcpScidSvidPair → List TagCdcpScidSvidPair → TagCdcpVlanPool →
      List TagCdcpScidSvidPair × TagCdcpVlanPool
  | [], lstOperSVIDList, pool => (lstOperSVIDList, pool)
  | elm :: rest, lstOperSVIDList, pool =>
      if !isInScidSvidList elm lstOperSVIDList then
        if 1 = elm.wScid then assignSVIDs alloc i rest lstOperSVIDList pool
        else
          let (wNewSVID, pool) := allocSVID pool
          if 0 = wNewSVID then (lstOperSVIDList, pool)
          else if alloc i then
            assignSVIDs alloc (i + 1) rest
              (insertElmByScidAscendingOrder ⟨elm.wScid, wNewSVID⟩ lstOperSVIDList) pool
          else (lstOperSVIDList, freeSVID wNewSVID pool)
      else assignSVIDs alloc i rest lstOperSVIDList pool

/-- The smaller capacity is worked out there, and not used. -/
def smallerChnCap (wOperChnCap wRemoteChnCap : UInt16) : UInt16 :=
  if wOperChnCap > wRemoteChnCap then wRemoteChnCap else wOperChnCap

def txSVIDConfig (alloc : ℕ → Bool) (pool : TagCdcpVlanPool)
    (lstRemoteSVIDList lstOperSVIDList : List TagCdcpScidSvidPair) :
    ℤ × List TagCdcpScidSvidPair × TagCdcpVlanPool :=
  if lstOperSVIDList.isEmpty then
    if alloc 0 then (-1, insertElmByScidAscendingOrder ⟨1, 1⟩ lstOperSVIDList, pool)
    else (-1, lstOperSVIDList, pool)
  else
    let (lstOperSVIDList, pool) :=
      walk (fun elm => (1 = elm.wScid ∧ 1 = elm.wSvid) ∨ isInScidSvidList elm lstRemoteSVIDList)
        (fun elm pool => freeSVID elm.wSvid pool) [] lstOperSVIDList pool
    (0, assignSVIDs alloc 0 lstRemoteSVIDList lstOperSVIDList pool)

end Definitions

section Contract

variable (lstRemoteSVIDList : List TagCdcpScidSvidPair) (pool : TagCdcpVlanPool)
  (lstOperSVIDList : List TagCdcpScidSvidPair)

/-- The pairs that stay: the default pair, and those of a channel of the other side whose S-VID is
in the pool. -/
def kept : List TagCdcpScidSvidPair :=
  lstOperSVIDList.filter fun pair => pair = ⟨1, 1⟩ ∨
    (isInScidSvidList pair lstRemoteSVIDList ∧ pair.wSvid ∈ ids pool.tVlanPoolHead)

/-- The channels that need an S-VID. -/
def needing : List UInt16 :=
  (scids lstRemoteSVIDList).filter fun scid =>
    scid ≠ 1 ∧ scid ∉ scids (kept lstRemoteSVIDList pool lstOperSVIDList)

/-- The S-VIDs of the pool that are free, or are given back by a pair that goes. -/
def available : List UInt16 :=
  (ids (pool.tVlanPoolHead.filter fun vlan => vlan.wVlanID ≠ 0 ∧ vlan.wVlanID ≠ 1 ∧
    vlan.wVlanID ∉ (kept lstRemoteSVIDList pool lstOperSVIDList).map (·.wSvid) ∧
    (vlan.ucIsUse = false ∨ vlan.wVlanID ∈ lstOperSVIDList.map (·.wSvid)))).dedup

/-- What the list should be afterwards, the list of the other side being cut to the capacity. -/
structure Configured (lstNewSVIDList : List TagCdcpScidSvidPair) : Prop where
  channels : ∀ scid, scid ∈ scids lstNewSVIDList ↔
    scid = 1 ∨ scid ∈ scids (kept lstRemoteSVIDList pool lstOperSVIDList) ∨
      scid ∈ (needing lstRemoteSVIDList pool lstOperSVIDList).take
        (available lstRemoteSVIDList pool lstOperSVIDList).length
  keeps : ∀ pair ∈ kept lstRemoteSVIDList pool lstOperSVIDList, pair ∈ lstNewSVIDList
  renews : ∀ pair ∈ lstOperSVIDList, pair ≠ ⟨1, 1⟩ → pair.wSvid ∉ ids pool.tVlanPoolHead →
    pair ∉ lstNewSVIDList

/-- The S-VIDs that can be handed out, up to a VLAN 0 and as far as there is memory. -/
def grants (alloc : ℕ → Bool) : ℕ → List TagVlanInfo → ℕ
  | _, [] => 0
  | i, vlan :: rest =>
      if vlan.ucIsUse then grants alloc i rest
      else if vlan.wVlanID = 0 ∨ alloc i = false then 0
      else grants alloc (i + 1) rest + 1

/-- The channels of the other side that the list does not have yet. -/
def fresh : List UInt16 :=
  (scids lstRemoteSVIDList).filter fun scid => scid ≠ 1 ∧ scid ∉ scids lstOperSVIDList

end Contract

section Assign

variable {alloc : ℕ → Bool} {pool : TagCdcpVlanPool} {remote oper : List TagCdcpScidSvidPair}

theorem mem_fresh {scid : UInt16} :
    scid ∈ fresh remote oper ↔ scid ∈ scids remote ∧ scid ≠ 1 ∧ scid ∉ scids oper := by
  rw [fresh, List.mem_filter, decide_eq_true_eq]

/-- The first free entry is handed out, and what is behind it is granted later. -/
theorem grants_alloc (alloc : ℕ → Bool) (i : ℕ) (head : List TagVlanInfo) :
    ((allocFirst head).1 = 0 ∨ alloc i = false) ∧ grants alloc i head = 0 ∨
      (allocFirst head).1 ≠ 0 ∧ alloc i = true ∧ (allocFirst head).1 ∈ ids head ∧
        grants alloc i head = grants alloc (i + 1) (allocFirst head).2 + 1 := by
  induction head with
  | nil => exact .inl ⟨.inl rfl, rfl⟩
  | cons vlan rest ih =>
      obtain ⟨id, used⟩ := vlan
      cases used
      · have first : allocFirst (⟨id, false⟩ :: rest) = (id, ⟨id, true⟩ :: rest) := rfl
        have count : grants alloc i (⟨id, false⟩ :: rest) =
            if id = 0 ∨ alloc i = false then 0 else grants alloc (i + 1) rest + 1 := rfl
        have later : grants alloc (i + 1) (⟨id, true⟩ :: rest) = grants alloc (i + 1) rest := rfl
        rw [first, count, later]
        by_cases stops : id = 0 ∨ alloc i = false
        · exact .inl ⟨stops, if_pos stops⟩
        · rw [not_or, Bool.not_eq_false] at stops
          refine .inr ⟨stops.1, stops.2, List.mem_cons_self, if_neg ?_⟩
          rw [not_or, Bool.not_eq_false]
          exact stops
      · have first : allocFirst (⟨id, true⟩ :: rest) =
            ((allocFirst rest).1, ⟨id, true⟩ :: (allocFirst rest).2) := rfl
        have count (j : ℕ) (others : List TagVlanInfo) :
            grants alloc j (⟨id, true⟩ :: others) = grants alloc j others := rfl
        rw [first]
        dsimp only
        rw [count, count]
        rcases ih with ⟨stops, none⟩ | ⟨nonzero, memory, inside, more⟩
        · exact .inl ⟨stops, none⟩
        · exact .inr ⟨nonzero, memory, List.mem_cons_of_mem _ inside, more⟩

theorem fresh_insert {elm : TagCdcpScidSvidPair} {wNewSVID : UInt16}
    (apart : elm.wScid ∉ scids remote) :
    fresh remote (insertElmByScidAscendingOrder ⟨elm.wScid, wNewSVID⟩ oper) =
      fresh remote oper := by
  apply List.filter_congr
  intro scid mem
  have differs : scid ≠ elm.wScid := fun same => apart (same ▸ mem)
  have perm := (insert_perm ⟨elm.wScid, wNewSVID⟩ oper).map TagCdcpScidSvidPair.wScid
  have same : scid ∈ scids (insertElmByScidAscendingOrder ⟨elm.wScid, wNewSVID⟩ oper) ↔
      scid ∈ scids oper := by
    rw [scids, perm.mem_iff]
    exact mem_scids_cons.trans (or_iff_right differs)
  simp only [same]

/-- What the loop adds: as many of the new channels as there are S-VIDs for. -/
theorem assignSVIDs_spec (alloc : ℕ → Bool) (nodup : (scids remote).Nodup) (i : ℕ)
    (oper : List TagCdcpScidSvidPair) (pool : TagCdcpVlanPool) :
    (∀ scid, scid ∈ scids (assignSVIDs alloc i remote oper pool).1 ↔
      scid ∈ scids oper ∨
        scid ∈ (fresh remote oper).take (grants alloc i pool.tVlanPoolHead)) ∧
    (∀ pair ∈ oper, pair ∈ (assignSVIDs alloc i remote oper pool).1) ∧
    ∀ pair ∈ (assignSVIDs alloc i remote oper pool).1,
      pair ∈ oper ∨ pair.wSvid ∈ ids pool.tVlanPoolHead := by
  induction remote generalizing i oper pool with
  | nil =>
      have none : fresh [] oper = [] := rfl
      rw [none, assignSVIDs]
      refine ⟨fun scid => ?_, fun pair mem => mem, fun pair mem => .inl mem⟩
      rw [List.take_nil]
      exact (or_iff_left List.not_mem_nil).symm
  | cons elm rest ih =>
      have ⟨apart, nodup'⟩ := List.nodup_cons.mp nodup
      rw [assignSVIDs]
      by_cases known : isInScidSvidList elm oper = true
      · have skipped : fresh (elm :: rest) oper = fresh rest oper := by
          apply List.filter_cons_of_neg
          simp [isIn_iff.mp known]
        rw [known, Bool.not_true, if_neg Bool.false_ne_true, skipped]
        exact ih nodup' i oper pool
      · have absent : elm.wScid ∉ scids oper := fun there => known (isIn_iff.mpr there)
        rw [Bool.not_eq_true] at known
        rw [known, Bool.not_false, if_pos rfl]
        by_cases default : 1 = elm.wScid
        · have skipped : fresh (elm :: rest) oper = fresh rest oper := by
            apply List.filter_cons_of_neg
            simp [← default]
          rw [if_pos default, skipped]
          exact ih nodup' i oper pool
        · have counted : fresh (elm :: rest) oper = elm.wScid :: fresh rest oper := by
            apply List.filter_cons_of_pos
            simp [Ne.symm default, absent]
          rw [if_neg default, counted]
          rcases grants_alloc alloc i pool.tVlanPoolHead with
            ⟨stops, none⟩ | ⟨nonzero, memory, inside, more⟩
          · -- nothing is handed out, or it is given back
            have result : (let (wNewSVID, pool) := allocSVID pool
                if 0 = wNewSVID then (oper, pool)
                else if alloc i then
                  assignSVIDs alloc (i + 1) rest
                    (insertElmByScidAscendingOrder ⟨elm.wScid, wNewSVID⟩ oper) pool
                else (oper, freeSVID wNewSVID pool)).1 = oper := by
              rw [allocSVID]
              dsimp only
              by_cases zero : 0 = (allocFirst pool.tVlanPoolHead).1
              · rw [if_pos zero]
              · have memory : alloc i = false := stops.resolve_left (Ne.symm zero)
                rw [if_neg zero, memory, if_neg Bool.false_ne_true]
            rw [result, none, List.take_zero]
            exact ⟨fun scid => (or_iff_left List.not_mem_nil).symm, fun pair mem => mem,
              fun pair mem => .inl mem⟩
          · rw [allocSVID]
            dsimp only
            rw [if_neg (Ne.symm nonzero), if_pos memory, more, List.take_succ_cons]
            have perm := insert_perm ⟨elm.wScid, (allocFirst pool.tVlanPoolHead).1⟩ oper
            have ⟨channels, keeps, origin⟩ := ih nodup' (i + 1)
              (insertElmByScidAscendingOrder
                ⟨elm.wScid, (allocFirst pool.tVlanPoolHead).1⟩ oper)
              { pool with tVlanPoolHead := (allocFirst pool.tVlanPoolHead).2 }
            refine ⟨fun scid => ?_, fun pair mem => ?_, fun pair mem => ?_⟩
            · have grows : scid ∈ scids (insertElmByScidAscendingOrder
                  ⟨elm.wScid, (allocFirst pool.tVlanPoolHead).1⟩ oper) ↔
                  scid = elm.wScid ∨ scid ∈ scids oper := by
                rw [scids, (perm.map TagCdcpScidSvidPair.wScid).mem_iff]
                exact mem_scids_cons
              rw [channels, grows, fresh_insert apart, List.mem_cons]
              tauto
            · exact keeps pair (mem_insert.mpr (.inr mem))
            · rcases origin pair mem with old | there
              · rcases mem_insert.mp old with rfl | older
                · exact .inr inside
                · exact .inl older
              · rw [ids_allocFirst] at there
                exact .inr there

end Assign

section Result

variable {alloc : ℕ → Bool} {pool : TagCdcpVlanPool} {remote oper : List TagCdcpScidSvidPair}

/-- What the walk over the list leaves. -/
def stays (remote oper : List TagCdcpScidSvidPair) : List TagCdcpScidSvidPair :=
  oper.filter fun elm => (1 = elm.wScid ∧ 1 = elm.wSvid) ∨ isInScidSvidList elm remote

theorem mem_stays {pair : TagCdcpScidSvidPair} :
    pair ∈ stays remote oper ↔ pair ∈ oper ∧ (pair = ⟨1, 1⟩ ∨ pair.wScid ∈ scids remote) := by
  rw [stays, List.mem_filter, decide_eq_true_eq, isIn_iff, TagCdcpScidSvidPair.ext_iff]
  simp only [eq_comm]

theorem mem_kept {pair : TagCdcpScidSvidPair} :
    pair ∈ kept remote pool oper ↔ pair ∈ oper ∧ (pair = ⟨1, 1⟩ ∨
      (pair.wScid ∈ scids remote ∧ pair.wSvid ∈ ids pool.tVlanPoolHead)) := by
  rw [kept, List.mem_filter, decide_eq_true_eq, isIn_iff]

theorem freeAll_eq (gone : List TagCdcpScidSvidPair) (pool : TagCdcpVlanPool) :
    gone.foldl (fun pool elm => freeSVID elm.wSvid pool) pool = pool := by
  induction gone generalizing pool with
  | nil => rfl
  | cons elm rest ih => rw [List.foldl_cons, freeSVID_eq, ih]

theorem txSVIDConfig_empty (alloc : ℕ → Bool) :
    (txSVIDConfig alloc pool remote []).2.1 = if alloc 0 then [⟨1, 1⟩] else [] := by
  rw [txSVIDConfig, List.isEmpty_nil, if_pos rfl]
  split <;> rfl

theorem txSVIDConfig_some (some : oper ≠ []) :
    (txSVIDConfig alloc pool remote oper).2.1 =
      (assignSVIDs alloc 0 remote (stays remote oper) pool).1 := by
  rw [txSVIDConfig, if_neg (by rwa [List.isEmpty_iff]),
    walk_eq fun elm mem => absurd mem List.not_mem_nil, freeAll_eq, List.nil_append]
  rfl

theorem assignSVIDs_total (i : ℕ) : assignSVIDs (fun _ => true) i remote oper pool =
    Cdcp.assignSVIDs remote oper pool := by
  induction remote generalizing i oper pool with
  | nil => rfl
  | cons elm rest ih =>
      rw [assignSVIDs, Cdcp.assignSVIDs]
      cases isInScidSvidList elm oper
      · rw [Bool.not_false, if_pos rfl, if_neg Bool.false_ne_true]
        simp only [ih, if_true]
      · rw [Bool.not_true, if_neg Bool.false_ne_true, if_pos rfl]
        exact ih i

/-- With memory the function does what it does where no allocation fails. -/
theorem txSVIDConfig_total :
    (txSVIDConfig (fun _ => true) pool remote oper).2 = Cdcp.txSVIDConfig pool remote oper := by
  rw [txSVIDConfig, Cdcp.txSVIDConfig]
  by_cases empty : oper.isEmpty = true
  · rw [if_pos empty, if_pos empty, List.isEmpty_iff.mp empty]
    rfl
  · rw [if_neg empty, if_neg empty, walk_eq fun elm mem => absurd mem List.not_mem_nil, freeAll_eq,
      removeInactive_eq, List.nil_append]
    exact assignSVIDs_total 0

/-- The channels of the other side that are new to the list, before and after the walk. -/
theorem fresh_stays : fresh remote (stays remote oper) = fresh remote oper := by
  apply List.filter_congr
  intro scid mem
  have same : scid ∈ scids (stays remote oper) ↔ scid ∈ scids oper := by
    constructor
    · intro there
      obtain ⟨pair, there, eq⟩ := List.mem_map.mp there
      exact List.mem_map.mpr ⟨pair, (mem_stays.mp there).1, eq⟩
    · intro there
      obtain ⟨pair, old, rfl⟩ := List.mem_map.mp there
      exact List.mem_map_of_mem (mem_stays.mpr ⟨old, .inr mem⟩)
  simp only [same]

/-- Prefixes of a list without repetitions that hold the same are the same. -/
theorem take_eq_take {α : Type} {l l' : List α} {m n : ℕ} (nodup : l.Nodup) (before : l' <+: l) :
    (∀ a, a ∈ l.take m ↔ a ∈ l'.take n) ↔ min m l.length = min n l'.length := by
  have first : (l.take m).Nodup := nodup.sublist (List.take_sublist m l)
  have second : (l'.take n).Nodup :=
    (nodup.sublist before.sublist).sublist (List.take_sublist n l')
  rw [← List.perm_ext_iff_of_nodup first second]
  constructor
  · intro perm
    have length := perm.length_eq
    rwa [List.length_take, List.length_take] at length
  · intro same
    have left : l.take m = l.take (min m l.length) := by
      rw [List.take_eq_take_min]
    have right : l'.take n = l.take (min n l'.length) := by
      have inside : (l'.take n) <+: l := (List.take_prefix n l').trans before
      rw [List.prefix_iff_eq_take.mp inside, List.length_take]
    rw [left, right, same]

end Result

section Main

variable {alloc : ℕ → Bool} {pool : TagCdcpVlanPool} {remote oper : List TagCdcpScidSvidPair}
  {cap : ℕ}

theorem kept_subset_stays {pair : TagCdcpScidSvidPair}
    (mem : pair ∈ kept (remote.take cap) pool oper) : pair ∈ stays remote oper := by
  obtain ⟨there, default | ⟨near, -⟩⟩ := mem_kept.mp mem
  · exact mem_stays.mpr ⟨there, .inl default⟩
  · have sub : scids (remote.take cap) ⊆ scids remote :=
      List.map_subset _ (List.take_subset cap remote)
    exact mem_stays.mpr ⟨there, .inr (sub near)⟩

theorem needing_eq (inPool : ∀ pair ∈ oper, pair ≠ ⟨1, 1⟩ → pair.wScid ∈ scids remote →
    pair.wSvid ∈ ids pool.tVlanPoolHead) :
    needing (remote.take cap) pool oper = fresh (remote.take cap) oper := by
  apply List.filter_congr
  intro scid mem
  have sub : scids (remote.take cap) ⊆ scids remote :=
    List.map_subset _ (List.take_subset cap remote)
  by_cases default : scid = 1
  · simp [default]
  · have same : scid ∈ scids (kept (remote.take cap) pool oper) ↔ scid ∈ scids oper := by
      constructor
      · intro there
        obtain ⟨pair, there, eq⟩ := List.mem_map.mp there
        exact List.mem_map.mpr ⟨pair, (mem_kept.mp there).1, eq⟩
      · intro there
        obtain ⟨pair, old, rfl⟩ := List.mem_map.mp there
        have other : pair ≠ ⟨1, 1⟩ := fun same => default (congrArg TagCdcpScidSvidPair.wScid same)
        exact List.mem_map_of_mem
          (mem_kept.mpr ⟨old, .inr ⟨mem, inPool pair old other (sub mem)⟩⟩)
    simp only [same]

/-- The condition under which a list that is not empty is brought up to the contract. -/
structure Served (alloc : ℕ → Bool) (cap : ℕ) (pool : TagCdcpVlanPool)
    (remote oper : List TagCdcpScidSvidPair) : Prop where
  default : ∃ pair ∈ oper, pair.wScid = 1 ∧ (pair.wSvid = 1 ∨ 1 ∈ scids remote)
  inPool : ∀ pair ∈ oper, pair ≠ ⟨1, 1⟩ → pair.wScid ∈ scids remote →
    pair.wSvid ∈ ids pool.tVlanPoolHead
  within : ∀ pair ∈ oper, pair.wScid ∈ scids remote →
    pair.wScid = 1 ∨ pair.wScid ∈ scids (remote.take cap)
  counts : min (grants alloc 0 pool.tVlanPoolHead) (fresh remote oper).length =
    min (available (remote.take cap) pool oper).length (fresh (remote.take cap) oper).length

theorem fresh_prefix : fresh (remote.take cap) oper <+: fresh remote oper :=
  ((List.take_prefix cap remote).map _).filter _

theorem configured_iff_served (nodup : (scids remote).Nodup) (some : oper ≠ []) :
    Configured (remote.take cap) pool oper (txSVIDConfig alloc pool remote oper).2.1 ↔
      Served alloc cap pool remote oper := by
  rw [txSVIDConfig_some some]
  have ⟨channels, keeps, origin⟩ :=
    assignSVIDs_spec alloc nodup 0 (stays remote oper) pool
  rw [fresh_stays] at channels
  have nodupFresh : (fresh remote oper).Nodup := nodup.filter _
  constructor
  · intro configured
    have inPool : ∀ pair ∈ oper, pair ≠ ⟨1, 1⟩ → pair.wScid ∈ scids remote →
        pair.wSvid ∈ ids pool.tVlanPoolHead := by
      intro pair mem other near
      by_contra outside
      exact configured.renews pair mem other outside
        (keeps pair (mem_stays.mpr ⟨mem, .inr near⟩))
    have within : ∀ pair ∈ oper, pair.wScid ∈ scids remote →
        pair.wScid = 1 ∨ pair.wScid ∈ scids (remote.take cap) := by
      intro pair mem near
      have there : pair.wScid ∈ scids (assignSVIDs alloc 0 remote (stays remote oper) pool).1 :=
        List.mem_map_of_mem (keeps pair (mem_stays.mpr ⟨mem, .inr near⟩))
      rcases (configured.channels pair.wScid).mp there with one | old | new
      · exact .inl one
      · obtain ⟨other, there, same⟩ := List.mem_map.mp old
        rcases (mem_kept.mp there).2 with default | ⟨near, -⟩
        · exact .inl (by rw [← same, default])
        · exact .inr (same ▸ near)
      · exact .inr (List.mem_filter.mp (List.mem_of_mem_take new)).1
    refine ⟨?_, inPool, within, ?_⟩
    · have there := (configured.channels 1).mpr (.inl rfl)
      rcases (channels 1).mp there with old | new
      · obtain ⟨pair, mem, one⟩ := List.mem_map.mp old
        obtain ⟨mem, default | near⟩ := mem_stays.mp mem
        · exact ⟨pair, mem, one, .inl (by rw [default])⟩
        · exact ⟨pair, mem, one, .inr (one ▸ near)⟩
      · exact absurd rfl (mem_fresh.mp (List.mem_of_mem_take new)).2.1
    · rw [← take_eq_take nodupFresh fresh_prefix]
      intro scid
      have expected := configured.channels scid
      rw [channels, needing_eq inPool] at expected
      constructor
      · intro new
        have known := mem_fresh.mp (List.mem_of_mem_take new)
        rcases expected.mp (.inr new) with one | old | there
        · exact absurd one known.2.1
        · obtain ⟨pair, mem, rfl⟩ := List.mem_map.mp old
          exact absurd (List.mem_map_of_mem (mem_kept.mp mem).1) known.2.2
        · exact there
      · intro new
        have known := mem_fresh.mp (List.mem_of_mem_take new)
        rcases expected.mpr (.inr (.inr new)) with old | there
        · obtain ⟨pair, mem, rfl⟩ := List.mem_map.mp old
          exact absurd (List.mem_map_of_mem (mem_stays.mp mem).1) known.2.2
        · exact there
  · intro served
    have same := (take_eq_take nodupFresh fresh_prefix).mpr served.counts
    refine ⟨fun scid => ?_, fun pair mem => keeps pair (kept_subset_stays mem),
      fun pair mem other outside there => ?_⟩
    · rw [channels, needing_eq served.inPool, same]
      constructor
      · rintro (old | new)
        · obtain ⟨pair, mem, rfl⟩ := List.mem_map.mp old
          obtain ⟨mem, default | near⟩ := mem_stays.mp mem
          · exact .inl (by rw [default])
          · rcases served.within pair mem near with one | inside
            · exact .inl one
            · by_cases default : pair = ⟨1, 1⟩
              · exact .inl (by rw [default])
              · exact .inr (.inl (List.mem_map_of_mem
                  (mem_kept.mpr ⟨mem, .inr ⟨inside, served.inPool pair mem default near⟩⟩)))
        · exact .inr (.inr new)
      · rintro (rfl | old | new)
        · obtain ⟨pair, mem, one, here⟩ := served.default
          refine .inl (List.mem_map.mpr ⟨pair, mem_stays.mpr ⟨mem, ?_⟩, one⟩)
          exact here.imp (fun svid => TagCdcpScidSvidPair.ext one svid) fun near => one ▸ near
        · obtain ⟨pair, mem, rfl⟩ := List.mem_map.mp old
          exact .inl (List.mem_map_of_mem (kept_subset_stays mem))
        · exact .inr new
    · rcases origin pair there with old | inside
      · rcases (mem_stays.mp old).2 with default | near
        · exact other default
        · exact outside (served.inPool pair mem other near)
      · exact outside inside

/-- An empty list is given the default pair only. -/
theorem configured_empty_iff :
    Configured (remote.take cap) pool [] (txSVIDConfig alloc pool remote []).2.1 ↔
      alloc 0 = true ∧
        min (available (remote.take cap) pool []).length
          (fresh (remote.take cap) []).length = 0 := by
  have noneKept : kept (remote.take cap) pool [] = [] := rfl
  have needs : needing (remote.take cap) pool [] = fresh (remote.take cap) [] := rfl
  rw [txSVIDConfig_empty]
  constructor
  · intro configured
    cases memory : alloc 0
    · have there := (configured.channels 1).mpr (.inl rfl)
      rw [memory, if_neg Bool.false_ne_true] at there
      exact absurd there List.not_mem_nil
    · refine ⟨rfl, ?_⟩
      rw [← List.length_take, List.length_eq_zero_iff, List.eq_nil_iff_forall_not_mem]
      intro scid new
      rw [memory, if_pos rfl] at configured
      have there := (configured.channels scid).mpr (.inr (.inr new))
      exact (mem_fresh.mp (List.mem_of_mem_take new)).2.1 (List.mem_singleton.mp there)
  · rintro ⟨memory, none⟩
    rw [← List.length_take, List.length_eq_zero_iff] at none
    rw [memory, if_pos rfl]
    refine ⟨fun scid => ?_, fun pair mem => ?_, fun pair mem => ?_⟩
    · rw [noneKept, needs, none]
      exact List.mem_singleton.trans
        (or_iff_left fun other => other.elim List.not_mem_nil List.not_mem_nil).symm
    · rw [noneKept] at mem
      exact absurd mem List.not_mem_nil
    · exact absurd mem List.not_mem_nil

/-- When the list of a bridge is brought up to the contract. -/
theorem txSVIDConfig_configured_iff (alloc : ℕ → Bool) (wOperChnCap wRemoteChnCap : UInt16)
    (pool : TagCdcpVlanPool) {remote : List TagCdcpScidSvidPair} (oper : List TagCdcpScidSvidPair)
    (nodup : (scids remote).Nodup) :
    Configured (remote.take (smallerChnCap wOperChnCap wRemoteChnCap).toNat) pool oper
        (txSVIDConfig alloc pool remote oper).2.1 ↔
      oper ≠ [] ∧ Served alloc (smallerChnCap wOperChnCap wRemoteChnCap).toNat pool remote oper ∨
      oper = [] ∧ alloc 0 = true ∧
        min (available (remote.take (smallerChnCap wOperChnCap wRemoteChnCap).toNat) pool []).length
          (fresh (remote.take (smallerChnCap wOperChnCap wRemoteChnCap).toNat) []).length = 0 := by
  by_cases empty : oper = []
  · subst empty
    rw [configured_empty_iff]
    simp
  · rw [configured_iff_served nodup empty]
    simp [empty]

/-- A list that is served: channel 3 gets the S-VID that is free, channel 2 keeps its own. -/
theorem txSVIDConfig_configured_three :
    Configured [⟨1, 1⟩, ⟨2, 0⟩, ⟨3, 0⟩] ⟨[⟨100, true⟩, ⟨101, false⟩], 102, 100⟩
      [⟨1, 1⟩, ⟨2, 100⟩]
      (txSVIDConfig (fun _ => true) ⟨[⟨100, true⟩, ⟨101, false⟩], 102, 100⟩
        [⟨1, 1⟩, ⟨2, 0⟩, ⟨3, 0⟩] [⟨1, 1⟩, ⟨2, 100⟩]).2.1 := by
  have served : Served (fun _ => true) (smallerChnCap 8 8).toNat
      ⟨[⟨100, true⟩, ⟨101, false⟩], 102, 100⟩ [⟨1, 1⟩, ⟨2, 0⟩, ⟨3, 0⟩] [⟨1, 1⟩, ⟨2, 100⟩] :=
    ⟨by decide, by decide, by decide, by decide⟩
  exact (txSVIDConfig_configured_iff (fun _ => true) 8 8 _ _ (by decide)).mpr
    (.inl ⟨by decide, served⟩)

/-- A pair keeps the S-VID that has left the pool. -/
theorem stale_svid_kept :
    ¬Configured [⟨1, 1⟩, ⟨2, 100⟩] ⟨[⟨200, false⟩, ⟨201, false⟩], 202, 200⟩ [⟨1, 1⟩, ⟨2, 100⟩]
      (txSVIDConfig (fun _ => true) ⟨[⟨200, false⟩, ⟨201, false⟩], 202, 200⟩
        [⟨1, 1⟩, ⟨2, 100⟩] [⟨1, 1⟩, ⟨2, 100⟩]).2.1 := by
  intro configured
  have there : (⟨2, 100⟩ : TagCdcpScidSvidPair) ∈ (txSVIDConfig (fun _ => true)
      ⟨[⟨200, false⟩, ⟨201, false⟩], 202, 200⟩ [⟨1, 1⟩, ⟨2, 100⟩] [⟨1, 1⟩, ⟨2, 100⟩]).2.1 := by
    rw [txSVIDConfig_some (by decide)]
    decide
  exact configured.renews ⟨2, 100⟩ (by decide) (by decide) (by decide) there

end Main

end Tecs.Cdcp.Assignments
