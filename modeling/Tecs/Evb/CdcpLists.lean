import Tecs.Evb.Cdcp
import Tecs.Library.KeyedList

set_option autoImplicit false

/-! What the functions of a CDCP port do with its lists and its pools. -/

namespace Tecs.Cdcp

section Lists

variable {elm : TagCdcpScidSvidPair} {list : List TagCdcpScidSvidPair}

theorem isIn_iff : isInScidSvidList elm list = true ↔ elm.wScid ∈ list.map (·.wScid) := by
  rw [isInScidSvidList, List.any_eq_true, List.mem_map]
  simp only [decide_eq_true_eq]

theorem insert_perm (elm : TagCdcpScidSvidPair) (list : List TagCdcpScidSvidPair) :
    (insertElmByScidAscendingOrder elm list).Perm (elm :: list) := by
  induction list with
  | nil => exact .refl _
  | cons lstElm rest ih =>
      rw [insertElmByScidAscendingOrder]
      split
      · exact .refl _
      · exact (ih.cons lstElm).trans (.swap elm lstElm rest)

theorem mem_insert {pair : TagCdcpScidSvidPair} :
    pair ∈ insertElmByScidAscendingOrder elm list ↔ pair = elm ∨ pair ∈ list := by
  rw [(insert_perm elm list).mem_iff, List.mem_cons]

abbrev scids (pairs : List TagCdcpScidSvidPair) : List UInt16 := pairs.map (·.wScid)

theorem mem_scids_cons {scid : UInt16} :
    scid ∈ scids (elm :: list) ↔ scid = elm.wScid ∨ scid ∈ scids list := by
  rw [scids, List.map_cons, List.mem_cons]

/-- Without repetitions the comparison is that of the sets of channels. -/
theorem compare_iff {list₁ list₂ : List TagCdcpScidSvidPair} (nodup₁ : (scids list₁).Nodup)
    (nodup₂ : (scids list₂).Nodup) : compareScidSvidList list₁ list₂ = true ↔
      ∀ scid, scid ∈ scids list₁ ↔ scid ∈ scids list₂ := by
  have shape : compareScidSvidList list₁ list₂ = true ↔
      list₁.length = list₂.length ∧ scids list₁ ⊆ scids list₂ := by
    rw [compareScidSvidList, Bool.and_eq_true, decide_eq_true_eq, List.all_eq_true]
    simp only [isIn_iff, List.subset_def, List.forall_mem_map]
  rw [shape]
  constructor
  · rintro ⟨long, sub⟩ scid
    have perm : (scids list₁).Perm (scids list₂) :=
      (List.subperm_of_subset nodup₁ sub).perm_of_length_le (by simp [long])
    exact perm.mem_iff
  · intro same
    have perm : (scids list₁).Perm (scids list₂) :=
      (List.perm_ext_iff_of_nodup nodup₁ nodup₂).mpr same
    exact ⟨by simpa using perm.length_eq, perm.subset⟩

/-- The S-VID that a list gives to a channel, 0 if it gives none. -/
def svidOf (wScid : UInt16) (list : List TagCdcpScidSvidPair) : UInt16 :=
  ((getScidSvidElem wScid list).map (·.wSvid)).getD 0

theorem svidOf_of_mem {pair : TagCdcpScidSvidPair} (nodup : (scids list).Nodup)
    (mem : pair ∈ list) : svidOf pair.wScid list = pair.wSvid := by
  have found : getScidSvidElem pair.wScid list = some pair :=
    KeyedList.lookup_of_mem nodup mem
  rw [svidOf, found]
  rfl

theorem svidOf_of_not_mem {scid : UInt16} (absent : scid ∉ scids list) : svidOf scid list = 0 := by
  have missing : getScidSvidElem scid list = none := KeyedList.lookup_eq_none.mpr absent
  rw [svidOf, missing]
  rfl

theorem rxSVIDConfig_eq (oper remote : List TagCdcpScidSvidPair) :
    rxSVIDConfig oper remote = oper.map fun elm => ⟨elm.wScid, svidOf elm.wScid remote⟩ := by
  rw [rxSVIDConfig]
  apply List.map_congr_left
  intro elm _
  rw [svidOf]
  cases getScidSvidElem elm.wScid remote <;> rfl

/-- The channels that are asked for are those that are wanted. -/
structure Requested (wants oper result : List TagCdcpScidSvidPair) : Prop where
  nodup : (scids result).Nodup
  channels : ∀ scid, scid ∈ scids result ↔ scid ∈ scids wants
  origin : ∀ pair ∈ result, pair ∈ oper ∨
    (oper ≠ [] ∧ pair.wScid ∉ scids oper ∧ pair.wSvid = 0) ∨ (oper = [] ∧ pair ∈ wants)

/-- Adding the wanted channels, one after the other. -/
theorem foldl_wants (wants : List TagCdcpScidSvidPair) : ∀ list : List TagCdcpScidSvidPair,
    (scids list).Nodup →
    let result := wants.foldl (fun list elm =>
      if !isInScidSvidList elm list then insertElmByScidAscendingOrder ⟨elm.wScid, 0⟩ list
      else list) list
    (scids result).Nodup ∧
      (∀ scid, scid ∈ scids result ↔ scid ∈ scids list ∨ scid ∈ scids wants) ∧
      ∀ pair ∈ result, pair ∈ list ∨
        (pair.wScid ∉ scids list ∧ pair.wSvid = 0) := by
  induction wants with
  | nil => exact fun list nodup => ⟨nodup, fun scid => by simp, fun pair mem => .inl mem⟩
  | cons elm rest ih =>
      intro list nodup
      rw [List.foldl_cons]
      cases known : isInScidSvidList elm list
      · have absent : elm.wScid ∉ scids list := by
          rw [← isIn_iff, known]
          simp
        have perm := (insert_perm ⟨elm.wScid, 0⟩ list).map TagCdcpScidSvidPair.wScid
        have ⟨nodup', channels, origin⟩ :=
          ih (insertElmByScidAscendingOrder ⟨elm.wScid, 0⟩ list)
            (perm.nodup_iff.mpr (List.nodup_cons.mpr ⟨absent, nodup⟩))
        have grows (scid : UInt16) : scid ∈ scids (insertElmByScidAscendingOrder
            ⟨elm.wScid, 0⟩ list) ↔ scid = elm.wScid ∨ scid ∈ scids list := by
          rw [scids, perm.mem_iff]
          exact mem_scids_cons
        rw [Bool.not_false, if_pos rfl]
        refine ⟨nodup', fun scid => ?_, fun pair mem => ?_⟩
        · rw [channels, grows, mem_scids_cons]
          tauto
        · rcases origin pair mem with old | ⟨fresh, zero⟩
          · rcases mem_insert.mp old with rfl | older
            · exact .inr ⟨absent, rfl⟩
            · exact .inl older
          · rw [grows, not_or] at fresh
            exact .inr ⟨fresh.2, zero⟩
      · have ⟨nodup', channels, origin⟩ := ih list nodup
        rw [Bool.not_true, if_neg Bool.false_ne_true]
        refine ⟨nodup', fun scid => ?_, origin⟩
        have there := isIn_iff.mp known
        rw [channels, mem_scids_cons]
        constructor
        · tauto
        · rintro (old | rfl | later)
          · exact .inl old
          · exact .inl there
          · exact .inr later

theorem setSVIDRequest_spec {wants oper : List TagCdcpScidSvidPair}
    (nodupWants : (scids wants).Nodup) (nodup : (scids oper).Nodup) :
    Requested wants oper (setSVIDRequest .s wants oper) := by
  rw [setSVIDRequest]
  by_cases empty : oper = []
  · rw [if_pos (by simp [empty])]
    exact ⟨nodupWants, fun _ => .rfl, fun pair mem => .inr (.inr ⟨empty, mem⟩)⟩
  · have kept : (scids (oper.filter (isInScidSvidList · wants))).Nodup :=
      nodup.sublist (List.filter_sublist.map _)
    have ⟨nodup', channels, origin⟩ := foldl_wants wants _ kept
    have inside (scid : UInt16) : scid ∈ scids (oper.filter (isInScidSvidList · wants)) ↔
        scid ∈ scids oper ∧ scid ∈ scids wants := by
      simp only [scids, List.mem_map, List.mem_filter, isIn_iff]
      constructor
      · rintro ⟨pair, ⟨mem, wanted⟩, rfl⟩
        exact ⟨⟨pair, mem, rfl⟩, wanted⟩
      · rintro ⟨⟨pair, mem, rfl⟩, wanted⟩
        exact ⟨pair, ⟨mem, wanted⟩, rfl⟩
    rw [if_neg (by simpa using empty)]
    refine ⟨nodup', fun scid => ?_, fun pair mem => ?_⟩
    · rw [channels, inside]
      tauto
    · have wanted : pair.wScid ∈ scids wants := by
        have there := (channels pair.wScid).mp (List.mem_map_of_mem mem)
        rw [inside] at there
        tauto
      rcases origin pair mem with old | ⟨fresh, zero⟩
      · exact .inl (List.mem_filter.mp old).1
      · rw [inside, not_and] at fresh
        exact .inr (.inl ⟨empty, fun there => fresh there wanted, zero⟩)

end Lists

section Pools

/-- Setting a VLAN free changes nothing: the entry that it finds is free. -/
theorem freeSVID_eq (wVlanID : UInt16) (pool : TagCdcpVlanPool) : freeSVID wVlanID pool = pool := by
  have same (head : List TagVlanInfo) : freeFirst head = head := by
    induction head with
    | nil => rfl
    | cons vlan rest ih =>
        obtain ⟨id, used⟩ := vlan
        cases used
        · rfl
        · change ⟨id, true⟩ :: freeFirst rest = _
          rw [ih]
  rw [freeSVID, same]

def ids (head : List TagVlanInfo) : List UInt16 := head.map (·.wVlanID)

/-- The VLANs in use are those of a set. -/
def Marked (head : List TagVlanInfo) (S : UInt16 → Prop) : Prop :=
  ∀ vlan ∈ head, vlan.ucIsUse = true ↔ S vlan.wVlanID

variable {head : List TagVlanInfo} {S T : UInt16 → Prop}

theorem Marked.congr (marked : Marked head S) (same : ∀ id ∈ ids head, S id ↔ T id) :
    Marked head T := by
  intro vlan mem
  rw [marked vlan mem, same _ (List.mem_map_of_mem mem)]

theorem alloc_full (full : ∀ vlan ∈ head, vlan.ucIsUse = true) : allocFirst head = (0, head) := by
  induction head with
  | nil => rfl
  | cons vlan rest ih =>
      have used := full vlan List.mem_cons_self
      rw [allocFirst, used, ih fun other mem => full other (List.mem_cons_of_mem _ mem)]
      rfl

/-- Where some VLAN is free, a free one is handed out, and marked. -/
theorem alloc_free (nodup : (ids head).Nodup) (marked : Marked head S)
    (free : ∃ vlan ∈ head, vlan.ucIsUse = false) :
    (allocFirst head).1 ∈ ids head ∧ ¬ S (allocFirst head).1 ∧
      ids (allocFirst head).2 = ids head ∧
      Marked (allocFirst head).2 (fun id => id = (allocFirst head).1 ∨ S id) := by
  induction head with
  | nil => simp at free
  | cons vlan rest ih =>
      have ⟨apart, nodup'⟩ := List.nodup_cons.mp nodup
      have own := marked vlan List.mem_cons_self
      have others : Marked rest S := fun other mem => marked other (List.mem_cons_of_mem _ mem)
      obtain ⟨id, used⟩ := vlan
      cases used
      · have unmarked : ¬ S id := by simpa using own
        refine ⟨List.mem_cons_self, unmarked, rfl, ?_⟩
        intro other mem
        cases mem with
        | head => simp [allocFirst]
        | tail _ mem =>
            have differs : other.wVlanID ≠ id := by
              rintro rfl
              exact apart (List.mem_map.mpr ⟨other, mem, rfl⟩)
            change other.ucIsUse = true ↔ other.wVlanID = id ∨ S other.wVlanID
            rw [others other mem]
            simp [differs]
      · have free' : ∃ vlan ∈ rest, vlan.ucIsUse = false := by simpa using free
        have ⟨mem, unmarked, same, marked'⟩ := ih nodup' others free'
        refine ⟨List.mem_cons_of_mem _ mem, unmarked, congrArg (id :: ·) same, ?_⟩
        intro other mem'
        cases mem' with
        | head =>
            have stays : S id := by simpa using own
            exact ⟨fun _ => .inr stays, fun _ => rfl⟩
        | tail _ mem' => exact marked' other mem'

theorem ids_allocFirst (head : List TagVlanInfo) : ids (allocFirst head).2 = ids head := by
  induction head with
  | nil => rfl
  | cons vlan rest ih =>
      rw [allocFirst]
      split
      · rfl
      · exact congrArg (vlan.wVlanID :: ·) ih

/-- Either a VLAN of the pool is handed out, or the pool has none that is free. -/
theorem alloc_or_full (head : List TagVlanInfo) : (allocFirst head).1 ∈ ids head ∨
    (allocFirst head = (0, head) ∧ ∀ vlan ∈ head, vlan.ucIsUse = true) := by
  induction head with
  | nil => exact .inr ⟨rfl, nofun⟩
  | cons vlan rest ih =>
      obtain ⟨id, used⟩ := vlan
      cases used
      · exact .inl List.mem_cons_self
      · rcases ih with inside | ⟨none, full⟩
        · exact .inl (List.mem_cons_of_mem _ inside)
        · refine .inr ⟨?_, List.forall_mem_cons.mpr ⟨rfl, full⟩⟩
          rw [allocFirst, none]
          rfl

theorem ids_setFirstUsed (wVID : UInt16) : ids (setFirstUsed wVID head) = ids head := by
  induction head with
  | nil => rfl
  | cons vlan rest ih =>
      rw [setFirstUsed]
      split
      · rfl
      · exact congrArg (vlan.wVlanID :: ·) ih

theorem setFirstUsed_marked (wVID : UInt16) (nodup : (ids head).Nodup) (marked : Marked head S) :
    Marked (setFirstUsed wVID head) (fun id => id = wVID ∨ S id) := by
  induction head with
  | nil => exact nofun
  | cons vlan rest ih =>
      have ⟨apart, nodup'⟩ := List.nodup_cons.mp nodup
      have own := marked vlan List.mem_cons_self
      have others : Marked rest S := fun other mem => marked other (List.mem_cons_of_mem _ mem)
      rw [setFirstUsed]
      split
      · next same =>
        intro other mem
        cases mem with
        | head => simp [same]
        | tail _ mem =>
            have differs : other.wVlanID ≠ wVID := by
              intro eq
              exact apart (List.mem_map.mpr ⟨other, mem, eq.trans same⟩)
            rw [others other mem]
            simp [differs]
      · next differs =>
        intro other mem
        cases mem with
        | head =>
            rw [own]
            simp [Ne.symm differs]
        | tail _ mem => exact ih nodup' others other mem

/-- Marks change neither the VLANs nor the range of a pool. -/
theorem foldl_range (last : List TagVlanInfo) : ∀ pool : TagCdcpVlanPool,
    let pool' := last.foldl (fun pool vlan =>
      if vlan.ucIsUse then setVlanUsed pool vlan.wVlanID else pool) pool
    ids pool'.tVlanPoolHead = ids pool.tVlanPoolHead ∧
      pool'.wMinVlanID = pool.wMinVlanID ∧ pool'.wMaxVlanID = pool.wMaxVlanID := by
  induction last with
  | nil => exact fun pool => ⟨rfl, rfl, rfl⟩
  | cons vlan rest ih =>
      intro pool
      rw [List.foldl_cons]
      split
      · have ⟨same, low, high⟩ := ih (setVlanUsed pool vlan.wVlanID)
        exact ⟨same.trans (ids_setFirstUsed _), low, high⟩
      · exact ih pool

/-- Every VLAN in use in one pool is marked in another. -/
theorem foldl_marked (last : List TagVlanInfo) :
    ∀ (pool : TagCdcpVlanPool) (S : UInt16 → Prop), (ids pool.tVlanPoolHead).Nodup →
      Marked pool.tVlanPoolHead S →
      Marked (last.foldl (fun pool vlan =>
          if vlan.ucIsUse then setVlanUsed pool vlan.wVlanID else pool) pool).tVlanPoolHead
        (fun id => (∃ vlan ∈ last, vlan.ucIsUse = true ∧ vlan.wVlanID = id) ∨ S id) := by
  induction last with
  | nil =>
      intro pool S _ marked
      exact marked.congr (by simp)
  | cons vlan rest ih =>
      intro pool S nodup marked
      rw [List.foldl_cons]
      cases used : vlan.ucIsUse
      · have marked' := ih pool S nodup marked
        rw [if_neg (by simp)]
        refine marked'.congr fun id _ => ?_
        simp [used]
      · rw [if_pos rfl]
        have nodup' : (ids (setVlanUsed pool vlan.wVlanID).tVlanPoolHead).Nodup := by
          rw [setVlanUsed, ids_setFirstUsed]
          exact nodup
        have marked' := ih (setVlanUsed pool vlan.wVlanID) _ nodup'
          (setFirstUsed_marked vlan.wVlanID nodup marked)
        refine marked'.congr fun id _ => ?_
        simp only [List.mem_cons, exists_eq_or_imp, used, true_and]
        rw [eq_comm, or_left_comm, or_assoc]

/-- The list of a pool is that of its range. -/
def Ranged (pool : TagCdcpVlanPool) : Prop :=
  ids pool.tVlanPoolHead = ids (vlanRange pool.wMinVlanID pool.wMaxVlanID)

theorem nodup_vlanRange (wMinVlanID wMaxVlanID : UInt16) :
    (ids (vlanRange wMinVlanID wMaxVlanID)).Nodup := by
  have bound := wMaxVlanID.toNat_lt
  rw [ids, vlanRange, List.map_map]
  apply List.Nodup.map_on
  · intro i memi j memj same
    rw [List.mem_range'_1] at memi memj
    have eq := congrArg UInt16.toNat same
    simp only [Function.comp_apply, UInt16.toNat_ofNat'] at eq
    omega
  · exact List.nodup_range'

theorem vlanRange_marked (wMinVlanID wMaxVlanID : UInt16) (none : ∀ id, id ∈
    ids (vlanRange wMinVlanID wMaxVlanID) → ¬ S id) :
    Marked (vlanRange wMinVlanID wMaxVlanID) S := by
  intro vlan mem
  have free : vlan.ucIsUse = false := by
    obtain ⟨i, _, rfl⟩ := List.mem_map.mp mem
    rfl
  have unmarked := none vlan.wVlanID (List.mem_map_of_mem mem)
  simp [free, unmarked]

theorem copyVlanPool_eq (src dest : TagCdcpVlanPool) :
    copyVlanPool src dest = ⟨vlanRange src.wMinVlanID src.wMaxVlanID, src.wMaxVlanID,
      src.wMinVlanID⟩ := by
  rw [copyVlanPool, createVlanPool]
  by_cases empty : dest.tVlanPoolHead.isEmpty = true
  · simp [empty]
  · simp [empty, destroyVlanPool]

theorem setVlanPool_eq {pool : TagCdcpVlanPool} {wMinVID wMaxVID : UInt16}
    (changes : ¬ (wMinVID = pool.wMinVlanID ∧ wMaxVID = pool.wMaxVlanID)) :
    setVlanPool pool wMinVID wMaxVID = ⟨vlanRange wMinVID wMaxVID, wMaxVID, wMinVID⟩ := by
  rw [setVlanPool, if_neg changes, createVlanPool]
  by_cases empty : pool.tVlanPoolHead.isEmpty = true
  · simp [empty]
  · simp [empty, destroyVlanPool]

theorem compareVlanPool_iff {pool₁ pool₂ : TagCdcpVlanPool} :
    compareVlanPool pool₁ pool₂ = true ↔
      pool₁.wMaxVlanID = pool₂.wMaxVlanID ∧ pool₁.wMinVlanID = pool₂.wMinVlanID := by
  simp [compareVlanPool]

end Pools

section Remove

theorem removeInactive_eq (remote : List TagCdcpScidSvidPair) (pool : TagCdcpVlanPool) :
    ∀ pairs, removeInactive remote pairs pool =
      (pairs.filter fun elm => (1 = elm.wScid ∧ 1 = elm.wSvid) ∨
        isInScidSvidList elm remote = true, pool) := by
  intro pairs
  induction pairs with
  | nil => rfl
  | cons elm rest ih =>
      rw [removeInactive, freeSVID_eq, ih]
      split
      · next keeps => rw [List.filter_cons_of_pos (by simpa using keeps)]
      · next goes => rw [List.filter_cons_of_neg (by simpa using goes)]

end Remove

end Tecs.Cdcp
