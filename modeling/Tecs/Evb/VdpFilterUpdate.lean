import Tecs.Evb.VdpFilters

set_option autoImplicit false

/-! The calls to the MAC table when the filter of a VSI is brought up to date. -/

namespace Tecs.Vdp.FilterUpdate

section Definitions

inductive EvbIssMac
  | add | del
deriving Repr, DecidableEq

/-- A call of `evb_SetMacVlan`. -/
structure MacVlanCall where
  port : UInt32
  mac : Vector UInt8 6
  vlan : Fin 4096
  opt : EvbIssMac
deriving Repr, DecidableEq

/-- The group is left out of the call. -/
def notifyMacVlan (port : UInt32) (opt : EvbIssMac) (gmv : TagVdpFltGroupMacVid) : MacVlanCall :=
  ⟨port, gmv.mac, gmv.tag.vid, opt⟩

variable (accepts : TagVdpFltGroupMacVid → Bool)

def addfltGMV (port : UInt32) (lstFlt : List TagVdpFltGroupMacVid) (gmv : TagVdpFltGroupMacVid) :
    Bool × List TagVdpFltGroupMacVid × List MacVlanCall :=
  if lstFlt.any (·.key = gmv.key) then (true, lstFlt, [])
  else (accepts gmv, Ecp.listInsert lstFlt gmv, [notifyMacVlan port .add gmv])

def addLstFlt (port : UInt32) (lstFlt : List TagVdpFltGroupMacVid) :
    List TagVdpFltGroupMacVid → Bool × List TagVdpFltGroupMacVid × List MacVlanCall
  | [] => (true, lstFlt, [])
  | gmv :: rest =>
      match addfltGMV accepts port lstFlt gmv with
      | (true, lstFlt, calls) =>
          let (done, lstFlt, later) := addLstFlt port lstFlt rest
          (done, lstFlt, calls ++ later)
      | (false, lstFlt, calls) => (false, lstFlt, calls)

/-- What a deletion returns is not looked at. -/
def cmpdelLstFlt (port : UInt32) (tmpGMV : List TagVdpFltGroupMacVid) :
    List TagVdpFltGroupMacVid → List TagVdpFltGroupMacVid × List MacVlanCall
  | [] => ([], [])
  | gmv :: rest =>
      let (lstFlt, calls) := cmpdelLstFlt port tmpGMV rest
      if tmpGMV.any (·.key = gmv.key) then (gmv :: lstFlt, calls)
      else (lstFlt, notifyMacVlan port .del gmv :: calls)

/-- Whether all went well, the filters and the calls. -/
structure Added where
  done : Bool
  lstVsiBOutFlt : List TagVsiBOutFilter
  calls : List MacVlanCall

def addvsiID (bigendian : Bool) (port : UInt32) (mgrid : Vector UInt8 16)
    (vdpass : TagVdpTlvVDPAss) (lstVsiBOutFlt : List TagVsiBOutFilter) : Option Added :=
  let key := (port, vdpass.vsiIDFormat, vdpass.vsiID)
  let described (lstFlt : List TagVdpFltGroupMacVid) : TagVsiBOutFilter :=
    { vsiIDFormat := vdpass.vsiIDFormat, vsiID := vdpass.vsiID, port, tlvType := vdpass.tlvType,
      vsiMgrID := mgrid, vsitypeID := vdpass.vsiTypeID, vsitypeVer := vdpass.vsiTypeVer,
      fltFormat := vdpass.fltFormat, lstFlt }
  match vsiBOutFltGetVdpassLstFlt bigendian vdpass with
  | none => none
  | some (rc, tmpGMV) =>
      match KeyedList.lookup TagVsiBOutFilter.key key lstVsiBOutFlt with
      | none =>
          if rc ≠ 0 then some ⟨false, Ecp.listInsert lstVsiBOutFlt (described []), []⟩
          else
            let (done, lstFlt, calls) := addLstFlt accepts port [] tmpGMV
            some ⟨done, Ecp.listInsert lstVsiBOutFlt (described lstFlt), calls⟩
      | some pVsi =>
          let change (lstFlt : List TagVdpFltGroupMacVid) : List TagVsiBOutFilter :=
            KeyedList.replace TagVsiBOutFilter.key key
              (fun pVsi => { described lstFlt with
                vsiIDFormat := pVsi.vsiIDFormat
                vsiID := pVsi.vsiID
                port := pVsi.port }) lstVsiBOutFlt
          if rc ≠ 0 then some ⟨false, change pVsi.lstFlt, []⟩
          else
            let (lstFlt, removals) := cmpdelLstFlt port tmpGMV pVsi.lstFlt
            let (done, lstFlt, additions) := addLstFlt accepts port lstFlt tmpGMV
            some ⟨done, change lstFlt, removals ++ additions⟩

/-- The entries of a VSI. -/
def entriesOf (key : FilterKey) (lstVsiBOutFlt : List TagVsiBOutFilter) :
    List TagVdpFltGroupMacVid :=
  ((KeyedList.lookup TagVsiBOutFilter.key key lstVsiBOutFlt).map (·.lstFlt)).getD []

/-- The groups, MAC addresses and VLANs of some entries. -/
abbrev keysOf (gmvs : List TagVdpFltGroupMacVid) :
    List (Vector UInt8 4 × Vector UInt8 6 × Fin 4096) :=
  gmvs.map (·.key)

/-- Another VSI of the port has an entry for a MAC address in a VLAN. -/
def NeededElsewhere (key : FilterKey) (lstVsiBOutFlt : List TagVsiBOutFilter) (port : UInt32)
    (mac : Vector UInt8 6) (vlan : Fin 4096) : Prop :=
  ∃ flt ∈ lstVsiBOutFlt, flt.key ≠ key ∧ flt.port = port ∧
    ∃ gmv ∈ flt.lstFlt, gmv.mac = mac ∧ gmv.tag.vid = vlan

/-- The entries are those of the TLV, and the MAC table was told what changed and nothing else. -/
structure Updated (key : FilterKey) (tmpGMV old : List TagVdpFltGroupMacVid) (added : Added) :
    Prop where
  entries : ∀ k, k ∈ keysOf (entriesOf key added.lstVsiBOutFlt) ↔ k ∈ keysOf tmpGMV
  issued : ∃ removals additions : List TagVdpFltGroupMacVid,
    added.calls = removals.map (notifyMacVlan key.1 .del) ++
      additions.map (notifyMacVlan key.1 .add) ∧
    (∀ k, k ∈ keysOf removals ↔ k ∈ keysOf old ∧ k ∉ keysOf tmpGMV) ∧
    (∀ k, k ∈ keysOf additions ↔ k ∈ keysOf tmpGMV ∧ k ∉ keysOf old) ∧
    (keysOf additions).Nodup
  shared : ∀ call ∈ added.calls, call.opt = .del →
    ¬NeededElsewhere key added.lstVsiBOutFlt call.port call.mac call.vlan

/-- What an update should do: all of it or, where it fails, nothing to the entries. -/
def UpdatesFilter (bigendian : Bool) (port : UInt32) (mgrid : Vector UInt8 16)
    (vdpass : TagVdpTlvVDPAss) (lstVsiBOutFlt : List TagVsiBOutFilter) : Prop :=
  ∀ rc tmpGMV added, vsiBOutFltGetVdpassLstFlt bigendian vdpass = some (rc, tmpGMV) →
    addvsiID accepts bigendian port mgrid vdpass lstVsiBOutFlt = some added →
    let key := (port, vdpass.vsiIDFormat, vdpass.vsiID)
    (added.done = true → Updated key tmpGMV (entriesOf key lstVsiBOutFlt) added) ∧
    (added.done = false → entriesOf key added.lstVsiBOutFlt = entriesOf key lstVsiBOutFlt)

/-- The entries that are not known yet, each once. -/
def newEntries (known : List (Vector UInt8 4 × Vector UInt8 6 × Fin 4096)) :
    List TagVdpFltGroupMacVid → List TagVdpFltGroupMacVid
  | [] => []
  | gmv :: rest =>
      if gmv.key ∈ known then newEntries known rest
      else gmv :: newEntries (gmv.key :: known) rest

end Definitions

section Loops

variable {accepts : TagVdpFltGroupMacVid → Bool} {port : UInt32}
  {lstFlt tmpGMV : List TagVdpFltGroupMacVid}

theorem cmpdelLstFlt_eq : cmpdelLstFlt port tmpGMV lstFlt =
    (vsiBOutFltCmpdelLstFlt lstFlt tmpGMV,
      (lstFlt.filter fun gmv => gmv.key ∉ keysOf tmpGMV).map (notifyMacVlan port .del)) := by
  induction lstFlt with
  | nil => rfl
  | cons gmv rest ih =>
      rw [cmpdelLstFlt, ih, vsiBOutFltCmpdelLstFlt, vsiBOutFltCmpdelLstFlt]
      dsimp only
      by_cases asked : tmpGMV.any (·.key = gmv.key) = true
      · have there : gmv.key ∈ keysOf tmpGMV := any_key.mp asked
        have stays : (fun gmv => tmpGMV.any (·.key = gmv.key)) gmv = true := asked
        rw [if_pos asked, List.filter_cons_of_pos (a := gmv) stays,
          List.filter_cons_of_neg (by simpa using there)]
      · have absent : gmv.key ∉ keysOf tmpGMV := fun there => asked (any_key.mpr there)
        have goes : ¬(fun gmv => tmpGMV.any (·.key = gmv.key)) gmv = true := asked
        rw [if_neg asked, List.filter_cons_of_neg (a := gmv) goes,
          List.filter_cons_of_pos (by simpa using absent), List.map_cons]

theorem mem_newEntries {known : List (Vector UInt8 4 × Vector UInt8 6 × Fin 4096)} (k) :
    k ∈ keysOf (newEntries known tmpGMV) ↔ k ∈ keysOf tmpGMV ∧ k ∉ known := by
  induction tmpGMV generalizing known with
  | nil => simp [newEntries]
  | cons gmv rest ih =>
      rw [newEntries, keysOf, keysOf, List.map_cons, List.mem_cons]
      by_cases there : gmv.key ∈ known
      · rw [if_pos there, ih]
        constructor
        · rintro ⟨later, new⟩
          exact ⟨.inr later, new⟩
        · rintro ⟨rfl | later, new⟩
          · exact absurd there new
          · exact ⟨later, new⟩
      · rw [if_neg there, List.map_cons, List.mem_cons, ih, List.mem_cons, not_or]
        constructor
        · rintro (rfl | ⟨later, -, new⟩)
          · exact ⟨.inl rfl, there⟩
          · exact ⟨.inr later, new⟩
        · rintro ⟨rfl | later, new⟩
          · exact .inl rfl
          · by_cases same : k = gmv.key
            · exact .inl same
            · exact .inr ⟨later, same, new⟩

theorem nodup_newEntries {known : List (Vector UInt8 4 × Vector UInt8 6 × Fin 4096)} :
    (keysOf (newEntries known tmpGMV)).Nodup := by
  induction tmpGMV generalizing known with
  | nil => exact List.nodup_nil
  | cons gmv rest ih =>
      rw [newEntries]
      by_cases there : gmv.key ∈ known
      · rw [if_pos there]
        exact ih
      · rw [if_neg there, keysOf, List.map_cons, List.nodup_cons]
        refine ⟨fun again => ?_, ih⟩
        exact ((mem_newEntries gmv.key).mp again).2 List.mem_cons_self

/-- Only which keys are known matters. -/
theorem newEntries_congr {known other : List (Vector UInt8 4 × Vector UInt8 6 × Fin 4096)}
    (same : ∀ k ∈ keysOf tmpGMV, k ∈ known ↔ k ∈ other) :
    newEntries known tmpGMV = newEntries other tmpGMV := by
  induction tmpGMV generalizing known other with
  | nil => rfl
  | cons gmv rest ih =>
      have here := same gmv.key List.mem_cons_self
      have later : ∀ k ∈ keysOf rest, k ∈ known ↔ k ∈ other :=
        fun k mem => same k (List.mem_cons_of_mem _ mem)
      rw [newEntries, newEntries]
      by_cases there : gmv.key ∈ known
      · rw [if_pos there, if_pos (here.mp there), ih later]
      · rw [if_neg there, if_neg (mt here.mpr there)]
        congr 1
        apply ih
        intro k mem
        rw [List.mem_cons, List.mem_cons, later k mem]

/-- The loop over the entries of the TLV: the new ones are added, up to the first refused one. -/
theorem addLstFlt_eq (accepts : TagVdpFltGroupMacVid → Bool) (port : UInt32)
    (lstFlt tmpGMV : List TagVdpFltGroupMacVid) :
    (∀ gmv ∈ newEntries (keysOf lstFlt) tmpGMV, accepts gmv = true) ∧
      addLstFlt accepts port lstFlt tmpGMV =
        (true, (newEntries (keysOf lstFlt) tmpGMV).reverse ++ lstFlt,
          (newEntries (keysOf lstFlt) tmpGMV).map (notifyMacVlan port .add)) ∨
    (∃ gmv ∈ newEntries (keysOf lstFlt) tmpGMV, accepts gmv = false) ∧
      ∃ lstFlt' calls, addLstFlt accepts port lstFlt tmpGMV = (false, lstFlt', calls) ∧
        ∃ gmv ∈ lstFlt', gmv ∈ tmpGMV ∧ gmv.key ∉ keysOf lstFlt := by
  induction tmpGMV generalizing lstFlt with
  | nil => exact .inl ⟨fun gmv mem => absurd mem List.not_mem_nil, rfl⟩
  | cons gmv rest ih =>
      rw [newEntries, addLstFlt, addfltGMV]
      by_cases known : lstFlt.any (·.key = gmv.key) = true
      · have there : gmv.key ∈ keysOf lstFlt := any_key.mp known
        rw [if_pos known, if_pos there]
        dsimp only
        rw [List.nil_append]
        refine (ih lstFlt).imp id ?_
        rintro ⟨refused, lstFlt', calls, eq, late, there, asked, fresh⟩
        exact ⟨refused, lstFlt', calls, eq, late, there, List.mem_cons_of_mem _ asked, fresh⟩
      · have new : gmv.key ∉ keysOf lstFlt := fun there => known (any_key.mpr there)
        rw [if_neg known, if_neg new, Ecp.listInsert_eq]
        cases accepted : accepts gmv with
        | false =>
            exact .inr ⟨⟨gmv, List.mem_cons_self, accepted⟩, _, _, rfl, gmv, List.mem_cons_self,
              List.mem_cons_self, new⟩
        | true =>
            dsimp only
            have next := ih (gmv :: lstFlt)
            rw [keysOf, List.map_cons] at next
            rcases next with
              ⟨all, eq⟩ | ⟨⟨other, mem, refused⟩, lstFlt', calls, eq, late, there, asked, fresh⟩
            · refine .inl ⟨List.forall_mem_cons.mpr ⟨accepted, all⟩, ?_⟩
              rw [eq]
              simp
            · refine .inr ⟨⟨other, List.mem_cons_of_mem _ mem, refused⟩, ?_⟩
              rw [eq]
              exact ⟨lstFlt', _, rfl, late, there, List.mem_cons_of_mem _ asked,
                fun old => fresh (List.mem_cons_of_mem _ old)⟩

/-- The loop is the one of the bridge, with its calls. -/
theorem addLstFlt_forget (port : UInt32) : vsiBOutFltAddLstFlt accepts lstFlt tmpGMV =
    ((addLstFlt accepts port lstFlt tmpGMV).1, (addLstFlt accepts port lstFlt tmpGMV).2.1) := by
  induction tmpGMV generalizing lstFlt with
  | nil => rfl
  | cons gmv rest ih =>
      rw [vsiBOutFltAddLstFlt, addLstFlt, vsiBOutFltAddfltGMV, addfltGMV]
      by_cases known : lstFlt.any (·.key = gmv.key) = true
      · rw [if_pos known, if_pos known]
        exact ih
      · rw [if_neg known, if_neg known]
        cases accepts gmv
        · rfl
        · exact ih

end Loops

section Main

variable {accepts : TagVdpFltGroupMacVid → Bool} {bigendian : Bool} {port : UInt32}
  {mgrid : Vector UInt8 16} {vdpass : TagVdpTlvVDPAss} {flts : List TagVsiBOutFilter}
  {key : FilterKey} {tmpGMV : List TagVdpFltGroupMacVid}

theorem neededElsewhere_congr {flts' : List TagVsiBOutFilter}
    (same : ∀ flt : TagVsiBOutFilter, flt.key ≠ key → (flt ∈ flts' ↔ flt ∈ flts)) (port : UInt32)
    (mac : Vector UInt8 6) (vlan : Fin 4096) :
    NeededElsewhere key flts' port mac vlan ↔ NeededElsewhere key flts port mac vlan := by
  constructor
  · rintro ⟨flt, mem, apart, rest⟩
    exact ⟨flt, (same flt apart).mp mem, apart, rest⟩
  · rintro ⟨flt, mem, apart, rest⟩
    exact ⟨flt, (same flt apart).mpr mem, apart, rest⟩

/-- What an update does to the filters: those of other VSIs stay. -/
structure Changed (key : FilterKey) (lstFlt : List TagVdpFltGroupMacVid)
    (flts flts' : List TagVsiBOutFilter) : Prop where
  entries : entriesOf key flts' = lstFlt
  others : ∀ flt : TagVsiBOutFilter, flt.key ≠ key → (flt ∈ flts' ↔ flt ∈ flts)

theorem changed_front {flt : TagVsiBOutFilter} {lstFlt : List TagVdpFltGroupMacVid}
    (own : flt.key = key) (entries : flt.lstFlt = lstFlt) :
    Changed key lstFlt flts (Ecp.listInsert flts flt) := by
  rw [Ecp.listInsert_eq]
  constructor
  · rw [entriesOf, KeyedList.lookup_cons, if_pos own]
    exact entries
  · intro other apart
    rw [List.mem_cons]
    refine or_iff_right fun same => apart ?_
    rw [same, own]

theorem changed_over {f : TagVsiBOutFilter → TagVsiBOutFilter} {old : TagVsiBOutFilter}
    {lstFlt : List TagVdpFltGroupMacVid}
    (present : KeyedList.lookup TagVsiBOutFilter.key key flts = some old)
    (kept : ∀ flt, (f flt).key = flt.key) (entries : (f old).lstFlt = lstFlt) :
    Changed key lstFlt flts (KeyedList.replace TagVsiBOutFilter.key key f flts) := by
  constructor
  · rw [entriesOf, KeyedList.lookup_replace_self kept, present]
    exact entries
  · exact fun flt apart => KeyedList.mem_replace_other kept apart

/-- A TLV that cannot be read leaves the entries. -/
theorem addvsiID_failed (accepts : TagVdpFltGroupMacVid → Bool) (port : UInt32)
    (mgrid : Vector UInt8 16) (flts : List TagVsiBOutFilter) {rc : ℤ} (failed : rc ≠ 0)
    (decoded : vsiBOutFltGetVdpassLstFlt bigendian vdpass = some (rc, tmpGMV)) :
    ∃ flts', addvsiID accepts bigendian port mgrid vdpass flts = some ⟨false, flts', []⟩ ∧
      Changed (port, vdpass.vsiIDFormat, vdpass.vsiID)
        (entriesOf (port, vdpass.vsiIDFormat, vdpass.vsiID) flts) flts flts' := by
  rw [addvsiID, decoded]
  simp only [if_pos failed]
  cases present : KeyedList.lookup TagVsiBOutFilter.key
      (port, vdpass.vsiIDFormat, vdpass.vsiID) flts with
  | none =>
      have none : entriesOf (port, vdpass.vsiIDFormat, vdpass.vsiID) flts = [] := by
        rw [entriesOf, present]
        rfl
      rw [none]
      refine ⟨_, rfl, changed_front ?_ ?_⟩ <;> rfl
  | some old =>
      have entries : entriesOf (port, vdpass.vsiIDFormat, vdpass.vsiID) flts = old.lstFlt := by
        rw [entriesOf, present]
        rfl
      rw [entries]
      refine ⟨_, rfl, changed_over present ?_ ?_⟩
      · exact fun flt => rfl
      · rfl

/-- What the update does with the entries of a TLV. -/
theorem addvsiID_decoded (accepts : TagVdpFltGroupMacVid → Bool) (port : UInt32)
    (mgrid : Vector UInt8 16) (flts : List TagVsiBOutFilter)
    (decoded : vsiBOutFltGetVdpassLstFlt bigendian vdpass = some (0, tmpGMV)) :
    let key := (port, vdpass.vsiIDFormat, vdpass.vsiID)
    let old := entriesOf key flts
    let result := addLstFlt accepts port (vsiBOutFltCmpdelLstFlt old tmpGMV) tmpGMV
    ∃ flts', addvsiID accepts bigendian port mgrid vdpass flts =
        some ⟨result.1, flts', (old.filter fun gmv => gmv.key ∉ keysOf tmpGMV).map
          (notifyMacVlan port .del) ++ result.2.2⟩ ∧
      Changed key result.2.1 flts flts' := by
  intro key old result
  rw [addvsiID, decoded]
  simp only [ne_eq, not_true_eq_false, if_false]
  cases present : KeyedList.lookup TagVsiBOutFilter.key
      (port, vdpass.vsiIDFormat, vdpass.vsiID) flts with
  | none =>
      have none : old = [] := by
        change entriesOf key flts = []
        rw [entriesOf, present]
        rfl
      have same : result = addLstFlt accepts port [] tmpGMV := by
        change addLstFlt accepts port (vsiBOutFltCmpdelLstFlt old tmpGMV) tmpGMV = _
        rw [none]
        rfl
      rw [same, none]
      refine ⟨_, rfl, changed_front ?_ ?_⟩ <;> rfl
  | some pVsi =>
      have entries : old = pVsi.lstFlt := by
        change entriesOf key flts = _
        rw [entriesOf, present]
        rfl
      have same : result =
          addLstFlt accepts port (vsiBOutFltCmpdelLstFlt pVsi.lstFlt tmpGMV) tmpGMV := by
        change addLstFlt accepts port (vsiBOutFltCmpdelLstFlt old tmpGMV) tmpGMV = _
        rw [entries]
      rw [same, entries]
      dsimp only
      rw [cmpdelLstFlt_eq]
      refine ⟨_, rfl, changed_over present ?_ ?_⟩
      · exact fun flt => rfl
      · rfl

/-- The update is the one of the bridge, with its calls. -/
theorem addvsiID_forget (accepts : TagVdpFltGroupMacVid → Bool) (bigendian : Bool) (port : UInt32)
    (mgrid : Vector UInt8 16) (vdpass : TagVdpTlvVDPAss) (flts : List TagVsiBOutFilter) :
    vsiBOutFltAddvsiID accepts bigendian port mgrid vdpass flts =
      (addvsiID accepts bigendian port mgrid vdpass flts).map
        fun added => (added.done, added.lstVsiBOutFlt) := by
  rw [vsiBOutFltAddvsiID, addvsiID]
  cases vsiBOutFltGetVdpassLstFlt bigendian vdpass with
  | none => rfl
  | some result =>
      obtain ⟨rc, tmpGMV⟩ := result
      cases KeyedList.lookup TagVsiBOutFilter.key (port, vdpass.vsiIDFormat, vdpass.vsiID) flts with
      | none =>
          dsimp only
          split
          · rfl
          · rw [addLstFlt_forget port]
            rfl
      | some pVsi =>
          dsimp only
          split
          · rfl
          · rw [cmpdelLstFlt_eq, addLstFlt_forget port]
            rfl

/-- When an update does what it should. -/
theorem addvsiID_updates_iff (accepts : TagVdpFltGroupMacVid → Bool) (bigendian : Bool)
    (port : UInt32) (mgrid : Vector UInt8 16) (vdpass : TagVdpTlvVDPAss)
    (flts : List TagVsiBOutFilter) :
    UpdatesFilter accepts bigendian port mgrid vdpass flts ↔
      ∀ tmpGMV, vsiBOutFltGetVdpassLstFlt bigendian vdpass = some (0, tmpGMV) →
        (∀ gmv ∈ newEntries
            (keysOf (entriesOf (port, vdpass.vsiIDFormat, vdpass.vsiID) flts)) tmpGMV,
          accepts gmv = true) ∧
        ∀ gmv ∈ entriesOf (port, vdpass.vsiIDFormat, vdpass.vsiID) flts,
          gmv.key ∉ keysOf tmpGMV →
            ¬NeededElsewhere (port, vdpass.vsiIDFormat, vdpass.vsiID) flts port gmv.mac
              gmv.tag.vid := by
  have known (tmpGMV : List TagVdpFltGroupMacVid) : newEntries (keysOf (vsiBOutFltCmpdelLstFlt
      (entriesOf (port, vdpass.vsiIDFormat, vdpass.vsiID) flts) tmpGMV)) tmpGMV =
      newEntries (keysOf (entriesOf (port, vdpass.vsiIDFormat, vdpass.vsiID) flts)) tmpGMV := by
    apply newEntries_congr
    intro k asked
    rw [keys_cmpdelLstFlt]
    exact and_iff_left asked
  constructor
  · intro updates tmpGMV decoded
    -- what is issued for the entries that go is in the calls
    obtain ⟨flts', eq, changed⟩ := addvsiID_decoded accepts port mgrid flts decoded
    have outcome := updates 0 tmpGMV _ decoded eq
    rcases addLstFlt_eq accepts port (vsiBOutFltCmpdelLstFlt
      (entriesOf (port, vdpass.vsiIDFormat, vdpass.vsiID) flts) tmpGMV) tmpGMV with
      ⟨all, result⟩ | ⟨-, lstFlt', calls, result, gmv, late, asked, fresh⟩
    · rw [result] at outcome changed
      refine ⟨known tmpGMV ▸ all, fun gmv mem gone needed => ?_⟩
      have updated := outcome.1 rfl
      have issued : notifyMacVlan port .del gmv ∈
          ((entriesOf (port, vdpass.vsiIDFormat, vdpass.vsiID) flts).filter
            fun gmv => gmv.key ∉ keysOf tmpGMV).map (notifyMacVlan port .del) :=
        List.mem_map_of_mem (List.mem_filter.mpr ⟨mem, by simpa using gone⟩)
      have absent := updated.shared _ (List.mem_append_left _ issued) rfl
      rw [neededElsewhere_congr changed.others] at absent
      exact absent needed
    · rw [result] at outcome changed
      have same := outcome.2 rfl
      rw [changed.entries] at same
      have old : gmv.key ∈ keysOf (entriesOf (port, vdpass.vsiIDFormat, vdpass.vsiID) flts) :=
        List.mem_map_of_mem (same ▸ late)
      exact absurd ((keys_cmpdelLstFlt gmv.key).mpr ⟨old, List.mem_map_of_mem asked⟩) fresh
  · intro condition rc tmpGMV added decoded eq
    by_cases failed : rc = 0
    · subst failed
      have ⟨accepted, unshared⟩ := condition tmpGMV decoded
      obtain ⟨flts', eq', changed⟩ := addvsiID_decoded accepts port mgrid flts decoded
      obtain rfl := Option.some.inj (eq.symm.trans eq')
      rcases addLstFlt_eq accepts port (vsiBOutFltCmpdelLstFlt
        (entriesOf (port, vdpass.vsiIDFormat, vdpass.vsiID) flts) tmpGMV) tmpGMV with
        ⟨-, result⟩ | ⟨⟨gmv, mem, refused⟩, -⟩
      · rw [result, known] at changed
        rw [result, known]
        refine ⟨fun _ => ⟨fun k => ?_, ?_, ?_⟩, fun failed => Bool.noConfusion failed⟩
        · rw [changed.entries, keysOf, List.map_append, List.map_reverse, List.mem_append,
            List.mem_reverse, mem_newEntries, keys_cmpdelLstFlt]
          constructor
          · rintro (⟨asked, -⟩ | ⟨-, asked⟩)
            · exact asked
            · exact asked
          · intro asked
            by_cases old : k ∈ keysOf (entriesOf (port, vdpass.vsiIDFormat, vdpass.vsiID) flts)
            · exact .inr ⟨old, asked⟩
            · exact .inl ⟨asked, old⟩
        · refine ⟨_, _, rfl, fun k => ?_, fun k => mem_newEntries k, nodup_newEntries⟩
          constructor
          · intro gone
            obtain ⟨gmv, mem, rfl⟩ := List.mem_map.mp gone
            have ⟨old, absent⟩ := List.mem_filter.mp mem
            exact ⟨List.mem_map_of_mem old, of_decide_eq_true absent⟩
          · rintro ⟨old, absent⟩
            obtain ⟨gmv, mem, rfl⟩ := List.mem_map.mp old
            exact List.mem_map_of_mem (List.mem_filter.mpr ⟨mem, decide_eq_true absent⟩)
        · intro call issued del
          rw [neededElsewhere_congr changed.others]
          rcases List.mem_append.mp issued with removal | addition
          · obtain ⟨gmv, mem, rfl⟩ := List.mem_map.mp removal
            have ⟨old, absent⟩ := List.mem_filter.mp mem
            exact unshared gmv old (of_decide_eq_true absent)
          · obtain ⟨gmv, -, rfl⟩ := List.mem_map.mp addition
            cases del
      · rw [known] at mem
        rw [accepted gmv mem] at refused
        cases refused
    · obtain ⟨flts', eq', changed⟩ := addvsiID_failed accepts port mgrid flts failed decoded
      obtain rfl := Option.some.inj (eq.symm.trans eq')
      exact ⟨fun done => Bool.noConfusion done, fun _ => changed.entries⟩

/-- A VSI of port 7 with one entry. -/
def exampleFlt (id : UInt8) : TagVsiBOutFilter :=
  ⟨5, .replicate 16 id, 7, 3, .replicate 16 2, .replicate 3 3, 4, 1,
    [⟨.replicate 4 0, .replicate 6 0, ⟨0, 0, 100⟩⟩]⟩

/-- A TLV without entries. -/
def exampleEmpty : TagVdpTlvVDPAss :=
  ⟨3, 25, 0, .replicate 3 3, 4, 5, .replicate 16 1, 1, [0, 0]⟩

/-- An entry is removed that the second VSI still needs. -/
theorem shared_entry_removed :
    ¬UpdatesFilter (fun _ => true) false 7 (.replicate 16 2) exampleEmpty
      [exampleFlt 1, exampleFlt 9] := by
  intro updates
  have decoded : vsiBOutFltGetVdpassLstFlt false exampleEmpty = some (0, []) := by decide
  have eq : addvsiID (fun _ => true) false 7 (.replicate 16 2) exampleEmpty
      [exampleFlt 1, exampleFlt 9] = some ⟨true, [{ exampleFlt 1 with lstFlt := [] }, exampleFlt 9],
        [⟨7, .replicate 6 0, 100, .del⟩]⟩ := rfl
  have updated := (updates 0 [] _ decoded eq).1 rfl
  refine updated.shared _ List.mem_cons_self rfl ⟨exampleFlt 9, ?_, ?_, rfl, _, List.mem_cons_self,
    rfl, rfl⟩
  · exact List.mem_cons_of_mem _ List.mem_cons_self
  · decide

end Main

end Tecs.Vdp.FilterUpdate
