import Tecs.Vnm.VlanPool

set_option autoImplicit false

/-! What one call does to the tables of the VLAN ids. -/

namespace Tecs.VlanPool

theorem fold_update (list : List ℕ) (value : VlanStatus) :
    ∀ status : ℕ → VlanStatus, ∀ v,
      list.foldl (fun status i => Function.update status i value) status v =
        if v ∈ list then value else status v := by
  induction list with
  | nil => simp
  | cons i rest ih =>
      intro status v
      rw [List.foldl_cons, ih, Function.update_apply]
      by_cases later : v ∈ rest
      · simp [later]
      · simp [later]

theorem fold_ranges (vecVlanRange : List TVlanRangeItem) : ∀ status : ℕ → VlanStatus, ∀ v,
    vecVlanRange.foldl (fun vecVlanStatus row =>
      (List.range' row.dwVlanIDStart.toNat
        (row.dwVlanIDEnd.toNat + 1 - row.dwVlanIDStart.toNat)).foldl
        (fun vecVlanStatus i => Function.update vecVlanStatus i .usable) vecVlanStatus) status v =
      if Ranged vecVlanRange v then .usable else status v := by
  induction vecVlanRange with
  | nil => simp [Ranged]
  | cons row rest ih =>
      intro status v
      have inside : v ∈ List.range' row.dwVlanIDStart.toNat
          (row.dwVlanIDEnd.toNat + 1 - row.dwVlanIDStart.toNat) ↔
          row.dwVlanIDStart.toNat ≤ v ∧ v ≤ row.dwVlanIDEnd.toNat := by
        rw [List.mem_range'_1]
        omega
      have split : Ranged (row :: rest) v ↔
          (row.dwVlanIDStart.toNat ≤ v ∧ v ≤ row.dwVlanIDEnd.toNat) ∨ Ranged rest v := by
        simp [Ranged]
      rw [List.foldl_cons, ih, fold_update]
      simp only [inside, split]
      by_cases later : Ranged rest v
      · simp [later]
      · simp [later]

/-- The number of the netplane that the pool of a call has as usable. -/
def Usable (net : Network) (db : Tables) (np : String) (v : ℕ) : Prop :=
  init (net.vlanRange np) (db.vlanPool.filter (·.netplaneUuid = np)) v = .usable

theorem usable_iff {net : Network} {db : Tables} {np : String} {v : ℕ} : Usable net db np v ↔
    Ranged (net.vlanRange np) v ∧ ∀ row ∈ db.vlanPool, row.netplaneUuid = np → row.vlanNum ≠ v := by
  have used : ∀ (rows : List CDbNetplaneVlanPool) (status : ℕ → VlanStatus),
      rows.foldl (fun vecVlanStatus row => Function.update vecVlanStatus row.vlanNum .used)
        status v =
        if v ∈ rows.map (·.vlanNum) then .used else status v := by
    intro rows status
    rw [← fold_update (rows.map (·.vlanNum)), List.foldl_map]
  have mem_used : v ∈ (db.vlanPool.filter (·.netplaneUuid = np)).map (·.vlanNum) ↔
      ∃ row ∈ db.vlanPool, row.netplaneUuid = np ∧ row.vlanNum = v := by
    simp [and_assoc]
  rw [Usable, init, used, fold_ranges]
  constructor
  · intro usable
    split at usable
    · cases usable
    · rename_i unused
      split at usable
      · rename_i ranged
        exact ⟨ranged, fun row mem own same => unused (mem_used.mpr ⟨row, mem, own, same⟩)⟩
      · cases usable
  · rintro ⟨ranged, unused⟩
    rw [if_neg, if_pos ranged]
    intro found
    obtain ⟨row, mem, own, same⟩ := mem_used.mp found
    exact unused row mem own same

theorem Network.ranged_bounds (net : Network) {np : String} {v : ℕ}
    (ranged : Ranged (net.vlanRange np) v) : 2 ≤ v ∧ v ≤ 4094 := by
  obtain ⟨row, mem, low, high⟩ := ranged
  have accepted := net.ranges_accepted np row mem
  simp only [VlanPoolMgr.checkAddVlanRange, Bool.and_eq_true, decide_eq_true_eq,
    UInt32.le_iff_toNat_le, ge_iff_le, UInt32.reduceToNat] at accepted
  omega

theorem firstUsable_some {status : ℕ → VlanStatus} {v : ℕ} (first : firstUsable status = some v) :
    status v = .usable ∧ ∀ u, 2 ≤ u → u < v → status u ≠ .usable := by
  rw [firstUsable, List.find?_range'_eq_some] at first
  obtain ⟨usable, -, before⟩ := first
  refine ⟨by simpa using usable, fun u low less => ?_⟩
  simpa using before u low less

theorem firstUsable_none {status : ℕ → VlanStatus} (ended : firstUsable status = none) {v : ℕ}
    (low : 2 ≤ v) (high : v ≤ 4094) : status v ≠ .usable := by
  rw [firstUsable, List.find?_eq_none] at ended
  have mem : v ∈ List.range' VNET_MIN_MAP_VLAN_ID
      (VNET_MAX_MAP_VLAN_ID + 1 - VNET_MIN_MAP_VLAN_ID) := by
    rw [List.mem_range'_1, VNET_MIN_MAP_VLAN_ID, VNET_MAX_MAP_VLAN_ID]
    omega
  simpa using ended v mem

/-- The owners of an id are the port groups of one project with one isolation number: this pair is
the key under which a call looks for an id of the netplane. -/
def Holds (db : Tables) (np : String) (key : Int64 × Int) (v : ℕ) : Prop :=
  ∃ m ∈ db.vlanMap, ∃ row ∈ db.vlanPool, row.id = m.vlanId ∧ (m.projectId, m.isolateNo) = key ∧
    row.netplaneUuid = np ∧ row.vlanNum = v

/-- A private port group in access mode with VLAN isolation, its netplane and its number. -/
structure Serves (net : Network) (pg np : String) (iso : Int) : Prop where
  group : ∃ row, net.portGroup pg = some row ∧ row.switchportMode = EN_SWITCHPORT_MODE_ACCESS ∧
    row.pgType = EN_PORTGROUP_TYPE_VM_PRIVATE ∧ row.isolateType = EN_ISOLATE_TYPE_VLAN ∧
    row.accessIsolateNo = iso ∧ row.netplaneUuid = some np
  named : pg ≠ ""
  plane : np ≠ ""

/-- What holds of the tables whatever statements failed. -/
structure Sound (net : Network) (db : Tables) : Prop where
  ids : ∀ row ∈ db.vlanPool, ∀ other ∈ db.vlanPool, row.id = other.id → row = other
  below : ∀ row ∈ db.vlanPool, row.id < db.serialVlanPool
  nums : ∀ row ∈ db.vlanPool, ∀ other ∈ db.vlanPool, row.netplaneUuid = other.netplaneUuid →
    row.vlanNum = other.vlanNum → row = other
  accepted : ∀ row ∈ db.vlanPool, row.netplaneUuid ∈ net.netplane ∧
    Ranged (net.vlanRange row.netplaneUuid) row.vlanNum
  owned : ∀ m ∈ db.vlanMap, ∃ row ∈ db.vlanPool, row.id = m.vlanId ∧
    Serves net m.pgUuid row.netplaneUuid m.isolateNo
  keyed : ∀ np k k' v v', Holds db np k v → Holds db np k' v' → (v = v' ↔ k = k')

theorem Serves.unique {net : Network} {pg np np' : String} {iso iso' : Int}
    (serves : Serves net pg np iso) (other : Serves net pg np' iso') : np = np' ∧ iso = iso' := by
  obtain ⟨row, found, -, -, -, number, plane⟩ := serves.group
  obtain ⟨row', found', -, -, -, number', plane'⟩ := other.group
  have same : row = row' := Option.some.inj (found.symm.trans found')
  subst same
  exact ⟨Option.some.inj (plane.symm.trans plane'), number.symm.trans number'⟩

theorem sound_empty (net : Network) : Sound net .empty where
  ids row mem := by cases mem
  below row mem := by cases mem
  nums row mem := by cases mem
  accepted row mem := by cases mem
  owned m mem := by cases mem
  keyed np k k' v v' holds := by
    obtain ⟨m, mem, -⟩ := holds
    cases mem

section Writes

variable {net : Network} {db : Tables}

theorem Sound.holds_row (sound : Sound net db) {m : CDbVlanMap} (mem : m ∈ db.vlanMap)
    {row : CDbNetplaneVlanPool} (stored : row ∈ db.vlanPool) (refers : row.id = m.vlanId) :
    Holds db row.netplaneUuid (m.projectId, m.isolateNo) row.vlanNum ∧
      Serves net m.pgUuid row.netplaneUuid m.isolateNo := by
  refine ⟨⟨m, mem, row, stored, refers, rfl, rfl, rfl⟩, ?_⟩
  obtain ⟨other, memO, refersO, serves⟩ := sound.owned m mem
  have same : other = row := sound.ids other memO row stored (refersO.trans refers.symm)
  exact same ▸ serves

/-- A new row of the pool is referred to by nothing. -/
theorem Sound.holds_addPool (sound : Sound net db) (np : String) (v : ℕ) {np' : String}
    {k : Int64 × Int} {u : ℕ} : Holds (db.addPool np v) np' k u ↔ Holds db np' k u := by
  constructor
  · rintro ⟨m, mem, row, stored, refers, rest⟩
    obtain ⟨old, memOld, refersOld, -⟩ := sound.owned m mem
    refine ⟨m, mem, row, ?_, refers, rest⟩
    rcases List.mem_append.mp stored with stored | new
    · exact stored
    · have number : row.id = db.serialVlanPool := by
        rw [List.mem_singleton.mp new]
      have under := sound.below old memOld
      omega
  · rintro ⟨m, mem, row, stored, rest⟩
    exact ⟨m, mem, row, List.mem_append_left _ stored, rest⟩

theorem Sound.addPool (sound : Sound net db) {np : String} {v : ℕ} (known : np ∈ net.netplane)
    (usable : Usable net db np v) : Sound net (db.addPool np v) := by
  have ⟨ranged, unused⟩ := usable_iff.mp usable
  have cases_ : ∀ row ∈ (db.addPool np v).vlanPool,
      row ∈ db.vlanPool ∨ row = ⟨db.serialVlanPool, np, v⟩ := by
    intro row mem
    simpa [Tables.addPool] using mem
  constructor
  · intro row mem other memO same
    rcases cases_ row mem with old | new <;> rcases cases_ other memO with oldO | newO
    · exact sound.ids row old other oldO same
    · have under := sound.below row old
      rw [newO] at same
      simp only at same
      omega
    · have under := sound.below other oldO
      rw [new] at same
      simp only at same
      omega
    · rw [new, newO]
  · intro row mem
    change row.id < db.serialVlanPool + 1
    rcases cases_ row mem with old | new
    · have under := sound.below row old
      omega
    · rw [new]
      simp
  · intro row mem other memO plane number
    rcases cases_ row mem with old | new <;> rcases cases_ other memO with oldO | newO
    · exact sound.nums row old other oldO plane number
    · rw [newO] at plane number
      exact absurd number (unused row old plane)
    · rw [new] at plane number
      exact absurd number.symm (unused other oldO plane.symm)
    · rw [new, newO]
  · intro row mem
    rcases cases_ row mem with old | new
    · exact sound.accepted row old
    · rw [new]
      exact ⟨known, ranged⟩
  · intro m mem
    obtain ⟨row, stored, rest⟩ := sound.owned m mem
    exact ⟨row, List.mem_append_left _ stored, rest⟩
  · intro np' k k' u u' holds holds'
    rw [sound.holds_addPool] at holds holds'
    exact sound.keyed np' k k' u u' holds holds'

theorem holds_addMap {m : CDbVlanMap} {np : String} {k : Int64 × Int} {v : ℕ} :
    Holds (db.addMap m) np k v ↔ Holds db np k v ∨ ∃ row ∈ db.vlanPool, row.id = m.vlanId ∧
      (m.projectId, m.isolateNo) = k ∧ row.netplaneUuid = np ∧ row.vlanNum = v := by
  simp only [Holds, Tables.addMap, List.mem_append, List.mem_singleton, or_and_right, exists_or,
    exists_eq_left]

/-- A new row of the map for an id that its key holds already, or that no one holds. -/
theorem Sound.addMap (sound : Sound net db) {m : CDbVlanMap} {row : CDbNetplaneVlanPool}
    (stored : row ∈ db.vlanPool) (refers : row.id = m.vlanId)
    (serves : Serves net m.pgUuid row.netplaneUuid m.isolateNo)
    (keeps : ∀ k v, Holds db row.netplaneUuid k v →
      (v = row.vlanNum ↔ k = (m.projectId, m.isolateNo))) : Sound net (db.addMap m) := by
  refine ⟨sound.ids, sound.below, sound.nums, sound.accepted, ?_, ?_⟩
  · intro other mem
    rcases List.mem_append.mp mem with old | new
    · exact sound.owned other old
    · rw [List.mem_singleton.mp new]
      exact ⟨row, stored, refers, serves⟩
  · have new : ∀ np k v, Holds (db.addMap m) np k v → Holds db np k v ∨
        (np = row.netplaneUuid ∧ k = (m.projectId, m.isolateNo) ∧ v = row.vlanNum) := by
      intro np k v holds
      rcases holds_addMap.mp holds with old | ⟨other, memO, refersO, key, plane, number⟩
      · exact .inl old
      · have same : other = row := sound.ids other memO row stored (refersO.trans refers.symm)
        subst same
        exact .inr ⟨plane.symm, key.symm, number.symm⟩
    intro np k k' v v' holds holds'
    rcases new np k v holds with old | ⟨plane, key, number⟩ <;>
      rcases new np k' v' holds' with old' | ⟨plane', key', number'⟩
    · exact sound.keyed np k k' v v' old old'
    · subst plane' key' number'
      exact keeps k v old
    · subst plane key number
      rw [eq_comm, keeps k' v' old', eq_comm]
    · subst key number key' number'
      simp

theorem holds_of_sub {after : Tables} (map : ∀ m ∈ after.vlanMap, m ∈ db.vlanMap)
    (pool : ∀ row ∈ after.vlanPool, row ∈ db.vlanPool) {np : String} {k : Int64 × Int} {v : ℕ}
    (holds : Holds after np k v) : Holds db np k v := by
  obtain ⟨m, mem, row, stored, rest⟩ := holds
  exact ⟨m, map m mem, row, pool row stored, rest⟩

/-- Rows that are deleted do no harm while every row of the map keeps its row of the pool. -/
theorem Sound.deleted (sound : Sound net db) {after : Tables}
    (serial : after.serialVlanPool = db.serialVlanPool)
    (map : ∀ m ∈ after.vlanMap, m ∈ db.vlanMap) (pool : ∀ row ∈ after.vlanPool, row ∈ db.vlanPool)
    (kept : ∀ m ∈ after.vlanMap, ∀ row ∈ db.vlanPool, row.id = m.vlanId → row ∈ after.vlanPool) :
    Sound net after := by
  constructor
  · intro row mem other memO
    exact sound.ids row (pool row mem) other (pool other memO)
  · intro row mem
    rw [serial]
    exact sound.below row (pool row mem)
  · intro row mem other memO
    exact sound.nums row (pool row mem) other (pool other memO)
  · intro row mem
    exact sound.accepted row (pool row mem)
  · intro m mem
    obtain ⟨row, stored, refers, serves⟩ := sound.owned m (map m mem)
    exact ⟨row, kept m mem row stored refers, refers, serves⟩
  · intro np k k' v v' holds holds'
    exact sound.keyed np k k' v v' (holds_of_sub map pool holds) (holds_of_sub map pool holds')

theorem Sound.delMap (sound : Sound net db) (p : Int64) (pg : String) (id : ℕ) :
    Sound net (db.delMap p pg id) :=
  sound.deleted rfl (fun _ mem => List.mem_of_mem_filter mem) (fun _ mem => mem)
    fun _ _ _ stored _ => stored

/-- The row of the pool goes when no row of the map refers to it. -/
theorem Sound.delPool (sound : Sound net db) {row : CDbNetplaneVlanPool}
    (stored : row ∈ db.vlanPool)
    (unused : ∀ m ∈ db.vlanMap, m.vlanId ≠ row.id) :
    Sound net (db.delPool row.netplaneUuid row.vlanNum) := by
  refine sound.deleted rfl (fun _ mem => mem) (fun _ mem => List.mem_of_mem_filter mem) ?_
  intro m mem other memO refers
  simp only [Tables.delPool, List.mem_filter, decide_eq_true_eq]
  refine ⟨memO, ?_⟩
  rintro ⟨plane, number⟩
  have same : other = row := sound.nums other memO row stored plane number
  exact unused m mem (same ▸ refers).symm

theorem Sound.find_row (sound : Sound net db) {row : CDbNetplaneVlanPool}
    (stored : row ∈ db.vlanPool) :
    (db.vlanPool.find? fun other =>
      other.netplaneUuid = row.netplaneUuid ∧ other.vlanNum = row.vlanNum) = some row := by
  cases search : db.vlanPool.find? fun other =>
      other.netplaneUuid = row.netplaneUuid ∧ other.vlanNum = row.vlanNum with
  | none =>
      have missed := List.find?_eq_none.mp search row stored
      simp at missed
  | some other =>
      have found := List.find?_some search
      simp only [decide_eq_true_eq] at found
      rw [sound.nums other (List.mem_of_find?_eq_some search) row stored found.1 found.2]

end Writes

end Tecs.VlanPool
