import Tecs.Vnm.VlanPoolCalls

set_option autoImplicit false

/-! Runs of allocations and releases of VLAN ids. -/

namespace Tecs.VlanPool

variable {net : Network} {db : Tables} {answers : Answers} {np pg : String} {p : Int64} {iso : Int}

/-- Every id in use has an owner. -/
def Mapped (db : Tables) : Prop := ∀ row ∈ db.vlanPool, ∃ m ∈ db.vlanMap, m.vlanId = row.id

theorem Sound.holds_ranged (sound : Sound net db) {k : Int64 × Int} {v : ℕ}
    (holds : Holds db np k v) :
    Ranged (net.vlanRange np) v := by
  obtain ⟨m, -, row, stored, -, -, rfl, rfl⟩ := holds
  exact (sound.accepted row stored).2

/-- The new id of an allocation, as a row of the pool and a row of the map. -/
theorem Sound.made (sound : Sound net db) (serves : Serves net pg np iso)
    (known : np ∈ net.netplane)
    {v : ℕ} (usable : Usable net db np v) (fresh : ∀ v, ¬ Holds db np (p, iso) v) :
    Sound net ((db.addPool np v).addMap ⟨p, pg, db.serialVlanPool, iso⟩) := by
  have inPool : (⟨db.serialVlanPool, np, v⟩ : CDbNetplaneVlanPool) ∈
      (db.addPool np v).vlanPool := by
    simp [Tables.addPool]
  refine (sound.addPool known usable).addMap inPool rfl serves fun k u holds => ?_
  rw [sound.holds_addPool] at holds
  refine iff_of_false (fun same => ?_) fun same => ?_
  · obtain ⟨m, -, row, stored, -, -, plane, number⟩ := holds
    exact (usable_iff.mp usable).2 row stored plane (number.trans same)
  · exact fresh u (same ▸ holds)

namespace AllocEnd

variable {result : Option ℕ × Tables}

theorem sound (before : Sound net db) (serves : Serves net pg np iso)
    (ended : AllocEnd net db answers np p pg iso result) : Sound net result.2 := by
  cases ended with
  | refused => exact before
  | again => exact before
  | @joined _ row stored plane held =>
      subst plane
      exact before.addMap stored rfl serves fun k v holds => before.keyed _ _ _ _ _ holds held
  | torn torn usable => exact before.addPool torn.known usable
  | made _ known usable _ fresh => exact before.made serves known usable fresh

theorem mapped_iff (before : Sound net db) (mapped : Mapped db)
    (ended : AllocEnd net db answers np p pg iso result) :
    Mapped result.2 ↔ ¬ AllocTorn net db answers np p iso := by
  cases ended with
  | refused whole => exact iff_of_true mapped whole
  | again whole => exact iff_of_true mapped whole
  | joined whole stored plane held =>
      refine iff_of_true (fun row mem => ?_) whole
      obtain ⟨m, memM, refers⟩ := mapped row mem
      exact ⟨m, List.mem_append_left _ memM, refers⟩
  | @torn torn v usable =>
      refine iff_of_false (fun after => ?_) (not_not.mpr torn)
      obtain ⟨m, mem, refers⟩ := after ⟨db.serialVlanPool, np, v⟩ (by simp [Tables.addPool])
      obtain ⟨row, stored, refersM, -⟩ := before.owned m mem
      have under := before.below row stored
      simp only at refers
      omega
  | @made whole known v usable first fresh =>
      refine iff_of_true (fun row mem => ?_) whole
      rcases List.mem_append.mp mem with old | new
      · obtain ⟨m, memM, refers⟩ := mapped row old
        exact ⟨m, List.mem_append_left _ memM, refers⟩
      · refine ⟨⟨p, pg, db.serialVlanPool, iso⟩,
          List.mem_append_right _ (List.mem_singleton_self _), ?_⟩
        rw [List.mem_singleton.mp new]

/-- An allocation takes no id from anyone. -/
theorem grows (before : Sound net db) (ended : AllocEnd net db answers np p pg iso result)
    {np' : String} {k : Int64 × Int} {v : ℕ}
    (holds : Holds db np' k v) : Holds result.2 np' k v := by
  cases ended with
  | refused => exact holds
  | again => exact holds
  | joined => exact holds_addMap.mpr (.inl holds)
  | torn => exact (before.holds_addPool _ _).mpr holds
  | made => exact holds_addMap.mpr (.inl ((before.holds_addPool _ _).mpr holds))

/-- The id that is returned is held by its key. -/
theorem answered {v : ℕ} (ended : AllocEnd net db answers np p pg iso result)
    (returned : result.1 = some v) : Holds result.2 np (p, iso) v := by
  cases ended with
  | refused => cases returned
  | again _ held =>
      cases returned
      exact held
  | joined _ _ _ held =>
      cases returned
      exact holds_addMap.mpr (.inl held)
  | torn => cases returned
  | made =>
      cases returned
      refine holds_addMap.mpr (.inr ⟨⟨db.serialVlanPool, np, v⟩, ?_, rfl, rfl, rfl, rfl⟩)
      simp [Tables.addPool]

/-- An id that has lost its owner gets no new one. -/
theorem lost (before : Sound net db) (ended : AllocEnd net db answers np p pg iso result)
    {row : CDbNetplaneVlanPool} (stored : row ∈ db.vlanPool)
    (alone : ∀ m ∈ db.vlanMap, m.vlanId ≠ row.id) :
    row ∈ result.2.vlanPool ∧ ∀ m ∈ result.2.vlanMap, m.vlanId ≠ row.id := by
  have added : ∀ (rows : List CDbVlanMap) (new : CDbVlanMap), (∀ m ∈ rows, m.vlanId ≠ row.id) →
      new.vlanId ≠ row.id → ∀ m ∈ rows ++ [new], m.vlanId ≠ row.id := by
    intro rows new old other m mem
    rcases List.mem_append.mp mem with mem | mem
    · exact old m mem
    · exact List.mem_singleton.mp mem ▸ other
  cases ended with
  | refused => exact ⟨stored, alone⟩
  | again => exact ⟨stored, alone⟩
  | joined _ storedO plane held =>
      refine ⟨stored, added _ _ alone fun same => ?_⟩
      obtain ⟨m, mem, other, memO, refers, -, planeO, number⟩ := held
      have rows := before.nums other memO _ storedO (planeO.trans plane.symm) number
      exact alone m mem (refers.symm.trans ((congrArg _ rows).trans same))
  | torn => exact ⟨List.mem_append_left _ stored, alone⟩
  | made =>
      refine ⟨List.mem_append_left _ stored, added _ _ alone fun same => ?_⟩
      have under := before.below row stored
      simp only at same
      omega

end AllocEnd

namespace FreeEnd

variable {result : Bool × Tables}

theorem sound (before : Sound net db) (ended : FreeEnd db answers np p pg iso result) :
    Sound net result.2 := by
  cases ended with
  | unchanged => exact before
  | shared => exact before.delMap p pg _
  | torn => exact before.delMap p pg _
  | freed _ stored plane _ last =>
      subst plane
      exact (before.delMap p pg _).delPool stored last

theorem mapped_iff (before : Sound net db) (mapped : Mapped db)
    (ended : FreeEnd db answers np p pg iso result) :
    Mapped result.2 ↔ ¬ FreeTorn db answers p pg iso := by
  -- the rows for the other ids stay
  have others : ∀ row ∈ db.vlanPool, ∀ id, row.id ≠ id →
      ∃ m ∈ (db.delMap p pg id).vlanMap, m.vlanId = row.id := by
    intro row mem id other
    obtain ⟨m, memM, refers⟩ := mapped row mem
    refine ⟨m, ?_, refers⟩
    simp only [Tables.delMap, List.mem_filter, decide_eq_true_eq]
    exact ⟨memM, fun gone => other (refers.symm.trans gone.2.2)⟩
  cases ended with
  | unchanged whole => exact iff_of_true mapped whole
  | @shared whole _ row stored other =>
      refine iff_of_true (fun kept mem => ?_) whole
      by_cases same : kept.id = row.id
      · rw [same]
        exact other
      · exact others kept mem _ same
  | torn torn stored last =>
      refine iff_of_false (fun after => ?_) (not_not.mpr torn)
      obtain ⟨m, mem, refers⟩ := after _ stored
      exact last m mem refers
  | @freed whole row stored plane _ last =>
      refine iff_of_true (fun kept mem => ?_) whole
      simp only [Tables.delPool, List.mem_filter, decide_eq_true_eq] at mem
      refine others kept mem.1 _ fun same => mem.2 ?_
      have rows : kept = row := before.ids kept mem.1 row stored same
      exact ⟨rows ▸ plane, congrArg _ rows⟩

/-- A release gives no id to anyone. -/
theorem shrinks (ended : FreeEnd db answers np p pg iso result) {np' : String} {k : Int64 × Int}
    {v : ℕ} (holds : Holds result.2 np' k v) : Holds db np' k v := by
  cases ended with
  | unchanged => exact holds
  | shared =>
      refine holds_of_sub (fun m mem => ?_) (fun row mem => ?_) holds
      · exact List.mem_of_mem_filter mem
      · exact mem
  | torn =>
      refine holds_of_sub (fun m mem => ?_) (fun row mem => ?_) holds
      · exact List.mem_of_mem_filter mem
      · exact mem
  | freed =>
      refine holds_of_sub (fun m mem => ?_) (fun row mem => ?_) holds
      · exact List.mem_of_mem_filter mem
      · exact List.mem_of_mem_filter mem

theorem lost (before : Sound net db) (ended : FreeEnd db answers np p pg iso result)
    {row : CDbNetplaneVlanPool} (stored : row ∈ db.vlanPool)
    (alone : ∀ m ∈ db.vlanMap, m.vlanId ≠ row.id) :
    row ∈ result.2.vlanPool ∧ ∀ m ∈ result.2.vlanMap, m.vlanId ≠ row.id := by
  have kept : ∀ id, ∀ m ∈ (db.delMap p pg id).vlanMap, m.vlanId ≠ row.id :=
    fun id m mem => alone m (List.mem_of_mem_filter mem)
  cases ended with
  | unchanged => exact ⟨stored, alone⟩
  | shared => exact ⟨stored, kept _⟩
  | torn => exact ⟨stored, kept _⟩
  | @freed _ other storedO plane owner _ =>
      refine ⟨?_, kept _⟩
      simp only [Tables.delPool, List.mem_filter, decide_eq_true_eq]
      refine ⟨stored, ?_⟩
      rintro ⟨own, number⟩
      obtain ⟨m, mem, refers⟩ := owner
      have rows := before.nums other storedO row stored (plane.trans own.symm) number.symm
      exact alone m mem (rows ▸ refers)

end FreeEnd

/-- A call for one vnic. -/
inductive Call
  | alloc (nProjID : Int64) (strPGID : String) (answers : Answers)
  | free (nProjID : Int64) (strPGID : String) (answers : Answers)

def Call.step (net : Network) (db : Tables) : Call → VnicRet × Tables
  | .alloc nProjID strPGID answers => allocVlan net answers nProjID strPGID db
  | .free nProjID strPGID answers => freeVlan net answers nProjID strPGID db

def run (net : Network) (db : Tables) (calls : List Call) : Tables :=
  calls.foldl (fun db call => (call.step net db).2) db

@[simp] theorem run_nil : run net db [] = db := rfl

@[simp] theorem run_cons (call : Call) (calls : List Call) :
    run net db (call :: calls) = run net (call.step net db).2 calls := rfl

theorem run_append (front back : List Call) :
    run net db (front ++ back) = run net (run net db front) back :=
  List.foldl_append

/-- The vnics of a virtual machine are served by a run of calls. -/
theorem allocVlanForVnic_run (vecVNetVnic : List (String × Answers)) : ∀ db,
    ∃ n, (allocVlanForVnic net p vecVNetVnic db).2 =
      run net db ((vecVNetVnic.take n).map fun vnic => .alloc p vnic.1 vnic.2) := by
  induction vecVNetVnic with
  | nil => exact fun db => ⟨0, rfl⟩
  | cons vnic rest ih =>
      intro db
      rw [allocVlanForVnic]
      split
      · rename_i after ended
        refine ⟨1, ?_⟩
        simp [Call.step, ended]
      · rename_i ret after _ ended
        obtain ⟨n, same⟩ := ih after
        refine ⟨n + 1, ?_⟩
        rw [same]
        simp [Call.step, ended]

theorem freeVlanForVnic_run (vecVNetVnic : List (String × Answers)) : ∀ db,
    ∃ n, (freeVlanForVnic net p vecVNetVnic db).2 =
      run net db ((vecVNetVnic.take n).map fun vnic => .free p vnic.1 vnic.2) := by
  induction vecVNetVnic with
  | nil => exact fun db => ⟨0, rfl⟩
  | cons vnic rest ih =>
      intro db
      rw [freeVlanForVnic]
      split
      · rename_i after ended
        refine ⟨1, ?_⟩
        simp [Call.step, ended]
      · rename_i ret after _ ended
        obtain ⟨n, same⟩ := ih after
        refine ⟨n + 1, ?_⟩
        rw [same]
        simp [Call.step, ended]

/-- The queries of the manager let the release of a vnic begin. -/
structure Reached (net : Network) (answers : Answers) (pg np : String) (iso : Int) : Prop where
  serves : Serves net pg np iso
  need : answers.fails .needVlanMap = false
  plane : answers.fails .portGroupNetplane = false
  query : answers.fails .queryRange = false
  ranges : net.vlanRange np ≠ []

/-- For an allocation the port group is not taken for one of a controller, and the pool is read. -/
structure AllocReached (net : Network) (answers : Answers) (pg np : String) (iso : Int) : Prop
    extends Reached net answers pg np iso where
  sdn : isPortGroupSdn net answers pg = false
  pool : answers.fails .queryPool = false

theorem isNeedVlanMap_some {number : Int} (needed : isNeedVlanMap net answers pg = some number) :
    answers.fails .needVlanMap = false ∧ ∃ row, net.portGroup pg = some row ∧
      row.switchportMode = EN_SWITCHPORT_MODE_ACCESS ∧ row.pgType = EN_PORTGROUP_TYPE_VM_PRIVATE ∧
      row.isolateType = EN_ISOLATE_TYPE_VLAN ∧ row.accessIsolateNo = number := by
  rw [isNeedVlanMap] at needed
  split at needed
  · cases needed
  · rename_i asked
    refine ⟨by simpa using asked, ?_⟩
    split at needed
    · cases needed
    · rename_i row found
      split at needed
      · rename_i kind
        exact ⟨row, found, kind.1, kind.2.1, kind.2.2, Option.some.inj needed⟩
      · cases needed

theorem Reached.needed (reached : Reached net answers pg np iso) :
    isNeedVlanMap net answers pg = some iso := by
  obtain ⟨row, found, mode, type, isolation, number, -⟩ := reached.serves.group
  simp [isNeedVlanMap, reached.need, found, mode, type, isolation, number]

theorem Reached.planed (reached : Reached net answers pg np iso) :
    getPGNetplane net answers pg = some np := by
  obtain ⟨row, found, -, -, -, -, own⟩ := reached.serves.group
  simp [getPGNetplane, reached.plane, found, own]

theorem Reached.ranged (reached : Reached net answers pg np iso) :
    getVlanRange net answers np = some (net.vlanRange np) := by
  simp [getVlanRange, reached.serves.plane, reached.query, reached.ranges]

/-- The three queries of the manager answer only if a call is reached. -/
theorem reached_of_queries (named : pg ≠ "") {vecVlanRange : List TVlanRangeItem}
    (needed : isNeedVlanMap net answers pg = some iso)
    (planed : getPGNetplane net answers pg = some np)
    (ranged : getVlanRange net answers np = some vecVlanRange) :
    Reached net answers pg np iso ∧ vecVlanRange = net.vlanRange np := by
  obtain ⟨asked, row, found, mode, type, isolation, number⟩ := isNeedVlanMap_some needed
  rw [getVlanRange] at ranged
  split at ranged
  · cases ranged
  · rename_i plane
    split at ranged
    · cases ranged
    · rename_i queried
      split at ranged
      · cases ranged
      · rename_i filled
        rw [getPGNetplane] at planed
        split at planed
        · cases planed
        · rename_i read
          rw [found, Option.map_some, Option.some.injEq] at planed
          have own : row.netplaneUuid = some np := by
            cases stored : row.netplaneUuid with
            | none =>
                rw [stored] at planed
                exact absurd planed.symm plane
            | some other =>
                rw [stored] at planed
                exact congrArg some planed
          refine ⟨⟨⟨⟨row, found, mode, type, isolation, number, own⟩, named, plane⟩, asked,
            by simpa using read, by simpa using queried, by simpa using filled⟩, ?_⟩
          exact (Option.some.inj ranged).symm

/-- A release is reached, or the tables are left alone. -/
theorem freeVlan_cases (net : Network) (answers : Answers) (p : Int64) (pg : String) (db : Tables) :
    (∃ np iso, Reached net answers pg np iso ∧ (freeVlan net answers p pg db).2 =
      (freeVlanID net answers np p pg iso db).2) ∨
    ((¬ ∃ np iso, Reached net answers pg np iso) ∧ (freeVlan net answers p pg db).2 = db) := by
  by_cases reached : ∃ np iso, Reached net answers pg np iso
  · left
    obtain ⟨np, iso, reached⟩ := reached
    refine ⟨np, iso, reached, ?_⟩
    rw [freeVlan, reached.needed]
    simp only [reached.planed, reached.ranged]
    split
    · rename_i ended
      rw [ended]
    · rename_i ended
      rw [ended]
  · right
    refine ⟨reached, ?_⟩
    rw [freeVlan]
    split
    · rfl
    · rename_i iso needed
      split
      · rfl
      · rename_i np planed
        split
        · rfl
        · rename_i vecVlanRange ranged
          by_cases named : pg = ""
          · have unnamed : freeVlanID net answers np p pg iso db = (false, db) := by
              rw [freeVlanID, if_pos named, ite_self]
            rw [unnamed]
          · exact absurd ⟨np, iso, (reached_of_queries named needed planed ranged).1⟩ reached

/-- An allocation is reached, or it has no result and the tables are left alone. -/
theorem allocVlan_cases (net : Network) (answers : Answers) (p : Int64) (pg : String)
    (db : Tables) :
    (∃ np iso, AllocReached net answers pg np iso ∧
      (∀ v, (allocVlan net answers p pg db).1 = .mapped v →
        (allocVlanID net answers (init (net.vlanRange np)
          (db.vlanPool.filter (·.netplaneUuid = np))) np p pg iso db).1 = some v) ∧
      (allocVlan net answers p pg db).2 = (allocVlanID net answers (init (net.vlanRange np)
        (db.vlanPool.filter (·.netplaneUuid = np))) np p pg iso db).2) ∨
    ((¬ ∃ np iso, AllocReached net answers pg np iso) ∧
      (∀ v, (allocVlan net answers p pg db).1 ≠ .mapped v) ∧
      (allocVlan net answers p pg db).2 = db) := by
  by_cases reached : ∃ np iso, AllocReached net answers pg np iso
  · left
    obtain ⟨np, iso, reached⟩ := reached
    refine ⟨np, iso, reached, ?_⟩
    rw [allocVlan, reached.needed]
    simp only [reached.sdn, reached.planed, reached.ranged, reached.pool,
      Bool.false_eq_true, if_false]
    split
    · rename_i ended
      rw [ended]
      exact ⟨fun v same => congrArg some (VnicRet.mapped.inj same), rfl⟩
    · rename_i ended
      rw [ended]
      exact ⟨by simp, rfl⟩
  · right
    refine ⟨reached, ?_⟩
    rw [allocVlan]
    split
    · exact ⟨by simp, rfl⟩
    · rename_i iso needed
      split
      · exact ⟨by simp, rfl⟩
      · rename_i sdn
        split
        · exact ⟨by simp, rfl⟩
        · rename_i np planed
          split
          · exact ⟨by simp, rfl⟩
          · rename_i vecVlanRange ranged
            split
            · exact ⟨by simp, rfl⟩
            · rename_i pool
              by_cases named : pg = ""
              · have unnamed : ∀ status,
                    allocVlanID net answers status np p pg iso db = (none, db) := by
                  intro status
                  rw [allocVlanID, if_pos named, ite_self]
                simp only [unnamed]
                exact ⟨by simp, trivial⟩
              · have queries := (reached_of_queries named needed planed ranged).1
                exact absurd ⟨np, iso, queries, by simpa using sdn, by simpa using pool⟩ reached

/-- A call that stops between its two tables: an allocation of a new id between the row of the pool
and the row of the map, or a release by the last owner between the row of the map and that of the
pool. -/
def Call.Torn (net : Network) (db : Tables) : Call → Prop
  | .alloc nProjID strPGID answers => ∃ np iso, AllocReached net answers strPGID np iso ∧
      AllocTorn net db answers np nProjID iso
  | .free nProjID strPGID answers => ∃ np iso, Reached net answers strPGID np iso ∧
      FreeTorn db answers nProjID strPGID iso

theorem Reached.unique {np' : String} {iso' : Int} (reached : Reached net answers pg np iso)
    (other : Reached net answers pg np' iso') : np = np' ∧ iso = iso' :=
  reached.serves.unique other.serves

/-- What every call keeps, and when it leaves every id an owner. -/
theorem Call.step_sound (sound : Sound net db) (call : Call) :
    Sound net (call.step net db).2 ∧
      (Mapped db → (Mapped (call.step net db).2 ↔ ¬ call.Torn net db)) ∧
      ∀ np k v v', Holds db np k v → Holds (call.step net db).2 np k v' → v = v' := by
  cases call with
  | alloc p pg answers =>
      rw [step, Torn]
      rcases allocVlan_cases net answers p pg db with ⟨np, iso, reached, -, same⟩ |
          ⟨missed, -, same⟩
      · have ended := @allocVlanID_end _ _ answers _ _ p _ sound reached.serves
        have after := ended.sound sound reached.serves
        rw [same]
        refine ⟨after, fun mapped => ?_, fun np k v v' holds holds' => ?_⟩
        · rw [ended.mapped_iff sound mapped, not_iff_not]
          constructor
          · intro torn
            exact ⟨np, iso, reached, torn⟩
          · rintro ⟨np', iso', other, torn⟩
            have ⟨plane, number⟩ := reached.toReached.unique other.toReached
            subst plane number
            exact torn
        · exact (after.keyed np k k v v' (ended.grows sound holds) holds').mpr rfl
      · rw [same]
        refine ⟨sound, fun mapped => iff_of_true mapped ?_, fun np k v v' holds holds' => ?_⟩
        · rintro ⟨np, iso, reached, -⟩
          exact missed ⟨np, iso, reached⟩
        · exact (sound.keyed np k k v v' holds holds').mpr rfl
  | free p pg answers =>
      rw [step, Torn]
      rcases freeVlan_cases net answers p pg db with ⟨np, iso, reached, same⟩ | ⟨missed, same⟩
      · have ended := @freeVlanID_end _ _ answers _ _ p _ sound reached.serves
        rw [same]
        refine ⟨ended.sound sound, fun mapped => ?_, fun np k v v' holds holds' => ?_⟩
        · rw [ended.mapped_iff sound mapped, not_iff_not]
          constructor
          · intro torn
            exact ⟨np, iso, reached, torn⟩
          · rintro ⟨np', iso', other, torn⟩
            have ⟨plane, number⟩ := reached.unique other
            subst plane number
            exact torn
        · exact (sound.keyed np k k v v' holds (ended.shrinks holds')).mpr rfl
      · rw [same]
        refine ⟨sound, fun mapped => iff_of_true mapped ?_, fun np k v v' holds holds' => ?_⟩
        · rintro ⟨np, iso, reached, -⟩
          exact missed ⟨np, iso, reached⟩
        · exact (sound.keyed np k k v v' holds holds').mpr rfl

theorem Call.step_lost (sound : Sound net db) (call : Call) {row : CDbNetplaneVlanPool}
    (stored : row ∈ db.vlanPool) (alone : ∀ m ∈ db.vlanMap, m.vlanId ≠ row.id) :
    row ∈ (call.step net db).2.vlanPool ∧ ∀ m ∈ (call.step net db).2.vlanMap,
      m.vlanId ≠ row.id := by
  cases call with
  | alloc p pg answers =>
      rw [step]
      rcases allocVlan_cases net answers p pg db with ⟨np, iso, reached, -, same⟩ | ⟨-, -, same⟩
      · rw [same]
        exact (allocVlanID_end sound reached.serves).lost sound stored alone
      · rw [same]
        exact ⟨stored, alone⟩
  | free p pg answers =>
      rw [step]
      rcases freeVlan_cases net answers p pg db with ⟨np, iso, reached, same⟩ | ⟨-, same⟩
      · rw [same]
        exact (freeVlanID_end sound reached.serves).lost sound stored alone
      · rw [same]
        exact ⟨stored, alone⟩

/-- Whatever is called, an id that has lost its owner is held by no one. -/
theorem lost_forever (sound : Sound net db) {row : CDbNetplaneVlanPool} (stored : row ∈ db.vlanPool)
    (alone : ∀ m ∈ db.vlanMap, m.vlanId ≠ row.id) (calls : List Call) (k : Int64 × Int) :
    ¬ Holds (run net db calls) row.netplaneUuid k row.vlanNum := by
  induction calls generalizing db with
  | nil =>
      rintro ⟨m, mem, other, memO, refers, -, plane, number⟩
      have rows := sound.nums other memO row stored plane number
      exact alone m mem (rows ▸ refers).symm
  | cons call rest ih =>
      have ⟨storedA, aloneA⟩ := call.step_lost sound stored alone
      exact ih (call.step_sound sound).1 storedA aloneA

theorem run_tables_sound (calls : List Call) : Sound net (run net .empty calls) := by
  induction calls using List.reverseRecOn with
  | nil => exact sound_empty net
  | append_singleton calls call ih =>
      rw [run_append]
      exact (call.step_sound ih).1

end Tecs.VlanPool
