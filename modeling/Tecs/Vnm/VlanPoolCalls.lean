import Tecs.Vnm.VlanPoolSteps

set_option autoImplicit false

/-! How `AllocVlanID` and `FreeVlanID` end. -/

namespace Tecs.VlanPool

variable {net : Network} {db : Tables} {answers : Answers} {np pg : String} {p : Int64} {iso : Int}
  {row : CDbNetplaneVlanPool}

/-- The row of the port group itself. -/
def Own (db : Tables) (p : Int64) (pg : String) (iso : Int) (m : CDbVlanMap) : Prop :=
  m ∈ db.vlanMap ∧ m.projectId = p ∧ m.pgUuid = pg ∧ m.isolateNo = iso

theorem checkVlanMap_eq (sound : Sound net db) (serves : Serves net pg np iso)
    (stored : row ∈ db.vlanPool) (plane : row.netplaneUuid = np) :
    checkVlanMap net db pg row.vlanNum iso = .ok row := by
  obtain ⟨group, found, mode, type, -, number, own⟩ := serves.group
  have ⟨low, high⟩ := net.ranged_bounds (sound.accepted row stored).2
  subst plane
  rw [checkVlanMap, found]
  simp only [mode, type, number, own, ne_eq, not_true_eq_false, if_false]
  rw [if_neg (by omega), if_neg (by omega), sound.find_row stored]

theorem mem_vlanMapNetplane (sound : Sound net db) {info : CDbVlanMapNetplane} :
    info ∈ vlanMapNetplane net db ↔ ∃ m ∈ db.vlanMap, ∃ row ∈ db.vlanPool, row.id = m.vlanId ∧
      info = ⟨row.netplaneUuid, m.pgUuid, m.projectId, row.vlanNum, m.isolateNo⟩ := by
  have joined : ∀ m ∈ db.vlanMap, ((net.portGroup m.pgUuid).bind (·.netplaneUuid)).isSome =
      true := by
    intro m mem
    obtain ⟨row, -, -, serves⟩ := sound.owned m mem
    obtain ⟨group, found, -, -, -, -, own⟩ := serves.group
    rw [found, Option.bind_some, own]
    rfl
  rw [vlanMapNetplane, List.mem_flatMap]
  constructor
  · rintro ⟨m, mem, listed⟩
    rw [if_pos (joined m mem), List.mem_map] at listed
    obtain ⟨row, found, made⟩ := listed
    rw [List.mem_filter, decide_eq_true_eq] at found
    exact ⟨m, mem, row, found.1, found.2, made.symm⟩
  · rintro ⟨m, mem, row, stored, refers, made⟩
    refine ⟨m, mem, ?_⟩
    rw [if_pos (joined m mem), List.mem_map]
    refine ⟨row, ?_, made.symm⟩
    rw [List.mem_filter, decide_eq_true_eq]
    exact ⟨stored, refers⟩

theorem mem_query (sound : Sound net db) {info : CDbVlanMapNetplane} :
    info ∈ queryByNpProjectIdIsolateNo net db np p iso ↔ ∃ m ∈ db.vlanMap, ∃ row ∈ db.vlanPool,
      row.id = m.vlanId ∧ (m.projectId, m.isolateNo) = (p, iso) ∧ row.netplaneUuid = np ∧
      info = ⟨row.netplaneUuid, m.pgUuid, m.projectId, row.vlanNum, m.isolateNo⟩ := by
  rw [queryByNpProjectIdIsolateNo, List.mem_filter, mem_vlanMapNetplane sound, decide_eq_true_eq]
  constructor
  · rintro ⟨⟨m, mem, row, stored, refers, rfl⟩, plane, project, number⟩
    exact ⟨m, mem, row, stored, refers, Prod.ext project number, plane, rfl⟩
  · rintro ⟨m, mem, row, stored, refers, key, plane, rfl⟩
    exact ⟨⟨m, mem, row, stored, refers, rfl⟩, plane, congrArg Prod.fst key, congrArg Prod.snd key⟩

theorem query_nil_iff (sound : Sound net db) :
    queryByNpProjectIdIsolateNo net db np p iso = [] ↔ ∀ v, ¬ Holds db np (p, iso) v := by
  rw [List.eq_nil_iff_forall_not_mem]
  constructor
  · rintro empty v ⟨m, mem, row, stored, refers, key, plane, -⟩
    exact empty _ ((mem_query sound).mpr ⟨m, mem, row, stored, refers, key, plane, rfl⟩)
  · intro none_ info listed
    obtain ⟨m, mem, row, stored, refers, key, plane, -⟩ := (mem_query sound).mp listed
    exact none_ row.vlanNum ⟨m, mem, row, stored, refers, key, plane, rfl⟩

/-- The query lists the row of the port group itself, if there is one. -/
theorem query_own_iff (sound : Sound net db) (serves : Serves net pg np iso) :
    ((queryByNpProjectIdIsolateNo net db np p iso).any fun info =>
      info.projectId = p ∧ info.pgUuid = pg ∧ info.isolateNo = iso) = true ↔
        ∃ m, Own db p pg iso m := by
  simp only [List.any_eq_true, decide_eq_true_eq]
  constructor
  · rintro ⟨info, listed, project, group, number⟩
    obtain ⟨m, mem, row, -, -, -, -, rfl⟩ := (mem_query sound).mp listed
    exact ⟨m, mem, project, group, number⟩
  · rintro ⟨m, mem, project, group, number⟩
    obtain ⟨row, stored, refers, other⟩ := sound.owned m mem
    rw [group, number] at other
    have plane : row.netplaneUuid = np := (other.unique serves).1
    refine ⟨_, (mem_query sound).mpr ⟨m, mem, row, stored, refers, ?_, plane, rfl⟩, project,
      group, number⟩
    rw [project, number]

/-- A row for a port group that has none yet is written, unless a statement fails. -/
theorem mapVlan_eq (sound : Sound net db) (serves : Serves net pg np iso)
    (stored : row ∈ db.vlanPool)
    (plane : row.netplaneUuid = np) (fresh : ¬ ∃ m, Own db p pg iso m) :
    mapVlan net answers p pg row.vlanNum iso db =
      if answers.fails .checkAddMap ∨ answers.fails .addMap then (none, db)
      else (some row.vlanNum, db.addMap ⟨p, pg, row.id, iso⟩) := by
  have found := checkVlanMap_eq sound serves stored plane
  have accepted : checkAddVlanMap net db p pg row.vlanNum iso = .success := by
    rw [checkAddVlanMap, found]
    exact if_neg fresh
  have added : addVlanMap net db p pg row.vlanNum iso =
      (.success, db.addMap ⟨p, pg, row.id, iso⟩) := by
    rw [addVlanMap, accepted, found]
  rw [mapVlan, accepted, added, Answers.check, Answers.execute]
  cases answers.fails .checkAddMap with
  | true => rfl
  | false =>
      cases answers.fails .addMap with
      | true => rfl
      | false => rfl

/-- A call that writes a row of the pool for a new key and fails at the row of the map. -/
structure AllocTorn (net : Network) (db : Tables) (answers : Answers) (np : String) (p : Int64)
    (iso : Int) : Prop where
  queried : answers.fails .queryMap = false
  fresh : ∀ v, ¬ Holds db np (p, iso) v
  available : ∃ v, Usable net db np v
  known : np ∈ net.netplane
  checked : answers.fails .checkAddPool = false
  added : answers.fails .addPool = false
  stopped : answers.fails .checkAddMap = true ∨ answers.fails .addMap = true

/-- Why an allocation may leave the tables alone. -/
def Hindered (net : Network) (db : Tables) (answers : Answers) (np : String) : Prop :=
  (∃ s, s ≠ .portGroupSdn ∧ answers.fails s = true) ∨ np ∉ net.netplane ∨ ∀ v, ¬ Usable net db np v

/-- How an allocation ends. -/
inductive AllocEnd (net : Network) (db : Tables) (answers : Answers) (np : String) (p : Int64)
    (pg : String) (iso : Int) : Option ℕ × Tables → Prop
  | refused (whole : ¬ AllocTorn net db answers np p iso) (cause : Hindered net db answers np) :
      AllocEnd net db answers np p pg iso (none, db)
  | again (whole : ¬ AllocTorn net db answers np p iso) {v : ℕ} (held : Holds db np (p, iso) v) :
      AllocEnd net db answers np p pg iso (some v, db)
  | joined (whole : ¬ AllocTorn net db answers np p iso) {row : CDbNetplaneVlanPool}
      (stored : row ∈ db.vlanPool) (plane : row.netplaneUuid = np)
      (held : Holds db np (p, iso) row.vlanNum) :
      AllocEnd net db answers np p pg iso (some row.vlanNum, db.addMap ⟨p, pg, row.id, iso⟩)
  | torn (torn : AllocTorn net db answers np p iso) {v : ℕ} (usable : Usable net db np v) :
      AllocEnd net db answers np p pg iso (none, db.addPool np v)
  | made (whole : ¬ AllocTorn net db answers np p iso) (known : np ∈ net.netplane) {v : ℕ}
      (usable : Usable net db np v) (first : ∀ u, u < v → ¬ Usable net db np u)
      (fresh : ∀ v, ¬ Holds db np (p, iso) v) :
      AllocEnd net db answers np p pg iso
        (some v, (db.addPool np v).addMap ⟨p, pg, db.serialVlanPool, iso⟩)

theorem first_usable {v : ℕ} (first : firstUsable (init (net.vlanRange np)
      (db.vlanPool.filter (·.netplaneUuid = np))) = some v) :
    Usable net db np v ∧ ∀ u, u < v → ¬ Usable net db np u := by
  have ⟨usable, before⟩ := firstUsable_some first
  refine ⟨usable, fun u less other => ?_⟩
  exact before u (net.ranged_bounds (usable_iff.mp other).1).1 less other

theorem checkAddVlanPool_eq {v : ℕ} (usable : Usable net db np v) :
    checkAddVlanPool net db np v = if np ∈ net.netplane then .success else .itemNoExist := by
  have ⟨ranged, unused⟩ := usable_iff.mp usable
  have ⟨low, high⟩ := net.ranged_bounds ranged
  rw [checkAddVlanPool]
  by_cases known : np ∈ net.netplane
  · have apart : ¬ ∃ row ∈ db.vlanPool, row.netplaneUuid = np ∧ row.vlanNum = v := by
      rintro ⟨row, mem, own, same⟩
      exact unused row mem own same
    rw [if_neg (not_not.mpr known), if_neg (by omega), if_neg (by omega),
      if_neg (not_not.mpr ranged), if_neg apart, if_pos known]
  · rw [if_pos known, if_neg known]

theorem alloc_new (sound : Sound net db) (serves : Serves net pg np iso)
    (queried : answers.fails .queryMap = false) (fresh : ∀ v, ¬ Holds db np (p, iso) v) :
    AllocEnd net db answers np p pg iso
      (match firstUsable (init (net.vlanRange np) (db.vlanPool.filter (·.netplaneUuid = np))) with
        | none => (none, db)
        | some v =>
            if answers.check .checkAddPool (checkAddVlanPool net db np v) ≠ .success then (none, db)
            else
              match answers.execute .addPool db (addVlanPool net db np v) with
              | (.success, db) => mapVlan net answers p pg v iso db
              | (_, db) => (none, db)) := by
  cases search : firstUsable
    (init (net.vlanRange np) (db.vlanPool.filter (·.netplaneUuid = np))) with
  | none =>
      have none_ : ∀ v, ¬ Usable net db np v := by
        intro v usable
        have ⟨low, high⟩ := net.ranged_bounds (usable_iff.mp usable).1
        exact firstUsable_none search low high usable
      refine .refused (fun torn => ?_) (.inr (.inr none_))
      obtain ⟨v, usable⟩ := torn.available
      exact none_ v usable
  | some v =>
      have ⟨usable, first⟩ := first_usable search
      simp only [addVlanPool, checkAddVlanPool_eq usable, Answers.check, Answers.execute]
      cases checked : answers.fails .checkAddPool with
      | true =>
          exact .refused (fun torn => by simp [torn.checked] at checked)
            (.inl ⟨_, by decide, checked⟩)
      | false =>
          by_cases known : np ∈ net.netplane
          · cases added : answers.fails .addPool with
            | true =>
                simp only [known, if_true]
                exact .refused (fun torn => by simp [torn.added] at added)
                  (.inl ⟨_, by decide, added⟩)
            | false =>
                have soundP := sound.addPool known usable
                have inPool : (⟨db.serialVlanPool, np, v⟩ : CDbNetplaneVlanPool) ∈
                    (db.addPool np v).vlanPool := by simp [Tables.addPool]
                have none_ : ¬ ∃ m, Own (db.addPool np v) p pg iso m := by
                  rintro ⟨m, mem, project, group, number⟩
                  obtain ⟨row, stored, refers, other⟩ := sound.owned m mem
                  rw [group, number] at other
                  have plane := (other.unique serves).1
                  exact fresh row.vlanNum
                    ⟨m, mem, row, stored, refers, Prod.ext project number, plane, rfl⟩
                simp only [known, if_true, Bool.false_eq_true, if_false, ne_eq, not_true_eq_false]
                rw [mapVlan_eq soundP serves inPool rfl none_]
                split
                · rename_i stopped
                  exact .torn ⟨queried, fresh, ⟨v, usable⟩, known, checked, added, stopped⟩ usable
                · rename_i passed
                  exact .made (fun torn => passed torn.stopped) known usable first fresh
          · simp only [known, if_false, Bool.false_eq_true]
            exact .refused (fun torn => known torn.known) (.inr (.inl known))

theorem allocVlanID_end (sound : Sound net db) (serves : Serves net pg np iso) :
    AllocEnd net db answers np p pg iso (allocVlanID net answers
      (init (net.vlanRange np) (db.vlanPool.filter (·.netplaneUuid = np))) np p pg iso db) := by
  rw [allocVlanID, if_neg serves.plane, if_neg serves.named]
  cases queried : answers.fails .queryMap with
  | true =>
      exact .refused (fun torn => by simp [torn.queried] at queried) (.inl ⟨_, by decide, queried⟩)
  | false =>
      simp only [Bool.false_eq_true, if_false]
      cases query : queryByNpProjectIdIsolateNo net db np p iso with
      | nil => exact alloc_new sound serves queried ((query_nil_iff sound).mp query)
      | cons info rest =>
          have listed : info ∈ queryByNpProjectIdIsolateNo net db np p iso := by simp [query]
          obtain ⟨m, mem, row, stored, refers, key, plane, rfl⟩ := (mem_query sound).mp listed
          have held : Holds db np (p, iso) row.vlanNum :=
            ⟨m, mem, row, stored, refers, key, plane, rfl⟩
          have whole : ¬ AllocTorn net db answers np p iso := fun torn => torn.fresh _ held
          simp only
          rw [← query]
          by_cases own : ∃ m, Own db p pg iso m
          · rw [if_pos ((query_own_iff sound serves).mpr own)]
            exact .again whole held
          · rw [if_neg fun found => own ((query_own_iff sound serves).mp found),
              mapVlan_eq sound serves stored plane own]
            split
            · rename_i stopped
              refine .refused whole (.inl ?_)
              rcases stopped with stop | stop
              · exact ⟨_, by decide, stop⟩
              · exact ⟨_, by decide, stop⟩
            · exact .joined whole stored plane held

/-- A call that takes the last owner of an id from the map and fails at the row of the pool. -/
structure FreeTorn (db : Tables) (answers : Answers) (p : Int64) (pg : String)
    (iso : Int) : Prop where
  queried : answers.fails .queryMap = false
  last : ∃ m, Own db p pg iso m ∧
    ∀ other ∈ db.vlanMap, other.vlanId = m.vlanId → other.projectId = p ∧ other.pgUuid = pg
  checked : answers.fails .checkDelMap = false
  deleted : answers.fails .delMap = false
  unused : answers.inUseAtCheck = false ∧ answers.inUseAtDel = false
  stopped : answers.fails .checkDelPool = true ∨ answers.fails .delPool = true

/-- How a release ends. -/
inductive FreeEnd (db : Tables) (answers : Answers) (np : String) (p : Int64) (pg : String)
    (iso : Int) : Bool × Tables → Prop
  | unchanged (whole : ¬ FreeTorn db answers p pg iso) (done : Bool) :
      FreeEnd db answers np p pg iso (done, db)
  | shared (whole : ¬ FreeTorn db answers p pg iso) (done : Bool) {row : CDbNetplaneVlanPool}
      (stored : row ∈ db.vlanPool)
      (other : ∃ m ∈ (db.delMap p pg row.id).vlanMap, m.vlanId = row.id) :
      FreeEnd db answers np p pg iso (done, db.delMap p pg row.id)
  | torn (torn : FreeTorn db answers p pg iso) {row : CDbNetplaneVlanPool}
      (stored : row ∈ db.vlanPool)
      (last : ∀ m ∈ (db.delMap p pg row.id).vlanMap, m.vlanId ≠ row.id) :
      FreeEnd db answers np p pg iso (false, db.delMap p pg row.id)
  | freed (whole : ¬ FreeTorn db answers p pg iso) {row : CDbNetplaneVlanPool}
      (stored : row ∈ db.vlanPool) (plane : row.netplaneUuid = np)
      (owner : ∃ m ∈ db.vlanMap, m.vlanId = row.id)
      (last : ∀ m ∈ (db.delMap p pg row.id).vlanMap, m.vlanId ≠ row.id) :
      FreeEnd db answers np p pg iso (true, (db.delMap p pg row.id).delPool np row.vlanNum)

theorem query_group_cases (sound : Sound net db) :
    (queryByProjectIdPGIsolateNo net db p pg iso = none ∧ ¬ ∃ m, Own db p pg iso m) ∨
    ∃ m row, Own db p pg iso m ∧ row ∈ db.vlanPool ∧ row.id = m.vlanId ∧
      queryByProjectIdPGIsolateNo net db p pg iso = some row.vlanNum := by
  rw [queryByProjectIdPGIsolateNo]
  cases search : ((vlanMapNetplane net db).filter fun info =>
      info.projectId = p ∧ info.pgUuid = pg).find? (·.isolateNo = iso) with
  | none =>
      left
      refine ⟨rfl, ?_⟩
      rintro ⟨m, mem, project, group, number⟩
      obtain ⟨row, stored, refers, -⟩ := sound.owned m mem
      have listed := (mem_vlanMapNetplane sound).mpr ⟨m, mem, row, stored, refers, rfl⟩
      have missed := List.find?_eq_none.mp search _
        (List.mem_filter.mpr ⟨listed, decide_eq_true ⟨project, group⟩⟩)
      exact missed (decide_eq_true number)
  | some info =>
      right
      have found := List.find?_some search
      have listed := List.mem_of_find?_eq_some search
      rw [List.mem_filter, decide_eq_true_eq] at listed
      obtain ⟨m, mem, row, stored, refers, rfl⟩ := (mem_vlanMapNetplane sound).mp listed.1
      exact ⟨m, row, ⟨mem, listed.2.1, listed.2.2, of_decide_eq_true found⟩, stored, refers, rfl⟩

section Release

variable {m : CDbVlanMap} (sound : Sound net db) (serves : Serves net pg np iso)
  (own : Own db p pg iso m) (stored : row ∈ db.vlanPool) (refers : row.id = m.vlanId)

include sound serves own stored refers

theorem own_plane : row.netplaneUuid = np := by
  have ⟨_, other⟩ := sound.holds_row own.1 stored refers
  rw [own.2.2.1, own.2.2.2] at other
  exact (other.unique serves).1

theorem delVlanMap_eq (inUse : Bool) :
    checkDelVlanMap net db inUse p pg row.vlanNum iso =
      (if inUse then .resourceUsing else .success) ∧
    delVlanMap net db inUse p pg row.vlanNum iso =
      if inUse then (.resourceUsing, db) else (.success, db.delMap p pg row.id) := by
  have found := checkVlanMap_eq sound serves stored (own_plane sound serves own stored refers)
  have mapped : ∃ m ∈ db.vlanMap, m.projectId = p ∧ m.pgUuid = pg ∧ m.vlanId = row.id :=
    ⟨m, own.1, own.2.1, own.2.2.1, refers.symm⟩
  have check : checkDelVlanMap net db inUse p pg row.vlanNum iso =
      if inUse then .resourceUsing else .success := by
    rw [checkDelVlanMap, found]
    exact if_neg (not_not.mpr mapped)
  refine ⟨check, ?_⟩
  rw [delVlanMap, check, found]
  cases inUse with
  | true => rfl
  | false => rfl

theorem delVlanPool_eq :
    checkDelVlanPool net (db.delMap p pg row.id) np row.vlanNum =
      (if ∃ m ∈ (db.delMap p pg row.id).vlanMap,
        m.vlanId = row.id then .resourceUsing else .success) ∧
    delVlanPool net (db.delMap p pg row.id) np row.vlanNum =
      if ∃ m ∈ (db.delMap p pg row.id).vlanMap, m.vlanId = row.id then
        (.resourceUsing, db.delMap p pg row.id)
      else (.success, (db.delMap p pg row.id).delPool np row.vlanNum) := by
  have plane := own_plane sound serves own stored refers
  have ⟨known, ranged⟩ := sound.accepted row stored
  have ⟨low, high⟩ := net.ranged_bounds ranged
  have found : (db.delMap p pg row.id).vlanPool.find? (fun other =>
      other.netplaneUuid = np ∧ other.vlanNum = row.vlanNum) = some row :=
        plane ▸ sound.find_row stored
  have check : checkDelVlanPool net (db.delMap p pg row.id) np row.vlanNum =
      if ∃ m ∈ (db.delMap p pg row.id).vlanMap,
        m.vlanId = row.id then .resourceUsing else .success := by
    rw [checkDelVlanPool, if_neg (not_not.mpr (plane ▸ known)), if_neg (by omega),
      if_neg (by omega),
      found]
  refine ⟨check, ?_⟩
  rw [delVlanPool, check]
  by_cases other : ∃ m ∈ (db.delMap p pg row.id).vlanMap, m.vlanId = row.id
  · simp only [other, if_true]
  · simp only [other, if_false]

/-- The port group is the last owner just when no row is left for its id. -/
theorem last_iff : (∃ m, Own db p pg iso m ∧ ∀ other ∈ db.vlanMap, other.vlanId = m.vlanId →
      other.projectId = p ∧ other.pgUuid = pg) ↔
    ∀ m ∈ (db.delMap p pg row.id).vlanMap, m.vlanId ≠ row.id := by
  have left : ∀ other, other ∈ (db.delMap p pg row.id).vlanMap ↔ other ∈ db.vlanMap ∧
      ¬ (other.projectId = p ∧ other.pgUuid = pg ∧ other.vlanId = row.id) := by
    intro other
    simp only [Tables.delMap, List.mem_filter, decide_eq_true_eq]
  constructor
  · rintro ⟨first, ownF, last⟩ other mem same
    have ⟨memO, kept⟩ := (left other).mp mem
    -- the rows of one port group and key have one id
    obtain ⟨rowF, storedF, refersF, -⟩ := sound.owned first ownF.1
    have planes : rowF.netplaneUuid = row.netplaneUuid :=
      (own_plane sound serves ownF storedF refersF).trans
        (own_plane sound serves own stored refers).symm
    have holdsF := (sound.holds_row ownF.1 storedF refersF).1
    have holds := (sound.holds_row own.1 stored refers).1
    rw [planes, ownF.2.1, ownF.2.2.2] at holdsF
    rw [own.2.1, own.2.2.2] at holds
    have nums := (sound.keyed _ _ _ _ _ holdsF holds).mpr rfl
    have rows := sound.nums rowF storedF row stored planes nums
    subst rows
    have ⟨project, group⟩ := last other memO (same.trans refersF)
    exact kept ⟨project, group, same⟩
  · intro none_
    refine ⟨m, own, fun other mem same => ?_⟩
    by_contra apart
    refine none_ other ((left other).mpr ⟨mem, ?_⟩) (same.trans refers.symm)
    rintro ⟨project, group, -⟩
    exact apart ⟨project, group⟩

theorem free_row (queried : answers.fails .queryMap = false) :
    FreeEnd db answers np p pg iso
      (match answers.check .checkDelMap
          (checkDelVlanMap net db answers.inUseAtCheck p pg row.vlanNum iso) with
        | .resourceUsing | .itemNoExist => (true, db)
        | .success =>
            match answers.execute .delMap db
              (delVlanMap net db answers.inUseAtDel p pg row.vlanNum iso) with
            | (.success, db) =>
                match answers.check .checkDelPool (checkDelVlanPool net db np row.vlanNum) with
                | .resourceUsing | .itemNoExist => (true, db)
                | .success =>
                    match answers.execute .delPool db (delVlanPool net db np row.vlanNum) with
                    | (.success, db) => (true, db)
                    | (_, db) => (false, db)
                | _ => (false, db)
            | (_, db) => (false, db)
        | _ => (false, db)) := by
  have plane := own_plane sound serves own stored refers
  rw [(delVlanMap_eq sound serves own stored refers answers.inUseAtCheck).1,
    (delVlanMap_eq sound serves own stored refers answers.inUseAtDel).2, Answers.check,
      Answers.execute]
  cases checked : answers.fails .checkDelMap with
  | true => exact .unchanged (fun torn => by simp [torn.checked] at checked) false
  | false =>
      cases used : answers.inUseAtCheck with
      | true => exact .unchanged (fun torn => by simp [torn.unused.1] at used) true
      | false =>
          cases deleted : answers.fails .delMap with
          | true => exact .unchanged (fun torn => by simp [torn.deleted] at deleted) false
          | false =>
              cases usedD : answers.inUseAtDel with
              | true => exact .unchanged (fun torn => by simp [torn.unused.2] at usedD) false
              | false =>
                  have last := last_iff sound serves own stored refers
                  have ⟨check, del⟩ := delVlanPool_eq sound serves own stored refers
                  simp only [Bool.false_eq_true, if_false, Answers.check, Answers.execute,
                    check, del]
                  by_cases other : ∃ m ∈ (db.delMap p pg row.id).vlanMap, m.vlanId = row.id
                  · have whole : ¬ FreeTorn db answers p pg iso := by
                      intro torn
                      obtain ⟨m, mem, same⟩ := other
                      exact last.mp torn.last m mem same
                    simp only [other, if_true]
                    cases answers.fails .checkDelPool with
                    | true => exact .shared whole false stored other
                    | false => exact .shared whole true stored other
                  · have alone : ∀ m ∈ (db.delMap p pg row.id).vlanMap, m.vlanId ≠ row.id :=
                      fun m mem same => other ⟨m, mem, same⟩
                    simp only [other, if_false]
                    cases checkedP : answers.fails .checkDelPool with
                    | true =>
                        exact .torn ⟨queried, last.mpr alone, checked, deleted, ⟨used, usedD⟩,
                          .inl checkedP⟩ stored alone
                    | false =>
                        cases deletedP : answers.fails .delPool with
                        | true =>
                            exact .torn ⟨queried, last.mpr alone, checked, deleted, ⟨used, usedD⟩,
                              .inr deletedP⟩ stored alone
                        | false =>
                            refine .freed (fun torn => ?_) stored plane
                              ⟨m, own.1, refers.symm⟩ alone
                            rcases torn.stopped with stop | stop
                            · simp [stop] at checkedP
                            · simp [stop] at deletedP

end Release

theorem freeVlanID_end (sound : Sound net db) (serves : Serves net pg np iso) :
    FreeEnd db answers np p pg iso (freeVlanID net answers np p pg iso db) := by
  rw [freeVlanID, if_neg serves.plane, if_neg serves.named]
  cases queried : answers.fails .queryMap with
  | true => exact .unchanged (fun torn => by simp [torn.queried] at queried) false
  | false =>
      simp only [Bool.false_eq_true, if_false]
      rcases query_group_cases sound with ⟨query, none_⟩ | ⟨m, row, own, stored, refers, query⟩
      · rw [query]
        refine .unchanged (fun torn => ?_) true
        obtain ⟨m, own, -⟩ := torn.last
        exact none_ ⟨m, own⟩
      · rw [query]
        exact free_row sound serves own stored refers queried

end Tecs.VlanPool
