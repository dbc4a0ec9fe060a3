import Tecs.Vnm.ScheduleLedger

set_option autoImplicit false

/-! The loops over the rows without a bond. -/

namespace Tecs.VnmSchedule

section Rules

/-- What the two rules have in common, with the property of rows that each of them keeps. -/
structure RowRule.Lawful (rule : RowRule) (p : CDbSchedule → Prop) : Prop where
  keys : ∀ row, SameKeys (rule.take row) row
  free_take : ∀ row, rule.free (rule.take row) = rule.free row - 1
  keeps : ∀ row, p row → rule.free row ≥ 1 → p (rule.take row)
  whole : ∀ row, p row → row.Whole
  bound : ∀ row, p row → 0 ≤ rule.free row
  merges : Merges p
  free_merge : ∀ old news,
    ((∀ u ∈ news, u.switchUuid ≠ old.switchUuid) ∧
        rule.free (mergeRow old news) = rule.free old) ∨
      ∃ u ∈ news, u.switchUuid = old.switchUuid ∧ rule.free (mergeRow old news) = rule.free u
  free_update : ∀ row c, row.switchUuid = c.switchUuid →
    rule.free (updateRow c row) = rule.free c

theorem sdvsRule_lawful : sdvsRule.Lawful CDbSchedule.Whole where
  keys _ := ⟨rfl, rfl, rfl⟩
  free_take _ := rfl
  keeps row whole enough := ⟨by
    change 0 ≤ row.switchFreeNum - 1
    change row.switchFreeNum ≥ 1 at enough
    omega, whole.sriov, whole.port⟩
  whole _ := id
  bound _ whole := whole.switch
  merges := merges_whole
  free_merge old news := by
    rcases mergeRow_switch old news with ⟨none, free, -⟩ | ⟨u, member, same, free, -⟩
    · exact Or.inl ⟨none, free⟩
    · exact Or.inr ⟨u, member, same, free⟩
  free_update _ _ same := (updateRow_switch same).1

theorem edvsRule_lawful : edvsRule.Lawful fun row => row.Whole ∧ row.Even where
  keys _ := ⟨rfl, rfl, rfl⟩
  free_take _ := rfl
  keeps row both enough := by
    obtain ⟨whole, even⟩ := both
    change row.switchFreeNum = row.switchSriovFreeNum at even
    change row.switchSriovFreeNum ≥ 1 at enough
    refine ⟨⟨?_, ?_, whole.port⟩, ?_⟩
    · change 0 ≤ row.switchFreeNum - 1
      omega
    · change 0 ≤ row.switchSriovFreeNum - 1
      omega
    · change row.switchFreeNum - 1 = row.switchSriovFreeNum - 1
      omega
  whole _ both := both.1
  bound _ both := both.1.sriov
  merges := merges_wholeEven
  free_merge old news := by
    rcases mergeRow_switch old news with ⟨none, -, free⟩ | ⟨u, member, same, -, free⟩
    · exact Or.inl ⟨none, free⟩
    · exact Or.inr ⟨u, member, same, free⟩
  free_update _ _ same := (updateRow_switch same).2

end Rules

section Serving

variable {rule : RowRule} {p : CDbSchedule → Prop} {vnics : List ℕ} {rows : List CDbSchedule}
  {start : Alloc} {name : String} {s : Serving} {nic : ℕ}

theorem given_serving : (s.give rule nic).alloc.given =
    s.alloc.given ++ [⟨nic, (rule.take s.row).switchUuid, none⟩] := by
  unfold Serving.give
  cases rule.port s.row <;> rfl

theorem vSwitch_serving (other : ℕ) : (s.give rule nic).alloc.vSwitchUuid other =
    if other = nic then (rule.take s.row).switchUuid else s.alloc.vSwitchUuid other := by
  unfold Serving.give
  cases rule.port s.row <;> exact @vSwitch_give s.alloc nic (rule.take s.row) none other

theorem used_serving (t : String) : (s.give rule nic).alloc.used t =
    s.alloc.used t + if (rule.take s.row).switchUuid = t then 1 else 0 := by
  unfold Serving.give
  cases rule.port s.row <;> exact used_give

theorem usedPort_serving (q : String) :
    (s.give rule nic).alloc.usedPort q = s.alloc.usedPort q := by
  have given := @usedPort_give s.alloc nic (rule.take s.row) none q
  rw [if_neg (by simp), Nat.add_zero] at given
  unfold Serving.give
  cases rule.port s.row <;> exact given

/-- What one row's loop keeps. -/
structure Serving.Inv (p : CDbSchedule → Prop) (vnics : List ℕ) (rows : List CDbSchedule)
    (start : Alloc) (name : String) (s : Serving) : Prop where
  group : start.InGroup vnics rows s.alloc
  left : s.left = (s.alloc.waiting vnics).length
  update : ∀ u ∈ s.vecDBUpdate, p u
  row : p s.row
  switch : s.row.switchUuid = name

theorem Serving.Inv.give (lawful : rule.Lawful p) (nodup : vnics.Nodup)
    (own : ∃ row ∈ rows, row.switchUuid = name) (named : name ≠ "")
    (inv : s.Inv p vnics rows start name) (member : nic ∈ vnics)
    (free : s.alloc.vSwitchUuid nic = "") (enough : rule.free s.row ≥ 1) :
    (s.give rule nic).Inv p vnics rows start name := by
  have taken := lawful.keeps s.row inv.row enough
  have switch : (rule.take s.row).switchUuid = name :=
    (lawful.keys s.row).switchUuid.trans inv.switch
  have given : start.InGroup vnics rows (s.alloc.give nic (rule.take s.row) none) :=
    inv.group.give member free (switch ▸ named) (switch ▸ own) (lawful.whole _ taken)
  have count := @waiting_give s.alloc nic (rule.take s.row) none vnics nodup member
    (inv.group.fresh free)
  have left := inv.left
  refine ⟨?_, ?_, lawful.merges.updateDBRes inv.update taken, taken, switch⟩
  · unfold Serving.give
    cases rule.port s.row with
    | none => exact given
    | some port => exact given.recordSriov
  · have waiting : (s.give rule nic).alloc.waiting vnics =
        (s.alloc.give nic (rule.take s.row) none).waiting vnics := by
      unfold Serving.give
      cases rule.port s.row <;> rfl
    rw [waiting]
    change s.left - 1 = _
    omega

/-- A property that every vNIC set on the switch keeps is kept by the whole loop. -/
theorem serveRow_keeps {P : Serving → Prop}
    (step : ∀ s, ∀ nic ∈ vnics, P s → s.alloc.vSwitchUuid nic = "" → rule.free s.row ≥ 1 →
      P (s.give rule nic)) (holds : P s) : P (serveRow rule vnics s) := by
  induction vnics generalizing s with
  | nil => exact holds
  | cons nic rest ih =>
      have later : ∀ s, ∀ nic ∈ rest, P s → s.alloc.vSwitchUuid nic = "" →
          rule.free s.row ≥ 1 → P (s.give rule nic) :=
        fun s other member => step s other (List.mem_cons_of_mem nic member)
      rw [serveRow]
      by_cases assigned : s.alloc.vSwitchUuid nic ≠ ""
      · rw [if_pos assigned]
        exact ih later holds
      · rw [if_neg assigned]
        by_cases enough : rule.free s.row ≥ 1
        · rw [if_pos enough]
          exact ih later (step s nic List.mem_cons_self holds (not_not.mp assigned) enough)
        · rw [if_neg enough]
          exact holds

theorem serveRow_assigned (keys : ∀ row, SameKeys (rule.take row) row)
    (named : s.row.switchUuid ≠ "") (assigned : s.alloc.vSwitchUuid nic ≠ "") :
    (serveRow rule vnics s).alloc.vSwitchUuid nic ≠ "" := by
  refine (@serveRow_keeps rule vnics s
    (fun s => s.row.switchUuid ≠ "" ∧ s.alloc.vSwitchUuid nic ≠ "") ?_ ⟨named, assigned⟩).2
  intro s other _ holds _ _
  have switch := (keys s.row).switchUuid
  refine ⟨?_, ?_⟩
  · change (rule.take s.row).switchUuid ≠ ""
    rw [switch]
    exact holds.1
  · rw [vSwitch_serving]
    split
    · rw [switch]
      exact holds.1
    · exact holds.2

section Unset

variable {alloc after : Alloc}

theorem unset_assigned (assigned : alloc.vSwitchUuid nic ≠ "") :
    alloc.unset (nic :: vnics) = alloc.unset vnics := by
  rw [Alloc.unset, List.filter_cons_of_neg (by simpa using assigned), Alloc.unset]

theorem unset_free (free : alloc.vSwitchUuid nic = "") :
    alloc.unset (nic :: vnics) = alloc.unset vnics + 1 := by
  rw [Alloc.unset, List.filter_cons_of_pos (by simpa using free), List.length_cons, Alloc.unset]

theorem unset_le (sets : ∀ nic, after.vSwitchUuid nic = "" → alloc.vSwitchUuid nic = "") :
    after.unset vnics ≤ alloc.unset vnics := by
  refine (List.monotone_filter_right vnics fun nic => ?_).length_le
  rw [decide_eq_true_eq, decide_eq_true_eq]
  exact sets nic

end Unset

/-- A row with room for all that have no switch leaves none of them without. -/
theorem serveRow_all (keys : ∀ row, SameKeys (rule.take row) row)
    (take : ∀ row, rule.free (rule.take row) = rule.free row - 1)
    (named : s.row.switchUuid ≠ "") (room : s.alloc.unset vnics ≤ rule.free s.row) :
    ∀ nic ∈ vnics, (serveRow rule vnics s).alloc.vSwitchUuid nic ≠ "" := by
  induction vnics generalizing s with
  | nil => exact fun nic none => nomatch none
  | cons nic rest ih =>
      rw [serveRow, List.forall_mem_cons]
      by_cases assigned : s.alloc.vSwitchUuid nic ≠ ""
      · rw [if_pos assigned]
        rw [unset_assigned assigned] at room
        exact ⟨serveRow_assigned keys named assigned, ih named room⟩
      · rw [if_neg assigned]
        rw [unset_free (not_not.mp assigned)] at room
        have enough : rule.free s.row ≥ 1 := by omega
        rw [if_pos enough]
        have namedNext : (s.give rule nic).row.switchUuid ≠ "" := by
          change (rule.take s.row).switchUuid ≠ ""
          rw [(keys s.row).switchUuid]
          exact named
        have roomNext : (s.give rule nic).alloc.unset rest ≤ rule.free (s.give rule nic).row := by
          have fewer : (s.give rule nic).alloc.unset rest ≤ s.alloc.unset rest := by
            refine unset_le fun other none => ?_
            rw [vSwitch_serving] at none
            split at none
            · exact (namedNext none).elim
            · exact none
          have one := take s.row
          change _ ≤ rule.free (rule.take s.row)
          omega
        refine ⟨serveRow_assigned keys namedNext ?_, ih namedNext roomNext⟩
        rw [vSwitch_serving, if_pos rfl]
        exact namedNext

/-- A row gives as much as it has, and to no more than have no switch. -/
theorem serveRow_used {t : String} (lawful : rule.Lawful p) (nodup : vnics.Nodup)
    (switch : s.row.switchUuid = t) (bound : 0 ≤ rule.free s.row) :
    ((serveRow rule vnics s).alloc.used t : ℤ) =
      s.alloc.used t + min (rule.free s.row) (s.alloc.unset vnics) := by
  induction vnics generalizing s with
  | nil =>
      change (s.alloc.used t : ℤ) = s.alloc.used t + min (rule.free s.row) (0 : ℕ)
      omega
  | cons nic rest ih =>
      rw [List.nodup_cons] at nodup
      rw [serveRow]
      by_cases assigned : s.alloc.vSwitchUuid nic ≠ ""
      · rw [if_pos assigned, unset_assigned assigned]
        exact ih nodup.2 switch bound
      · rw [if_neg assigned, unset_free (not_not.mp assigned)]
        by_cases enough : rule.free s.row ≥ 1
        · rw [if_pos enough]
          have one : rule.free (s.give rule nic).row = rule.free s.row - 1 :=
            lawful.free_take s.row
          have switchNext : (s.give rule nic).row.switchUuid = t :=
            (lawful.keys s.row).switchUuid.trans switch
          have others : (s.give rule nic).alloc.unset rest = s.alloc.unset rest := by
            unfold Alloc.unset
            congr 1
            apply List.filter_congr
            intro other member
            have apart : other ≠ nic := fun same => nodup.1 (same ▸ member)
            rw [vSwitch_serving, if_neg apart]
          have used := @used_serving rule s nic t
          rw [if_pos (by exact switchNext)] at used
          rw [ih nodup.2 switchNext (by omega), used, others, one]
          omega
        · rw [if_neg enough]
          omega

theorem serveRow_grows {todo : List ℕ} (inside : ∀ nic ∈ todo, nic ∈ vnics)
    (grows : start.Grows vnics s.alloc) : start.Grows vnics (serveRow rule todo s).alloc := by
  refine @serveRow_keeps rule todo s (fun s => start.Grows vnics s.alloc) ?_ grows
  intro s nic member grows free _
  have given := @Alloc.Grows.give s.alloc start nic (rule.take s.row) none vnics grows
    (inside nic member) free
  unfold Serving.give
  cases rule.port s.row with
  | none => exact given
  | some port => exact given.remap

/-- Where all have a switch a row changes nothing. -/
theorem serveRow_done (all : ∀ nic ∈ vnics, s.alloc.vSwitchUuid nic ≠ "") :
    serveRow rule vnics s = s := by
  induction vnics with
  | nil => rfl
  | cons nic rest ih =>
      rw [List.forall_mem_cons] at all
      rw [serveRow, if_pos all.1]
      exact ih all.2

theorem serveRow_inv (lawful : rule.Lawful p) (nodup : vnics.Nodup)
    (own : ∃ row ∈ rows, row.switchUuid = name) (named : name ≠ "")
    (inv : s.Inv p vnics rows start name) :
    (serveRow rule vnics s).Inv p vnics rows start name :=
  serveRow_keeps (fun _ _ member inv free enough =>
    inv.give lawful nodup own named member free enough) inv

end Serving

section Tracking

variable {rule : RowRule} {p : CDbSchedule → Prop} {free : ℕ} {t : String}
  {alloc : Alloc} {vecDBUpdate rows : List CDbSchedule} {s : Serving} {vnics : List ℕ} {nic : ℕ}

/-- The rows kept for a switch are up to date: they have what is left of its free number. -/
structure Tracks (rule : RowRule) (free : ℕ) (t : String) (alloc : Alloc)
    (vecDBUpdate : List CDbSchedule) : Prop where
  numbers : ∀ u ∈ vecDBUpdate, u.switchUuid = t → rule.free u = free - alloc.used t
  covers : alloc.used t ≠ 0 → ∃ u ∈ vecDBUpdate, u.switchUuid = t
  bound : alloc.used t ≤ free

theorem tracks_nil (none : alloc.used t = 0) : Tracks rule free t alloc [] where
  numbers _ := (nomatch ·)
  covers used := (used none).elim
  bound := by omega

/-- Rows read from the inventory are up to date once they are merged. -/
theorem Tracks.merged (lawful : rule.Lawful p) (tracks : Tracks rule free t alloc vecDBUpdate)
    (read : ∀ row ∈ rows, row.switchUuid = t → rule.free row = free) :
    ∀ row ∈ mergeAllocDBResult rows vecDBUpdate, row.switchUuid = t →
      rule.free row = free - alloc.used t := by
  intro row member same
  obtain ⟨old, inside, rfl⟩ := List.mem_map.mp member
  have switch := (sameKeys_mergeRow old vecDBUpdate).switchUuid.symm.trans same
  rcases lawful.free_merge old vecDBUpdate with ⟨none, merged⟩ | ⟨u, found, key, merged⟩
  · have unused : alloc.used t = 0 := by
      by_contra used
      obtain ⟨u, found, key⟩ := tracks.covers used
      exact none u found (key.trans switch.symm)
    rw [merged, read old inside switch, unused]
    omega
  · rw [merged]
    exact tracks.numbers u found (key.trans switch)

/-- Another switch's row leaves the rows of this one alone. -/
theorem Tracks.give_other {c : CDbSchedule} {after : Alloc}
    (tracks : Tracks rule free t alloc vecDBUpdate) (other : c.switchUuid ≠ t)
    (same : after.used t = alloc.used t) :
    Tracks rule free t after (updateDBRes vecDBUpdate c) where
  numbers := by
    intro u member key
    rw [same]
    rcases mem_updateDBRes member with ⟨v, inside, rfl⟩ | rfl
    · have keyOld := (sameKeys_updateRow c v).switchUuid.symm.trans key
      rw [updateRow_other (fun again => other (again.symm.trans keyOld))]
      exact tracks.numbers v inside keyOld
    · exact (other key).elim
  covers := by
    intro used
    rw [same] at used
    obtain ⟨u, inside, key⟩ := tracks.covers used
    exact ⟨updateRow c u, updateRow_mem_updateDBRes inside,
      (sameKeys_updateRow c u).switchUuid.trans key⟩
  bound := same ▸ tracks.bound

/-- The step of a row: it and the rows kept for its switch go down together. -/
theorem tracks_give (lawful : rule.Lawful p)
    (tracks : Tracks rule free t s.alloc s.vecDBUpdate)
    (right : s.row.switchUuid = t → rule.free s.row = free - s.alloc.used t)
    (enough : rule.free s.row ≥ 1) :
    Tracks rule free t (s.give rule nic).alloc (s.give rule nic).vecDBUpdate ∧
      ((s.give rule nic).row.switchUuid = t →
        rule.free (s.give rule nic).row = free - (s.give rule nic).alloc.used t) := by
  have keys := (lawful.keys s.row).switchUuid
  have one := lawful.free_take s.row
  have used := @used_serving rule s nic t
  rw [keys] at used
  change Tracks rule free t _ (updateDBRes s.vecDBUpdate (rule.take s.row)) ∧
    ((rule.take s.row).switchUuid = t → rule.free (rule.take s.row) = _)
  rw [keys]
  by_cases same : s.row.switchUuid = t
  · rw [if_pos same] at used
    have number := right same
    have taken : rule.free (rule.take s.row) = free - (s.give rule nic).alloc.used t := by
      omega
    refine ⟨⟨?_, ?_, by omega⟩, fun _ => taken⟩
    · intro u member key
      rcases mem_updateDBRes member with ⟨v, inside, rfl⟩ | rfl
      · have keyOld := (sameKeys_updateRow (rule.take s.row) v).switchUuid.symm.trans key
        rw [lawful.free_update v _ (keyOld.trans (keys.trans same).symm)]
        exact taken
      · exact taken
    · intro _
      obtain ⟨u, inside, key, -⟩ := updateDBRes_covers s.vecDBUpdate (rule.take s.row)
      exact ⟨u, inside, key.trans (keys.trans same)⟩
  · rw [if_neg same, Nat.add_zero] at used
    exact ⟨tracks.give_other (fun again => same (keys.symm.trans again)) used,
      fun again => (same again).elim⟩

theorem serveRow_tracks (lawful : rule.Lawful p)
    (tracks : Tracks rule free t s.alloc s.vecDBUpdate)
    (right : s.row.switchUuid = t → rule.free s.row = free - s.alloc.used t) :
    Tracks rule free t (serveRow rule vnics s).alloc (serveRow rule vnics s).vecDBUpdate :=
  (@serveRow_keeps rule vnics s (fun s => Tracks rule free t s.alloc s.vecDBUpdate ∧
    (s.row.switchUuid = t → rule.free s.row = free - s.alloc.used t))
    (fun _ _ _ holds _ enough => tracks_give lawful holds.1 holds.2 enough) ⟨tracks, right⟩).1

theorem serveRow_used_other (lawful : rule.Lawful p) (other : s.row.switchUuid ≠ t) :
    (serveRow rule vnics s).alloc.used t = s.alloc.used t := by
  refine (@serveRow_keeps rule vnics s
    (fun after => after.row.switchUuid ≠ t ∧ after.alloc.used t = s.alloc.used t) ?_
    ⟨other, rfl⟩).2
  intro after nic _ holds _ _
  have keys := (lawful.keys after.row).switchUuid
  refine ⟨fun again => holds.1 (keys.symm.trans again), ?_⟩
  rw [used_serving, keys, if_neg holds.1, Nat.add_zero]
  exact holds.2

end Tracking

section Rows

variable {rule : RowRule} {p : CDbSchedule → Prop} {free : ℕ} {t : String} {isLoop : Bool}
  {group : CReqNumInfo} {start : Alloc} {rows todo : List CDbSchedule} {pr : Progress}

/-- What the loop over the rows of a group keeps. -/
structure Progress.Inv (p : CDbSchedule → Prop) (vnics : List ℕ) (rows : List CDbSchedule)
    (start : Alloc) (pr : Progress) : Prop where
  group : start.InGroup vnics rows pr.alloc
  left : pr.left = (pr.alloc.waiting vnics).length
  update : ∀ u ∈ pr.vecDBUpdate, p u

/-- A row that the loop may come to. -/
structure Usable (p : CDbSchedule → Prop) (rows : List CDbSchedule) (row : CDbSchedule) :
    Prop where
  keeps : p row
  named : row.switchUuid ≠ ""
  own : ∃ old ∈ rows, old.switchUuid = row.switchUuid

def Progress.serving (pr : Progress) (row : CDbSchedule) : Serving :=
  ⟨pr.alloc, pr.vecDBUpdate, row, pr.left⟩

def Progress.next (rule : RowRule) (group : CReqNumInfo) (pr : Progress) (row : CDbSchedule) :
    Progress :=
  let s := serveRow rule group.setVnicIter (pr.serving row)
  ⟨s.alloc, s.vecDBUpdate, s.left⟩

/-- A row of the loop is passed over or it is served. -/
theorem serveRows_cons (row : CDbSchedule) (todo : List CDbSchedule) (pr : Progress) :
    serveRows rule isLoop group (row :: todo) pr = pr ∨
    serveRows rule isLoop group (row :: todo) pr = serveRows rule isLoop group todo pr ∨
      (isLoop = true → (group.strDeployedDvs = "" ∨ group.strDeployedDvs = row.switchUuid) ∧
        pr.left ≤ rule.free row) ∧
      serveRows rule isLoop group (row :: todo) pr =
        serveRows rule isLoop group todo (pr.next rule group row) := by
  rw [serveRows]
  by_cases done : pr.left = 0
  · exact Or.inl (if_pos done)
  · rw [if_neg done]
    by_cases skip : isLoop = true ∧ ((group.strDeployedDvs ≠ "" ∧
        group.strDeployedDvs ≠ row.switchUuid) ∨ rule.free row < pr.left)
    · exact Or.inr (Or.inl (if_pos skip))
    · refine Or.inr (Or.inr ⟨fun loop => ?_, if_neg skip⟩)
      rw [not_and, not_or, not_and_or, not_not, not_not, Int.not_lt] at skip
      exact skip loop

theorem next_inv (lawful : rule.Lawful p) (nodup : group.setVnicIter.Nodup)
    {row : CDbSchedule} (usable : Usable p rows row)
    (inv : pr.Inv p group.setVnicIter rows start) :
    (pr.next rule group row).Inv p group.setVnicIter rows start := by
  have begun : (pr.serving row).Inv p group.setVnicIter rows start row.switchUuid :=
    ⟨inv.group, inv.left, inv.update, usable.keeps, rfl⟩
  have served := serveRow_inv lawful nodup usable.own usable.named begun
  exact ⟨served.group, served.left, served.update⟩

/-- A property that every row's loop keeps is kept by the loop over the rows. -/
theorem serveRows_keeps {P : Progress → Prop}
    (step : ∀ row ∈ todo, ∀ pr, P pr → P (pr.next rule group row)) (holds : P pr) :
    P (serveRows rule isLoop group todo pr) := by
  induction todo generalizing pr with
  | nil => exact holds
  | cons row todo ih =>
      rw [List.forall_mem_cons] at step
      rcases serveRows_cons row todo pr with same | same | ⟨-, same⟩
      · rw [same]
        exact holds
      · rw [same]
        exact ih step.2 holds
      · rw [same]
        exact ih step.2 (step.1 pr holds)

theorem serveRows_inv (lawful : rule.Lawful p) (nodup : group.setVnicIter.Nodup)
    (usable : ∀ row ∈ todo, Usable p rows row)
    (inv : pr.Inv p group.setVnicIter rows start) :
    (serveRows rule isLoop group todo pr).Inv p group.setVnicIter rows start := by
  induction todo generalizing pr with
  | nil => exact inv
  | cons row todo ih =>
      rw [List.forall_mem_cons] at usable
      rcases serveRows_cons row todo pr with same | same | ⟨-, same⟩
      · rw [same]
        exact inv
      · rw [same]
        exact ih usable.2 inv
      · rw [same]
        exact ih usable.2 (next_inv lawful nodup usable.1 inv)

/-- Who has no switch is waiting. -/
theorem unassigned_le (inv : pr.Inv p group.setVnicIter rows start) :
    pr.alloc.unset group.setVnicIter ≤ pr.left := by
  have fewer := (List.monotone_filter_right group.setVnicIter
    (p := fun nic => decide (pr.alloc.vSwitchUuid nic = ""))
    (q := fun nic => decide (nic ∉ pr.alloc.granted)) (by
      intro nic
      rw [decide_eq_true_eq, decide_eq_true_eq]
      exact inv.group.fresh)).length_le
  have left := inv.left
  rw [Alloc.waiting] at left
  rw [Alloc.unset]
  omega

/-- In the loop case one row serves all that are left. -/
theorem next_all (lawful : rule.Lawful p) {row : CDbSchedule} (usable : Usable p rows row)
    (inv : pr.Inv p group.setVnicIter rows start) (room : pr.left ≤ rule.free row) :
    ∀ nic ∈ group.setVnicIter, (pr.next rule group row).alloc.vSwitchUuid nic ≠ "" :=
  serveRow_all (s := pr.serving row) lawful.keys lawful.free_take usable.named
    (Int.le_trans (unassigned_le inv) room)

theorem next_done {row : CDbSchedule}
    (all : ∀ nic ∈ group.setVnicIter, pr.alloc.vSwitchUuid nic ≠ "") :
    pr.next rule group row = pr := by
  unfold Progress.next
  rw [serveRow_done (s := pr.serving row) all]
  rfl

theorem serveRows_done (all : ∀ nic ∈ group.setVnicIter, pr.alloc.vSwitchUuid nic ≠ "") :
    serveRows rule isLoop group todo pr = pr := by
  induction todo with
  | nil => rfl
  | cons row todo ih =>
      rcases serveRows_cons row todo pr with same | same | ⟨-, same⟩
      · exact same
      · exact same.trans ih
      · rw [next_done all] at same
        exact same.trans ih

/-- The rows of a switch stay up to date if no two of them are served. -/
theorem serveRows_tracks (lawful : rule.Lawful p) (nodup : group.setVnicIter.Nodup)
    (usable : ∀ row ∈ todo, Usable p rows row)
    (inv : pr.Inv p group.setVnicIter rows start)
    (single : isLoop = true ∨ (todo.filter fun row => row.switchUuid = t).length ≤ 1)
    (tracks : Tracks rule free t pr.alloc pr.vecDBUpdate)
    (right : ∀ row ∈ todo, row.switchUuid = t → rule.free row = free - pr.alloc.used t) :
    Tracks rule free t (serveRows rule isLoop group todo pr).alloc
      (serveRows rule isLoop group todo pr).vecDBUpdate := by
  induction todo generalizing pr with
  | nil => exact tracks
  | cons row todo ih =>
      rw [List.forall_mem_cons] at usable right
      have fewer : isLoop = true ∨ (todo.filter fun row => row.switchUuid = t).length ≤ 1 := by
        refine single.imp id fun few => ?_
        have sub := ((List.sublist_cons_self row todo).filter
          fun row => decide (row.switchUuid = t)).length_le
        omega
      rcases serveRows_cons row todo pr with same | same | ⟨loops, same⟩
      · rw [same]
        exact tracks
      · rw [same]
        exact ih usable.2 inv fewer tracks right.2
      · rw [same]
        have next := next_inv lawful nodup usable.1 inv
        have tracksNext : Tracks rule free t (pr.next rule group row).alloc
            (pr.next rule group row).vecDBUpdate :=
          serveRow_tracks (s := pr.serving row) lawful tracks right.1
        cases single with
        | inl loop =>
            rw [serveRows_done (next_all lawful usable.1 inv (loops loop).2)]
            exact tracksNext
        | inr few =>
            apply ih usable.2 next fewer tracksNext
            intro other member key
            by_cases here : row.switchUuid = t
            · rw [List.filter_cons_of_pos (by simpa using here), List.length_cons] at few
              have present := List.length_pos_of_mem
                ((List.mem_filter (p := fun row => decide (row.switchUuid = t))).mpr
                  ⟨member, decide_eq_true key⟩)
              omega
            · have used : (pr.next rule group row).alloc.used t = pr.alloc.used t :=
                serveRow_used_other (s := pr.serving row) lawful here
              rw [used]
              exact right.2 other member key

/-- A row that is served, with the group it is for and what was allocated before. -/
structure Offer where
  group : CReqNumInfo
  alloc : Alloc
  row : CDbSchedule

/-- The row has no more than is left of its switch, or no more is taken of it. -/
def Offer.Backed (offer : Offer) (rule : RowRule) (free : ℕ) : Prop :=
  rule.free offer.row ≤ free - offer.alloc.used offer.row.switchUuid ∨
    (offer.alloc.unset offer.group.setVnicIter : ℤ) ≤
      free - offer.alloc.used offer.row.switchUuid

/-- The rows that the loop serves. -/
def rowOffers (rule : RowRule) (isLoop : Bool) (group : CReqNumInfo) :
    List CDbSchedule → Progress → List Offer
  | [], _ => []
  | row :: rows, pr =>
      if pr.left = 0 then []
      else if isLoop ∧ ((group.strDeployedDvs ≠ "" ∧ group.strDeployedDvs ≠ row.switchUuid) ∨
          rule.free row < pr.left) then
        rowOffers rule isLoop group rows pr
      else ⟨group, pr.alloc, row⟩ :: rowOffers rule isLoop group rows (pr.next rule group row)

/-- A switch that was not overdrawn still is not if and only if all its rows were backed. -/
theorem serveRows_used (lawful : rule.Lawful p) (nodup : group.setVnicIter.Nodup)
    (usable : ∀ row ∈ todo, Usable p rows row) :
    (serveRows rule isLoop group todo pr).alloc.used t ≤ free ↔
      pr.alloc.used t ≤ free ∧ ∀ offer ∈ rowOffers rule isLoop group todo pr,
        offer.row.switchUuid = t → offer.Backed rule free := by
  induction todo generalizing pr with
  | nil => simp [serveRows, rowOffers]
  | cons row todo ih =>
      rw [List.forall_mem_cons] at usable
      rw [serveRows, rowOffers]
      by_cases done : pr.left = 0
      · simp [done]
      rw [if_neg done, if_neg done]
      by_cases skip : isLoop = true ∧ ((group.strDeployedDvs ≠ "" ∧
          group.strDeployedDvs ≠ row.switchUuid) ∨ rule.free row < pr.left)
      · rw [if_pos skip, if_pos skip]
        exact ih usable.2
      · rw [if_neg skip, if_neg skip, List.forall_mem_cons, ← and_assoc]
        refine (@ih (pr.next rule group row) usable.2).trans (and_congr_left' ?_)
        have bound := lawful.bound row usable.1.keeps
        by_cases same : row.switchUuid = t
        · have used : ((pr.next rule group row).alloc.used t : ℤ) = _ :=
            serveRow_used (s := pr.serving row) lawful nodup same bound
          simp only [same, forall_const, Offer.Backed]
          change _ = (pr.alloc.used t : ℤ) +
            min (rule.free row) (pr.alloc.unset group.setVnicIter) at used
          omega
        · have used : (pr.next rule group row).alloc.used t = pr.alloc.used t :=
            serveRow_used_other (s := pr.serving row) lawful same
          simp [used, same]

theorem serveRows_grows (grows : start.Grows group.setVnicIter pr.alloc) :
    start.Grows group.setVnicIter (serveRows rule isLoop group todo pr).alloc :=
  @serveRows_keeps rule isLoop group todo pr
    (fun pr => start.Grows group.setVnicIter pr.alloc)
    (fun row _ pr grows => serveRow_grows (s := pr.serving row) (fun _ => id) grows) grows

/-- The vNICs of a group that are given anything are on one switch, the deployed one if there is
one. -/
def CReqNumInfo.OneSwitch (group : CReqNumInfo) (alloc : Alloc) : Prop :=
  ∃ name, (group.strDeployedDvs ≠ "" → name = group.strDeployedDvs) ∧
    ∀ nic ∈ group.setVnicIter, nic ∈ alloc.granted → alloc.vSwitchUuid nic = name

theorem granted_serving {s : Serving} {nic : ℕ} :
    (s.give rule nic).alloc.granted = s.alloc.granted ++ [nic] := by
  rw [Alloc.granted, given_serving, List.map_append, List.map_singleton, Alloc.granted]

theorem next_oneSwitch (keys : ∀ row, SameKeys (rule.take row) row) {row : CDbSchedule}
    (fresh : ∀ nic ∈ group.setVnicIter, nic ∉ pr.alloc.granted) :
    ∀ nic ∈ group.setVnicIter, nic ∈ (pr.next rule group row).alloc.granted →
      (pr.next rule group row).alloc.vSwitchUuid nic = row.switchUuid := by
  refine (@serveRow_keeps rule group.setVnicIter (pr.serving row)
    (fun s => s.row.switchUuid = row.switchUuid ∧ ∀ nic ∈ group.setVnicIter,
      nic ∈ s.alloc.granted → s.alloc.vSwitchUuid nic = row.switchUuid) ?_
    ⟨rfl, fun nic member granted => (fresh nic member granted).elim⟩).2
  intro s nic _ holds _ _
  have switch := (keys s.row).switchUuid.trans holds.1
  refine ⟨switch, ?_⟩
  intro other inside granted
  rw [vSwitch_serving]
  by_cases same : other = nic
  · rw [if_pos same, switch]
  · rw [if_neg same]
    rw [granted_serving, List.mem_append, List.mem_singleton] at granted
    exact holds.2 other inside (granted.resolve_right same)

theorem serveRows_loop (loop : isLoop = true) (lawful : rule.Lawful p)
    (usable : ∀ row ∈ todo, Usable p rows row)
    (inv : pr.Inv p group.setVnicIter rows start)
    (fresh : ∀ nic ∈ group.setVnicIter, nic ∉ pr.alloc.granted) :
    group.OneSwitch (serveRows rule isLoop group todo pr).alloc := by
  induction todo generalizing pr with
  | nil =>
      exact ⟨group.strDeployedDvs, fun _ => rfl,
        fun nic member granted => (fresh nic member granted).elim⟩
  | cons row todo ih =>
      rw [List.forall_mem_cons] at usable
      rcases serveRows_cons row todo pr with same | same | ⟨loops, same⟩
      · rw [same]
        exact ⟨group.strDeployedDvs, fun _ => rfl,
          fun nic member granted => (fresh nic member granted).elim⟩
      · rw [same]
        exact ih usable.2 inv fresh
      · rw [same, serveRows_done (next_all lawful usable.1 inv (loops loop).2)]
        exact ⟨row.switchUuid, fun deployed => ((loops loop).1.resolve_left deployed).symm,
          next_oneSwitch lawful.keys fresh⟩

end Rows

end Tecs.VnmSchedule
