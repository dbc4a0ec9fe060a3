import Tecs.Vnm.VlanPoolRuns

set_option autoImplicit false

/-! Every VLAN id has one owner key and returns to the pool with its last owner. -/

namespace Tecs.VlanPool

variable {net : Network} {db : Tables} {np pg : String} {p : Int64} {iso : Int}

/-- A netplane has fewer ids than there are projects. -/
theorem exists_fresh (sound : Sound net db) (np : String) (iso : Int) :
    ∃ p : Int64, ∀ v, ¬ Holds db np (p, iso) v := by
  by_contra all
  push Not at all
  choose held holds using all
  have inside : ∀ n ∈ Finset.range 4094, held (Int64.ofNat n) ∈ Finset.Icc 2 4094 := by
    intro n _
    obtain ⟨low, high⟩ := net.ranged_bounds (sound.holds_ranged (holds (Int64.ofNat n)))
    exact Finset.mem_Icc.mpr ⟨low, high⟩
  obtain ⟨a, memA, b, memB, apart, same⟩ :=
    Finset.exists_ne_map_eq_of_card_lt_of_maps_to (by rw [Nat.card_Icc, Finset.card_range]; omega)
      inside
  have keys := (sound.keyed np _ _ _ _ (holds (Int64.ofNat a)) (holds (Int64.ofNat b))).mp same
  have projects : Int64.ofNat a = Int64.ofNat b := congrArg Prod.fst keys
  rw [Finset.mem_range] at memA memB
  have numbers := congrArg Int64.toInt projects
  rw [Int64.toInt_ofNat_of_lt (by omega), Int64.toInt_ofNat_of_lt (by omega)] at numbers
  exact apart (Int.ofNat.inj numbers)

/-- One statement fails, and no vnic uses the port group. -/
def failing (s : Statement) : Answers := ⟨fun other => other = s, false, false⟩

/-- Everything succeeds that an allocation needs: the group is not taken for one of a controller. -/
def smooth : Answers := failing .portGroupSdn

theorem alloc_fresh (sound : Sound net db) (serves : Serves net pg np iso)
    (known : np ∈ net.netplane)
    {v : ℕ} (usable : Usable net db np v) (fresh : ∀ v, ¬ Holds db np (p, iso) v) :
    ∃ u ≤ v, Usable net db np u ∧ (Call.step net db (.alloc p pg smooth)).2 =
      (db.addPool np u).addMap ⟨p, pg, db.serialVlanPool, iso⟩ := by
  have filled : net.vlanRange np ≠ [] := by
    intro empty
    obtain ⟨row, mem, -⟩ := (usable_iff.mp usable).1
    rw [empty] at mem
    cases mem
  have reached : AllocReached net smooth pg np iso :=
    ⟨⟨serves, rfl, rfl, rfl, filled⟩, rfl, rfl⟩
  rw [Call.step]
  rcases allocVlan_cases net smooth p pg db with ⟨np', iso', other, -, same⟩ | ⟨missed, -⟩
  · obtain ⟨plane, number⟩ := reached.toReached.unique other.toReached
    subst plane number
    rw [same]
    have ended := @allocVlanID_end _ _ smooth _ _ p _ sound serves
    generalize allocVlanID net smooth _ np p pg iso db = result at ended ⊢
    cases ended with
    | refused _ cause =>
        rcases cause with ⟨s, other, fails⟩ | unknown | none_
        · exact absurd (of_decide_eq_true fails) other
        · exact absurd known unknown
        · exact absurd usable (none_ v)
    | again _ held => exact absurd held (fresh _)
    | joined _ _ _ held => exact absurd held (fresh _)
    | torn torn =>
        rcases torn.stopped with stop | stop
        · cases stop
        · cases stop
    | @made _ _ u first before _ =>
        refine ⟨u, ?_, first, rfl⟩
        by_contra above
        exact before v (by omega) usable
  · exact absurd ⟨np, iso, reached⟩ missed

/-- New projects get the usable ids one after the other. -/
theorem obtainable (serves : Serves net pg np iso) (known : np ∈ net.netplane) {v : ℕ} : ∀ n db,
    Sound net db → Usable net db np v → {u ∈ Set.Iio v | Usable net db np u}.ncard = n →
    ∃ calls k, Holds (run net db calls) np k v := by
  intro n
  induction n using Nat.strong_induction_on with
  | _ n ih =>
      intro db sound usable count
      obtain ⟨p, fresh⟩ := exists_fresh sound np iso
      obtain ⟨u, le, first, step⟩ := alloc_fresh sound serves known usable fresh
      by_cases same : u = v
      · subst same
        refine ⟨[.alloc p pg smooth], (p, iso), ?_⟩
        rw [run_cons, step, run_nil]
        refine holds_addMap.mpr (.inr ⟨⟨db.serialVlanPool, np, u⟩, ?_, rfl, rfl, rfl, rfl⟩)
        simp [Tables.addPool]
      · have next := (Call.step_sound sound (.alloc p pg smooth)).1
        have left : ∀ w, Usable net (Call.step net db (.alloc p pg smooth)).2 np w ↔
            Usable net db np w ∧ w ≠ u := by
          intro w
          rw [step, usable_iff, usable_iff, and_assoc]
          refine and_congr_right fun _ => ?_
          simp only [Tables.addMap, Tables.addPool, List.mem_append, List.mem_singleton]
          constructor
          · intro unused
            refine ⟨fun row mem => unused row (.inl mem), fun same => ?_⟩
            exact unused _ (.inr rfl) rfl same.symm
          · rintro ⟨unused, other⟩ row (old | new) plane
            · exact unused row old plane
            · rw [new]
              exact fun same => other same.symm
        have fewer : {w ∈ Set.Iio v | Usable net (Call.step net db (.alloc p pg smooth)).2 np
            w}.ncard <
            n := by
          rw [← count]
          refine Set.ncard_lt_ncard ⟨fun w mem => ⟨mem.1, ((left w).mp mem.2).1⟩, fun all => ?_⟩
            ((Set.finite_Iio v).subset fun w mem => mem.1)
          exact ((left u).mp (all ⟨by simp only [Set.mem_Iio]; omega, first⟩).2).2 rfl
        obtain ⟨calls, k, holds⟩ :=
          ih _ fewer _ next ((left v).mpr ⟨usable, fun equal => same equal.symm⟩) rfl
        exact ⟨.alloc p pg smooth :: calls, k, holds⟩

/-- What a call is to leave: the keys and the ids belong to each other, the ids lie in the ranges,
the two tables match; a key that holds an id keeps it and is given no other; an id whose last
owner has gone can be allocated again. -/
structure Call.Right (net : Network) (db : Tables) (call : Call) : Prop where
  apart : ∀ np k k' v, Holds (call.step net db).2 np k v →
    Holds (call.step net db).2 np k' v → k = k'
  same : ∀ np k v v', Holds (call.step net db).2 np k v →
    Holds (call.step net db).2 np k v' → v = v'
  ranged : ∀ np k v, Holds (call.step net db).2 np k v → Ranged (net.vlanRange np) v
  mapped : ∀ row ∈ (call.step net db).2.vlanPool, ∃ m ∈ (call.step net db).2.vlanMap,
    m.vlanId = row.id
  pooled : ∀ m ∈ (call.step net db).2.vlanMap, ∃ row ∈ (call.step net db).2.vlanPool,
    row.id = m.vlanId
  steady : ∀ np k v v', Holds db np k v → Holds (call.step net db).2 np k v' → v = v'
  answered : ∀ p pg answers v, call = .alloc p pg answers → (call.step net db).1 = .mapped v →
    ∃ np iso, Serves net pg np iso ∧ Holds (call.step net db).2 np (p, iso) v
  again : ∀ np k v, Holds db np k v → (∀ k', ¬ Holds (call.step net db).2 np k' v) →
    ∃ calls k', Holds (run net (call.step net db).2 calls) np k' v

theorem Call.right_iff (sound : Sound net db) (mapped : Mapped db) (call : Call) :
    call.Right net db ↔ ¬ call.Torn net db := by
  obtain ⟨after, owners, steady⟩ := call.step_sound sound
  constructor
  · intro right
    exact (owners mapped).mp right.mapped
  · intro whole
    have mappedA := (owners mapped).mpr whole
    refine ⟨fun np k k' v holds holds' => (after.keyed _ _ _ _ _ holds holds').mp rfl,
      fun np k v v' holds holds' => (after.keyed _ _ _ _ _ holds holds').mpr rfl,
      fun np k v holds => after.holds_ranged holds, mappedA, ?_, steady, ?_, ?_⟩
    · intro m mem
      obtain ⟨row, stored, refers, -⟩ := after.owned m mem
      exact ⟨row, stored, refers⟩
    · rintro p pg answers v rfl returned
      rw [Call.step] at returned ⊢
      rcases allocVlan_cases net answers p pg db with ⟨np, iso, reached, result, same⟩ |
          ⟨-, none_, -⟩
      · have ended := @allocVlanID_end _ _ answers _ _ p _ sound reached.serves
        refine ⟨np, iso, reached.serves, ?_⟩
        rw [same]
        exact ended.answered (result v returned)
      · exact absurd returned (none_ v)
    · rintro np k v ⟨m, mem, row, stored, refers, -, rfl, rfl⟩ gone
      obtain ⟨known, ranged⟩ := sound.accepted row stored
      have serves := (sound.holds_row mem stored refers).2
      -- a row of the pool for it would have an owner
      have usable : Usable net (call.step net db).2 row.netplaneUuid row.vlanNum := by
        refine usable_iff.mpr ⟨ranged, fun left memL plane number => ?_⟩
        obtain ⟨owner, memO, refersO⟩ := mappedA left memL
        exact gone _ ⟨owner, memO, left, memL, refersO.symm, rfl, plane, number⟩
      exact obtainable serves known _ _ after usable rfl

/-- All calls of a run are right just when none stops between the two tables. -/
theorem run_right_iff (net : Network) (calls : List Call) :
    (∀ before call after, calls = before ++ call :: after →
      call.Right net (run net .empty before)) ↔
      ∀ before call after, calls = before ++ call :: after →
        ¬ call.Torn net (run net .empty before) := by
  have owners : (∀ before call after, calls = before ++ call :: after →
      ¬ call.Torn net (run net .empty before)) →
      ∀ before after, calls = before ++ after → Mapped (run net .empty before) := by
    intro whole before
    induction before using List.reverseRecOn with
    | nil =>
        intro after _ row mem
        cases mem
    | append_singleton before call ih =>
        intro after split
        rw [List.append_assoc] at split
        rw [run_append]
        have mapped := ih (call :: after) split
        exact ((call.step_sound (run_tables_sound before)).2.1 mapped).mpr
          (whole before call after split)
  constructor
  · intro right before
    induction before using List.reverseRecOn with
    | nil =>
        intro call after split
        refine (call.right_iff (run_tables_sound []) ?_).mp (right [] call after split)
        intro row mem
        cases mem
    | append_singleton before last _ =>
        intro call after split
        have mapped : Mapped (run net .empty (before ++ [last])) := by
          rw [run_append]
          rw [List.append_assoc] at split
          exact (right before last (call :: after) split).mapped
        exact (call.right_iff (run_tables_sound _) mapped).mp (right _ call after split)
  · intro whole before call after split
    exact (call.right_iff (run_tables_sound before) (owners whole before _ split)).mpr
      (whole before call after split)

/-- A netplane with the one id 2 and a port group of a private network. -/
def oneId : Network where
  netplane := ["np"]
  vlanRange uuid := if uuid = "np" then [⟨2, 2⟩] else []
  portGroup uuid := if uuid = "pg" then some ⟨21, 1, 0, 1, 0, some "np"⟩ else none
  ranges_accepted uuid row mem := by
    split at mem
    · rw [List.mem_singleton.mp mem]
      rfl
    · cases mem

/-- The row of the map is not written: the id is left without an owner, and no one gets it any
more. Likewise when the last owner goes and the row of the pool is not deleted. -/
theorem id_lost_without_owner :
    (¬ (Call.alloc 1 "pg" (failing .addMap)).Right oneId (run oneId .empty []) ∧
      ∀ calls k, ¬ Holds (run oneId (run oneId .empty
        [.alloc 1 "pg" (failing .addMap)]) calls) "np" k 2) ∧
    (¬ (Call.free 1 "pg" (failing .delPool)).Right oneId
        (run oneId .empty [.alloc 1 "pg" smooth]) ∧
      ∀ calls k, ¬ Holds (run oneId (run oneId .empty [.alloc 1 "pg" smooth,
        .free 1 "pg" (failing .delPool)]) calls) "np" k 2) := by
  have first : run oneId .empty [.alloc 1 "pg" (failing .addMap)] =
      ⟨2, [⟨1, "np", 2⟩], []⟩ := by decide
  have second : run oneId .empty [.alloc 1 "pg" smooth,
      .free 1 "pg" (failing .delPool)] = ⟨2, [⟨1, "np", 2⟩], []⟩ := by decide
  have lost : ∀ calls k, ¬ Holds (run oneId ⟨2, [⟨1, "np", 2⟩], []⟩ calls) "np" k 2 := by
    intro calls k
    have sound := @run_tables_sound oneId [.alloc 1 "pg" (failing .addMap)]
    rw [first] at sound
    exact @lost_forever _ _ sound ⟨1, "np", 2⟩ (by simp) (by simp) calls k
  refine ⟨⟨fun right => ?_, ?_⟩, ⟨fun right => ?_, ?_⟩⟩
  · have mapped : Mapped (run oneId .empty [.alloc 1 "pg" (failing .addMap)]) :=
      right.mapped
    rw [first] at mapped
    obtain ⟨m, mem, -⟩ := mapped ⟨1, "np", 2⟩ (by simp)
    cases mem
  · rw [first]
    exact lost
  · have mapped : Mapped (run oneId .empty [.alloc 1 "pg" smooth,
        .free 1 "pg" (failing .delPool)]) := right.mapped
    rw [second] at mapped
    obtain ⟨m, mem, -⟩ := mapped ⟨1, "np", 2⟩ (by simp)
    cases mem
  · rw [second]
    exact lost

end Tecs.VlanPool
