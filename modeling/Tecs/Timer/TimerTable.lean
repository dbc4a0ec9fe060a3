import Tecs.Timer.ScanTable

set_option autoImplicit false

namespace Tecs

open Effect

namespace TimerManager

variable {Client : Type} {m m' : TimerManager Client} {tid : TimerId} {block : TimerBlock Client}

/-- The free list holds the timers without a client, each once, and none of them is timing. -/
structure Freed (m : TimerManager Client) : Prop where
  listed : ∀ tid, tid ∈ m.freelist ↔
    ∃ block, m.idToPointer tid = some block ∧ block.client = none
  idle : ∀ tid block, m.idToPointer tid = some block → block.client = none →
    block.timing = false
  nodup : m.freelist.Nodup

structure Consistent (m : TimerManager Client) : Prop where
  scanned : Scanned m
  freed : Freed m
  quiet : m.scanning = none

theorem Consistent.unmarked (consistent : Consistent m) : m.marked = none := by
  simp [marked, consistent.quiet]

/-! Allocation. -/

private theorem place_lt {place size count : Nat} (new : size < place) :
    place - 1 - size < count ↔ place ≤ size + count := by
  omega

theorem idToPointer_allocate (m : TimerManager Client) (tid : TimerId) :
    m.allocateTimerBlock.idToPointer tid =
      if tid ≤ m.pool.length then m.idToPointer tid
      else if tid ≤ m.pool.length + onceAllocCount then some .fresh else none := by
  unfold idToPointer allocateTimerBlock
  by_cases invalid : tid = invalidTimerId
  · simp [invalid, invalidTimerId]
  · have positive : 0 < tid := Nat.pos_of_ne_zero invalid
    simp only [if_neg invalid]
    by_cases old : tid ≤ m.pool.length
    · have inside : tid - 1 < m.pool.length := Nat.sub_one_lt_of_le positive old
      rw [if_pos old, List.getElem?_append_left inside]
    · have outside : m.pool.length ≤ tid - 1 := Nat.le_sub_one_of_lt (Nat.not_le.mp old)
      rw [if_neg old, List.getElem?_append_right outside, List.getElem?_replicate]
      simp only [place_lt (Nat.not_le.mp old)]

theorem idToPointer_length (known : m.idToPointer tid = some block) : tid ≤ m.pool.length := by
  obtain ⟨valid, inside⟩ := idToPointer_valid known
  have bound := (List.getElem?_eq_some_iff.mp inside).1
  exact Nat.le_of_pred_lt bound

theorem idToPointer_allocate_old (known : m.idToPointer tid = some block) :
    m.allocateTimerBlock.idToPointer tid = some block := by
  rw [idToPointer_allocate, if_pos (idToPointer_length known), known]

theorem idToPointer_allocate_cases (found : m.allocateTimerBlock.idToPointer tid = some block) :
    m.idToPointer tid = some block ∨
      (m.idToPointer tid = none ∧ block = .fresh ∧ m.pool.length < tid ∧
        tid ≤ m.pool.length + onceAllocCount) := by
  rw [idToPointer_allocate] at found
  split at found
  · exact .inl found
  · rename_i new
    split at found
    · rename_i inside
      have absent : m.idToPointer tid = none := by
        cases read : m.idToPointer tid with
        | none => rfl
        | some stored => exact absurd (idToPointer_length read) new
      exact .inr ⟨absent, (Option.some.inj found).symm, Nat.not_le.mp new, inside⟩
    · cases found

theorem Scanned.allocate (scanned : Scanned m) : Scanned m.allocateTimerBlock := by
  constructor
  · intro key tid
    refine (scanned.entries key tid).trans ⟨?_, ?_⟩
    · rintro ⟨block, known, rest⟩
      exact ⟨block, idToPointer_allocate_old known, rest⟩
    · rintro ⟨block, found, same, live⟩
      rcases idToPointer_allocate_cases found with known | ⟨absent, rfl, -, -⟩
      · exact ⟨block, known, same, live⟩
      · rcases live with timing | now
        · cases timing
        · obtain ⟨stored, known, -⟩ := scanned.expired key tid now
          rw [absent] at known
          cases known
  · intro key tid now
    obtain ⟨block, known, rest⟩ := scanned.expired key tid now
    exact ⟨block, idToPointer_allocate_old known, rest⟩

theorem Freed.allocate (freed : Freed m) : Freed m.allocateTimerBlock := by
  have old : ∀ tid, tid ∈ m.freelist → tid ≤ m.pool.length := by
    intro tid listed
    obtain ⟨block, known, -⟩ := (freed.listed tid).mp listed
    exact idToPointer_length known
  have new : ∀ tid, tid ∈ List.range' (m.pool.length + 1) onceAllocCount ↔
      m.pool.length < tid ∧ tid ≤ m.pool.length + onceAllocCount := by
    intro tid
    rw [List.mem_range'_1]
    omega
  constructor
  · intro tid
    have split : tid ∈ m.allocateTimerBlock.freelist ↔
        tid ∈ m.freelist ∨ tid ∈ List.range' (m.pool.length + 1) onceAllocCount :=
      List.mem_append
    rw [split, new, freed.listed]
    constructor
    · rintro (⟨block, known, free⟩ | ⟨above, below⟩)
      · exact ⟨block, idToPointer_allocate_old known, free⟩
      · refine ⟨.fresh, ?_, rfl⟩
        rw [idToPointer_allocate, if_neg (Nat.not_le.mpr above), if_pos below]
    · rintro ⟨block, found, free⟩
      rcases idToPointer_allocate_cases found with known | ⟨-, -, above, below⟩
      · exact .inl ⟨block, known, free⟩
      · exact .inr ⟨above, below⟩
  · intro tid block found free
    rcases idToPointer_allocate_cases found with known | ⟨-, rfl, -, -⟩
    · exact freed.idle tid block known free
    · rfl
  · refine List.Nodup.append freed.nodup List.nodup_range' ?_
    intro tid listed created
    have above := ((new tid).mp created).1
    exact absurd (old tid listed) (Nat.not_le.mpr above)

theorem Consistent.allocate (consistent : Consistent m) : Consistent m.allocateTimerBlock :=
  ⟨consistent.scanned.allocate, consistent.freed.allocate, consistent.quiet⟩

theorem consistent_started : Consistent (started : TimerManager Client) := by
  have empty : Consistent (⟨[], ∅, [], none⟩ : TimerManager Client) := by
    refine ⟨⟨?_, ?_⟩, ⟨?_, ?_, ?_⟩, rfl⟩ <;> simp [idToPointer, marked]
  exact empty.allocate

/-! Replaced blocks. -/

theorem Freed.worked {stored : TimerBlock Client} (freed : Freed m)
    (known : m.idToPointer tid = some stored) (owned : stored.client ≠ none)
    (worked : Worked tid block m m') (client : block.client = stored.client) : Freed m' := by
  have held : block.client ≠ none := client ▸ owned
  constructor
  · intro other
    rw [worked.freelist, freed.listed]
    by_cases same : other = tid
    · subst same
      simp [worked.here, known, held, owned]
    · rw [worked.others other same]
  · intro other found read free
    by_cases same : other = tid
    · subst same
      rw [worked.here] at read
      cases read
      exact absurd free held
    · rw [worked.others other same] at read
      exact freed.idle other found read free
  · rw [worked.freelist]
    exact freed.nodup

theorem Consistent.worked {stored : TimerBlock Client} (consistent : Consistent m)
    (known : m.idToPointer tid = some stored) (owned : stored.client ≠ none)
    (worked : Worked tid block m m') (client : block.client = stored.client) : Consistent m' :=
  ⟨worked.scanned consistent.scanned consistent.unmarked,
    consistent.freed.worked known owned worked client,
    worked.scanning.trans consistent.quiet⟩

/-- A block whose timing and timeout stay leaves the table in order. -/
theorem Scanned.put (scanned : Scanned m) {stored : TimerBlock Client}
    (known : m.idToPointer tid = some stored) (block : TimerBlock Client)
    (timing : block.timing = stored.timing) (timeout : block.timeout = stored.timeout) :
    Scanned (m.put tid block) := by
  have key : ∀ other, block.key other = stored.key other := fun other => by
    simp [TimerBlock.key, timeout]
  constructor
  · intro stamp other
    refine (scanned.entries stamp other).trans ?_
    rw [idToPointer_put known]
    by_cases same : other = tid
    · subst same
      simp [known, key, timing, marked, TimerManager.put]
    · simp [same, marked, TimerManager.put]
  · intro stamp other now
    obtain ⟨found, read, rest⟩ := scanned.expired stamp other now
    rw [idToPointer_put known]
    by_cases same : other = tid
    · subst same
      rw [known] at read
      cases read
      exact ⟨block, by simp, by simpa [key, timing] using rest⟩
    · exact ⟨found, by simpa [same] using read, rest⟩

/-- What `CreateTimer` gets out of the free list. -/
theorem createLocked_cases (m : TimerManager Client) (client : Client) (memory : Bool) :
    ∃ ready : TimerManager Client, (ready = m ∨ ready = m.allocateTimerBlock) ∧
      (m.createLocked client memory = (invalidTimerId, ready) ∨
        ∃ tid rest, ready.freelist = tid :: rest ∧
          ((ready.idToPointer tid = none ∧
              m.createLocked client memory = (invalidTimerId, { ready with freelist := rest })) ∨
            ∃ block, ready.idToPointer tid = some block ∧
              m.createLocked client memory =
                (tid, { ready.put tid { block with client := some client } with
                  freelist := rest }))) := by
  let ready := if m.freelist.isEmpty && memory then m.allocateTimerBlock else m
  have prepared : ready = m ∨ ready = m.allocateTimerBlock := by
    by_cases short : (m.freelist.isEmpty && memory) = true
    · exact .inr (if_pos short)
    · exact .inl (if_neg short)
  refine ⟨ready, prepared, ?_⟩
  rw [createLocked]
  dsimp only
  rw [show (if m.freelist.isEmpty && memory then m.allocateTimerBlock else m) = ready from rfl]
  cases list : ready.freelist with
  | nil => exact .inl rfl
  | cons tid rest =>
      refine .inr ⟨tid, rest, rfl, ?_⟩
      have same : TimerManager.idToPointer { ready with freelist := rest } tid =
          ready.idToPointer tid := rfl
      simp only [same]
      cases read : ready.idToPointer tid with
      | none => exact .inl ⟨rfl, rfl⟩
      | some block => exact .inr ⟨block, rfl, rfl⟩

theorem Consistent.create (consistent : Consistent m) (client : Client) (memory : Bool) :
    Consistent (m.createLocked client memory).2 := by
  obtain ⟨ready, prepared, outcome⟩ := createLocked_cases m client memory
  have ordered : Consistent ready := by
    rcases prepared with rfl | rfl
    · exact consistent
    · exact consistent.allocate
  rcases outcome with result | ⟨tid, rest, list, ⟨absent, -⟩ | ⟨block, known, result⟩⟩
  · rw [result]
    exact ordered
  · have listed : tid ∈ ready.freelist := by simp [list]
    obtain ⟨block, known, -⟩ := (ordered.freed.listed tid).mp listed
    rw [absent] at known
    cases known
  · rw [result]
    have nodup : tid ∉ rest ∧ rest.Nodup := List.nodup_cons.mp (list ▸ ordered.freed.nodup)
    have pointers := idToPointer_put known { block with client := some client }
    refine ⟨?_, ⟨?_, ?_, nodup.2⟩, ordered.quiet⟩
    · have kept := ordered.scanned.put known { block with client := some client } rfl rfl
      exact ⟨kept.entries, kept.expired⟩
    · intro other
      change other ∈ rest ↔ ∃ found, (ready.put tid _).idToPointer other = some found ∧ _
      rw [pointers]
      have before := ordered.freed.listed other
      rw [list] at before
      by_cases same : other = tid
      · subst same
        simp [nodup.1]
      · simpa [same] using before
    · intro other found read free
      change (ready.put tid _).idToPointer other = some found at read
      rw [pointers] at read
      by_cases same : other = tid
      · rw [if_pos same] at read
        cases read
        cases free
      · rw [if_neg same] at read
        exact ordered.freed.idle other found read free

theorem Consistent.free (consistent : Consistent m) (known : m.idToPointer tid = some block)
    (owned : block.client ≠ none)
    (idle : block.timing = false) : Consistent (m.freeLocked tid) := by
  have result : m.freeLocked tid =
      { m.put tid { block with client := none, flowNumber := block.flowNumber + 1 } with
        freelist := m.freelist ++ [tid] } := by
    simp only [freeLocked, known]
  rw [result]
  have pointers := idToPointer_put known
    { block with client := none, flowNumber := block.flowNumber + 1 }
  have unlisted : tid ∉ m.freelist := by
    intro listed
    obtain ⟨found, read, free⟩ := (consistent.freed.listed tid).mp listed
    rw [known] at read
    cases read
    exact owned free
  refine ⟨?_, ⟨?_, ?_, ?_⟩, consistent.quiet⟩
  · have kept := consistent.scanned.put known
      { block with client := none, flowNumber := block.flowNumber + 1 } rfl rfl
    exact ⟨kept.entries, kept.expired⟩
  · intro other
    change other ∈ m.freelist ++ [tid] ↔
      ∃ found, (m.put tid _).idToPointer other = some found ∧ found.client = none
    rw [pointers, List.mem_append, List.mem_singleton]
    by_cases same : other = tid
    · simp [same]
    · simp [same, consistent.freed.listed other]
  · intro other found read free
    change (m.put tid _).idToPointer other = some found at read
    rw [pointers] at read
    by_cases same : other = tid
    · rw [if_pos same] at read
      cases read
      exact idle
    · rw [if_neg same] at read
      exact consistent.freed.idle other found read free
  · exact List.nodup_append.mpr ⟨consistent.freed.nodup, List.nodup_singleton tid, by
      intro listed inside other single same
      rw [List.mem_singleton.mp single] at same
      exact unlisted (same ▸ inside)⟩

/-! A turn of the scan. -/

/-- A turn marks the first entry when its time has come, and otherwise does nothing. -/
theorem scanNext_cases (m : TimerManager Client) :
    m.scanNext = (false, m) ∨
      ∃ now key tid block, m.scanning = some ⟨now, none⟩ ∧
        m.relScanTable.toList.head? = some (key, tid) ∧ m.idToPointer tid = some block ∧
        m.scanNext = (true, { m.put tid { block with timing := false } with
          scanning := some ⟨now, some (key, tid)⟩ }) := by
  unfold scanNext
  split
  · rename_i now key tid running first
    split
    · exact .inl rfl
    · split
      · exact .inl rfl
      · rename_i block known
        exact .inr ⟨now, key, tid, block, running, first, known, rfl⟩
  · exact .inl rfl

theorem getElem?_of_head? {key : TimeKey}
    (first : m.relScanTable.toList.head? = some (key, tid)) : m.relScanTable[key]? = some tid :=
  Std.TreeMap.mem_toList_iff_getElem?_eq_some.mp (List.mem_of_mem_head? first)

theorem Scanned.scanNext (scanned : Scanned m) : Scanned m.scanNext.2 := by
  rcases scanNext_cases m with still | ⟨now, key, tid, block, running, first, known, next⟩
  · rw [still]
    exact scanned
  · rw [next]
    have none : m.marked = none := by simp [marked, running]
    have tracked := scanned.tracked none known
    have entry : block.timing = true ∧ block.key tid = key :=
      (tracked key).mp (getElem?_of_head? first)
    have pointers := idToPointer_put known { block with timing := false }
    constructor
    · intro stamp other
      refine (scanned.entries stamp other).trans ?_
      change _ ↔ ∃ found, (m.put tid _).idToPointer other = some found ∧ found.key other = stamp ∧
        (found.timing = true ∨ some (key, tid) = some (stamp, other))
      rw [pointers, none]
      by_cases same : other = tid
      · subst same
        have own : ({ block with timing := false } : TimerBlock Client).key other = key := entry.2
        simp [known, entry.1, entry.2, own]
      · simp [same, Ne.symm same]
    · intro stamp other now
      have here : (key, tid) = (stamp, other) := Option.some.inj now
      cases here
      exact ⟨{ block with timing := false }, (pointers tid).trans (if_pos rfl), entry.2, rfl⟩

theorem Scanned.scanErase (scanned : Scanned m) : Scanned m.scanErase := by
  unfold TimerManager.scanErase
  split
  · rename_i now key tid running
    have mark : m.marked = some (key, tid) := by simp [marked, running]
    obtain ⟨block, known, own, idle⟩ := scanned.expired key tid mark
    constructor
    · intro stamp other
      change (m.relScanTable.erase key)[stamp]? = some other ↔
        ∃ found, m.idToPointer other = some found ∧ found.key other = stamp ∧
          (found.timing = true ∨ none = some (stamp, other))
      rw [Std.TreeMap.getElem?_erase]
      have before := scanned.entries stamp other
      rw [mark] at before
      by_cases here : key = stamp
      · subst here
        simp only [Std.LawfulEqCmp.compare_eq_iff_eq, if_true, reduceCtorEq, or_false, false_iff]
        rintro ⟨found, read, same, timing⟩
        have tids : other = tid := by
          have := congrArg TimeKey.tid (same.trans own.symm)
          simpa using this
        subst tids
        rw [known] at read
        cases read
        rw [idle] at timing
        cases timing
      · simpa [here, Ne.symm here] using before
    · intro stamp other now
      cases now
  · exact scanned

theorem Consistent.scanLock (consistent : Consistent m) (now : TimeValue) :
    Scanned (m.scanLock now).2 ∧ Freed (m.scanLock now).2 := by
  refine ⟨⟨?_, ?_⟩, ⟨consistent.freed.listed, consistent.freed.idle, consistent.freed.nodup⟩⟩
  · intro key tid
    have before := consistent.scanned.entries key tid
    rw [consistent.unmarked] at before
    exact before
  · intro key tid mark
    cases mark

theorem Freed.scanNext (freed : Freed m) : Freed m.scanNext.2 := by
  rcases scanNext_cases m with still | ⟨now, key, tid, block, -, -, known, next⟩
  · rw [still]
    exact freed
  · rw [next]
    have pointers := idToPointer_put known { block with timing := false }
    constructor
    · intro other
      change other ∈ m.freelist ↔
        ∃ found, (m.put tid _).idToPointer other = some found ∧ found.client = none
      rw [pointers, freed.listed]
      by_cases same : other = tid
      · subst same
        simp [known]
      · simp [same]
    · intro other found read free
      change (m.put tid _).idToPointer other = some found at read
      rw [pointers] at read
      by_cases same : other = tid
      · rw [if_pos same] at read
        cases read
        rfl
      · rw [if_neg same] at read
        exact freed.idle other found read free
    · exact freed.nodup

theorem Freed.scanErase (freed : Freed m) : Freed m.scanErase := by
  unfold TimerManager.scanErase
  split
  · exact ⟨freed.listed, freed.idle, freed.nodup⟩
  · exact freed

theorem scanUnlock_eq {now : TimeValue} (running : m.scanning = some ⟨now, none⟩) :
    m.scanUnlock = { m with scanning := none } := by
  simp only [scanUnlock, running]

theorem Scanned.scanUnlock (scanned : Scanned m) : Scanned m.scanUnlock := by
  unfold TimerManager.scanUnlock
  split
  · rename_i now running
    have none : m.marked = none := by simp [marked, running]
    constructor
    · intro key tid
      have before := scanned.entries key tid
      rw [none] at before
      exact before
    · intro key tid mark
      cases mark
  · exact scanned

theorem scanErase_marked (m : TimerManager Client) : m.scanErase.marked = none := by
  unfold scanErase
  split
  · rfl
  · rename_i other
    cases running : m.scanning with
    | none => simp [marked, running]
    | some scan =>
        obtain ⟨now, mark⟩ := scan
        cases mark with
        | none => simp [marked, running]
        | some entry => exact absurd running (other now entry.1 entry.2)

end TimerManager

namespace Timers

variable {Client : Type} {m : TimerManager Client}

open TimerManager

/-- The manager after an operation of its own, nothing else running. -/
def execute (m : TimerManager Client) (operation : Operation Client) : TimerManager Client :=
  (Program.exec (S := timers Client) answer (program operation) m).2

theorem pointer_client {tid : TimerId}
    (valid : (m.idToPointer tid).any (·.client.isSome) = true) :
    ∃ block, m.idToPointer tid = some block ∧ block.client ≠ none := by
  cases read : m.idToPointer tid with
  | none => simp [read] at valid
  | some block =>
      refine ⟨block, rfl, ?_⟩
      intro free
      simp [read, free] at valid

/-! What the operations come to when nothing else runs. -/

abbrev exec {α : Type} (p : Timing Client α) (m : TimerManager Client) : α × TimerManager Client :=
  Program.exec (S := timers Client) answer p m

theorem exec_setTimer (tid : TimerId) (timeout : TimeOut) (now : TimeValue) :
    exec (setTimer tid timeout now) m =
      if timeout.validate = false then (.errorInvalidArgument, m)
      else if (m.idToPointer tid).any (·.client.isSome) then m.onTimer tid (setLocked timeout now)
      else (.errorInvalidArgument, m) := by
  unfold setTimer
  split
  · rfl
  · cases valid : (m.idToPointer tid).any (·.client.isSome) <;>
      simp [exec, perform, Program.perform, answer, valid]

theorem exec_loopTimer (tid : TimerId) :
    exec (loopTimer tid) m =
      if (m.idToPointer tid).any (·.client.isSome) then m.onTimer tid loopLocked
      else (.errorInvalidArgument, m) := by
  cases valid : (m.idToPointer tid).any (·.client.isSome) <;>
    simp [exec, loopTimer, perform, Program.perform, answer, valid]

theorem exec_stopTimer (tid : TimerId) :
    exec (stopTimer tid) m =
      if (m.idToPointer tid).any (·.client.isSome) then m.onTimer tid stopLocked
      else (.errorInvalidArgument, m) := by
  cases valid : (m.idToPointer tid).any (·.client.isSome) <;>
    simp [exec, stopTimer, perform, Program.perform, answer, valid]

theorem exec_killTimer (tid : TimerId) :
    exec (killTimer tid) m =
      if (m.idToPointer tid).any (·.client.isSome) then
        let removed := if (m.idToPointer tid).any (·.timing) then m.onTimer tid removeTimer
          else (.success, m)
        if removed.1 ≠ .success then (.error, removed.2)
        else (.success, removed.2.freeLocked tid)
      else (.errorInvalidArgument, m) := by
  cases valid : (m.idToPointer tid).any (·.client.isSome) with
  | false => simp [exec, killTimer, perform, Program.perform, answer, valid]
  | true =>
      cases timing : (m.idToPointer tid).any (·.timing) with
      | false => simp [exec, killTimer, perform, Program.perform, answer, valid, timing]
      | true =>
          by_cases removed : (m.onTimer tid removeTimer).1 = Status.success <;>
            simp [exec, killTimer, perform, Program.perform, answer, valid, timing, removed]

theorem exec_scanLoop_succ (entries : Nat) :
    exec (scanLoop (entries + 1)) m =
      if m.scanNext.1 then exec (scanLoop entries) m.scanNext.2.scanErase
      else ((), m.scanNext.2) := by
  cases next : m.scanNext.1 <;> simp [exec, scanLoop, perform, Program.perform, answer, next]

theorem exec_scan (now : TimeValue) :
    exec (scan now) m =
      ((), (exec (scanLoop m.relScanTable.size) (m.scanLock now).2).2.scanUnlock) := by
  simp [exec, scan, perform, Program.perform, answer, scanLock, Program.exec_bind]

theorem scanNext_still (next : m.scanNext.1 = false) : m.scanNext.2 = m := by
  rcases scanNext_cases m with still | ⟨_, _, _, _, _, _, _, moved⟩
  · rw [still]
  · rw [moved] at next
    cases next

theorem consistent_scanLoop (entries : Nat) : ∀ {m : TimerManager Client}, Scanned m → Freed m →
    m.marked = none →
      Scanned (exec (scanLoop entries) m).2 ∧ Freed (exec (scanLoop entries) m).2 ∧
        (exec (scanLoop entries) m).2.marked = none := by
  induction entries with
  | zero =>
      intro m scanned freed none
      exact ⟨scanned, freed, none⟩
  | succ entries ih =>
      intro m scanned freed none
      rw [exec_scanLoop_succ]
      cases next : m.scanNext.1 with
      | false =>
          have still : m.scanNext.2 = m := scanNext_still next
          rw [if_neg Bool.false_ne_true, still]
          exact ⟨scanned, freed, none⟩
      | true =>
          rw [if_pos rfl]
          exact ih scanned.scanNext.scanErase freed.scanNext.scanErase (scanErase_marked _)

/-! The turns of a scan are enough. -/

theorem not_due (scanned : Scanned m) {now : TimeValue} (running : m.scanning = some ⟨now, none⟩)
    (next : m.scanNext.1 = false) {key : TimeKey} {tid : TimerId}
    (stored : m.relScanTable[key]? = some tid) :
    compare (TimeKey.of now (2 ^ 32 - 1)) key = .lt := by
  have inside : (key, tid) ∈ m.relScanTable.toList :=
    Std.TreeMap.mem_toList_iff_getElem?_eq_some.mpr stored
  have ordered := Std.TreeMap.ordered_keys_toList (t := m.relScanTable)
  cases list : m.relScanTable.toList with
  | nil =>
      rw [list] at inside
      cases inside
  | cons first rest =>
      have head : m.relScanTable.toList.head? = some first := by rw [list]; rfl
      obtain ⟨block, known, -⟩ := (scanned.entries _ _).mp (getElem?_of_head? head)
      have later : compare (TimeKey.of now (2 ^ 32 - 1)) first.1 = .lt := by
        by_contra due
        rw [scanNext, running, head] at next
        dsimp only at next
        rw [if_neg due, known] at next
        cases next
      rw [list] at inside ordered
      rcases List.mem_cons.mp inside with rfl | inside
      · exact later
      · exact Std.TransCmp.lt_trans later (List.rel_of_pairwise_cons ordered inside)

theorem size_scanErase (next : m.scanNext.1 = true) :
    m.scanNext.2.scanErase.relScanTable.size + 1 = m.relScanTable.size ∧
      m.scanNext.2.scanErase.scanning = m.scanning := by
  rcases scanNext_cases m with still | ⟨now, key, tid, block, running, first, known, moved⟩
  · rw [still] at next
    cases next
  · have stored : key ∈ m.relScanTable := by
      rw [← Std.TreeMap.isSome_getElem?_iff_mem, getElem?_of_head? first]
      rfl
    have filled : 0 < m.relScanTable.size := by
      apply Nat.pos_of_ne_zero
      intro empty
      have := Std.TreeMap.isEmpty_eq_size_eq_zero (t := m.relScanTable)
      simp [empty, Std.TreeMap.isEmpty_eq_false_iff_exists_mem.mpr ⟨key, stored⟩] at this
    rw [moved, running]
    refine ⟨?_, rfl⟩
    change (m.relScanTable.erase key).size + 1 = m.relScanTable.size
    rw [Std.TreeMap.size_erase]
    simp [stored]
    omega

theorem scanLoop_stops (entries : Nat) : ∀ {m : TimerManager Client} {now : TimeValue}, Scanned m →
    m.scanning = some ⟨now, none⟩ → m.relScanTable.size ≤ entries →
      (exec (scanLoop entries) m).2.scanNext.1 = false ∧
        (exec (scanLoop entries) m).2.scanning = some ⟨now, none⟩ := by
  induction entries with
  | zero =>
      intro m now scanned running small
      refine ⟨?_, running⟩
      cases next : m.scanNext.1 with
      | false => exact next
      | true =>
          have fewer := (size_scanErase next).1
          omega
  | succ entries ih =>
      intro m now scanned running small
      rw [exec_scanLoop_succ]
      cases next : m.scanNext.1 with
      | false =>
          rw [if_neg Bool.false_ne_true, scanNext_still next]
          exact ⟨next, running⟩
      | true =>
          obtain ⟨fewer, same⟩ := size_scanErase next
          rw [if_pos rfl]
          apply ih scanned.scanNext.scanErase
          · rw [same, running]
          · omega

theorem execute_consistent (consistent : Consistent m) (operation : Operation Client) :
    Consistent (execute m operation) := by
  have unmarked := consistent.unmarked
  cases operation with
  | create client memory => exact consistent.create client memory
  | set tid timeout now =>
      have result : execute m (.set tid timeout now) = (exec (setTimer tid timeout now) m).2 := by
        simp [execute, program, Program.exec_bind]
      rw [result, exec_setTimer]
      split
      · exact consistent
      · split
        · rename_i valid
          obtain ⟨block, known, owned⟩ := pointer_client valid
          obtain ⟨armed, -, worked, -, client, -⟩ :=
            set_worked consistent.scanned unmarked known timeout now
          exact consistent.worked known owned worked client
        · exact consistent
  | loop tid =>
      have result : execute m (.loop tid) = (exec (loopTimer tid) m).2 := by
        simp [execute, program, Program.exec_bind]
      rw [result, exec_loopTimer]
      split
      · rename_i valid
        obtain ⟨block, known, owned⟩ := pointer_client valid
        obtain ⟨armed, -, worked, -, client, -⟩ := loop_worked consistent.scanned unmarked known
        exact consistent.worked known owned worked client
      · exact consistent
  | stop tid =>
      have result : execute m (.stop tid) = (exec (stopTimer tid) m).2 := by
        simp [execute, program, Program.exec_bind]
      rw [result, exec_stopTimer]
      split
      · rename_i valid
        obtain ⟨block, known, owned⟩ := pointer_client valid
        obtain ⟨stopped, -, worked, -, client, -⟩ := stop_worked consistent.scanned unmarked known
        exact consistent.worked known owned worked client
      · exact consistent
  | kill tid =>
      have result : execute m (.kill tid) = (exec (killTimer tid) m).2 := by
        simp [execute, program, Program.exec_bind]
      rw [result, exec_killTimer]
      split
      · rename_i valid
        obtain ⟨block, known, owned⟩ := pointer_client valid
        cases timing : block.timing with
        | false => simpa [known, timing] using consistent.free known owned timing
        | true =>
            obtain ⟨success, worked⟩ := remove_worked consistent.scanned unmarked known
            have removed := consistent.worked known owned worked rfl
            simpa [known, timing, success] using removed.free worked.here owned rfl
      · exact consistent
  | scan now =>
      have result : execute m (.scan now) = (exec (scan now) m).2 := rfl
      rw [result, exec_scan]
      have locked := consistent.scanLock now
      obtain ⟨scanned, freed, -⟩ :=
        consistent_scanLoop m.relScanTable.size locked.1 locked.2 rfl
      obtain ⟨-, running⟩ := scanLoop_stops m.relScanTable.size locked.1 rfl (Nat.le_refl _)
      have unlocked := scanUnlock_eq running
      refine ⟨scanned.scanUnlock, ?_, ?_⟩
      · rw [unlocked]
        exact ⟨freed.listed, freed.idle, freed.nodup⟩
      · rw [unlocked]
  | deliver place => exact consistent

theorem foldl_consistent (operations : List (Operation Client)) :
    ∀ {m : TimerManager Client}, Consistent m → Consistent (operations.foldl execute m) := by
  induction operations with
  | nil => exact fun consistent => consistent
  | cons operation rest ih => exact fun consistent => ih (execute_consistent consistent operation)

/-- The entries of one timer in the scan table. -/
def entries (m : TimerManager Client) (tid : TimerId) : List (TimeKey × TimerId) :=
  m.relScanTable.toList.filter (·.2 = tid)

theorem mem_entries {tid : TimerId} {entry : TimeKey × TimerId} :
    entry ∈ entries m tid ↔ m.relScanTable[entry.1]? = some tid ∧ entry.2 = tid := by
  rw [entries, List.mem_filter, decide_eq_true_eq]
  constructor
  · rintro ⟨stored, rfl⟩
    exact ⟨Std.TreeMap.mem_toList_iff_getElem?_eq_some.mp stored, rfl⟩
  · rintro ⟨stored, rfl⟩
    exact ⟨Std.TreeMap.mem_toList_iff_getElem?_eq_some.mpr stored, rfl⟩

theorem entries_nodup (tid : TimerId) : (entries m tid).Nodup := by
  have distinct := Std.TreeMap.distinct_keys_toList (t := m.relScanTable)
  refine List.Nodup.filter _ (List.Pairwise.imp ?_ distinct)
  intro a b apart same
  exact apart (Std.LawfulEqCmp.compare_eq_iff_eq.mpr (congrArg Prod.fst same))

theorem entries_timing (consistent : Consistent m) {tid : TimerId} {block : TimerBlock Client}
    (known : m.idToPointer tid = some block) (timing : block.timing = true) :
    entries m tid = [(block.key tid, tid)] := by
  have tracked := consistent.scanned.tracked consistent.unmarked known
  have only : ∀ entry, entry ∈ entries m tid ↔ entry ∈ [(block.key tid, tid)] := by
    intro entry
    rw [mem_entries, tracked, List.mem_singleton]
    constructor
    · rintro ⟨⟨-, own⟩, same⟩
      exact Prod.ext own.symm same
    · rintro rfl
      exact ⟨⟨timing, rfl⟩, rfl⟩
  have listed := (List.perm_ext_iff_of_nodup (entries_nodup tid) (List.nodup_singleton _)).mpr only
  exact List.perm_singleton.mp listed

theorem entries_idle (consistent : Consistent m) {tid : TimerId} {block : TimerBlock Client}
    (known : m.idToPointer tid = some block) (idle : block.timing = false) :
    entries m tid = [] := by
  have tracked := consistent.scanned.tracked consistent.unmarked known
  apply List.eq_nil_iff_forall_not_mem.mpr
  intro entry inside
  have timing := ((tracked entry.1).mp (mem_entries.mp inside).1).1
  rw [idle] at timing
  cases timing

/-- A scan leaves no entry whose time has come. -/
theorem scan_expires (consistent : Consistent m) (now : TimeValue) {key : TimeKey} {tid : TimerId}
    (stored : (execute m (.scan now)).relScanTable[key]? = some tid) :
    compare (TimeKey.of now (2 ^ 32 - 1)) key = .lt := by
  have locked := consistent.scanLock now
  obtain ⟨scanned, -, -⟩ := consistent_scanLoop m.relScanTable.size locked.1 locked.2 rfl
  obtain ⟨stops, running⟩ := scanLoop_stops m.relScanTable.size locked.1 rfl (Nat.le_refl _)
  have result : execute m (.scan now) = (exec (scan now) m).2 := rfl
  rw [result, exec_scan, scanUnlock_eq running] at stored
  exact not_due scanned running stops stored

/-- After any operations a timer is timing exactly if the scan table has one entry for it,
under its stored timeout; a timer is in the free list exactly if it has no client, and
then it is not in the scan table; and nothing is in the free list twice. -/
theorem timer_tables_agree (operations : List (Operation Client)) :
    let m := operations.foldl execute TimerManager.started
    (∀ tid block, m.idToPointer tid = some block →
      (block.timing = true ↔ entries m tid = [(block.key tid, tid)]) ∧
      (block.timing = false → entries m tid = []) ∧
      (tid ∈ m.freelist ↔ block.client = none)) ∧
    (∀ tid ∈ m.freelist, (m.idToPointer tid).isSome = true ∧ entries m tid = []) ∧
    m.freelist.Nodup := by
  intro m
  have consistent : Consistent m := foldl_consistent operations consistent_started
  refine ⟨?_, ?_, consistent.freed.nodup⟩
  · intro tid block known
    refine ⟨⟨entries_timing consistent known, ?_⟩, entries_idle consistent known, ?_⟩
    · intro one
      cases timing : block.timing with
      | true => rfl
      | false =>
          rw [entries_idle consistent known timing] at one
          cases one
    · rw [consistent.freed.listed]
      simp [known]
  · intro tid listed
    obtain ⟨block, known, free⟩ := (consistent.freed.listed tid).mp listed
    have idle := consistent.freed.idle tid block known free
    exact ⟨by simp [known], entries_idle consistent known idle⟩

end Timers

end Tecs
