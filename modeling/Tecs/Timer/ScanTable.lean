import Tecs.Timer.TimerManager

set_option autoImplicit false

namespace Tecs

open Effect

variable {Client : Type}

/-! The scan table as a set of entries. -/

/-- The second table differs from the first in the entries of one timer: it has one at
this key, or none. -/
def Rearmed (tid : TimerId) (key : Option TimeKey) (table table' : ScanTable) : Prop :=
  ∀ key' other, table'[key']? = some other ↔
    if other = tid then key = some key' else table[key']? = some other

/-- Every entry is stored under a key of its own timer. -/
def Keyed (table : ScanTable) : Prop :=
  ∀ (key : TimeKey) (other : TimerId), table[key]? = some other → key.tid = other

/-- A block and the entries of its timer. -/
def Tracked (tid : TimerId) (block : TimerBlock Client) (table : ScanTable) : Prop :=
  ∀ key, table[key]? = some tid ↔ block.timing = true ∧ block.key tid = key

@[simp] theorem TimerBlock.key_tid (block : TimerBlock Client) (tid : TimerId) :
    (block.key tid).tid = tid := rfl

theorem Tracked.rearmed_idle {tid : TimerId} {block : TimerBlock Client} {table : ScanTable}
    (tracked : Tracked tid block table) (idle : block.timing = false) :
    Rearmed tid none table table := by
  intro key other
  by_cases same : other = tid
  · subst same
    have absent := tracked key
    simp [idle] at absent
    simp [absent]
  · simp [same]

theorem Tracked.rearmed_erase {tid : TimerId} {block : TimerBlock Client} {table : ScanTable}
    (tracked : Tracked tid block table) (timing : block.timing = true) :
    Rearmed tid none table (table.erase (block.key tid)) := by
  intro key other
  have stored : table[block.key tid]? = some tid := (tracked _).mpr ⟨timing, rfl⟩
  rw [Std.TreeMap.getElem?_erase]
  by_cases here : block.key tid = key
  · subst here
    by_cases same : other = tid
    · simp [same]
    · simp [same, stored, Ne.symm same]
  · by_cases same : other = tid
    · subst same
      have absent := tracked key
      simp [here] at absent
      simp [here, absent]
    · simp [here, same]

theorem Rearmed.insertIfNew {tid : TimerId} {table cleared : ScanTable}
    (removed : Rearmed tid none table cleared) (keyed : Keyed table) {key : TimeKey}
    (own : key.tid = tid) :
    Rearmed tid (some key) table (cleared.insertIfNew key tid) := by
  have vacant : ¬ key ∈ cleared := by
    intro taken
    obtain ⟨other, stored⟩ : ∃ other, cleared[key]? = some other :=
      Option.isSome_iff_exists.mp (by simpa using taken)
    have entry := (removed key other).mp stored
    by_cases same : other = tid
    · simp [same] at entry
    · rw [if_neg same] at entry
      exact same ((keyed key other entry).symm.trans own)
  intro key' other
  rw [Std.TreeMap.getElem?_insertIfNew]
  by_cases here : key = key'
  · subst here
    by_cases same : other = tid
    · simp [vacant, same]
    · have absent : table[key]? ≠ some other := fun stored =>
        same ((keyed key other stored).symm.trans own)
      simp [vacant, same, Ne.symm same, absent]
  · have before := removed key' other
    by_cases same : other = tid
    · simp [same] at before
      simp [here, same, before]
    · simp [same] at before
      simp [here, same, before]

/-! What `RemoveTimer` and the three locked sections leave. -/

namespace TimerManager

/-- The flow number after a removal. -/
def removedFlow (block : TimerBlock Client) : UInt32 :=
  if block.timing then block.flowNumber + 1 else block.flowNumber

section Sections

variable {tid : TimerId} {block : TimerBlock Client} {table : ScanTable}

theorem removeTimer_idle (idle : block.timing = false) :
    removeTimer tid block table = (.success, block, table) := by
  simp [removeTimer, idle]

theorem removeTimer_timing (timing : block.timing = true)
    (tracked : Tracked tid block table) :
    removeTimer tid block table =
      (.success, { block with timing := false, flowNumber := block.flowNumber + 1 },
        table.erase (block.key tid)) := by
  have stored : table[block.key tid]? = some tid := (tracked _).mpr ⟨timing, rfl⟩
  simp [removeTimer, timing, stored]

/-- A removal always succeeds on a tracked timer and clears its entry. -/
theorem removeTimer_spec (tracked : Tracked tid block table) :
    ∃ cleared, Rearmed tid none table cleared ∧
      removeTimer tid block table =
        (.success, { block with timing := false, flowNumber := removedFlow block }, cleared) := by
  cases timing : block.timing with
  | false =>
      refine ⟨table, tracked.rearmed_idle timing, ?_⟩
      rw [removeTimer_idle timing]
      cases block
      simp_all [removedFlow]
  | true =>
      refine ⟨_, tracked.rearmed_erase timing, ?_⟩
      rw [removeTimer_timing timing tracked]
      simp [removedFlow, timing]

theorem removeIfTiming :
    (if block.timing then removeTimer tid block table else (.success, block, table)) =
      removeTimer tid block table := by
  cases timing : block.timing with
  | false => rw [removeTimer_idle timing]; rfl
  | true => rfl

theorem setLocked_spec (tracked : Tracked tid block table) (keyed : Keyed table)
    (timeout : TimeOut) (now : TimeValue) :
    ∃ armed : TimerBlock Client, ∃ left,
      setLocked timeout now tid block table = (.success, armed, left) ∧
      Rearmed tid (some (armed.key tid)) table left ∧ armed.timing = true ∧
      armed.client = block.client ∧ armed.flowNumber = removedFlow block + 1 := by
  obtain ⟨cleared, removed, leaves⟩ := removeTimer_spec tracked
  let armed : TimerBlock Client :=
    ⟨timeout.msgid, timeout.type, timeout.duration, timeout.arg, timeout.strArg,
      now.after timeout.duration, block.client, removedFlow block + 1, true⟩
  have sets : setLocked timeout now tid block table =
      (.success, armed, cleared.insertIfNew (armed.key tid) tid) := by
    simp only [setLocked, removeIfTiming.trans leaves]
    rfl
  exact ⟨armed, _, sets, removed.insertIfNew keyed rfl, rfl, rfl, rfl⟩

theorem loopLocked_spec (tracked : Tracked tid block table) (keyed : Keyed table) :
    ∃ armed : TimerBlock Client, ∃ left,
      loopLocked tid block table = (.success, armed, left) ∧
      Rearmed tid (some (armed.key tid)) table left ∧ armed.timing = true ∧
      armed.client = block.client ∧ armed.flowNumber = removedFlow block + 1 := by
  obtain ⟨cleared, removed, leaves⟩ := removeTimer_spec tracked
  let armed : TimerBlock Client :=
    { block with
      timeout := block.timeout.after block.timerDuration
      flowNumber := removedFlow block + 1
      timing := true }
  have loops : loopLocked tid block table =
      (.success, armed, cleared.insertIfNew (armed.key tid) tid) := by
    simp only [loopLocked, removeIfTiming.trans leaves]
    rfl
  exact ⟨armed, _, loops, removed.insertIfNew keyed rfl, rfl, rfl, rfl⟩

theorem stopLocked_spec (tracked : Tracked tid block table) :
    ∃ stopped : TimerBlock Client, ∃ left,
      stopLocked tid block table = (.success, stopped, left) ∧
      Rearmed tid none table left ∧ stopped.timing = false ∧
      stopped.client = block.client ∧
      stopped.flowNumber = if block.timing then block.flowNumber + 2 else block.flowNumber := by
  cases timing : block.timing with
  | false =>
      exact ⟨block, table, by simp [stopLocked, timing], tracked.rearmed_idle timing, timing, rfl,
        rfl⟩
  | true =>
      let stopped : TimerBlock Client :=
        { block with timing := false, flowNumber := block.flowNumber + 1 + 1 }
      have stops : stopLocked tid block table =
          (.success, stopped, table.erase (block.key tid)) := by
        simp [stopLocked, timing, removeTimer_timing timing tracked, stopped]
      have twice : stopped.flowNumber = block.flowNumber + 2 :=
        UInt32.add_assoc block.flowNumber 1 1
      exact ⟨stopped, _, stops, tracked.rearmed_erase timing, rfl, rfl, by simp [twice]⟩

end Sections

/-! The whole manager. -/

variable {m m' : TimerManager Client} {tid : TimerId} {block : TimerBlock Client}

/-- The entry a running `Scan` has marked. -/
def marked (m : TimerManager Client) : Option (TimeKey × TimerId) := m.scanning.bind (·.marked)

/-- The scan table holds the timing timers, each under its stored timeout, and the marked one. -/
structure Scanned (m : TimerManager Client) : Prop where
  entries : ∀ (key : TimeKey) (tid : TimerId), m.relScanTable[key]? = some tid ↔
    ∃ block, m.idToPointer tid = some block ∧ block.key tid = key ∧
      (block.timing = true ∨ m.marked = some (key, tid))
  expired : ∀ key tid, m.marked = some (key, tid) →
    ∃ block, m.idToPointer tid = some block ∧ block.key tid = key ∧ block.timing = false

theorem Scanned.keyed (scanned : Scanned m) : Keyed m.relScanTable := by
  intro key other stored
  obtain ⟨block, -, same, -⟩ := (scanned.entries key other).mp stored
  rw [← same, TimerBlock.key_tid]

theorem Scanned.tracked (scanned : Scanned m) (none : m.marked = none)
    (known : m.idToPointer tid = some block) : Tracked tid block m.relScanTable := by
  intro key
  rw [scanned.entries, none]
  constructor
  · rintro ⟨found, read, same, timing | impossible⟩
    · rw [known] at read
      cases read
      exact ⟨timing, same⟩
    · cases impossible
  · rintro ⟨timing, same⟩
    exact ⟨block, known, same, .inl timing⟩

/-- One timer's block was replaced, and its entries with it. -/
structure Worked (tid : TimerId) (block : TimerBlock Client) (m m' : TimerManager Client) :
    Prop where
  here : m'.idToPointer tid = some block
  others : ∀ other, other ≠ tid → m'.idToPointer other = m.idToPointer other
  table : Rearmed tid (if block.timing then some (block.key tid) else none) m.relScanTable
    m'.relScanTable
  freelist : m'.freelist = m.freelist
  scanning : m'.scanning = m.scanning

theorem Worked.scanned (worked : Worked tid block m m') (scanned : Scanned m)
    (none : m.marked = none) : Scanned m' := by
  have still : m'.marked = .none := by
    rw [marked, worked.scanning]
    exact none
  constructor
  · intro key other
    rw [worked.table key other, still]
    by_cases same : other = tid
    · subst same
      rw [worked.here]
      cases timing : block.timing <;> simp [timing]
    · rw [if_neg same, worked.others other same, scanned.entries, none]
  · intro key other now
    rw [still] at now
    cases now

theorem idToPointer_valid (known : m.idToPointer tid = some block) :
    tid ≠ invalidTimerId ∧ m.pool[tid - 1]? = some block := by
  unfold idToPointer at known
  split at known
  · cases known
  · rename_i valid
    exact ⟨valid, known⟩

theorem idToPointer_put {stored : TimerBlock Client} (known : m.idToPointer tid = some stored)
    (block : TimerBlock Client) (other : TimerId) :
    (m.put tid block).idToPointer other =
      if other = tid then some block else m.idToPointer other := by
  obtain ⟨valid, inside⟩ := idToPointer_valid known
  have bound : tid - 1 < m.pool.length := by
    have := List.getElem?_eq_some_iff.mp inside
    exact this.1
  unfold idToPointer put
  by_cases invalid : other = invalidTimerId
  · simp [invalid, Ne.symm valid]
  · rw [if_neg invalid, if_neg invalid, List.getElem?_set]
    by_cases same : other = tid
    · simp [same, bound]
    · have apart : tid - 1 ≠ other - 1 := fun equal =>
        same (Nat.sub_one_cancel (Nat.pos_of_ne_zero valid) (Nat.pos_of_ne_zero invalid) equal).symm
      simp [same, apart]

/-- A locked section that succeeds on the block leaves the manager as its result says. -/
theorem worked_onTimer {stored : TimerBlock Client} (known : m.idToPointer tid = some stored)
    {f : TimerId → TimerBlock Client → ScanTable → Status × TimerBlock Client × ScanTable}
    {ret : Status} {table : ScanTable}
    (leaves : f tid stored m.relScanTable = (ret, block, table))
    (rearmed : Rearmed tid (if block.timing then some (block.key tid) else none) m.relScanTable
      table) :
    (m.onTimer tid f).1 = ret ∧ Worked tid block m (m.onTimer tid f).2 := by
  have result : m.onTimer tid f = (ret, { m.put tid block with relScanTable := table }) := by
    simp only [onTimer, known, leaves]
  rw [result]
  have pointers := idToPointer_put known block
  refine ⟨rfl, ⟨?_, ?_, rearmed, rfl, rfl⟩⟩
  · have here := pointers tid
    rwa [if_pos rfl] at here
  · intro other apart
    have there := pointers other
    rwa [if_neg apart] at there

section Calls

variable {stored : TimerBlock Client}

theorem set_worked (scanned : Scanned m) (none : m.marked = none)
    (known : m.idToPointer tid = some stored) (timeout : TimeOut) (now : TimeValue) :
    ∃ armed : TimerBlock Client, (m.onTimer tid (setLocked timeout now)).1 = .success ∧
      Worked tid armed m (m.onTimer tid (setLocked timeout now)).2 ∧ armed.timing = true ∧
      armed.client = stored.client ∧ armed.flowNumber = removedFlow stored + 1 := by
  obtain ⟨armed, table, leaves, rearmed, timing, client, flow⟩ :=
    setLocked_spec (scanned.tracked none known) scanned.keyed timeout now
  obtain ⟨success, worked⟩ := worked_onTimer known leaves (by simpa [timing] using rearmed)
  exact ⟨armed, success, worked, timing, client, flow⟩

theorem loop_worked (scanned : Scanned m) (none : m.marked = none)
    (known : m.idToPointer tid = some stored) :
    ∃ armed : TimerBlock Client, (m.onTimer tid loopLocked).1 = .success ∧
      Worked tid armed m (m.onTimer tid loopLocked).2 ∧ armed.timing = true ∧
      armed.client = stored.client ∧ armed.flowNumber = removedFlow stored + 1 := by
  obtain ⟨armed, table, leaves, rearmed, timing, client, flow⟩ :=
    loopLocked_spec (scanned.tracked none known) scanned.keyed
  obtain ⟨success, worked⟩ := worked_onTimer known leaves (by simpa [timing] using rearmed)
  exact ⟨armed, success, worked, timing, client, flow⟩

theorem stop_worked (scanned : Scanned m) (none : m.marked = none)
    (known : m.idToPointer tid = some stored) :
    ∃ stopped : TimerBlock Client, (m.onTimer tid stopLocked).1 = .success ∧
      Worked tid stopped m (m.onTimer tid stopLocked).2 ∧ stopped.timing = false ∧
      stopped.client = stored.client ∧
      stopped.flowNumber = if stored.timing then stored.flowNumber + 2 else stored.flowNumber := by
  obtain ⟨stopped, table, leaves, rearmed, timing, client, flow⟩ :=
    stopLocked_spec (scanned.tracked none known)
  obtain ⟨success, worked⟩ := worked_onTimer known leaves (by simpa [timing] using rearmed)
  exact ⟨stopped, success, worked, timing, client, flow⟩

theorem remove_worked (scanned : Scanned m) (none : m.marked = none)
    (known : m.idToPointer tid = some stored) :
    (m.onTimer tid removeTimer).1 = .success ∧
      Worked tid { stored with timing := false, flowNumber := removedFlow stored } m
        (m.onTimer tid removeTimer).2 := by
  obtain ⟨table, rearmed, leaves⟩ := removeTimer_spec (scanned.tracked none known)
  exact worked_onTimer known leaves (by simpa using rearmed)

end Calls

end TimerManager

end Tecs
