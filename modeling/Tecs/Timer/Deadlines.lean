import Tecs.Library.Run
import Tecs.Timer.TimerTable

set_option autoImplicit false

namespace Tecs

open Effect Transition

/-! The moments that timers are armed for. -/

section Arithmetic

namespace TimeValue

/-- The milliseconds since the clock started. -/
def total (time : TimeValue) : ℕ := time.second.toNat * 1000 + time.milisecond.toNat

def Normal (time : TimeValue) : Prop := time.milisecond.toNat < 1000

instance (time : TimeValue) : Decidable time.Normal := inferInstanceAs (Decidable (_ < _))

/-- The 32-bit sums of `after` neither wrap around nor come to 1000 milliseconds. -/
def Carries (time : TimeValue) (duration : UInt32) : Prop :=
  time.milisecond.toNat + duration.toNat < 2 ^ 32 ∧
    time.milisecond.toNat + duration.toNat ≠ 1000 ∧
    time.second.toNat + (time.milisecond.toNat + duration.toNat) / 1000 < 2 ^ 32

instance (time : TimeValue) (duration : UInt32) : Decidable (time.Carries duration) :=
  inferInstanceAs (Decidable (_ ∧ _))

theorem after_carried {time : TimeValue} {duration : UInt32}
    (above : 1000 < (time.milisecond.toNat + duration.toNat) % 2 ^ 32) :
    (time.after duration).second.toNat =
        (time.second.toNat + (time.milisecond.toNat + duration.toNat) % 2 ^ 32 / 1000) % 2 ^ 32 ∧
      (time.after duration).milisecond.toNat =
        (time.milisecond.toNat + duration.toNat) % 2 ^ 32 % 1000 := by
  have carry : time.milisecond + duration > 1000 := by
    rw [gt_iff_lt, UInt32.lt_iff_toNat_lt, UInt32.toNat_add]
    exact above
  simp only [after, if_pos carry, UInt32.toNat_add, UInt32.toNat_div, UInt32.toNat_mod]
  exact ⟨rfl, rfl⟩

theorem after_kept {time : TimeValue} {duration : UInt32}
    (below : ¬ 1000 < (time.milisecond.toNat + duration.toNat) % 2 ^ 32) :
    (time.after duration).second.toNat = time.second.toNat ∧
      (time.after duration).milisecond.toNat =
        (time.milisecond.toNat + duration.toNat) % 2 ^ 32 := by
  have kept : ¬ time.milisecond + duration > 1000 := by
    rw [gt_iff_lt, UInt32.lt_iff_toNat_lt, UInt32.toNat_add]
    exact below
  simp only [after, if_neg kept, UInt32.toNat_add]
  exact ⟨trivial, trivial⟩

/-- The sum is right up to whole turns of the two 32-bit words. -/
theorem after_total (time : TimeValue) (duration : UInt32) :
    ∃ turns turned : ℕ, (time.after duration).total + turns * 2 ^ 32 + turned * (2 ^ 32 * 1000) =
        time.total + duration.toNat ∧
      ((time.after duration).Normal → turns = 0 → turned = 0 → time.Carries duration) := by
  have word := duration.toNat_lt
  have mili := time.milisecond.toNat_lt
  have seconds := time.second.toNat_lt
  by_cases above : 1000 < (time.milisecond.toNat + duration.toNat) % 2 ^ 32
  · have ⟨second, milisecond⟩ := after_carried above
    refine ⟨(time.milisecond.toNat + duration.toNat) / 2 ^ 32,
      (time.second.toNat + (time.milisecond.toNat + duration.toNat) % 2 ^ 32 / 1000) / 2 ^ 32,
      ?_, ?_⟩
    · rw [total, total, second, milisecond]
      omega
    · intro _ once fits
      exact ⟨by omega, by omega, by omega⟩
  · have ⟨second, milisecond⟩ := after_kept above
    refine ⟨(time.milisecond.toNat + duration.toNat) / 2 ^ 32, 0, ?_, ?_⟩
    · rw [total, total, second, milisecond]
      omega
    · intro normal once _
      rw [Normal, milisecond] at normal
      exact ⟨by omega, by omega, by omega⟩

theorem Carries.after {time : TimeValue} {duration : UInt32} (carries : time.Carries duration) :
    (time.after duration).Normal ∧ (time.after duration).total = time.total + duration.toNat := by
  obtain ⟨once, carry, fits⟩ := carries
  by_cases above : 1000 < (time.milisecond.toNat + duration.toNat) % 2 ^ 32
  · have ⟨second, milisecond⟩ := after_carried above
    rw [Normal, total, total, second, milisecond]
    omega
  · have ⟨second, milisecond⟩ := after_kept above
    rw [Normal, total, total, second, milisecond]
    omega

theorem after_iff (time : TimeValue) (duration : UInt32) :
    (time.after duration).Normal ∧ (time.after duration).total = time.total + duration.toNat ↔
      time.Carries duration := by
  constructor
  · intro ⟨normal, exact_⟩
    obtain ⟨turns, turned, sum, carries⟩ := after_total time duration
    exact carries normal (by omega) (by omega)
  · exact Carries.after

end TimeValue

theorem toNat_sub_cases (a b : UInt32) :
    (b.toNat ≤ a.toNat ∧ (a - b).toNat = a.toNat - b.toNat) ∨
      (a.toNat < b.toNat ∧ (a - b).toNat = 2 ^ 32 + a.toNat - b.toNat) := by
  have first := a.toNat_lt
  have second := b.toNat_lt
  rw [UInt32.toNat_sub]
  by_cases fits : b.toNat ≤ a.toNat
  · exact .inl ⟨fits, by omega⟩
  · exact .inr ⟨by omega, by omega⟩

/-- The keys of normal times are in the order of the times. -/
theorem compare_lt_iff {now time : TimeValue} (normal : now.Normal) (normal' : time.Normal)
    (last tid : TimerId) :
    compare (TimeKey.of now last) (TimeKey.of time tid) = .lt ↔
      now.total < time.total ∨ now.total = time.total ∧ last < tid := by
  show compareLex (compareOn TimeKey.second)
    (compareLex (compareOn TimeKey.milisecond) (compareOn TimeKey.tid)) _ _ = .lt ↔ _
  simp only [compareLex, compareOn, TimeKey.of, UInt32.compare_eq_toNat_compare_toNat,
    Ordering.then_eq_lt, Nat.compare_eq_lt, Nat.compare_eq_eq]
  rw [TimeValue.Normal] at normal normal'
  rw [TimeValue.total, TimeValue.total]
  constructor
  · rintro (second | ⟨second, milisecond | ⟨milisecond, tids⟩⟩)
    · exact .inl (by omega)
    · exact .inl (by omega)
    · exact .inr ⟨by omega, tids⟩
  · rintro (less | ⟨same, tids⟩)
    · omega
    · exact .inr ⟨by omega, .inr ⟨by omega, tids⟩⟩

end Arithmetic

section Definitions

variable {Client : Type}

def TimerManager.getRemainedTime (m : TimerManager Client) (tid : TimerId) (now : TimeValue) :
    Status × Option TimeValue :=
  match m.idToPointer tid with
  | none => (.errorObjectNotExist, none)
  | some block =>
      if block.client.isNone then (.errorObjectNotExist, none)
      else
        let second := block.timeout.second - now.second
        if block.timeout.milisecond < now.milisecond then
          (.success, some ⟨second - 1, block.timeout.milisecond + 1000 - now.milisecond⟩)
        else (.success, some ⟨second, block.timeout.milisecond - now.milisecond⟩)

namespace Timers

open TimerManager

/-- The timers whose hooks a scan calls, in order. -/
def postedLoop : ℕ → TimerManager Client → List TimerId
  | 0, _ => []
  | entries + 1, m =>
      match m.scanNext.1, m.scanNext.2.marked with
      | true, some (_, tid) => tid :: postedLoop entries m.scanNext.2.scanErase
      | _, _ => []

def posted (m : TimerManager Client) (now : TimeValue) : List TimerId :=
  postedLoop m.relScanTable.size (m.scanLock now).2

/-- The manager and the clock: what it showed last, and for each timer the moment that its latest
arming asked for, in milliseconds. -/
structure Clock (Client : Type) where
  manager : TimerManager Client
  time : ℕ
  deadline : TimerId → ℕ

inductive ClockMove (Client : Type)
  | operate (operation : Operation Client) (now : TimeValue)
  | remained (tid : TimerId) (now : TimeValue)

def ClockMove.now : ClockMove Client → TimeValue
  | .operate _ now => now
  | .remained _ now => now

/-- An operation that looks at the clock finds what the clock shows. -/
def ClockMove.Reads : ClockMove Client → Prop
  | .operate (.set _ _ taken) now => taken = now
  | .operate (.scan taken) now => taken = now
  | _ => True

variable (clock : Clock Client)

/-- The timer has a client. -/
def Clock.accepts (tid : TimerId) : Bool := (clock.manager.idToPointer tid).any (·.client.isSome)

def Clock.duration (tid : TimerId) : ℕ :=
  (clock.manager.idToPointer tid).elim 0 (·.timerDuration.toNat)

/-- The moments that the timers are armed for after an operation. -/
def Clock.arm (now : TimeValue) : Operation Client → TimerId → ℕ
  | .set tid timeout _ =>
      if timeout.validate && clock.accepts tid then
        Function.update clock.deadline tid (now.total + timeout.duration.toNat)
      else clock.deadline
  | .loop tid =>
      if clock.accepts tid then
        Function.update clock.deadline tid (now.total + clock.duration tid)
      else clock.deadline
  | _ => clock.deadline

def Clock.next : ClockMove Client → Clock Client
  | .operate operation now =>
      ⟨execute clock.manager operation, now.total, clock.arm now operation⟩
  | .remained _ now => { clock with time := now.total }

/-- The clock goes forward, and the ids of the timers are 32-bit words. -/
def ClockStep (before : Clock Client) (move : ClockMove Client) (after : Clock Client) : Prop :=
  (move.now.Normal ∧ before.time ≤ move.now.total ∧ move.Reads) ∧
    after.manager.pool.length < 2 ^ 32 ∧ after = before.next move

/-- Every armed timer has its moment stored, and the keys are in the order of the moments. -/
structure Clock.Stored : Prop where
  exact : ∀ tid block, clock.manager.idToPointer tid = some block → block.timing = true →
    block.timeout.Normal ∧ block.timeout.total = clock.deadline tid
  ordered : ∀ tid tid' block block', clock.manager.idToPointer tid = some block →
    clock.manager.idToPointer tid' = some block' → block.timing = true → block'.timing = true →
      clock.deadline tid < clock.deadline tid' → compare (block.key tid) (block'.key tid') = .lt

def Clock.Armed (tid : TimerId) : Prop :=
  ∃ block, clock.manager.idToPointer tid = some block ∧ block.timing = true

/-- A scan posts the armed timers whose moment has come and no others, and the remaining time of an
armed timer is that to its moment. -/
def Clock.Answers : ClockMove Client → Prop
  | .operate (.scan now) _ => ∀ tid, tid ∈ posted clock.manager now ↔
      clock.Armed tid ∧ clock.deadline tid ≤ now.total
  | .remained tid now => clock.Armed tid → ∃ left,
      clock.manager.getRemainedTime tid now = (.success, some left) ∧
        left.total = clock.deadline tid - now.total
  | _ => True

/-- A step to a state with the right moments, with the right answers. -/
def Punctual (before : Clock Client) (move : ClockMove Client) (after : Clock Client) : Prop :=
  ClockStep before move after ∧ after.Stored ∧ before.Answers move

/-- The sums fit into their words; a loop goes on at the moment that it was armed for before; and
nobody asks for the remaining time of a timer that is overdue. -/
def Clock.Exact : ClockMove Client → Prop
  | .operate (.set tid timeout _) now =>
      (timeout.validate && clock.accepts tid) = true → now.Carries timeout.duration
  | .operate (.loop tid) now => clock.accepts tid = true →
      ∀ block, clock.manager.idToPointer tid = some block →
        block.timeout.total = now.total ∧ block.timeout.Carries block.timerDuration
  | .remained tid now => ∀ block, clock.manager.idToPointer tid = some block →
      block.timing = true → now.total ≤ block.timeout.total
  | _ => True

def Clock.start : Clock Client := ⟨TimerManager.started, 0, fun _ => 0⟩

end Timers

end Definitions

section Scans

variable {Client : Type} {m : TimerManager Client}

open TimerManager

namespace Timers

theorem scanNext_due (next : m.scanNext.1 = true) :
    ∃ now key tid block, m.scanning = some ⟨now, none⟩ ∧
      m.relScanTable.toList.head? = some (key, tid) ∧ m.idToPointer tid = some block ∧
      ¬ compare (TimeKey.of now (2 ^ 32 - 1)) key = .lt ∧
      m.scanNext.2 = { m.put tid { block with timing := false } with
        scanning := some ⟨now, some (key, tid)⟩ } := by
  unfold scanNext at next ⊢
  split at next
  case h_1 now key tid running first =>
    split at next
    case isTrue => cases next
    case isFalse due =>
      split at next
      case h_1 => cases next
      case h_2 block known =>
        refine ⟨now, key, tid, block, running, first, known, due, ?_⟩
        simp only [if_neg due]
  case h_2 => cases next

theorem postedLoop_still {entries : ℕ} (next : m.scanNext.1 = false) :
    postedLoop (entries + 1) m = [] := by
  simp only [postedLoop, next]

theorem postedLoop_posts {entries : ℕ} (next : m.scanNext.1 = true) {key : TimeKey}
    {tid : TimerId} (marked : m.scanNext.2.marked = some (key, tid)) :
    postedLoop (entries + 1) m = tid :: postedLoop entries m.scanNext.2.scanErase := by
  simp only [postedLoop, next, marked]

/-- A scan calls the hooks of the entries whose time has come. -/
theorem mem_postedLoop (entries : ℕ) : ∀ {m : TimerManager Client} {now : TimeValue}, Scanned m →
    m.scanning = some ⟨now, none⟩ → m.relScanTable.size ≤ entries → ∀ tid : TimerId,
      (tid ∈ postedLoop entries m ↔ ∃ key : TimeKey, m.relScanTable[key]? = some tid ∧
        ¬ compare (TimeKey.of now (2 ^ 32 - 1)) key = .lt) := by
  induction entries with
  | zero =>
      intro m now scanned running small tid
      have empty : m.relScanTable.isEmpty = true := by
        rw [Std.TreeMap.isEmpty_eq_size_eq_zero, Nat.le_zero.mp small]
        rfl
      constructor
      · exact fun member => absurd member List.not_mem_nil
      · intro ⟨key, stored, _⟩
        rw [Std.TreeMap.getElem?_of_isEmpty empty] at stored
        cases stored
  | succ entries ih =>
      intro m now scanned running small tid
      cases next : m.scanNext.1 with
      | false =>
          rw [postedLoop_still next]
          constructor
          · exact fun member => absurd member List.not_mem_nil
          · intro ⟨key, stored, due⟩
            exact absurd (not_due scanned running next stored) due
      | true =>
          obtain ⟨taken, key, first, block, running', head, known, due, moved⟩ := scanNext_due next
          have same : taken = now := by
            rw [running] at running'
            cases running'
            rfl
          obtain ⟨fewer, kept⟩ := size_scanErase next
          have marked : m.scanNext.2.marked = some (key, first) := by
            rw [moved]
            rfl
          have table : m.scanNext.2.scanErase.relScanTable = m.relScanTable.erase key := by
            rw [moved]
            rfl
          have later := ih scanned.scanNext.scanErase (kept.trans running) (by omega) tid
          rw [postedLoop_posts next marked, List.mem_cons, later, table]
          constructor
          · rintro (rfl | ⟨other, stored, expired⟩)
            · exact ⟨key, getElem?_of_head? head, same ▸ due⟩
            · rw [Std.TreeMap.getElem?_erase] at stored
              split at stored
              · cases stored
              · exact ⟨other, stored, expired⟩
          · intro ⟨other, stored, expired⟩
            by_cases here : key = other
            · rw [← here, getElem?_of_head? head] at stored
              exact .inl (Option.some.inj stored).symm
            · refine .inr ⟨other, ?_, expired⟩
              rw [Std.TreeMap.getElem?_erase, if_neg]
              · exact stored
              · exact fun equal => here (Std.LawfulEqCmp.compare_eq_iff_eq.mp equal)

theorem mem_posted (consistent : Consistent m) (now : TimeValue) (tid : TimerId) :
    tid ∈ posted m now ↔ ∃ key : TimeKey, m.relScanTable[key]? = some tid ∧
      ¬ compare (TimeKey.of now (2 ^ 32 - 1)) key = .lt :=
  mem_postedLoop _ (consistent.scanLock now).1 rfl (Nat.le_refl _) tid

end Timers

end Scans

section Timeless

variable {Client : Type} {m m' m'' : TimerManager Client}

open TimerManager

namespace Timers

/-- No timer is armed, and every timer keeps its timeout or is a new one. -/
def Timeless (m m' : TimerManager Client) : Prop :=
  ∀ tid block', m'.idToPointer tid = some block' →
    (block'.timing = false ∧ block'.timeout = ⟨0, 0⟩) ∨
      ∃ block, m.idToPointer tid = some block ∧ block'.timeout = block.timeout ∧
        block'.timerDuration = block.timerDuration ∧ (block'.timing = true → block.timing = true)

theorem Timeless.refl (m : TimerManager Client) : Timeless m m :=
  fun _ block known => .inr ⟨block, known, rfl, rfl, id⟩

theorem Timeless.trans (first : Timeless m m') (second : Timeless m' m'') : Timeless m m'' := by
  intro tid block'' known''
  rcases second tid block'' known'' with fresh | ⟨block', known', timeout', duration', timing'⟩
  · exact .inl fresh
  · rcases first tid block' known' with ⟨idle, zero⟩ | ⟨block, known, timeout, duration, timing⟩
    · refine .inl ⟨?_, timeout'.trans zero⟩
      cases armed : block''.timing with
      | false => rfl
      | true =>
          rw [timing' armed] at idle
          cases idle
    · exact .inr ⟨block, known, timeout'.trans timeout, duration'.trans duration,
        fun armed => timing (timing' armed)⟩

/-- A block is replaced by one with the same timeout. -/
theorem timeless_put {tid : TimerId} {stored block : TimerBlock Client}
    (known : m.idToPointer tid = some stored) (timeout : block.timeout = stored.timeout)
    (duration : block.timerDuration = stored.timerDuration)
    (timing : block.timing = true → stored.timing = true) :
    Timeless m (m.put tid block) := by
  intro other block' read
  rw [idToPointer_put known] at read
  by_cases same : other = tid
  · rw [if_pos same] at read
    cases read
    exact .inr ⟨stored, same ▸ known, timeout, duration, timing⟩
  · rw [if_neg same] at read
    exact .inr ⟨block', read, rfl, rfl, id⟩

theorem timeless_pool (pool : m'.pool = m.pool) : Timeless m m' := by
  intro tid block known
  have same : m'.idToPointer tid = m.idToPointer tid := by
    rw [idToPointer, idToPointer, pool]
  exact .inr ⟨block, same ▸ known, rfl, rfl, id⟩

theorem timeless_allocate (m : TimerManager Client) : Timeless m m.allocateTimerBlock := by
  intro tid block found
  rcases idToPointer_allocate_cases found with known | ⟨_, rfl, _, _⟩
  · exact .inr ⟨block, known, rfl, rfl, id⟩
  · exact .inl ⟨rfl, rfl⟩

theorem timeless_create (m : TimerManager Client) (client : Client) (memory : Bool) :
    Timeless m (m.createLocked client memory).2 := by
  obtain ⟨ready, prepared, outcome⟩ := createLocked_cases m client memory
  have first : Timeless m ready := by
    rcases prepared with rfl | rfl
    · exact .refl _
    · exact timeless_allocate m
  rcases outcome with result | ⟨tid, rest, list, ⟨absent, result⟩ | ⟨block, known, result⟩⟩
  · rw [result]
    exact first
  · rw [result]
    exact first.trans (timeless_pool rfl)
  · rw [result]
    have put : Timeless ready (ready.put tid { block with client := some client }) :=
      timeless_put known rfl rfl id
    exact first.trans (put.trans (timeless_pool rfl))

/-- The locked sections that arm no timer. -/
theorem timeless_onTimer (tid : TimerId)
    {f : TimerId → TimerBlock Client → ScanTable → Status × TimerBlock Client × ScanTable}
    (kept : ∀ block table, (f tid block table).2.1.timeout = block.timeout ∧
      (f tid block table).2.1.timerDuration = block.timerDuration ∧
      ((f tid block table).2.1.timing = true → block.timing = true)) :
    Timeless m (m.onTimer tid f).2 := by
  cases known : m.idToPointer tid with
  | none =>
      simp only [onTimer, known]
      exact .refl m
  | some block =>
      obtain ⟨timeout, duration, timing⟩ := kept block m.relScanTable
      have put := timeless_put known timeout duration timing
      simp only [onTimer, known]
      exact put.trans (timeless_pool rfl)

theorem removeTimer_kept (tid : TimerId) (block : TimerBlock Client) (table : ScanTable) :
    (removeTimer tid block table).2.1.timeout = block.timeout ∧
      (removeTimer tid block table).2.1.timerDuration = block.timerDuration ∧
      ((removeTimer tid block table).2.1.timing = true → block.timing = true) := by
  rw [removeTimer]
  split
  · exact ⟨rfl, rfl, id⟩
  · split
    · exact ⟨rfl, rfl, id⟩
    · exact ⟨rfl, rfl, fun armed => Bool.noConfusion armed⟩

theorem stopLocked_kept (tid : TimerId) (block : TimerBlock Client) (table : ScanTable) :
    (stopLocked tid block table).2.1.timeout = block.timeout ∧
      (stopLocked tid block table).2.1.timerDuration = block.timerDuration ∧
      ((stopLocked tid block table).2.1.timing = true → block.timing = true) := by
  have removed := removeTimer_kept tid block table
  rw [stopLocked]
  split
  · exact ⟨rfl, rfl, id⟩
  · dsimp only
    split
    · exact removed
    · exact removed

theorem timeless_free (m : TimerManager Client) (tid : TimerId) :
    Timeless m (m.freeLocked tid) := by
  cases known : m.idToPointer tid with
  | none =>
      simp only [freeLocked, known]
      exact .refl m
  | some block =>
      have put : Timeless m
          (m.put tid { block with client := none, flowNumber := block.flowNumber + 1 }) :=
        timeless_put known rfl rfl id
      simp only [freeLocked, known]
      exact put.trans (timeless_pool rfl)

theorem timeless_scanNext (m : TimerManager Client) : Timeless m m.scanNext.2 := by
  rcases scanNext_cases m with still | ⟨now, key, tid, block, _, _, known, next⟩
  · rw [still]
    exact .refl m
  · rw [next]
    have put : Timeless m (m.put tid { block with timing := false }) :=
      timeless_put known rfl rfl (fun armed => Bool.noConfusion armed)
    exact put.trans (timeless_pool rfl)

theorem timeless_scanErase (m : TimerManager Client) : Timeless m m.scanErase := by
  rw [scanErase]
  split <;> exact timeless_pool rfl

theorem timeless_scanUnlock (m : TimerManager Client) : Timeless m m.scanUnlock := by
  rw [scanUnlock]
  split <;> exact timeless_pool rfl

theorem timeless_scanLoop (entries : ℕ) :
    ∀ m : TimerManager Client, Timeless m (exec (scanLoop entries) m).2 := by
  induction entries with
  | zero => exact fun m => .refl m
  | succ entries ih =>
      intro m
      rw [exec_scanLoop_succ]
      split
      · exact (timeless_scanNext m).trans ((timeless_scanErase _).trans (ih _))
      · exact timeless_scanNext m

theorem timeless_scan (m : TimerManager Client) (now : TimeValue) :
    Timeless m (execute m (.scan now)) := by
  have result : execute m (.scan now) = (exec (scan now) m).2 := rfl
  have locked : Timeless m (m.scanLock now).2 := timeless_pool rfl
  rw [result, exec_scan]
  exact locked.trans ((timeless_scanLoop _ _).trans (timeless_scanUnlock _))

theorem timeless_stop (m : TimerManager Client) (tid : TimerId) :
    Timeless m (execute m (.stop tid)) := by
  have result : execute m (.stop tid) = (exec (stopTimer tid) m).2 := by
    simp [execute, program, Program.exec_bind]
  rw [result, exec_stopTimer]
  split
  · exact timeless_onTimer tid (stopLocked_kept tid)
  · exact .refl m

theorem timeless_kill (m : TimerManager Client) (tid : TimerId) :
    Timeless m (execute m (.kill tid)) := by
  have result : execute m (.kill tid) = (exec (killTimer tid) m).2 := by
    simp [execute, program, Program.exec_bind]
  rw [result, exec_killTimer]
  split
  · split
    · have removed : Timeless m (m.onTimer tid removeTimer).2 :=
        timeless_onTimer tid (removeTimer_kept tid)
      dsimp only
      split
      · exact removed
      · exact removed.trans (timeless_free _ tid)
    · rw [if_neg (not_not_intro rfl)]
      exact timeless_free m tid
  · exact .refl m

end Timers

end Timeless

section Arming

variable {Client : Type} {m : TimerManager Client} {tid : TimerId} {stored : TimerBlock Client}

open TimerManager

namespace Timers

theorem onTimer_pointer (known : m.idToPointer tid = some stored)
    (f : TimerId → TimerBlock Client → ScanTable → Status × TimerBlock Client × ScanTable) :
    (m.onTimer tid f).2.idToPointer tid = some (f tid stored m.relScanTable).2.1 := by
  have read := idToPointer_put known (f tid stored m.relScanTable).2.1 tid
  rw [if_pos rfl] at read
  simp only [onTimer, known]
  exact read

theorem setLocked_timeout (tracked : Tracked tid stored m.relScanTable) (timeout : TimeOut)
    (now : TimeValue) :
    (setLocked timeout now tid stored m.relScanTable).2.1.timeout = now.after timeout.duration ∧
      (setLocked timeout now tid stored m.relScanTable).2.1.timerDuration = timeout.duration := by
  obtain ⟨cleared, _, leaves⟩ := removeTimer_spec tracked
  simp only [setLocked, removeIfTiming.trans leaves]
  exact ⟨rfl, rfl⟩

theorem loopLocked_timeout (tracked : Tracked tid stored m.relScanTable) :
    (loopLocked tid stored m.relScanTable).2.1.timeout =
        stored.timeout.after stored.timerDuration ∧
      (loopLocked tid stored m.relScanTable).2.1.timerDuration = stored.timerDuration := by
  obtain ⟨cleared, _, leaves⟩ := removeTimer_spec tracked
  simp only [loopLocked, removeIfTiming.trans leaves]
  exact ⟨rfl, rfl⟩

/-- A timer was armed: its block has a new timeout, and the others are as they were. -/
structure Rearms (m m' : TimerManager Client) (tid : TimerId) (timeout : TimeValue)
    (duration : UInt32) : Prop where
  here : ∃ armed, m'.idToPointer tid = some armed ∧ armed.timing = true ∧
    armed.timeout = timeout ∧ armed.timerDuration = duration
  others : ∀ other, other ≠ tid → m'.idToPointer other = m.idToPointer other

/-- `SetTimer` counts from now. -/
theorem set_rearms (consistent : Consistent m) (known : m.idToPointer tid = some stored)
    (owned : stored.client.isSome = true) {timeout : TimeOut} (valid : timeout.validate = true)
    (now : TimeValue) :
    Rearms m (execute m (.set tid timeout now)) tid (now.after timeout.duration)
      timeout.duration := by
  have result : execute m (.set tid timeout now) = (m.onTimer tid (setLocked timeout now)).2 := by
    have accepted : (m.idToPointer tid).any (·.client.isSome) = true := by
      rw [known]
      exact owned
    have whole : execute m (.set tid timeout now) = (exec (setTimer tid timeout now) m).2 := by
      simp [execute, program, Program.exec_bind]
    rw [whole, exec_setTimer, if_neg (ne_false_of_eq_true valid), if_pos accepted]
  obtain ⟨armed, _, worked, timing, _⟩ :=
    set_worked consistent.scanned consistent.unmarked known timeout now
  have tracked := consistent.scanned.tracked consistent.unmarked known
  obtain ⟨moment, duration⟩ := setLocked_timeout tracked timeout now
  have read := worked.here.symm.trans (onTimer_pointer known (setLocked timeout now))
  have same := Option.some.inj read
  rw [result]
  refine ⟨⟨armed, worked.here, timing, ?_, ?_⟩, worked.others⟩
  · rw [same]
    exact moment
  · rw [same]
    exact duration

/-- `LoopTimer` goes on at the moment that the timer was armed for. -/
theorem loop_rearms (consistent : Consistent m) (known : m.idToPointer tid = some stored)
    (owned : stored.client.isSome = true) :
    Rearms m (execute m (.loop tid)) tid (stored.timeout.after stored.timerDuration)
      stored.timerDuration := by
  have result : execute m (.loop tid) = (m.onTimer tid loopLocked).2 := by
    have accepted : (m.idToPointer tid).any (·.client.isSome) = true := by
      rw [known]
      exact owned
    have whole : execute m (.loop tid) = (exec (loopTimer tid) m).2 := by
      simp [execute, program, Program.exec_bind]
    rw [whole, exec_loopTimer, if_pos accepted]
  obtain ⟨armed, _, worked, timing, _⟩ :=
    loop_worked consistent.scanned consistent.unmarked known
  have tracked := consistent.scanned.tracked consistent.unmarked known
  obtain ⟨moment, duration⟩ := loopLocked_timeout tracked
  have read := worked.here.symm.trans (onTimer_pointer known loopLocked)
  have same := Option.some.inj read
  rw [result]
  refine ⟨⟨armed, worked.here, timing, ?_, ?_⟩, worked.others⟩
  · rw [same]
    exact moment
  · rw [same]
    exact duration

end Timers

end Arming

section Runs

variable {Client : Type}

open TimerManager

namespace Timers

variable {clock after : Clock Client} {tid : TimerId}

/-- What the steps keep as long as they are exact. -/
structure Clock.Sound (clock : Clock Client) : Prop where
  consistent : Consistent clock.manager
  normal : ∀ tid block, clock.manager.idToPointer tid = some block → block.timeout.Normal
  recent : ∀ tid block, clock.manager.idToPointer tid = some block →
    block.timeout.total ≤ clock.time + block.timerDuration.toNat
  exact : ∀ tid block, clock.manager.idToPointer tid = some block → block.timing = true →
    block.timeout.total = clock.deadline tid
  small : clock.manager.pool.length < 2 ^ 32

theorem zero_normal : TimeValue.Normal ⟨0, 0⟩ := by
  show (0 : UInt32).toNat < 1000
  decide

theorem zero_total : TimeValue.total ⟨0, 0⟩ = 0 := by
  simp [TimeValue.total]

theorem start_sound : (Clock.start : Clock Client).Sound := by
  have fresh : ∀ tid block, (TimerManager.started : TimerManager Client).idToPointer tid =
      some block → block = .fresh := by
    intro tid block known
    rcases idToPointer_allocate_cases known with old | ⟨_, fresh, _⟩
    · simp [idToPointer] at old
    · exact fresh
  refine ⟨consistent_started, ?_, ?_, ?_, ?_⟩
  · intro tid block known
    rw [fresh tid block known]
    exact zero_normal
  · intro tid block known
    rw [fresh tid block known]
    show TimeValue.total ⟨0, 0⟩ ≤ _
    rw [zero_total]
    exact Nat.zero_le _
  · intro tid block known armed
    rw [fresh tid block known] at armed
    cases armed
  · have size : (TimerManager.started : TimerManager Client).pool.length = 32 := by
      simp [TimerManager.started, allocateTimerBlock, onceAllocCount]
    show (TimerManager.started : TimerManager Client).pool.length < 2 ^ 32
    omega

theorem sound_timeless (sound : clock.Sound) (consistent : Consistent after.manager)
    (timeless : Timeless clock.manager after.manager) (later : clock.time ≤ after.time)
    (deadline : after.deadline = clock.deadline) (small : after.manager.pool.length < 2 ^ 32) :
    after.Sound := by
  refine ⟨consistent, ?_, ?_, ?_, small⟩
  · intro tid block' known
    rcases timeless tid block' known with ⟨_, zero⟩ | ⟨block, before, timeout, _⟩
    · rw [zero]
      exact zero_normal
    · rw [timeout]
      exact sound.normal tid block before
  · intro tid block' known
    rcases timeless tid block' known with ⟨_, zero⟩ | ⟨block, before, timeout, duration, _⟩
    · rw [zero, zero_total]
      exact Nat.zero_le _
    · have recent := sound.recent tid block before
      rw [timeout, duration]
      omega
  · intro tid block' known armed
    rcases timeless tid block' known with ⟨idle, _⟩ | ⟨block, before, timeout, _, timing⟩
    · rw [idle] at armed
      cases armed
    · rw [timeout, deadline]
      exact sound.exact tid block before (timing armed)

/-- A timer is armed for a moment that fits. -/
theorem sound_rearmed (sound : clock.Sound) (consistent : Consistent after.manager)
    {from_ : TimeValue} {duration : UInt32}
    (rearms : Rearms clock.manager after.manager tid (from_.after duration) duration)
    (carries : from_.Carries duration) (later : clock.time ≤ after.time)
    (now : after.time = from_.total)
    (deadline : after.deadline =
      Function.update clock.deadline tid (from_.total + duration.toNat))
    (small : after.manager.pool.length < 2 ^ 32) : after.Sound := by
  obtain ⟨armed, here, _, timeout, lasts⟩ := rearms.here
  obtain ⟨normal, total⟩ := carries.after
  have split (other : TimerId) (block : TimerBlock Client)
      (known : after.manager.idToPointer other = some block) :
      (other = tid ∧ block = armed) ∨
        (other ≠ tid ∧ clock.manager.idToPointer other = some block) := by
    by_cases same : other = tid
    · rw [same, here] at known
      exact .inl ⟨same, (Option.some.inj known).symm⟩
    · rw [rearms.others other same] at known
      exact .inr ⟨same, known⟩
  refine ⟨consistent, ?_, ?_, ?_, small⟩
  · intro other block known
    rcases split other block known with ⟨_, rfl⟩ | ⟨_, before⟩
    · rw [timeout]
      exact normal
    · exact sound.normal other block before
  · intro other block known
    rcases split other block known with ⟨_, rfl⟩ | ⟨_, before⟩
    · rw [timeout, lasts]
      omega
    · have recent := sound.recent other block before
      omega
  · intro other block known timing
    rcases split other block known with ⟨rfl, rfl⟩ | ⟨apart, before⟩
    · rw [timeout, deadline, Function.update_self]
      exact total
    · rw [deadline, Function.update_of_ne apart]
      exact sound.exact other block before timing

/-- The keys of the armed timers are in the order of their moments. -/
theorem Clock.Sound.stored (sound : clock.Sound) : clock.Stored := by
  refine ⟨fun tid block known armed => ⟨sound.normal tid block known, ?_⟩, ?_⟩
  · exact sound.exact tid block known armed
  · intro tid tid' block block' known known' armed armed' less
    rw [← sound.exact tid block known armed, ← sound.exact tid' block' known' armed'] at less
    exact (compare_lt_iff (sound.normal tid block known) (sound.normal tid' block' known')
      tid tid').mpr (.inl less)

theorem scan_answers (sound : clock.Sound) {now : TimeValue} (normal : now.Normal) :
    ∀ tid, tid ∈ posted clock.manager now ↔
      clock.Armed tid ∧ clock.deadline tid ≤ now.total := by
  intro tid
  have later (block : TimerBlock Client) (known : clock.manager.idToPointer tid = some block)
      (armed : block.timing = true) :
      compare (TimeKey.of now (2 ^ 32 - 1)) (block.key tid) = .lt ↔
        ¬ clock.deadline tid ≤ now.total := by
    have bound := idToPointer_length known
    have small := sound.small
    have order := compare_lt_iff normal (sound.normal tid block known) (2 ^ 32 - 1) tid
    rw [sound.exact tid block known armed] at order
    refine order.trans ⟨?_, ?_⟩
    · rintro (less | ⟨_, beyond⟩)
      · exact Nat.not_le.mpr less
      · have large : 2 ^ 32 - 1 < clock.manager.pool.length := Nat.lt_of_lt_of_le beyond bound
        omega
    · exact fun less => .inl (Nat.not_le.mp less)
  rw [mem_posted sound.consistent]
  constructor
  · intro ⟨key, stored, due⟩
    obtain ⟨block, known, own, live⟩ := (sound.consistent.scanned.entries key tid).mp stored
    have armed : block.timing = true := by
      rcases live with armed | marked
      · exact armed
      · rw [sound.consistent.unmarked] at marked
        cases marked
    rw [← own, later block known armed, not_not] at due
    exact ⟨⟨block, known, armed⟩, due⟩
  · intro ⟨⟨block, known, armed⟩, due⟩
    have tracked := sound.consistent.scanned.tracked sound.consistent.unmarked known
    refine ⟨block.key tid, (tracked _).mpr ⟨armed, rfl⟩, ?_⟩
    rw [later block known armed]
    exact not_not_intro due

theorem armed_client (sound : clock.Sound) {block : TimerBlock Client}
    (known : clock.manager.idToPointer tid = some block) (armed : block.timing = true) :
    block.client.isNone = false := by
  cases client : block.client with
  | some => rfl
  | none =>
      have idle := sound.consistent.freed.idle tid block known client
      rw [armed] at idle
      cases idle

/-- The two 32-bit subtractions are right as long as the moment has not passed. -/
theorem remained_iff (sound : clock.Sound) {now : TimeValue} (normal : now.Normal)
    {block : TimerBlock Client} (known : clock.manager.idToPointer tid = some block)
    (armed : block.timing = true) :
    ∃ left, clock.manager.getRemainedTime tid now = (.success, some left) ∧
      (left.total = block.timeout.total - now.total ↔ now.total ≤ block.timeout.total) := by
  have normal' := sound.normal tid block known
  have seconds := block.timeout.second.toNat_lt
  have seconds' := now.second.toNat_lt
  rw [TimeValue.Normal] at normal normal'
  have difference := toNat_sub_cases block.timeout.second now.second
  by_cases borrow : block.timeout.milisecond < now.milisecond
  · refine ⟨⟨block.timeout.second - now.second - 1,
      block.timeout.milisecond + 1000 - now.milisecond⟩, ?_, ?_⟩
    · simp only [getRemainedTime, known, armed_client sound known armed, Bool.false_eq_true,
        if_false, if_pos borrow]
    · rw [UInt32.lt_iff_toNat_lt] at borrow
      have one : (1 : UInt32).toNat = 1 := rfl
      have carried : (block.timeout.milisecond + 1000).toNat =
          block.timeout.milisecond.toNat + 1000 := by
        have thousand : (1000 : UInt32).toNat = 1000 := rfl
        rw [UInt32.toNat_add, thousand]
        exact Nat.mod_eq_of_lt (by omega)
      have borrowed := toNat_sub_cases (block.timeout.second - now.second) 1
      have words := toNat_sub_cases (block.timeout.milisecond + 1000) now.milisecond
      rw [one] at borrowed
      rw [carried] at words
      simp only [TimeValue.total]
      omega
  · refine ⟨⟨block.timeout.second - now.second,
      block.timeout.milisecond - now.milisecond⟩, ?_, ?_⟩
    · simp only [getRemainedTime, known, armed_client sound known armed, Bool.false_eq_true,
        if_false, if_neg borrow]
    · rw [UInt32.lt_iff_toNat_lt] at borrow
      have words := toNat_sub_cases block.timeout.milisecond now.milisecond
      simp only [TimeValue.total]
      omega

theorem accepts_pointer (accepted : clock.accepts tid = true) :
    ∃ block, clock.manager.idToPointer tid = some block ∧ block.client.isSome = true := by
  rw [Clock.accepts] at accepted
  exact (Option.any_eq_true _ _).mp accepted

theorem duration_eq {block : TimerBlock Client}
    (known : clock.manager.idToPointer tid = some block) :
    clock.duration tid = block.timerDuration.toNat := by
  rw [Clock.duration, known]
  rfl

/-- A call that is refused leaves the manager as it was. -/
theorem set_refused {timeout : TimeOut} {now : TimeValue}
    (refused : ¬ (timeout.validate && clock.accepts tid) = true) :
    execute clock.manager (.set tid timeout now) = clock.manager := by
  have whole : execute clock.manager (.set tid timeout now) =
      (exec (setTimer tid timeout now) clock.manager).2 := by
    simp [execute, program, Program.exec_bind]
  rw [whole, exec_setTimer]
  split
  · rfl
  · split
    case isTrue invalid accepted =>
      refine absurd ?_ refused
      rw [Bool.and_eq_true]
      exact ⟨by simpa only [Bool.not_eq_false] using invalid, accepted⟩
    case isFalse => rfl

theorem loop_refused (refused : ¬ clock.accepts tid = true) :
    execute clock.manager (.loop tid) = clock.manager := by
  have whole : execute clock.manager (.loop tid) = (exec (loopTimer tid) clock.manager).2 := by
    simp [execute, program, Program.exec_bind]
  rw [Clock.accepts] at refused
  rw [whole, exec_loopTimer, if_neg refused]

/-- An exact step keeps the clock sound. -/
theorem exact_sound (sound : clock.Sound) {move : ClockMove Client}
    (taken : ClockStep clock move after) (exact_ : clock.Exact move) : after.Sound := by
  obtain ⟨⟨_, later, reads⟩, small, result⟩ := taken
  have keep (timeless : Timeless clock.manager after.manager)
      (consistent : Consistent after.manager) (deadline : after.deadline = clock.deadline) :
      after.Sound := by
    refine sound_timeless sound consistent timeless ?_ deadline small
    rw [result]
    cases move <;> exact later
  have consistent : Consistent after.manager := by
    rw [result]
    cases move with
    | operate operation now => exact execute_consistent sound.consistent operation
    | remained tid now => exact sound.consistent
  cases move with
  | remained tid now =>
      apply keep
      · rw [result]
        exact .refl _
      · exact consistent
      · rw [result]
        rfl
  | operate operation now =>
      have manager : after.manager = execute clock.manager operation := by
        rw [result]
        rfl
      have deadline : after.deadline = clock.arm now operation := by
        rw [result]
        rfl
      have time : after.time = now.total := by
        rw [result]
        rfl
      cases operation with
      | create client memory =>
          refine keep ?_ consistent deadline
          rw [manager]
          exact timeless_create _ client memory
      | set tid timeout now' =>
          have same : now' = now := reads
          subst same
          by_cases accepted : (timeout.validate && clock.accepts tid) = true
          · have ⟨valid, accepts⟩ := (Bool.and_eq_true _ _).mp accepted
            obtain ⟨block, known, owned⟩ := accepts_pointer accepts
            have rearms := set_rearms sound.consistent known owned valid now'
            rw [← manager] at rearms
            rw [Clock.arm, if_pos accepted] at deadline
            have forward : clock.time ≤ after.time := by
              rw [time]
              exact later
            exact sound_rearmed sound consistent rearms (exact_ accepted) forward time deadline
              small
          · refine keep ?_ consistent ?_
            · rw [manager, set_refused accepted]
              exact .refl _
            · rw [deadline, Clock.arm, if_neg accepted]
      | loop tid =>
          by_cases accepted : clock.accepts tid = true
          · have ⟨block, known, owned⟩ := accepts_pointer accepted
            obtain ⟨moment, carries⟩ := exact_ accepted block known
            have rearms := loop_rearms sound.consistent known owned
            rw [← manager] at rearms
            rw [Clock.arm, if_pos accepted, duration_eq known, ← moment] at deadline
            have forward : clock.time ≤ after.time := by
              rw [time]
              exact later
            exact sound_rearmed sound consistent rearms carries forward (time.trans moment.symm)
              deadline small
          · refine keep ?_ consistent ?_
            · rw [manager, loop_refused accepted]
              exact .refl _
            · rw [deadline, Clock.arm, if_neg accepted]
      | stop tid =>
          refine keep ?_ consistent deadline
          rw [manager]
          exact timeless_stop _ tid
      | kill tid =>
          refine keep ?_ consistent deadline
          rw [manager]
          exact timeless_kill _ tid
      | scan now' =>
          refine keep ?_ consistent deadline
          rw [manager]
          exact timeless_scan _ now'
      | deliver place =>
          refine keep ?_ consistent deadline
          rw [manager]
          exact .refl _

theorem exact_answers (sound : clock.Sound) {move : ClockMove Client}
    (taken : ClockStep clock move after) (exact_ : clock.Exact move) : clock.Answers move := by
  obtain ⟨⟨normal, _, reads⟩, _⟩ := taken
  cases move with
  | remained tid now =>
      intro ⟨block, known, armed⟩
      obtain ⟨left, result, right⟩ := remained_iff sound normal known armed
      refine ⟨left, result, ?_⟩
      rw [← sound.exact tid block known armed]
      exact right.mpr (exact_ block known armed)
  | operate operation now =>
      cases operation with
      | scan now' =>
          have same : now' = now := reads
          rw [same]
          exact scan_answers sound normal
      | _ => trivial

/-- A timer with its moment stored was armed with sums that fit. -/
theorem set_exact (sound : clock.Sound) {timeout : TimeOut} {now : TimeValue}
    (stored : (clock.next (.operate (.set tid timeout now) now)).Stored) :
    clock.Exact (.operate (.set tid timeout now) now) := by
  intro accepted
  obtain ⟨valid, accepts⟩ := (Bool.and_eq_true _ _).mp accepted
  obtain ⟨block, known, owned⟩ := accepts_pointer accepts
  obtain ⟨armed, here, timing, moment, _⟩ :=
    (set_rearms sound.consistent known owned valid now).here
  have right := stored.exact tid armed here timing
  rw [moment] at right
  rw [← TimeValue.after_iff]
  refine ⟨right.1, right.2.trans ?_⟩
  show clock.arm now (.set tid timeout now) tid = _
  rw [Clock.arm, if_pos accepted, Function.update_self]

/-- A turn of a word takes the moment out of reach. -/
theorem loop_exact (sound : clock.Sound) {now : TimeValue} (later : clock.time ≤ now.total)
    (stored : (clock.next (.operate (.loop tid) now)).Stored) :
    clock.Exact (.operate (.loop tid) now) := by
  intro accepted block known
  obtain ⟨found, read, owned⟩ := accepts_pointer accepted
  rw [known] at read
  have same := Option.some.inj read
  rw [← same] at owned
  obtain ⟨armed, here, timing, moment, _⟩ := (loop_rearms sound.consistent known owned).here
  have right := stored.exact tid armed here timing
  rw [moment] at right
  have deadline : (clock.next (.operate (.loop tid) now)).deadline tid =
      now.total + block.timerDuration.toNat := by
    show clock.arm now (.loop tid) tid = _
    rw [Clock.arm, if_pos accepted, Function.update_self, duration_eq known]
  obtain ⟨normal, total⟩ := right
  rw [deadline] at total
  have recent := sound.recent tid block known
  have word := block.timerDuration.toNat_lt
  obtain ⟨turns, turned, sum, carries⟩ := TimeValue.after_total block.timeout block.timerDuration
  exact ⟨by omega, carries normal (by omega) (by omega)⟩

theorem exact_of_punctual (sound : clock.Sound) {move : ClockMove Client}
    (punctual : Punctual clock move after) : clock.Exact move := by
  obtain ⟨⟨⟨normal, later, reads⟩, _, result⟩, stored, answers⟩ := punctual
  rw [result] at stored
  cases move with
  | remained tid now =>
      intro block known armed
      have normal : now.Normal := normal
      obtain ⟨left, read, total⟩ := answers ⟨block, known, armed⟩
      obtain ⟨left', read', right⟩ := remained_iff sound normal known armed
      rw [read] at read'
      cases read'
      rw [← sound.exact tid block known armed] at total
      exact right.mp total
  | operate operation now =>
      cases operation with
      | set tid timeout now' =>
          have same : now' = now := reads
          subst same
          exact set_exact sound stored
      | loop tid => exact loop_exact sound later stored
      | _ => trivial

/-- The timers are stored, posted and asked for at their moments in every step of a run, as long as
its steps are exact and no longer. -/
theorem punctual_iff (moves : List (ClockMove Client)) (last : Clock Client) :
    Run Punctual Clock.start moves last ↔
      Run (Guarded Clock.Exact ClockStep) Clock.start moves last := by
  constructor
  · refine Run.convert start_sound ?_
    intro before move after sound punctual
    have exact_ := exact_of_punctual sound punctual
    exact ⟨⟨exact_, punctual.1⟩, exact_sound sound punctual.1 exact_⟩
  · refine Run.convert start_sound ?_
    intro before move after sound ⟨exact_, taken⟩
    have later := exact_sound sound taken exact_
    exact ⟨⟨taken, later.stored, exact_answers sound taken exact_⟩, later⟩

/-- A timer is set for exactly one second at a full second. -/
def fullSecond : List (ClockMove Unit) :=
  [.operate (.create () true) ⟨0, 0⟩,
    .operate (.set 1 ⟨TimerType.relative, 1000, 0, 0, ""⟩ ⟨10, 0⟩) ⟨10, 0⟩]

theorem second_not_carried :
    ∃ last : Clock Unit, Run ClockStep Clock.start fullSecond last ∧ ¬ last.Stored := by
  have replays : Replays ClockStep Clock.next Clock.start fullSecond :=
    ⟨⟨⟨by decide, by decide, trivial⟩, by decide, rfl⟩,
      ⟨⟨by decide, by decide, rfl⟩, by decide, rfl⟩, trivial⟩
  refine ⟨_, Run.replay replays, ?_⟩
  intro stored
  have read : ((fullSecond.foldl Clock.next Clock.start).manager.idToPointer 1).any
      (fun block => block.timing && decide (block.timeout.milisecond.toNat = 1000)) = true := by
    decide
  obtain ⟨block, known, both⟩ := (Option.any_eq_true _ _).mp read
  obtain ⟨armed, whole⟩ := (Bool.and_eq_true _ _).mp both
  have normal := (stored.exact 1 block known armed).1
  have whole : block.timeout.milisecond.toNat = 1000 := of_decide_eq_true whole
  rw [TimeValue.Normal] at normal
  omega

end Timers

end Runs

end Tecs
