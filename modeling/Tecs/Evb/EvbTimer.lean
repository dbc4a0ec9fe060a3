import Mathlib

set_option autoImplicit false

/-! The queue of timers, whose expire times are those since the timer before. -/

namespace Tecs.EvbTimer

section Definitions

def EVB_BASE_TIMER_INTERVAL : UInt32 := 20
def EVB_DEFAULT_EXPIRE : UInt32 := 0xFFFFFFFF

def evbTmLt (x y : UInt32) : Bool := (x - y) &&& 0x80000000 ≠ 0

def evbTmGe (x y : UInt32) : Bool := !evbTmLt x y

/-- The clock, the queue and the OS timer: `callout` is the tick that it is set to. -/
structure Timers where
  niddTicks : UInt32
  lastUpdate : UInt32
  timerList : List ℕ
  expire : ℕ → UInt32
  callout : Option UInt32

def initEvbTimerModule : Timers := ⟨0, 0, [], fun _ => EVB_DEFAULT_EXPIRE, none⟩

def Timers.evbTimerInUse (timers : Timers) (tm : ℕ) : Bool := timers.expire tm ≠ EVB_DEFAULT_EXPIRE

def Timers.evbGlueCallin (timers : Timers) (tm : UInt32) : Timers :=
  { timers with callout := some (timers.niddTicks + tm) }

/-- The loop over the timers that the elapsed time has passed. -/
def passTime : List ℕ → UInt32 → (ℕ → UInt32) → ℕ → UInt32
  | [], _, expire => expire
  | t :: rest, elapsed, expire =>
      if elapsed > expire t then passTime rest (elapsed - expire t) (Function.update expire t 0)
      else if elapsed > 0 then Function.update expire t (expire t - elapsed)
      else expire

def Timers.evbTimerUpdate (timers : Timers) : Timers :=
  { timers with
    expire := passTime timers.timerList (timers.niddTicks - timers.lastUpdate) timers.expire
    lastUpdate := timers.niddTicks }

/-- The timer behind another one in the queue. -/
def linkOf (tm : ℕ) : List ℕ → Option ℕ
  | [] => none
  | t :: rest => if t = tm then rest.head? else linkOf tm rest

/-- The expire times when the timer behind one changes by what a function says. -/
def relink (change : UInt32 → UInt32) (tm : ℕ) (list : List ℕ) (expire : ℕ → UInt32) : ℕ → UInt32 :=
  match linkOf tm list with
  | none => expire
  | some link => Function.update expire link (change (expire link))

def Timers.evbTmCancel (timers : Timers) (tm : ℕ) : Timers :=
  if timers.evbTimerInUse tm then
    let wasFirst := timers.timerList.head? = some tm
    let timers := timers.evbTimerUpdate
    let expire := relink (· + timers.expire tm) tm timers.timerList timers.expire
    let timers := { timers with
      timerList := timers.timerList.erase tm
      expire := Function.update expire tm EVB_DEFAULT_EXPIRE }
    match timers.timerList with
    | [] => timers
    | first :: _ =>
        if wasFirst ∧ timers.expire first > 0 then timers.evbGlueCallin (timers.expire first)
        else timers
  else timers

/-- The walk down the queue, with what is left of the time; a timer that is in the queue already
ends it. -/
def place (expire : ℕ → UInt32) (tm : ℕ) : List ℕ → UInt32 → Option (List ℕ) × UInt32
  | [], left => (some [tm], left)
  | t :: rest, left =>
      if t = tm then (none, left)
      else if expire t ≤ left then
        let (list, left) := place expire tm rest (left - expire t)
        (list.map (t :: ·), left)
      else (some (tm :: t :: rest), left)

def Timers.evbTmSet (handler : ℕ → Bool) (timers : Timers) (tm : ℕ) (when : UInt32) : Timers :=
  if handler tm then
    let timers := if timers.evbTimerInUse tm then timers.evbTmCancel tm else timers
    let timers := timers.evbTimerUpdate
    match place timers.expire tm timers.timerList when with
    | (none, left) => { timers with expire := Function.update timers.expire tm left }
    | (some list, left) =>
        let timers := { timers with
          timerList := list
          expire := relink (· - left) tm list (Function.update timers.expire tm left) }
        if list.head? = some tm then timers.evbGlueCallin (timers.expire tm) else timers
  else timers

end Definitions

section Due

variable {expire other : ℕ → UInt32} {list rest pre post : List ℕ} {t tm : ℕ}

/-- The time until a timer of the queue expires. -/
def due (expire : ℕ → UInt32) : List ℕ → ℕ → ℕ
  | [], _ => 0
  | u :: rest, t => if u = t then (expire u).toNat else (expire u).toNat + due expire rest t

theorem due_head : due expire (t :: rest) t = (expire t).toNat := if_pos rfl

theorem due_tail {u : ℕ} (apart : u ≠ t) :
    due expire (u :: rest) t = (expire u).toNat + due expire rest t := if_neg apart

theorem due_congr (same : ∀ u ∈ list, expire u = other u) (t : ℕ) :
    due expire list t = due other list t := by
  induction list with
  | nil => rfl
  | cons u rest ih =>
      rw [due, due, same u List.mem_cons_self, ih fun v mem => same v (List.mem_cons_of_mem u mem)]

theorem due_update {u : ℕ} {e : UInt32} (absent : u ∉ list) :
    due (Function.update expire u e) list t = due expire list t :=
  due_congr (fun _ mem => Function.update_of_ne (ne_of_mem_of_not_mem mem absent) _ _) t

theorem expire_le_due {u : ℕ} : (expire u).toNat ≤ due expire (u :: rest) t := by
  rw [due]
  split
  · exact Nat.le_refl _
  · exact Nat.le_add_right _ _

theorem due_le_cons {u : ℕ} (absent : u ≠ t) : due expire rest t ≤ due expire (u :: rest) t := by
  rw [due_tail absent]
  exact Nat.le_add_left _ _

/-- The timers before another one are due no later. -/
theorem due_mono (nodup : (pre ++ tm :: post).Nodup) :
    (∀ u ∈ pre, due expire (pre ++ tm :: post) u ≤ due expire (pre ++ tm :: post) tm) ∧
      ∀ u ∈ post, due expire (pre ++ tm :: post) tm ≤ due expire (pre ++ tm :: post) u := by
  induction pre with
  | nil =>
      refine ⟨fun u mem => absurd mem List.not_mem_nil, fun u mem => ?_⟩
      rw [List.nil_append, due_head]
      exact expire_le_due
  | cons first pre ih =>
      rw [List.cons_append, List.nodup_cons] at nodup
      have ⟨before, after⟩ := ih nodup.2
      have apart : first ≠ tm := fun same =>
        nodup.1 (same ▸ List.mem_append_right _ List.mem_cons_self)
      rw [List.cons_append, due_tail apart]
      constructor
      · intro u mem
        rcases List.mem_cons.mp mem with rfl | mem
        · rw [due_head]
          exact Nat.le_add_right _ _
        · have differs : first ≠ u := fun same => nodup.1 (same ▸ List.mem_append_left _ mem)
          rw [due_tail differs]
          exact Nat.add_le_add_left (before u mem) _
      · intro u mem
        have differs : first ≠ u := fun same =>
          nodup.1 (same ▸ List.mem_append_right _ (List.mem_cons_of_mem tm mem))
        rw [due_tail differs]
        exact Nat.add_le_add_left (after u mem) _

theorem due_between (nodup : (pre ++ tm :: post).Nodup) :
    (expire tm).toNat ≤ due expire (pre ++ tm :: post) tm ∧
      (due expire (pre ++ tm :: post) tm = (expire tm).toNat →
        ∀ u ∈ pre, (expire u).toNat = 0) := by
  induction pre with
  | nil =>
      rw [List.nil_append, due_head]
      exact ⟨Nat.le_refl _, fun _ u mem => absurd mem List.not_mem_nil⟩
  | cons first pre ih =>
      rw [List.cons_append, List.nodup_cons] at nodup
      have ⟨low, zeros⟩ := ih nodup.2
      have apart : first ≠ tm := fun same =>
        nodup.1 (same ▸ List.mem_append_right _ List.mem_cons_self)
      rw [List.cons_append, due_tail apart]
      refine ⟨Nat.le_trans low (Nat.le_add_left _ _), fun all u mem => ?_⟩
      rcases List.mem_cons.mp mem with rfl | mem
      · omega
      · exact zeros (by omega) u mem

end Due

section PassTime

variable {expire : ℕ → UInt32} {list : List ℕ} {elapsed : UInt32} {t : ℕ}

theorem passTime_other (absent : t ∉ list) : passTime list elapsed expire t = expire t := by
  induction list generalizing elapsed expire with
  | nil => rfl
  | cons u rest ih =>
      rw [List.mem_cons, not_or] at absent
      rw [passTime]
      split
      · rw [ih absent.2, Function.update_of_ne absent.1]
      · split
        · rw [Function.update_of_ne absent.1]
        · rfl

/-- The elapsed time is taken off the time of every timer. -/
theorem due_passTime (nodup : list.Nodup) (mem : t ∈ list) :
    due (passTime list elapsed expire) list t = due expire list t - elapsed.toNat := by
  induction list generalizing elapsed expire with
  | nil => exact absurd mem List.not_mem_nil
  | cons u rest ih =>
      have ⟨absent, nodup'⟩ := List.nodup_cons.mp nodup
      rw [passTime]
      split
      · next passed =>
        have less : (expire u).toNat < elapsed.toNat := UInt32.lt_iff_toNat_lt.mp passed
        have left : (elapsed - expire u).toNat = elapsed.toNat - (expire u).toNat :=
          UInt32.toNat_sub_of_le _ _ (UInt32.le_of_lt passed)
        have own : passTime rest (elapsed - expire u) (Function.update expire u 0) u = 0 := by
          rw [passTime_other absent, Function.update_self]
        by_cases same : u = t
        · subst same
          rw [due_head, due_head, own]
          change 0 = _
          omega
        · have there : t ∈ rest := (List.mem_cons.mp mem).resolve_left (Ne.symm same)
          rw [due_tail same, due_tail same, own, ih nodup' there, due_update absent, left]
          change 0 + _ = _
          omega
      · next reached =>
        have high : elapsed.toNat ≤ (expire u).toNat :=
          UInt32.le_iff_toNat_le.mp (UInt32.not_lt.mp reached)
        have own : (expire u - elapsed).toNat = (expire u).toNat - elapsed.toNat :=
          UInt32.toNat_sub_of_le _ _ (UInt32.le_iff_toNat_le.mpr high)
        split
        · by_cases same : u = t
          · subst same
            rw [due_head, due_head, Function.update_self, own]
          · rw [due_tail same, due_tail same, Function.update_self, due_update absent, own]
            omega
        · next zero =>
          have none : elapsed.toNat = 0 := by
            have low := UInt32.le_iff_toNat_le.mp (UInt32.not_lt.mp zero)
            exact Nat.le_zero.mp low
          rw [none, Nat.sub_zero]

end PassTime

section Unlink

variable {expire : ℕ → UInt32} {list : List ℕ} {t tm : ℕ}

theorem mem_of_linkOf {link : ℕ} (found : linkOf tm list = some link) : link ∈ list := by
  induction list with
  | nil => cases found
  | cons u rest ih =>
      rw [linkOf] at found
      split at found
      · exact List.mem_cons_of_mem u (List.mem_of_head? found)
      · exact List.mem_cons_of_mem u (ih found)

theorem relink_other {change : UInt32 → UInt32} (absent : t ∉ list) :
    relink change tm list expire t = expire t := by
  rw [relink]
  cases found : linkOf tm list with
  | none => rfl
  | some link =>
      have mem := mem_of_linkOf found
      exact Function.update_of_ne (ne_of_mem_of_not_mem mem absent).symm _ _

theorem relink_cons {change : UInt32 → UInt32} {u : ℕ} (apart : u ≠ tm) :
    relink change tm (u :: list) expire = relink change tm list expire := by
  rw [relink, linkOf, if_neg apart]
  rfl

/-- A timer that leaves the queue gives its time to the one behind it. -/
theorem due_unlink (nodup : list.Nodup) (mem : tm ∈ list) (other : t ∈ list) (apart : t ≠ tm)
    (small : ∀ u ∈ list, due expire list u < 2 ^ 32) :
    due (relink (· + expire tm) tm list expire) (list.erase tm) t = due expire list t := by
  induction list with
  | nil => exact absurd mem List.not_mem_nil
  | cons u rest ih =>
      have ⟨absent, nodup'⟩ := List.nodup_cons.mp nodup
      by_cases here : u = tm
      · subst here
        have later : t ∈ rest := (List.mem_cons.mp other).resolve_left apart
        rw [List.erase_cons_head, due_tail (Ne.symm apart)]
        cases rest with
        | nil => exact absurd later List.not_mem_nil
        | cons v rest =>
            have found : relink (· + expire u) u (u :: v :: rest) expire =
                Function.update expire v (expire v + expire u) := by
              rw [relink, linkOf, if_pos rfl]
              rfl
            have fits := small v (List.mem_cons_of_mem u List.mem_cons_self)
            have differs : u ≠ v := fun same => absent (same ▸ List.mem_cons_self)
            rw [due_tail differs, due_head] at fits
            have sum : (expire v + expire u).toNat = (expire v).toNat + (expire u).toNat := by
              rw [UInt32.toNat_add]
              omega
            rw [found]
            by_cases second : v = t
            · subst second
              rw [due_head, due_head, Function.update_self, sum, Nat.add_comm]
            · rw [due_tail second, due_tail second, Function.update_self, sum,
                due_update (List.nodup_cons.mp nodup').1]
              omega
      · have there : tm ∈ rest := (List.mem_cons.mp mem).resolve_left (Ne.symm here)
        have own : relink (· + expire tm) tm rest expire u = expire u := relink_other absent
        rw [List.erase_cons_tail (by simpa using here), relink_cons here]
        by_cases same : u = t
        · subst same
          rw [due_head, due_head, own]
        · have later : t ∈ rest := (List.mem_cons.mp other).resolve_left (Ne.symm same)
          rw [due_tail same, due_tail same, own, ih nodup' there later]
          intro v memv
          have bound := small v (List.mem_cons_of_mem u memv)
          exact Nat.lt_of_le_of_lt (due_le_cons (ne_of_mem_of_not_mem memv absent).symm) bound

end Unlink

section Place

variable {expire : ℕ → UInt32} {list : List ℕ} {t tm : ℕ} {left : UInt32}

/-- A timer that is not in the queue is put behind those that are due no later. -/
structure Placed (expire : ℕ → UInt32) (tm : ℕ) (list : List ℕ) (when : UInt32)
    (list' : List ℕ) (left : UInt32) : Prop where
  split : ∃ pre post, list = pre ++ post ∧ list' = pre ++ tm :: post ∧
    (∀ u ∈ pre, due expire list u ≤ when.toNat) ∧ ∀ u ∈ post, when.toNat < due expire list u
  own : due (relink (· - left) tm list' (Function.update expire tm left)) list' tm = when.toNat
  others : ∀ u ∈ list,
    due (relink (· - left) tm list' (Function.update expire tm left)) list' u = due expire list u

theorem place_spec (nodup : list.Nodup) (absent : tm ∉ list) (when : UInt32) :
    ∃ list' left, place expire tm list when = (some list', left) ∧
      Placed expire tm list when list' left := by
  induction list generalizing when with
  | nil =>
      refine ⟨[tm], when, rfl, ⟨[], [], rfl, rfl, ?_, ?_⟩, ?_, ?_⟩
      · exact fun u mem => absurd mem List.not_mem_nil
      · exact fun u mem => absurd mem List.not_mem_nil
      · have alone : relink (· - when) tm [tm] (Function.update expire tm when) =
            Function.update expire tm when := by
          rw [relink, linkOf, if_pos rfl]
          rfl
        rw [alone, due_head, Function.update_self]
      · exact fun u mem => absurd mem List.not_mem_nil
  | cons t rest ih =>
      have ⟨apart, nodup'⟩ := List.nodup_cons.mp nodup
      rw [List.mem_cons, not_or] at absent
      rw [place, if_neg (Ne.symm absent.1)]
      by_cases passes : expire t ≤ when
      · obtain ⟨list', left, placed, spec⟩ := ih nodup' absent.2 (when - expire t)
        obtain ⟨pre, post, eq, eq', before, after⟩ := spec.split
        have low : (expire t).toNat ≤ when.toNat := UInt32.le_iff_toNat_le.mp passes
        have rest_ : (when - expire t).toNat = when.toNat - (expire t).toNat :=
          UInt32.toNat_sub_of_le _ _ passes
        have outside : t ∉ list' := by
          rw [eq', List.mem_append, List.mem_cons]
          rintro (mem | same | mem)
          · exact apart (eq ▸ List.mem_append_left _ mem)
          · exact absent.1 same.symm
          · exact apart (eq ▸ List.mem_append_right _ mem)
        have own : relink (· - left) tm (t :: list') (Function.update expire tm left) t =
            expire t := by
          rw [relink_cons (Ne.symm absent.1), relink_other outside,
            Function.update_of_ne (Ne.symm absent.1)]
        rw [if_pos passes, placed]
        refine ⟨t :: list', left, rfl, ⟨t :: pre, post, by rw [eq]; rfl, by rw [eq']; rfl, ?_, ?_⟩,
          ?_, ?_⟩
        · intro u mem
          rcases List.mem_cons.mp mem with rfl | mem
          · rw [due_head]
            exact low
          · have differs : t ≠ u := fun same => apart (same ▸ eq ▸ List.mem_append_left _ mem)
            have bound := before u mem
            rw [due_tail differs]
            omega
        · intro u mem
          have differs : t ≠ u := fun same => apart (same ▸ eq ▸ List.mem_append_right _ mem)
          have bound := after u mem
          rw [due_tail differs]
          omega
        · rw [due_tail (Ne.symm absent.1), own, relink_cons (Ne.symm absent.1), spec.own]
          omega
        · intro u mem
          by_cases same : t = u
          · subst same
            rw [due_head, due_head, own]
          · have later : u ∈ rest := (List.mem_cons.mp mem).resolve_left (Ne.symm same)
            rw [due_tail same, due_tail same, own, relink_cons (Ne.symm absent.1),
              spec.others u later]
      · have high : when.toNat < (expire t).toNat :=
          UInt32.lt_iff_toNat_lt.mp (UInt32.not_le.mp passes)
        have front : relink (· - when) tm (tm :: t :: rest) (Function.update expire tm when) =
            Function.update (Function.update expire tm when) t (expire t - when) := by
          rw [relink, linkOf, if_pos rfl]
          change Function.update (Function.update expire tm when) t
            (Function.update expire tm when t - when) = _
          rw [Function.update_of_ne (Ne.symm absent.1)]
        have difference : (expire t - when).toNat = (expire t).toNat - when.toNat :=
          UInt32.toNat_sub_of_le _ _ (UInt32.le_of_lt (UInt32.not_le.mp passes))
        rw [if_neg passes]
        refine ⟨tm :: t :: rest, when, rfl, ⟨[], t :: rest, rfl, rfl, ?_, ?_⟩, ?_, ?_⟩
        · exact fun u mem => absurd mem List.not_mem_nil
        · exact fun u _ => Nat.lt_of_lt_of_le high expire_le_due
        · rw [front, due_head, Function.update_of_ne absent.1, Function.update_self]
        · intro u mem
          have differs : tm ≠ u := by
            rintro rfl
            rcases List.mem_cons.mp mem with same | later
            · exact absent.1 same
            · exact absent.2 later
          rw [front, due_tail differs, Function.update_of_ne absent.1, Function.update_self]
          by_cases same : t = u
          · subst same
            rw [due_head, due_head, Function.update_self, difference]
            omega
          · rw [due_tail same, due_tail same, Function.update_self, difference,
              due_update apart, due_update absent.2]
            omega

/-- A timer that is in the queue without being in use: it is given its time where it is. -/
theorem place_mem {pre post : List ℕ} (nodup : (pre ++ tm :: post).Nodup)
    (zeros : ∀ u ∈ pre, (expire u).toNat = 0) (when : UInt32) :
    place expire tm (pre ++ tm :: post) when = (none, when) := by
  induction pre with
  | nil => rw [List.nil_append, place, if_pos rfl]
  | cons first pre ih =>
      rw [List.cons_append, List.nodup_cons] at nodup
      have apart : first ≠ tm := fun same =>
        nodup.1 (same ▸ List.mem_append_right _ List.mem_cons_self)
      have zero : expire first = 0 := UInt32.toNat_inj.mp (zeros first List.mem_cons_self)
      rw [List.cons_append, place, if_neg apart, zero, if_pos UInt32.zero_le, UInt32.sub_zero,
        ih nodup.2 fun u mem => zeros u (List.mem_cons_of_mem first mem)]
      rfl

end Place

end Tecs.EvbTimer
