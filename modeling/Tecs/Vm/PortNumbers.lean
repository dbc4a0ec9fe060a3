import Tecs.Library.Run
import Tecs.Sky.Errcode

set_option autoImplicit false

/-! The VNC and serial ports that the scheduler gives to new machines. -/

namespace Gaps

variable {taken : Set ℤ} {low high : ℤ}

/-- The numbers above the lower end that can still be taken. -/
def Free (taken : Set ℤ) (low high q : ℤ) : Prop :=
  low < q ∧ q ≤ high ∧ q ∉ taken

/-- What lies just below a free number: the lower end itself or a number that is taken. -/
def Below (taken : Set ℤ) (low high p : ℤ) : Prop :=
  (p = low ∨ p ∈ taken) ∧ low ≤ p ∧ p + 1 ∉ taken ∧ p + 1 ≤ high

theorem Below.free {p : ℤ} (below : Below taken low high p) : Free taken low high (p + 1) := by
  have ⟨_, above, gap, within⟩ := below
  exact ⟨by omega, within, gap⟩

/-- Going down from a free number the first one that is not free ends the gap. -/
theorem Free.below {q : ℤ} (free : Free taken low high q) :
    ∃ p, Below taken low high p ∧ p + 1 ≤ q := by
  obtain ⟨distance, apart⟩ : ∃ distance : ℕ, q = low + 1 + distance := by
    have above := free.1
    exact ⟨(q - low - 1).toNat, by omega⟩
  induction distance generalizing q with
  | zero =>
      have ⟨_, within, gap⟩ := free
      have start : low + 1 = q := by omega
      exact ⟨low, ⟨Or.inl rfl, le_rfl, start ▸ gap, start ▸ within⟩, start.le⟩
  | succ distance ih =>
      have ⟨_, within, gap⟩ := free
      have back : q - 1 + 1 = q := by omega
      by_cases used : q - 1 ∈ taken
      · exact ⟨q - 1, ⟨Or.inr used, by omega, by rwa [back], by rwa [back]⟩, back.le⟩
      · have lower : Free taken low high (q - 1) := ⟨by omega, by omega, used⟩
        have ⟨p, below, under⟩ := ih lower (by omega)
        exact ⟨p, below, by omega⟩

theorem least_below {p : ℤ} (least : IsLeast {p | Below taken low high p} p) :
    IsLeast {q | Free taken low high q} (p + 1) := by
  constructor
  · exact least.1.free
  · intro q free
    have ⟨p', below, under⟩ := Free.below free
    have first := least.2 below
    omega

end Gaps

namespace Tecs.Vm.PortNumbers

open Transition

section Definitions

/-- What the table `vm_pool` holds of a machine. -/
structure VirtualMachine where
  vid : ℤ
  hid : ℤ
  vncPort : UInt16
  serialPort : UInt16
  enableSerial : Bool
deriving Repr, DecidableEq

def portNumberUsed (vmPool : List VirtualMachine) : List UInt16 :=
  let rows := vmPool.filter (·.vncPort ≠ 0)
  rows.map (·.vncPort) ++ rows.map (·.serialPort)

/-- The statement of `GetNewPortNo`; the smallest of no rows is read as zero. -/
def selectMinPortno (portNumberUsed : List UInt16) (rangemin rangemax : ℤ)
    (blacklist : List UInt16) : ℤ :=
  let taken := (portNumberUsed ++ blacklist).map fun portno => (portno.toNat : ℤ)
  let temp := rangemin :: taken
  (temp.filter fun portno => rangemin ≤ portno ∧ portno ≤ rangemax ∧ portno + 1 ∉ taken ∧
    portno + 1 ≤ rangemax).min?.getD 0

/-- `ret` is what the execution of the statement answers. -/
def getNewPortNo (ret : Status) (portNumberUsed : List UInt16) (rangemin rangemax : ℤ)
    (blacklist : List UInt16) : Status × UInt16 :=
  if rangemin = 0 then (Status.errorInvalidArgument, 0)
  else
    let port := if ret = Status.success then
      selectMinPortno portNumberUsed rangemin rangemax blacklist else 0
    if ret ≠ Status.success ∨ port = 0 then (ret, 0) else (ret, UInt16.ofInt (port + 1))

def vncPortMin : ℤ := 5900
def vncPortMax : ℤ := 65535
def serialPortMin : ℤ := 20000
def serialPortMax : ℤ := 65535

def getNewVNCPortNo (ret : Status) (portNumberUsed blacklist : List UInt16) : Status × UInt16 :=
  getNewPortNo ret portNumberUsed vncPortMin vncPortMax blacklist

def getNewSerialPortNo (ret : Status) (portNumberUsed blacklist : List UInt16) :
    Status × UInt16 :=
  getNewPortNo ret portNumberUsed serialPortMin serialPortMax blacklist

/-- A call of `Schedule` between its statements; a serial port may still have to be found. -/
structure Scheduling where
  vm : VirtualMachine
  needsSerial : Bool
  blacklist : List UInt16
deriving Repr, DecidableEq

structure PortState where
  vmPool : List VirtualMachine
  scheduling : Option Scheduling
deriving Repr, DecidableEq

/-- The statements of `Schedule`, and what other threads do to the table between them. The
configuration of a machine brings a number for the serial port, which stands where none is
wanted. -/
inductive PortLabel
  | getVnc (vid hid : ℤ) (serialPort : UInt16) (enableSerial : Bool) (ret : Status)
  | getSerial (ret : Status)
  | allocate (inserted : Bool)
  | drop (vid : ℤ)
  | rebind (vid hid : ℤ)
deriving Repr, DecidableEq

/-- The key of the table and its check `ck_39`. -/
def insertable (vmPool : List VirtualMachine) (vm : VirtualMachine) : Prop :=
  (∀ row ∈ vmPool, row.vid ≠ vm.vid) ∧
    (vm.vncPort = 0 ∨ (5901 ≤ vm.vncPort ∧ vm.vncPort < 65535))

instance (vmPool : List VirtualMachine) (vm : VirtualMachine) :
    Decidable (insertable vmPool vm) :=
  inferInstanceAs (Decidable (_ ∧ _))

def scheduleVnc (state : PortState) (vid hid : ℤ) (serialPort : UInt16) (enableSerial : Bool)
    (ret : Status) : PortState :=
  let (portRet, vncPort) := getNewVNCPortNo ret (portNumberUsed state.vmPool) []
  if portRet ≠ 0 ∨ vncPort = 0 then state
  else
    { state with
      scheduling := some ⟨⟨vid, hid, vncPort, serialPort, false⟩, enableSerial, [vncPort]⟩ }

def scheduleSerial (state : PortState) (call : Scheduling) (ret : Status) : PortState :=
  let (portRet, serialPort) := getNewSerialPortNo ret (portNumberUsed state.vmPool) call.blacklist
  if portRet ≠ 0 ∨ serialPort = 0 then { state with scheduling := none }
  else
    { state with
      scheduling := some
        ⟨{ call.vm with serialPort, enableSerial := true }, false, call.blacklist ++ [serialPort]⟩ }

/-- The serial port is asked for before the row is written, and then not again. -/
def portStep (state : PortState) : PortLabel → Option PortState
  | .getVnc vid hid serialPort enableSerial ret =>
      if state.scheduling = none then
        some (scheduleVnc state vid hid serialPort enableSerial ret)
      else none
  | .getSerial ret => do
      let call ← state.scheduling
      if call.needsSerial then some (scheduleSerial state call ret) else none
  | .allocate inserted => do
      let call ← state.scheduling
      if call.needsSerial then none
      else if inserted ∧ insertable state.vmPool call.vm then
        some ⟨state.vmPool ++ [call.vm], none⟩
      else some { state with scheduling := none }
  | .drop vid => some { state with vmPool := state.vmPool.filter (·.vid ≠ vid) }
  | .rebind vid hid =>
      some { state with
        vmPool := state.vmPool.map fun row => if row.vid = vid then { row with hid } else row }

def PortStep (state : PortState) (label : PortLabel) (next : PortState) : Prop :=
  portStep state label = some next

instance (state : PortState) (label : PortLabel) (next : PortState) :
    Decidable (PortStep state label next) :=
  inferInstanceAs (Decidable (_ = _))

/-- The ports that a machine has; zero is none. -/
def VirtualMachine.ports (vm : VirtualMachine) : List UInt16 :=
  (vm.vncPort :: if vm.enableSerial then [vm.serialPort] else []).filter (· ≠ 0)

/-- The ports of the range above its lower end that no machine has and the list does not name. -/
def FreePort (used blacklist : List UInt16) (rangemin rangemax port : UInt16) : Prop :=
  rangemin < port ∧ port ≤ rangemax ∧ port ∉ used ∧ port ∉ blacklist

/-- What the answer for a range is when the statement is carried out. -/
structure PortAnswer (used blacklist : List UInt16) (rangemin rangemax : UInt16)
    (answer : Status × UInt16) : Prop where
  refused : rangemin = 0 → answer = (Status.errorInvalidArgument, 0)
  status : rangemin ≠ 0 → answer.1 = Status.success
  none_iff : rangemin ≠ 0 →
    (answer.2 = 0 ↔ ∀ port, ¬ FreePort used blacklist rangemin rangemax port)
  least : answer.2 ≠ 0 → IsLeast {port | FreePort used blacklist rangemin rangemax port} answer.2

end Definitions

section Query

variable {used blacklist : List UInt16} {rangemin rangemax : UInt16}

/-- The numbers that the statement excludes. -/
def taken (used blacklist : List UInt16) : Set ℤ :=
  {n | ∃ port, (port ∈ used ∨ port ∈ blacklist) ∧ (port.toNat : ℤ) = n}

theorem mem_taken (port : UInt16) :
    (port.toNat : ℤ) ∈ taken used blacklist ↔ port ∈ used ∨ port ∈ blacklist := by
  constructor
  · rintro ⟨other, member, same⟩
    have equal : other = port := UInt16.toNat_inj.mp (by exact_mod_cast same)
    exact equal ▸ member
  · intro member
    exact ⟨port, member, rfl⟩

theorem mem_selected {n : ℤ} :
    n ∈ ((rangemin.toNat : ℤ) ::
        (used ++ blacklist).map fun portno => (portno.toNat : ℤ)).filter
      (fun portno => (rangemin.toNat : ℤ) ≤ portno ∧ portno ≤ rangemax.toNat ∧
        portno + 1 ∉ (used ++ blacklist).map (fun portno => (portno.toNat : ℤ)) ∧
        portno + 1 ≤ rangemax.toNat) ↔
      Gaps.Below (taken used blacklist) rangemin.toNat rangemax.toNat n := by
  have listed (m : ℤ) : m ∈ (used ++ blacklist).map (fun portno => (portno.toNat : ℤ)) ↔
      m ∈ taken used blacklist := by
    simp only [List.mem_map, List.mem_append, taken, Set.mem_ofPred_eq]
  simp only [List.mem_filter, List.mem_cons, listed, decide_eq_true_eq, Gaps.Below]
  constructor
  · rintro ⟨base, above, _, gap, within⟩
    exact ⟨base, above, gap, within⟩
  · rintro ⟨base, above, gap, within⟩
    exact ⟨base, above, by omega, gap, within⟩

theorem freePort_iff (port : UInt16) :
    FreePort used blacklist rangemin rangemax port ↔
      Gaps.Free (taken used blacklist) rangemin.toNat rangemax.toNat port.toNat := by
  simp only [FreePort, Gaps.Free, mem_taken, UInt16.lt_iff_toNat_lt, UInt16.le_iff_toNat_le,
    Nat.cast_lt, Nat.cast_le, not_or]

theorem free_port {n : ℤ}
    (free : Gaps.Free (taken used blacklist) rangemin.toNat rangemax.toNat n) :
    ∃ port : UInt16, (port.toNat : ℤ) = n ∧ FreePort used blacklist rangemin rangemax port := by
  have ⟨above, within, _⟩ := free
  have bound := rangemax.toNat_lt
  have word : ((UInt16.ofNat n.toNat).toNat : ℤ) = n := by
    rw [UInt16.toNat_ofNat_of_lt' (show n.toNat < 65536 by omega)]
    omega
  refine ⟨UInt16.ofNat n.toNat, word, ?_⟩
  rw [freePort_iff, word]
  exact free

/-- The statement finds the number below the lowest free port, and none when there is none. -/
theorem selectMinPortno_cases :
    (∃ port, IsLeast {port | FreePort used blacklist rangemin rangemax port} port ∧
      selectMinPortno used rangemin.toNat rangemax.toNat blacklist + 1 = port.toNat) ∨
    ((∀ port, ¬ FreePort used blacklist rangemin rangemax port) ∧
      selectMinPortno used rangemin.toNat rangemax.toNat blacklist = 0) := by
  unfold selectMinPortno
  dsimp only
  generalize selected : List.filter _ ((rangemin.toNat : ℤ) :: _) = temp
  have listed (n : ℤ) :
      n ∈ temp ↔ Gaps.Below (taken used blacklist) rangemin.toNat rangemax.toNat n := by
    rw [← selected]
    exact mem_selected
  cases found : temp.min? with
  | none =>
      refine Or.inr ⟨fun port free => ?_, rfl⟩
      have ⟨p, below, _⟩ := Gaps.Free.below ((freePort_iff port).mp free)
      rw [List.min?_eq_none_iff] at found
      have member := (listed _).mpr below
      rw [found] at member
      exact List.not_mem_nil member
  | some p =>
      have ⟨member, least⟩ := List.min?_eq_some_iff.mp found
      have lowest := Gaps.least_below (p := p)
        ⟨(listed _).mp member, fun p' below => least p' ((listed _).mpr below)⟩
      have ⟨port, same, free⟩ := free_port lowest.1
      refine Or.inl ⟨port, ⟨free, fun other otherFree => ?_⟩, same.symm⟩
      have under := lowest.2 ((freePort_iff other).mp otherFree)
      rw [← same] at under
      exact UInt16.le_iff_toNat_le.mpr (by exact_mod_cast under)

theorem word_of_toNat (port : UInt16) : UInt16.ofInt (port.toNat : ℤ) = port := by
  have bound := port.toNat_lt
  have rest : ((port.toNat : ℤ) % 2 ^ 16).toNat = port.toNat := by omega
  rw [UInt16.ofInt, rest, UInt16.ofNat_toNat]

theorem getNewPortNo_answer :
    PortAnswer used blacklist rangemin rangemax
      (getNewPortNo Status.success used rangemin.toNat rangemax.toNat blacklist) := by
  unfold getNewPortNo
  have zero : (rangemin.toNat : ℤ) = 0 ↔ rangemin = 0 := by
    rw [← UInt16.toNat_inj]
    exact Nat.cast_eq_zero
  by_cases bottom : rangemin = 0
  · rw [if_pos (zero.mpr bottom)]
    exact ⟨fun _ => rfl, fun up => absurd bottom up, fun up => absurd bottom up,
      fun given => absurd rfl given⟩
  rw [if_neg (mt zero.mp bottom)]
  simp only [if_true, ne_eq, not_true_eq_false, false_or]
  cases @selectMinPortno_cases used blacklist rangemin rangemax with
  | inl found =>
      have ⟨port, least, next⟩ := found
      have above : 0 < rangemin.toNat := Nat.pos_of_ne_zero fun none => bottom
        (UInt16.toNat_inj.mp none)
      have higher := UInt16.lt_iff_toNat_lt.mp least.1.1
      have word : UInt16.ofInt (port.toNat : ℤ) = port := by
        exact word_of_toNat port
      rw [if_neg (by omega), next, word]
      have given : port ≠ 0 := by
        rintro rfl
        exact absurd higher (Nat.not_lt_zero _)
      refine ⟨fun down => absurd down bottom, fun _ => rfl, fun _ => ?_, fun _ => least⟩
      exact ⟨fun none => absurd none given, fun nothing => absurd least.1 (nothing port)⟩
  | inr nothing =>
      have ⟨unavailable, port⟩ := nothing
      rw [if_pos port]
      refine ⟨fun down => absurd down bottom, fun _ => rfl, fun _ => ?_, fun given => ?_⟩
      · exact ⟨fun _ => unavailable, fun _ => rfl⟩
      · exact absurd rfl given

variable (rangemin rangemax) in
/-- A port that `Schedule` goes on with is held by no machine and is not in the list. -/
theorem getNewPortNo_fresh {ret : Status}
    (given : ¬ ((getNewPortNo ret used rangemin.toNat rangemax.toNat blacklist).1 ≠ 0 ∨
      (getNewPortNo ret used rangemin.toNat rangemax.toNat blacklist).2 = 0)) :
    (getNewPortNo ret used rangemin.toNat rangemax.toNat blacklist).2 ∉ used ∧
      (getNewPortNo ret used rangemin.toNat rangemax.toNat blacklist).2 ∉ blacklist := by
  by_cases executed : ret = Status.success
  · subst executed
    rw [not_or] at given
    have ⟨⟨_, _, unused, unnamed⟩, _⟩ := getNewPortNo_answer.least given.2
    exact ⟨unused, unnamed⟩
  · exfalso
    apply given
    unfold getNewPortNo
    split
    · exact Or.inr rfl
    · rw [if_pos (Or.inl executed)]
      exact Or.inr rfl

end Query

section Runs

variable {rows : List VirtualMachine} {state next : PortState}

theorem VirtualMachine.mem_ports {vm : VirtualMachine} {port : UInt16} :
    port ∈ vm.ports ↔
      (port = vm.vncPort ∨ (vm.enableSerial ∧ port = vm.serialPort)) ∧ port ≠ 0 := by
  cases enabled : vm.enableSerial <;> simp [VirtualMachine.ports, enabled]

/-- The view shows every port as long as every machine has a VNC port. -/
theorem mem_portNumberUsed (held : ∀ vm ∈ rows, vm.vncPort ≠ 0) {port : UInt16}
    (own : port ∈ rows.flatMap (·.ports)) : port ∈ portNumberUsed rows := by
  have all : rows.filter (·.vncPort ≠ 0) = rows :=
    List.filter_eq_self.mpr fun vm member => decide_eq_true (held vm member)
  simp only [portNumberUsed, all, List.mem_append, List.mem_map]
  have ⟨vm, member, port⟩ := List.mem_flatMap.mp own
  have ⟨either, _⟩ := VirtualMachine.mem_ports.mp port
  cases either with
  | inl same => exact Or.inl ⟨vm, member, same.symm⟩
  | inr same => exact Or.inr ⟨vm, member, same.2.symm⟩

/-- A call of `Schedule` holds ports that no row of the table has. -/
structure Scheduling.Apart (rows : List VirtualMachine) (call : Scheduling) : Prop where
  held : call.vm.vncPort ≠ 0
  blacklisted : call.vm.vncPort ∈ call.blacklist
  own : call.vm.ports.Nodup
  apart : ∀ port ∈ call.vm.ports, port ∉ rows.flatMap (·.ports)

/-- No port stands twice in the table, nor in it and in the call that is under way. -/
structure PortsApart (state : PortState) : Prop where
  held : ∀ vm ∈ state.vmPool, vm.vncPort ≠ 0
  once : (state.vmPool.flatMap (·.ports)).Nodup
  pending : ∀ call, state.scheduling = some call → call.Apart state.vmPool

theorem Scheduling.Apart.fewer {call : Scheduling} {fewer : List VirtualMachine}
    (apart : call.Apart rows) (sub : ∀ vm ∈ fewer, ∃ row ∈ rows, vm.ports = row.ports) :
    call.Apart fewer := by
  refine { apart with apart := fun port own shared => ?_ }
  have ⟨vm, member, port⟩ := List.mem_flatMap.mp shared
  have ⟨row, old, same⟩ := sub vm member
  exact apart.apart _ own (List.mem_flatMap.mpr ⟨row, old, same ▸ port⟩)

theorem scheduleVnc_apart (apart : PortsApart state) (vid hid : ℤ) (serialPort : UInt16)
    (enableSerial : Bool) (ret : Status) :
    PortsApart (scheduleVnc state vid hid serialPort enableSerial ret) := by
  unfold scheduleVnc
  dsimp only
  split
  · exact apart
  · rename_i given
    have fresh := getNewPortNo_fresh 5900 65535 given
    rw [not_or] at given
    have unused := mt (mem_portNumberUsed apart.held) fresh.1
    refine { apart with pending := ?_ }
    rintro call ⟨⟩
    refine ⟨given.2, by simp, ?_, ?_⟩
    · simp [VirtualMachine.ports, given.2]
    · intro port member
      obtain ⟨same | serial, _⟩ := VirtualMachine.mem_ports.mp member
      · exact same ▸ unused
      · exact absurd serial.1 Bool.false_ne_true

theorem scheduleSerial_apart (apart : PortsApart state) {call : Scheduling}
    (current : state.scheduling = some call) (ret : Status) :
    PortsApart (scheduleSerial state call ret) := by
  unfold scheduleSerial
  dsimp only
  split
  · exact { apart with pending := fun _ refused => nomatch refused }
  · rename_i given
    have fresh := getNewPortNo_fresh 20000 65535 given
    rw [not_or] at given
    have before := apart.pending call current
    have unused := mt (mem_portNumberUsed apart.held) fresh.1
    have other : call.vm.vncPort ≠
        (getNewSerialPortNo ret (portNumberUsed state.vmPool) call.blacklist).2 :=
      ne_of_mem_of_not_mem before.blacklisted fresh.2
    refine { apart with pending := ?_ }
    rintro call' ⟨⟩
    refine ⟨before.held, by simp [before.blacklisted], ?_, ?_⟩
    · simpa [VirtualMachine.ports, before.held, given.2] using other
    · intro port member
      obtain ⟨same | same, nonzero⟩ := VirtualMachine.mem_ports.mp member
      · exact before.apart _ (VirtualMachine.mem_ports.mpr ⟨Or.inl same, nonzero⟩)
      · exact same.2 ▸ unused

theorem allocate_apart (apart : PortsApart state) {call : Scheduling}
    (current : state.scheduling = some call) :
    PortsApart ⟨state.vmPool ++ [call.vm], none⟩ := by
  have before := apart.pending call current
  refine ⟨?_, ?_, fun _ done => nomatch done⟩
  · intro vm member
    cases List.mem_append.mp member with
    | inl old => exact apart.held vm old
    | inr new => exact List.mem_singleton.mp new ▸ before.held
  · rw [List.flatMap_append, List.flatMap_singleton]
    refine apart.once.append before.own ?_
    intro port old new
    exact before.apart port new old

theorem drop_apart (apart : PortsApart state) (vid : ℤ) :
    PortsApart { state with vmPool := state.vmPool.filter (·.vid ≠ vid) } := by
  have kept (vm : VirtualMachine) (member : vm ∈ state.vmPool.filter (·.vid ≠ vid)) :
      vm ∈ state.vmPool := List.mem_of_mem_filter member
  have ⟨own, others⟩ := List.nodup_flatMap.mp apart.once
  refine ⟨fun vm member => apart.held vm (kept vm member), ?_, ?_⟩
  · exact List.nodup_flatMap.mpr ⟨fun vm member => own vm (kept vm member), others.filter _⟩
  · intro call current
    exact (apart.pending call current).fewer fun vm member => ⟨vm, kept vm member, rfl⟩

theorem rebind_apart (apart : PortsApart state) (vid hid : ℤ) :
    PortsApart { state with
      vmPool := state.vmPool.map fun row => if row.vid = vid then { row with hid } else row } := by
  let move (row : VirtualMachine) := if row.vid = vid then { row with hid } else row
  have vnc (row : VirtualMachine) : (move row).vncPort = row.vncPort := by
    dsimp only [move]
    split <;> rfl
  have ports (row : VirtualMachine) : (move row).ports = row.ports := by
    dsimp only [move]
    split <;> rfl
  have moved : ((state.vmPool.map move).flatMap (·.ports)) = state.vmPool.flatMap (·.ports) := by
    simp only [List.flatMap_map, ports]
  refine ⟨?_, ?_, ?_⟩
  · intro vm member
    have ⟨row, old, same⟩ := List.mem_map.mp member
    rw [← same]
    change (move row).vncPort ≠ 0
    rw [vnc row]
    exact apart.held row old
  · exact moved ▸ apart.once
  · intro call current
    refine (apart.pending call current).fewer fun vm member => ?_
    have ⟨row, old, same⟩ := List.mem_map.mp member
    exact ⟨row, old, same ▸ ports row⟩

theorem portStep_apart (apart : PortsApart state) {label : PortLabel}
    (step : PortStep state label next) : PortsApart next := by
  cases label with
  | getVnc vid hid serialPort enableSerial ret =>
      have ⟨_, same⟩ := Option.ite_none_right_eq_some.mp step
      exact Option.some.inj same ▸ scheduleVnc_apart apart vid hid serialPort enableSerial ret
  | getSerial ret =>
      have ⟨call, current, answer⟩ := Option.bind_eq_some_iff.mp step
      have ⟨_, same⟩ := Option.ite_none_right_eq_some.mp answer
      exact Option.some.inj same ▸ scheduleSerial_apart apart current ret
  | allocate inserted =>
      have ⟨call, current, answer⟩ := Option.bind_eq_some_iff.mp step
      have ⟨_, written⟩ := Option.ite_none_left_eq_some.mp answer
      split at written
      · exact Option.some.inj written ▸ allocate_apart apart current
      · exact Option.some.inj written ▸
          { apart with pending := fun _ refused => nomatch refused }
  | drop vid => exact Option.some.inj step ▸ drop_apart apart vid
  | rebind vid hid => exact Option.some.inj step ▸ rebind_apart apart vid hid

/-- No port is ever given to two machines, on one host or on two, nor twice to one. -/
theorem ports_once {labels : List PortLabel} (run : Run PortStep ⟨[], none⟩ labels state) :
    (state.vmPool.flatMap (·.ports)).Nodup := by
  have start : PortsApart ⟨[], none⟩ := ⟨by simp, by simp, fun _ absent => nomatch absent⟩
  exact (run.invariant start fun _ _ _ apart step => portStep_apart apart step).once

end Runs

/-- The lowest free port above the lower end is the answer, and no machine's port is given out
again while the machine is there. -/
theorem ports_right (used blacklist : List UInt16) (rangemin rangemax : UInt16)
    {labels : List PortLabel} {state : PortState}
    (run : Run PortStep ⟨[], none⟩ labels state) :
    PortAnswer used blacklist rangemin rangemax
        (getNewPortNo Status.success used rangemin.toNat rangemax.toNat blacklist) ∧
      (state.vmPool.flatMap (·.ports)).Nodup :=
  ⟨getNewPortNo_answer, ports_once run⟩

def nextPorts (state : PortState) (label : PortLabel) : PortState :=
  (portStep state label).getD state

/-- Two machines with serial ports are made, one of them is dropped and a third one made. -/
def portLabels : List PortLabel :=
  [.getVnc 1 7 0 true 0, .getSerial 0, .allocate true, .getVnc 2 7 0 true 0, .getSerial 0,
    .allocate true, .drop 1, .getVnc 3 7 0 false 0, .allocate true]

theorem portLabels_right :
    PortAnswer [5901, 5903] [5902] 5900 65535
        (getNewPortNo Status.success [5901, 5903] (5900 : UInt16).toNat (65535 : UInt16).toNat
          [5902]) ∧
      ((portLabels.foldl nextPorts ⟨[], none⟩).vmPool.flatMap (·.ports)).Nodup :=
  ports_right [5901, 5903] [5902] 5900 65535 (Run.replay (by decide))

example : (portLabels.foldl nextPorts ⟨[], none⟩).vmPool =
    [⟨2, 7, 5902, 20002, true⟩, ⟨3, 7, 5901, 0, false⟩] := by decide

/-- The lower end of a range is never given: the range 5901..5901 has a port in it that nobody
has, and the answer is no port. -/
theorem lower_end_not_given :
    (∃ port : UInt16, 5901 ≤ port ∧ port ≤ 5901 ∧ port ∉ portNumberUsed []) ∧
      getNewPortNo Status.success (portNumberUsed []) 5901 5901 [] = (Status.success, 0) :=
  ⟨⟨5901, by decide⟩, by decide⟩

end Tecs.Vm.PortNumbers
