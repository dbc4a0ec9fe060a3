import Tecs.Vm.UnfreezeVm

set_option autoImplicit false

/-! The configuration in a creation request, and the active backups of the machine's images. -/

namespace Tecs.Vm.Unfreeze

section Definitions

/-- A row of `vm_image_backup`; its key is a new UUID. -/
structure VmImgBackup where
  requestId : String
  vid : ℤ
  target : String
  active : Bool
  named : requestId ≠ ""

/-- Whether the row is the active backup of an image of a machine. -/
def VmImgBackup.isFor (row : VmImgBackup) (vid : ℤ) (target : String) : Prop :=
  row.active = true ∧ row.target = target ∧ row.vid = vid

instance (row : VmImgBackup) (vid : ℤ) (target : String) : Decidable (row.isFor vid target) :=
  inferInstanceAs (Decidable (_ ∧ _))

/-- The last row that the selection gives is the one that is read. -/
def getActiveImageBackup (rows : List VmImgBackup) (vid : ℤ) (target : String) : Option String :=
  (rows.filter fun row => row.isFor vid target).getLast?.map (·.requestId)

def OneActive (rows : List VmImgBackup) : Prop :=
  ∀ row ∈ rows, ∀ other ∈ rows, row.active = true → other.active = true →
    row.vid = other.vid → row.target = other.target → row = other

/-- What a request shows of a device: the request id of its active backup in place of its own, and
the device itself when it has none. -/
def Shows (rows : List VmImgBackup) (vid : ℤ) (device shown : VmDiskConfig) : Prop :=
  (∃ row ∈ rows, row.isFor vid device.target ∧
    shown = { device with requestId := row.requestId }) ∨
  ((∀ row ∈ rows, ¬ row.isFor vid device.target) ∧ shown = device)

/-- The configuration with the active backup of each device in it, and nothing else changed. -/
structure Substituted (rows : List VmImgBackup) (vid : ℤ) (config shown : VMConfig) : Prop where
  machine : Shows rows vid config.machine shown.machine
  kernel : Shows rows vid config.kernel shown.kernel
  initrd : Shows rows vid config.initrd shown.initrd
  disks : List.Forall₂ (Shows rows vid) config.disks shown.disks
  nics : shown.nics = config.nics
  watchdog : shown.vmWdtime = config.vmWdtime

/-- The devices after the machine, in the order in which they are asked for. -/
def VMConfig.otherDevices (config : VMConfig) : List VmDiskConfig :=
  config.kernel :: config.initrd :: config.disks

/-- What the devices carry already when the substitution comes out right: each device but the
machine the id of its active backup, and the machine, when it has no active backup, the id of the
first one that another device has. -/
structure CarriedAlready (rows : List VmImgBackup) (vid : ℤ) (config : VMConfig) : Prop where
  others : ∀ device ∈ config.otherDevices, ∀ row ∈ rows, row.isFor vid device.target →
    device.requestId = row.requestId
  machine : (∀ row ∈ rows, ¬ row.isFor vid config.machine.target) →
    ∀ before device after, config.otherDevices = before ++ device :: after →
      (∀ earlier ∈ before, ∀ row ∈ rows, ¬ row.isFor vid earlier.target) →
      ∀ row ∈ rows, row.isFor vid device.target → config.machine.requestId = row.requestId

end Definitions

section Selection

variable {rows : List VmImgBackup} {vid : ℤ} {target : String}

theorem getActiveImageBackup_none :
    getActiveImageBackup rows vid target = none ↔ ∀ row ∈ rows, ¬ row.isFor vid target := by
  simp only [getActiveImageBackup, Option.map_eq_none_iff, List.getLast?_eq_none_iff,
    List.filter_eq_nil_iff, decide_eq_true_eq]

theorem getActiveImageBackup_some (one : OneActive rows) {requestId : String} :
    getActiveImageBackup rows vid target = some requestId ↔
      ∃ row ∈ rows, row.isFor vid target ∧ row.requestId = requestId := by
  unfold getActiveImageBackup
  constructor
  · intro found
    have ⟨row, last, same⟩ := Option.map_eq_some_iff.mp found
    have member := List.mem_filter.mp (List.mem_of_getLast? last)
    exact ⟨row, member.1, of_decide_eq_true member.2, same⟩
  · rintro ⟨row, inside, active, same⟩
    have listed : row ∈ rows.filter fun row => row.isFor vid target :=
      List.mem_filter.mpr ⟨inside, decide_eq_true active⟩
    cases last : (rows.filter fun row => decide (row.isFor vid target)).getLast? with
    | none =>
        rw [List.getLast?_eq_none_iff] at last
        rw [last] at listed
        exact absurd listed List.not_mem_nil
    | some other =>
        have member := List.mem_filter.mp (List.mem_of_getLast? last)
        have ⟨active', target', vid'⟩ := of_decide_eq_true member.2
        have equal : other = row := one other member.1 row inside active' active.1
          (vid'.trans active.2.2.symm) (target'.trans active.2.1.symm)
        rw [Option.map_some, equal, same]

theorem oneActive_single (row : VmImgBackup) : OneActive [row] := by
  intro first inside second inside' _ _ _ _
  rw [List.mem_singleton.mp inside, List.mem_singleton.mp inside']

end Selection

section Substitution

variable {rows : List VmImgBackup} {vid : ℤ} {config : VMConfig}

theorem shows_self (one : OneActive rows) (device : VmDiskConfig) :
    Shows rows vid device device ↔
      ∀ row ∈ rows, row.isFor vid device.target → device.requestId = row.requestId := by
  constructor
  · rintro (⟨row, inside, active, same⟩ | ⟨nothing, _⟩) other inside' active'
    · have equal : row = other := one row inside other inside' active.1 active'.1
        (active.2.2.trans active'.2.2.symm) (active.2.1.trans active'.2.1.symm)
      rw [← equal]
      exact congrArg VmDiskConfig.requestId same
    · exact absurd active' (nothing other inside')
  · intro carried
    by_cases active : ∃ row ∈ rows, row.isFor vid device.target
    · obtain ⟨row, inside, active⟩ := active
      refine Or.inl ⟨row, inside, active, ?_⟩
      rw [← carried row inside active]
    · exact Or.inr ⟨fun row inside found => active ⟨row, inside, found⟩, rfl⟩

/-- The other devices are as they were, whatever backups there are. -/
theorem constructCreateReq_eq (active : String → Option String) :
    constructCreateReq active config =
      { config with
        machine :=
          { config.machine with
            requestId := ((config.machine :: config.otherDevices).findSome?
              fun disk => active disk.target).getD config.machine.requestId } } := by
  unfold constructCreateReq VMConfig.otherDevices
  dsimp only
  cases List.findSome? (fun disk => active disk.target)
    (config.machine :: config.kernel :: config.initrd :: config.disks) <;> rfl

theorem shows_machine (one : OneActive rows) :
    Shows rows vid config.machine
        (constructCreateReq (getActiveImageBackup rows vid) config).machine ↔
      ((∀ row ∈ rows, ¬ row.isFor vid config.machine.target) →
        ∀ requestId, (config.otherDevices.findSome?
          fun disk => getActiveImageBackup rows vid disk.target) = some requestId →
          config.machine.requestId = requestId) := by
  rw [constructCreateReq_eq, List.findSome?_cons]
  cases own : getActiveImageBackup rows vid config.machine.target with
  | some requestId =>
      have ⟨row, inside, active, same⟩ := (getActiveImageBackup_some one).mp own
      refine iff_of_true ?_ fun nothing => absurd active (nothing row inside)
      exact Or.inl ⟨row, inside, active, by rw [same]; rfl⟩
  | none =>
      have nothing := getActiveImageBackup_none.mp own
      dsimp only
      constructor
      · rintro (⟨row, inside, active, _⟩ | ⟨_, same⟩) _ requestId found
        · exact absurd active (nothing row inside)
        · have equal := congrArg VmDiskConfig.requestId same
          rw [found] at equal
          exact equal.symm
      · intro carried
        refine Or.inr ⟨nothing, ?_⟩
        cases found : config.otherDevices.findSome? _ with
        | none => rfl
        | some requestId => rw [Option.getD_some, ← carried nothing requestId found]

theorem first_other_iff (one : OneActive rows) {requestId : String} :
    (config.otherDevices.findSome? fun disk => getActiveImageBackup rows vid disk.target) =
        some requestId ↔
      ∃ before device after, config.otherDevices = before ++ device :: after ∧
        (∃ row ∈ rows, row.isFor vid device.target ∧ row.requestId = requestId) ∧
        ∀ earlier ∈ before, ∀ row ∈ rows, ¬ row.isFor vid earlier.target := by
  rw [List.findSome?_eq_some_iff]
  simp only [getActiveImageBackup_some one, getActiveImageBackup_none]

/-- A request shows the active backups exactly when the devices carry them already. -/
theorem createReq_right_iff (one : OneActive rows) :
    Substituted rows vid config (constructCreateReq (getActiveImageBackup rows vid) config) ↔
      CarriedAlready rows vid config := by
  have machine := @shows_machine rows vid config one
  simp only [first_other_iff one] at machine
  constructor
  · intro right
    refine ⟨?_, ?_⟩
    · have ⟨_, kernel, initrd, disks, _, _⟩ := right
      rw [constructCreateReq_eq] at kernel initrd disks
      intro device member
      rcases List.mem_cons.mp member with rfl | member
      · exact (shows_self one _).mp kernel
      rcases List.mem_cons.mp member with rfl | disk
      · exact (shows_self one _).mp initrd
      · exact (shows_self one _).mp (List.forall₂_same.mp disks device disk)
    · intro nothing before device after split earlier row inside active
      exact machine.mp right.machine nothing row.requestId
        ⟨before, device, after, split, ⟨row, inside, active, rfl⟩, earlier⟩
  · intro carried
    have shown (device : VmDiskConfig) (member : device ∈ config.otherDevices) :
        Shows rows vid device device := (shows_self one device).mpr (carried.others device member)
    have own := machine.mpr fun nothing requestId found => by
      obtain ⟨before, device, after, split, ⟨row, inside, active, same⟩, earlier⟩ := found
      rw [← same]
      exact carried.machine nothing before device after split earlier row inside active
    rw [constructCreateReq_eq] at own ⊢
    refine ⟨own, ?_, ?_, ?_, rfl, rfl⟩
    · exact shown config.kernel (by simp [VMConfig.otherDevices])
    · exact shown config.initrd (by simp [VMConfig.otherDevices])
    · exact List.forall₂_same.mpr fun disk member =>
        shown disk (by simp [VMConfig.otherDevices, member])

end Substitution

section Example

def noUrl : FileUrl := ⟨"", ⟨"", [], fun _ => none⟩⟩

def device (target requestId : String) : VmDiskConfig := ⟨1, 1, requestId, target, noUrl, ""⟩

def twoDisks : VMConfig :=
  ⟨device "kernel" "k", device "initrd" "i", device "vda" "m",
    [device "vdb" "d1", device "vdc" "d2"], [], 0⟩

/-- The machine's own backup is active and the devices have no other. -/
def machineBackup : List VmImgBackup := [⟨"b1", 7, "vda", true, by decide⟩]

theorem createReq_machine_backup :
    Substituted machineBackup 7 twoDisks
        (constructCreateReq (getActiveImageBackup machineBackup 7) twoDisks) ↔
      CarriedAlready machineBackup 7 twoDisks :=
  createReq_right_iff (oneActive_single _)

def diskBackup : List VmImgBackup := [⟨"b2", 7, "vdb", true, by decide⟩]

/-- The backup of the first disk is active and the machine has none: the request gives the disk's
backup to the machine and leaves the disk as it was. -/
theorem disk_backup_given_to_machine :
    OneActive diskBackup ∧
      (constructCreateReq (getActiveImageBackup diskBackup 7) twoDisks).machine.requestId = "b2" ∧
      ¬ Substituted diskBackup 7 twoDisks
        (constructCreateReq (getActiveImageBackup diskBackup 7) twoDisks) := by
  refine ⟨oneActive_single _, by decide, fun right => ?_⟩
  cases right.machine with
  | inl other =>
      obtain ⟨row, inside, active, _⟩ := other
      rw [List.mem_singleton.mp inside] at active
      exact absurd active (by decide)
  | inr unchanged =>
      have same := congrArg VmDiskConfig.requestId unchanged.2
      exact absurd same (by decide)

end Example

end Tecs.Vm.Unfreeze
