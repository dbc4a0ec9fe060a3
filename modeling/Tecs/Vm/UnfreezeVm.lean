import Mathlib

set_option autoImplicit false

/-! The configuration of a machine in the requests of `UnFreeze`, and the blocks it shares. -/

namespace Tecs.Vm.Unfreeze

def IMAGE_ACCESS_ISCSI : String := "iscsi"
def IMAGE_DEFAULT_FSTYPE : String := "ext4"

structure LunAddr where
  target : String
  lunid : ℤ

def LunAddr.addrstr (addr : LunAddr) : String := addr.target ++ ":" ++ toString addr.lunid

/-- `iScsiAuthTable`: where a host, known by its iSCSI name, finds the block. -/
abbrev AuthTable := String → Option String

def AuthTable.addAuth (table : AuthTable) (iscsiname : String) (addr : LunAddr) : AuthTable :=
  Function.update table iscsiname (some addr.addrstr)

def AuthTable.delAuth (table : AuthTable) (iscsiname : String) : AuthTable :=
  Function.update table iscsiname none

structure ISCSIAccessOption where
  type : String
  dataipArray : List String
  authTbl : AuthTable

structure FileUrl where
  accessType : String
  accessOption : ISCSIAccessOption

structure VmDiskConfig where
  id : ℤ
  position : ℤ
  requestId : String
  target : String
  shareUrl : FileUrl
  fstype : String

structure VMConfig where
  kernel : VmDiskConfig
  initrd : VmDiskConfig
  machine : VmDiskConfig
  disks : List VmDiskConfig
  nics : List String
  vmWdtime : ℤ

structure AuthBlockAck where
  requestId : String
  type : String := ""
  dataipVec : List String := []
  targetName : String := ""
  lunid : ℤ := 0

def authBlockAck2FileUrl (url : FileUrl) (iscsiName : String) (ack : AuthBlockAck) (add : Bool) :
    FileUrl :=
  let option :=
    if ack.type = "" then url.accessOption
    else { url.accessOption with type := ack.type, dataipArray := ack.dataipVec }
  let table :=
    if add then option.authTbl.addAuth iscsiName ⟨ack.targetName, ack.lunid⟩
    else option.authTbl.delAuth iscsiName
  { accessType := IMAGE_ACCESS_ISCSI, accessOption := { option with authTbl := table } }

/-- The configuration in the request; `active` is what `GetActiveImageBackup` finds for a target. -/
def constructCreateReq (active : String → Option String) (config : VMConfig) : VMConfig :=
  let images := config.machine :: config.kernel :: config.initrd :: config.disks
  match images.findSome? fun disk => active disk.target with
  | some requestId => { config with machine := { config.machine with requestId := requestId } }
  | none => config

end Tecs.Vm.Unfreeze
