import Tecs.Evb.VdpTlv
import Tecs.Library.KeyedList

set_option autoImplicit false

/-! The VSIs of a station. -/

namespace Tecs.Vdp

inductive VdpSSmState
  | idle | init | transmitDeassoc | stationProc | preassocNew | assocNew | assocComplete
  | waitSysCmd | transmitKeepalive
deriving Repr, DecidableEq

inductive VdpSSmEvent
  | begin | newcmd | preassocNew | assocNew | assocComplete | uct | waitwhileEquZero
  | rxrespTlvtypeEquDeassoc | rxrespTlvtypeEquAssocAndKeep | rxrespReasonEquZero
  | opercmdExceptreasonElse | syscmdExceptreasonElse | rxrespNotNull | portUp | portDown
deriving Repr, DecidableEq

/-- A VSI and its format. -/
abbrev VsiKey := UInt8 × Vector UInt8 16

/-- The length of `sysCmd` is kept apart, since not every function that frees it resets it. -/
structure TagVsiInstanceS where
  vsiIDFormat : UInt8
  vsiID : Vector UInt8 16
  respWaitDelay : UInt32
  reinitKeepAlive : UInt32
  profileChg : Bool
  cfgState : VdpTlvType
  state : VdpSSmState
  operCmd : Option (List UInt8)
  operCmdTlvType : Option VdpTlvType
  vsiState : Option VdpTlvType
  newCmd : Bool
  cancelCmd : Bool
  sysCmd : Option (List UInt8)
  sysCmdLen : ℕ
  sysCmdTlvType : VdpTlvType
  waitWhile : UInt32
deriving Repr, DecidableEq

def TagVsiInstanceS.key (vsi : TagVsiInstanceS) : VsiKey := (vsi.vsiIDFormat, vsi.vsiID)

def TagVsiProfile.key (vsiPro : TagVsiProfile) : VsiKey := (vsiPro.vsiIDFormat, vsiPro.vsiID)

structure TagVsiCmdPoolItem where
  vsiIDFormat : UInt8
  vsiID : Vector UInt8 16
  cmdTlvType : VdpTlvType
  port : UInt32
  newFlag : Bool
deriving Repr, DecidableEq

def TagVsiCmdPoolItem.key (item : TagVsiCmdPoolItem) : VsiKey := (item.vsiIDFormat, item.vsiID)

/-- What an action leaves: the VSI, what it hands to ECP, and the event that it raises. -/
structure SDone where
  vsi : TagVsiInstanceS
  sent : List (List UInt8)
  event : Option VdpSSmEvent

section Actions

variable (lstVsiProfile : List TagVsiProfile)

/-- No TLV without a profile. -/
def vdpSBuildTlv (vsi : TagVsiInstanceS) (vdptlvType : VdpTlvType) : Option (List UInt8) :=
  match KeyedList.lookup TagVsiProfile.key vsi.key lstVsiProfile with
  | none => none
  | some vsiPro => (vsiProfileToVsitlv vsiPro vdptlvType).map (·.sent)

def sErr (vsi : TagVsiInstanceS) : Option SDone := some ⟨vsi, [], none⟩

def sInit (vsi : TagVsiInstanceS) : Option SDone :=
  some ⟨{ vsi with
    state := .init, operCmd := none, sysCmd := none, vsiState := some .deassociate }, [], none⟩

def txTLVSysCmd (vsi : TagVsiInstanceS) : TagVsiInstanceS × List (List UInt8) :=
  let vsi := if vsi.sysCmd.isSome then { vsi with sysCmd := none, sysCmdLen := 0 } else vsi
  match vdpSBuildTlv lstVsiProfile vsi vsi.cfgState with
  | none => (vsi, [])
  | some pTlv =>
      ({ vsi with
        sysCmd := some pTlv
        sysCmdLen := pTlv.length
        sysCmdTlvType := vsi.cfgState
        profileChg := false }, [pTlv])

def txTLVSBuildDea (vsi : TagVsiInstanceS) : TagVsiInstanceS × List (List UInt8) :=
  match vdpSBuildTlv lstVsiProfile vsi .deassociate with
  | none => (vsi, [])
  | some pTlv => ({ vsi with profileChg := false }, [pTlv])

def sProc (vsi : TagVsiInstanceS) : Option SDone :=
  let (vsi, sent) := txTLVSysCmd lstVsiProfile { vsi with newCmd := false, state := .stationProc }
  some ⟨{ vsi with waitWhile := vsi.respWaitDelay }, sent, none⟩

/-- The copy of the system command reads as many bytes as its length says. -/
def preNew (vsi : TagVsiInstanceS) : Option SDone :=
  let vsi := { vsi with state := .preassocNew, operCmd := none }
  if vsi.sysCmdLen = 0 then some ⟨vsi, [], none⟩
  else
    match vsi.sysCmd with
    | none => none
    | some sysCmd =>
        some ⟨{ vsi with
          operCmd := some sysCmd
          operCmdTlvType := some vsi.sysCmdTlvType
          vsiState := some vsi.sysCmdTlvType
          newCmd := false }, [], some .uct⟩

def assNew (vsi : TagVsiInstanceS) : Option SDone :=
  let vsi := { vsi with state := .assocNew, operCmd := none }
  if vsi.sysCmdLen = 0 then some ⟨vsi, [], none⟩
  else
    match vsi.sysCmd with
    | none => none
    | some sysCmd =>
        some ⟨{ vsi with operCmd := some sysCmd, operCmdTlvType := some vsi.sysCmdTlvType }, [],
          some .uct⟩

def assCmplt (vsi : TagVsiInstanceS) : Option SDone :=
  some ⟨{ vsi with state := .assocComplete, vsiState := vsi.operCmdTlvType, newCmd := false }, [],
    some .uct⟩

def wtSysCmd (vsi : TagVsiInstanceS) : Option SDone :=
  some ⟨{ vsi with state := .waitSysCmd, waitWhile := vsi.reinitKeepAlive }, [], none⟩

/-- A changed profile needs a new TLV; without one the action ends early. -/
def tKeep (vsi : TagVsiInstanceS) : Option SDone :=
  let vsi := { vsi with state := .transmitKeepalive }
  if vsi.profileChg then
    let vsi := { vsi with operCmd := none }
    match vsi.operCmdTlvType.bind (vdpSBuildTlv lstVsiProfile vsi) with
    | none => some ⟨vsi, [], none⟩
    | some pTlv =>
        some ⟨{ vsi with
          operCmd := some pTlv, profileChg := false, waitWhile := vsi.respWaitDelay }, [pTlv], none⟩
  else some ⟨{ vsi with waitWhile := vsi.respWaitDelay }, vsi.operCmd.toList, none⟩

def tDeass (vsi : TagVsiInstanceS) : Option SDone :=
  let (vsi, sent) := txTLVSBuildDea lstVsiProfile { vsi with state := .transmitDeassoc }
  some ⟨{ vsi with waitWhile := vsi.respWaitDelay }, sent, none⟩

def vdpSActions : VdpSSmEvent → VdpSSmState → TagVsiInstanceS → Option SDone
  | .begin, .idle => sInit
  | .newcmd, .init => sProc lstVsiProfile
  | .newcmd, .waitSysCmd => sProc lstVsiProfile
  | .preassocNew, .stationProc => preNew
  | .assocNew, .stationProc => assNew
  | .assocComplete, .stationProc => assCmplt
  | .uct, .stationProc => assCmplt
  | .uct, .preassocNew => wtSysCmd
  | .uct, .assocNew => assCmplt
  | .uct, .assocComplete => wtSysCmd
  | .waitwhileEquZero, .transmitDeassoc => sInit
  | .waitwhileEquZero, .stationProc => sInit
  | .waitwhileEquZero, .waitSysCmd => tKeep lstVsiProfile
  | .waitwhileEquZero, .transmitKeepalive => sInit
  | .rxrespTlvtypeEquDeassoc, .stationProc => sInit
  | .rxrespTlvtypeEquDeassoc, .waitSysCmd => sInit
  | .rxrespTlvtypeEquDeassoc, .transmitKeepalive => sInit
  | .rxrespTlvtypeEquAssocAndKeep, .transmitKeepalive => tDeass lstVsiProfile
  | .rxrespReasonEquZero, .transmitKeepalive => wtSysCmd
  | .opercmdExceptreasonElse, .transmitKeepalive => sInit
  | .syscmdExceptreasonElse, .stationProc => sInit
  | .rxrespNotNull, .transmitDeassoc => sInit
  | _, _ => sErr

/-- An action may raise an event in turn, up to the given depth. -/
def vdpSSm : ℕ → VdpSSmEvent → TagVsiInstanceS → Option (TagVsiInstanceS × List (List UInt8))
  | 0, _, vsi => some (vsi, [])
  | depth + 1, event, vsi =>
      match vdpSActions lstVsiProfile event vsi.state vsi with
      | none => none
      | some done =>
          match done.event with
          | none => some (done.vsi, done.sent)
          | some next =>
              (vdpSSm depth next done.vsi).map fun (vsi, sent) => (vsi, done.sent ++ sent)

end Actions

section Command

/-- What the negotiation of the port gives a new VSI. -/
structure SPortAttr where
  respWaitDelay : UInt32
  reinitKeepAlive : UInt32
deriving Repr, DecidableEq

def sVsiNew (attr : SPortAttr) (key : VsiKey) (oper : VdpTlvType) : TagVsiInstanceS where
  vsiIDFormat := key.1
  vsiID := key.2
  respWaitDelay := attr.respWaitDelay
  reinitKeepAlive := attr.reinitKeepAlive
  profileChg := false
  cfgState := oper
  state := .idle
  operCmd := none
  operCmdTlvType := none
  vsiState := none
  newCmd := true
  cancelCmd := false
  sysCmd := none
  sysCmdLen := 0
  sysCmdTlvType := oper
  waitWhile := 0

/-- A command for a VSI that is there waits until the machine gets to it. -/
def vdpSOper (attr : SPortAttr) (key : VsiKey) (oper : VdpTlvType)
    (lstVsi : List TagVsiInstanceS) : List TagVsiInstanceS :=
  if (KeyedList.lookup TagVsiInstanceS.key key lstVsi).isSome then
    KeyedList.replace TagVsiInstanceS.key key
      (fun vsi => { vsi with cfgState := oper, sysCmdTlvType := oper, newCmd := true }) lstVsi
  else Ecp.listInsert lstVsi (sVsiNew attr key oper)

end Command

section Response

/-- The bit-field `error` of a reason. -/
def reasonError (bigendian : Bool) (reason : UInt8) : UInt8 :=
  if bigendian then reason >>> 4 else reason &&& 0x0f

/-- The bit-field `s_keep` of a reason. -/
def reasonKeep (bigendian : Bool) (reason : UInt8) : Bool :=
  if bigendian then reason &&& 0x04 ≠ 0 else reason &&& 0x20 ≠ 0

/-- The event that an answer is to a VSI, by its state. -/
def responseEvent (bigendian : Bool) (vsi : TagVsiInstanceS) (type : VdpTlvType)
    (vdpAss : TagVdpTlvVDPAss) : Option VdpSSmEvent :=
  match vsi.state with
  | .transmitDeassoc => some .rxrespNotNull
  | .stationProc =>
      if type = .deassociate then some .rxrespTlvtypeEquDeassoc
      else if type = vsi.sysCmdTlvType then
        if reasonError bigendian vdpAss.reason = 0 then
          if type = .associate then some .assocNew else some .preassocNew
        else if reasonKeep bigendian vdpAss.reason = true ∧ type = .associate ∧
            vsi.vsiState = some .associate then some .assocComplete
        else none
      else some .syscmdExceptreasonElse
  | .waitSysCmd => if type = .deassociate then some .rxrespTlvtypeEquDeassoc else none
  | .transmitKeepalive =>
      if type = .deassociate then some .rxrespTlvtypeEquDeassoc
      else if vsi.operCmdTlvType = some type then
        if reasonError bigendian vdpAss.reason = 0 then some .rxrespReasonEquZero
        else if type = .associate ∧ reasonKeep bigendian vdpAss.reason = true then
          some .rxrespTlvtypeEquAssocAndKeep
        else some .opercmdExceptreasonElse
      else none
  | _ => none

/-- What an answer does with a VSI, and what it hands to ECP. -/
def respondVsi (bigendian : Bool) (lstVsiProfile : List TagVsiProfile) (type : VdpTlvType)
    (vdpAss : TagVdpTlvVDPAss) (vsi : TagVsiInstanceS) :
    Option (TagVsiInstanceS × List (List UInt8)) :=
  if vsi.key = (vdpAss.vsiIDFormat, vdpAss.vsiID) then
    match responseEvent bigendian vsi type vdpAss with
    | none => some (vsi, [])
    | some event => vdpSSm lstVsiProfile 3 event vsi
  else some (vsi, [])

end Response

section Tick

def vdpFindCancelCmdVsi (port : UInt32) (lstVsiCmdPool : List TagVsiCmdPoolItem)
    (lstVsi : List TagVsiInstanceS) : List TagVsiInstanceS :=
  lstVsi.map fun vsi =>
    if lstVsiCmdPool.any fun item =>
        item.port = port && item.key = vsi.key && item.cmdTlvType ≠ vsi.cfgState then
      { vsi with cancelCmd := true }
    else vsi

def vdpSCanDestoryVsi (evbTlvStatusSucc : Bool) (lstVsi : List TagVsiInstanceS) :
    List TagVsiInstanceS :=
  lstVsi.filter fun vsi =>
    !((vsi.state = .init && !vsi.newCmd) || vsi.cancelCmd || !evbTlvStatusSucc)

def vdpCanDestroyCmdPool (port : UInt32) (lstVsi : List TagVsiInstanceS)
    (lstVsiCmdPool : List TagVsiCmdPoolItem) : List TagVsiCmdPoolItem :=
  lstVsiCmdPool.filter fun item =>
    item.port ≠ port || item.cmdTlvType ≠ .deassociate || item.newFlag ||
      lstVsi.any (·.key = item.key)

def vdpCanDestroyProfile (lstVsiCmdPool : List TagVsiCmdPoolItem)
    (lstVsiProfile : List TagVsiProfile) : List TagVsiProfile :=
  lstVsiProfile.filter fun vsiPro => lstVsiCmdPool.any (·.key = vsiPro.key)

/-- A command of the pool goes to the machine only if its VSI is not there. -/
def vdpCmdPoolNewvsi (port : UInt32) (attr : SPortAttr) :
    List TagVsiCmdPoolItem → List TagVsiInstanceS → List TagVsiInstanceS
  | [], lstVsi => lstVsi
  | item :: rest, lstVsi =>
      if item.port = port && !lstVsi.any (·.key = item.key) then
        vdpCmdPoolNewvsi port attr rest (vdpSOper attr item.key item.cmdTlvType lstVsi)
      else vdpCmdPoolNewvsi port attr rest lstVsi

/-- What the loop of a tick does with a VSI, and what it hands to ECP. -/
def tickVsiS (lstVsiProfile : List TagVsiProfile) (vsi : TagVsiInstanceS) :
    Option (TagVsiInstanceS × List (List UInt8)) :=
  if vsi.state = .idle then vdpSSm lstVsiProfile 3 .begin vsi
  else if vsi.newCmd ∧ (vsi.state = .init ∨ vsi.state = .waitSysCmd) then
    vdpSSm lstVsiProfile 3 .newcmd vsi
  else
    let waitWhile :=
      if vsi.waitWhile > VDP_LOOP_TIMER_INTREVAL then vsi.waitWhile - VDP_LOOP_TIMER_INTREVAL
      else 0
    let vsi := { vsi with waitWhile }
    if waitWhile = 0 then
      let vsi := { vsi with newCmd := false }
      if vsi.state = .stationProc ∨ vsi.state = .waitSysCmd ∨ vsi.state = .transmitKeepalive then
        vdpSSm lstVsiProfile 3 .waitwhileEquZero vsi
      else some (vsi, [])
    else some (vsi, [])

/-- The VSIs of a port, with the commands and the profiles of all ports. -/
structure Station where
  lstVsi : List TagVsiInstanceS
  lstVsiCmdPool : List TagVsiCmdPoolItem
  lstVsiProfile : List TagVsiProfile
deriving Repr, DecidableEq

def vdpSLoopTimerHandler (port : UInt32) (attr : SPortAttr) (evbTlvStatusSucc : Bool)
    (station : Station) : Option (Station × List (List UInt8)) :=
  if !evbTlvStatusSucc then
    some ({ station with lstVsi := vdpSCanDestoryVsi false station.lstVsi }, [])
  else
    let lstVsi := vdpSCanDestoryVsi true
      (vdpFindCancelCmdVsi port station.lstVsiCmdPool station.lstVsi)
    let lstVsiCmdPool := vdpCanDestroyCmdPool port lstVsi station.lstVsiCmdPool
    let lstVsiProfile := vdpCanDestroyProfile lstVsiCmdPool station.lstVsiProfile
    let lstVsi := vdpCmdPoolNewvsi port attr lstVsiCmdPool lstVsi
    let lstVsiCmdPool := lstVsiCmdPool.map fun item =>
      if item.port = port then { item with newFlag := false } else item
    (lstVsi.mapM (tickVsiS lstVsiProfile)).map fun done =>
      (⟨done.map (·.1), lstVsiCmdPool, lstVsiProfile⟩, (done.map (·.2)).flatten)

end Tick

end Tecs.Vdp
