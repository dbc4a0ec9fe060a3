import Tecs.Evb.VdpTlv
import Tecs.Library.KeyedList

set_option autoImplicit false

/-! The VSIs of a bridge and the filters that they install. -/

namespace Tecs.Vdp

open Bytes

section OutFilter

/-- What a bridge installed for a VSI. -/
structure TagVsiBOutFilter where
  vsiIDFormat : UInt8
  vsiID : Vector UInt8 16
  port : UInt32
  tlvType : UInt16
  vsiMgrID : Vector UInt8 16
  vsitypeID : Vector UInt8 3
  vsitypeVer : UInt8
  fltFormat : UInt8
  lstFlt : List TagVdpFltGroupMacVid
deriving Repr, DecidableEq

/-- The port, the format and the VSI that a filter is looked up by. -/
abbrev FilterKey := UInt32 × UInt8 × Vector UInt8 16

def TagVsiBOutFilter.key (flt : TagVsiBOutFilter) : FilterKey :=
  (flt.port, flt.vsiIDFormat, flt.vsiID)

/-- What two entries are compared by. -/
def TagVdpFltGroupMacVid.key (gmv : TagVdpFltGroupMacVid) :
    Vector UInt8 4 × Vector UInt8 6 × Fin 4096 :=
  (gmv.groupID, gmv.mac, gmv.tag.vid)

variable (accepts : TagVdpFltGroupMacVid → Bool)

/-- The entry stays in the list when its installation is not accepted. -/
def vsiBOutFltAddfltGMV (lstFlt : List TagVdpFltGroupMacVid) (gmv : TagVdpFltGroupMacVid) :
    Bool × List TagVdpFltGroupMacVid :=
  if lstFlt.any (·.key = gmv.key) then (true, lstFlt)
  else (accepts gmv, Ecp.listInsert lstFlt gmv)

def vsiBOutFltAddLstFlt (lstFlt : List TagVdpFltGroupMacVid) :
    List TagVdpFltGroupMacVid → Bool × List TagVdpFltGroupMacVid
  | [] => (true, lstFlt)
  | gmv :: rest =>
      match vsiBOutFltAddfltGMV accepts lstFlt gmv with
      | (true, lstFlt) => vsiBOutFltAddLstFlt lstFlt rest
      | (false, lstFlt) => (false, lstFlt)

/-- Only the entries that are asked for again stay. -/
def vsiBOutFltCmpdelLstFlt (lstFlt tmpGMV : List TagVdpFltGroupMacVid) :
    List TagVdpFltGroupMacVid :=
  lstFlt.filter fun gmv => tmpGMV.any (·.key = gmv.key)

/-- The result is whether all went well. -/
def vsiBOutFltAddvsiID (bigendian : Bool) (port : UInt32) (mgrid : Vector UInt8 16)
    (vdpass : TagVdpTlvVDPAss) (lstVsiBOutFlt : List TagVsiBOutFilter) :
    Option (Bool × List TagVsiBOutFilter) :=
  let key := (port, vdpass.vsiIDFormat, vdpass.vsiID)
  let described (lstFlt : List TagVdpFltGroupMacVid) : TagVsiBOutFilter :=
    { vsiIDFormat := vdpass.vsiIDFormat, vsiID := vdpass.vsiID, port, tlvType := vdpass.tlvType,
      vsiMgrID := mgrid, vsitypeID := vdpass.vsiTypeID, vsitypeVer := vdpass.vsiTypeVer,
      fltFormat := vdpass.fltFormat, lstFlt }
  match vsiBOutFltGetVdpassLstFlt bigendian vdpass with
  | none => none
  | some (rc, tmpGMV) =>
      match KeyedList.lookup TagVsiBOutFilter.key key lstVsiBOutFlt with
      | none =>
          if rc ≠ 0 then some (false, Ecp.listInsert lstVsiBOutFlt (described []))
          else
            let (done, lstFlt) := vsiBOutFltAddLstFlt accepts [] tmpGMV
            some (done, Ecp.listInsert lstVsiBOutFlt (described lstFlt))
      | some pVsi =>
          let change (lstFlt : List TagVdpFltGroupMacVid) : List TagVsiBOutFilter :=
            KeyedList.replace TagVsiBOutFilter.key key
              (fun pVsi => { described lstFlt with
                vsiIDFormat := pVsi.vsiIDFormat
                vsiID := pVsi.vsiID
                port := pVsi.port }) lstVsiBOutFlt
          if rc ≠ 0 then some (false, change pVsi.lstFlt)
          else
            let (done, lstFlt) := vsiBOutFltAddLstFlt accepts
              (vsiBOutFltCmpdelLstFlt pVsi.lstFlt tmpGMV) tmpGMV
            some (done, change lstFlt)

def vsiBOutFltDelvsiID (key : FilterKey) (lstVsiBOutFlt : List TagVsiBOutFilter) :
    List TagVsiBOutFilter :=
  KeyedList.remove TagVsiBOutFilter.key key lstVsiBOutFlt

end OutFilter

inductive VdpBSmState
  | idle | init | bridgeProc | success | keep | deassoc | deassociated | releaseAll
  | waitStationCmd | processKeepalive
deriving Repr, DecidableEq

inductive VdpBSmEvent
  | begin | bridgeExit | rxcmdValid | rrSuccess | rrKeep | rrDeassociate | rrTimeout | uct
  | rxcmdNotequOpercmd | rxcmdEquOpercmd | waitwhileEquZero | portUp | portDown | evbtlvNoSupport
deriving Repr, DecidableEq

/-- A command comes with its type. -/
structure TagVsiInstanceB where
  vsiIDFormat : UInt8
  vsiID : Vector UInt8 16
  vsimgrID : Vector UInt8 16
  toutKeepAlive : UInt32
  state : VdpBSmState
  operCmd : Option TagVdpTlvVDPAss
  operCmdTlvType : Option VdpTlvType
  vsiState : Option VdpTlvType
  rxCmd : Option (VdpTlvType × TagVdpTlvVDPAss)
  bridgeExit : Bool
  resp : Option (VdpTlvType × TagVdpTlvVDPAss)
  waitWhile : UInt32
deriving Repr, DecidableEq

def TagVsiInstanceB.key (vsi : TagVsiInstanceB) : UInt8 × Vector UInt8 16 :=
  (vsi.vsiIDFormat, vsi.vsiID)

def VDPASSTLV_REASON_RA : UInt8 := 0x40
def VDPRESPONSE_ERR_INSUFF_RESOURCE : UInt8 := 2

/-- What is handed to ECP: a manager and a TLV. -/
abbrev SentTlv := Vector UInt8 16 × TagVdpTlvVDPAss

/-- What an action works on: the VSI, the filters of the whole bridge and what was sent so far. -/
structure Work where
  vsi : TagVsiInstanceB
  lstVsiBOutFlt : List TagVsiBOutFilter
  sent : List SentTlv
deriving Repr, DecidableEq

/-- What an action leaves, and the events that it raises one after the other. -/
structure Done where
  work : Work
  events : List VdpBSmEvent

/-- What an action meets outside the VSI: the byte order of the host, the port, and the entries
whose installation the switch accepts for a VSI. -/
structure Host where
  bigendian : Bool
  port : UInt32
  accepts : UInt8 × Vector UInt8 16 → TagVdpFltGroupMacVid → Bool

section Actions

variable (host : Host)

def filterKey (vsi : TagVsiInstanceB) : FilterKey := (host.port, vsi.key)

def bErr (work : Work) : Option Done := some ⟨work, []⟩

def init (work : Work) : Option Done :=
  some ⟨{ work with
    vsi := { work.vsi with state := .init, operCmd := none, vsiState := some .deassociate } }, []⟩

def relAll (work : Work) : Option Done :=
  some ⟨{ work with
    vsi := { work.vsi with state := .releaseAll }
    lstVsiBOutFlt := vsiBOutFltDelvsiID (filterKey host work.vsi) work.lstVsiBOutFlt }, []⟩

/-- The answer to a command is the command with the bit of an answer. -/
def resouceCmd (rxCmd : VdpTlvType × TagVdpTlvVDPAss) : VdpTlvType × TagVdpTlvVDPAss :=
  (rxCmd.1, { rxCmd.2 with reason := rxCmd.2.reason ||| VDPASSTLV_REASON_RA })

def setRespError (vsi : TagVsiInstanceB) (err : UInt8) : TagVsiInstanceB :=
  { vsi with
    resp := vsi.resp.map fun resp =>
      (resp.1, { resp.2 with reason := resp.2.reason ||| (err &&& 0x0f) }) }

def bProc (work : Work) : Option Done :=
  let vsi := { work.vsi with state := .bridgeProc, resp := none }
  match vsi.rxCmd with
  | none => some ⟨{ work with vsi }, []⟩
  | some rxCmd =>
      let vsi := { vsi with resp := some (resouceCmd rxCmd) }
      match rxCmd.1 with
      | .deassociate => some ⟨{ work with vsi }, [.rrDeassociate]⟩
      | .associate =>
          match vsiBOutFltAddvsiID (host.accepts vsi.key) host.bigendian host.port vsi.vsimgrID
              rxCmd.2 work.lstVsiBOutFlt with
          | none => none
          | some (true, lstVsiBOutFlt) =>
              some ⟨{ work with vsi, lstVsiBOutFlt }, [.rrSuccess]⟩
          | some (false, lstVsiBOutFlt) =>
              some ⟨{ work with vsi := setRespError vsi VDPRESPONSE_ERR_INSUFF_RESOURCE,
                                lstVsiBOutFlt }, [.rrDeassociate, .rrSuccess]⟩
      | _ => some ⟨{ work with vsi }, [.rrSuccess]⟩

/-- The TLV that is sent always has the bit of an answer. -/
def vdpBBuildTlv (vsi : TagVsiInstanceB) (vdpTlv : TagVdpTlvVDPAss) : SentTlv :=
  (vsi.vsimgrID, { vdpTlv with reason := vdpTlv.reason ||| VDPASSTLV_REASON_RA })

def txTLVResp (vsi : TagVsiInstanceB) : List SentTlv :=
  (vsi.resp.map fun resp => vdpBBuildTlv vsi resp.2).toList

def txTLVOperCmd (vsi : TagVsiInstanceB) : List SentTlv :=
  (vsi.operCmd.map (vdpBBuildTlv vsi)).toList

/-- The TLV is built from the filter of the VSI. -/
def txTLVBuildDea (vsi : TagVsiInstanceB) (lstVsiBOutFlt : List TagVsiBOutFilter) :
    List SentTlv :=
  match KeyedList.lookup TagVsiBOutFilter.key (filterKey host vsi) lstVsiBOutFlt with
  | none => []
  | some vsiBOut =>
      [(vsiBOut.vsiMgrID,
        { tlvType := VdpTlvType.deassociate.value, tlvLen := .ofNat VDPTLV_VDPTLV_NOFLT_LEN,
          reason := if host.bigendian then 0x02 else 0x40, vsiTypeID := vsiBOut.vsitypeID,
          vsiTypeVer := vsiBOut.vsitypeVer, vsiIDFormat := vsiBOut.vsiIDFormat,
          vsiID := vsiBOut.vsiID, fltFormat := vsiBOut.fltFormat, fltInfo := [] })]

def suc (work : Work) : Option Done :=
  let vsi := { work.vsi with state := .success, operCmd := none }
  match vsi.resp with
  | none => some ⟨{ work with vsi }, []⟩
  | some resp =>
      let vsi :=
        { vsi with operCmd := some resp.2, operCmdTlvType := some resp.1, rxCmd := none }
      some ⟨{ work with vsi, sent := work.sent ++ txTLVResp vsi }, [.uct]⟩

def keep (work : Work) : Option Done :=
  let vsi := { work.vsi with state := .keep, rxCmd := none }
  some ⟨{ work with vsi, sent := work.sent ++ txTLVResp vsi }, [.uct]⟩

def deassoc (work : Work) : Option Done :=
  let vsi := { work.vsi with state := .deassoc, rxCmd := none }
  some ⟨{ work with vsi, sent := work.sent ++ txTLVResp vsi }, [.uct]⟩

def deassoced (work : Work) : Option Done :=
  let vsi := { work.vsi with state := .deassociated }
  some ⟨{ work with vsi, sent := work.sent ++ txTLVBuildDea host vsi work.lstVsiBOutFlt }, [.uct]⟩

def wtSCmd (work : Work) : Option Done :=
  some ⟨{ work with
    vsi := { work.vsi with
      state := .waitStationCmd
      vsiState := work.vsi.operCmdTlvType
      waitWhile := work.vsi.toutKeepAlive } }, []⟩

def procK (work : Work) : Option Done :=
  let vsi := { work.vsi with state := .processKeepalive, rxCmd := none }
  some ⟨{ work with vsi, sent := work.sent ++ txTLVOperCmd vsi }, [.uct]⟩

def vdpBActions : VdpBSmEvent → VdpBSmState → Work → Option Done
  | .begin, .idle => init
  | .bridgeExit, .init => relAll host
  | .bridgeExit, .bridgeProc => deassoced host
  | .rxcmdValid, .init => bProc host
  | .rrSuccess, .bridgeProc => suc
  | .rrKeep, .bridgeProc => keep
  | .rrDeassociate, .bridgeProc => deassoc
  | .rrTimeout, .bridgeProc => deassoced host
  | .uct, .success => wtSCmd
  | .uct, .keep => wtSCmd
  | .uct, .deassoc => relAll host
  | .uct, .deassociated => relAll host
  | .uct, .processKeepalive => wtSCmd
  | .rxcmdNotequOpercmd, .waitStationCmd => bProc host
  | .rxcmdEquOpercmd, .waitStationCmd => procK
  | .waitwhileEquZero, .waitStationCmd => deassoced host
  | .evbtlvNoSupport, _ => relAll host
  | _, _ => bErr

/-- Events raised by an action are handled in turn, up to the given depth. -/
def vdpBSm : ℕ → VdpBSmEvent → Work → Option Work
  | 0, _, work => some work
  | depth + 1, event, work =>
      match vdpBActions host event work.vsi.state work with
      | none => none
      | some done => done.events.foldlM (fun work event => vdpBSm depth event work) done.work

end Actions

section Tick

variable (host : Host)

/-- Without the reasons, of which that of the received command has to have none of its upper bits
set. -/
def vdpBCmpOperCmdRxCmdExceptZero (vsi : TagVsiInstanceB) : Bool :=
  match vsi.operCmd, vsi.rxCmd with
  | some operCmd, some rxCmd =>
      { operCmd with reason := 0 } = { rxCmd.2 with reason := 0 } && rxCmd.2.reason &&& 0xf0 = 0
  | _, _ => false

/-- What a tick does with a VSI. -/
def tickVsi (evbTlvStatusSucc : Bool) (work : Work) : Option Work :=
  let vsi := work.vsi
  if !evbTlvStatusSucc then vdpBSm host 3 .evbtlvNoSupport work
  else if vsi.state = .idle then vdpBSm host 3 .begin work
  else if vsi.state = .init then
    if vsi.bridgeExit then vdpBSm host 3 .bridgeExit work
    else if vsi.rxCmd.isSome then vdpBSm host 3 .rxcmdValid work
    else some work
  else if vsi.state = .bridgeProc then
    if vsi.bridgeExit then vdpBSm host 3 .bridgeExit work else some work
  else
    let waitWhile :=
      if vsi.waitWhile > VDP_LOOP_TIMER_INTREVAL then vsi.waitWhile - VDP_LOOP_TIMER_INTREVAL else 0
    let work := { work with vsi := { vsi with waitWhile } }
    if vsi.state = .waitStationCmd then
      if vsi.bridgeExit then vdpBSm host 3 .bridgeExit work
      else if waitWhile = 0 then vdpBSm host 3 .waitwhileEquZero work
      else if vsi.rxCmd.isSome then
        if vdpBCmpOperCmdRxCmdExceptZero vsi then vdpBSm host 3 .rxcmdEquOpercmd work
        else vdpBSm host 3 .rxcmdNotequOpercmd work
      else some work
    else some work

/-- One VSI after the other. -/
def tickVsis (evbTlvStatusSucc : Bool) :
    List TagVsiInstanceB → List TagVsiBOutFilter →
      Option (List TagVsiInstanceB × List TagVsiBOutFilter × List SentTlv)
  | [], lstVsiBOutFlt => some ([], lstVsiBOutFlt, [])
  | vsi :: rest, lstVsiBOutFlt =>
      match tickVsi host evbTlvStatusSucc ⟨vsi, lstVsiBOutFlt, []⟩ with
      | none => none
      | some work =>
          match tickVsis evbTlvStatusSucc rest work.lstVsiBOutFlt with
          | none => none
          | some (lstVsi, lstVsiBOutFlt, sent) =>
              some (work.vsi :: lstVsi, lstVsiBOutFlt, work.sent ++ sent)

def vdpBCanDestoryVsi (lstVsi : List TagVsiInstanceB) : List TagVsiInstanceB :=
  lstVsi.filter (·.state ≠ .releaseAll)

def vdpBLoopTimerHandler (evbTlvStatusSucc : Bool) (lstVsi : List TagVsiInstanceB)
    (lstVsiBOutFlt : List TagVsiBOutFilter) :
    Option (List TagVsiInstanceB × List TagVsiBOutFilter × List SentTlv) :=
  match tickVsis host evbTlvStatusSucc lstVsi lstVsiBOutFlt with
  | none => none
  | some (lstVsi, lstVsiBOutFlt, sent) => some (vdpBCanDestoryVsi lstVsi, lstVsiBOutFlt, sent)

end Tick

section Receive

/-- A new VSI, which the tick will begin with. -/
def vsiNew (toutKeepAlive : UInt32) (mgrID : Vector UInt8 16)
    (command : VdpTlvType × TagVdpTlvVDPAss) : TagVsiInstanceB where
  vsiIDFormat := command.2.vsiIDFormat
  vsiID := command.2.vsiID
  vsimgrID := mgrID
  toutKeepAlive := toutKeepAlive
  state := .idle
  operCmd := none
  operCmdTlvType := none
  vsiState := none
  rxCmd := some command
  bridgeExit := false
  resp := none
  waitWhile := 0

/-- The newest command of a VSI replaces the one that waits. -/
def vdpBRxCommand (toutKeepAlive : UInt32) (mgrID : Vector UInt8 16)
    (lstVsi : List TagVsiInstanceB) (command : VdpTlvType × TagVdpTlvVDPAss) :
    List TagVsiInstanceB :=
  let key := (command.2.vsiIDFormat, command.2.vsiID)
  if (KeyedList.lookup TagVsiInstanceB.key key lstVsi).isSome then
    KeyedList.replace TagVsiInstanceB.key key
      (fun pVsi => { pVsi with vsimgrID := mgrID, rxCmd := some command }) lstVsi
  else Ecp.listInsert lstVsi (vsiNew toutKeepAlive mgrID command)

def vdpBReceive (bigendian : Bool) (toutKeepAlive : UInt32) (buf : List UInt8)
    (lstVsi : List TagVsiInstanceB) : List TagVsiInstanceB :=
  match vdpBRxReceiveFrame bigendian buf with
  | none => lstVsi
  | some rx => rx.commands.foldl (vdpBRxCommand toutKeepAlive rx.mgrID) lstVsi

end Receive

end Tecs.Vdp
