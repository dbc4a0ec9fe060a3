import Tecs.Evb.CdcpTlv

set_option autoImplicit false

/-! The lists, the pools and the state machine of a CDCP port. -/

namespace Tecs.Cdcp

section Lists

def isInScidSvidList (elm : TagCdcpScidSvidPair) (list : List TagCdcpScidSvidPair) : Bool :=
  list.any (·.wScid = elm.wScid)

/-- Only the channels are compared. -/
def compareScidSvidList (list₁ list₂ : List TagCdcpScidSvidPair) : Bool :=
  list₁.length = list₂.length && list₁.all (isInScidSvidList · list₂)

def getScidSvidElem (wScid : UInt16) (list : List TagCdcpScidSvidPair) :
    Option TagCdcpScidSvidPair :=
  list.find? (·.wScid = wScid)

def insertElmByScidAscendingOrder (elm : TagCdcpScidSvidPair) :
    List TagCdcpScidSvidPair → List TagCdcpScidSvidPair
  | [] => [elm]
  | lstElm :: rest =>
      if elm.wScid < lstElm.wScid then elm :: lstElm :: rest
      else lstElm :: insertElmByScidAscendingOrder elm rest

end Lists

section Pools

/-- The first VLAN that is not in use, or 0. -/
def allocFirst : List TagVlanInfo → UInt16 × List TagVlanInfo
  | [] => (0, [])
  | vlan :: rest =>
      if !vlan.ucIsUse then (vlan.wVlanID, { vlan with ucIsUse := true } :: rest)
      else
        let (wVlanID, rest) := allocFirst rest
        (wVlanID, vlan :: rest)

def allocSVID (pool : TagCdcpVlanPool) : UInt16 × TagCdcpVlanPool :=
  let (wVlanID, tVlanPoolHead) := allocFirst pool.tVlanPoolHead
  (wVlanID, { pool with tVlanPoolHead })

/-- The entry that is set free is the first one that is not in use. -/
def freeFirst : List TagVlanInfo → List TagVlanInfo
  | [] => []
  | vlan :: rest =>
      if !vlan.ucIsUse then { vlan with ucIsUse := false } :: rest else vlan :: freeFirst rest

def freeSVID (_wVlanID : UInt16) (pool : TagCdcpVlanPool) : TagCdcpVlanPool :=
  { pool with tVlanPoolHead := freeFirst pool.tVlanPoolHead }

def destroyVlanPool (_pool : TagCdcpVlanPool) : TagCdcpVlanPool := ⟨[], 0, 0⟩

/-- The VLANs of a range, its end left out. -/
def vlanRange (wMinVlanID wMaxVlanID : UInt16) : List TagVlanInfo :=
  (List.range' wMinVlanID.toNat (wMaxVlanID.toNat - wMinVlanID.toNat)).map
    fun i => ⟨UInt16.ofNat i, false⟩

def createVlanPool (pool : TagCdcpVlanPool) : TagCdcpVlanPool :=
  if !pool.tVlanPoolHead.isEmpty then pool
  else { pool with tVlanPoolHead := vlanRange pool.wMinVlanID pool.wMaxVlanID }

def setVlanPool (pool : TagCdcpVlanPool) (wMinVID wMaxVID : UInt16) : TagCdcpVlanPool :=
  if wMinVID = pool.wMinVlanID ∧ wMaxVID = pool.wMaxVlanID then pool
  else
    let pool := if !pool.tVlanPoolHead.isEmpty then destroyVlanPool pool else pool
    createVlanPool { pool with wMaxVlanID := wMaxVID, wMinVlanID := wMinVID }

/-- Only the ranges are compared. -/
def compareVlanPool (pool₁ pool₂ : TagCdcpVlanPool) : Bool :=
  pool₁.wMaxVlanID = pool₂.wMaxVlanID && pool₁.wMinVlanID = pool₂.wMinVlanID

def copyVlanPool (src dest : TagCdcpVlanPool) : TagCdcpVlanPool :=
  let dest := if !dest.tVlanPoolHead.isEmpty then destroyVlanPool dest else dest
  createVlanPool { dest with wMaxVlanID := src.wMaxVlanID, wMinVlanID := src.wMinVlanID }

def setFirstUsed (wVID : UInt16) : List TagVlanInfo → List TagVlanInfo
  | [] => []
  | vlan :: rest =>
      if wVID = vlan.wVlanID then { vlan with ucIsUse := true } :: rest
      else vlan :: setFirstUsed wVID rest

def setVlanUsed (pool : TagCdcpVlanPool) (wVID : UInt16) : TagCdcpVlanPool :=
  { pool with tVlanPoolHead := setFirstUsed wVID pool.tVlanPoolHead }

end Pools

section Config

/-- The channels that are asked for, those that are there with their S-VIDs. -/
def setSVIDRequest (ucOperRole : EMCdcpRole)
    (lstAdminSVIDWants lstOperSVIDList : List TagCdcpScidSvidPair) : List TagCdcpScidSvidPair :=
  match ucOperRole with
  | .b => lstOperSVIDList
  | .s =>
      if lstOperSVIDList.isEmpty then lstAdminSVIDWants
      else
        lstAdminSVIDWants.foldl (fun list elm =>
          if !isInScidSvidList elm list then insertElmByScidAscendingOrder ⟨elm.wScid, 0⟩ list
          else list) (lstOperSVIDList.filter (isInScidSvidList · lstAdminSVIDWants))

def rxSVIDConfig (lstOperSVIDList lstLastRemoteSVIDList : List TagCdcpScidSvidPair) :
    List TagCdcpScidSvidPair :=
  lstOperSVIDList.map fun elm =>
    match getScidSvidElem elm.wScid lstLastRemoteSVIDList with
    | none => { elm with wSvid := 0 }
    | some tmpElm => { elm with wSvid := tmpElm.wSvid }

/-- The walk starts again at the head after each channel that it takes out. -/
def removeInactive (lstRemoteSVIDList : List TagCdcpScidSvidPair) :
    List TagCdcpScidSvidPair → TagCdcpVlanPool → List TagCdcpScidSvidPair × TagCdcpVlanPool
  | [], pool => ([], pool)
  | elm :: rest, pool =>
      if (1 = elm.wScid ∧ 1 = elm.wSvid) ∨ isInScidSvidList elm lstRemoteSVIDList = true then
        let (rest, pool) := removeInactive lstRemoteSVIDList rest pool
        (elm :: rest, pool)
      else removeInactive lstRemoteSVIDList rest (freeSVID elm.wSvid pool)

/-- The walk ends with the first channel that finds no S-VID. -/
def assignSVIDs : List TagCdcpScidSvidPair → List TagCdcpScidSvidPair → TagCdcpVlanPool →
    List TagCdcpScidSvidPair × TagCdcpVlanPool
  | [], lstOperSVIDList, pool => (lstOperSVIDList, pool)
  | elm :: rest, lstOperSVIDList, pool =>
      if isInScidSvidList elm lstOperSVIDList then assignSVIDs rest lstOperSVIDList pool
      else if 1 = elm.wScid then assignSVIDs rest lstOperSVIDList pool
      else
        let (wNewSVID, pool) := allocSVID pool
        if 0 = wNewSVID then (lstOperSVIDList, pool)
        else
          assignSVIDs rest
            (insertElmByScidAscendingOrder ⟨elm.wScid, wNewSVID⟩ lstOperSVIDList) pool

/-- The smaller of the two capacities is worked out, and not used. -/
def txSVIDConfig (pool : TagCdcpVlanPool)
    (lstRemoteSVIDList lstOperSVIDList : List TagCdcpScidSvidPair) :
    List TagCdcpScidSvidPair × TagCdcpVlanPool :=
  if lstOperSVIDList.isEmpty then ([⟨1, 1⟩], pool)
  else
    let (lstOperSVIDList, pool) := removeInactive lstRemoteSVIDList lstOperSVIDList pool
    assignSVIDs lstRemoteSVIDList lstOperSVIDList pool

end Config

section Machine

/-- The list of channels is freed before the walk that would set its S-VIDs free. -/
def clearCdcpRunningData (data : TagCdcpRunningData) : TagCdcpRunningData :=
  let data := { data with
    lstLastRemoteSVIDList := [], lstRemoteSVIDList := [], lstOperSVIDList := [] }
  let data :=
    match data.ucAdminRole with
    | .b =>
        { data with
          tLocalSVIDPool := data.lstOperSVIDList.foldl
            (fun pool (pair : TagCdcpScidSvidPair) =>
              if pair.wScid ≠ 1 ∨ pair.wSvid ≠ 1 then freeSVID pair.wSvid pool else pool)
            data.tLocalSVIDPool
          tLastSVIDPool := destroyVlanPool data.tLastSVIDPool }
    | .s =>
        { data with
          lstAdminSVIDWants := data.lstAdminSVIDWants.map fun (pair : TagCdcpScidSvidPair) =>
            if pair.wScid ≠ 1 ∨ pair.wSvid ≠ 1 then { pair with wSvid := 0 } else pair
          lstLastSVIDWants := [] }
  { data with
    wOperChnCap := 0
    ucOperRole := data.ucAdminRole
    bRemoteSCompEnable := false
    ucRemoteRole := data.ucAdminRole
    wRemoteChnCap := 0
    ucSchState := .notRunning
    pRxTlv := none }

def channelRequest (data : TagCdcpRunningData) : TagCdcpRunningData :=
  if data.wOperChnCap ≠ data.wAdminChnCap ∨
      compareScidSvidList data.lstAdminSVIDWants data.lstLastSVIDWants = false then
    { data with
      wOperChnCap := data.wAdminChnCap
      lstLastSVIDWants := data.lstAdminSVIDWants
      lstOperSVIDList :=
        setSVIDRequest data.ucOperRole data.lstAdminSVIDWants data.lstOperSVIDList }
  else data

def rxSVIDs (data : TagCdcpRunningData) : TagCdcpRunningData :=
  if compareScidSvidList data.lstLastRemoteSVIDList data.lstRemoteSVIDList = false then
    { data with
      lstLastRemoteSVIDList := data.lstRemoteSVIDList
      lstOperSVIDList := rxSVIDConfig data.lstOperSVIDList data.lstRemoteSVIDList
      ucSchState := .running }
  else data

def runStation (data : TagCdcpRunningData) : TagCdcpRunningData :=
  match data.ucSchState with
  | .notRunning =>
      if data.ucOperRole ≠ data.ucAdminRole then data
      else
        let data := channelRequest data
        if data.ucRemoteRole = .b then rxSVIDs data else data
  | .running =>
      if data.ucOperRole ≠ data.ucAdminRole ∨ data.ucRemoteRole ≠ .b then
        clearCdcpRunningData data
      else rxSVIDs (channelRequest data)

/-- The S-VIDs in use in the copy of the pool are marked in the pool itself. -/
def txSVIDs (data : TagCdcpRunningData) : TagCdcpRunningData :=
  let poolChanged := !compareVlanPool data.tLastSVIDPool data.tLocalSVIDPool
  let tLastSVIDPool :=
    if poolChanged then copyVlanPool data.tLocalSVIDPool data.tLastSVIDPool
    else data.tLastSVIDPool
  let listChanged := !compareScidSvidList data.lstLastRemoteSVIDList data.lstRemoteSVIDList
  let lstLastRemoteSVIDList :=
    if listChanged then data.lstRemoteSVIDList else data.lstLastRemoteSVIDList
  if poolChanged || listChanged then
    let (lstOperSVIDList, tLastSVIDPool) :=
      txSVIDConfig tLastSVIDPool data.lstRemoteSVIDList data.lstOperSVIDList
    { data with
      lstLastRemoteSVIDList, lstOperSVIDList, tLastSVIDPool
      tLocalSVIDPool := tLastSVIDPool.tVlanPoolHead.foldl (fun pool vlan =>
        if vlan.ucIsUse then setVlanUsed pool vlan.wVlanID else pool) data.tLocalSVIDPool
      ucSchState := .running }
  else data

def runBridge (data : TagCdcpRunningData) : TagCdcpRunningData :=
  match data.ucSchState with
  | .notRunning =>
      if data.ucOperRole ≠ data.ucAdminRole then data
      else
        let data := { data with wOperChnCap := data.wAdminChnCap }
        if data.ucRemoteRole = .s then txSVIDs data else data
  | .running =>
      if data.ucOperRole ≠ data.ucAdminRole ∨ data.ucRemoteRole ≠ .s then
        clearCdcpRunningData data
      else txSVIDs { data with wOperChnCap := data.wAdminChnCap }

def runCdcpSM (data : TagCdcpRunningData) : TagCdcpRunningData :=
  match data.ucAdminRole with
  | .s => runStation data
  | .b => runBridge data

end Machine

section Frames

variable (bigendian : Bool)

/-- A TLV of a frame, of whatever type; the last one, of type 0, runs the machine. -/
def cdcpRChange (enabled : Bool) (tlv : UnpackedTlv) (data : TagCdcpRunningData) :
    Option TagCdcpRunningData :=
  if tlv.type = 1 then some { data with pRxTlv := none }
  else if tlv.type = 0 then
    if data.pRxTlv.isSome then some { runCdcpSM data with pRxTlv := none } else some data
  else if tlv.type = ORG_SPECIFIC_TLV then
    if tlv.length < 4 then some { data with pRxTlv := none }
    else if tlv.info.take 3 ≠ hton24 OUI_IEEE_8021 then some data
    else if !enabled then some data
    else
      (unpackCdcpTlv bigendian tlv data).map fun done =>
        if done.ret then done.data else { done.data with pRxTlv := none }
  else some data

end Frames

end Tecs.Cdcp
