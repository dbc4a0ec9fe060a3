import Tecs.Evb.CdcpLists
import Tecs.Evb.CdcpRoundTrip

set_option autoImplicit false

/-! A station and a bridge that exchange CDCP TLVs. -/

namespace Tecs.Cdcp

section Definitions

variable (bigendian : Bool)

/-- A frame with one TLV between the first one, of type 1, and the last one, of type 0. -/
def receiveFrame (packed : PackedTlv) (data : TagCdcpRunningData) : Option TagCdcpRunningData :=
  match unpackTlv packed with
  | none => none
  | some tlv =>
      [⟨1, 0, []⟩, tlv, ⟨0, 0, []⟩].foldlM (fun data tlv =>
        cdcpRChange bigendian true tlv data) data

/-- With the list that the TLV was made of, and the round of its maker. A TLV from before the last
change has no round. -/
structure Frame where
  tlv : PackedTlv
  pairs : List TagCdcpScidSvidPair
  round : Option ℕ
deriving Repr, DecidableEq

/-- A side is in round `n + 1` after it worked on a TLV that the other side made in round `n`. The
frames of each direction arrive in order, oldest first. -/
structure Exchange where
  station : TagCdcpRunningData
  bridge : TagCdcpRunningData
  toBridge : List Frame
  toStation : List Frame
  stationRound : ℕ
  bridgeRound : ℕ
deriving Repr, DecidableEq

def Exchange.start : Exchange where
  station := initCdcpRunningData .s
  bridge := initCdcpRunningData .b
  toBridge := []
  toStation := []
  stationRound := 0
  bridgeRound := 0

/-- A wanted channel, the default one with its S-VID. -/
def wantPair (scid : UInt16) : TagCdcpScidSvidPair := if scid = 1 then ⟨1, 1⟩ else ⟨scid, 0⟩

/-- Wanted channels are without repetitions. -/
inductive ExchangeCall
  | stationConfig (wants : List UInt16) (nodup : wants.Nodup) (wAdminChnCap : UInt16)
  | bridgeConfig (wMinVID wMaxVID wAdminChnCap : UInt16)
  | stationSend
  | bridgeSend
  | stationReceive
  | bridgeReceive
  | loseToStation
  | loseToBridge

/-- After a change no frame on its way is of a round. -/
def Exchange.changed (exchange : Exchange) : Exchange :=
  { exchange with
    toBridge := exchange.toBridge.map fun frame => { frame with round := none }
    toStation := exchange.toStation.map fun frame => { frame with round := none }
    stationRound := 0
    bridgeRound := 0 }

def nextRound (round : ℕ) : Option ℕ → ℕ
  | none => round
  | some other => max round (other + 1)

/-- A change runs the machine of the port. -/
def Exchange.call (exchange : Exchange) : ExchangeCall → Option Exchange
  | .stationConfig wants _ wAdminChnCap =>
      some { exchange.changed with
        station := runCdcpSM { exchange.station with
          lstAdminSVIDWants := wants.map wantPair, wAdminChnCap } }
  | .bridgeConfig wMinVID wMaxVID wAdminChnCap =>
      some { exchange.changed with
        bridge := runCdcpSM { exchange.bridge with
          tLocalSVIDPool := setVlanPool exchange.bridge.tLocalSVIDPool wMinVID wMaxVID
          wAdminChnCap } }
  | .stationSend =>
      match buildCdcpTlv bigendian exchange.station with
      | none => some exchange
      | some tlv =>
          some { exchange with
            toBridge := exchange.toBridge ++
              [⟨tlv, exchange.station.lstOperSVIDList, some exchange.stationRound⟩] }
  | .bridgeSend =>
      match buildCdcpTlv bigendian exchange.bridge with
      | none => some exchange
      | some tlv =>
          some { exchange with
            toStation := exchange.toStation ++
              [⟨tlv, exchange.bridge.lstOperSVIDList, some exchange.bridgeRound⟩] }
  | .stationReceive =>
      match exchange.toStation with
      | [] => none
      | frame :: toStation =>
          (receiveFrame bigendian frame.tlv exchange.station).map fun station =>
            { exchange with
              station, toStation
              stationRound := nextRound exchange.stationRound frame.round }
  | .bridgeReceive =>
      match exchange.toBridge with
      | [] => none
      | frame :: toBridge =>
          (receiveFrame bigendian frame.tlv exchange.bridge).map fun bridge =>
            { exchange with
              bridge, toBridge
              bridgeRound := nextRound exchange.bridgeRound frame.round }
  | .loseToStation => some { exchange with toStation := exchange.toStation.tail }
  | .loseToBridge => some { exchange with toBridge := exchange.toBridge.tail }

def ExchangeStep (exchange : Exchange) (label : ExchangeCall) (next : Exchange) : Prop :=
  exchange.call bigendian label = some next

/-- Each side has worked on a TLV from after the last change, and once more on one that the other
side made after it had. -/
def Exchange.Exchanged (exchange : Exchange) : Prop :=
  2 ≤ exchange.stationRound ∧ 2 ≤ exchange.bridgeRound

/-- No VLAN of the pool is left to hand out. -/
def Full (pool : TagCdcpVlanPool) : Prop := ∀ vlan ∈ pool.tVlanPoolHead, vlan.ucIsUse = true

/-- The channels of the station are those it wants, with the S-VIDs of the bridge. -/
structure Exchange.Agree (exchange : Exchange) : Prop where
  wanted : ∀ scid, scid ∈ scids exchange.station.lstOperSVIDList ↔
    scid ∈ scids exchange.station.lstAdminSVIDWants
  assigned : ∀ pair ∈ exchange.station.lstOperSVIDList,
    pair.wScid ∈ scids exchange.bridge.lstOperSVIDList →
      pair ∈ exchange.bridge.lstOperSVIDList ∧ pair.wSvid ≠ 0
  others : ∀ pair ∈ exchange.station.lstOperSVIDList,
    pair.wScid ∉ scids exchange.bridge.lstOperSVIDList →
      pair.wSvid = 0 ∧ Full exchange.bridge.tLastSVIDPool

/-- What a step must find: a list that a TLV can carry; no channel wanted anew that the last list of
the bridge has; no other S-VID behind channels that compare equal; no VLAN 0 in a pool; and, for
the first list that the bridge sees, the default channel alone or an empty pool. -/
def Orderly (exchange : Exchange) : ExchangeCall → Prop
  | .stationConfig wants _ _ =>
      ∀ scid ∈ wants, scid ∉ scids exchange.station.lstOperSVIDList →
        scid ∉ scids exchange.station.lstLastRemoteSVIDList ∨
          (exchange.station.lstOperSVIDList = [] ∧ scid = 1)
  | .bridgeConfig wMinVID wMaxVID _ => 0 ∉ ids (vlanRange wMinVID wMaxVID)
  | .stationSend => Transmissible exchange.station.lstOperSVIDList
  | .bridgeSend => Transmissible exchange.bridge.lstOperSVIDList
  | .stationReceive =>
      ∀ frame ∈ exchange.toStation.head?,
        compareScidSvidList exchange.station.lstLastRemoteSVIDList frame.pairs = true →
          ∀ pair ∈ exchange.station.lstOperSVIDList,
            svidOf pair.wScid frame.pairs =
              svidOf pair.wScid exchange.station.lstLastRemoteSVIDList
  | .bridgeReceive =>
      ∀ frame ∈ exchange.toBridge.head?, exchange.bridge.lstOperSVIDList = [] →
        (∀ pair ∈ frame.pairs, pair.wScid = 1) ∨
          exchange.bridge.tLocalSVIDPool.tVlanPoolHead = []
  | .loseToStation | .loseToBridge => True

instance (exchange next : Exchange) (label : ExchangeCall) :
    Decidable (ExchangeStep bigendian exchange label next) :=
  inferInstanceAs (Decidable (_ = _))

instance (pairs : List TagCdcpScidSvidPair) : Decidable (Transmissible pairs) :=
  inferInstanceAs (Decidable ((∀ pair ∈ pairs, pair.wScid < 256 ∧ pair.wSvid < 4096) ∧ _))

instance (exchange : Exchange) : (label : ExchangeCall) → Decidable (Orderly exchange label)
  | .stationConfig wants _ _ => List.decidableBAll (fun _ => _ → _) wants
  | .bridgeConfig _ _ _ => inferInstanceAs (Decidable (_ ∉ _))
  | .stationSend => inferInstanceAs (Decidable (Transmissible _))
  | .bridgeSend => inferInstanceAs (Decidable (Transmissible _))
  | .stationReceive => inferInstanceAs (Decidable (∀ _ ∈ _, _ → _))
  | .bridgeReceive => inferInstanceAs (Decidable (∀ _ ∈ _, _ → _))
  | .loseToStation => inferInstanceAs (Decidable True)
  | .loseToBridge => inferInstanceAs (Decidable True)

end Definitions

section Receive

variable {bigendian : Bool}

/-- A TLV that can come over is worked on whole. -/
theorem receive_built {maker : TagCdcpRunningData} {tlv : PackedTlv}
    (built : buildCdcpTlv bigendian maker = some tlv)
    (transmissible : Transmissible maker.lstOperSVIDList) (data : TagCdcpRunningData) :
    ∃ rx, receiveFrame bigendian tlv data = some { runCdcpSM { data with
      pRxTlv := some rx
      ucRemoteRole := maker.ucOperRole
      bRemoteSCompEnable := maker.bSCompEnable
      wRemoteChnCap := maker.wOperChnCap
      lstRemoteSVIDList := maker.lstOperSVIDList } with pRxTlv := none } := by
  have ⟨length, long, unpacked, received⟩ := short_arrives built transmissible.2
  have arrive := (map_arrives_iff _).mpr transmissible.1
  have oui : (maker.body bigendian).take 3 = hton24 OUI_IEEE_8021 := rfl
  have first : cdcpRChange bigendian true ⟨1, 0, []⟩ data = some { data with pRxTlv := none } :=
    rfl
  have middle : cdcpRChange bigendian true ⟨ORG_SPECIFIC_TLV, length, maker.body bigendian⟩
      { data with pRxTlv := none } = some (TagCdcpRunningData.received bigendian
        { data with pRxTlv := none } maker length) := by
    rw [cdcpRChange, if_neg (show ORG_SPECIFIC_TLV ≠ 1 by decide),
      if_neg (show ORG_SPECIFIC_TLV ≠ 0 by decide), if_pos rfl,
      if_neg (UInt16.not_lt.mpr long), if_neg (not_not.mpr oui), if_neg (by simp), received]
    rfl
  rw [TagCdcpRunningData.received, arrive] at middle
  refine ⟨⟨ORG_SPECIFIC_TLV, length, maker.body bigendian⟩, ?_⟩
  rw [receiveFrame, unpacked]
  simp only [List.foldlM_cons, List.foldlM_nil, first, middle, Option.bind_eq_bind,
    Option.bind_some, Option.pure_def]
  rfl

end Receive

end Tecs.Cdcp
