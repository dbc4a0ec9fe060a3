import Tecs.Evb.EvbTlvNegotiation
import Tecs.Evb.EvbTlvRelay

set_option autoImplicit false

/-! A bridge and a station that send each other their TLVs, and what both make of the numbers. -/

namespace Tecs.Evbtlv

open Transition
open Tecs.Cdcp (UnpackedTlv PackedTlv unpackTlv hton24 OUI_IEEE_8021 ORG_SPECIFIC_TLV)

section Definitions

/-- A TLV that went out, with the configuration it was built from. -/
structure EvbFrame where
  tlv : PackedTlv
  config : EvbTlvConfig
deriving Repr, DecidableEq

/-- One side: its port, its own configuration and that of the TLV when it last worked on one since
its last reset, and the TLVs it sent, oldest first. -/
structure EvbSide where
  port : EvbPort
  last : Option (EvbTlvConfig × EvbTlvConfig)
  sent : List EvbFrame
deriving Repr, DecidableEq

inductive EvbSideLabel
  | configure (config : EvbTlvConfig)
  | send
  | receive (i : ℕ) (enabled setCml tlvStore : Bool)
  | call (call : PortCall)

def EvbPort.configure (port : EvbPort) (config : EvbTlvConfig) : EvbPort :=
  { port with
    ucR := config.ucR
    ucRTE := config.ucRTE
    ucRWD := config.ucRWD
    ucRKA := config.ucRKA }

/-- The calls that clear what was negotiated. -/
def EvbPort.resetBy (port : EvbPort) : PortCall → Bool
  | .rchange _ _ _ _ | .ifup => false
  | .ifadd _ => port.data.isNone
  | .ifdown _ | .ifdel _ | .mibDeleteObject _ => port.data.isSome

/-- A TLV is worked on if no module before did, and this one does. -/
def EvbPort.worksOn (port : EvbPort) : PortCall → Bool
  | .rchange enabled setCml tlvStore tlv =>
      !tlvStore && (evbtlvRchange enabled setCml tlvStore tlv port).any (·.tlvStore)
  | _ => false

/-- A TLV of the other side is one it sent before; with any other TLV it is not known what it was
built from. -/
def EvbSide.take (side other : EvbSide) : EvbSideLabel → Option EvbSide
  | .configure config => some { side with port := side.port.configure config }
  | .send =>
      (evbtlvGettlv side.port).map fun tlv =>
        { side with sent := side.sent ++ [⟨tlv, side.port.config⟩] }
  | .receive i enabled setCml tlvStore => do
      let frame ← other.sent[i]?
      let tlv ← unpackTlv frame.tlv
      let port ← side.port.call (.rchange enabled setCml tlvStore tlv)
      return { side with
        port := port
        last := if side.port.worksOn (.rchange enabled setCml tlvStore tlv) then
          some (side.port.config, frame.config) else side.last }
  | .call call =>
      (side.port.call call).map fun port =>
        { side with
          port := port
          last := if side.port.resetBy call || side.port.worksOn call then none else side.last }

structure EvbLink where
  bridge : EvbSide
  station : EvbSide
deriving Repr, DecidableEq

inductive EvbLinkLabel
  | bridge (label : EvbSideLabel)
  | station (label : EvbSideLabel)

def EvbLink.take (link : EvbLink) : EvbLinkLabel → Option EvbLink
  | .bridge label =>
      (link.bridge.take link.station label).map fun bridge => { link with bridge := bridge }
  | .station label =>
      (link.station.take link.bridge label).map fun station => { link with station := station }

def EvbLinkStep (link : EvbLink) (label : EvbLinkLabel) (next : EvbLink) : Prop :=
  link.take label = some next

def EvbSide.start (ptPortAttr : EvbPortAttr) (config : EvbTlvConfig)
    (pIssPort : Option EvbIssPort) : EvbSide :=
  ⟨createEvbPort ptPortAttr config.ucR config.ucRTE config.ucRWD config.ucRKA pIssPort, none, []⟩

/-- The two ports at first, the hardware of the bridge in normal mode. -/
def EvbLink.start (bBGID bRRCAP bSGrpID bRRReq : Bool) (bridge station : EvbTlvConfig) : EvbLink :=
  ⟨EvbSide.start (.sbp bBGID bRRCAP false) bridge (some ⟨5⟩),
    EvbSide.start (.urp bSGrpID bRRReq) station none⟩

/-- Each side has worked on a TLV of the other's configuration, with the configuration it has. -/
structure EvbLink.Settled (link : EvbLink) : Prop where
  bridge : link.bridge.last = some (link.bridge.port.config, link.station.port.config)
  station : link.station.last = some (link.station.port.config, link.bridge.port.config)

/-- Each side has worked on a TLV of the other's configuration. -/
structure EvbLink.Heard (link : EvbLink) : Prop where
  bridge : link.bridge.last.map (·.2) = some link.station.port.config
  station : link.station.last.map (·.2) = some link.bridge.port.config

structure EvbLink.Agreed (link : EvbLink) : Prop where
  bridge : ∀ p, link.bridge.port.tNegRes.value p =
    max (link.bridge.port.config.value p) (link.station.port.config.value p)
  station : ∀ p, link.station.port.tNegRes.value p =
    max (link.bridge.port.config.value p) (link.station.port.config.value p)

/-- What becomes of a negotiated value is in the flags that the port got. -/
def EvbPort.Reported (port next : EvbPort) : Prop :=
  ∀ p, next.tNegRes.value p ≠ port.tNegRes.value p →
    ∃ flag ∈ next.notified.drop port.notified.length, evbBitTest flag p.chg

structure EvbLink.Reported (link next : EvbLink) : Prop where
  bridge : link.bridge.port.Reported next.bridge.port
  station : link.station.port.Reported next.station.port

/-- The numbers of a configuration fit into their fields. -/
def EvbSideLabel.Fits : EvbSideLabel → Prop
  | .configure config => config.Fits
  | _ => True

/-- No number becomes 0 while the module has another value than the port. -/
def EvbSide.ZeroAgrees (side : EvbSide) : EvbSideLabel → Prop
  | .configure config =>
      ∀ data ∈ side.port.data, ∀ p, config.value p = 0 →
        data.t_evbtlv_info.value p = side.port.tNegRes.value p
  | _ => True

def EvbLinkLabel.Fits : EvbLinkLabel → Prop
  | .bridge label | .station label => label.Fits

def EvbLink.ZeroAgrees (link : EvbLink) : EvbLinkLabel → Prop
  | .bridge label => link.bridge.ZeroAgrees label
  | .station label => link.station.ZeroAgrees label

def EvbLink.Allows (link : EvbLink) (label : EvbLinkLabel) : Prop :=
  label.Fits ∧ link.ZeroAgrees label

/-- A reset of a port that has negotiated nothing. -/
def EvbSide.Silent (side : EvbSide) : EvbSideLabel → Prop
  | .call call => side.port.resetBy call = true ∧ side.port.tNegRes.ucStatus = .init
  | _ => False

def EvbLink.Silent (link : EvbLink) : EvbLinkLabel → Prop
  | .bridge label => link.bridge.Silent label
  | .station label => link.station.Silent label

end Definitions

section Work

variable {own other : EvbtlvInfo} {port : EvbPort} {data : EvbtlvData} {neg next : Negotiation}

/-- What is negotiated before the numbers leaves them alone. -/
structure Kept (neg next : Negotiation) : Prop where
  info : ∀ p, next.info.value p = neg.info.value p
  result : ∀ p, next.port.tNegRes.value p = neg.port.tNegRes.value p
  config : next.port.config = neg.port.config
  notified : next.port.notified = neg.port.notified

theorem kept_self (neg : Negotiation) : Kept neg neg :=
  ⟨fun _ => rfl, fun _ => rfl, rfl, rfl⟩

theorem Kept.trans {last : Negotiation} (first : Kept neg next) (second : Kept next last) :
    Kept neg last := by
  refine ⟨fun p => ?_, fun p => ?_, ?_, ?_⟩
  · rw [second.info, first.info]
  · rw [second.result, first.result]
  · rw [second.config, first.config]
  · rw [second.notified, first.notified]

theorem negotiateRRCTR_kept {setCml : Bool}
    (negotiated : negotiateRRCTR setCml own other neg = some next) : Kept neg next := by
  rw [negotiateRRCTR] at negotiated
  dsimp only at negotiated
  split at negotiated
  · split at negotiated
    · cases negotiated
    · cases setCml
      · obtain rfl := Option.some.inj negotiated
        exact kept_self neg
      · obtain rfl := Option.some.inj negotiated
        refine ⟨fun p => ?_, fun p => ?_, rfl, rfl⟩
        · cases p <;> rfl
        · cases p <;> rfl
  · obtain rfl := Option.some.inj negotiated
    exact kept_self neg

theorem negotiateVIDorGID_kept (own other : EvbtlvInfo) (neg : Negotiation) :
    Kept neg (negotiateVIDorGID own other neg) := by
  rw [negotiateVIDorGID]
  dsimp only
  split
  · refine ⟨fun p => ?_, fun p => ?_, rfl, rfl⟩
    · cases p <;> rfl
    · cases p <;> rfl
  · exact kept_self neg

theorem negotiateRRSTAT_kept (other : EvbtlvInfo) (neg : Negotiation) :
    Kept neg (negotiateRRSTAT other neg) := by
  rw [negotiateRRSTAT]
  by_cases differs : neg.info.rrstat ≠ if other.rrctr then 1 else 0
  · rw [if_pos differs]
    refine ⟨fun p => ?_, fun p => ?_, rfl, rfl⟩
    · cases p <;> rfl
    · cases p <;> rfl
  · rw [if_neg differs]
    exact kept_self neg

/-- What a TLV that is worked on leaves behind. -/
structure Exchanged (own other : EvbtlvInfo) (data : EvbtlvData) (port next : EvbPort) : Prop where
  info : ∃ data', next.data = some data' ∧
    ∀ p, data'.t_evbtlv_info.value p = larger own other p
  result : ∀ p, next.tNegRes.value p =
    if data.t_evbtlv_info.value p ≠ larger own other p then larger own other p
    else port.tNegRes.value p
  config : next.config = port.config
  reported : ∀ p, data.t_evbtlv_info.value p ≠ larger own other p →
    ∃ flag ∈ next.notified.drop port.notified.length, evbBitTest flag p.chg

theorem exchanged_done (kept : Kept ⟨port, data, 0⟩ neg) :
    Exchanged own other data port (negotiateParameters own other neg).done.port := by
  have worked := negotiateParameters_worked own other neg
  generalize negotiateParameters own other neg = next at worked
  have info (p : Parameter) : neg.info.value p = data.t_evbtlv_info.value p := kept.info p
  have result (p : Parameter) : neg.port.tNegRes.value p = port.tNegRes.value p := kept.result p
  have value (p : Parameter) : next.port.tNegRes.value p =
      if data.t_evbtlv_info.value p ≠ larger own other p then larger own other p
      else port.tNegRes.value p := by
    rw [worked.result, info, result]
  have config : next.port.config = port.config := by
    rw [worked.frame]
    exact kept.config
  have notified : next.port.notified = port.notified := by
    rw [worked.frame]
    exact kept.notified
  rw [Negotiation.done]
  dsimp only
  split
  · refine ⟨⟨next.data, rfl, worked.info⟩, value, config, fun p differs => ?_⟩
    have test := worked.reported p (by rw [info]; exact differs)
    refine ⟨next.flag, ?_, test⟩
    change next.flag ∈ (next.port.notified ++ [next.flag]).drop port.notified.length
    rw [notified, List.drop_left]
    exact List.mem_singleton_self _
  · next quiet =>
    refine ⟨⟨next.data, rfl, worked.info⟩, value, config, fun p differs => ?_⟩
    have test := worked.reported p (by rw [info]; exact differs)
    rw [not_not.mp quiet] at test
    exact absurd test bitTest_zero

/-- A TLV is worked on as a whole, or the port stays as it is. -/
theorem unpack_exchanged {enabled setCml : Bool} {tlv : UnpackedTlv} {done : Unpacked}
    (unpacked : evbtlvUnpack enabled setCml tlv port = some done) :
    (done.port = port ∧ done.tlvStore = false) ∨
      done.tlvStore = true ∧ ∃ data subtype bits other, port.data = some data ∧
        tlv.info.drop 3 = subtype :: bits ∧ EvbtlvInfo.ofBytes bits = some other ∧
        Exchanged (evbtlvGetconfig port) other data port done.port := by
  rw [evbtlvUnpack] at unpacked
  split at unpacked
  · obtain rfl := Option.some.inj unpacked
    exact .inl ⟨rfl, rfl⟩
  next data there =>
  dsimp only at unpacked
  split at unpacked
  · obtain rfl := Option.some.inj unpacked
    exact .inl ⟨rfl, rfl⟩
  split at unpacked
  · cases unpacked
  next subtype bits split₃ =>
  split at unpacked
  · obtain rfl := Option.some.inj unpacked
    exact .inl ⟨rfl, rfl⟩
  obtain ⟨other, read, rfl⟩ := Option.map_eq_some_iff.mp unpacked
  have all {port' : EvbPort}
      (exchanged : Exchanged (evbtlvGetconfig port) other data port port') :
      ∃ data subtype bits other, port.data = some data ∧
        tlv.info.drop 3 = subtype :: bits ∧ EvbtlvInfo.ofBytes bits = some other ∧
        Exchanged (evbtlvGetconfig port) other data port port' :=
    ⟨data, subtype, bits, other, there, split₃, read, exchanged⟩
  split
  · split
    · exact .inl ⟨rfl, rfl⟩
    · split
      · exact .inl ⟨rfl, rfl⟩
      · next neg negotiated =>
        have kept := (negotiateRRCTR_kept negotiated).trans
          (negotiateVIDorGID_kept (evbtlvGetconfig port) other neg)
        exact .inr ⟨rfl, all (exchanged_done kept)⟩
  · split
    · split
      · exact .inl ⟨rfl, rfl⟩
      · exact .inr ⟨rfl, all (exchanged_done (negotiateRRSTAT_kept other _))⟩
    · exact .inl ⟨rfl, rfl⟩

theorem rchange_exchanged {enabled setCml tlvStore : Bool} {tlv : UnpackedTlv} {done : Unpacked}
    (changed : evbtlvRchange enabled setCml tlvStore tlv port = some done) :
    (done.port = port ∧ (!tlvStore && done.tlvStore) = false) ∨
      (!tlvStore && done.tlvStore) = true ∧ ∃ data subtype bits other, port.data = some data ∧
        tlv.info.drop 3 = subtype :: bits ∧ EvbtlvInfo.ofBytes bits = some other ∧
        Exchanged (evbtlvGetconfig port) other data port done.port := by
  have same : (!tlvStore && tlvStore) = false := by cases tlvStore <;> rfl
  rw [evbtlvRchange] at changed
  split at changed
  · next stored =>
    obtain rfl := Option.some.inj changed
    exact .inl ⟨rfl, same⟩
  next fresh =>
  split at changed
  · obtain rfl := Option.some.inj changed
    exact .inl ⟨rfl, same⟩
  split at changed
  · split at changed
    · obtain rfl := Option.some.inj changed
      exact .inl ⟨rfl, same⟩
    split at changed
    · obtain rfl := Option.some.inj changed
      exact .inl ⟨rfl, same⟩
    · rcases unpack_exchanged changed with ⟨stays, unused⟩ | ⟨used, worked⟩
      · exact .inl ⟨stays, by simp [unused]⟩
      · exact .inr ⟨by simp [used, Bool.eq_false_iff.mpr fresh], worked⟩
  · obtain rfl := Option.some.inj changed
    exact .inl ⟨rfl, same⟩

end Work

section Resets

variable {port next : EvbPort}

theorem evbSetCml_fields (success : Bool) (dwCml : UInt32) (port : EvbPort) :
    (evbSetCml success dwCml port).2.tNegRes = port.tNegRes ∧
      (evbSetCml success dwCml port).2.config = port.config ∧
      (evbSetCml success dwCml port).2.data = port.data ∧
      (evbSetCml success dwCml port).2.notified = port.notified := by
  cases success <;> exact ⟨rfl, rfl, rfl, rfl⟩

/-- What a reset makes of the port; it is reported where something had been negotiated. -/
structure Configured (port next : EvbPort) : Prop where
  result : ∀ p, next.tNegRes.value p = port.config.value p
  config : next.config = port.config
  data : next.data = port.data
  reported : port.tNegRes.ucStatus ≠ .init → next.notified = port.notified ++ [EVBTLV_CHG_ALL]

theorem setneg_configured (setCml : Bool) (port : EvbPort) :
    Configured port (evbtlvSetneg setCml port) := by
  have value (p : Parameter) (tNegRes : EvbTlvNegResult)
      (same : (tNegRes.ucEcpMaxRetries, tNegRes.ucRTE, tNegRes.ucRWD, tNegRes.ucRKA) =
        (port.ucR, port.ucRTE, port.ucRWD, port.ucRKA)) :
      tNegRes.value p = port.config.value p := by
    simp only [Prod.mk.injEq] at same
    obtain ⟨r, rte, rwd, rka⟩ := same
    cases p
    · exact congrArg UInt8.toNat r
    · exact congrArg UInt8.toNat rte
    · exact congrArg UInt8.toNat rwd
    · exact congrArg UInt8.toNat rka
  rw [evbtlvSetneg]
  dsimp only
  split
  · split
    · next init => exact ⟨fun p => value p _ rfl, rfl, rfl, fun there => absurd init there⟩
    · split
      · exact ⟨fun p => value p _ rfl, rfl, rfl, fun _ => rfl⟩
      · obtain ⟨result, config, data, notified⟩ := evbSetCml_fields setCml 5
          (evbtlvChgNotify EVBTLV_CHG_ALL { port with
            tNegRes := { port.tNegRes with
              ucEcpMaxRetries := port.ucR
              ucRTE := port.ucRTE
              ucRWD := port.ucRWD
              ucRKA := port.ucRKA
              ucRRCTR := false
              ucVIDorGID := false
              ucStatus := .init } })
        refine ⟨fun p => ?_, config, data, fun _ => notified⟩
        rw [result]
        exact value p _ rfl
  · split
    · next init => exact ⟨fun p => value p _ rfl, rfl, rfl, fun there => absurd init there⟩
    · exact ⟨fun p => value p _ rfl, rfl, rfl, fun _ => rfl⟩

theorem zero_value (p : Parameter) : EvbtlvInfo.zero.value p = 0 := by
  cases p <;> rfl

/-- A reset leaves the configured values to the port, and nothing to the module. -/
structure Reset (port next : EvbPort) : Prop where
  result : ∀ p, next.tNegRes.value p = port.config.value p
  config : next.config = port.config
  data : ∀ data ∈ next.data, ∀ p, data.t_evbtlv_info.value p = 0
  reported : port.tNegRes.ucStatus ≠ .init → next.notified = port.notified ++ [EVBTLV_CHG_ALL]

theorem setneg_reset (setCml : Bool) {data : Option EvbtlvData}
    (clear : ∀ data' ∈ data, data'.t_evbtlv_info = .zero) :
    Reset port (evbtlvSetneg setCml { port with data }) := by
  have configured := setneg_configured setCml { port with data }
  refine ⟨configured.result, configured.config, fun data' mem p => ?_, configured.reported⟩
  rw [configured.data] at mem
  rw [clear data' mem]
  exact zero_value p

/-- A call that works on no TLV resets the port or does nothing. -/
theorem call_resets {call : PortCall} (called : port.call call = some next)
    (unworked : port.worksOn call = false) :
    if port.resetBy call then Reset port next else next = port := by
  cases call with
  | rchange enabled setCml tlvStore tlv =>
      obtain ⟨done, changed, rfl⟩ := Option.map_eq_some_iff.mp called
      rw [EvbPort.worksOn, changed] at unworked
      rcases rchange_exchanged changed with ⟨stays, -⟩ | ⟨used, -⟩
      · exact stays
      · exact absurd (used.symm.trans unworked) (by decide)
  | ifup =>
      obtain rfl := Option.some.inj called
      rfl
  | ifdown setCml =>
      obtain rfl := Option.some.inj called
      rw [evbtlvIfdown, EvbPort.resetBy]
      cases there : port.data with
      | none => rfl
      | some data => exact setneg_reset setCml (by simp [evbtlvInit])
  | ifadd setCml =>
      obtain rfl := Option.some.inj called
      rw [evbtlvIfadd, EvbPort.resetBy]
      cases there : port.data with
      | none => exact setneg_reset setCml (by simp)
      | some data => rfl
  | ifdel setCml =>
      obtain rfl := Option.some.inj called
      rw [evbtlvIfdel, EvbPort.resetBy]
      cases there : port.data with
      | none => rfl
      | some data => exact setneg_reset setCml (by simp)
  | mibDeleteObject setCml =>
      obtain rfl := Option.some.inj called
      rw [evbtlvMibDeleteObject, EvbPort.resetBy]
      cases there : port.data with
      | none => rfl
      | some data => exact setneg_reset setCml (by simp [evbtlvInit])

theorem bitTest_all (p : Parameter) : evbBitTest EVBTLV_CHG_ALL p.chg := by
  rw [evbBitTest]
  cases p <;> decide

theorem call_exchanges {call : PortCall} (called : port.call call = some next)
    (worked : port.worksOn call = true) :
    ∃ enabled setCml tlvStore tlv, call = .rchange enabled setCml tlvStore tlv ∧
      ∃ data subtype bits other, port.data = some data ∧
        tlv.info.drop 3 = subtype :: bits ∧ EvbtlvInfo.ofBytes bits = some other ∧
        Exchanged (evbtlvGetconfig port) other data port next := by
  cases call with
  | rchange enabled setCml tlvStore tlv =>
      obtain ⟨done, changed, rfl⟩ := Option.map_eq_some_iff.mp called
      refine ⟨enabled, setCml, tlvStore, tlv, rfl, ?_⟩
      rw [EvbPort.worksOn, changed] at worked
      rcases rchange_exchanged changed with ⟨-, unused⟩ | ⟨-, exchanged⟩
      · exact absurd (worked.symm.trans unused) (by decide)
      · exact exchanged
  | _ => cases worked

/-- A changed value is in the flags, unless a port that had negotiated nothing is reset. -/
theorem call_reported {call : PortCall} (called : port.call call = some next)
    (loud : ¬ (port.resetBy call = true ∧ port.tNegRes.ucStatus = .init)) :
    port.Reported next := by
  intro p changed
  cases worked : port.worksOn call with
  | true =>
      obtain ⟨_, _, _, _, _, data, _, _, other, _, _, _, exchanged⟩ := call_exchanges called worked
      refine exchanged.reported p fun same => changed ?_
      rw [exchanged.result, if_neg (not_not.mpr same)]
  | false =>
      have resets := call_resets called worked
      split at resets
      · next reset =>
        have notified := resets.reported fun init => loud ⟨reset, init⟩
        refine ⟨EVBTLV_CHG_ALL, ?_, bitTest_all p⟩
        rw [notified, List.drop_left]
        exact List.mem_singleton_self _
      · rw [resets] at changed
        exact absurd rfl changed

end Resets

section Sides

variable {side other next : EvbSide} {label : EvbSideLabel}

/-- A TLV comes from a port of the configuration that is noted with it. -/
structure EvbFrame.Made (frame : EvbFrame) : Prop where
  fits : frame.config.Fits
  maker : ∃ port : EvbPort, port.config = frame.config ∧ evbtlvGettlv port = some frame.tlv

/-- The module and the port have the same value, or the module has none yet and is about to take
one over. -/
structure EvbSide.Inv (side : EvbSide) : Prop where
  fits : side.port.config.Fits
  mirror : ∀ data ∈ side.port.data, ∀ p,
    data.t_evbtlv_info.value p = side.port.tNegRes.value p ∨
      data.t_evbtlv_info.value p = 0 ∧ side.port.config.value p ≠ 0
  last : ∀ own heard, side.last = some (own, heard) →
    ∀ p, side.port.tNegRes.value p = max (own.value p) (heard.value p)
  sent : ∀ frame ∈ side.sent, frame.Made

/-- Where the module has the larger value already, so has the port. -/
theorem Exchanged.result_larger {info : EvbtlvInfo} {data : EvbtlvData} {port : EvbPort}
    (inv : side.Inv) (there : side.port.data = some data)
    (exchanged : Exchanged (evbtlvGetconfig side.port) info data side.port port) (p : Parameter) :
    port.tNegRes.value p = larger (evbtlvGetconfig side.port) info p := by
  rw [exchanged.result]
  split
  · rfl
  · next same =>
    have same := not_not.mp same
    rcases inv.mirror data there p with equal | ⟨zero, positive⟩
    · rw [← equal, same]
    · have own : side.port.config.value p ≤ larger (evbtlvGetconfig side.port) info p := by
        rw [← getconfig_value inv.fits p]
        exact Nat.le_max_left _ _
      omega

/-- What a TLV of any maker does to a side. -/
theorem EvbSide.Inv.exchange {info : EvbtlvInfo} {data : EvbtlvData} {port : EvbPort}
    {last : Option (EvbTlvConfig × EvbTlvConfig)} (inv : side.Inv)
    (there : side.port.data = some data)
    (exchanged : Exchanged (evbtlvGetconfig side.port) info data side.port port)
    (known : ∀ own heard, last = some (own, heard) →
      ∀ p, larger (evbtlvGetconfig side.port) info p = max (own.value p) (heard.value p)) :
    EvbSide.Inv { side with port := port, last := last } := by
  have result := Exchanged.result_larger inv there exchanged
  obtain ⟨data', there', values⟩ := exchanged.info
  refine ⟨?_, fun found mem p => ?_, fun own heard eq p => ?_, inv.sent⟩
  · change port.config.Fits
    rw [exchanged.config]
    exact inv.fits
  · obtain rfl := Option.some.inj (there'.symm.trans mem)
    left
    rw [values]
    exact (result p).symm
  · exact (result p).trans (known own heard eq p)

theorem EvbSide.Inv.reset {port : EvbPort} (inv : side.Inv) (reset : Reset side.port port) :
    EvbSide.Inv { side with port := port, last := none } := by
  refine ⟨?_, fun data mem p => ?_, nofun, inv.sent⟩
  · change port.config.Fits
    rw [reset.config]
    exact inv.fits
  · have zero := reset.data data mem p
    have result := reset.result p
    change _ = port.tNegRes.value p ∨ _ = 0 ∧ port.config.value p ≠ 0
    rw [zero, result, reset.config]
    omega

/-- The information of a TLV that comes in is that of its maker. -/
theorem EvbFrame.Made.arrives {frame : EvbFrame} (made : frame.Made) {tlv : UnpackedTlv}
    (arrived : unpackTlv frame.tlv = some tlv) {subtype : UInt8} {bits : List UInt8}
    {info : EvbtlvInfo} (bytes : tlv.info.drop 3 = subtype :: bits)
    (read : EvbtlvInfo.ofBytes bits = some info) (p : Parameter) :
    info.value p = frame.config.value p := by
  obtain ⟨maker, config, built⟩ := made.maker
  rw [gettlv_arrives built] at arrived
  obtain rfl := Option.some.inj arrived
  obtain ⟨-, rfl⟩ := List.cons.inj bytes
  rw [ofBytes_bytes] at read
  obtain rfl := Option.some.inj read
  rw [← config]
  exact getconfig_value (config ▸ made.fits) p

theorem EvbSide.Inv.configure (inv : side.Inv) {config : EvbTlvConfig}
    (fits : config.Fits) (zeros : side.ZeroAgrees (.configure config)) :
    EvbSide.Inv { side with port := side.port.configure config } := by
  refine ⟨fits, fun data mem p => ?_, inv.last, inv.sent⟩
  change data.t_evbtlv_info.value p = side.port.tNegRes.value p ∨
    data.t_evbtlv_info.value p = 0 ∧ config.value p ≠ 0
  rcases inv.mirror data mem p with equal | ⟨zero, -⟩
  · exact .inl equal
  · by_cases none : config.value p = 0
    · exact .inl (zeros data mem p none)
    · exact .inr ⟨zero, none⟩

theorem EvbSide.Inv.send (inv : side.Inv) {tlv : PackedTlv}
    (built : evbtlvGettlv side.port = some tlv) :
    EvbSide.Inv { side with sent := side.sent ++ [⟨tlv, side.port.config⟩] } := by
  refine ⟨inv.fits, inv.mirror, inv.last, fun frame mem => ?_⟩
  rcases List.mem_append.mp mem with old | new
  · exact inv.sent frame old
  · obtain rfl := List.mem_singleton.mp new
    exact ⟨inv.fits, side.port, rfl, built⟩

/-- Every step keeps what holds of a side. -/
theorem EvbSide.Inv.take (inv : side.Inv) (made : ∀ frame ∈ other.sent, frame.Made)
    (fits : label.Fits) (zeros : side.ZeroAgrees label)
    (taken : side.take other label = some next) : next.Inv := by
  cases label with
  | configure config =>
      obtain rfl := Option.some.inj taken
      exact inv.configure fits zeros
  | send =>
      obtain ⟨tlv, built, rfl⟩ := Option.map_eq_some_iff.mp taken
      exact inv.send built
  | receive i enabled setCml tlvStore =>
      simp only [EvbSide.take, Option.bind_eq_bind, Option.bind_eq_some_iff, Option.pure_def,
        Option.some.injEq] at taken
      obtain ⟨frame, sent, tlv, arrived, port, called, rfl⟩ := taken
      have from_other := made frame (List.mem_of_getElem? sent)
      cases worked : side.port.worksOn (.rchange enabled setCml tlvStore tlv) with
      | true =>
          obtain ⟨_, _, _, _, same, data, subtype, bits, info, there, bytes, read, exchanged⟩ :=
            call_exchanges called worked
          cases same
          refine inv.exchange there exchanged fun own heard eq p => ?_
          cases eq
          rw [larger, getconfig_value inv.fits, from_other.arrives arrived bytes read]
      | false =>
          have stays := call_resets called worked
          rw [EvbPort.resetBy] at stays
          obtain rfl : port = side.port := stays
          exact inv
  | call call =>
      obtain ⟨port, called, rfl⟩ := Option.map_eq_some_iff.mp taken
      cases worked : side.port.worksOn call with
      | true =>
          obtain ⟨_, _, _, _, rfl, data, _, _, info, there, _, _, exchanged⟩ :=
            call_exchanges called worked
          rw [Bool.or_true, if_pos rfl]
          exact inv.exchange there exchanged (by simp)
      | false =>
          have resets := call_resets called worked
          rw [Bool.or_false]
          split
          · next reset =>
            rw [if_pos reset] at resets
            exact inv.reset resets
          · next other =>
            rw [if_neg other] at resets
            rw [resets]
            exact inv

theorem take_reported (taken : side.take other label = some next) (loud : ¬ side.Silent label) :
    side.port.Reported next.port := by
  cases label with
  | configure config =>
      obtain rfl := Option.some.inj taken
      exact fun _ changed => absurd rfl changed
  | send =>
      obtain ⟨tlv, built, rfl⟩ := Option.map_eq_some_iff.mp taken
      exact fun _ changed => absurd rfl changed
  | receive i enabled setCml tlvStore =>
      simp only [EvbSide.take, Option.bind_eq_bind, Option.bind_eq_some_iff, Option.pure_def,
        Option.some.injEq] at taken
      obtain ⟨frame, sent, tlv, arrived, port, called, rfl⟩ := taken
      exact call_reported called fun silent => by cases silent.1
  | call call =>
      obtain ⟨port, called, rfl⟩ := Option.map_eq_some_iff.mp taken
      exact call_reported called loud

end Sides

section Runs

variable {bBGID bRRCAP bSGrpID bRRReq : Bool} {bridge station : EvbTlvConfig} {link next : EvbLink}
  {label : EvbLinkLabel} {labels : List EvbLinkLabel}

theorem start_inv (ptPortAttr : EvbPortAttr) {config : EvbTlvConfig} (fits : config.Fits)
    (pIssPort : Option EvbIssPort) : (EvbSide.start ptPortAttr config pIssPort).Inv :=
  ⟨fits, nofun, nofun, nofun⟩

structure EvbLink.Inv (link : EvbLink) : Prop where
  bridge : link.bridge.Inv
  station : link.station.Inv

theorem EvbLink.Inv.step (inv : link.Inv) (allowed : link.Allows label)
    (taken : EvbLinkStep link label next) : next.Inv := by
  cases label with
  | bridge label =>
      obtain ⟨side, called, rfl⟩ := Option.map_eq_some_iff.mp taken
      exact ⟨inv.bridge.take inv.station.sent allowed.1 allowed.2 called, inv.station⟩
  | station label =>
      obtain ⟨side, called, rfl⟩ := Option.map_eq_some_iff.mp taken
      exact ⟨inv.bridge, inv.station.take inv.bridge.sent allowed.1 allowed.2 called⟩

theorem EvbLink.Inv.run (bridgeFits : bridge.Fits) (stationFits : station.Fits)
    (run : Run (Guarded EvbLink.Allows EvbLinkStep)
      (.start bBGID bRRCAP bSGrpID bRRReq bridge station) labels link) : link.Inv :=
  run.invariant ⟨start_inv _ bridgeFits _, start_inv _ stationFits _⟩
    fun _ _ _ inv taken => inv.step taken.1 taken.2

theorem EvbLink.Inv.agreed (inv : link.Inv) (settled : link.Settled) : link.Agreed := by
  refine ⟨inv.bridge.last _ _ settled.bridge, fun p => ?_⟩
  rw [inv.station.last _ _ settled.station, Nat.max_comm]

theorem step_reported (taken : EvbLinkStep link label next) (loud : ¬ link.Silent label) :
    link.Reported next := by
  cases label with
  | bridge label =>
      obtain ⟨side, called, rfl⟩ := Option.map_eq_some_iff.mp taken
      exact ⟨take_reported called loud, fun _ changed => absurd rfl changed⟩
  | station label =>
      obtain ⟨side, called, rfl⟩ := Option.map_eq_some_iff.mp taken
      exact ⟨fun _ changed => absurd rfl changed, take_reported called loud⟩

/-- Both sides negotiate the larger values, once each has worked on a TLV of the other's
configuration with its own present one; what changes is reported where it was negotiated. -/
theorem settled_agreed (bridgeFits : bridge.Fits) (stationFits : station.Fits)
    (run : Run (Guarded EvbLink.Allows EvbLinkStep)
      (.start bBGID bRRCAP bSGrpID bRRReq bridge station) labels link) :
    (link.Settled → link.Agreed) ∧
      ∀ label next, EvbLinkStep link label next → ¬ link.Silent label → link.Reported next :=
  ⟨(EvbLink.Inv.run bridgeFits stationFits run).agreed, fun _ _ => step_reported⟩

end Runs

section Examples

instance {P : Parameter → Prop} [DecidablePred P] : Decidable (∀ p, P p) :=
  decidable_of_iff (P .r ∧ P .rte ∧ P .rwd ∧ P .rka)
    ⟨fun ⟨r, rte, rwd, rka⟩ p => by cases p <;> assumption,
      fun all => ⟨all .r, all .rte, all .rwd, all .rka⟩⟩

instance (config : EvbTlvConfig) : Decidable config.Fits :=
  inferInstanceAs (Decidable (∀ p, config.value p < Parameter.bound p))

instance (label : EvbLinkLabel) : Decidable label.Fits :=
  match label with
  | .bridge (.configure config) | .station (.configure config) =>
      inferInstanceAs (Decidable config.Fits)
  | .bridge .send | .station .send | .bridge (.receive _ _ _ _) | .station (.receive _ _ _ _)
  | .bridge (.call _) | .station (.call _) => isTrue trivial

instance (side : EvbSide) (config : EvbTlvConfig) :
    Decidable (side.ZeroAgrees (.configure config)) :=
  inferInstanceAs (Decidable (∀ data ∈ side.port.data, ∀ p, config.value p = 0 →
    data.t_evbtlv_info.value p = side.port.tNegRes.value p))

instance (link : EvbLink) (label : EvbLinkLabel) : Decidable (link.ZeroAgrees label) :=
  match label with
  | .bridge (.configure config) =>
      inferInstanceAs (Decidable (link.bridge.ZeroAgrees (.configure config)))
  | .station (.configure config) =>
      inferInstanceAs (Decidable (link.station.ZeroAgrees (.configure config)))
  | .bridge .send | .station .send | .bridge (.receive _ _ _ _) | .station (.receive _ _ _ _)
  | .bridge (.call _) | .station (.call _) => isTrue trivial

instance (link : EvbLink) (label : EvbLinkLabel) : Decidable (link.Allows label) :=
  inferInstanceAs (Decidable (_ ∧ _))

instance (link next : EvbLink) (label : EvbLinkLabel) : Decidable (EvbLinkStep link label next) :=
  inferInstanceAs (Decidable (_ = _))

def linkNext (link : EvbLink) (label : EvbLinkLabel) : EvbLink := (link.take label).getD link

def exampleStart : EvbLink := .start true true true true ⟨3, 20, 20, 20⟩ ⟨3, 20, 20, 20⟩

def exampleAdded : List EvbLinkLabel :=
  [.bridge (.call (.ifadd true)), .station (.call (.ifadd true))]

def exampleExchange (i j : ℕ) : List EvbLinkLabel :=
  [.bridge .send, .station .send, .bridge (.receive i true true false),
    .station (.receive j true true false)]

def exampleReconfigured (config : EvbTlvConfig) : List EvbLinkLabel :=
  exampleAdded ++ exampleExchange 0 0 ++ .bridge (.configure config) :: exampleExchange 1 1

/-- After a change of the bridge both work on a TLV of the other again. -/
theorem larger_after_change :
    ((exampleReconfigured ⟨5, 25, 20, 10⟩).foldl linkNext exampleStart).Agreed := by
  have fits : EvbTlvConfig.Fits ⟨3, 20, 20, 20⟩ := by decide
  have replays : Replays (Guarded EvbLink.Allows EvbLinkStep) linkNext exampleStart
      (exampleReconfigured ⟨5, 25, 20, 10⟩) := by decide
  refine (settled_agreed fits fits (Run.replay replays)).1 ⟨?_, ?_⟩
  · decide
  · decide

/-- A bridge that changed its own number keeps what it negotiated until the next TLV; a number above
the field does not arrive, and one that becomes 0 right after a reset is not taken over; a port
that was just added tells nobody. -/
theorem heard_not_agreed :
    (¬ ∀ bBGID bRRCAP bSGrpID bRRReq bridge station labels link,
        bridge.Fits → station.Fits → Run (Guarded EvbLink.Allows EvbLinkStep)
          (.start bBGID bRRCAP bSGrpID bRRReq bridge station) labels link →
        link.Heard → link.Agreed) ∧
      (¬ ∀ bBGID bRRCAP bSGrpID bRRReq bridge station labels link,
        bridge.Fits → station.Fits → Run (Guarded (fun _ label => label.Fits) EvbLinkStep)
          (.start bBGID bRRCAP bSGrpID bRRReq bridge station) labels link →
        link.Settled → link.Agreed) ∧
      (¬ ∀ bBGID bRRCAP bSGrpID bRRReq bridge station labels link,
        bridge.Fits → station.Fits → Run (Guarded EvbLink.ZeroAgrees EvbLinkStep)
          (.start bBGID bRRCAP bSGrpID bRRReq bridge station) labels link →
        link.Settled → link.Agreed) ∧
      ¬ ∀ bBGID bRRCAP bSGrpID bRRReq bridge station labels link label next,
        bridge.Fits → station.Fits → Run (Guarded EvbLink.Allows EvbLinkStep)
          (.start bBGID bRRCAP bSGrpID bRRReq bridge station) labels link →
        EvbLinkStep link label next → link.Reported next := by
  have fits : EvbTlvConfig.Fits ⟨3, 20, 20, 20⟩ := by decide
  refine ⟨fun all => ?_, fun all => ?_, fun all => ?_, fun all => ?_⟩
  · let labels := exampleAdded ++ exampleExchange 0 0 ++
      [.bridge (.configure ⟨5, 20, 20, 20⟩), .bridge .send, .station (.receive 1 true true false)]
    have replays : Replays (Guarded EvbLink.Allows EvbLinkStep) linkNext exampleStart labels := by
      decide
    have heard : (labels.foldl linkNext exampleStart).Heard :=
      ⟨by decide, by decide⟩
    have agreed := (all _ _ _ _ _ _ _ _ fits fits (Run.replay replays) heard).bridge .r
    revert agreed
    decide
  · let labels : List EvbLinkLabel := exampleAdded ++
      .bridge (.configure ⟨0, 20, 20, 20⟩) :: .station (.configure ⟨0, 20, 20, 20⟩) ::
        exampleExchange 0 0
    have replays : Replays (Guarded (fun _ label => label.Fits) EvbLinkStep) linkNext exampleStart
        labels := by
      decide
    have settled : (labels.foldl linkNext exampleStart).Settled :=
      ⟨by decide, by decide⟩
    have agreed := (all _ _ _ _ _ _ _ _ fits fits (Run.replay replays) settled).bridge .r
    revert agreed
    decide
  · let labels := exampleReconfigured ⟨9, 20, 20, 20⟩
    have replays : Replays (Guarded EvbLink.ZeroAgrees EvbLinkStep) linkNext exampleStart
        labels := by
      decide
    have settled : (labels.foldl linkNext exampleStart).Settled :=
      ⟨by decide, by decide⟩
    have agreed := (all _ _ _ _ _ _ _ _ fits fits (Run.replay replays) settled).bridge .r
    revert agreed
    decide
  · have reported := all true true true true _ _ [] exampleStart
      (.bridge (.call (.ifadd true))) _ fits fits .refl rfl
    obtain ⟨flag, mem, -⟩ := reported.bridge .r (by decide)
    revert mem
    change ¬ flag ∈ []
    exact List.not_mem_nil

end Examples

end Tecs.Evbtlv
