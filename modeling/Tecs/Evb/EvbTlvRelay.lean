import Tecs.Evb.EvbTlv
import Tecs.Library.Run

set_option autoImplicit false

/-! The reflective relay of a bridge port, and the four places that know of it. -/

namespace Tecs.Evbtlv

open Transition
open Tecs.Cdcp (UnpackedTlv hton24 OUI_IEEE_8021)

section Definitions

inductive PortCall
  | rchange (enabled setCml tlvStore : Bool) (tlv : UnpackedTlv)
  | ifup
  | ifdown (setCml : Bool)
  | ifadd (setCml : Bool)
  | ifdel (setCml : Bool)
  | mibDeleteObject (setCml : Bool)

def EvbPort.call (port : EvbPort) : PortCall → Option EvbPort
  | .rchange enabled setCml tlvStore tlv =>
      (evbtlvRchange enabled setCml tlvStore tlv port).map (·.port)
  | .ifup => some (evbtlvIfup port)
  | .ifdown setCml => some (evbtlvIfdown setCml port)
  | .ifadd setCml => some (evbtlvIfadd setCml port)
  | .ifdel setCml => some (evbtlvIfdel setCml port)
  | .mibDeleteObject setCml => some (evbtlvMibDeleteObject setCml port)

def PortStep (port : EvbPort) (label : PortCall) (next : EvbPort) : Prop :=
  port.call label = some next

/-- The relay bit that is advertised, against what was negotiated, the module and the hardware. -/
structure RelayAgrees (port : EvbPort) : Prop where
  negotiated : port.tNegRes.ucRRCTR = port.ptPortAttr.bRRCTR
  module : ∀ data ∈ port.data, data.t_evbtlv_info.rrctr = port.ptPortAttr.bRRCTR
  hardware : ∀ issPort ∈ port.pIssPort, issPort.dwCml = 0 ↔ port.ptPortAttr.bRRCTR = true

/-- A port that is in the module is only reset with its relay off. -/
def Quiet (port : EvbPort) : PortCall → Prop
  | .rchange _ _ _ _ | .ifup | .ifadd _ => True
  | .ifdown _ | .ifdel _ | .mibDeleteObject _ =>
      port.data.isSome = true → port.ptPortAttr.bRRCTR = false

/-- A bridge port at first, its hardware in normal mode. -/
def bridgePort (bBGID bRRCAP : Bool) (ucR ucRTE ucRWD ucRKA : UInt8) : EvbPort :=
  createEvbPort (.sbp bBGID bRRCAP false) ucR ucRTE ucRWD ucRKA (some ⟨5⟩)

end Definitions

section Negotiation

variable {own other : EvbtlvInfo} {neg : Negotiation}

/-- What a negotiation knows of the relay. -/
def Negotiation.relay (neg : Negotiation) : EvbPortAttr × Option EvbIssPort × Bool × Bool :=
  (neg.port.ptPortAttr, neg.port.pIssPort, neg.port.tNegRes.ucRRCTR, neg.info.rrctr)

theorem negotiate_relay {n : ℕ} {field : EvbtlvInfo → Fin n}
    {take : Fin n → Bool → Negotiation → Negotiation} {chg : UInt32}
    (keeps : ∀ value remote, (take value remote neg).relay = neg.relay) :
    (negotiate field take chg own other neg).relay = neg.relay := by
  rw [negotiate]
  split
  · split
    · exact keeps _ _
    · rfl
  · split
    · exact keeps _ _
    · rfl

theorem negotiateParameters_relay : (negotiateParameters own other neg).relay = neg.relay := by
  have r (neg : Negotiation) : (negotiateR own other neg).relay = neg.relay := by
    exact negotiate_relay fun _ _ => rfl
  have rte (neg : Negotiation) : (negotiateRTE own other neg).relay = neg.relay :=
    negotiate_relay fun _ _ => rfl
  have rwd (neg : Negotiation) : (negotiateRWD own other neg).relay = neg.relay := by
    refine negotiate_relay fun value remote => ?_
    rw [Negotiation.relay, Negotiation.take, Negotiation.info]
    dsimp only
    split <;> rfl
  have rka (neg : Negotiation) : (negotiateRKA own other neg).relay = neg.relay :=
    negotiate_relay fun _ _ => rfl
  rw [negotiateParameters, rka, rwd, rte, r]

theorem negotiateVIDorGID_relay : (negotiateVIDorGID own other neg).relay = neg.relay := by
  rw [negotiateVIDorGID]
  dsimp only
  split <;> rfl

end Negotiation

section Steps

variable {setCml : Bool} {port : EvbPort}

/-- What the steps need besides: a port that is not in the module has its relay off. -/
structure RelayInv (port : EvbPort) : Prop extends RelayAgrees port where
  bridge : ∃ bBGID bRRCAP bRRCTR, port.ptPortAttr = .sbp bBGID bRRCAP bRRCTR
  absent : port.data = none → port.ptPortAttr.bRRCTR = false

/-- The same of a negotiation. -/
structure Negotiation.Agrees (neg : Negotiation) : Prop where
  bridge : ∃ bBGID bRRCAP bRRCTR, neg.port.ptPortAttr = .sbp bBGID bRRCAP bRRCTR
  negotiated : neg.port.tNegRes.ucRRCTR = neg.port.ptPortAttr.bRRCTR
  module : neg.info.rrctr = neg.port.ptPortAttr.bRRCTR
  hardware : ∀ issPort ∈ neg.port.pIssPort,
    issPort.dwCml = 0 ↔ neg.port.ptPortAttr.bRRCTR = true

theorem Negotiation.Agrees.congr {neg next : Negotiation} (agrees : neg.Agrees)
    (same : next.relay = neg.relay) : next.Agrees := by
  obtain ⟨attr, iss, negotiated, module⟩ : next.port.ptPortAttr = neg.port.ptPortAttr ∧
      next.port.pIssPort = neg.port.pIssPort ∧
      next.port.tNegRes.ucRRCTR = neg.port.tNegRes.ucRRCTR ∧ next.info.rrctr = neg.info.rrctr := by
    simpa only [Negotiation.relay, Prod.mk.injEq] using same
  refine ⟨?_, ?_, ?_, ?_⟩
  · rw [attr]
    exact agrees.bridge
  · rw [attr, negotiated]
    exact agrees.negotiated
  · rw [attr, module]
    exact agrees.module
  · rw [attr, iss]
    exact agrees.hardware

theorem Negotiation.Agrees.done {neg : Negotiation} (agrees : neg.Agrees) :
    RelayInv neg.done.port := by
  have agrees' : RelayInv { neg.port with data := some neg.data } := by
    refine ⟨⟨agrees.negotiated, ?_, agrees.hardware⟩, agrees.bridge, nofun⟩
    intro data mem
    obtain rfl := Option.some.inj mem
    exact agrees.module
  rw [Negotiation.done]
  dsimp only
  split
  · exact ⟨⟨agrees'.negotiated, agrees'.module, agrees'.hardware⟩, agrees'.bridge, nofun⟩
  · exact agrees'

/-- Setting the hardware succeeds, and everything else follows it, or nothing changes. -/
theorem negotiateRRCTR_agrees {own other : EvbtlvInfo} {neg next : Negotiation}
    (agrees : neg.Agrees) (negotiated : negotiateRRCTR setCml own other neg = some next) :
    next.Agrees := by
  rw [negotiateRRCTR] at negotiated
  dsimp only at negotiated
  generalize (other.rrreq && own.rrcap) = rrctr at negotiated
  split at negotiated
  · split at negotiated
    · cases negotiated
    · next issPort there =>
      cases setCml
      · obtain rfl := Option.some.inj negotiated
        exact agrees
      · obtain rfl := Option.some.inj negotiated
        obtain ⟨bBGID, bRRCAP, bRRCTR, attr⟩ := agrees.bridge
        have set : (neg.port.ptPortAttr.setRRCTR rrctr) = .sbp bBGID bRRCAP rrctr := by
          rw [attr]
          rfl
        refine ⟨⟨bBGID, bRRCAP, rrctr, set⟩, ?_, ?_, ?_⟩
        · exact (congrArg EvbPortAttr.bRRCTR set).symm
        · exact (congrArg EvbPortAttr.bRRCTR set).symm
        · intro other mem
          change other ∈ neg.port.pIssPort.map _ at mem
          rw [there] at mem
          obtain rfl := Option.some.inj mem
          change _ ↔ (neg.port.ptPortAttr.setRRCTR rrctr).bRRCTR = true
          rw [set]
          change (if rrctr then (0 : UInt32) else 5) = 0 ↔ rrctr = true
          cases rrctr <;> decide
  · obtain rfl := Option.some.inj negotiated
    exact agrees

theorem unpack_agrees {enabled : Bool} {tlv : UnpackedTlv} {done : Unpacked}
    (inv : RelayInv port) (unpacked : evbtlvUnpack enabled setCml tlv port = some done) :
    RelayInv done.port := by
  obtain ⟨bBGID, bRRCAP, bRRCTR, attr⟩ := inv.bridge
  have mode : (evbtlvGetconfig port).evbmode = EVBSYS_TYPE_BRIDGE := by
    rw [evbtlvGetconfig, attr]
  rw [evbtlvUnpack] at unpacked
  split at unpacked
  · obtain rfl := Option.some.inj unpacked
    exact inv
  next data there =>
  dsimp only at unpacked
  split at unpacked
  · obtain rfl := Option.some.inj unpacked
    exact inv
  split at unpacked
  · cases unpacked
  split at unpacked
  · obtain rfl := Option.some.inj unpacked
    exact inv
  obtain ⟨other, _, rfl⟩ := Option.map_eq_some_iff.mp unpacked
  have start : Negotiation.Agrees ⟨port, data, 0⟩ :=
    ⟨inv.bridge, inv.negotiated, inv.module data there, inv.hardware⟩
  rw [mode]
  split
  · rw [if_neg (not_not.mpr rfl)]
    split
    · exact inv
    · next neg negotiated =>
      have relay := negotiateRRCTR_agrees start negotiated
      exact ((relay.congr negotiateVIDorGID_relay).congr negotiateParameters_relay).done
  · split
    · rw [if_pos (by decide)]
      exact inv
    · exact inv

theorem rchange_agrees {enabled tlvStore : Bool} {tlv : UnpackedTlv} {done : Unpacked}
    (inv : RelayInv port)
    (changed : evbtlvRchange enabled setCml tlvStore tlv port = some done) :
    RelayInv done.port := by
  rw [evbtlvRchange] at changed
  split at changed
  · obtain rfl := Option.some.inj changed
    exact inv
  split at changed
  · obtain rfl := Option.some.inj changed
    exact inv
  split at changed
  · split at changed
    · obtain rfl := Option.some.inj changed
      exact inv
    split at changed
    · obtain rfl := Option.some.inj changed
      exact inv
    · exact unpack_agrees inv changed
  · obtain rfl := Option.some.inj changed
    exact inv

/-- A reset clears what was negotiated, and may set the hardware back; the relay bit stays. -/
theorem setneg_bridge (setCml : Bool) (bridge : ∃ bBGID bRRCAP bRRCTR,
      port.ptPortAttr = .sbp bBGID bRRCAP bRRCTR) :
    (evbtlvSetneg setCml port).ptPortAttr = port.ptPortAttr ∧
      (evbtlvSetneg setCml port).data = port.data ∧
      (evbtlvSetneg setCml port).tNegRes.ucRRCTR = false ∧
      ((evbtlvSetneg setCml port).pIssPort = port.pIssPort ∨
        (evbtlvSetneg setCml port).pIssPort = port.pIssPort.map fun _ => ⟨5⟩) := by
  obtain ⟨bBGID, bRRCAP, bRRCTR, attr⟩ := bridge
  rw [evbtlvSetneg, attr]
  dsimp only
  split
  · exact ⟨rfl, rfl, rfl, .inl rfl⟩
  · split
    · exact ⟨rfl, rfl, rfl, .inl rfl⟩
    · cases setCml
      · exact ⟨rfl, rfl, rfl, .inl rfl⟩
      · exact ⟨rfl, rfl, rfl, .inr rfl⟩

theorem reset_agrees (inv : RelayInv port) (off : port.ptPortAttr.bRRCTR = false)
    {data : Option EvbtlvData} (clear : ∀ data' ∈ data, data'.t_evbtlv_info.rrctr = false) :
    RelayInv (evbtlvSetneg setCml { port with data }) := by
  have ⟨attr, same, negotiated, hardware⟩ :=
    setneg_bridge setCml (show ∃ bBGID bRRCAP bRRCTR, { port with data }.ptPortAttr =
      .sbp bBGID bRRCAP bRRCTR from inv.bridge)
  dsimp only at attr same hardware
  refine ⟨⟨?_, ?_, ?_⟩, ?_, ?_⟩
  · rw [attr, off, negotiated]
  · rw [attr, off, same]
    exact clear
  · intro issPort mem
    rw [attr]
    rcases hardware with stays | normal
    · rw [stays] at mem
      exact inv.hardware issPort mem
    · rw [normal] at mem
      obtain ⟨_, _, rfl⟩ := Option.map_eq_some_iff.mp mem
      rw [off]
      decide
  · rw [attr]
    exact inv.bridge
  · intro _
    rw [attr]
    exact off

end Steps

section Runs

variable {port next : EvbPort} {label : PortCall}

theorem bridgePort_agrees (bBGID bRRCAP : Bool) (ucR ucRTE ucRWD ucRKA : UInt8) :
    RelayInv (bridgePort bBGID bRRCAP ucR ucRTE ucRWD ucRKA) := by
  refine ⟨⟨rfl, nofun, ?_⟩, ⟨bBGID, bRRCAP, false, rfl⟩, fun _ => rfl⟩
  intro issPort mem
  obtain rfl := Option.some.inj mem
  change (5 : UInt32) = 0 ↔ false = true
  decide

/-- A quiet call keeps the records in step. -/
theorem call_agrees (inv : RelayInv port) (quiet : Quiet port label)
    (called : port.call label = some next) : RelayInv next := by
  cases label with
  | rchange enabled setCml tlvStore tlv =>
      obtain ⟨done, changed, rfl⟩ := Option.map_eq_some_iff.mp called
      exact rchange_agrees inv changed
  | ifup =>
      obtain rfl := Option.some.inj called
      exact inv
  | ifdown setCml =>
      obtain rfl := Option.some.inj called
      rw [evbtlvIfdown]
      split
      · exact inv
      · next data there => exact reset_agrees inv (quiet (by simp [there])) (by simp [evbtlvInit,
          EvbtlvInfo.zero])
  | ifadd setCml =>
      obtain rfl := Option.some.inj called
      rw [evbtlvIfadd]
      split
      · exact inv
      · next none => exact reset_agrees inv (inv.absent none) (by simp [EvbtlvInfo.zero])
  | ifdel setCml =>
      obtain rfl := Option.some.inj called
      rw [evbtlvIfdel]
      split
      · exact inv
      · next data there => exact reset_agrees inv (quiet (by simp [there])) nofun
  | mibDeleteObject setCml =>
      obtain rfl := Option.some.inj called
      rw [evbtlvMibDeleteObject]
      split
      · exact inv
      · next data there => exact reset_agrees inv (quiet (by simp [there])) (by simp [evbtlvInit,
          EvbtlvInfo.zero])

/-- A reset that finds the relay on leaves the relay bit alone. -/
theorem reset_quiet {setCml : Bool} {data : Option EvbtlvData} (inv : RelayInv port)
    (agrees : RelayAgrees (evbtlvSetneg setCml { port with data })) :
    port.ptPortAttr.bRRCTR = false := by
  have ⟨attr, _, negotiated, _⟩ :=
    setneg_bridge setCml (show ∃ bBGID bRRCAP bRRCTR, { port with data }.ptPortAttr =
      .sbp bBGID bRRCAP bRRCTR from inv.bridge)
  have same := agrees.negotiated
  rw [attr, negotiated] at same
  exact same.symm

theorem call_quiet (inv : RelayInv port) (called : port.call label = some next)
    (agrees : RelayAgrees next) : Quiet port label := by
  cases label with
  | rchange enabled setCml tlvStore tlv => trivial
  | ifup => trivial
  | ifadd setCml => trivial
  | ifdown setCml =>
      intro there
      obtain rfl := Option.some.inj called
      obtain ⟨data, eq⟩ := Option.isSome_iff_exists.mp there
      rw [evbtlvIfdown, eq] at agrees
      exact reset_quiet inv agrees
  | ifdel setCml =>
      intro there
      obtain rfl := Option.some.inj called
      obtain ⟨data, eq⟩ := Option.isSome_iff_exists.mp there
      rw [evbtlvIfdel, eq] at agrees
      exact reset_quiet inv agrees
  | mibDeleteObject setCml =>
      intro there
      obtain rfl := Option.some.inj called
      obtain ⟨data, eq⟩ := Option.isSome_iff_exists.mp there
      rw [evbtlvMibDeleteObject, eq] at agrees
      exact reset_quiet inv agrees

/-- The records agree in every state of a run exactly if every reset finds the relay off. -/
theorem agrees_iff_quiet (bBGID bRRCAP : Bool) (ucR ucRTE ucRWD ucRKA : UInt8)
    (labels : List PortCall) (port : EvbPort) :
    Run (Reaching RelayAgrees PortStep) (bridgePort bBGID bRRCAP ucR ucRTE ucRWD ucRKA)
        labels port ↔
      Run (Guarded Quiet PortStep) (bridgePort bBGID bRRCAP ucR ucRTE ucRWD ucRKA)
        labels port := by
  have start := bridgePort_agrees bBGID bRRCAP ucR ucRTE ucRWD ucRKA
  constructor
  · intro run
    refine run.convert start fun before label after inv taken => ?_
    have quiet := call_quiet inv taken.1 taken.2
    exact ⟨⟨quiet, taken.1⟩, call_agrees inv quiet taken.1⟩
  · intro run
    refine run.convert start fun before label after inv taken => ?_
    have inv' := call_agrees inv taken.1 taken.2
    exact ⟨⟨taken.2, inv'.toRelayAgrees⟩, inv'⟩

end Runs

section Examples

/-- The TLV of a station that asks for a reflective relay. -/
def exampleTlv : UnpackedTlv :=
  ⟨127, 9, hton24 OUI_IEEE_8021 ++ LLDP_EVBTLV_SUBTYPE ::
    (evbtlvGetconfig (createEvbPort (.urp true true) 3 20 20 20 none)).bytes⟩

def portNext (port : EvbPort) (label : PortCall) : EvbPort := (port.call label).getD port

instance (port next : EvbPort) (label : PortCall) : Decidable (PortStep port label next) :=
  inferInstanceAs (Decidable (_ = _))

/-- After the port went down the bridge still advertises its relay. -/
theorem advertised_after_ifdown :
    ¬ ∀ bBGID bRRCAP ucR ucRTE ucRWD ucRKA labels port,
      Run PortStep (bridgePort bBGID bRRCAP ucR ucRTE ucRWD ucRKA) labels port →
        RelayAgrees port := by
  intro all
  let labels : List PortCall := [.ifadd true, .rchange true true false exampleTlv, .ifdown true]
  let start := bridgePort true true 3 20 20 20
  have replays : Replays PortStep portNext start labels := by decide
  have agrees := all true true 3 20 20 20 labels _ (Run.replay replays)
  have same := agrees.negotiated
  revert same
  decide

end Examples

end Tecs.Evbtlv
