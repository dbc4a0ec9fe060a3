import Tecs.Lldp.LldpFrame
import Tecs.Lldp.LldpPeriod

set_option autoImplicit false

/-! A port that transmits hands a frame to the driver in every interval, if the TLVs of its modules
fit into one. -/

namespace Tecs.Lldp

open Tecs.Cdcp (PackedTlv)

section Definitions

def blockSize : Option PackedTlv → ℕ
  | none => 0
  | some ptlv => ptlv.size.toNat

/-- The blocks of the modules fit between the longest mandatory TLVs and the End TLV. -/
def Roomy (env : Surroundings) : Prop :=
  ETH_HDR_LEN + MAND_MAX_LEN + (env.gettlv.map blockSize).sum + 2 ≤ ETH_MAX_DATA_LEN

instance (env : Surroundings) : Decidable (Roomy env) := inferInstanceAs (Decidable (_ ≤ _))

/-- An information frame that there was to send. -/
def Transmission.isFrame : Transmission → Bool
  | .info frame => frame.isSome
  | .shutdown _ => false

/-- The information frames that a number of calls handed to the driver. -/
def frames (sent : List (List Transmission)) : ℕ := sent.flatten.countP (·.isFrame)

/-- The frame was made, if it is one of information. -/
def Transmission.Made (transmission : Transmission) : Prop :=
  transmission.isInfo = true → transmission.isFrame = true

/-- The mandatory TLVs of a port are ones that were built. -/
def Built (port : LldpPort) : Prop :=
  ∀ md, port.mand = some md → ∃ builder : LldpPort, md = mandBldTlv builder

end Definitions

section Frames

variable {env : Surroundings} {port : LldpPort} {frame : List UInt8}

theorem appendTlv_made {block : Option PackedTlv}
    (sized : ∀ ptlv, block = some ptlv → ptlv.tlv.length = ptlv.size.toNat)
    (room : frame.length + blockSize block ≤ ETH_MAX_DATA_LEN) :
    ∃ next, appendTlv frame block = some next ∧ next.length = frame.length + blockSize block := by
  cases block with
  | none => exact ⟨frame, rfl, rfl⟩
  | some ptlv =>
      have fits : ¬ ptlv.size.toNat + frame.length > ETH_MAX_DATA_LEN := by
        rw [Nat.add_comm]
        exact Nat.not_lt.mpr room
      refine ⟨frame ++ ptlv.tlv, if_neg fits, ?_⟩
      rw [List.length_append, sized ptlv rfl]
      rfl

theorem appendTlv_all_made : ∀ {blocks : List (Option PackedTlv)} {frame : List UInt8},
    (∀ ptlv, some ptlv ∈ blocks → ptlv.tlv.length = ptlv.size.toNat) →
    frame.length + (blocks.map blockSize).sum ≤ ETH_MAX_DATA_LEN →
    ∃ last, blocks.foldlM appendTlv frame = some last ∧
      last.length = frame.length + (blocks.map blockSize).sum := by
  intro blocks
  induction blocks with
  | nil => exact fun _ _ => ⟨_, rfl, rfl⟩
  | cons block blocks ih =>
      intro frame sized room
      rw [List.map_cons, List.sum_cons] at room ⊢
      have first : frame.length + blockSize block ≤ ETH_MAX_DATA_LEN := by omega
      obtain ⟨next, appended, long⟩ := appendTlv_made
        (fun ptlv same => sized ptlv (same ▸ List.mem_cons_self)) first
      have others : next.length + (blocks.map blockSize).sum ≤ ETH_MAX_DATA_LEN := by omega
      obtain ⟨last, rest, length⟩ := ih (fun ptlv member => sized ptlv (.tail _ member)) others
      refine ⟨last, ?_, by omega⟩
      rw [List.foldlM_cons, appended]
      exact rest

theorem finishFrame_made (room : frame.length + 2 ≤ ETH_MAX_DATA_LEN) :
    (finishFrame frame).isSome = true := by
  have ending : packEndTlv = some ⟨2, tlvBytes ⟨END_OF_LLDPDU_TLV, 0, []⟩⟩ := rfl
  obtain ⟨last, appended, -⟩ := @appendTlv_made frame
    (some ⟨2, tlvBytes ⟨END_OF_LLDPDU_TLV, 0, []⟩⟩) (fun ptlv same => by cases same; rfl) room
  rw [finishFrame, ending]
  dsimp only
  rw [appended, Option.isSome_map]
  rfl

/-- A port without an address has no mandatory TLVs to send. -/
theorem mandGettlv_small (built : Built port) : blockSize (mandGettlv port) ≤ MAND_MAX_LEN ∧
    ∀ ptlv, mandGettlv port = some ptlv → ptlv.tlv.length = ptlv.size.toNat := by
  have nothing : mandGettlv port = none → blockSize (mandGettlv port) ≤ MAND_MAX_LEN ∧
      ∀ ptlv, mandGettlv port = some ptlv → ptlv.tlv.length = ptlv.size.toNat := by
    intro none
    rw [none]
    exact ⟨Nat.zero_le _, nofun⟩
  cases mand : port.mand with
  | none => exact nothing (by rw [mandGettlv, mand])
  | some md =>
      obtain ⟨builder, rfl⟩ := built md mand
      cases valid : isValidMac builder.smac with
      | true =>
          obtain ⟨_, _, _, ptlv, got, -, -, -, -, -, -, sized, small⟩ := mandGettlv_built valid mand
          rw [got]
          refine ⟨small, fun other same => ?_⟩
          cases same
          exact sized
      | false =>
          have empty : mandBldTlv builder = ⟨none, none, none⟩ := by
            rw [mandBldTlv, mandBldChassisTlv, valid]
            rfl
          exact nothing (by rw [mandGettlv, mand, empty]; rfl)

theorem infoFrame_made (roomy : Roomy env) (built : Built port) :
    (mibConstrInfoLLDPDU env port).isSome = true := by
  obtain ⟨small, sized⟩ := mandGettlv_small built
  have header := @length_ethHeader port
  rw [Roomy] at roomy
  obtain ⟨last, made, length⟩ := @appendTlv_all_made (mandGettlv port :: env.gettlv)
    (ethHeader port)
    (fun ptlv member => by
      rcases List.mem_cons.mp member with own | other
      · exact sized ptlv own.symm
      · exact env.sized ptlv other)
    (by rw [List.map_cons, List.sum_cons]; omega)
  rw [List.map_cons, List.sum_cons] at length
  rw [mibConstrInfoLLDPDU, made, Option.bind_some]
  exact finishFrame_made (by omega)

end Frames

section Calls

variable {env : Surroundings} {port next : LldpPort}

theorem Built.congr (built : Built port) (same : next.equipment = port.equipment) :
    Built next := by
  have mand := congrArg (fun seen => seen.2.2) same
  change next.mand = port.mand at mand
  rw [Built, mand]
  exact built

theorem Built.up (built : Built port) : Built { mandIfup port with portEnabled := true } := by
  rw [mandIfup]
  split
  · exact built
  · exact fun md same => ⟨port, (Option.some.inj same).symm⟩

theorem Built.absent (absent : port.mand = none) : Built port := by
  intro md same
  rw [absent] at same
  cases same

/-- The calls build the mandatory TLVs, take them away or leave them as they are. -/
theorem effect_built (built : Built port) (event : Event) : Built (event.effect port).1 := by
  have settleSm_built {env : Surroundings} {port : LldpPort} (built : Built port) :
      Built (settleSm env port).1 :=
    built.congr (settleRx_equipment.trans settleTx_equipment)
  obtain ⟨env, call⟩ := event
  cases call with
  | timeout =>
      have timed : Built (settleTimers (updateTxTimers port)) := built.congr settleTimers_equipment
      refine timed.congr ?_
      exact (settleRx_equipment.trans updateRxTimers_equipment).trans settleTx_equipment
  | receive frame => exact built.congr (receiveEffect_equipment frame)
  | admin admin =>
      simp only [Event.effect, adminEffect]
      split <;> split
      · exact built
      · exact settleSm_built (built.congr rfl)
      · exact built
      · exact settleSm_built (built.congr rfl)
  | up => exact settleSm_built built.up
  | down => exact settleSm_built (.absent rfl)
  | changed => exact built
  | mode agentMode =>
      simp only [Event.effect, modeEffect]
      split
      · exact built
      · exact settleSm_built (built.congr rfl)
  | reinit => exact built

/-- What the machine for the frames sends was made. -/
theorem settleTx_made (roomy : Roomy env) (built : Built port) :
    ∀ transmission ∈ (settleTx env port).2, transmission.Made := by
  have sendTx_made {port : LldpPort} (built : Built port) :
      ∀ transmission ∈ (sendTx env port).2, transmission.Made := by
    rw [sendTx]
    split
    · intro transmission member
      rw [List.mem_singleton.mp member]
      exact fun _ => infoFrame_made roomy built
    · exact fun _ member => absurd member List.not_mem_nil
  have startTx_made {port : LldpPort} (built : Built port) :
      ∀ transmission ∈ (startTx env port).2, transmission.Made := by
    rw [startTx]
    split
    · exact sendTx_made built
    · exact fun _ member => absurd member List.not_mem_nil
  rw [settleTx]
  split
  · rw [settleEnabled]
    split
    · exact startTx_made built
    · split
      · exact sendTx_made built
      · rw [processTxShutdownFrame]
        split
        · intro transmission member
          obtain ⟨frame, -, same⟩ := List.mem_map.mp member
          rw [← same]
          exact fun info => Bool.noConfusion info
        · exact fun _ member => absurd member List.not_mem_nil
    · split
      · exact startTx_made built
      · exact fun _ member => absurd member List.not_mem_nil
    · exact fun _ member => absurd member List.not_mem_nil
  · split <;> exact fun _ member => absurd member List.not_mem_nil

theorem effect_made (built : Built port) (event : Event) (roomy : Roomy event.env) :
    ∀ transmission ∈ (event.effect port).2, transmission.Made := by
  obtain ⟨env, call⟩ := event
  cases call with
  | timeout => exact settleTx_made roomy (built.congr settleTimers_equipment)
  | receive frame => exact fun _ member => absurd member List.not_mem_nil
  | admin admin =>
      simp only [Event.effect, adminEffect]
      split <;> split
      · exact fun _ member => absurd member List.not_mem_nil
      · exact settleTx_made roomy (built.congr rfl)
      · exact fun _ member => absurd member List.not_mem_nil
      · exact settleTx_made roomy (built.congr rfl)
  | up => exact settleTx_made roomy built.up
  | down => exact settleTx_made roomy (.absent rfl)
  | changed => exact fun _ member => absurd member List.not_mem_nil
  | mode agentMode =>
      simp only [Event.effect, modeEffect]
      split
      · exact fun _ member => absurd member List.not_mem_nil
      · exact settleTx_made roomy (built.congr rfl)
  | reinit => exact fun _ member => absurd member List.not_mem_nil

end Calls

section Runs

variable {port : LldpPort}

theorem follow_built (events : List Event) : ∀ {port : LldpPort}, Built port →
    Built (follow events port).1 := by
  induction events with
  | nil => exact fun built => built
  | cons event rest ih => exact fun built => ih (effect_built built event)

theorem follow_made (events : List Event) : ∀ {port : LldpPort}, Built port →
    (∀ event ∈ events, Roomy event.env) →
      ∀ transmission ∈ (follow events port).2.flatten, transmission.Made := by
  induction events with
  | nil => exact fun _ _ _ member => absurd member List.not_mem_nil
  | cons event rest ih =>
      intro port built roomy transmission member
      rcases List.mem_append.mp member with here | there
      · exact effect_made built event (roomy event List.mem_cons_self) transmission here
      · exact ih (effect_built built event) (fun event member => roomy event (.tail _ member))
          transmission there

theorem infos_le_frames {sent : List (List Transmission)}
    (made : ∀ transmission ∈ sent.flatten, transmission.Made) : infos sent ≤ frames sent :=
  List.countP_mono_left made

theorem createLldpPort_built (name : List UInt8) (mac : Vector UInt8 6) (agentMode : AgentMode) :
    Built (createLldpPort name mac agentMode) := nofun

/-- A port that may transmit hands a frame to the driver in every interval, whatever else happens to
it, unless it is disabled or its link goes down, or its modules hand over more than fits into a
frame. -/
theorem info_every_interval (name : List UInt8) (mac : Vector UInt8 6) (agentMode : AgentMode)
    (more : ℕ) {before window : List Event} {port last : LldpPort}
    {sent sent' : List (List Transmission)}
    (ran : serve (more + 12) before (createLldpPort name mac agentMode) = some (port, sent))
    (transmits : port.transmits = true) (keeps : ∀ event ∈ window, KeepsOn event)
    (roomy : ∀ event ∈ window, Roomy event.env)
    (ran' : serve (more + 12) window port = some (last, sent'))
    (long : DEFAULT_TX_INTERVAL ≤ ticks window) : 1 ≤ frames sent' := by
  obtain ⟨followed, stable⟩ := serve_created ran
  have credited := (follow_counts before (createLldpPort_stable name mac agentMode)
    (.inl rfl)).1
  have timed := follow_timed before (createLldpPort_stable name mac agentMode) (.inl rfl)
    createLldpPort_timed
  have built := follow_built before (createLldpPort_built name mac agentMode)
  rw [followed] at credited timed built
  have followed' := (@serve_follow more window _ stable).1
  rw [ran', Option.some.injEq] at followed'
  have sends := follow_silence window stable credited timed transmits keeps
    ((silence_le_interval timed).trans long)
  have made := follow_made window built roomy
  rw [← followed'] at sends made
  exact sends.trans (infos_le_frames made)

theorem info_every_interval_eth0 :
    1 ≤ frames (follow (List.replicate 30 ⟨plain, .timeout⟩)
      (follow [⟨plain, .up⟩] eth0).1).2 :=
  info_every_interval _ _ _ 0 (serve_runs _ eth0_stable) rfl
    (fun event member => by rw [List.eq_of_mem_replicate member]; trivial)
    (fun event member => by rw [List.eq_of_mem_replicate member]; decide)
    (serve_runs _ (follow_stable _ eth0_stable)) (by decide)

end Runs

end Tecs.Lldp
