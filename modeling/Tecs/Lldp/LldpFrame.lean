import Tecs.Lldp.LldpFormat

set_option autoImplicit false

/-! The frames that a port sends are well formed. -/

namespace Tecs.Lldp

open Bytes
open Tecs.Cdcp (UnpackedTlv PackedTlv packTlv packTlvAfter tlvOk)

section Definitions

/-- The TLVs of a module, one after the other in a block. -/
def Block (ptlv : PackedTlv) : Prop :=
  ∃ tlvs : List UnpackedTlv, ptlv.tlv = tlvs.flatMap tlvBytes ∧
    ∀ tlv ∈ tlvs, Fits tlv ∧ 3 < tlv.type.toNat

/-- Every module hands over blocks of its own TLVs. -/
def Orderly (env : Surroundings) : Prop := ∀ ptlv, some ptlv ∈ env.gettlv → Block ptlv

/-- A frame that whoever receives it can read. -/
def Readable (frame : List UInt8) : Prop :=
  ETH_HDR_LEN ≤ frame.length ∧
    ∃ tlvs, ∀ env, Answered env tlvs → Carries env frame tlvs

/-- Every frame that was made is one that can be read. -/
def Transmission.Readable : Transmission → Prop
  | .info (some frame) => Lldp.Readable frame
  | .info none => True
  | .shutdown frame => Lldp.Readable frame

/-- The mandatory TLVs of a port that is enabled are its own. -/
def Equipped (port : LldpPort) : Prop :=
  isValidMac port.smac = true ∧ (port.portEnabled = true ∨ port.mand ≠ none →
    ∃ builder : LldpPort, isValidMac builder.smac = true ∧ port.mand = some (mandBldTlv builder))

/-- What the machines leave alone of a port. -/
def LldpPort.equipment (port : LldpPort) : Vector UInt8 6 × Bool × Option MandData :=
  (port.smac, port.portEnabled, port.mand)

end Definitions

section Frames

variable {env : Surroundings} {port builder : LldpPort} {frame : List UInt8}

theorem length_tlvBytes {tlv : UnpackedTlv} (fits : Fits tlv) :
    (tlvBytes tlv).length = 2 + tlv.length.toNat := by
  rw [tlvBytes, List.length_append, length_ofWord, fits.info]

/-- A TLV goes behind what is in the block, if there is room for it. -/
theorem packAfter_some {size : ℕ} {tlv : UnpackedTlv} {ptlv : PackedTlv} (fits : Fits tlv)
    (ok : tlvOk tlv = true) (room : 2 + tlv.length.toNat + ptlv.size.toNat ≤ size)
    (small : size < 65536) : ∃ next, packAfter size (some tlv) ptlv = some next ∧
      next.tlv = ptlv.tlv ++ tlvBytes tlv ∧
      next.size.toNat = ptlv.size.toNat + (2 + tlv.length.toNat) := by
  have long := fits.length
  have packed : packTlv tlv = some ⟨tlv.length + 2, tlvBytes tlv⟩ := by
    have whole : tlv.info.take tlv.length.toNat = tlv.info :=
      List.take_of_length_le fits.info.le
    simp only [packTlv, ok, Bool.not_true, Bool.false_eq_true, if_false, whole]
    rfl
  have two : (tlv.length + 2).toNat = tlv.length.toNat + 2 := by
    rw [UInt16.toNat_add]
    change (tlv.length.toNat + 2) % 65536 = _
    omega
  have fitsIn : ¬ (tlv.length + 2).toNat + ptlv.size.toNat > size := by omega
  refine ⟨⟨ptlv.size + (tlv.length + 2), ptlv.tlv ++ tlvBytes tlv⟩, ?_, rfl, ?_⟩
  · simp only [packAfter, packTlvAfter, packed, if_neg fitsIn]
  · change (ptlv.size + (tlv.length + 2)).toNat = _
    rw [UInt16.toNat_add, two]
    omega

theorem length_ifname (name : List UInt8) : (ifname name).length ≤ IFNAMSIZ :=
  (List.takeWhile_sublist _).length_le.trans (List.length_take_le _ _)

/-- The most that the mandatory TLVs take: the chassis, the longest name and the time to live. -/
def MAND_MAX_LEN : ℕ := 9 + (2 + (IFNAMSIZ + 1)) + 4

/-- The block of the mandatory TLVs. -/
theorem mandGettlv_built (valid : isValidMac builder.smac = true)
    (mand : port.mand = some (mandBldTlv builder)) :
    ∃ chassis portid ttl ptlv, mandGettlv port = some ptlv ∧
      ptlv.tlv = [chassis, portid, ttl].flatMap tlvBytes ∧
      (∀ tlv ∈ [chassis, portid, ttl], Fits tlv) ∧ chassis.type = CHASSIS_ID_TLV ∧
      portid.type = PORT_ID_TLV ∧ ttl.type = TIME_TO_LIVE_TLV ∧ ttl.length = 2 ∧
      ptlv.tlv.length = ptlv.size.toNat ∧ ptlv.size.toNat ≤ MAND_MAX_LEN := by
  have chassis : mandBldChassisTlv builder =
      some ⟨CHASSIS_ID_TLV, 7, CHASSIS_ID_MAC_ADDRESS :: builder.smac.toList⟩ := by
    rw [mandBldChassisTlv, if_pos valid]
  have short := length_ifname builder.name
  rw [IFNAMSIZ] at short
  have number : (UInt16.ofNat ((ifname builder.name).length + 1)).toNat =
      (ifname builder.name).length + 1 := by
    rw [UInt16.toNat_ofNat']
    omega
  have first : Fits ⟨CHASSIS_ID_TLV, 7, CHASSIS_ID_MAC_ADDRESS :: builder.smac.toList⟩ :=
    ⟨show (1 : ℕ) < 128 by decide, show (7 : ℕ) < 512 by decide, by simp⟩
  have second : Fits (mandBldPortidTlv builder) := by
    refine ⟨show (2 : ℕ) < 128 by decide, ?_, ?_⟩
    · change (UInt16.ofNat ((ifname builder.name).length + 1)).toNat < 512
      omega
    · change (ifname builder.name).length + 1 =
        (UInt16.ofNat ((ifname builder.name).length + 1)).toNat
      exact number.symm
  have third : Fits (mandBldTtlTlv builder) :=
    ⟨show (3 : ℕ) < 128 by decide, show (2 : ℕ) < 512 by decide, rfl⟩
  have secondOk : tlvOk (mandBldPortidTlv builder) = true := by
    have nonzero : ¬ UInt16.ofNat ((ifname builder.name).length + 1) = 0 := by
      intro zero
      have none := congrArg UInt16.toNat zero
      rw [number] at none
      exact absurd none (Nat.succ_ne_zero _)
    rw [tlvOk, mandBldPortidTlv]
    dsimp only
    rw [decide_eq_false nonzero]
    rfl
  have portidSize : tlvSize (some (mandBldPortidTlv builder)) =
      2 + ((ifname builder.name).length + 1) := congrArg (2 + ·) number
  have portidLength : (mandBldPortidTlv builder).length.toNat =
      (ifname builder.name).length + 1 := number
  obtain ⟨one, packed, bytes, size⟩ := @packAfter_some
    (9 + (2 + ((ifname builder.name).length + 1)) + 4) _ ⟨0, []⟩ first rfl
    (by change 2 + 7 + 0 ≤ _; omega) (by omega)
  obtain ⟨two, packed', bytes', size'⟩ := @packAfter_some
    (9 + (2 + ((ifname builder.name).length + 1)) + 4) _ one second secondOk
    (by rw [size, portidLength]; change _ + (0 + (2 + 7)) ≤ _; omega) (by omega)
  obtain ⟨three, packed'', bytes'', size''⟩ := @packAfter_some
    (9 + (2 + ((ifname builder.name).length + 1)) + 4) _ two third rfl
    (by rw [size', size, portidLength]; change 2 + 2 + (0 + (2 + 7) + _) ≤ _; omega) (by omega)
  refine ⟨⟨CHASSIS_ID_TLV, 7, CHASSIS_ID_MAC_ADDRESS :: builder.smac.toList⟩,
    mandBldPortidTlv builder, mandBldTtlTlv builder, three, ?_, ?_, ?_, rfl, rfl, rfl, rfl, ?_, ?_⟩
  · have total : tlvSize (some ⟨CHASSIS_ID_TLV, 7, CHASSIS_ID_MAC_ADDRESS :: builder.smac.toList⟩) +
        (2 + ((ifname builder.name).length + 1)) + tlvSize (some (mandBldTtlTlv builder)) =
        9 + (2 + ((ifname builder.name).length + 1)) + 4 := rfl
    have positive : ¬ 9 + (2 + ((ifname builder.name).length + 1)) + 4 = 0 := by omega
    simp only [mandGettlv, mand, mandBldTlv, chassis, portidSize, total, if_neg positive]
    rw [packed, Option.bind_some, packed', Option.bind_some, packed'']
  · rw [bytes'', bytes', bytes]
    simp
  · intro tlv member
    simp only [List.mem_cons, List.not_mem_nil, or_false] at member
    rcases member with rfl | rfl | rfl
    · exact first
    · exact second
    · exact third
  · rw [bytes'', bytes', bytes, size'', size', size, List.length_append, List.length_append,
      List.length_append, length_tlvBytes first, length_tlvBytes second, length_tlvBytes third]
    rfl
  · rw [size'', size', size, portidLength, MAND_MAX_LEN, IFNAMSIZ]
    change 0 + (2 + 7) + _ + (2 + 2) ≤ _
    omega

theorem appendTlv_some {start : List UInt8} {ptlv : PackedTlv}
    (appended : appendTlv start (some ptlv) = some frame) : frame = start ++ ptlv.tlv := by
  rw [appendTlv] at appended
  split at appended
  · cases appended
  · exact (Option.some.inj appended).symm

/-- The blocks of the modules, behind what is in the frame. -/
theorem appendTlv_blocks : ∀ {blocks : List (Option PackedTlv)} {start : List UInt8},
    (∀ ptlv, some ptlv ∈ blocks → Block ptlv) → blocks.foldlM appendTlv start = some frame →
      ∃ tlvs : List UnpackedTlv, frame = start ++ tlvs.flatMap tlvBytes ∧
        ∀ tlv ∈ tlvs, Fits tlv ∧ 3 < tlv.type.toNat := by
  intro blocks
  induction blocks with
  | nil =>
      intro start _ made
      exact ⟨[], by simpa using (Option.some.inj made).symm, fun _ member =>
        absurd member List.not_mem_nil⟩
  | cons block blocks ih =>
      intro start own made
      rw [List.foldlM_cons] at made
      obtain ⟨next, appended, rest⟩ := Option.bind_eq_some_iff.mp made
      obtain ⟨tlvs, bytes, later⟩ := ih (fun ptlv member => own ptlv (.tail _ member)) rest
      cases block with
      | none =>
          cases appended
          exact ⟨tlvs, bytes, later⟩
      | some ptlv =>
          obtain ⟨first, block, early⟩ := own ptlv List.mem_cons_self
          refine ⟨first ++ tlvs, ?_, ?_⟩
          · rw [bytes, appendTlv_some appended, block, List.flatMap_append, List.append_assoc]
          · intro tlv member
            rcases List.mem_append.mp member with here | there
            · exact early tlv here
            · exact later tlv there

theorem finishFrame_ends {start : List UInt8} (made : finishFrame start = some frame) :
    ∃ padding, frame = start ++ tlvBytes ⟨END_OF_LLDPDU_TLV, 0, []⟩ ++ padding := by
  have ending : packEndTlv = some ⟨2, tlvBytes ⟨END_OF_LLDPDU_TLV, 0, []⟩⟩ := rfl
  rw [finishFrame, ending] at made
  dsimp only at made
  obtain ⟨whole, appended, padded⟩ := Option.map_eq_some_iff.mp made
  rw [appendTlv_some appended] at padded
  split at padded
  · exact ⟨_, padded.symm⟩
  · exact ⟨[], by rw [← padded, List.append_nil]⟩

theorem bytesFrom_middle (front middle back : List UInt8) :
    bytesFrom env (front ++ middle ++ back) front.length middle.length = middle := by
  apply List.ext_getElem (length_bytesFrom _ _)
  intro i inside inside'
  have within : front.length + i < (front ++ middle ++ back).length := by
    simp only [List.length_append]
    omega
  simp only [bytesFrom, byteAt, List.getElem_map, List.getElem_range,
    List.getD_eq_getElem _ _ within]
  rw [List.getElem_append_left (by simp only [List.length_append]; omega),
    List.getElem_append_right (Nat.le_add_right _ _)]
  simp only [Nat.add_sub_cancel_left]

theorem length_ethHeader : (ethHeader port).length = ETH_HDR_LEN := by
  rw [ethHeader]
  cases port.agentMode <;> simp [AgentMode.dmac, ETH_HDR_LEN]

/-- Well formed TLVs between a header and padding can be read. -/
theorem readable_of_lldpdu {chassis portid ttl last : UnpackedTlv} {others : List UnpackedTlv}
    {padding : List UInt8} (lldpdu : Lldpdu chassis portid ttl others last)
    (made : frame = ethHeader port ++
      (chassis :: portid :: ttl :: (others ++ [last])).flatMap tlvBytes ++ padding) :
    Readable frame := by
  have header := @length_ethHeader port
  refine ⟨?_, chassis :: portid :: ttl :: (others ++ [last]), fun env answered =>
    ⟨⟨chassis, portid, ttl, others, last, rfl, lldpdu⟩, ?_, ?_, answered⟩⟩
  · rw [made, List.length_append, List.length_append, header]
    omega
  · rw [made, ← header]
    exact bytesFrom_middle _ _ _
  · rw [made, List.length_append, List.length_append, header]
    omega

theorem infoFrame_readable (orderly : Orderly env) (valid : isValidMac builder.smac = true)
    (mand : port.mand = some (mandBldTlv builder))
    (made : mibConstrInfoLLDPDU env port = some frame) : Readable frame := by
  obtain ⟨chassis, portid, ttl, ptlv, got, bytes, fits, first, second, third, two, -⟩ :=
    mandGettlv_built valid mand
  rw [mibConstrInfoLLDPDU, got, List.foldlM_cons] at made
  obtain ⟨start, joined, finished⟩ := Option.bind_eq_some_iff.mp made
  obtain ⟨mandatory, appended, rest⟩ := Option.bind_eq_some_iff.mp joined
  obtain ⟨others, others', later⟩ := appendTlv_blocks orderly rest
  obtain ⟨padding, ends⟩ := finishFrame_ends finished
  refine @readable_of_lldpdu port _ chassis portid ttl ⟨END_OF_LLDPDU_TLV, 0, []⟩ others padding
    ⟨first, second, ⟨third, two⟩, fun tlv member => (later tlv member).2, rfl, ?_⟩ ?_
  · intro tlv member
    simp only [List.mem_cons, List.mem_append, List.not_mem_nil, or_false] at member fits
    rcases member with here | here | here | other | final
    · exact fits tlv (.inl here)
    · exact fits tlv (.inr (.inl here))
    · exact fits tlv (.inr (.inr here))
    · exact (later tlv other).1
    · rw [final]
      exact ⟨by decide, by decide, rfl⟩
  · rw [ends, others', appendTlv_some appended, bytes]
    simp [List.append_assoc]

theorem shutdownFrame_readable (valid : isValidMac builder.smac = true)
    (mand : port.mand = some (mandBldTlv builder))
    (made : mibConstrShutdownLLDPDU port = some frame) : Readable frame := by
  obtain ⟨chassis, portid, ttl, ptlv, got, bytes, fits, first, second, third, two, -⟩ :=
    mandGettlv_built valid mand
  rw [mibConstrShutdownLLDPDU, got, Option.map_some] at made
  obtain ⟨start, appended, finished⟩ := Option.bind_eq_some_iff.mp made
  obtain ⟨padding, ends⟩ := finishFrame_ends finished
  have info : ttl.info.length = 2 := by
    have size := (fits ttl (by simp)).info
    rw [two] at size
    exact size
  have cleared : (clearTtl ptlv).tlv =
      [chassis, portid, ⟨ttl.type, ttl.length, [0, 0]⟩].flatMap tlvBytes := by
    have front : ptlv.tlv = (tlvBytes chassis ++ tlvBytes portid ++
        ofWord (ttl.type.toUInt16 <<< 9 ||| (ttl.length &&& 0x01ff))) ++ ttl.info := by
      rw [bytes]
      simp [tlvBytes, List.append_assoc]
    rw [clearTtl]
    dsimp only
    rw [front, List.take_left' (by simp only [List.length_append, info]; omega)]
    simp [tlvBytes, List.append_assoc]
  refine @readable_of_lldpdu port _ chassis portid ⟨ttl.type, ttl.length, [0, 0]⟩
    ⟨END_OF_LLDPDU_TLV, 0, []⟩ [] padding
    ⟨first, second, ⟨third, two⟩, fun _ member => absurd member List.not_mem_nil, rfl, ?_⟩ ?_
  · intro tlv member
    have last := fits ttl (by simp)
    simp only [List.nil_append, List.mem_cons, List.not_mem_nil, or_false] at member fits
    rcases member with here | here | here | final
    · exact fits tlv (.inl here)
    · exact fits tlv (.inr (.inl here))
    · rw [here]
      exact ⟨last.type, last.length, by rw [two]; rfl⟩
    · rw [final]
      exact ⟨by decide, by decide, rfl⟩
  · rw [ends, appendTlv_some appended, cleared]
    simp [List.append_assoc]

end Frames

section Runs

variable {env : Surroundings} {port next last : LldpPort}

theorem Equipped.congr (equipped : Equipped port) (same : next.equipment = port.equipment) :
    Equipped next := by
  have mac := congrArg (fun seen => seen.1) same
  have enabled := congrArg (fun seen => seen.2.1) same
  have mand := congrArg (fun seen => seen.2.2) same
  change next.smac = port.smac at mac
  change next.portEnabled = port.portEnabled at enabled
  change next.mand = port.mand at mand
  rw [Equipped, mac, enabled, mand]
  exact equipped

theorem settleTx_equipment : (settleTx env port).1.equipment = port.equipment := by
  have same := congrArg LldpPort.equipment (@settleTx_unsent env port)
  exact same

theorem settleRx_equipment : (settleRx port).equipment = port.equipment := by
  have same := congrArg LldpPort.equipment (@settleRx_unheard port)
  exact same

theorem settleTimers_equipment : (settleTimers port).equipment = port.equipment := by
  have same := congrArg LldpPort.equipment (@settleTimers_untimed port)
  exact same

theorem updateRxTimers_equipment : (updateRxTimers port).equipment = port.equipment := by
  have same := congrArg LldpPort.equipment (@updateRxTimers_unaged port)
  exact same

theorem receiveEffect_equipment (frame : EthFrame) :
    (receiveEffect env frame port).equipment = port.equipment := by
  rw [receiveEffect]
  split
  · rfl
  · split
    · rfl
    · split
      · split
        · cases processed : rxProcessFrame env (port.arrival frame).looking with
          | none => rfl
          | some last =>
              have looked := rxProcessFrame_looked processed
              have same := congrArg LldpPort.equipment (@finishRx_unheard last)
              exact Eq.trans same (looked.congr LldpPort.equipment (fun _ => rfl) rfl)
        · exact settleRx_equipment
      · rfl

/-- What the machine for the frames sends is made of the TLVs that the port has. -/
theorem settleTx_readable (orderly : Orderly env) (equipped : Equipped port) :
    ∀ transmission ∈ (settleTx env port).2, transmission.Readable := by
  have sendTx_readable {port : LldpPort} (equipped : Equipped port)
      (enabled : port.portEnabled = true) :
      ∀ transmission ∈ (sendTx env port).2, transmission.Readable := by
    obtain ⟨builder, valid, mand⟩ := equipped.2 (.inl enabled)
    rw [sendTx]
    split
    · intro transmission member
      rw [List.mem_singleton.mp member]
      cases made : mibConstrInfoLLDPDU env (port.txGo .txInfoFrame) with
      | none => trivial
      | some frame => exact infoFrame_readable orderly valid mand made
    · exact fun _ member => absurd member List.not_mem_nil
  have startTx_readable {port : LldpPort} (equipped : Equipped port)
      (enabled : port.portEnabled = true) :
      ∀ transmission ∈ (startTx env port).2, transmission.Readable := by
    rw [startTx]
    split
    · exact sendTx_readable (equipped.congr rfl) enabled
    · exact fun _ member => absurd member List.not_mem_nil
  rw [settleTx]
  split
  · next enabled =>
    rw [settleEnabled]
    split
    · exact startTx_readable (equipped.congr rfl) enabled
    · split
      · exact sendTx_readable (equipped.congr rfl) enabled
      · rw [processTxShutdownFrame]
        split
        · obtain ⟨builder, valid, mand⟩ := equipped.2 (.inl enabled)
          intro transmission member
          obtain ⟨frame, made, same⟩ := List.mem_map.mp member
          rw [← same]
          exact shutdownFrame_readable valid mand (Option.mem_toList.mp made)
        · exact fun _ member => absurd member List.not_mem_nil
    · split
      · exact startTx_readable (equipped.congr rfl) enabled
      · exact fun _ member => absurd member List.not_mem_nil
    · exact fun _ member => absurd member List.not_mem_nil
  · split <;> exact fun _ member => absurd member List.not_mem_nil

theorem settleSm_readable (orderly : Orderly env) (equipped : Equipped port) :
    (∀ transmission ∈ (settleSm env port).2, transmission.Readable) ∧
      Equipped (settleSm env port).1 :=
  ⟨settleTx_readable orderly equipped,
    equipped.congr (settleRx_equipment.trans settleTx_equipment)⟩

theorem tickEffect_readable (orderly : Orderly env) (equipped : Equipped port) :
    (∀ transmission ∈ (tickEffect env port).2, transmission.Readable) ∧
      Equipped (tickEffect env port).1 := by
  have timed : Equipped (settleTimers (updateTxTimers port)) :=
    equipped.congr settleTimers_equipment
  refine ⟨settleTx_readable orderly timed, timed.congr ?_⟩
  exact (settleRx_equipment.trans updateRxTimers_equipment).trans settleTx_equipment

/-- The port gets its own TLVs when its link comes up. -/
theorem Equipped.up (equipped : Equipped port) :
    Equipped { mandIfup port with portEnabled := true } := by
  rw [mandIfup]
  split
  · next md mand =>
    exact ⟨equipped.1, fun _ => equipped.2 (.inr (by rw [mand]; exact Option.some_ne_none md))⟩
  · exact ⟨equipped.1, fun _ => ⟨port, equipped.1, rfl⟩⟩

theorem effect_readable (equipped : Equipped port) (event : Event)
    (orderly : Orderly event.env) :
    (∀ transmission ∈ (event.effect port).2, transmission.Readable) ∧
      Equipped (event.effect port).1 := by
  obtain ⟨env, call⟩ := event
  cases call with
  | timeout => exact tickEffect_readable orderly equipped
  | receive frame =>
      exact ⟨fun _ member => absurd member List.not_mem_nil,
        equipped.congr (receiveEffect_equipment frame)⟩
  | admin admin =>
      simp only [Event.effect, adminEffect]
      split <;> split
      · exact ⟨fun _ member => absurd member List.not_mem_nil, equipped.congr rfl⟩
      · exact settleSm_readable orderly (equipped.congr rfl)
      · exact ⟨fun _ member => absurd member List.not_mem_nil, equipped⟩
      · exact settleSm_readable orderly (equipped.congr rfl)
  | up => exact settleSm_readable orderly equipped.up
  | down =>
      refine settleSm_readable orderly ⟨equipped.1, fun live => ?_⟩
      rcases live with enabled | own
      · exact Bool.noConfusion enabled
      · exact absurd rfl own
  | changed =>
      exact ⟨fun _ member => absurd member List.not_mem_nil, equipped.congr rfl⟩
  | mode agentMode =>
      simp only [Event.effect, modeEffect]
      split
      · exact ⟨fun _ member => absurd member List.not_mem_nil, equipped⟩
      · exact settleSm_readable orderly (equipped.congr rfl)
  | reinit => exact ⟨fun _ member => absurd member List.not_mem_nil, equipped.congr rfl⟩

theorem follow_readable (events : List Event) : ∀ {port : LldpPort}, Equipped port →
    (∀ event ∈ events, Orderly event.env) →
      ∀ out ∈ (follow events port).2, ∀ transmission ∈ out, transmission.Readable := by
  induction events with
  | nil => exact fun _ _ _ member => absurd member List.not_mem_nil
  | cons event rest ih =>
      intro port equipped orderly out member
      obtain ⟨here, equipped'⟩ :=
        effect_readable equipped event (orderly event List.mem_cons_self)
      have later := ih equipped' (fun event member => orderly event (.tail _ member))
      rcases List.mem_cons.mp member with first | other
      · rw [first]
        exact here
      · exact later out other

theorem createLldpPort_equipped (name : List UInt8) {mac : Vector UInt8 6} (agentMode : AgentMode)
    (valid : isValidMac mac = true) : Equipped (createLldpPort name mac agentMode) := by
  refine ⟨valid, fun live => ?_⟩
  rcases live with enabled | own
  · exact Bool.noConfusion enabled
  · exact absurd rfl own

/-- Every frame that a port sends, from its creation on, carries well formed TLVs to whoever
receives it, if the port has an address and the modules hand over TLVs of their own. -/
theorem sent_frames_readable (name : List UInt8) (mac : Vector UInt8 6) (agentMode : AgentMode)
    (more : ℕ) {events : List Event} {sent : List (List Transmission)}
    (valid : isValidMac mac = true) (orderly : ∀ event ∈ events, Orderly event.env)
    (ran : serve (more + 12) events (createLldpPort name mac agentMode) = some (last, sent)) :
    ∀ out ∈ sent, ∀ transmission ∈ out, transmission.Readable := by
  obtain ⟨followed, -⟩ := serve_created ran
  have equipped := createLldpPort_equipped name agentMode valid
  have readable := follow_readable events equipped orderly
  rwa [followed] at readable

theorem sent_frames_readable_eth0 :
    Readable ([1, 128, 194, 0, 0, 14, 2, 0, 0, 0, 0, 1, 136, 204, 2, 7, 4, 2, 0, 0, 0, 0, 1, 4, 5,
      5, 101, 116, 104, 48, 6, 2, 0, 0, 0, 0] ++ List.replicate 24 0) := by
  have orderly : ∀ event ∈ [Event.mk plain .up, ⟨plain, .timeout⟩, ⟨plain, .admin .disabled⟩],
      Orderly event.env := by
    simp [Orderly, plain]
  have sent : [Transmission.shutdown ([1, 128, 194, 0, 0, 14, 2, 0, 0, 0, 0, 1, 136, 204, 2, 7, 4,
      2, 0, 0, 0, 0, 1, 4, 5, 5, 101, 116, 104, 48, 6, 2, 0, 0, 0, 0] ++ List.replicate 24 0)] ∈
      (follow [Event.mk plain .up, ⟨plain, .timeout⟩, ⟨plain, .admin .disabled⟩] eth0).2 := by
    decide
  exact sent_frames_readable _ _ _ 0 rfl orderly (serve_runs _ eth0_stable) _ sent _
    List.mem_cons_self

end Runs

end Tecs.Lldp
