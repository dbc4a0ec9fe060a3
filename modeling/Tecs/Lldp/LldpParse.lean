import Tecs.Lldp.LldpSettleRx

set_option autoImplicit false

/-! What the parsing of a frame does to its port: it ends, and leaves most of the port alone. -/

namespace Tecs.Lldp

open Bytes
open Tecs.Cdcp (UnpackedTlv)

section Definitions

/-- A port without what the parsing of a frame may change. -/
def LldpPort.unread (port : LldpPort) : LldpPort :=
  { port with
    lldpdu := 0
    remoteMacAddr := []
    msap := ⟨none, none⟩
    shown := []
    stats := ⟨0, 0, 0, 0, 0, 0⟩
    rx := { port.rx with tooManyNghbrs := false, newNeighbor := false }
    timers := { port.timers with tooManyNghbrsTimer := 0, rxTTL := 0, lastrxTTL := 0 } }

/-- The times to live are those before, or both are that of the frame. -/
def SameTtl (before after : PortTimers) : Prop :=
  after.rxTTL = before.rxTTL ∧ after.lastrxTTL = before.lastrxTTL ∨ after.rxTTL = after.lastrxTTL

/-- What is left of a port whose frame was looked at, be it sound or not. -/
structure Looked (before after : LldpPort) : Prop where
  ttl : SameTtl before.timers after.timers
  unread : after.unread = before.unread ∨ after.unread = (discardFrame before).unread

end Definitions

section Turns

variable {env : Surroundings} {framein : List UInt8} {parse next : RxParse} {tlv : UnpackedTlv}

theorem SameTtl.refl (timers : PortTimers) : SameTtl timers timers := .inl ⟨rfl, rfl⟩

theorem SameTtl.trans {first second third : PortTimers} (before : SameTtl first second)
    (after : SameTtl second third) : SameTtl first third := by
  rcases after with ⟨ttl, last⟩ | same
  · rcases before with ⟨ttl', last'⟩ | same'
    · exact .inl ⟨ttl.trans ttl', last.trans last'⟩
    · exact .inr (by rw [ttl, last, same'])
  · exact .inr same

/-- What the TLVs of types 1 to 8 leave alone. -/
theorem storeTlv_unread (stored : parse.storeTlv tlv = some next) :
    next.port.unread = parse.port.unread ∧ next.earlier = parse.earlier ∧
      next.port.shown = parse.port.shown ∧ SameTtl parse.port.timers next.port.timers := by
  rw [RxParse.storeTlv] at stored
  split at stored
  · cases stored
    exact ⟨rfl, rfl, rfl, .refl _⟩
  · split at stored
    · cases stored
    · simp only [Option.some.injEq] at stored
      subst stored
      split
      · rw [RxParse.chassisId]
        split
        · exact ⟨rfl, rfl, rfl, .refl _⟩
        · split <;> exact ⟨rfl, rfl, rfl, .refl _⟩
      · split
        · rw [RxParse.portId]
          split
          · exact ⟨rfl, rfl, rfl, .refl _⟩
          · split <;> exact ⟨rfl, rfl, rfl, .refl _⟩
        · split
          · simp only [RxParse.timeToLive]
            split
            · exact ⟨rfl, rfl, rfl, .refl _⟩
            · exact ⟨rfl, rfl, rfl, .inr rfl⟩
          · exact ⟨rfl, rfl, rfl, .refl _⟩

/-- One turn, and how far it gets if it is not the last one. -/
theorem turn_unread : (parse.turn env framein).2.2.port.unread = parse.port.unread ∧
    SameTtl parse.port.timers (parse.turn env framein).2.2.port.timers := by
  simp only [RxParse.turn]
  split
  · exact ⟨rfl, .refl _⟩
  · split
    · exact ⟨rfl, .refl _⟩
    · split
      · exact ⟨rfl, .refl _⟩
      · split
        · exact ⟨rfl, .refl _⟩
        · next stored =>
          obtain ⟨unread, -, -, ttl⟩ := storeTlv_unread stored
          split
          · exact ⟨unread, ttl⟩
          · dsimp only
            split
            · exact ⟨unread, ttl⟩
            · exact ⟨unread, ttl⟩

theorem run_unread : ∀ {turns : ℕ} {parse : RxParse} {done : Bool × RxParse},
    RxParse.run env framein turns parse = some done →
      done.2.port.unread = parse.port.unread ∧ SameTtl parse.port.timers done.2.port.timers := by
  intro turns
  induction turns with
  | zero =>
      intro parse done ended
      cases ended
  | succ turns ih =>
      intro parse done ended
      have here := @turn_unread env framein parse
      rw [RxParse.run] at ended
      split at ended
      · next error next turned =>
        rw [turned] at here
        cases ended
        exact here
      · next error next turned =>
        rw [turned] at here
        obtain ⟨unread, ttl⟩ := ih ended
        exact ⟨unread.trans here.1, here.2.trans ttl⟩

/-- A turn that is not the last one is at least two bytes on. -/
theorem turn_tlvOffset (short : framein.length ≤ 65022) {error : Bool}
    (turned : parse.turn env framein = (error, false, next)) :
    parse.tlvOffset ≤ framein.length ∧ parse.tlvOffset + 2 ≤ next.tlvOffset := by
  have length (head : UInt16) : (head &&& 0x01ff).toNat ≤ 511 := by
    rw [UInt16.toNat_and]
    exact Nat.and_le_right
  simp only [RxParse.turn] at turned
  split at turned
  · cases turned
  · next inside =>
    split at turned
    · cases turned
    · split at turned
      · cases turned
      · split at turned
        · cases turned
        · split at turned
          · cases turned
          · have bound := length (wordAt env framein parse.tlvOffset)
            have unwrapped := Nat.mod_eq_of_lt (b := 65536)
              (show parse.tlvOffset + 2 + (wordAt env framein parse.tlvOffset &&& 0x01ff).toNat <
                65536 by omega)
            simp only [Prod.mk.injEq] at turned
            obtain ⟨-, -, rfl⟩ := turned
            split
            · dsimp only
              omega
            · dsimp only
              omega

theorem run_ends (short : framein.length ≤ 65022) : ∀ {turns : ℕ} {parse : RxParse},
    framein.length < parse.tlvOffset + 2 * turns →
      (RxParse.run env framein (turns + 1) parse).isSome := by
  intro turns
  induction turns with
  | zero =>
      intro parse behind
      rw [RxParse.run]
      split
      · rfl
      · next error next turned =>
        have further := (turn_tlvOffset short turned).1
        omega
  | succ turns ih =>
      intro parse behind
      rw [RxParse.run]
      split
      · rfl
      · next error next turned =>
        have further := (turn_tlvOffset short turned).2
        exact ih (by omega)

end Turns

section Frames

variable {env : Surroundings} {port : LldpPort} {framein : List UInt8}

theorem Looked.congr {before after : LldpPort} (looked : Looked before after) {α : Type}
    (field : LldpPort → α) (blind : ∀ port : LldpPort, field port.unread = field port)
    (kept : field (discardFrame before) = field before) : field after = field before := by
  rw [← blind after, ← blind before]
  rcases looked.unread with same | discarded
  · rw [same]
  · rw [discarded, blind, kept, blind]

theorem rxProcessFrame_looked {last : LldpPort} (processed : rxProcessFrame env port = some last) :
    Looked port last := by
  rw [rxProcessFrame] at processed
  split at processed
  · cases processed
  · next framein arrived =>
    split at processed
    · cases processed
    · obtain ⟨⟨error, parse⟩, ended, made⟩ := Option.map_eq_some_iff.mp processed
      obtain ⟨unread, ttl⟩ := run_unread ended
      subst made
      cases error with
      | false => exact ⟨ttl, .inl unread⟩
      | true =>
          refine ⟨ttl, .inr ?_⟩
          exact congrArg (fun port : LldpPort =>
            { port with rx := { port.rx with badFrame := true, framein := none } }) unread

/-- A frame of the least size that fits its offsets is parsed to its end. -/
theorem rxProcessFrame_ends (arrived : port.rx.framein = some framein)
    (header : ETH_HDR_LEN ≤ framein.length) (short : framein.length ≤ 65022) :
    ∃ last, rxProcessFrame env port = some last ∧ Looked port last := by
  rw [ETH_HDR_LEN] at header
  obtain ⟨turns, many⟩ : ∃ turns, framein.length = turns + 1 := Nat.exists_eq_succ_of_ne_zero
    (by omega)
  have ends := @run_ends env _ short turns (startParse env framein port)
    (by simp only [startParse, ETH_HDR_LEN]; omega)
  obtain ⟨done, ended⟩ := Option.isSome_iff_exists.mp ends
  have processed : rxProcessFrame env port =
      some (if done.1 then discardFrame done.2.port else done.2.port) := by
    have positive : ¬ framein.length = 0 := by omega
    simp only [rxProcessFrame, arrived, if_neg positive]
    rw [many, ended]
    rfl
  exact ⟨_, processed, rxProcessFrame_looked processed⟩

end Frames

section Machine

variable {env : Surroundings} {port : LldpPort} {bound : ℕ} {frame : EthFrame}

/-- A machine that has looked at a frame waits for the next one. -/
theorem runRxSm_looked (enabled : port.portEnabled = true) (here : port.rx.state = .rxFrame)
    (receives : port.adminStatus.receives = true) (unchanged : port.rxChanges = false)
    (taken : port.rx.rcvFrame = false) : runRxSm env (bound + 3) port = some (finishRx port) := by
  rw [finishRx]
  split
  · next withdrawn =>
    have leaves : leaveRxState port = some (port.rxGo .deleteInfo) := by
      simp [leaveRxState, here, withdrawn, rxChangeState, LldpPort.rxGo]
    have back : setRxState (processDeleteInfo (port.rxGo .deleteInfo)) =
        some (true, deleteNeighbour port) := by
      exact @setRxState_move _ .deleteInfo _ (.inr enabled) rfl rfl (by decide)
    rw [runRxSm_again (setRxState_move .rxFrame (.inr enabled) leaves here (by decide)) rfl,
      runRxSm_again back rfl]
    exact @runRxSm_quiet _ (processWaitForFrame (deleteNeighbour port)) _ enabled rfl receives rfl
      taken
  · next known =>
    have leaves : leaveRxState port = some (port.rxGo .rxWaitForFrame) := by
      simp [leaveRxState, here, known, unchanged, rxChangeState, LldpPort.rxGo]
    rw [runRxSm_again (setRxState_move .rxFrame (.inr enabled) leaves here (by decide)) rfl]
    exact @runRxSm_quiet _ (processWaitForFrame (port.rxGo .rxWaitForFrame)) (bound + 1) enabled rfl
      receives rfl taken

/-- The port whose frame is looked at. -/
def LldpPort.looking (port : LldpPort) : LldpPort :=
  { port with
    rx := { port.rx with state := .rxFrame, remoteChange := false, rcvFrame := false }
    rxChanges := false }

/-- A frame that a waiting machine is given is looked at. -/
theorem runRxSm_receives (enabled : port.portEnabled = true)
    (waits : port.rx.state = .rxWaitForFrame) (receives : port.adminStatus.receives = true)
    (young : port.rx.rxInfoAge = false) (given : port.rx.rcvFrame = true)
    (arrived : port.rx.framein = some frame.bytes) :
    ∃ last, rxProcessFrame env port.looking = some last ∧ Looked port.looking last ∧
      runRxSm env (bound + 4) port = some (finishRx last) := by
  obtain ⟨last, processed, looked⟩ := @rxProcessFrame_ends env port.looking _ arrived frame.header
    frame.short
  have leaves : leaveRxState port = some (port.rxGo .rxFrame) := by
    simp [leaveRxState, leaveWaitForFrame, waits, young, given, receives, rxChangeState,
      LldpPort.rxGo]
  refine ⟨last, processed, looked, ?_⟩
  rw [runRxSm_again (setRxState_move .rxWaitForFrame (.inr enabled) leaves waits (by decide))
    processed]
  apply runRxSm_looked
  · exact (looked.congr (·.portEnabled) (fun _ => rfl) rfl).trans enabled
  · exact looked.congr (·.rx.state) (fun _ => rfl) rfl
  · exact (looked.congr (·.adminStatus.receives) (fun _ => rfl) rfl).trans receives
  · exact looked.congr (·.rxChanges) (fun _ => rfl) rfl
  · exact looked.congr (·.rx.rcvFrame) (fun _ => rfl) rfl

end Machine

end Tecs.Lldp
