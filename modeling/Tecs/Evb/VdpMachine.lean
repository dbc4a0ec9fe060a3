import Tecs.Evb.VdpStation

set_option autoImplicit false

/-! What ticks and answers make of one VSI of a station. -/

namespace Tecs.Vdp

abbrev VdpSSmState.Waits (state : VdpSSmState) : Prop :=
  state = .transmitDeassoc ∨ state = .stationProc ∨ state = .transmitKeepalive

/-- The machine sends the command, or has reached the state that it asks for. -/
def Acted (vsi : TagVsiInstanceS) : Prop :=
  vsi.state = .stationProc ∨ vsi.vsiState = some vsi.cfgState

/-- What a tick must find of a VSI. -/
abbrev TagVsiInstanceS.Ready (rebuilds : Prop) (vsi : TagVsiInstanceS) : Prop :=
  if vsi.state = .idle then True
  else if vsi.newCmd = true ∧ (vsi.state = .init ∨ vsi.state = .waitSysCmd) then
    vsi.respWaitDelay ≠ 0
  else if vsi.waitWhile ≤ VDP_LOOP_TIMER_INTREVAL then
    vsi.newCmd = false ∧ vsi.state ≠ .transmitDeassoc ∧
      (vsi.state = .waitSysCmd →
        vsi.respWaitDelay ≠ 0 ∧ (vsi.profileChg = true → rebuilds))
  else True

variable {lstVsiProfile : List TagVsiProfile} {vsi vsi' : TagVsiInstanceS}
  {sent : List (List UInt8)}

/-- The type of the command that is sent is that of the command that was given. -/
structure Synced (vsi : TagVsiInstanceS) : Prop where
  sysCmd : vsi.sysCmdTlvType = vsi.cfgState
  operCmd : vsi.vsiState = some .associate → vsi.operCmdTlvType = some .associate

/-- What a call for one VSI leaves of it. -/
structure Moved (vsi vsi' : TagVsiInstanceS) : Prop where
  key : vsi'.key = vsi.key
  kept : vsi.newCmd = true → vsi'.newCmd = true ∨ Acted vsi'
  synced : Synced vsi'

/-- What building a TLV leaves alone. -/
theorem txTLVSysCmd_spec (lstVsiProfile : List TagVsiProfile) (vsi : TagVsiInstanceS)
    (synced : Synced vsi) :
    let vsi' := (txTLVSysCmd lstVsiProfile vsi).1
    vsi'.key = vsi.key ∧ vsi'.state = vsi.state ∧ vsi'.respWaitDelay = vsi.respWaitDelay ∧
      Synced vsi' := by
  intro vsi'
  have shape : vsi' = (txTLVSysCmd lstVsiProfile vsi).1 := rfl
  rw [txTLVSysCmd] at shape
  generalize freed : (if vsi.sysCmd.isSome = true then
    { vsi with sysCmd := none, sysCmdLen := 0 } else vsi) = middle at shape
  have same : middle.key = vsi.key ∧ middle.state = vsi.state ∧
      middle.respWaitDelay = vsi.respWaitDelay ∧ Synced middle := by
    rw [← freed]
    split
    · exact ⟨rfl, rfl, rfl, synced.sysCmd, synced.operCmd⟩
    · exact ⟨rfl, rfl, rfl, synced⟩
  have ⟨key, state, delay, synced'⟩ := same
  cases built : vdpSBuildTlv lstVsiProfile middle middle.cfgState with
  | none =>
      rw [built] at shape
      rw [shape]
      exact same
  | some pTlv =>
      rw [built] at shape
      rw [shape]
      exact ⟨key, state, delay, rfl, synced'.operCmd⟩

theorem txTLVSBuildDea_spec (lstVsiProfile : List TagVsiProfile) (vsi : TagVsiInstanceS) :
    (txTLVSBuildDea lstVsiProfile vsi).1 = vsi ∨
      (txTLVSBuildDea lstVsiProfile vsi).1 = { vsi with profileChg := false } := by
  rw [txTLVSBuildDea]
  cases vdpSBuildTlv lstVsiProfile vsi .deassociate with
  | none => exact .inl rfl
  | some pTlv => exact .inr rfl

/-- Going back to INIT leaves a command that came in the meantime. -/
theorem sInit_moved (synced : Synced vsi) :
    Moved vsi { vsi with
      state := .init, operCmd := none, sysCmd := none, vsiState := some .deassociate } :=
  ⟨rfl, .inl, synced.sysCmd, nofun⟩

theorem newcmd_moved (synced : Synced vsi)
    (ready : vsi.state = .init ∨ vsi.state = .waitSysCmd)
    (done : vdpSSm lstVsiProfile 3 .newcmd vsi = some (vsi', sent)) :
    Moved vsi vsi' ∧ vsi'.state = .stationProc ∧ vsi'.waitWhile = vsi.respWaitDelay := by
  have action : vdpSActions lstVsiProfile .newcmd vsi.state = sProc lstVsiProfile := by
    rcases ready with state | state
    all_goals
      rw [state]
      rfl
  have ⟨key, state, delay, synced'⟩ := txTLVSysCmd_spec lstVsiProfile
    { vsi with newCmd := false, state := .stationProc } ⟨synced.sysCmd, synced.operCmd⟩
  simp only [vdpSSm, action, sProc, Option.some.injEq, Prod.mk.injEq] at done
  obtain ⟨rfl, rfl⟩ := done
  exact ⟨⟨key, fun _ => .inr (.inl state), synced'.sysCmd, synced'.operCmd⟩, state, delay⟩

/-- What a tick makes of a VSI. -/
structure Timed (vsi vsi' : TagVsiInstanceS) : Prop extends Moved vsi vsi' where
  awake : vsi'.state.Waits → vsi'.waitWhile ≠ 0
  counted : vsi.state.Waits → vsi'.state = vsi.state →
    vsi'.waitWhile.toNat + VDP_LOOP_TIMER_INTREVAL.toNat ≤ vsi.waitWhile.toNat

theorem not_waits_init : ¬ VdpSSmState.init.Waits := by
  simp [VdpSSmState.Waits]

/-- An event that the table answers with the initial state. -/
theorem init_moved {event : VdpSSmEvent} (synced : Synced vsi)
    (action : vdpSActions lstVsiProfile event vsi.state = sInit)
    (done : vdpSSm lstVsiProfile 3 event vsi = some (vsi', sent)) :
    Moved vsi vsi' ∧ vsi'.state = .init := by
  simp only [vdpSSm, action, sInit, Option.some.injEq, Prod.mk.injEq] at done
  obtain ⟨rfl, rfl⟩ := done
  exact ⟨sInit_moved synced, rfl⟩

/-- A VSI in the initial state waits for nothing. -/
theorem Timed.of_init (moved : Moved vsi vsi') (state : vsi'.state = .init) : Timed vsi vsi' := by
  refine ⟨moved, ?_, ?_⟩
  · rw [state]
    exact fun waits => absurd waits not_waits_init
  · rw [state]
    exact fun waits same => absurd (same ▸ waits) not_waits_init

theorem tKeep_changed {pTlv : List UInt8} (changed : vsi.profileChg = true)
    (built : vsi.operCmdTlvType.bind (vdpSBuildTlv lstVsiProfile vsi) = some pTlv) :
    tKeep lstVsiProfile vsi = some ⟨{ vsi with
      state := .transmitKeepalive, operCmd := some pTlv, profileChg := false,
      waitWhile := vsi.respWaitDelay }, [pTlv], none⟩ := by
  have built' : (vsi.operCmdTlvType.bind (vdpSBuildTlv lstVsiProfile
      { vsi with state := .transmitKeepalive, operCmd := none })) = some pTlv := built
  rw [tKeep, if_pos changed]
  dsimp only
  rw [built']

theorem tKeep_unchanged (unchanged : ¬ vsi.profileChg = true) :
    tKeep lstVsiProfile vsi = some ⟨{ vsi with
      state := .transmitKeepalive, waitWhile := vsi.respWaitDelay },
      vsi.operCmd.toList, none⟩ := by
  rw [tKeep, if_neg unchanged]

/-- A keepalive goes out, and its time is counted from the start. -/
theorem keep_timed (synced : Synced vsi) (state : vsi.state = .waitSysCmd)
    (idle : vsi.newCmd = false) (delay : vsi.respWaitDelay ≠ 0)
    (rebuilds : vsi.profileChg = true →
      (vsi.operCmdTlvType.bind (vdpSBuildTlv lstVsiProfile vsi)).isSome = true)
    (done : vdpSSm lstVsiProfile 3 .waitwhileEquZero vsi = some (vsi', sent)) :
    Timed vsi vsi' := by
  have action : vdpSActions lstVsiProfile .waitwhileEquZero vsi.state = tKeep lstVsiProfile := by
    rw [state]
    rfl
  have waits : ¬ vsi.state.Waits := by
    rw [state]
    simp [VdpSSmState.Waits]
  simp only [vdpSSm, action] at done
  by_cases changed : vsi.profileChg = true
  · have ⟨pTlv, built⟩ := Option.isSome_iff_exists.mp (rebuilds changed)
    simp only [tKeep_changed changed built, Option.some.injEq, Prod.mk.injEq] at done
    obtain ⟨rfl, rfl⟩ := done
    refine ⟨⟨rfl, ?_, synced.sysCmd, synced.operCmd⟩, fun _ => delay, ?_⟩
    · simp [idle]
    · exact fun waiting => absurd waiting waits
  · simp only [tKeep_unchanged changed, Option.some.injEq, Prod.mk.injEq] at done
    obtain ⟨rfl, rfl⟩ := done
    refine ⟨⟨rfl, ?_, synced.sysCmd, synced.operCmd⟩, fun _ => delay, ?_⟩
    · simp [idle]
    · exact fun waiting => absurd waiting waits

theorem tick_timed {rebuilds : Prop} (synced : Synced vsi) (ready : vsi.Ready rebuilds)
    (built : rebuilds → (vsi.operCmdTlvType.bind (vdpSBuildTlv lstVsiProfile vsi)).isSome = true)
    (done : tickVsiS lstVsiProfile vsi = some (vsi', sent)) : Timed vsi vsi' := by
  rw [tickVsiS] at done
  rw [TagVsiInstanceS.Ready] at ready
  by_cases idle : vsi.state = .idle
  · rw [if_pos idle] at done
    have ⟨moved, state⟩ := init_moved synced (by rw [idle]; rfl) done
    exact .of_init moved state
  rw [if_neg idle] at done ready
  by_cases given : vsi.newCmd = true ∧ (vsi.state = .init ∨ vsi.state = .waitSysCmd)
  · rw [if_pos given] at done ready
    have ⟨moved, state, delay⟩ := newcmd_moved synced given.2 done
    refine ⟨moved, ?_, ?_⟩
    · rw [delay]
      exact fun _ => ready
    · rw [state]
      intro waits same
      rw [← same] at given
      simp at given
  rw [if_neg given] at done ready
  by_cases passed : vsi.waitWhile ≤ VDP_LOOP_TIMER_INTREVAL
  · -- The time is over: only the listed states are left.
    rw [if_pos passed] at ready
    have ⟨noCmd, deassoc, keep⟩ := ready
    simp only [if_neg (UInt32.not_lt.mpr passed), if_true] at done
    have synced' : Synced { vsi with waitWhile := 0, newCmd := false } :=
      ⟨synced.sysCmd, synced.operCmd⟩
    split at done
    · next listed =>
      by_cases asked : vsi.state = .waitSysCmd
      · have ⟨delay, changed⟩ := keep asked
        have ticked := keep_timed synced' asked rfl delay (fun chg => built (changed chg)) done
        refine ⟨⟨ticked.key, ?_, ticked.synced⟩, ticked.awake, ?_⟩
        · simp [noCmd]
        · rw [asked]
          simp [VdpSSmState.Waits]
      · have action : vdpSActions lstVsiProfile .waitwhileEquZero vsi.state = sInit := by
          rcases listed with state | state | state
          · rw [state]
            rfl
          · exact absurd state asked
          · rw [state]
            rfl
        have ⟨moved, state⟩ := init_moved synced' action done
        refine .of_init ⟨moved.key, ?_, moved.synced⟩ state
        simp [noCmd]
    · next listed =>
      simp only [Option.some.injEq, Prod.mk.injEq] at done
      obtain ⟨rfl, rfl⟩ := done
      have waits : ¬ vsi.state.Waits := by
        intro waits
        rcases waits with state | state | state
        · exact deassoc state
        · exact listed (.inl state)
        · exact listed (.inr (.inr state))
      refine ⟨⟨rfl, ?_, synced'⟩, fun waiting => absurd waiting waits,
        fun waiting => absurd waiting waits⟩
      simp [noCmd]
  · have more : vsi.waitWhile > VDP_LOOP_TIMER_INTREVAL := UInt32.not_le.mp passed
    have left : (vsi.waitWhile - VDP_LOOP_TIMER_INTREVAL).toNat + VDP_LOOP_TIMER_INTREVAL.toNat =
        vsi.waitWhile.toNat := by
      rw [UInt32.toNat_sub_of_le _ _ (UInt32.le_of_lt more)]
      have := UInt32.lt_iff_toNat_lt.mp more
      omega
    have runs : vsi.waitWhile - VDP_LOOP_TIMER_INTREVAL ≠ 0 := by
      intro zero
      rw [zero] at left
      have := UInt32.lt_iff_toNat_lt.mp more
      simp at left
      omega
    simp only [if_pos more, if_neg runs, Option.some.injEq, Prod.mk.injEq] at done
    obtain ⟨rfl, rfl⟩ := done
    exact ⟨⟨rfl, .inl, synced.sysCmd, synced.operCmd⟩, fun _ => runs, fun _ _ => Nat.le_of_eq left⟩

/-- What an answer makes of a VSI. -/
structure Answered (vsi vsi' : TagVsiInstanceS) : Prop extends Moved vsi vsi' where
  counted : vsi.state.Waits → vsi'.state = vsi.state → vsi' = vsi

theorem Answered.of_moved (moved : Moved vsi vsi') (leaves : vsi'.state ≠ vsi.state) :
    Answered vsi vsi' :=
  ⟨moved, fun _ same => absurd same leaves⟩

theorem preassocNew_answered (synced : Synced vsi) (state : vsi.state = .stationProc)
    (done : vdpSSm lstVsiProfile 3 .preassocNew vsi = some (vsi', sent)) : Answered vsi vsi' := by
  have action : vdpSActions lstVsiProfile .preassocNew vsi.state = preNew := by
    rw [state]
    rfl
  by_cases short : vsi.sysCmdLen = 0
  · simp only [vdpSSm, action, preNew, if_pos short, Option.some.injEq, Prod.mk.injEq] at done
    obtain ⟨rfl, rfl⟩ := done
    refine .of_moved ⟨rfl, .inl, synced.sysCmd, synced.operCmd⟩ ?_
    rw [state]
    nofun
  cases copied : vsi.sysCmd with
  | none => simp [vdpSSm, action, preNew, short, copied] at done
  | some sysCmd =>
      simp only [vdpSSm, action] at done
      simp only [preNew, if_neg short, copied, vdpSActions, wtSysCmd, Option.map_some,
        Option.some.injEq, Prod.mk.injEq] at done
      obtain ⟨rfl, rfl⟩ := done
      refine .of_moved ⟨rfl, fun _ => .inr (.inr ?_), synced.sysCmd, id⟩ ?_
      · exact congrArg some synced.sysCmd
      · rw [state]
        nofun

theorem assocNew_answered (synced : Synced vsi) (state : vsi.state = .stationProc)
    (done : vdpSSm lstVsiProfile 3 .assocNew vsi = some (vsi', sent)) : Answered vsi vsi' := by
  have action : vdpSActions lstVsiProfile .assocNew vsi.state = assNew := by
    rw [state]
    rfl
  by_cases short : vsi.sysCmdLen = 0
  · simp only [vdpSSm, action, assNew, if_pos short, Option.some.injEq, Prod.mk.injEq] at done
    obtain ⟨rfl, rfl⟩ := done
    refine .of_moved ⟨rfl, .inl, synced.sysCmd, synced.operCmd⟩ ?_
    rw [state]
    nofun
  cases copied : vsi.sysCmd with
  | none => simp [vdpSSm, action, assNew, short, copied] at done
  | some sysCmd =>
      simp only [vdpSSm, action] at done
      simp only [assNew, if_neg short, copied, vdpSActions, assCmplt, wtSysCmd, Option.map_some,
        Option.some.injEq, Prod.mk.injEq] at done
      obtain ⟨rfl, rfl⟩ := done
      refine .of_moved ⟨rfl, fun _ => .inr (.inr ?_), synced.sysCmd, id⟩ ?_
      · exact congrArg some synced.sysCmd
      · rw [state]
        nofun

/-- The answer to a repeated association: what it completes is what was asked for. -/
theorem assocComplete_answered (synced : Synced vsi) (state : vsi.state = .stationProc)
    (asked : vsi.sysCmdTlvType = .associate) (was : vsi.vsiState = some .associate)
    (done : vdpSSm lstVsiProfile 3 .assocComplete vsi = some (vsi', sent)) :
    Answered vsi vsi' := by
  have action : vdpSActions lstVsiProfile .assocComplete vsi.state = assCmplt := by
    rw [state]
    rfl
  simp only [vdpSSm, action] at done
  simp only [assCmplt, vdpSActions, wtSysCmd, Option.map_some, Option.some.injEq,
    Prod.mk.injEq] at done
  obtain ⟨rfl, rfl⟩ := done
  refine .of_moved ⟨rfl, fun _ => .inr (.inr ?_), synced.sysCmd, id⟩ ?_
  · change vsi.operCmdTlvType = some vsi.cfgState
    rw [synced.operCmd was, ← synced.sysCmd, asked]
  · rw [state]
    nofun

theorem deassoc_answered (synced : Synced vsi) (state : vsi.state = .transmitKeepalive)
    (done : vdpSSm lstVsiProfile 3 .rxrespTlvtypeEquAssocAndKeep vsi = some (vsi', sent)) :
    Answered vsi vsi' := by
  have action : vdpSActions lstVsiProfile .rxrespTlvtypeEquAssocAndKeep vsi.state =
      tDeass lstVsiProfile := by
    rw [state]
    rfl
  have built := txTLVSBuildDea_spec lstVsiProfile { vsi with state := .transmitDeassoc }
  simp only [vdpSSm, action, tDeass, Option.some.injEq, Prod.mk.injEq] at done
  obtain ⟨rfl, rfl⟩ := done
  rcases built with same | same
  all_goals
    rw [same]
    refine .of_moved ⟨rfl, .inl, synced.sysCmd, synced.operCmd⟩ ?_
    rw [state]
    nofun

theorem zero_answered (synced : Synced vsi) (state : vsi.state = .transmitKeepalive)
    (done : vdpSSm lstVsiProfile 3 .rxrespReasonEquZero vsi = some (vsi', sent)) :
    Answered vsi vsi' := by
  have action : vdpSActions lstVsiProfile .rxrespReasonEquZero vsi.state = wtSysCmd := by
    rw [state]
    rfl
  simp only [vdpSSm, action, wtSysCmd, Option.some.injEq, Prod.mk.injEq] at done
  obtain ⟨rfl, rfl⟩ := done
  refine .of_moved ⟨rfl, .inl, synced.sysCmd, synced.operCmd⟩ ?_
  rw [state]
  nofun

theorem init_answered {event : VdpSSmEvent} (synced : Synced vsi) (leaves : vsi.state ≠ .init)
    (action : vdpSActions lstVsiProfile event vsi.state = sInit)
    (done : vdpSSm lstVsiProfile 3 event vsi = some (vsi', sent)) : Answered vsi vsi' := by
  have ⟨moved, state⟩ := init_moved synced action done
  exact .of_moved moved (state ▸ leaves.symm)

/-- The events that an answer can be. -/
theorem event_answered {bigendian : Bool} {type : VdpTlvType} {vdpAss : TagVdpTlvVDPAss}
    {event : VdpSSmEvent} (synced : Synced vsi)
    (raised : responseEvent bigendian vsi type vdpAss = some event)
    (done : vdpSSm lstVsiProfile 3 event vsi = some (vsi', sent)) : Answered vsi vsi' := by
  rw [responseEvent] at raised
  cases state : vsi.state
  case transmitDeassoc =>
    simp only [state, Option.some.injEq] at raised
    subst raised
    exact init_answered synced (by rw [state]; nofun) (by rw [state]; rfl) done
  case stationProc =>
    simp only [state] at raised
    split at raised
    · cases raised
      exact init_answered synced (by rw [state]; nofun) (by rw [state]; rfl) done
    split at raised
    · next same =>
      split at raised
      · split at raised
        · cases raised
          exact assocNew_answered synced state done
        · cases raised
          exact preassocNew_answered synced state done
      · split at raised
        · next again =>
          cases raised
          exact assocComplete_answered synced state (same ▸ again.2.1) again.2.2 done
        · cases raised
    · cases raised
      exact init_answered synced (by rw [state]; nofun) (by rw [state]; rfl) done
  case waitSysCmd =>
    simp only [state] at raised
    split at raised
    · cases raised
      exact init_answered synced (by rw [state]; nofun) (by rw [state]; rfl) done
    · cases raised
  case transmitKeepalive =>
    simp only [state] at raised
    split at raised
    · cases raised
      exact init_answered synced (by rw [state]; nofun) (by rw [state]; rfl) done
    split at raised
    · split at raised
      · cases raised
        exact zero_answered synced state done
      split at raised
      · cases raised
        exact deassoc_answered synced state done
      · cases raised
        exact init_answered synced (by rw [state]; nofun) (by rw [state]; rfl) done
    · cases raised
  all_goals
    simp only [state] at raised
    cases raised

theorem respond_answered {bigendian : Bool} {type : VdpTlvType} {vdpAss : TagVdpTlvVDPAss}
    (synced : Synced vsi)
    (done : respondVsi bigendian lstVsiProfile type vdpAss vsi = some (vsi', sent)) :
    Answered vsi vsi' := by
  rw [respondVsi] at done
  split at done
  · split at done
    · cases done
      exact ⟨⟨rfl, .inl, synced⟩, fun _ _ => rfl⟩
    · next event raised => exact event_answered synced raised done
  · cases done
    exact ⟨⟨rfl, .inl, synced⟩, fun _ _ => rfl⟩

end Tecs.Vdp
