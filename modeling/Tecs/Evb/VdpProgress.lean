import Tecs.Evb.VdpMachine
import Tecs.Library.Run

set_option autoImplicit false

/-! No VSI of a station waits forever. -/

namespace Tecs.Vdp

open Transition

def Station.start : Station := ⟨[], [], []⟩

/-- A frame of answers is as many calls as it has TLVs. The pool of commands and the profiles may
change in any way between two calls. -/
inductive StationCall
  | oper (attr : SPortAttr) (key : VsiKey) (oper : VdpTlvType)
  | pool (lstVsiCmdPool : List TagVsiCmdPoolItem) (lstVsiProfile : List TagVsiProfile)
  | profileChg (key : VsiKey)
  | response (type : VdpTlvType) (vdpAss : TagVdpTlvVDPAss)
  | tick (attr : SPortAttr)

variable (bigendian : Bool) (port : UInt32)

def Station.call (station : Station) : StationCall → Option Station
  | .oper attr key oper => some { station with lstVsi := vdpSOper attr key oper station.lstVsi }
  | .pool lstVsiCmdPool lstVsiProfile => some { station with lstVsiCmdPool, lstVsiProfile }
  | .profileChg key =>
      some { station with
        lstVsi := KeyedList.replace TagVsiInstanceS.key key
          (fun vsi => { vsi with profileChg := true }) station.lstVsi }
  | .response type vdpAss =>
      (station.lstVsi.mapM (respondVsi bigendian station.lstVsiProfile type vdpAss)).map
        fun done => { station with lstVsi := done.map (·.1) }
  | .tick attr => (vdpSLoopTimerHandler port attr true station).map (·.1)

def StationStep (station : Station) (label : StationCall) (next : Station) : Prop :=
  station.call bigendian port label = some next

/-- A received frame is the calls for its TLVs, one after the other. -/
def vdpSRxReceiveFrame (buf : List UInt8) (station : Station) : Option Station :=
  match vdpRxTlvs bigendian true buf with
  | none => some station
  | some rx =>
      rx.commands.foldlM (fun station (type, vdpAss) =>
        station.call bigendian port (.response type vdpAss)) station

def StationCall.isTick : StationCall → Bool
  | .tick _ => true
  | _ => false

/-- The next tick gives the VSI up for a command of the pool. -/
def Station.Cancelled (station : Station) (vsi : TagVsiInstanceS) : Prop :=
  vsi.cancelCmd = true ∨ ∃ item ∈ station.lstVsiCmdPool,
    item.port = port ∧ item.key = vsi.key ∧ item.cmdTlvType ≠ vsi.cfgState

/-- What a step has to keep to. -/
structure Progress (station : Station) (label : StationCall) (next : Station) : Prop where
  awake : label.isTick = true → ∀ vsi ∈ next.lstVsi, vsi.state.Waits → vsi.waitWhile ≠ 0
  counted : ∀ vsi ∈ station.lstVsi, ∀ vsi' ∈ next.lstVsi, vsi'.key = vsi.key →
    vsi.state.Waits → vsi'.state = vsi.state → vsi'.waitWhile.toNat +
      (if label.isTick then VDP_LOOP_TIMER_INTREVAL.toNat else 0) ≤ vsi.waitWhile.toNat
  kept : ∀ vsi ∈ station.lstVsi, vsi.newCmd = true →
    label.isTick = true ∧ station.Cancelled port vsi ∨ ∃ vsi' ∈ next.lstVsi, vsi'.key = vsi.key ∧
      (vsi'.newCmd = true ∨ Acted vsi')

/-- The profile of the VSI outlives the tick, and gives a TLV of the type last acted on. -/
def Station.Rebuilds (station : Station) (vsi : TagVsiInstanceS) : Prop :=
  (∃ item ∈ station.lstVsiCmdPool, item.key = vsi.key) ∧
    (vsi.operCmdTlvType.bind (vdpSBuildTlv station.lstVsiProfile vsi)).isSome = true

def Prompt (station : Station) : StationCall → Prop
  | .tick _ => ∀ vsi ∈ station.lstVsi, ¬ station.Cancelled port vsi →
      vsi.Ready (station.Rebuilds vsi)
  | _ => True

/-! The lists that a tick works on, one made from the other. -/

def Station.survivors (station : Station) : List TagVsiInstanceS :=
  vdpSCanDestoryVsi true (vdpFindCancelCmdVsi port station.lstVsiCmdPool station.lstVsi)

def Station.keptPool (station : Station) : List TagVsiCmdPoolItem :=
  vdpCanDestroyCmdPool port (station.survivors port) station.lstVsiCmdPool

def Station.keptProfiles (station : Station) : List TagVsiProfile :=
  vdpCanDestroyProfile (station.keptPool port) station.lstVsiProfile

def Station.visited (attr : SPortAttr) (station : Station) : List TagVsiInstanceS :=
  vdpCmdPoolNewvsi port attr (station.keptPool port) (station.survivors port)

instance (station : Station) (vsi : TagVsiInstanceS) :
    Decidable (station.Cancelled port vsi) :=
  inferInstanceAs (Decidable (_ ∨ _))

instance (station : Station) (vsi : TagVsiInstanceS) : Decidable (station.Rebuilds vsi) :=
  inferInstanceAs (Decidable (_ ∧ _))

instance (station : Station) : (label : StationCall) → Decidable (Prompt port station label)
  | .tick _ => inferInstanceAs (Decidable (∀ vsi ∈ station.lstVsi, _ → _))
  | .oper .. | .pool .. | .profileChg .. | .response .. => inferInstanceAs (Decidable True)

section Steps

variable {bigendian port} {lstVsi : List TagVsiInstanceS} {lstVsiProfile : List TagVsiProfile}

structure Sound (lstVsi : List TagVsiInstanceS) : Prop where
  nodup : (lstVsi.map TagVsiInstanceS.key).Nodup
  synced : ∀ vsi ∈ lstVsi, Synced vsi

theorem Sound.unique (sound : Sound lstVsi) {vsi vsi' : TagVsiInstanceS} (mem : vsi ∈ lstVsi)
    (mem' : vsi' ∈ lstVsi) (key : vsi'.key = vsi.key) : vsi' = vsi :=
  List.inj_on_of_nodup_map sound.nodup mem' mem key

/-- A loop over the VSIs, each of which moves. -/
theorem Sound.mapM {visit : TagVsiInstanceS → Option (TagVsiInstanceS × List (List UInt8))}
    {done : List (TagVsiInstanceS × List (List UInt8))} (sound : Sound lstVsi)
    (moved : ∀ vsi ∈ lstVsi, ∀ vsi', visit vsi = some vsi' → Moved vsi vsi'.1)
    (all : lstVsi.mapM visit = some done) : Sound (done.map (·.1)) := by
  refine ⟨?_, ?_⟩
  · have keys : done.map (fun vsi => vsi.1.key) = lstVsi.map TagVsiInstanceS.key :=
      KeyedList.map_mapM all fun vsi mem vsi' visited => (moved vsi mem vsi' visited).key
    rw [List.map_map]
    exact keys ▸ sound.nodup
  · intro vsi' mem
    obtain ⟨pair, left, rfl⟩ := List.mem_map.mp mem
    have ⟨vsi, old, visited⟩ := KeyedList.exists_of_mem_mapM all left
    exact (moved vsi old pair visited).synced

/-- Fields of a VSI that only callers of the machine set. -/
theorem replace_step {key : VsiKey} {f : TagVsiInstanceS → TagVsiInstanceS} {station : Station}
    {label : StationCall} (sound : Sound station.lstVsi) (call : label.isTick = false)
    (keys : ∀ vsi, (f vsi).key = vsi.key) (waits : ∀ vsi, (f vsi).waitWhile = vsi.waitWhile)
    (newCmd : ∀ vsi, vsi.newCmd = true → (f vsi).newCmd = true)
    (synced : ∀ vsi, Synced vsi → Synced (f vsi)) :
    let lstVsi := KeyedList.replace TagVsiInstanceS.key key f station.lstVsi
    Progress port station label { station with lstVsi } ∧ Sound lstVsi := by
  intro lstVsi
  refine ⟨⟨?_, ?_, ?_⟩, ?_, ?_⟩
  · rw [call]
    nofun
  · intro vsi mem vsi' mem' same _ _
    rw [call]
    rcases KeyedList.mem_replace mem' with old | ⟨before, found, rfl⟩
    · rw [sound.unique mem old same]
      simp
    · have eq := sound.unique mem (KeyedList.mem_of_lookup found) (keys before ▸ same)
      rw [waits, eq]
      simp
  · intro vsi mem given
    have place : vsi ∈ lstVsi ∨ f vsi ∈ lstVsi := KeyedList.mem_replace_of_mem mem
    rcases place with old | new
    · exact .inr ⟨vsi, old, rfl, .inl given⟩
    · exact .inr ⟨f vsi, new, keys vsi, .inl (newCmd vsi given)⟩
  · rw [KeyedList.map_replace keys]
    exact sound.nodup
  · intro vsi mem
    rcases KeyedList.mem_replace mem with old | ⟨before, found, rfl⟩
    · exact sound.synced vsi old
    · exact synced before (sound.synced before (KeyedList.mem_of_lookup found))

theorem response_step {station next : Station} {type : VdpTlvType} {vdpAss : TagVdpTlvVDPAss}
    (sound : Sound station.lstVsi)
    (taken : StationStep bigendian port station (.response type vdpAss) next) :
    Progress port station (.response type vdpAss) next ∧ Sound next.lstVsi := by
  rw [StationStep, Station.call] at taken
  obtain ⟨done, all, rfl⟩ := Option.map_eq_some_iff.mp taken
  have answered : ∀ vsi ∈ station.lstVsi, ∀ vsi', respondVsi bigendian station.lstVsiProfile type
      vdpAss vsi = some vsi' → Answered vsi vsi'.1 := by
    intro vsi mem vsi' visited
    exact respond_answered (sound.synced vsi mem) visited
  refine ⟨⟨nofun, ?_, ?_⟩, sound.mapM (fun vsi mem vsi' visited =>
    (answered vsi mem vsi' visited).toMoved) all⟩
  · intro vsi mem vsi' mem' same waits stays
    obtain ⟨pair, left, rfl⟩ := List.mem_map.mp mem'
    have ⟨before, old, visited⟩ := KeyedList.exists_of_mem_mapM all left
    have answer := answered before old pair visited
    obtain rfl := sound.unique mem old (answer.key ▸ same)
    rw [answer.counted waits stays]
    simp [StationCall.isTick]
  · intro vsi mem given
    have ⟨pair, new, visited⟩ := KeyedList.mem_mapM_of_mem all mem
    have answer := answered vsi mem pair visited
    exact .inr ⟨pair.1, List.mem_map_of_mem new, answer.key, answer.kept given⟩

section Tick

variable {station next : Station} {attr : SPortAttr} {vsi : TagVsiInstanceS}

/-- The test that the search for cancelled commands makes. -/
theorem cancelled_iff (station : Station) (vsi : TagVsiInstanceS) :
    station.Cancelled port vsi ↔ vsi.cancelCmd = true ∨ (station.lstVsiCmdPool.any fun item =>
      item.port = port && item.key = vsi.key && item.cmdTlvType ≠ vsi.cfgState) = true := by
  simp [Station.Cancelled, and_assoc]

theorem mem_survivors_iff : vsi ∈ station.survivors port ↔
    vsi ∈ station.lstVsi ∧ ¬ station.Cancelled port vsi ∧
      (vsi.state = .init → vsi.newCmd = true) := by
  rw [Station.survivors, vdpSCanDestoryVsi, List.mem_filter, cancelled_iff, not_or]
  constructor
  · rintro ⟨mem, stays⟩
    obtain ⟨old, left, rfl⟩ := List.mem_map.mp mem
    split at stays
    · simp at stays
    · next apart =>
      rw [if_neg apart]
      simp only [Bool.not_true, Bool.or_false, Bool.not_eq_true', Bool.or_eq_false_iff,
        Bool.and_eq_false_iff, Bool.not_eq_false', decide_eq_false_iff_not] at stays
      refine ⟨left, ⟨?_, apart⟩, fun init => stays.1.resolve_left fun other => other init⟩
      rw [stays.2]
      exact Bool.false_ne_true
  · rintro ⟨mem, ⟨free, apart⟩, stays⟩
    refine ⟨List.mem_map.mpr ⟨vsi, mem, if_neg apart⟩, ?_⟩
    by_cases init : vsi.state = .init
    · simp [stays init, free]
    · simp [init, free]

theorem mem_survivors (mem : vsi ∈ station.survivors port) :
    vsi ∈ station.lstVsi ∧ ¬ station.Cancelled port vsi :=
  ⟨(mem_survivors_iff.mp mem).1, (mem_survivors_iff.mp mem).2.1⟩

theorem survivors_of_mem (mem : vsi ∈ station.lstVsi) (given : vsi.newCmd = true)
    (goes : ¬ station.Cancelled port vsi) : vsi ∈ station.survivors port :=
  mem_survivors_iff.mpr ⟨mem, goes, fun _ => given⟩

theorem survivors_sound (sound : Sound station.lstVsi) : Sound (station.survivors port) := by
  refine ⟨?_, fun vsi mem => sound.synced vsi (mem_survivors mem).1⟩
  have keys : (vdpFindCancelCmdVsi port station.lstVsiCmdPool station.lstVsi).map
      TagVsiInstanceS.key = station.lstVsi.map TagVsiInstanceS.key := by
    rw [vdpFindCancelCmdVsi, List.map_map]
    apply List.map_congr_left
    intro vsi _
    simp only [Function.comp_apply]
    split <;> rfl
  have nodup := keys ▸ sound.nodup
  exact nodup.sublist (List.filter_sublist.map _)

/-- What the commands of the pool add to the VSIs of a port. -/
structure Added (before after : List TagVsiInstanceS) : Prop where
  kept : ∀ vsi ∈ before, vsi ∈ after
  fresh : ∀ vsi ∈ after, vsi ∈ before ∨ vsi.state = .idle
  sound : Sound before → Sound after

theorem Added.trans {first second third : List TagVsiInstanceS} (former : Added first second)
    (latter : Added second third) : Added first third where
  kept vsi mem := latter.kept vsi (former.kept vsi mem)
  fresh vsi mem := by
    rcases latter.fresh vsi mem with old | idle
    · exact former.fresh vsi old
    · exact .inr idle
  sound sound := latter.sound (former.sound sound)

theorem oper_added (attr : SPortAttr) (oper : VdpTlvType) {key : VsiKey}
    (absent : key ∉ lstVsi.map TagVsiInstanceS.key) :
    Added lstVsi (vdpSOper attr key oper lstVsi) := by
  have missing : (KeyedList.lookup TagVsiInstanceS.key key lstVsi).isSome = false := by
    rw [KeyedList.lookup_eq_none.mpr absent]
    rfl
  rw [vdpSOper, missing, if_neg (by simp), Ecp.listInsert_eq]
  refine ⟨fun vsi mem => List.mem_cons_of_mem _ mem, ?_, ?_⟩
  · intro vsi mem
    cases mem with
    | head => exact .inr rfl
    | tail _ mem => exact .inl mem
  · intro sound
    refine ⟨List.nodup_cons.mpr ⟨absent, sound.nodup⟩, ?_⟩
    intro vsi mem
    cases mem with
    | head => exact ⟨rfl, nofun⟩
    | tail _ mem => exact sound.synced vsi mem

theorem newvsi_added (attr : SPortAttr) (pool : List TagVsiCmdPoolItem) :
    ∀ lstVsi, Added lstVsi (vdpCmdPoolNewvsi port attr pool lstVsi) := by
  induction pool with
  | nil => exact fun lstVsi => ⟨fun _ => id, fun _ => .inl, id⟩
  | cons item rest ih =>
      intro lstVsi
      rw [vdpCmdPoolNewvsi]
      split
      · next added =>
        have absent : item.key ∉ lstVsi.map TagVsiInstanceS.key := by
          intro mem
          obtain ⟨vsi, mem, same⟩ := List.mem_map.mp mem
          simp only [Bool.and_eq_true, Bool.not_eq_true', List.any_eq_false,
            decide_eq_true_eq] at added
          exact added.2 vsi mem same
        exact (oper_added attr _ absent).trans (ih _)
      · exact ih lstVsi

/-- The command of a VSI that is there stays in the pool, and with it the profile. -/
theorem rebuilds_kept (mem : vsi ∈ station.survivors port) (rebuilds : station.Rebuilds vsi) :
    (vsi.operCmdTlvType.bind (vdpSBuildTlv (station.keptProfiles port) vsi)).isSome = true := by
  obtain ⟨⟨item, pooled, same⟩, built⟩ := rebuilds
  have kept : item ∈ station.keptPool port := by
    rw [Station.keptPool, vdpCanDestroyCmdPool, List.mem_filter]
    refine ⟨pooled, ?_⟩
    simp only [Bool.or_eq_true]
    refine .inr (List.any_eq_true.mpr ⟨vsi, mem, ?_⟩)
    simp [same]
  have named : ((station.keptPool port).any fun item => item.key = vsi.key) = true :=
    List.any_eq_true.mpr ⟨item, kept, by simp [same]⟩
  have profile : vdpSBuildTlv (station.keptProfiles port) vsi =
      vdpSBuildTlv station.lstVsiProfile vsi := by
    funext vdptlvType
    rw [vdpSBuildTlv, vdpSBuildTlv, Station.keptProfiles, vdpCanDestroyProfile]
    rw [KeyedList.lookup_filter (P := fun key =>
      (station.keptPool port).any fun item => item.key = key) named]
  rw [profile]
  exact built

theorem tick_init {pair : TagVsiInstanceS × List (List UInt8)} (idle : vsi.state = .idle)
    (done : tickVsiS lstVsiProfile vsi = some pair) : pair.1.state = .init := by
  rw [tickVsiS, if_pos idle] at done
  simp only [vdpSSm, idle, vdpSActions, sInit, Option.some.injEq] at done
  rw [← done]

/-- No event of the timer copies a command. -/
theorem timed_ends {event : VdpSSmEvent}
    (timed : event = .begin ∨ event = .newcmd ∨ event = .waitwhileEquZero)
    (lstVsiProfile : List TagVsiProfile) (vsi : TagVsiInstanceS) :
    ∃ done, vdpSSm lstVsiProfile 3 event vsi = some done := by
  have ends : ∃ vsi' sent,
      vdpSActions lstVsiProfile event vsi.state vsi = some ⟨vsi', sent, none⟩ := by
    rcases timed with rfl | rfl | rfl
    all_goals generalize vsi.state = state
    case inr.inr =>
      cases state
      case waitSysCmd =>
        change ∃ vsi' sent, tKeep lstVsiProfile vsi = some ⟨vsi', sent, none⟩
        rw [tKeep]
        dsimp only
        split
        · split <;> exact ⟨_, _, rfl⟩
        · exact ⟨_, _, rfl⟩
      all_goals exact ⟨_, _, rfl⟩
    all_goals
      cases state
      all_goals exact ⟨_, _, rfl⟩
  obtain ⟨vsi', sent, action⟩ := ends
  exact ⟨(vsi', sent), by rw [vdpSSm, action]⟩

theorem tick_total (lstVsiProfile : List TagVsiProfile) (vsi : TagVsiInstanceS) :
    ∃ done, tickVsiS lstVsiProfile vsi = some done := by
  rw [tickVsiS]
  split
  · exact timed_ends (.inl rfl) _ _
  split
  · exact timed_ends (.inr (.inl rfl)) _ _
  dsimp only
  generalize (if vsi.waitWhile > VDP_LOOP_TIMER_INTREVAL then
    vsi.waitWhile - VDP_LOOP_TIMER_INTREVAL else 0) = waitWhile
  split
  · split
    · exact timed_ends (.inr (.inr rfl)) _ _
    · exact ⟨_, rfl⟩
  · exact ⟨_, rfl⟩

/-- A tick has no way to fail. -/
theorem tick_enabled (station : Station) (attr : SPortAttr) :
    ∃ next, StationStep bigendian port station (.tick attr) next := by
  have total : ∀ vsi ∈ station.visited port attr,
      ∃ done, tickVsiS (station.keptProfiles port) vsi = some done :=
    fun vsi _ => tick_total (station.keptProfiles port) vsi
  have ⟨done, all⟩ := KeyedList.exists_mapM total
  simp only [StationStep, Station.call, vdpSLoopTimerHandler, Bool.not_true, Bool.false_eq_true,
    if_false, Option.map_map]
  exact ⟨_, Option.map_eq_some_iff.mpr ⟨done, all, rfl⟩⟩

theorem tick_step (sound : Sound station.lstVsi) (prompt : Prompt port station (.tick attr))
    (taken : StationStep bigendian port station (.tick attr) next) :
    Progress port station (.tick attr) next ∧ Sound next.lstVsi := by
  simp only [StationStep, Station.call, vdpSLoopTimerHandler, Bool.not_true, Bool.false_eq_true,
    if_false, Option.map_map] at taken
  obtain ⟨done, all, rfl⟩ := Option.map_eq_some_iff.mp taken
  change (station.visited port attr).mapM (tickVsiS (station.keptProfiles port)) = some done
    at all
  have added : Added (station.survivors port) (station.visited port attr) :=
    newvsi_added attr (station.keptPool port) (station.survivors port)
  have sound' := added.sound (survivors_sound sound)
  have ticked : ∀ vsi ∈ station.visited port attr, ∀ vsi',
      tickVsiS (station.keptProfiles port) vsi = some vsi' → Timed vsi vsi'.1 := by
    intro vsi mem vsi' visited
    rcases added.fresh vsi mem with old | idle
    · obtain ⟨there, goes⟩ := mem_survivors old
      exact tick_timed (sound'.synced vsi mem) (prompt vsi there goes) (rebuilds_kept old)
        visited
    · have ready : vsi.Ready False := by
        rw [TagVsiInstanceS.Ready, if_pos idle]
        trivial
      exact tick_timed (sound'.synced vsi mem) ready False.elim visited
  refine ⟨⟨?_, ?_, ?_⟩, sound'.mapM (fun vsi mem vsi' visited =>
    (ticked vsi mem vsi' visited).toMoved) all⟩
  · intro _ vsi' mem'
    obtain ⟨pair, left, rfl⟩ := List.mem_map.mp mem'
    obtain ⟨before, old, visited⟩ := KeyedList.exists_of_mem_mapM all left
    exact (ticked before old pair visited).awake
  · intro vsi mem vsi' mem' same waits stays
    obtain ⟨pair, left, rfl⟩ := List.mem_map.mp mem'
    obtain ⟨before, old, visited⟩ := KeyedList.exists_of_mem_mapM all left
    have tick := ticked before old pair visited
    rcases added.fresh before old with there | idle
    · obtain rfl := sound.unique mem (mem_survivors there).1 (tick.key ▸ same)
      exact tick.counted waits stays
    · rw [tick_init idle visited] at stays
      exact absurd (stays ▸ waits) not_waits_init
  · intro vsi mem given
    by_cases goes : station.Cancelled port vsi
    · exact .inl ⟨rfl, goes⟩
    · have there := added.kept vsi (survivors_of_mem mem given goes)
      obtain ⟨pair, new, visited⟩ := KeyedList.mem_mapM_of_mem all there
      have tick := ticked vsi there pair visited
      exact .inr ⟨pair.1, List.mem_map_of_mem new, tick.key, tick.kept given⟩

end Tick

theorem oper_step {station : Station} (attr : SPortAttr) (key : VsiKey) (oper : VdpTlvType)
    (sound : Sound station.lstVsi) :
    Progress port station (.oper attr key oper)
      { station with lstVsi := vdpSOper attr key oper station.lstVsi } ∧
      Sound (vdpSOper attr key oper station.lstVsi) := by
  by_cases there : (KeyedList.lookup TagVsiInstanceS.key key station.lstVsi).isSome = true
  · rw [vdpSOper, if_pos there]
    exact replace_step sound rfl (fun _ => rfl) (fun _ => rfl) (fun _ _ => rfl)
      fun vsi synced => ⟨rfl, synced.operCmd⟩
  have absent : key ∉ station.lstVsi.map TagVsiInstanceS.key := by
    rw [← KeyedList.lookup_eq_none]
    simpa using there
  have added := oper_added attr oper absent
  refine ⟨⟨nofun, ?_, ?_⟩, added.sound sound⟩
  · intro vsi mem vsi' mem' same waits stays
    rcases added.fresh vsi' mem' with old | idle
    · rw [sound.unique mem old same]
      simp [StationCall.isTick]
    · rw [← stays, idle] at waits
      simp [VdpSSmState.Waits] at waits
  · intro vsi mem given
    exact .inr ⟨vsi, added.kept vsi mem, rfl, .inl given⟩

theorem station_step {station next : Station} {label : StationCall}
    (sound : Sound station.lstVsi) (prompt : Prompt port station label)
    (taken : StationStep bigendian port station label next) :
    Progress port station label next ∧ Sound next.lstVsi := by
  cases label with
  | oper attr key oper =>
      obtain rfl := Option.some.inj taken
      exact oper_step attr key oper sound
  | pool lstVsiCmdPool lstVsiProfile =>
      obtain rfl := Option.some.inj taken
      refine ⟨⟨nofun, ?_, fun vsi mem given => .inr ⟨vsi, mem, rfl, .inl given⟩⟩, sound⟩
      intro vsi mem vsi' mem' same _ _
      rw [sound.unique mem mem' same]
      simp [StationCall.isTick]
  | profileChg key =>
      obtain rfl := Option.some.inj taken
      exact replace_step sound rfl (fun _ => rfl) (fun _ => rfl) (fun _ => id)
        fun vsi synced => ⟨synced.sysCmd, synced.operCmd⟩
  | response type vdpAss => exact response_step sound taken
  | tick attr => exact tick_step sound prompt taken

/-- The steps after which a VSI is in the state that it was in at first. -/
def Staying (bigendian : Bool) (port : UInt32) (vsi : TagVsiInstanceS) (station : Station)
    (label : StationCall) (next : Station) : Prop :=
  StationStep bigendian port station label next ∧
    ∃ vsi' ∈ next.lstVsi, vsi'.key = vsi.key ∧ vsi'.state = vsi.state

/-- The time that a VSI still has counts down with every tick. -/
theorem ticks_bounded {station later : Station} {labels : List StationCall}
    {vsi : TagVsiInstanceS} (sound : Sound station.lstVsi) (mem : vsi ∈ station.lstVsi)
    (waits : vsi.state.Waits)
    (run : Run (Guarded (Prompt port) (Staying bigendian port vsi)) station labels later) :
    Sound later.lstVsi ∧ ∃ vsi' ∈ later.lstVsi, vsi'.key = vsi.key ∧ vsi'.state = vsi.state ∧
      vsi'.waitWhile.toNat + labels.countP StationCall.isTick * VDP_LOOP_TIMER_INTREVAL.toNat ≤
        vsi.waitWhile.toNat := by
  induction run with
  | refl => exact ⟨sound, vsi, mem, rfl, rfl, by simp⟩
  | @snoc labels last next label _ taken ih =>
      have ⟨sound', vsi', mem', key', state', bound⟩ := ih
      obtain ⟨prompt, step, vsi'', mem'', key'', state''⟩ := taken
      have ⟨progress, sound''⟩ := station_step sound' prompt step
      have counted := progress.counted vsi' mem' vsi'' mem'' (key''.trans key'.symm)
        (state' ▸ waits) (state''.trans state'.symm)
      refine ⟨sound'', vsi'', mem'', key'', state'', ?_⟩
      rw [List.countP_append, List.countP_singleton]
      cases tick : label.isTick
      · simp only [tick, Bool.false_eq_true, if_false, Nat.add_zero] at counted ⊢
        omega
      · simp only [tick, if_true] at counted ⊢
        rw [Nat.add_mul]
        omega

/-- As long as every tick finds what it must find, a tick never fails, every step keeps to what it
has to, and no VSI waits longer than its time says. -/
theorem progress_of_prompt {labels : List StationCall} {station : Station}
    (run : Run (Guarded (Prompt port) (StationStep bigendian port)) Station.start labels
      station) :
    (∀ attr, ∃ next, StationStep bigendian port station (.tick attr) next) ∧
      (∀ label next, Prompt port station label → StationStep bigendian port station label next →
        Progress port station label next) ∧
      ∀ vsi ∈ station.lstVsi, vsi.state.Waits → ∀ labels later,
        Run (Guarded (Prompt port) (Staying bigendian port vsi)) station labels later →
          labels.countP StationCall.isTick * VDP_LOOP_TIMER_INTREVAL.toNat ≤
            vsi.waitWhile.toNat := by
  have sound : Sound station.lstVsi := by
    have start : Sound Station.start.lstVsi :=
      ⟨List.nodup_nil, fun _ mem => absurd mem List.not_mem_nil⟩
    refine run.invariant (P := fun station => Sound station.lstVsi) start ?_
    intro last label next sound taken
    exact (station_step sound taken.1 taken.2).2
  refine ⟨tick_enabled station, ?_, ?_⟩
  · intro label next prompt taken
    exact (station_step sound prompt taken).1
  · intro vsi mem waits labels later stays
    have ⟨_, vsi', _, _, _, bound⟩ := ticks_bounded sound mem waits stays
    omega

end Steps

section Examples

def Station.next (station : Station) (label : StationCall) : Station :=
  (station.call false 7 label).getD station

theorem station_next {label : StationCall} (station : Station)
    (defined : (station.call false 7 label).isSome = true) :
    StationStep false 7 station label (station.next label) := by
  rw [StationStep, Station.next]
  cases called : station.call false 7 label with
  | none => simp [called] at defined
  | some next => rfl

/-- What an exponent of 14 gives. -/
def exampleAttr : SPortAttr := ⟨24576, 16384⟩

def examplePool : StationCall :=
  .pool [⟨examplePro.vsiIDFormat, examplePro.vsiID, .associate, 7, true⟩] [examplePro]

def exampleResponse (reason : UInt8) : StationCall :=
  .response .associate ⟨3, 25, reason, examplePro.vsitypeID, examplePro.vsitypeVer,
    examplePro.vsiIDFormat, examplePro.vsiID, 1, [0, 0]⟩

/-- A command of the pool is sent at the second tick, and then waited for. -/
theorem sent_after_ticks :
    let station := [examplePool, .tick exampleAttr, .tick exampleAttr].foldl Station.next
      Station.start
    (station.lstVsi.map fun vsi => (vsi.state, vsi.waitWhile)) = [(.stationProc, 24576)] ∧
      ∀ label next, Prompt 7 station label → StationStep false 7 station label next →
        Progress 7 station label next := by
  intro station
  have run : Run (Guarded (Prompt 7) (StationStep false 7)) Station.start
      [examplePool, .tick exampleAttr, .tick exampleAttr] station :=
    ((Run.refl.snoc ⟨trivial, station_next _ (by decide)⟩).snoc
      ⟨by decide, station_next _ (by decide)⟩).snoc
        ⟨by decide, station_next _ (by decide)⟩
  exact ⟨by decide, (progress_of_prompt run).2.1⟩

/-- Nothing ends the wait for an answer to a de-association. -/
theorem stuck_in_transmitDeassoc :
    ¬ ∀ bigendian port labels station, Run (StationStep bigendian port) Station.start labels
      station → ∀ label next, StationStep bigendian port station label next →
        Progress port station label next := by
  intro all
  let station := [examplePool, .tick exampleAttr, .tick exampleAttr, exampleResponse 0,
    .tick exampleAttr, exampleResponse 0x21, .tick exampleAttr].foldl Station.next Station.start
  have run : Run (StationStep false 7) Station.start [examplePool, .tick exampleAttr,
      .tick exampleAttr, exampleResponse 0, .tick exampleAttr, exampleResponse 0x21,
      .tick exampleAttr] station :=
    ((((((Run.refl.snoc (station_next _ (by decide))).snoc
      (station_next _ (by decide))).snoc (station_next _ (by decide))).snoc
        (station_next _ (by decide))).snoc (station_next _ (by decide))).snoc
          (station_next _ (by decide))).snoc (station_next _ (by decide))
  have awake := (all false 7 _ _ run (.tick exampleAttr) _
    (station_next _ (by decide))).awake rfl
  revert awake
  decide

end Examples

end Tecs.Vdp
