import Tecs.Evb.CdcpRoundTrip
import Tecs.Lldp.LldpAgeing

set_option autoImplicit false

/-! A frame that is read to its end is well formed. -/

namespace Tecs.Lldp

open Bytes
open Tecs.Cdcp (UnpackedTlv and_nine toNat_head)

section Definitions

/-- The bytes of a TLV: its type and length in a word, and its information. -/
def tlvBytes (tlv : UnpackedTlv) : List UInt8 :=
  ofWord (tlv.type.toUInt16 <<< 9 ||| (tlv.length &&& 0x01ff)) ++ tlv.info

/-- A TLV fits the fields of its head. -/
structure Fits (tlv : UnpackedTlv) : Prop where
  type : tlv.type.toNat < 128
  length : tlv.length.toNat < 512
  info : tlv.info.length = tlv.length.toNat

/-- The TLVs of a frame: the three that are mandatory, others, and the end. -/
structure Lldpdu (chassis portid ttl : UnpackedTlv) (others : List UnpackedTlv)
    (last : UnpackedTlv) : Prop where
  first : chassis.type = CHASSIS_ID_TLV
  second : portid.type = PORT_ID_TLV
  third : ttl.type = TIME_TO_LIVE_TLV ∧ ttl.length = 2
  later : ∀ tlv ∈ others, 3 < tlv.type.toNat
  ends : last.type = END_OF_LLDPDU_TLV
  fits : ∀ tlv ∈ chassis :: portid :: ttl :: (others ++ [last]), Fits tlv

/-- No module has an error to report about any of the TLVs. -/
def Answered (env : Surroundings) (tlvs : List UnpackedTlv) : Prop :=
  ∀ i (inside : i < tlvs.length), env.rchange (tlvs.take i) tlvs[i]
    (decide (1 ≤ tlvs[i].type ∧ tlvs[i].type ≤ 8)) ≠ none

/-- The TLVs behind the header of a frame: they are well formed, at most two bytes of them are
behind the frame, and no module has an error to report. -/
structure Carries (env : Surroundings) (framein : List UInt8) (tlvs : List UnpackedTlv) :
    Prop where
  wellFormed : ∃ chassis portid ttl others last,
    tlvs = chassis :: portid :: ttl :: (others ++ [last]) ∧ Lldpdu chassis portid ttl others last
  bytes : bytesFrom env framein ETH_HDR_LEN (tlvs.flatMap tlvBytes).length = tlvs.flatMap tlvBytes
  within : ETH_HDR_LEN + (tlvs.flatMap tlvBytes).length ≤ framein.length + 2
  answered : Answered env tlvs

/-- The TLVs that were read so far are in the frame, one after the other, and the modules were shown
each of them. -/
structure Read (env : Surroundings) (framein : List UInt8) (shown : List UnpackedTlv)
    (parse : RxParse) : Prop where
  heads : ∀ i (inside : i < parse.earlier.length),
    soundHead (i + 1) parse.earlier[i].type parse.earlier[i].length = true
  fits : ∀ tlv ∈ parse.earlier, Fits tlv
  shown : parse.port.shown = shown ++ parse.earlier
  offset : parse.tlvOffset = ETH_HDR_LEN + (parse.earlier.flatMap tlvBytes).length
  bytes : bytesFrom env framein ETH_HDR_LEN (parse.earlier.flatMap tlvBytes).length =
    parse.earlier.flatMap tlvBytes
  answered : Answered env parse.earlier

/-- The types that were received while the mandatory TLVs are read. -/
def lldpduAt : ℕ → UInt16
  | 1 => 2
  | 2 => 6
  | _ => 0

/-- The TLVs that are still ahead in the frame, and nothing speaks against them. -/
structure Ahead (env : Surroundings) (framein : List UInt8) (parse : RxParse)
    (tlvs : List UnpackedTlv) : Prop where
  heads : ∀ i (inside : i < tlvs.length),
    soundHead (parse.earlier.length + i + 1) tlvs[i].type tlvs[i].length = true
  fits : ∀ tlv ∈ tlvs, Fits tlv
  early : parse.earlier.length < 3 → parse.port.lldpdu = lldpduAt parse.earlier.length
  bytes : bytesFrom env framein parse.tlvOffset (tlvs.flatMap tlvBytes).length =
    tlvs.flatMap tlvBytes
  within : parse.tlvOffset + (tlvs.flatMap tlvBytes).length ≤ framein.length + 2
  answered : ∀ i (inside : i < tlvs.length), env.rchange (parse.earlier ++ tlvs.take i) tlvs[i]
    (decide (1 ≤ tlvs[i].type ∧ tlvs[i].type ≤ 8)) ≠ none

end Definitions

section Bytes

variable {env : Surroundings} {framein : List UInt8}

theorem ofWord_word (high low : UInt8) : ofWord (word high low) = [high, low] := by
  have bound := low.toNat_lt
  have front : (word high low >>> 8).toUInt8 = high := by
    apply UInt8.toNat_inj.mp
    rw [toNat_high, toNat_word]
    omega
  have back : (word high low).toUInt8 = low := by
    apply UInt8.toNat_inj.mp
    rw [toNat_low, toNat_word]
    omega
  rw [ofWord, front, back]

theorem length_bytesFrom (pos count : ℕ) : (bytesFrom env framein pos count).length = count := by
  simp [bytesFrom]

theorem bytesFrom_add (pos count more : ℕ) : bytesFrom env framein pos (count + more) =
    bytesFrom env framein pos count ++ bytesFrom env framein (pos + count) more := by
  simp only [bytesFrom, List.range_add, List.map_append, List.map_map]
  congr 1
  apply List.map_congr_left
  intro i _
  simp only [Function.comp, Nat.add_assoc]

theorem bytesFrom_two (pos : ℕ) :
    bytesFrom env framein pos 2 = ofWord (wordAt env framein pos) := by
  rw [wordAt, ofWord_word]
  rfl

/-- The seven bits of the type. -/
theorem toNat_type (head : UInt16) : (head >>> 9).toUInt8.toNat = head.toNat / 512 := by
  have bound := head.toNat_lt
  simp only [UInt16.toNat_toUInt8, UInt16.toNat_shiftRight]
  change head.toNat >>> 9 % 2 ^ 8 = _
  rw [Nat.shiftRight_eq_div_pow]
  omega

/-- Type and length make the head that they were read from. -/
theorem head_again (head : UInt16) :
    (head >>> 9).toUInt8.toUInt16 <<< 9 ||| ((head &&& 0x01ff) &&& 0x01ff) = head := by
  have bound := head.toNat_lt
  apply UInt16.toNat_inj.mp
  rw [toNat_head _ _ (by rw [toNat_type]; omega), toNat_type, and_nine]
  omega

end Bytes

section Turns

variable {env : Surroundings} {framein : List UInt8} {shown : List UnpackedTlv}
  {parse next : RxParse}

theorem startParse_read (port : LldpPort) :
    Read env framein port.shown (startParse env framein port) :=
  ⟨fun i inside => absurd inside (Nat.not_lt_zero i), fun _ member => absurd member
    List.not_mem_nil, (List.append_nil _).symm, rfl, rfl,
    fun i inside => absurd inside (Nat.not_lt_zero i)⟩

/-- A turn without an error reads one TLV more; it is the last one if that is the end. -/
theorem turn_read (short : framein.length ≤ 65022) (read : Read env framein shown parse)
    {stops : Bool} (turned : parse.turn env framein = (false, stops, next)) :
    ∃ tlv, next.earlier = parse.earlier ++ [tlv] ∧ stops = decide (tlv.type = 0) ∧
      Read env framein shown next ∧ next.tlvOffset ≤ framein.length + 2 := by
  simp only [RxParse.turn] at turned
  split at turned
  · cases turned
  · next inside =>
    split at turned
    · cases turned
    · next sound =>
      split at turned
      · cases turned
      · next within =>
        split at turned
        · cases turned
        · next stored done =>
          split at turned
          · cases turned
          · next answered =>
            obtain ⟨head, headed⟩ : ∃ head, head = wordAt env framein parse.tlvOffset :=
              ⟨_, rfl⟩
            rw [← headed] at sound within done turned answered
            have length : (head &&& 0x01ff).toNat < 512 := by
              rw [and_nine]
              omega
            obtain ⟨tlv, made⟩ : ∃ tlv : UnpackedTlv, tlv = ⟨(head >>> 9).toUInt8, head &&& 0x01ff,
                bytesFrom env framein (parse.tlvOffset + 2) (head &&& 0x01ff).toNat⟩ := ⟨_, rfl⟩
            rw [← made] at done turned answered
            obtain ⟨-, -, kept, -⟩ := storeTlv_unread done
            simp only [Prod.mk.injEq] at turned
            obtain ⟨-, ends, rest⟩ := turned
            have fields : next.earlier = parse.earlier ++ [tlv] ∧
                next.port.shown = parse.port.shown ++ [tlv] ∧
                next.tlvOffset = parse.tlvOffset + 2 + (head &&& 0x01ff).toNat := by
              have unwrapped := Nat.mod_eq_of_lt
                (show parse.tlvOffset + 2 + (head &&& 0x01ff).toNat < 65536 by omega)
              rw [← rest]
              split
              · exact ⟨rfl, by rw [← kept], unwrapped⟩
              · exact ⟨rfl, by rw [← kept], unwrapped⟩
            obtain ⟨earlier, shows, offset⟩ := fields
            have encoded : tlvBytes tlv = bytesFrom env framein parse.tlvOffset
                (2 + (head &&& 0x01ff).toNat) := by
              rw [bytesFrom_add, bytesFrom_two, ← headed, tlvBytes, made, head_again]
            have joined : (next.earlier.flatMap tlvBytes) =
                parse.earlier.flatMap tlvBytes ++ tlvBytes tlv := by
              simp [earlier]
            have size : (tlvBytes tlv).length = 2 + (head &&& 0x01ff).toNat := by
              rw [encoded, length_bytesFrom]
            refine ⟨tlv, earlier, ?_, ⟨?_, ?_, ?_, ?_, ?_, ?_⟩, ?_⟩
            · rw [← ends, made]
            · intro i inside'
              by_cases new : i < parse.earlier.length
              · have old := read.heads i new
                simp only [earlier, List.getElem_append_left new]
                exact old
              · have here : i = parse.earlier.length := by
                  simp only [earlier, List.length_append, List.length_singleton] at inside'
                  omega
                subst here
                simp only [earlier, List.getElem_concat_length, made]
                simpa using sound
            · intro other member
              rw [earlier] at member
              rcases List.mem_append.mp member with old | new
              · exact read.fits other old
              · rw [List.mem_singleton.mp new, made]
                refine ⟨?_, length, length_bytesFrom _ _⟩
                have bound := head.toNat_lt
                rw [toNat_type]
                omega
            · rw [shows, earlier, read.shown, List.append_assoc]
            · rw [offset, joined, List.length_append, size, read.offset]
              omega
            · rw [joined, List.length_append, bytesFrom_add, read.bytes, ← read.offset, size,
                encoded]
            · intro i inside'
              by_cases new : i < parse.earlier.length
              · have old := read.answered i new
                simp only [earlier, List.getElem_append_left new,
                  List.take_append_of_le_length new.le]
                exact old
              · have here : i = parse.earlier.length := by
                  simp only [earlier, List.length_append, List.length_singleton] at inside'
                  omega
                subst here
                simp only [earlier, List.getElem_concat_length, List.take_left, made]
                rw [← made, answered]
                exact Option.some_ne_none _
            · have small := Nat.mod_eq_of_lt
                (show parse.tlvOffset + (head &&& 0x01ff).toNat < 65536 by omega)
              rw [small] at within
              omega

/-- An error ends the loop. -/
theorem turn_sound {error : Bool} (turned : parse.turn env framein = (error, false, next)) :
    error = false := by
  simp only [RxParse.turn] at turned
  split at turned
  · cases turned
  · split at turned
    · cases turned
    · split at turned
      · cases turned
      · split at turned
        · cases turned
        · split at turned
          · cases turned
          · simp only [Prod.mk.injEq] at turned
            exact turned.1.symm

/-- What a parsing without an error has read. -/
theorem run_read (short : framein.length ≤ 65022) : ∀ {turns : ℕ} {parse done : RxParse},
    Read env framein shown parse → (∀ tlv ∈ parse.earlier, tlv.type ≠ 0) →
      RxParse.run env framein turns parse = some (false, done) →
        ∃ init last, done.earlier = init ++ [last] ∧ (∀ tlv ∈ init, tlv.type ≠ 0) ∧
          last.type = 0 ∧ Read env framein shown done ∧ done.tlvOffset ≤ framein.length + 2 := by
  intro turns
  induction turns with
  | zero =>
      intro parse done _ _ ended
      cases ended
  | succ turns ih =>
      intro parse done read going ended
      rw [RxParse.run] at ended
      split at ended
      · next error next turned =>
        simp only [Option.some.injEq, Prod.mk.injEq] at ended
        obtain ⟨rfl, rfl⟩ := ended
        obtain ⟨tlv, earlier, stops, read', offset⟩ := turn_read short read turned
        exact ⟨parse.earlier, tlv, earlier, going, by simpa using stops.symm, read', offset⟩
      · next error next turned =>
        have sound := turn_sound turned
        subst sound
        obtain ⟨tlv, earlier, stops, read', -⟩ := turn_read short read turned
        refine ih read' (fun other member => ?_) ended
        rw [earlier] at member
        rcases List.mem_append.mp member with old | new
        · exact going other old
        · rw [List.mem_singleton.mp new]
          simpa using stops.symm

/-- The first three heads are those of the mandatory TLVs, and no later one is. -/
theorem Read.lldpdu (read : Read env framein shown parse) {init : List UnpackedTlv}
    {last : UnpackedTlv} (earlier : parse.earlier = init ++ [last])
    (going : ∀ tlv ∈ init, tlv.type ≠ 0) (ends : last.type = 0) :
    ∃ chassis portid ttl others,
      parse.earlier = chassis :: portid :: ttl :: (others ++ [last]) ∧
        Lldpdu chassis portid ttl others last := by
  have heads : ∀ i (inside : i < (init ++ [last]).length),
      soundHead (i + 1) (init ++ [last])[i].type (init ++ [last])[i].length = true := by
    simpa only [earlier] using read.heads
  have fits : ∀ tlv ∈ init ++ [last], Fits tlv := earlier ▸ read.fits
  have number (i : ℕ) (inside : i < (init ++ [last]).length) (early : i + 1 ≤ 3) :
      (init ++ [last])[i].type.toNat = i + 1 := by
    have head := heads i inside
    simp only [soundHead, if_pos early, Bool.and_eq_true, decide_eq_true_eq] at head
    exact head.1
  have many : 3 ≤ init.length := by
    by_contra few
    have inside : init.length < (init ++ [last]).length := by simp
    have first := number init.length inside (by omega)
    rw [List.getElem_concat_length rfl, ends] at first
    exact absurd first (by simp)
  obtain ⟨chassis, portid, ttl, others, rfl⟩ : ∃ chassis portid ttl others,
      init = chassis :: portid :: ttl :: others := by
    obtain _ | ⟨chassis, _ | ⟨portid, _ | ⟨ttl, others⟩⟩⟩ := init
    · simp at many
    · simp at many
    · simp at many
    · exact ⟨chassis, portid, ttl, others, rfl⟩
  refine ⟨chassis, portid, ttl, others, earlier, ?_⟩
  have first := number 0 (by simp) (by decide)
  have second := number 1 (by simp) (by decide)
  have third := number 2 (by simp) (by decide)
  have two := heads 2 (by simp)
  refine ⟨UInt8.toNat_inj.mp first, UInt8.toNat_inj.mp second, ⟨UInt8.toNat_inj.mp third, ?_⟩, ?_,
    ends, fits⟩
  · have type : ttl.type = TIME_TO_LIVE_TLV := UInt8.toNat_inj.mp third
    simp only [soundHead, Bool.and_eq_true, Bool.not_eq_true', decide_eq_false_iff_not] at two
    by_contra other
    exact two.2 ⟨type, other⟩
  · intro tlv member
    obtain ⟨i, inside, rfl⟩ := List.getElem_of_mem member
    have inside' : i + 3 < ((chassis :: portid :: ttl :: others) ++ [last]).length := by
      simp only [List.length_append, List.length_cons, List.length_nil]
      omega
    have head := heads (i + 3) inside'
    have late : ¬ i + 3 + 1 ≤ 3 := by omega
    have here : ((chassis :: portid :: ttl :: others) ++ [last])[i + 3] = others[i] := by
      simp [List.getElem_append_left, inside]
    simp only [here, soundHead, if_neg late, Bool.and_eq_true, decide_eq_true_eq] at head
    rcases head.1 with zero | more
    · exact absurd zero (going _ (by simp))
    · exact UInt8.lt_iff_toNat_lt.mp more

/-- The head and the information of a TLV, from its bytes. -/
theorem tlvBytes_read {tlv : UnpackedTlv} {pos : ℕ} (fits : Fits tlv)
    (bytes : bytesFrom env framein pos (tlvBytes tlv).length = tlvBytes tlv) :
    (wordAt env framein pos >>> 9).toUInt8 = tlv.type ∧
      wordAt env framein pos &&& 0x01ff = tlv.length ∧
      bytesFrom env framein (pos + 2) tlv.length.toNat = tlv.info := by
  have size : (tlvBytes tlv).length = 2 + tlv.length.toNat := by
    rw [tlvBytes, List.length_append, length_ofWord, fits.info]
  rw [size, bytesFrom_add, bytesFrom_two, tlvBytes] at bytes
  obtain ⟨head, info⟩ := List.append_inj bytes rfl
  have number : (wordAt env framein pos).toNat = tlv.type.toNat * 512 + tlv.length.toNat := by
    have same := congrArg (fun front => (word (front.getD 0 0) (front.getD 1 0)).toNat) head
    simp only [ofWord, List.getD_cons_zero, List.getD_cons_succ, word_ofWord,
      toNat_head _ _ fits.type] at same
    rw [same, Nat.mod_eq_of_lt fits.length]
  have long := fits.length
  refine ⟨?_, ?_, info⟩
  · apply UInt8.toNat_inj.mp
    rw [toNat_type, number]
    omega
  · apply UInt16.toNat_inj.mp
    rw [and_nine, number]
    omega

/-- The types that were received, after a TLV. -/
def receivedAfter (lldpdu : UInt16) (type : UInt8) : UInt16 :=
  if type = 0 ∨ type > 8 then lldpdu else lldpdu ||| RCVD_LLDP_TLV type

theorem storeTlv_receives {tlv : UnpackedTlv}
    (once : tlv.type ≤ 3 → tlv.type ≠ 0 → parse.received tlv.type = false) :
    ∃ next, parse.storeTlv tlv = some next ∧
      next.port.lldpdu = receivedAfter parse.port.lldpdu tlv.type := by
  rw [RxParse.storeTlv]
  split
  · next skipped => exact ⟨parse, rfl, by rw [receivedAfter, if_pos skipped]⟩
  · next stores =>
    have new : ¬ (tlv.type ≤ 3 ∧ parse.received tlv.type = true) := by
      rintro ⟨early, again⟩
      have first := once early fun zero => stores (.inl zero)
      exact absurd (first.symm.trans again) (by decide)
    rw [if_neg new, receivedAfter, if_neg stores]
    refine ⟨_, rfl, ?_⟩
    split
    · rw [RxParse.chassisId]
      split
      · rfl
      · split <;> rfl
    · split
      · rw [RxParse.portId]
        split
        · rfl
        · split <;> rfl
      · split
        · simp only [RxParse.timeToLive]
          split <;> rfl
        · rfl

/-- A TLV that is in the frame is read, unless a module has an error to report. -/
theorem turn_reads (short : framein.length ≤ 65022) {tlv : UnpackedTlv} (fits : Fits tlv)
    (sound : soundHead (parse.earlier.length + 1) tlv.type tlv.length = true)
    (bytes : bytesFrom env framein parse.tlvOffset (tlvBytes tlv).length = tlvBytes tlv)
    (within : parse.tlvOffset + tlv.length.toNat ≤ framein.length)
    (once : tlv.type ≤ 3 → tlv.type ≠ 0 → parse.received tlv.type = false)
    (answered : env.rchange parse.earlier tlv (decide (1 ≤ tlv.type ∧ tlv.type ≤ 8)) ≠ none) :
    ∃ next, parse.turn env framein = (false, decide (tlv.type = 0), next) ∧
      next.earlier = parse.earlier ++ [tlv] ∧
      next.tlvOffset = parse.tlvOffset + 2 + tlv.length.toNat ∧
      next.port.lldpdu = receivedAfter parse.port.lldpdu tlv.type := by
  obtain ⟨type, length, info⟩ := tlvBytes_read fits bytes
  obtain ⟨stored, stores, received⟩ := storeTlv_receives once
  obtain ⟨answer, answers⟩ := Option.ne_none_iff_exists'.mp answered
  have inside : ¬ parse.tlvOffset > framein.length := by omega
  have unwrapped := Nat.mod_eq_of_lt
    (show parse.tlvOffset + tlv.length.toNat < 65536 by omega)
  have unwrapped' := Nat.mod_eq_of_lt
    (show parse.tlvOffset + 2 + tlv.length.toNat < 65536 by omega)
  have inside' : ¬ parse.tlvOffset + tlv.length.toNat > framein.length := by omega
  have same : (⟨tlv.type, tlv.length, tlv.info⟩ : UnpackedTlv) = tlv := rfl
  simp only [RxParse.turn, if_neg inside, type, length, info, sound, Bool.not_true,
    Bool.false_eq_true, if_false, unwrapped, if_neg inside', same, stores, answers, unwrapped']
  refine ⟨_, rfl, ?_⟩
  split
  · exact ⟨rfl, rfl, received⟩
  · exact ⟨rfl, rfl, received⟩

/-- The first of the types that may come once is received once. -/
theorem received_once {count : ℕ} {type : UInt8} {length : UInt16}
    (sound : soundHead (count + 1) type length = true)
    (early : count < 3 → parse.port.lldpdu = lldpduAt count) :
    (type ≤ 3 → type ≠ 0 → parse.received type = false) ∧
      (count + 1 < 3 → receivedAfter parse.port.lldpdu type = lldpduAt (count + 1)) := by
  by_cases few : count + 1 ≤ 3
  · have number : type.toNat = count + 1 := by
      simp only [soundHead, if_pos few, Bool.and_eq_true, decide_eq_true_eq] at sound
      exact sound.1
    have lldpdu := early (by omega)
    rcases show count = 0 ∨ count = 1 ∨ count = 2 by omega with rfl | rfl | rfl
    · obtain rfl : type = 1 := UInt8.toNat_inj.mp number
      rw [RxParse.received, lldpdu]
      exact ⟨fun _ _ => rfl, fun _ => rfl⟩
    · obtain rfl : type = 2 := UInt8.toNat_inj.mp number
      rw [RxParse.received, lldpdu]
      exact ⟨fun _ _ => rfl, fun _ => rfl⟩
    · obtain rfl : type = 3 := UInt8.toNat_inj.mp number
      rw [RxParse.received, lldpdu]
      exact ⟨fun _ _ => rfl, fun more => absurd more (by decide)⟩
  · refine ⟨fun low nonzero => ?_, fun more => absurd more (by omega)⟩
    simp only [soundHead, if_neg few, Bool.and_eq_true, decide_eq_true_eq] at sound
    rcases sound.1 with zero | high
    · exact absurd zero nonzero
    · exact absurd (UInt8.lt_iff_toNat_lt.mp high)
        (not_lt.mpr (UInt8.le_iff_toNat_le.mp low))

theorem Ahead.turn (short : framein.length ≤ 65022) {tlv : UnpackedTlv}
    {tlvs : List UnpackedTlv} (ahead : Ahead env framein parse (tlv :: tlvs)) :
    ∃ next, parse.turn env framein = (false, decide (tlv.type = 0), next) ∧
      next.earlier = parse.earlier ++ [tlv] ∧ Ahead env framein next tlvs := by
  have fits := ahead.fits tlv List.mem_cons_self
  have sound := ahead.heads 0 (Nat.zero_lt_succ _)
  have size : (tlvBytes tlv).length = 2 + tlv.length.toNat := by
    rw [tlvBytes, List.length_append, length_ofWord, fits.info]
  have bytes := ahead.bytes
  have within := ahead.within
  rw [List.flatMap_cons, List.length_append] at within
  rw [List.flatMap_cons, List.length_append, bytesFrom_add] at bytes
  obtain ⟨front, back⟩ := List.append_inj bytes (length_bytesFrom _ _)
  obtain ⟨once, later⟩ := received_once sound ahead.early
  have answered := ahead.answered 0 (Nat.zero_lt_succ _)
  simp only [List.take_zero, List.append_nil, List.getElem_cons_zero] at answered
  obtain ⟨next, turned, earlier, offset, received⟩ :=
    turn_reads short fits sound front (by omega) once answered
  have count : next.earlier.length = parse.earlier.length + 1 := by simp [earlier]
  refine ⟨next, turned, earlier, ?_, fun other member => ahead.fits other (.tail _ member), ?_, ?_,
    ?_, ?_⟩
  · intro i inside
    have head := ahead.heads (i + 1) (Nat.succ_lt_succ inside)
    rw [count, Nat.add_assoc parse.earlier.length 1 i, Nat.add_comm 1 i]
    exact head
  · rw [count, received]
    exact later
  · rw [offset, Nat.add_assoc, ← size]
    exact back
  · rw [offset]
    omega
  · intro i inside
    have answer := ahead.answered (i + 1) (Nat.succ_lt_succ inside)
    rw [earlier, List.append_assoc]
    exact answer

/-- What is ahead is read, up to the end. -/
theorem run_reads (short : framein.length ≤ 65022) {last : UnpackedTlv} (ends : last.type = 0) :
    ∀ {init : List UnpackedTlv} {turns : ℕ} {parse : RxParse}, (∀ tlv ∈ init, tlv.type ≠ 0) →
      Ahead env framein parse (init ++ [last]) → init.length < turns →
        ∃ done, RxParse.run env framein turns parse = some (false, done) ∧
          done.earlier = parse.earlier ++ (init ++ [last]) := by
  intro init
  induction init with
  | nil =>
      intro turns parse _ ahead many
      obtain ⟨turns, rfl⟩ := Nat.exists_eq_succ_of_ne_zero (Nat.ne_of_gt many)
      obtain ⟨next, turned, earlier, -⟩ := ahead.turn short
      refine ⟨next, ?_, earlier⟩
      rw [RxParse.run, turned, decide_eq_true ends]
  | cons tlv init ih =>
      intro turns parse going ahead many
      obtain ⟨turns, rfl⟩ := Nat.exists_eq_succ_of_ne_zero (Nat.ne_of_gt (Nat.zero_lt_of_lt many))
      obtain ⟨next, turned, earlier, rest⟩ := ahead.turn short
      obtain ⟨done, ran, all⟩ := ih (fun other member => going other (.tail _ member)) rest
        (Nat.lt_of_succ_lt_succ many)
      refine ⟨done, ?_, ?_⟩
      · rw [RxParse.run, turned, decide_eq_false (going tlv List.mem_cons_self)]
        exact ran
      · rw [all, earlier, List.append_assoc]
        rfl

/-- All that a frame carries is ahead at the start. -/
theorem Carries.ahead {tlvs : List UnpackedTlv} (carries : Carries env framein tlvs)
    (port : LldpPort) : Ahead env framein (startParse env framein port) tlvs := by
  obtain ⟨chassis, portid, ttl, others, last, rfl, lldpdu⟩ := carries.wellFormed
  refine ⟨?_, lldpdu.fits, fun _ => rfl, carries.bytes, carries.within, ?_⟩
  · intro i inside
    change soundHead (0 + i + 1) _ _ = true
    rw [Nat.zero_add]
    obtain _ | _ | _ | i := i
    · simp [soundHead, lldpdu.first, CHASSIS_ID_TLV, TIME_TO_LIVE_TLV]
    · simp [soundHead, lldpdu.second, PORT_ID_TLV, TIME_TO_LIVE_TLV]
    · simp [soundHead, lldpdu.third.1, lldpdu.third.2, TIME_TO_LIVE_TLV]
    · have inside' : i < (others ++ [last]).length := by
        simpa only [List.length_cons, Nat.add_lt_add_iff_right] using inside
      have type : (others ++ [last])[i].type = 0 ∨ 3 < (others ++ [last])[i].type.toNat := by
        rcases List.mem_append.mp (List.getElem_mem inside') with other | final
        · exact .inr (lldpdu.later _ other)
        · rw [List.mem_singleton.mp final]
          exact .inl lldpdu.ends
      have late : ¬ i + 3 + 1 ≤ 3 := by omega
      simp only [List.getElem_cons_succ, soundHead, if_neg late, Bool.and_eq_true,
        decide_eq_true_eq, Bool.not_eq_true', decide_eq_false_iff_not]
      rcases type with zero | high
      · refine ⟨.inl zero, fun ttl => ?_⟩
        rw [zero] at ttl
        exact absurd ttl.1 (by decide)
      · refine ⟨.inr (UInt8.lt_iff_toNat_lt.mpr high), fun ttl => ?_⟩
        rw [ttl.1] at high
        exact absurd high (by decide)
  · intro i inside
    exact carries.answered i inside

end Turns

section Frames

variable {env : Surroundings} {port : LldpPort} {framein : List UInt8}
  {tlvs : List UnpackedTlv}

/-- The frames that are kept are those that are well formed, and what the modules are shown of one
are the TLVs whose bytes are behind its header. -/
theorem frame_kept_iff (arrived : port.rx.framein = some framein)
    (header : ETH_HDR_LEN ≤ framein.length) (short : framein.length ≤ 65022) :
    (∃ last, rxProcessFrame env port = some last ∧ last.rx.framein = some framein ∧
      last.shown = port.shown ++ tlvs) ↔ Carries env framein tlvs := by
  have positive : ¬ framein.length = 0 := by
    rw [ETH_HDR_LEN] at header
    omega
  have processes : rxProcessFrame env port =
      (RxParse.run env framein framein.length (startParse env framein port)).map fun done =>
        if done.1 then discardFrame done.2.port else done.2.port := by
    simp only [rxProcessFrame, arrived, if_neg positive]
  have nothing : ∀ tlv ∈ (startParse env framein port).earlier, tlv.type ≠ 0 :=
    fun _ member => absurd member List.not_mem_nil
  constructor
  · rintro ⟨last, processed, kept, shown⟩
    rw [processes] at processed
    obtain ⟨⟨error, done⟩, ended, made⟩ := Option.map_eq_some_iff.mp processed
    cases error with
    | true =>
        rw [← made] at kept
        cases kept
    | false =>
        obtain ⟨init, ending, earlier, going, ends, read, offset⟩ :=
          run_read short (startParse_read port) nothing ended
        have all : done.earlier = tlvs := by
          have shows : last.shown = port.shown ++ done.earlier := by
            rw [← made]
            exact read.shown
          exact List.append_cancel_left (shows.symm.trans shown)
        obtain ⟨chassis, portid, ttl, others, parts, lldpdu⟩ := read.lldpdu earlier going ends
        rw [← all]
        refine ⟨⟨chassis, portid, ttl, others, ending, parts, lldpdu⟩, read.bytes, ?_,
          read.answered⟩
        rw [← read.offset]
        exact offset
  · intro carries
    have ahead := carries.ahead port
    obtain ⟨chassis, portid, ttl, others, ending, rfl, lldpdu⟩ := carries.wellFormed
    have going : ∀ tlv ∈ chassis :: portid :: ttl :: others, tlv.type ≠ 0 := by
      intro tlv member zero
      simp only [List.mem_cons] at member
      rcases member with rfl | rfl | rfl | other
      · exact absurd (lldpdu.first.symm.trans zero) (by decide)
      · exact absurd (lldpdu.second.symm.trans zero) (by decide)
      · exact absurd (lldpdu.third.1.symm.trans zero) (by decide)
      · have high := lldpdu.later tlv other
        rw [zero] at high
        exact absurd high (by decide)
    have room : (chassis :: portid :: ttl :: others).length < framein.length := by
      have sizes (tlvs : List UnpackedTlv) :
          2 * tlvs.length ≤ (tlvs.flatMap tlvBytes).length := by
        induction tlvs with
        | nil => exact le_rfl
        | cons tlv tlvs ih =>
            rw [List.flatMap_cons, List.length_append, tlvBytes, List.length_append,
              length_ofWord, List.length_cons]
            omega
      have size := sizes (chassis :: portid :: ttl :: (others ++ [ending]))
      have within := carries.within
      simp only [List.length_cons, List.length_append, List.length_nil, ETH_HDR_LEN] at *
      omega
    obtain ⟨done, ran, earlier⟩ := run_reads short lldpdu.ends going ahead room
    obtain ⟨-, -, -, -, -, read, -⟩ := run_read short (startParse_read port) nothing ran
    refine ⟨done.port, ?_, ?_, ?_⟩
    · rw [processes, ran]
      rfl
    · have same := congrArg (fun port : LldpPort => port.rx.framein) (run_unread ran).1
      exact Eq.trans same arrived
    · rw [read.shown, earlier]
      rfl

theorem frame_kept_iff_greeting : Carries plain greeting.bytes
    [⟨1, 7, [4, 2, 0, 0, 0, 0, 2]⟩, ⟨2, 5, [5, 101, 116, 104, 49]⟩, ⟨3, 2, [0, 120]⟩, ⟨0, 0, []⟩] :=
  (@frame_kept_iff plain (eth0.arrival greeting) _ _ rfl greeting.header greeting.short).mp
    ⟨_, rfl, rfl, rfl⟩

end Frames

end Tecs.Lldp
