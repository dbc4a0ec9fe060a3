import Tecs.Evb.CdcpTlv

set_option autoImplicit false

/-! Which CDCP TLVs arrive as they were sent. -/

namespace Tecs.Cdcp

open Bytes

section Pair

variable (pair : TagCdcpScidSvidPair)

/-- The byte that both values share holds the low four bits alone. -/
theorem shared_lt : ((pair.wSvid &&& 0x00F).toUInt8 |||
    ((pair.wScid >>> 8) &&& 0x00F).toUInt8).toNat < 16 := by
  have low : (pair.wSvid &&& 0x00F).toUInt8.toNat < 2 ^ 4 := by
    have bound : (pair.wSvid &&& 0x00F).toNat < 16 := by
      rw [UInt16.toNat_and]
      exact Nat.lt_succ_of_le Nat.and_le_right
    rw [UInt16.toNat_toUInt8]
    omega
  have high : ((pair.wScid >>> 8) &&& 0x00F).toUInt8.toNat < 2 ^ 4 := by
    have bound : ((pair.wScid >>> 8) &&& 0x00F).toNat < 16 := by
      rw [UInt16.toNat_and]
      exact Nat.lt_succ_of_le Nat.and_le_right
    rw [UInt16.toNat_toUInt8]
    omega
  rw [UInt8.toNat_or]
  exact Nat.or_lt_two_pow low high

theorem and_low (value : UInt16) : (value &&& 0x00F).toNat = value.toNat % 16 := by
  rw [UInt16.toNat_and]
  exact Nat.and_two_pow_sub_one_eq_mod value.toNat 4

theorem and_byte (value : UInt16) : (value &&& 0x00FF).toNat = value.toNat % 256 := by
  rw [UInt16.toNat_and]
  exact Nat.and_two_pow_sub_one_eq_mod value.toNat 8

theorem toNat_wScid (b₀ b₁ b₂ : UInt8) :
    (unpackScidSvid b₀ b₁ b₂).wScid.toNat = b₁.toNat / 16 * 256 + b₀.toNat := by
  have small := b₁.toNat_lt
  have nibble : ((b₁.toUInt16 >>> 4) &&& 0x000F).toNat = b₁.toNat / 16 := by
    rw [and_low, UInt16.toNat_shiftRight, UInt8.toNat_toUInt16]
    change b₁.toNat >>> 4 % 16 = _
    rw [Nat.shiftRight_eq_div_pow]
    omega
  have shifted : ((b₁.toUInt16 >>> 4) &&& 0x000F).toNat <<< 8 % 2 ^ 16 =
      (b₁.toNat / 16) <<< 8 := by
    rw [nibble, Nat.shiftLeft_eq]
    omega
  rw [unpackScidSvid, UInt16.toNat_or, UInt16.toNat_shiftLeft, UInt8.toNat_toUInt16]
  change ((b₁.toUInt16 >>> 4) &&& 0x000F).toNat <<< 8 % 2 ^ 16 ||| b₀.toNat = _
  rw [shifted, ← Nat.shiftLeft_add_eq_or_of_lt b₀.toNat_lt, Nat.shiftLeft_eq]

set_option maxRecDepth 4096 in
theorem toNat_high_bits (byte : UInt8) :
    ((byte.toUInt16 <<< 4) &&& 0xFFF0).toNat = byte.toNat <<< 4 := by
  cases byte with
  | ofBitVec byte =>
    cases byte with
    | ofFin byte =>
      revert byte
      decide

theorem toNat_wSvid (b₀ b₁ b₂ : UInt8) :
    (unpackScidSvid b₀ b₁ b₂).wSvid.toNat = b₂.toNat * 16 + b₁.toNat % 16 := by
  have shifted := toNat_high_bits b₂
  have low : b₁.toNat % 16 < 2 ^ 4 := Nat.mod_lt _ (by decide)
  rw [unpackScidSvid, UInt16.toNat_or, and_low, UInt8.toNat_toUInt16, shifted,
    ← Nat.shiftLeft_add_eq_or_of_lt low, Nat.shiftLeft_eq]

/-- The pair that the receiver makes of the bytes of a pair. -/
def TagCdcpScidSvidPair.arrives (pair : TagCdcpScidSvidPair) : TagCdcpScidSvidPair :=
  unpackScidSvid (pair.wScid &&& 0x00FF).toUInt8
    ((pair.wSvid &&& 0x00F).toUInt8 ||| ((pair.wScid >>> 8) &&& 0x00F).toUInt8)
    ((pair.wSvid >>> 4).toUInt8 &&& 0x00FF)

/-- The high bits of a channel never arrive. -/
theorem arrives_wScid : pair.arrives.wScid.toNat = pair.wScid.toNat % 256 := by
  have none := Nat.div_eq_of_lt (shared_lt pair)
  rw [TagCdcpScidSvidPair.arrives, toNat_wScid, none, UInt16.toNat_toUInt8, and_byte]
  omega

theorem arrives_wSvid (low : pair.wScid.toNat < 256) :
    pair.arrives.wSvid.toNat = pair.wSvid.toNat % 4096 := by
  have bound := pair.wSvid.toNat_lt
  have shared : ((pair.wSvid &&& 0x00F).toUInt8 |||
      ((pair.wScid >>> 8) &&& 0x00F).toUInt8).toNat = pair.wSvid.toNat % 16 := by
    have none : ((pair.wScid >>> 8) &&& 0x00F).toUInt8.toNat = 0 := by
      rw [UInt16.toNat_toUInt8, and_low, UInt16.toNat_shiftRight]
      change pair.wScid.toNat >>> 8 % 16 % 2 ^ 8 = 0
      rw [Nat.shiftRight_eq_div_pow, Nat.div_eq_of_lt low]
    rw [UInt8.toNat_or, none, Nat.or_zero, UInt16.toNat_toUInt8, and_low]
    omega
  have high : ((pair.wSvid >>> 4).toUInt8 &&& 0x00FF).toNat = pair.wSvid.toNat / 16 % 256 := by
    rw [UInt8.toNat_and, UInt16.toNat_toUInt8, UInt16.toNat_shiftRight]
    change pair.wSvid.toNat >>> 4 % 2 ^ 8 &&& 2 ^ 8 - 1 = _
    rw [Nat.and_two_pow_sub_one_eq_mod, Nat.shiftRight_eq_div_pow]
    omega
  rw [TagCdcpScidSvidPair.arrives, toNat_wSvid, shared, high]
  omega

def TagCdcpScidSvidPair.Fits (pair : TagCdcpScidSvidPair) : Prop :=
  pair.wScid < 256 ∧ pair.wSvid < 4096

theorem arrives_iff : pair.arrives = pair ↔ pair.Fits := by
  have scid := arrives_wScid pair
  rw [TagCdcpScidSvidPair.Fits, UInt16.lt_iff_toNat_lt, UInt16.lt_iff_toNat_lt]
  change _ ↔ pair.wScid.toNat < 256 ∧ pair.wSvid.toNat < 4096
  constructor
  · intro same
    rw [same] at scid
    have low : pair.wScid.toNat < 256 := by omega
    have svid := arrives_wSvid pair low
    rw [same] at svid
    exact ⟨low, by omega⟩
  · intro fits
    have svid := arrives_wSvid pair fits.1
    have same : pair.arrives.wScid = pair.wScid ∧ pair.arrives.wSvid = pair.wSvid := by
      rw [← UInt16.toNat_inj, ← UInt16.toNat_inj]
      omega
    exact TagCdcpScidSvidPair.ext same.1 same.2

end Pair

section BitFields

variable (bigendian : Bool)

theorem CdcpBits.value_lt (bits : CdcpBits) : bits.value bigendian < 2 ^ 32 := by
  have role := bits.bitRole.isLt
  have sComp := bits.bitSComp.isLt
  have chnCap := bits.bitChnCap.isLt
  rw [CdcpBits.value]
  split <;> omega

theorem CdcpBits.ofValue_value (bits : CdcpBits) :
    CdcpBits.ofValue bigendian (bits.value bigendian) = bits := by
  obtain ⟨role, sComp, chnCap⟩ := bits
  have role_lt := role.isLt
  have sComp_lt := sComp.isLt
  have chnCap_lt := chnCap.isLt
  cases bigendian
  all_goals
    simp only [CdcpBits.value, CdcpBits.ofValue, Bool.false_eq_true, if_false, if_true,
      CdcpBits.mk.injEq, Fin.ext_iff, Fin.ofNat]
    omega

/-- The bytes of a word make the word again. -/
theorem hostWord_hostBytes {value : ℕ} (bound : value < 2 ^ 32) :
    ∃ b₀ b₁ b₂ b₃, hostBytes bigendian value = [b₀, b₁, b₂, b₃] ∧
      hostWord bigendian b₀ b₁ b₂ b₃ = value := by
  cases bigendian
  all_goals
    refine ⟨_, _, _, _, rfl, ?_⟩
    simp only [hostWord, Bool.false_eq_true, if_false, if_true, UInt8.toNat_ofNat']
    omega

end BitFields

section Pairs

theorem length_unpackPairs (listCount : ℕ) :
    ∀ bytes pairs, unpackPairs listCount bytes = some pairs → pairs.length = listCount := by
  induction listCount with
  | zero =>
      intro bytes pairs done
      simp only [unpackPairs, Option.some.injEq] at done
      rw [← done]
      rfl
  | succ listCount ih =>
      intro bytes pairs done
      match bytes with
      | b₀ :: b₁ :: b₂ :: rest =>
          obtain ⟨later, later_done, rfl⟩ := Option.map_eq_some_iff.mp done
          rw [List.length_cons, ih rest later later_done]
      | [] | [_] | [_, _] => cases done

theorem unpackPairs_pack (pairs : List TagCdcpScidSvidPair) :
    unpackPairs pairs.length (pairs.flatMap packScidSvid) =
      some (pairs.map TagCdcpScidSvidPair.arrives) := by
  induction pairs with
  | nil => rfl
  | cons pair rest ih =>
      rw [List.length_cons, List.flatMap_cons, packScidSvid, List.cons_append, List.cons_append,
        List.cons_append, List.nil_append, unpackPairs, ih]
      rfl

theorem length_pack (pairs : List TagCdcpScidSvidPair) :
    (pairs.flatMap packScidSvid).length = pairs.length * 3 := by
  induction pairs with
  | nil => rfl
  | cons pair rest ih =>
      rw [List.flatMap_cons, List.length_append, ih, List.length_cons]
      have three : (packScidSvid pair).length = 3 := rfl
      omega

theorem map_arrives_iff (pairs : List TagCdcpScidSvidPair) :
    pairs.map TagCdcpScidSvidPair.arrives = pairs ↔ ∀ pair ∈ pairs, pair.Fits := by
  induction pairs with
  | nil => simp
  | cons pair rest ih =>
      rw [List.map_cons, List.cons.injEq, ih, arrives_iff, List.forall_mem_cons]

end Pairs

section Block

variable {bigendian : Bool} {data : TagCdcpRunningData} {tlv : PackedTlv}

/-- The bit-fields of the TLV of a port. -/
def TagCdcpRunningData.bits (data : TagCdcpRunningData) : CdcpBits where
  bitRole := if data.ucOperRole = .s then 1 else 0
  bitSComp := if data.bSCompEnable then 1 else 0
  bitChnCap := Fin.ofNat 4096 data.wOperChnCap.toNat

def TagCdcpRunningData.body (bigendian : Bool) (data : TagCdcpRunningData) : List UInt8 :=
  hton24 OUI_IEEE_8021 ++ LLDP_CDCP_SUBTYPE ::
    (hostBytes bigendian (data.bits.value bigendian) ++ data.lstOperSVIDList.flatMap packScidSvid)

def TagCdcpRunningData.tlvLen (data : TagCdcpRunningData) : UInt16 :=
  UInt16.ofNat (8 + data.lstOperSVIDList.length * 3)

/-- A TLV that is put into an empty block. -/
theorem packTlvAfter_start {unpacked : UnpackedTlv} {length : ℕ}
    (packed : packTlvAfter unpacked ⟨0, []⟩ length = some tlv) :
    tlv.tlv = ofWord (unpacked.type.toUInt16 <<< 9 ||| (unpacked.length &&& 0x01ff)) ++
      unpacked.info.take unpacked.length.toNat := by
  rw [packTlvAfter, packTlv] at packed
  by_cases ok : (!tlvOk unpacked) = true
  · rw [if_pos ok] at packed
    cases packed
  · rw [if_neg ok] at packed
    dsimp only at packed
    split at packed
    · cases packed
    · cases packed
      rfl

/-- What a port must have for a TLV to be made of it, and the TLV. -/
theorem built_shape (built : buildCdcpTlv bigendian data = some tlv) :
    data.wOperChnCap ≤ 0x0FFF ∧ data.lstOperSVIDList.length ≤ data.wOperChnCap.toNat ∧
      data.lstOperSVIDList ≠ [] ∧
      tlv.tlv = ofWord (ORG_SPECIFIC_TLV.toUInt16 <<< 9 ||| (data.tlvLen &&& 0x01ff)) ++
        (data.body bigendian).take data.tlvLen.toNat := by
  rw [buildCdcpTlv] at built
  split at built
  · cases built
  split at built
  · cases built
  next cap =>
  dsimp only at built
  split at built
  · cases built
  next count =>
  split at built
  · cases built
  next nonempty =>
  split at built
  · cases built
  refine ⟨UInt16.not_lt.mp cap, Nat.not_lt.mp count, ?_, ?_⟩
  · intro empty
    exact nonempty (by rw [empty]; rfl)
  · rw [packTlvAfter_start built, TagCdcpRunningData.tlvLen, TagCdcpRunningData.body,
      TagCdcpRunningData.bits]

theorem length_body (bigendian : Bool) (data : TagCdcpRunningData) :
    (data.body bigendian).length = 8 + data.lstOperSVIDList.length * 3 := by
  have ⟨b₀, b₁, b₂, b₃, host, _⟩ :=
    hostWord_hostBytes bigendian (data.bits.value_lt bigendian)
  rw [TagCdcpRunningData.body, host]
  simp only [List.length_append, List.length_cons, List.length_nil, length_pack, hton24]
  omega

theorem and_nine (value : UInt16) : (value &&& 0x01ff).toNat = value.toNat % 512 := by
  rw [UInt16.toNat_and]
  exact Nat.and_two_pow_sub_one_eq_mod value.toNat 9

/-- The head keeps nine bits of the length. -/
theorem toNat_head (type : UInt8) (length : UInt16) (seven : type.toNat < 128) :
    (type.toUInt16 <<< 9 ||| (length &&& 0x01ff)).toNat =
      type.toNat * 512 + length.toNat % 512 := by
  have shifted : type.toNat <<< 9 % 2 ^ 16 = type.toNat <<< 9 := by
    rw [Nat.shiftLeft_eq]
    omega
  have low : length.toNat % 512 < 2 ^ 9 := Nat.mod_lt _ (by decide)
  rw [UInt16.toNat_or, and_nine, UInt16.toNat_shiftLeft, UInt8.toNat_toUInt16]
  change type.toNat <<< 9 % 2 ^ 16 ||| length.toNat % 512 = _
  rw [shifted, ← Nat.shiftLeft_add_eq_or_of_lt low, Nat.shiftLeft_eq]

/-- What comes out of the block: nine bits of the length, and as many bytes. -/
theorem unpackTlv_built (built : buildCdcpTlv bigendian data = some tlv) :
    ∃ length : UInt16, length.toNat = (8 + data.lstOperSVIDList.length * 3) % 512 ∧
      unpackTlv tlv = some ⟨ORG_SPECIFIC_TLV, length,
        (data.body bigendian).take length.toNat⟩ := by
  have ⟨cap, count, _, block⟩ := built_shape built
  have few : data.lstOperSVIDList.length ≤ 4095 :=
    Nat.le_trans count (UInt16.le_iff_toNat_le.mp cap)
  have long : data.tlvLen.toNat = 8 + data.lstOperSVIDList.length * 3 := by
    rw [TagCdcpRunningData.tlvLen, UInt16.toNat_ofNat']
    omega
  have whole : (data.body bigendian).take data.tlvLen.toNat = data.body bigendian := by
    rw [long, ← length_body, List.take_length]
  have head := toNat_head ORG_SPECIFIC_TLV data.tlvLen (by decide)
  generalize ORG_SPECIFIC_TLV.toUInt16 <<< 9 ||| (data.tlvLen &&& 0x01ff) = tl at head block
  rw [long] at head
  have low : (8 + data.lstOperSVIDList.length * 3) % 512 < 512 := Nat.mod_lt _ (by decide)
  have length : (tl &&& 0x01ff).toNat = (8 + data.lstOperSVIDList.length * 3) % 512 := by
    rw [and_nine, head]
    omega
  have type : (tl >>> 9).toUInt8 = ORG_SPECIFIC_TLV := by
    rw [← UInt8.toNat_inj, UInt16.toNat_toUInt8, UInt16.toNat_shiftRight]
    have seven : ORG_SPECIFIC_TLV.toNat < 128 := by decide
    have high : tl.toNat >>> 9 = ORG_SPECIFIC_TLV.toNat := by
      rw [Nat.shiftRight_eq_div_pow, head]
      change _ / 512 = _
      omega
    change tl.toNat >>> 9 % 2 ^ 8 = _
    rw [high]
    omega
  have fits : ¬ (data.body bigendian).length < (tl &&& 0x01ff).toNat := by
    rw [length, length_body]
    omega
  refine ⟨tl &&& 0x01ff, length, ?_⟩
  rw [unpackTlv, block, whole, ofWord, List.cons_append, List.cons_append, List.nil_append]
  dsimp only
  rw [word_ofWord, if_neg fits, type]

/-- What the receiver has of a TLV that came over whole. -/
def TagCdcpRunningData.received (bigendian : Bool) (receiver data : TagCdcpRunningData)
    (length : UInt16) : TagCdcpRunningData :=
  { receiver with
    pRxTlv := some ⟨ORG_SPECIFIC_TLV, length, data.body bigendian⟩
    ucRemoteRole := data.ucOperRole
    bRemoteSCompEnable := data.bSCompEnable
    wRemoteChnCap := data.wOperChnCap
    lstRemoteSVIDList := data.lstOperSVIDList.map TagCdcpScidSvidPair.arrives }

theorem unpackCdcpTlv_body (bigendian : Bool) (receiver : TagCdcpRunningData) (length : UInt16)
    (long : length.toNat = 8 + data.lstOperSVIDList.length * 3)
    (cap : data.wOperChnCap ≤ 0x0FFF) :
    unpackCdcpTlv bigendian ⟨ORG_SPECIFIC_TLV, length, data.body bigendian⟩ receiver =
      some ⟨true, true, receiver.received bigendian data length⟩ := by
  have ⟨b₀, b₁, b₂, b₃, host, word⟩ :=
    hostWord_hostBytes bigendian (data.bits.value_lt bigendian)
  have capacity : UInt16.ofNat data.bits.bitChnCap = data.wOperChnCap := by
    rw [← UInt16.toNat_inj, UInt16.toNat_ofNat']
    change data.wOperChnCap.toNat % 4096 % 2 ^ 16 = _
    have bound : data.wOperChnCap.toNat ≤ 4095 := UInt16.le_iff_toNat_le.mp cap
    omega
  have role : (if data.bits.bitRole = 1 then EMCdcpRole.s else .b) = data.ucOperRole := by
    rw [TagCdcpRunningData.bits]
    cases data.ucOperRole <;> rfl
  have sComp : decide (data.bits.bitSComp = 1) = data.bSCompEnable := by
    rw [TagCdcpRunningData.bits]
    cases data.bSCompEnable <;> rfl
  have rest : (8 + data.lstOperSVIDList.length * 3 - 8) % 3 = 0 ∧
      (8 + data.lstOperSVIDList.length * 3 - 8) / 3 = data.lstOperSVIDList.length := by
    omega
  have whole : hton24 OUI_IEEE_8021 ++ LLDP_CDCP_SUBTYPE ::
      (hostBytes bigendian (data.bits.value bigendian) ++
        data.lstOperSVIDList.flatMap packScidSvid) = data.body bigendian := rfl
  rw [unpackCdcpTlv, TagCdcpRunningData.received, ← whole, hton24, host]
  simp only [List.cons_append, List.nil_append, ne_eq, not_true_eq_false, if_false, long, word,
    CdcpBits.ofValue_value, capacity, role, sComp, rest, UInt16.not_lt.mpr cap,
    unpackPairs_pack, Option.map_some]

/-- What is stored has as many pairs as the length says. -/
theorem stored_length {unpacked : UnpackedTlv} {receiver : TagCdcpRunningData} {done : Unpacked}
    (result : unpackCdcpTlv bigendian unpacked receiver = some done)
    (stored : done.isStoredTlv = true) :
    done.data.lstRemoteSVIDList.length = (unpacked.length.toNat - 8) / 3 := by
  rw [unpackCdcpTlv] at result
  split at result
  · split at result
    · cases result
      cases stored
    split at result
    · dsimp only at result
      split at result
      · cases result
        cases stored
      split at result
      · cases result
        cases stored
      obtain ⟨pairs, read, rfl⟩ := Option.map_eq_some_iff.mp result
      exact length_unpackPairs _ _ _ read
    · cases result
  · cases result

/-- The receiver stores the TLV, with the sender's pairs, role and capacity. -/
def RoundTrips (bigendian : Bool) (data : TagCdcpRunningData) (tlv : PackedTlv)
    (receiver : TagCdcpRunningData) : Prop :=
  ∃ unpacked done, unpackTlv tlv = some unpacked ∧
    unpackCdcpTlv bigendian unpacked receiver = some done ∧ done.ret = true ∧
    done.isStoredTlv = true ∧ done.data.lstRemoteSVIDList = data.lstOperSVIDList ∧
    done.data.ucRemoteRole = data.ucOperRole ∧ done.data.wRemoteChnCap = data.wOperChnCap

/-- The lists that a TLV can carry. -/
def Transmissible (pairs : List TagCdcpScidSvidPair) : Prop :=
  (∀ pair ∈ pairs, pair.Fits) ∧ pairs.length ≤ 167

/-- A list that fits into the length of the head arrives pair by pair. -/
theorem short_arrives (built : buildCdcpTlv bigendian data = some tlv)
    (short : data.lstOperSVIDList.length ≤ 167) :
    ∃ length : UInt16, 4 ≤ length ∧
      unpackTlv tlv = some ⟨ORG_SPECIFIC_TLV, length, data.body bigendian⟩ ∧
      ∀ receiver : TagCdcpRunningData,
        unpackCdcpTlv bigendian ⟨ORG_SPECIFIC_TLV, length, data.body bigendian⟩ receiver =
          some ⟨true, true, receiver.received bigendian data length⟩ := by
  have ⟨length, long, unpacked⟩ := unpackTlv_built built
  have ⟨cap, _, _, _⟩ := built_shape built
  have exactly : length.toNat = 8 + data.lstOperSVIDList.length * 3 := by omega
  rw [exactly, ← length_body bigendian, List.take_length] at unpacked
  refine ⟨length, ?_, unpacked, fun receiver => ?_⟩
  · rw [UInt16.le_iff_toNat_le]
    change 4 ≤ length.toNat
    omega
  · exact unpackCdcpTlv_body bigendian receiver length exactly cap

theorem short_of_roundTrips (built : buildCdcpTlv bigendian data = some tlv)
    {receiver : TagCdcpRunningData} (arrives : RoundTrips bigendian data tlv receiver) :
    data.lstOperSVIDList.length ≤ 167 := by
  have ⟨length, long, unpacked⟩ := unpackTlv_built built
  obtain ⟨unpacked', done, eq, result, _, stored, pairs, _⟩ := arrives
  rw [unpacked] at eq
  obtain rfl := Option.some.inj eq
  have count := stored_length result stored
  rw [pairs] at count
  simp only at count
  omega

theorem transmissible_of_roundTrips (built : buildCdcpTlv bigendian data = some tlv)
    {receiver : TagCdcpRunningData} (arrives : RoundTrips bigendian data tlv receiver) :
    Transmissible data.lstOperSVIDList := by
  have short := short_of_roundTrips built arrives
  have ⟨length, _, unpacked, received⟩ := short_arrives built short
  obtain ⟨unpacked', done, eq, result, _, _, pairs, _⟩ := arrives
  rw [unpacked] at eq
  obtain rfl := Option.some.inj eq
  rw [received] at result
  obtain rfl := Option.some.inj result
  exact ⟨(map_arrives_iff _).mp pairs, short⟩

/-- A TLV brings pairs, role and capacity over just where every channel is below 256, every VLAN
below 4096, and the list no longer than the head can say. -/
theorem roundTrips_iff (built : buildCdcpTlv bigendian data = some tlv)
    (receiver : TagCdcpRunningData) :
    RoundTrips bigendian data tlv receiver ↔ Transmissible data.lstOperSVIDList := by
  constructor
  · exact transmissible_of_roundTrips built
  · rintro ⟨fits, short⟩
    have ⟨length, _, unpacked, received⟩ := short_arrives built short
    exact ⟨_, _, unpacked, received receiver, rfl, rfl, (map_arrives_iff _).mpr fits, rfl, rfl⟩

end Block

section Examples

def exampleData (pairs : List TagCdcpScidSvidPair) : TagCdcpRunningData :=
  { initCdcpRunningData .s with wAdminChnCap := 5, wOperChnCap := 5, lstOperSVIDList := pairs }

def exampleTlv (pairs : List TagCdcpScidSvidPair) : PackedTlv :=
  (buildCdcpTlv true (exampleData pairs)).getD ⟨0, []⟩

theorem built_example (pairs : List TagCdcpScidSvidPair)
    (defined : (buildCdcpTlv true (exampleData pairs)).isSome = true) :
    buildCdcpTlv true (exampleData pairs) = some (exampleTlv pairs) := by
  have ⟨tlv, built⟩ := Option.isSome_iff_exists.mp defined
  rw [exampleTlv, built]
  rfl

/-- Channels below 256 arrive, with any VLAN. -/
theorem small_channels_arrive :
    RoundTrips true (exampleData [⟨1, 1⟩, ⟨2, 0⟩, ⟨167, 4094⟩])
      (exampleTlv [⟨1, 1⟩, ⟨2, 0⟩, ⟨167, 4094⟩]) (initCdcpRunningData .b) :=
  (roundTrips_iff (built_example _ (by decide)) _).mpr
    ⟨by simp only [TagCdcpScidSvidPair.Fits]; decide, by decide⟩

/-- Channel 256 comes in as channel 0. -/
theorem high_channel_lost :
    ¬ ∀ bigendian data tlv receiver, (∀ pair ∈ data.lstOperSVIDList,
        pair.wScid < 4096 ∧ pair.wSvid < 4096) → buildCdcpTlv bigendian data = some tlv →
      RoundTrips bigendian data tlv receiver := by
  intro all
  have built := built_example [⟨1, 1⟩, ⟨256, 2⟩] (by decide)
  have arrives := all true _ _ (initCdcpRunningData .b) (by decide) built
  have fits := (transmissible_of_roundTrips built arrives).1 ⟨256, 2⟩ (by decide)
  exact absurd fits.1 (by decide)

end Examples

end Tecs.Cdcp
