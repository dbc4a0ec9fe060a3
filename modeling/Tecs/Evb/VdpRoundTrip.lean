import Tecs.Evb.VdpTlv

set_option autoImplicit false

/-! What a bridge reads of the TLVs that a station builds from a profile. -/

namespace Tecs.Vdp

open Bytes

/-- An entry without the fields that a format leaves out. -/
def TagVdpFltGroupMacVid.carried (gmv : TagVdpFltGroupMacVid) :
    VdpFltInfoFormat → TagVdpFltGroupMacVid
  | .vid => ⟨.replicate 4 0, .replicate 6 0, gmv.tag⟩
  | .macVid => ⟨.replicate 4 0, gmv.mac, gmv.tag⟩
  | .groupVid => ⟨gmv.groupID, .replicate 6 0, gmv.tag⟩
  | .macGroupVid => gmv

/-- The entries that a profile announces. -/
def TagVsiProfile.announced (vsiPro : TagVsiProfile) : List TagVdpFltGroupMacVid :=
  match VdpFltInfoFormat.ofValue vsiPro.fltFormat with
  | none => []
  | some format => vsiPro.lstFlt.map (·.carried format)

/-- What comes out of a buffer is what the profile says. -/
structure Recovered (bigendian : Bool) (vsiPro : TagVsiProfile) (vdptlvType : VdpTlvType)
    (buf : List UInt8) (vdpass : TagVdpTlvVDPAss) (lstFlt : List TagVdpFltGroupMacVid) :
    Prop where
  received : vdpBRxReceiveFrame bigendian buf = some ⟨vsiPro.vsiMgrID, [(vdptlvType, vdpass)]⟩
  typeID : vdpass.vsiTypeID = vsiPro.vsitypeID
  typeVer : vdpass.vsiTypeVer = vsiPro.vsitypeVer
  idFormat : vdpass.vsiIDFormat = vsiPro.vsiIDFormat
  vsiID : vdpass.vsiID = vsiPro.vsiID
  fltFormat : vdpass.fltFormat = vsiPro.fltFormat
  read : vsiBOutFltGetVdpassLstFlt bigendian vdpass = some (0, lstFlt)
  entries : ∀ gmv, gmv ∈ lstFlt ↔ gmv ∈ vsiPro.announced

structure RoundTrip (bigendian : Bool) (vsiPro : TagVsiProfile) (vdptlvType : VdpTlvType)
    (out : OutTlv) : Prop where
  inside : out.bytes.length ≤ VDP_PACKET_LEN_MAX
  nineBits : out.tlvLen.toNat < 512
  recovered : ∃ vdpass lstFlt, Recovered bigendian vsiPro vdptlvType out.sent vdpass lstFlt

/-- The bit-fields that a bridge reads as they are in the profile. -/
def PsPcpVid.Kept (tag : PsPcpVid) : Bool → Prop
  | true => tag.pcp = 0
  | false => tag = ⟨0, 0, 0⟩

def TagVsiProfile.Transmissible (bigendian : Bool) (vsiPro : TagVsiProfile) : Prop :=
  match VdpFltInfoFormat.ofValue vsiPro.fltFormat with
  | none => True
  | some format =>
      vsiPro.lstFlt.length * format.size ≤ 486 ∧ (format = .groupVid → vsiPro.lstFlt = []) ∧
        ∀ gmv ∈ vsiPro.lstFlt, gmv.tag.Kept bigendian

section Tag

/-- The bit-fields that a bridge reads where a station wrote the given ones. -/
def through (bigendian : Bool) (tag : PsPcpVid) : PsPcpVid :=
  let tl := vdpfltinfoPsPcpVid tag
  vdpfltinfoPsPcpVidNtohs bigendian (bitFields bigendian (tl >>> 8).toUInt8 tl.toUInt8)

/-- Of three bits of priority none is the one that the mask leaves. -/
theorem toNat_psPcpVid (tag : PsPcpVid) :
    (vdpfltinfoPsPcpVid tag).toNat = tag.ps.val * 32768 + tag.vid.val := by
  have vid_lt := tag.vid.isLt
  have pcp : ∀ pcp : Fin 8, (UInt16.ofNat pcp &&& 0x8) <<< 12 = 0 := by decide
  have ps : ∀ ps : Fin 2, ((UInt16.ofNat ps &&& 0x01) <<< 15).toNat = ps.val <<< 15 := by decide
  have vid : (UInt16.ofNat tag.vid).toNat = tag.vid.val := by
    rw [UInt16.toNat_ofNat']
    omega
  have joined : tag.ps.val <<< 15 ||| tag.vid.val = tag.ps.val <<< 15 + tag.vid.val :=
    (Nat.shiftLeft_add_eq_or_of_lt (by omega) _).symm
  rw [vdpfltinfoPsPcpVid]
  simp only [pcp, UInt16.or_zero, UInt16.toNat_or, ps, vid]
  rw [Nat.or_comm, joined, Nat.shiftLeft_eq]

theorem toNat_ofNat (n k : ℕ) [NeZero n] : (Fin.ofNat n k).val = k % n := rfl

/-- A bigendian bridge loses the priority. -/
theorem through_true (tag : PsPcpVid) : through true tag = ⟨tag.ps, 0, tag.vid⟩ := by
  have ps_lt := tag.ps.isLt
  have vid_lt := tag.vid.isLt
  have second (tag : PsPcpVid) :
      bitFields true (vdpfltinfoPsPcpVid tag >>> 8).toUInt8 (vdpfltinfoPsPcpVid tag).toUInt8 =
        ⟨tag.ps, 0, tag.vid⟩ := by
    have ps_lt := tag.ps.isLt
    have vid_lt := tag.vid.isLt
    simp only [bitFields, if_true, word_ofWord, toNat_psPcpVid, PsPcpVid.mk.injEq, Fin.ext_iff,
      toNat_ofNat]
    refine ⟨by omega, ?_, by omega⟩
    change _ = 0
    omega
  rw [through, second, vdpfltinfoPsPcpVidNtohs, second]

theorem word_swapped (w : UInt16) :
    (word w.toUInt8 (w >>> 8).toUInt8).toNat = w.toNat % 256 * 256 + w.toNat / 256 := by
  rw [toNat_word, toNat_high, toNat_low]

/-- The parts of a VLAN that go different ways at a bridge of the other kind. -/
structure Parts (vid n m p q r s : ℕ) : Prop where
  n_lt : n < 2
  m_lt : m < 8
  p_lt : p < 2
  q_lt : q < 8
  r_lt : r < 2
  s_lt : s < 8
  sum : vid = n + 2 * m + 16 * p + 32 * q + 256 * r + 512 * s

theorem exists_parts (vid : Fin 4096) : ∃ n m p q r s, Parts vid.val n m p q r s :=
  ⟨vid.val % 2, vid.val % 16 / 2, vid.val / 16 % 2, vid.val / 32 % 8, vid.val / 256 % 2,
    vid.val / 512, by omega, by omega, by omega, by omega, by omega, by omega, by omega⟩

variable {n m p q r s : ℕ}

theorem bitFields_false (tag : PsPcpVid) (parts : Parts tag.vid.val n m p q r s) :
    let fields :=
      bitFields false (vdpfltinfoPsPcpVid tag >>> 8).toUInt8 (vdpfltinfoPsPcpVid tag).toUInt8
    fields.ps.val = r ∧ fields.pcp.val = s ∧
      fields.vid.val = 8 * tag.ps.val + 16 * n + 32 * m + 256 * p + 512 * q := by
  have ps_lt := tag.ps.isLt
  have ⟨n_lt, m_lt, p_lt, q_lt, r_lt, s_lt, sum⟩ := parts
  have low : (tag.ps.val * 32768 + tag.vid.val) % 256 = n + 2 * m + 16 * p + 32 * q := by omega
  have high : (tag.ps.val * 32768 + tag.vid.val) / 256 = tag.ps.val * 128 + 2 * s + r := by omega
  have half : ((n + 2 * m + 16 * p + 32 * q) * 256 + (tag.ps.val * 128 + 2 * s + r)) / 2 =
      8 * (16 * (n + 2 * m + 16 * p + 32 * q) + 8 * tag.ps.val) + s := by
    have doubled : (n + 2 * m + 16 * p + 32 * q) * 256 + (tag.ps.val * 128 + 2 * s + r) =
        2 * (8 * (16 * (n + 2 * m + 16 * p + 32 * q) + 8 * tag.ps.val) + s) + r := by ring
    rw [doubled, Nat.mul_add_div two_pos, Nat.div_eq_of_lt r_lt, Nat.add_zero]
  simp only [bitFields, Bool.false_eq_true, if_false, word_swapped, toNat_psPcpVid, toNat_ofNat,
    low, high, half]
  clear low high half sum
  omega

theorem through_false (tag : PsPcpVid) (parts : Parts tag.vid.val n m p q r s) :
    (through false tag).ps.val = p ∧ (through false tag).pcp.val = q ∧
      (through false tag).vid.val = 8 * r + 128 * tag.ps.val + 256 * n + 512 * m := by
  have ps_lt := tag.ps.isLt
  have ⟨n_lt, m_lt, p_lt, q_lt, r_lt, s_lt, sum⟩ := parts
  have ⟨ps, _, vid⟩ := bitFields_false tag parts
  have parts' : Parts (bitFields false (vdpfltinfoPsPcpVid tag >>> 8).toUInt8
      (vdpfltinfoPsPcpVid tag).toUInt8).vid.val 0 (4 * tag.ps.val) n m p q :=
    ⟨by omega, by omega, by omega, by omega, by omega, by omega, by rw [vid]; omega⟩
  have ⟨ps', pcp', vid'⟩ := bitFields_false _ parts'
  rw [through, vdpfltinfoPsPcpVidNtohs, ps', pcp', vid', ps]
  omega

theorem through_of_kept {bigendian : Bool} {tag : PsPcpVid} (kept : tag.Kept bigendian) :
    through bigendian tag = tag := by
  cases bigendian with
  | true =>
      have pcp : tag.pcp = 0 := kept
      rw [through_true, ← pcp]
  | false =>
      have zero : tag = ⟨0, 0, 0⟩ := kept
      rw [zero]
      decide

/-- Four times through nothing is left but what is kept. -/
theorem kept_through (bigendian : Bool) (tag : PsPcpVid) :
    ((through bigendian)^[4] tag).Kept bigendian := by
  cases bigendian with
  | true =>
      change ((through true)^[4] tag).pcp = 0
      rw [Function.iterate_succ_apply', through_true]
  | false =>
      change (through false)^[4] tag = ⟨0, 0, 0⟩
      have ps_lt := tag.ps.isLt
      have ⟨n, m, p, q, r, s, parts⟩ := exists_parts tag.vid
      have ⟨n_lt, m_lt, p_lt, q_lt, r_lt, s_lt, sum⟩ := parts
      have ⟨ps1, _, vid1⟩ := through_false tag parts
      have parts1 : Parts (through false tag).vid.val 0 (4 * r) 0 (4 * tag.ps.val) n m :=
        ⟨by omega, by omega, by omega, by omega, by omega, by omega, by rw [vid1]; omega⟩
      have ⟨ps2, _, vid2⟩ := through_false _ parts1
      have parts2 : Parts (through false (through false tag)).vid.val 0 (4 * n) 0 (4 * p) 0
          (4 * r) :=
        ⟨by omega, by omega, by omega, by omega, by omega, by omega, by rw [vid2, ps1]; omega⟩
      have ⟨ps3, _, vid3⟩ := through_false _ parts2
      have parts3 : Parts (through false (through false (through false tag))).vid.val
          0 0 0 0 0 (4 * n) :=
        ⟨by omega, by omega, by omega, by omega, by omega, by omega, by rw [vid3, ps2]⟩
      have ⟨ps4, pcp4, vid4⟩ := through_false _ parts3
      have zero : ∀ tag : PsPcpVid, tag.ps.val = 0 → tag.pcp.val = 0 → tag.vid.val = 0 →
          tag = ⟨0, 0, 0⟩ := by
        intro tag ps pcp vid
        have ps : tag.ps = 0 := Fin.ext ps
        have pcp : tag.pcp = 0 := Fin.ext pcp
        have vid : tag.vid = 0 := Fin.ext vid
        rw [← ps, ← pcp, ← vid]
      exact zero _ ps4 pcp4 (vid4.trans (by rw [ps3]))

end Tag

section Entries

variable {bigendian : Bool} {format : VdpFltInfoFormat}

/-- An entry as a bridge reads it. -/
def TagVdpFltGroupMacVid.received (bigendian : Bool) (gmv : TagVdpFltGroupMacVid) :
    TagVdpFltGroupMacVid :=
  { gmv with tag := through bigendian gmv.tag }

theorem length_fltInfo (gmv : TagVdpFltGroupMacVid) (format : VdpFltInfoFormat) :
    (fltInfo gmv format).length = format.size := by
  cases format <;> simp [fltInfo, VdpFltInfoFormat.size]

theorem readFlt_fltInfo (gmv : TagVdpFltGroupMacVid) (rest : List UInt8)
    (read : format ≠ .groupVid) :
    readFlt bigendian (fltInfo gmv format ++ rest) format =
      some ((gmv.carried format).received bigendian) := by
  have mac := gmv.mac.length_toList
  have groupID := gmv.groupID.length_toList
  cases format with
  | vid => rfl
  | groupVid => exact absurd rfl read
  | macVid =>
      have dropped : (gmv.mac.toList ++ (ofWord (vdpfltinfoPsPcpVid gmv.tag) ++ rest)).drop 6 =
          ofWord (vdpfltinfoPsPcpVid gmv.tag) ++ rest := List.drop_left' mac
      simp only [readFlt, fltInfo, List.append_assoc, readArray_append, dropped]
      rfl
  | macGroupVid =>
      have first : (gmv.groupID.toList ++ (gmv.mac.toList ++
          (ofWord (vdpfltinfoPsPcpVid gmv.tag) ++ rest))).drop 4 =
          gmv.mac.toList ++ (ofWord (vdpfltinfoPsPcpVid gmv.tag) ++ rest) :=
        List.drop_left' groupID
      have second : (gmv.groupID.toList ++ (gmv.mac.toList ++
          (ofWord (vdpfltinfoPsPcpVid gmv.tag) ++ rest))).drop 10 =
          ofWord (vdpfltinfoPsPcpVid gmv.tag) ++ rest := by
        rw [← List.append_assoc]
        exact List.drop_left' (by simp)
      simp only [readFlt, fltInfo, List.append_assoc, readArray_append, first, second]
      rfl

theorem mem_addGMV {lstFlt : List TagVdpFltGroupMacVid} {gmv other : TagVdpFltGroupMacVid} :
    other ∈ vsiBOutFltAddGMVtoLstFlt lstFlt gmv ↔ other ∈ lstFlt ∨ other = gmv := by
  rw [vsiBOutFltAddGMVtoLstFlt, Ecp.listInsert_eq]
  split
  · constructor
    · exact .inl
    · rintro (mem | rfl)
      · exact mem
      · assumption
  · rw [List.mem_cons, or_comm]

/-- The loop takes every entry that was written. -/
theorem getLstFlt_written (bigendian : Bool) (read : format ≠ .groupVid)
    (entries : List TagVdpFltGroupMacVid)
    (lstFlt : List TagVdpFltGroupMacVid) :
    ∃ result, getLstFlt bigendian format entries.length (entries.length * format.size)
        (entries.map (fltInfo · format)).flatten lstFlt = some result ∧
      ∀ gmv, gmv ∈ result ↔
        gmv ∈ lstFlt ∨ gmv ∈ entries.map fun e => (e.carried format).received bigendian := by
  have positive : 0 < format.size := by cases format <;> decide
  induction entries generalizing lstFlt with
  | nil => exact ⟨lstFlt, rfl, by simp⟩
  | cons e rest ih =>
      have ⟨result, found, mem⟩ :=
        ih (vsiBOutFltAddGMVtoLstFlt lstFlt ((e.carried format).received bigendian))
      have dropped : (fltInfo e format ++ (rest.map (fltInfo · format)).flatten).drop format.size =
          (rest.map (fltInfo · format)).flatten := List.drop_left' (length_fltInfo e format)
      have more : (rest.length + 1) * format.size = rest.length * format.size + format.size := by
        ring
      refine ⟨result, ?_, ?_⟩
      · simp only [List.map_cons, List.flatten_cons, List.length_cons, getLstFlt, more,
          readFlt_fltInfo e _ read, dropped, Nat.add_sub_cancel]
        rw [if_neg (by omega)]
        split
        · rename_i last
          have none_left : rest.length = 0 := by
            by_contra some_left
            have := Nat.mul_pos (Nat.pos_of_ne_zero some_left) positive
            omega
          rw [List.length_eq_zero_iff] at none_left
          subst none_left
          exact found
        · exact found
      · intro gmv
        rw [mem, mem_addGMV, List.map_cons, List.mem_cons, or_assoc]

/-- What comes through is what was announced only if nothing is lost of any entry. -/
theorem kept_of_same {entries : List TagVdpFltGroupMacVid}
    (same : ∀ gmv, gmv ∈ entries.map (·.received bigendian) ↔ gmv ∈ entries) :
    ∀ gmv ∈ entries, gmv.tag.Kept bigendian := by
  have source : ∀ gmv ∈ entries, ∃ e ∈ entries, gmv.tag = through bigendian e.tag := by
    intro gmv mem
    have ⟨e, memE, eq⟩ := List.mem_map.mp ((same gmv).mpr mem)
    exact ⟨e, memE, by rw [← eq]; rfl⟩
  intro gmv mem
  have ⟨e1, mem1, eq1⟩ := source gmv mem
  have ⟨e2, mem2, eq2⟩ := source e1 mem1
  have ⟨e3, mem3, eq3⟩ := source e2 mem2
  have ⟨e4, _, eq4⟩ := source e3 mem3
  rw [eq1, eq2, eq3, eq4]
  exact kept_through bigendian e4.tag

theorem same_of_kept {entries : List TagVdpFltGroupMacVid}
    (kept : ∀ gmv ∈ entries, gmv.tag.Kept bigendian) :
    entries.map (·.received bigendian) = entries := by
  have each : ∀ gmv ∈ entries, gmv.received bigendian = gmv := by
    intro gmv mem
    rw [TagVdpFltGroupMacVid.received, through_of_kept (kept gmv mem)]
  rw [List.map_congr_left each, List.map_id']

end Entries

section Frame

variable {vsiPro : TagVsiProfile} {vdptlvType : VdpTlvType}

theorem toNat_vdpTlvHead (type len : UInt16) :
    (vdpTlvHeadHTON type len).toNat = type.toNat % 128 * 512 + len.toNat % 512 := by
  have masked : len.toNat &&& 511 = len.toNat % 512 := Nat.and_two_pow_sub_one_eq_mod _ 9
  have shifted : type.toNat <<< 9 % 2 ^ 16 = (type.toNat % 128) <<< 9 := by
    rw [Nat.shiftLeft_eq, Nat.shiftLeft_eq]
    omega
  have joined : (type.toNat % 128) <<< 9 ||| len.toNat % 512 =
      (type.toNat % 128) <<< 9 + len.toNat % 512 :=
    (Nat.shiftLeft_add_eq_or_of_lt (by omega) _).symm
  simp only [vdpTlvHeadHTON, UInt16.toNat_or, UInt16.toNat_and, UInt16.toNat_shiftLeft]
  change type.toNat <<< 9 % 2 ^ 16 ||| len.toNat &&& 511 = _
  rw [masked, shifted, joined, Nat.shiftLeft_eq]

theorem toNat_headType (tl : UInt16) : (headType tl).toNat = tl.toNat / 512 % 128 := by
  have masked : tl.toNat >>> 9 &&& 127 = tl.toNat >>> 9 % 128 :=
    Nat.and_two_pow_sub_one_eq_mod _ 7
  simp only [headType, UInt16.toNat_and, UInt16.toNat_shiftRight]
  change tl.toNat >>> 9 &&& 127 = _
  rw [masked, Nat.shiftRight_eq_div_pow]

theorem toNat_headLen (tl : UInt16) : (headLen tl).toNat = tl.toNat % 512 := by
  rw [headLen, UInt16.toNat_and]
  exact Nat.and_two_pow_sub_one_eq_mod _ 9

theorem headType_HTON {type : UInt16} (len : UInt16) (small : type.toNat < 128) :
    headType (vdpTlvHeadHTON type len) = type := by
  apply UInt16.toNat_inj.mp
  rw [toNat_headType, toNat_vdpTlvHead]
  omega

theorem headLen_HTON (type : UInt16) {len : UInt16} (small : len.toNat < 512) :
    headLen (vdpTlvHeadHTON type len) = len := by
  apply UInt16.toNat_inj.mp
  rw [toNat_headLen, toNat_vdpTlvHead]
  omega

/-- The length that a head announces for the written entries. -/
def announcedLen (written : List (List UInt8)) : UInt16 :=
  .ofNat (VDPTLV_VDPTLV_NOFLT_LEN + (2 + written.flatten.length))

/-- What follows the head of a TLV with the written entries. -/
def TagVsiProfile.body (vsiPro : TagVsiProfile) (written : List (List UInt8)) : List UInt8 :=
  0 :: (vsiPro.vsitypeID.toList ++ vsiPro.vsitypeVer :: vsiPro.vsiIDFormat ::
    (vsiPro.vsiID.toList ++ vsiPro.fltFormat ::
      (ofWord (.ofNat written.length) ++ written.flatten)))

def TagVsiProfile.vdpAss (vsiPro : TagVsiProfile) (vdptlvType : VdpTlvType)
    (written : List (List UInt8)) : TagVdpTlvVDPAss where
  tlvType := vdptlvType.value
  tlvLen := announcedLen written
  reason := 0
  vsiTypeID := vsiPro.vsitypeID
  vsiTypeVer := vsiPro.vsitypeVer
  vsiIDFormat := vsiPro.vsiIDFormat
  vsiID := vsiPro.vsiID
  fltFormat := vsiPro.fltFormat
  fltInfo := ofWord (.ofNat written.length) ++ written.flatten

theorem length_body (written : List (List UInt8)) :
    (vsiPro.body written).length = 25 + written.flatten.length := by
  simp only [TagVsiProfile.body, List.length_cons, List.length_append, Vector.length_toList,
    length_ofWord]
  omega

theorem readVDPAss_body (vsiPro : TagVsiProfile) (vdptlvType : VdpTlvType) (tl : UInt16)
    (written : List (List UInt8)) :
    readVDPAss tl (vsiPro.body written) =
      some { vsiPro.vdpAss vdptlvType written with
        tlvType := headType tl
        tlvLen := headLen tl } := by
  have typeID := vsiPro.vsitypeID.length_toList
  have vsiID := vsiPro.vsiID.length_toList
  simp only [readVDPAss, TagVsiProfile.body, readArray_append, List.drop_left' typeID,
    List.drop_left' vsiID]
  rfl

theorem ofValue_value (type : VdpTlvType) : VdpTlvType.ofValue type.value = some type := by
  cases type <;> decide

theorem value_small (type : VdpTlvType) : type.value.toNat < 128 := by
  cases type <;> decide

/-- The bytes that are written for the given entries. -/
theorem vsitlv_eq (vdptlvType : VdpTlvType) {written : List (List UInt8)}
    (entries : (vsiPro.lstFlt.mapM fun gmv =>
      (VdpFltInfoFormat.ofValue vsiPro.fltFormat).map (fltInfo gmv)) = some written) :
    vsiProfileToVsitlv vsiPro vdptlvType = some
      ⟨ofWord (vdpTlvHeadHTON VDPTLV_TYPE_VSI_MGRID 16) ++ (vsiPro.vsiMgrID.toList ++
        (ofWord (vdpTlvHeadHTON vdptlvType.value (announcedLen written)) ++
          vsiPro.body written)), announcedLen written⟩ := by
  have same : UInt16.ofNat VDPTLV_VSIMGRID_LEN = 16 := rfl
  simp only [vsiProfileToVsitlv, vsiProfileToVdpasstlv, entries, vsiProfileToMgrid, same,
    TagVsiProfile.body, List.append_assoc, List.cons_append, List.nil_append]
  rfl

/-- Where the length fits, the bridge finds one command, with all the fields of the profile. -/
theorem received_eq (bigendian : Bool) {written : List (List UInt8)} {out : OutTlv}
    (entries : (vsiPro.lstFlt.mapM fun gmv =>
      (VdpFltInfoFormat.ofValue vsiPro.fltFormat).map (fltInfo gmv)) = some written)
    (built : vsiProfileToVsitlv vsiPro vdptlvType = some out)
    (fits : written.flatten.length ≤ 486) :
    vdpBRxReceiveFrame bigendian out.sent =
      some ⟨vsiPro.vsiMgrID, [(vdptlvType, vsiPro.vdpAss vdptlvType written)]⟩ := by
  rw [vsitlv_eq vdptlvType entries, Option.some.injEq] at built
  have len : (announcedLen written).toNat = 25 + written.flatten.length := by
    rw [announcedLen, UInt16.toNat_ofNat', VDPTLV_VDPTLV_NOFLT_LEN]
    omega
  have whole : out.sent = out.bytes := by
    rw [← built]
    refine List.take_of_length_le ?_
    simp only [List.length_append, length_ofWord, Vector.length_toList, length_body, len,
      VDPTLV_HEAD_LEN, VDPTLV_VSIMGRID_LEN]
    omega
  have mgrHead : headType (vdpTlvHeadHTON VDPTLV_TYPE_VSI_MGRID 16) = VDPTLV_TYPE_VSI_MGRID :=
    headType_HTON _ (by decide)
  have type := headType_HTON (announcedLen written) (value_small vdptlvType)
  have tlvLen : headLen (vdpTlvHeadHTON vdptlvType.value (announcedLen written)) =
      announcedLen written := headLen_HTON _ (by omega)
  generalize tlEq : vdpTlvHeadHTON vdptlvType.value (announcedLen written) = tl at *
  have dropped : (vsiPro.vsiMgrID.toList ++ (ofWord tl ++ vsiPro.body written)).drop 16 =
      ofWord tl ++ vsiPro.body written := List.drop_left' vsiPro.vsiMgrID.length_toList
  have command : ∀ fuel, vdpAssTlvs bigendian false (fuel + 1) (ofWord tl ++ vsiPro.body written) =
      [(vdptlvType, vsiPro.vdpAss vdptlvType written)] := by
    intro fuel
    have size : (vsiPro.body written).length = (headLen tl).toNat := by
      rw [length_body, tlvLen, len]
    have read := readVDPAss_body vsiPro vdptlvType tl written
    have request : reqAck bigendian 0 = false := by cases bigendian <;> decide
    have done : vdpAssTlvs bigendian false fuel [] = [] := by cases fuel <;> rfl
    rw [type, tlvLen] at read
    rw [ofWord, List.cons_append, List.cons_append, List.nil_append, vdpAssTlvs]
    simp only [word_ofWord, ← size, lt_irrefl, if_false, List.take_length, List.drop_length, type,
      ofValue_value, read, done, List.append_nil]
    simp [TagVsiProfile.vdpAss, request]
  rw [whole, ← built]
  rw [ofWord, List.cons_append, List.cons_append, List.nil_append, vdpBRxReceiveFrame, vdpRxTlvs]
  simp only [readArray_append, word_ofWord, mgrHead, ne_eq, not_true, if_false, dropped]
  have more : (vsiPro.vsiMgrID.toList ++ (ofWord tl ++ vsiPro.body written)).length =
      (17 + (ofWord tl ++ vsiPro.body written).length - 2) + 1 := by
    simp only [List.length_append, Vector.length_toList, length_ofWord]
    omega
  rw [more, command]

end Frame

section RoundTrip

variable {bigendian : Bool} {vsiPro : TagVsiProfile} {vdptlvType : VdpTlvType} {out : OutTlv}

theorem written_some {format : VdpFltInfoFormat}
    (known : VdpFltInfoFormat.ofValue vsiPro.fltFormat = some format) :
    (vsiPro.lstFlt.mapM fun gmv =>
      (VdpFltInfoFormat.ofValue vsiPro.fltFormat).map (fltInfo gmv)) =
        some (vsiPro.lstFlt.map (fltInfo · format)) := by
  rw [known]
  induction vsiPro.lstFlt with
  | nil => rfl
  | cons gmv rest ih =>
      rw [List.mapM_cons, ih]
      rfl

/-- A profile in no known format has a TLV only without entries. -/
theorem lstFlt_nil (unknown : VdpFltInfoFormat.ofValue vsiPro.fltFormat = none)
    (built : vsiProfileToVsitlv vsiPro vdptlvType = some out) : vsiPro.lstFlt = [] := by
  cases list : vsiPro.lstFlt with
  | nil => rfl
  | cons gmv rest => simp [vsiProfileToVsitlv, vsiProfileToVdpasstlv, unknown, list] at built

theorem length_written (entries : List TagVdpFltGroupMacVid) (format : VdpFltInfoFormat) :
    (entries.map (fltInfo · format)).flatten.length = entries.length * format.size := by
  induction entries with
  | nil => simp
  | cons gmv rest ih =>
      simp only [List.map_cons, List.flatten_cons, List.length_append, List.length_cons, ih,
        length_fltInfo]
      ring

theorem getVdpassLstFlt_written {format : VdpFltInfoFormat}
    (known : VdpFltInfoFormat.ofValue vsiPro.fltFormat = some format)
    (fits : vsiPro.lstFlt.length * format.size ≤ 486) :
    vsiBOutFltGetVdpassLstFlt bigendian
        (vsiPro.vdpAss vdptlvType (vsiPro.lstFlt.map (fltInfo · format))) =
      (getLstFlt bigendian format vsiPro.lstFlt.length (vsiPro.lstFlt.length * format.size)
        (vsiPro.lstFlt.map (fltInfo · format)).flatten []).map (0, ·) := by
  have len : (announcedLen (vsiPro.lstFlt.map (fltInfo · format))).toNat =
      25 + vsiPro.lstFlt.length * format.size := by
    rw [announcedLen, UInt16.toNat_ofNat', VDPTLV_VDPTLV_NOFLT_LEN, length_written]
    omega
  have positive : 0 < format.size := by cases format <;> decide
  have few : vsiPro.lstFlt.length ≤ 486 :=
    (Nat.le_mul_of_pos_right _ positive).trans fits
  have count : (UInt16.ofNat (vsiPro.lstFlt.map (fltInfo · format)).length).toNat =
      vsiPro.lstFlt.length := by
    rw [UInt16.toNat_ofNat', List.length_map]
    omega
  rw [vsiBOutFltGetVdpassLstFlt]
  simp only [TagVsiProfile.vdpAss, len, VDPTLV_VDPTLV_NOFLT_LEN, ofWord, List.cons_append,
    List.nil_append, word_ofWord, count, known]
  rw [if_neg (by omega)]
  congr 2
  omega

theorem out_eq {written : List (List UInt8)}
    (entries : (vsiPro.lstFlt.mapM fun gmv =>
      (VdpFltInfoFormat.ofValue vsiPro.fltFormat).map (fltInfo gmv)) = some written)
    (built : vsiProfileToVsitlv vsiPro vdptlvType = some out) :
    out.bytes.length = 45 + written.flatten.length ∧ out.tlvLen = announcedLen written := by
  rw [vsitlv_eq vdptlvType entries, Option.some.injEq] at built
  subst built
  refine ⟨?_, rfl⟩
  simp only [List.length_append, length_ofWord, Vector.length_toList, length_body]
  omega

/-- The two lengths are in their bounds only together. -/
theorem fits_iff {written : List (List UInt8)}
    (entries : (vsiPro.lstFlt.mapM fun gmv =>
      (VdpFltInfoFormat.ofValue vsiPro.fltFormat).map (fltInfo gmv)) = some written)
    (built : vsiProfileToVsitlv vsiPro vdptlvType = some out) :
    out.bytes.length ≤ VDP_PACKET_LEN_MAX ∧ out.tlvLen.toNat < 512 ↔
      written.flatten.length ≤ 486 := by
  have ⟨bytes, tlvLen⟩ := out_eq entries built
  rw [bytes, tlvLen, announcedLen, UInt16.toNat_ofNat', VDP_PACKET_LEN_MAX, VDPTLV_VDPTLV_NOFLT_LEN]
  omega

/-- What the loop makes of the written entries, where the format is one that it can read. -/
theorem getLstFlt_announced (bigendian : Bool) {format : VdpFltInfoFormat}
    (known : VdpFltInfoFormat.ofValue vsiPro.fltFormat = some format)
    (read : format = .groupVid → vsiPro.lstFlt = []) :
    ∃ lstFlt, getLstFlt bigendian format vsiPro.lstFlt.length
        (vsiPro.lstFlt.length * format.size)
        (vsiPro.lstFlt.map (fltInfo · format)).flatten [] = some lstFlt ∧
      ∀ gmv, gmv ∈ lstFlt ↔ gmv ∈ vsiPro.announced.map (·.received bigendian) := by
  by_cases group : format = .groupVid
  · simp [TagVsiProfile.announced, known, read group, getLstFlt]
  · have ⟨lstFlt, found, mem⟩ := getLstFlt_written bigendian group vsiPro.lstFlt []
    refine ⟨lstFlt, found, ?_⟩
    simpa [TagVsiProfile.announced, known] using mem

theorem kept_announced {format : VdpFltInfoFormat}
    (known : VdpFltInfoFormat.ofValue vsiPro.fltFormat = some format) :
    (∀ gmv ∈ vsiPro.announced, gmv.tag.Kept bigendian) ↔
      ∀ gmv ∈ vsiPro.lstFlt, gmv.tag.Kept bigendian := by
  have tag (gmv : TagVdpFltGroupMacVid) : (gmv.carried format).tag = gmv.tag := by
    cases format <;> rfl
  simp [TagVsiProfile.announced, known, tag]

theorem roundTrip_of_transmissible (transmissible : vsiPro.Transmissible bigendian)
    (built : vsiProfileToVsitlv vsiPro vdptlvType = some out) :
    RoundTrip bigendian vsiPro vdptlvType out := by
  cases known : VdpFltInfoFormat.ofValue vsiPro.fltFormat with
  | none =>
      have none_left := lstFlt_nil known built
      have entries : (vsiPro.lstFlt.mapM fun gmv =>
          (VdpFltInfoFormat.ofValue vsiPro.fltFormat).map (fltInfo gmv)) = some [] := by
        rw [none_left]
        rfl
      have fits : ([] : List (List UInt8)).flatten.length ≤ 486 := by simp
      have ⟨inside, nineBits⟩ := (fits_iff entries built).mpr fits
      refine ⟨inside, nineBits, vsiPro.vdpAss vdptlvType [], [],
        received_eq bigendian entries built fits, rfl, rfl, rfl, rfl, rfl, ?_, ?_⟩
      · have len : (announcedLen []).toNat = 25 := rfl
        simp [vsiBOutFltGetVdpassLstFlt, TagVsiProfile.vdpAss, len, known, ofWord,
          VDPTLV_VDPTLV_NOFLT_LEN]
      · simp [TagVsiProfile.announced, known]
  | some format =>
      rw [TagVsiProfile.Transmissible, known] at transmissible
      have ⟨fits, read, kept⟩ := transmissible
      have entries := written_some known
      have short : (vsiPro.lstFlt.map (fltInfo · format)).flatten.length ≤ 486 := by
        rw [length_written]
        exact fits
      have ⟨inside, nineBits⟩ := (fits_iff entries built).mpr short
      have ⟨lstFlt, found, mem⟩ := getLstFlt_announced bigendian known read
      refine ⟨inside, nineBits, _, lstFlt, received_eq bigendian entries built short,
        rfl, rfl, rfl, rfl, rfl, ?_, ?_⟩
      · rw [getVdpassLstFlt_written known fits, found, Option.map_some]
      · rw [same_of_kept ((kept_announced known).mpr kept)] at mem
        exact mem

theorem transmissible_of_roundTrip {format : VdpFltInfoFormat}
    (known : VdpFltInfoFormat.ofValue vsiPro.fltFormat = some format)
    (built : vsiProfileToVsitlv vsiPro vdptlvType = some out)
    (roundTrip : RoundTrip bigendian vsiPro vdptlvType out) :
    vsiPro.lstFlt.length * format.size ≤ 486 ∧ (format = .groupVid → vsiPro.lstFlt = []) ∧
      ∀ gmv ∈ vsiPro.lstFlt, gmv.tag.Kept bigendian := by
  have ⟨inside, nineBits, vdpass, lstFlt, recovered⟩ := roundTrip
  have entries := written_some known
  have short := (fits_iff entries built).mp ⟨inside, nineBits⟩
  have fits := short
  rw [length_written] at fits
  have same := recovered.received
  rw [received_eq bigendian entries built short] at same
  have vdpassEq : vdpass = vsiPro.vdpAss vdptlvType (vsiPro.lstFlt.map (fltInfo · format)) := by
    simpa using same.symm
  have decoded := recovered.read
  rw [vdpassEq, getVdpassLstFlt_written known fits] at decoded
  have read : format = .groupVid → vsiPro.lstFlt = [] := by
    intro group
    cases list : vsiPro.lstFlt with
    | nil => rfl
    | cons gmv rest =>
        rw [list, group] at decoded
        simp [getLstFlt, readFlt, VdpFltInfoFormat.size] at decoded
  have ⟨lstFlt', found, mem⟩ := getLstFlt_announced bigendian known read
  rw [found] at decoded
  have lstFltEq : lstFlt' = lstFlt := by simpa using decoded
  subst lstFltEq
  refine ⟨fits, read, (kept_announced known).mp (kept_of_same ?_)⟩
  intro gmv
  rw [← mem, recovered.entries]

/-- A bridge gets back what a station put in exactly when the entries fit in the nine bits of the
length, are not in the group format and lose nothing of their bit-fields. -/
theorem roundTrip_iff (bigendian : Bool) (vsiPro : TagVsiProfile) (vdptlvType : VdpTlvType) :
    (∀ out, vsiProfileToVsitlv vsiPro vdptlvType = some out →
      RoundTrip bigendian vsiPro vdptlvType out) ↔ vsiPro.Transmissible bigendian := by
  constructor
  · intro roundTrip
    cases known : VdpFltInfoFormat.ofValue vsiPro.fltFormat with
    | none =>
        rw [TagVsiProfile.Transmissible, known]
        trivial
    | some format =>
        have built := vsitlv_eq vdptlvType (written_some known)
        rw [TagVsiProfile.Transmissible, known]
        exact transmissible_of_roundTrip known built (roundTrip _ built)
  · intro transmissible out built
    exact roundTrip_of_transmissible transmissible built

theorem priority_lost :
    ¬ ∀ (bigendian : Bool) (vsiPro : TagVsiProfile) (vdptlvType : VdpTlvType) (out : OutTlv),
      vsiProfileToVsitlv vsiPro vdptlvType = some out →
        RoundTrip bigendian vsiPro vdptlvType out := by
  intro roundTrip
  have built : vsiProfileToVsitlv examplePro .associate = some
      ⟨ofWord (vdpTlvHeadHTON VDPTLV_TYPE_VSI_MGRID 16) ++ (examplePro.vsiMgrID.toList ++
        (ofWord (vdpTlvHeadHTON 3 27) ++ examplePro.body [[0, 100]])), 27⟩ := by
    decide
  have known : VdpFltInfoFormat.ofValue examplePro.fltFormat = some .vid := by decide
  have ⟨_, _, kept⟩ := transmissible_of_roundTrip known built (roundTrip true _ _ _ built)
  have pcp : (3 : Fin 8) = 0 := kept _ (List.mem_singleton.mpr rfl)
  exact absurd pcp (by decide)

end RoundTrip

end Tecs.Vdp
