import Tecs.Evb.EvbTlv

set_option autoImplicit false

/-! What the numbers that both sides propose are made of. -/

namespace Tecs.Evbtlv

open Bytes
open Tecs.Cdcp (UnpackedTlv PackedTlv tlvOk packTlv packTlvAfter unpackTlv hton24 OUI_IEEE_8021
  ORG_SPECIFIC_TLV)

section Parameters

inductive Parameter
  | r | rte | rwd | rka
deriving Repr, DecidableEq

def Parameter.chg : Parameter → UInt32
  | .r => EVBTLV_CHG_R
  | .rte => EVBTLV_CHG_RTE
  | .rwd => EVBTLV_CHG_RWD
  | .rka => EVBTLV_CHG_RKA

/-- The number of values that the field of a TLV can take. -/
def Parameter.bound : Parameter → ℕ
  | .r => 8
  | .rte | .rwd | .rka => 32

structure EvbTlvConfig where
  ucR : UInt8
  ucRTE : UInt8
  ucRWD : UInt8
  ucRKA : UInt8
deriving Repr, DecidableEq

def EvbTlvConfig.value (config : EvbTlvConfig) : Parameter → ℕ
  | .r => config.ucR.toNat
  | .rte => config.ucRTE.toNat
  | .rwd => config.ucRWD.toNat
  | .rka => config.ucRKA.toNat

def EvbPort.config (port : EvbPort) : EvbTlvConfig :=
  ⟨port.ucR, port.ucRTE, port.ucRWD, port.ucRKA⟩

def EvbtlvInfo.value (info : EvbtlvInfo) : Parameter → ℕ
  | .r => info.r
  | .rte => info.rte
  | .rwd => info.rwd
  | .rka => info.rka

def EvbTlvNegResult.value (tNegRes : EvbTlvNegResult) : Parameter → ℕ
  | .r => tNegRes.ucEcpMaxRetries.toNat
  | .rte => tNegRes.ucRTE.toNat
  | .rwd => tNegRes.ucRWD.toNat
  | .rka => tNegRes.ucRKA.toNat

/-- Each number fits into its field. -/
def EvbTlvConfig.Fits (config : EvbTlvConfig) : Prop := ∀ p, config.value p < Parameter.bound p

theorem getconfig_value {port : EvbPort} (fits : port.config.Fits) (p : Parameter) :
    (evbtlvGetconfig port).value p = port.config.value p := by
  have within := fits p
  rw [evbtlvGetconfig]
  split <;> cases p <;> exact Nat.mod_eq_of_lt within

end Parameters

section Bits

def evbBitTest (F B : UInt32) : Prop := F &&& B ≠ 0

theorem bitTest_or {F B : UInt32} (test : evbBitTest F B) (other : UInt32) :
    evbBitTest (F ||| other) B := by
  intro zero
  have distributed : (F ||| other) &&& B = (F &&& B) ||| (other &&& B) := by
    simp [← UInt32.toBitVec_inj, BitVec.and_or_distrib_right]
  rw [distributed, UInt32.or_eq_zero_iff] at zero
  exact test zero.1

theorem bitTest_new (F B : UInt32) (some : B ≠ 0) : evbBitTest (F ||| B) B := by
  intro zero
  have distributed : (F ||| B) &&& B = (F &&& B) ||| B := by
    simp [← UInt32.toBitVec_inj, BitVec.and_or_distrib_right]
  rw [distributed, UInt32.or_eq_zero_iff] at zero
  exact some zero.2

theorem bitTest_zero {B : UInt32} : ¬ evbBitTest 0 B := by
  simp [evbBitTest]

end Bits

section Bytes

set_option maxRecDepth 4096 in
/-- What is put into the five bytes is read from them. -/
theorem ofBytes_bytes (info : EvbtlvInfo) : EvbtlvInfo.ofBytes info.bytes = some info := by
  have first : ∀ rrctr rrcap bgid : Bool,
      let b := (UInt8.ofNat (rrctr.toNat + 2 * rrcap.toNat + 4 * bgid.toNat)).toNat
      b.testBit 0 = rrctr ∧ b.testBit 1 = rrcap ∧ b.testBit 2 = bgid := by decide
  have second : ∀ (rrstat : Fin 4) (rrreq sgid : Bool),
      let b := (UInt8.ofNat (rrstat + 4 * rrreq.toNat + 8 * sgid.toNat)).toNat
      Fin.ofNat 4 b = rrstat ∧ b.testBit 2 = rrreq ∧ b.testBit 3 = sgid := by decide
  have third : ∀ (rte : Fin 32) (r : Fin 8),
      let b := (UInt8.ofNat (rte + 32 * r)).toNat
      Fin.ofNat 32 b = rte ∧ Fin.ofNat 8 (b / 32) = r := by decide
  have fourth : ∀ (rwd : Fin 32) (rol0 : Bool) (evbmode : Fin 4),
      let b := (UInt8.ofNat (rwd + 32 * rol0.toNat + 64 * evbmode)).toNat
      Fin.ofNat 32 b = rwd ∧ b.testBit 5 = rol0 ∧ Fin.ofNat 4 (b / 64) = evbmode := by
    decide
  have fifth : ∀ (rka : Fin 32) (rol1 : Bool),
      let b := (UInt8.ofNat (rka + 32 * rol1.toNat)).toNat
      Fin.ofNat 32 b = rka ∧ b.testBit 5 = rol1 := by decide
  obtain ⟨rrctr, rrcap, bgid, rrstat, rrreq, sgid, rte, r, rwd, rol0, evbmode, rka, rol1⟩ := info
  have ⟨a₀, a₁, a₂⟩ := first rrctr rrcap bgid
  have ⟨b₀, b₁, b₂⟩ := second rrstat rrreq sgid
  have ⟨c₀, c₁⟩ := third rte r
  have ⟨d₀, d₁, d₂⟩ := fourth rwd rol0 evbmode
  have ⟨e₀, e₁⟩ := fifth rka rol1
  simp only [EvbtlvInfo.bytes, EvbtlvInfo.ofBytes, a₀, a₁, a₂, b₀, b₁, b₂, c₀, c₁, d₀, d₁, d₂,
    e₀, e₁]

/-- A block of nine bytes comes in as it was packed. -/
theorem nine_arrives {info : List UInt8} (nine : info.length = 9) {ptlv : PackedTlv}
    (built : packTlvAfter ⟨ORG_SPECIFIC_TLV, 9, info⟩ ⟨0, []⟩ 11 = some ptlv) :
    unpackTlv ptlv = some ⟨ORG_SPECIFIC_TLV, 9, info⟩ := by
  have ok : ¬ (!tlvOk ⟨ORG_SPECIFIC_TLV, 9, info⟩) = true := by
    simp [tlvOk]
  have head : ofWord (ORG_SPECIFIC_TLV.toUInt16 <<< 9 ||| ((9 : UInt16) &&& 0x01ff)) =
      [254, 9] := by decide
  have whole : info.take (9 : UInt16).toNat = info := List.take_of_length_le (by simp [nine])
  have packed : packTlvAfter ⟨ORG_SPECIFIC_TLV, 9, info⟩ ⟨0, []⟩ 11 =
      some ⟨11, 254 :: 9 :: info⟩ := by
    rw [packTlvAfter, packTlv, if_neg ok]
    dsimp only
    rw [head, whole]
    rfl
  rw [packed] at built
  obtain rfl := Option.some.inj built
  have type : (word 254 9 >>> 9).toUInt8 = ORG_SPECIFIC_TLV := by decide
  have length : word 254 9 &&& 0x01ff = 9 := by decide
  have enough : ¬ info.length < (9 : UInt16).toNat := by simp [nine]
  simp only [unpackTlv, type, length, whole, if_neg enough]

/-- A TLV that goes out comes in with the information of its maker. -/
theorem gettlv_arrives {port : EvbPort} {ptlv : PackedTlv} (built : evbtlvGettlv port = some ptlv) :
    unpackTlv ptlv = some ⟨ORG_SPECIFIC_TLV, 9,
      hton24 OUI_IEEE_8021 ++ LLDP_EVBTLV_SUBTYPE :: (evbtlvGetconfig port).bytes⟩ := by
  rw [evbtlvGettlv] at built
  split at built
  · cases built
  · exact nine_arrives rfl built

end Bytes

section Larger

variable {own other : EvbtlvInfo} {neg next : Negotiation}

def larger (own other : EvbtlvInfo) (p : Parameter) : ℕ := max (own.value p) (other.value p)

/-- What one block makes of each number: its own is the larger one, and the port is told, if the
module had another one. -/
structure Settles (p : Parameter) (own other : EvbtlvInfo) (neg next : Negotiation) : Prop where
  info : ∀ q, next.info.value q = if q = p then larger own other p else neg.info.value q
  result : ∀ q, next.port.tNegRes.value q =
    if q = p ∧ neg.info.value p ≠ larger own other p then larger own other p
    else neg.port.tNegRes.value q
  reported : neg.info.value p ≠ larger own other p → evbBitTest next.flag p.chg
  flags : ∀ B, evbBitTest neg.flag B → evbBitTest next.flag B
  frame : next.port = { neg.port with tNegRes := next.port.tNegRes }

/-- A number that is taken over, and nothing else. -/
structure Takes (p : Parameter) (value : ℕ) (neg next : Negotiation) : Prop where
  info : ∀ q, next.info.value q = if q = p then value else neg.info.value q
  result : ∀ q, next.port.tNegRes.value q = if q = p then value else neg.port.tNegRes.value q
  frame : next.port = { neg.port with tNegRes := next.port.tNegRes }

theorem Takes.settles {p : Parameter} {value : ℕ} (takes : Takes p value neg next)
    (large : value = larger own other p) (differs : neg.info.value p ≠ value) :
    Settles p own other neg { next with flag := neg.flag ||| p.chg } := by
  subst large
  refine ⟨takes.info, fun q => ?_, fun _ => ?_, fun B test => bitTest_or test _, takes.frame⟩
  · simp only [differs, ne_eq, not_false_eq_true, and_true]
    exact takes.result q
  · exact bitTest_new _ _ (by cases p <;> decide)

theorem settles_same {p : Parameter} (same : neg.info.value p = larger own other p) :
    Settles p own other neg neg := by
  refine ⟨fun q => ?_, fun q => ?_, fun differs => absurd same differs, fun _ => id, rfl⟩
  · split
    · next eq => rw [eq, same]
    · rfl
  · rw [if_neg]
    exact fun both => both.2 same

theorem negotiate_settles {n : ℕ} {field : EvbtlvInfo → Fin n}
    {take : Fin n → Bool → Negotiation → Negotiation} (p : Parameter)
    (value : ∀ info, info.value p = field info)
    (takes : ∀ (v : Fin n) remote, Takes p v neg (take v remote neg)) :
    Settles p own other neg (negotiate field take p.chg own other neg) := by
  have apart {info : EvbtlvInfo} (differs : field neg.info ≠ field info) :
      neg.info.value p ≠ field info := by
    rw [value]
    exact fun same => differs (Fin.ext same)
  have large : larger own other p = max (field own).val (field other).val := by
    rw [larger, value, value]
  rw [negotiate]
  split
  · next more =>
    have this : (field other).val = larger own other p := by
      rw [large]
      exact (Nat.max_eq_right (Nat.le_of_lt more)).symm
    split
    · next differs => exact (takes _ _).settles this (apart differs)
    · next same =>
      refine settles_same ?_
      rw [value, not_not.mp same, this]
  · next less =>
    have this : (field own).val = larger own other p := by
      rw [large]
      exact (Nat.max_eq_left (Nat.le_of_not_lt less)).symm
    split
    · next differs => exact (takes _ _).settles this (apart differs)
    · next same =>
      refine settles_same ?_
      rw [value, not_not.mp same, this]

theorem negotiateRTE_settles (own other : EvbtlvInfo) (neg : Negotiation) :
    Settles .rte own other neg (negotiateRTE own other neg) := by
  refine negotiate_settles .rte (fun _ => rfl) fun v remote => ⟨fun q => ?_, fun q => ?_, rfl⟩
  · cases q <;> rfl
  · cases q with
    | rte => exact Nat.mod_eq_of_lt (Nat.lt_trans v.isLt (by decide))
    | _ => rfl

theorem negotiateRKA_settles (own other : EvbtlvInfo) (neg : Negotiation) :
    Settles .rka own other neg (negotiateRKA own other neg) := by
  refine negotiate_settles .rka (fun _ => rfl) fun v remote => ⟨fun q => ?_, fun q => ?_, rfl⟩
  · cases q <;> rfl
  · cases q with
    | rka => exact Nat.mod_eq_of_lt (Nat.lt_trans v.isLt (by decide))
    | _ => rfl

theorem negotiateRWD_settles (own other : EvbtlvInfo) (neg : Negotiation) :
    Settles .rwd own other neg (negotiateRWD own other neg) := by
  refine negotiate_settles .rwd (fun _ => rfl) fun v remote => ⟨fun q => ?_, fun q => ?_, rfl⟩
  · rw [Negotiation.take, Negotiation.info]
    dsimp only
    split <;> cases q <;> rfl
  · cases q with
    | rwd => exact Nat.mod_eq_of_lt (Nat.lt_trans v.isLt (by decide))
    | _ => rfl

theorem negotiateR_settles (own other : EvbtlvInfo) (neg : Negotiation) :
    Settles .r own other neg (negotiateR own other neg) := by
  have settles : Settles .r own other neg (negotiate (·.r) (fun r _ neg => neg.take
      { neg.info with r } { neg.port.tNegRes with ucEcpMaxRetries := UInt8.ofNat r })
      EVBTLV_CHG_R own other neg) := by
    refine negotiate_settles .r (fun _ => rfl) fun v remote => ⟨fun q => ?_, fun q => ?_, rfl⟩
    · cases q <;> rfl
    · cases q with
      | r => exact Nat.mod_eq_of_lt (Nat.lt_trans v.isLt (by decide))
      | _ => rfl
  rw [negotiateR]
  generalize negotiate _ _ _ own other neg = next at settles
  refine ⟨settles.info, fun q => ?_, fun differs => bitTest_or (settles.reported differs) _,
    fun B test => bitTest_or (settles.flags B test) _, ?_⟩
  · rw [← settles.result q]
    cases q <;> rfl
  · have frame := settles.frame
    rw [Negotiation.take]
    dsimp only
    rw [frame]

/-- What the four blocks make of the numbers. -/
structure Worked (own other : EvbtlvInfo) (neg next : Negotiation) : Prop where
  info : ∀ p, next.info.value p = larger own other p
  result : ∀ p, next.port.tNegRes.value p =
    if neg.info.value p ≠ larger own other p then larger own other p
    else neg.port.tNegRes.value p
  reported : ∀ p, neg.info.value p ≠ larger own other p → evbBitTest next.flag p.chg
  frame : next.port = { neg.port with tNegRes := next.port.tNegRes }

theorem negotiateParameters_worked (own other : EvbtlvInfo) (neg : Negotiation) :
    Worked own other neg (negotiateParameters own other neg) := by
  have r := negotiateR_settles own other neg
  rw [negotiateParameters]
  generalize negotiateR own other neg = neg₁ at r ⊢
  have rte := negotiateRTE_settles own other neg₁
  generalize negotiateRTE own other neg₁ = neg₂ at rte ⊢
  have rwd := negotiateRWD_settles own other neg₂
  generalize negotiateRWD own other neg₂ = neg₃ at rwd ⊢
  have rka := negotiateRKA_settles own other neg₃
  generalize negotiateRKA own other neg₃ = next at rka ⊢
  refine ⟨fun p => ?_, fun p => ?_, fun p => ?_, ?_⟩
  · cases p <;> simp [r.info, rte.info, rwd.info, rka.info]
  · cases p <;> simp [r.info, rte.info, rwd.info, r.result, rte.result, rwd.result, rka.result]
  · intro differs
    cases p with
    | r => exact rka.flags _ (rwd.flags _ (rte.flags _ (r.reported differs)))
    | rte =>
        have same : neg₁.info.value .rte = neg.info.value .rte := r.info .rte
        exact rka.flags _ (rwd.flags _ (rte.reported (same ▸ differs)))
    | rwd =>
        have same : neg₂.info.value .rwd = neg.info.value .rwd :=
          (rte.info .rwd).trans (r.info .rwd)
        exact rka.flags _ (rwd.reported (same ▸ differs))
    | rka =>
        have same : neg₃.info.value .rka = neg.info.value .rka :=
          (rwd.info .rka).trans ((rte.info .rka).trans (r.info .rka))
        exact rka.reported (same ▸ differs)
  · rw [rka.frame, rwd.frame, rte.frame, r.frame]

end Larger

end Tecs.Evbtlv
