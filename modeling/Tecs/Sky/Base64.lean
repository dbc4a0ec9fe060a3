import Mathlib

set_option autoImplicit false
set_option maxRecDepth 20000

namespace Tecs.Base64

/-- The bytes of a text of ASCII characters. -/
def ascii (text : String) : List UInt8 := text.toList.map fun c => UInt8.ofNat c.toNat

def cb64 : List UInt8 :=
  ascii "ABCDEFGHIJKLMNOPQRSTUVWXYZabcdefghijklmnopqrstuvwxyz0123456789+/"

def cd64 : List UInt8 :=
  ascii "|$$$\x7drstuvwxyz\x7b$$$$$$$>?@ABCDEFGHIJKLMNOPQRSTUVW$$$$$$XYZ[\\]^_`abcdefghijklmnopq"

def pad : UInt8 := 61

/-! The six bits behind each of the four characters of a block. -/

def sextet0 (in0 : UInt8) : UInt8 := in0 >>> 2

def sextet1 (in0 in1 : UInt8) : UInt8 := ((in0 &&& 0x03) <<< 4) ||| ((in1 &&& 0xf0) >>> 4)

def sextet2 (in1 in2 : UInt8) : UInt8 := ((in1 &&& 0x0f) <<< 2) ||| ((in2 &&& 0xc0) >>> 6)

def sextet3 (in2 : UInt8) : UInt8 := in2 &&& 0x3f

def letter (sextet : UInt8) : UInt8 := cb64.getD sextet.toNat 0

/-- Encode three bytes, of which `len` are there, as four characters. -/
def encodeblock (in0 in1 in2 : UInt8) (len : Nat) : List UInt8 :=
  [letter (sextet0 in0), letter (sextet1 in0 in1),
    if len > 1 then letter (sextet2 in1 in2) else pad,
    if len > 2 then letter (sextet3 in2) else pad]

def encode : List UInt8 → List UInt8
  | [] => []
  | [in0] => encodeblock in0 0 0 1
  | [in0, in1] => encodeblock in0 in1 0 2
  | in0 :: in1 :: in2 :: buffer => encodeblock in0 in1 in2 3 ++ encode buffer

/-- The block of four characters that is being decoded. -/
structure Input where
  in0 : UInt8
  in1 : UInt8
  in2 : UInt8
  in3 : UInt8

def Input.set (block : Input) : Nat → UInt8 → Input
  | 0, v => { block with in0 := v }
  | 1, v => { block with in1 := v }
  | 2, v => { block with in2 := v }
  | _, v => { block with in3 := v }

def decodeblock (block : Input) : List UInt8 :=
  [block.in0 <<< 2 ||| block.in1 >>> 4, block.in1 <<< 4 ||| block.in2 >>> 2,
    ((block.in2 <<< 6) &&& 0xc0) ||| block.in3]

/-- One more than the six bits behind a character, and 0 for a character outside the alphabet. -/
def value (c : UInt8) : UInt8 :=
  let v := if c < 43 ∨ c > 122 then 0 else cd64.getD (c - 43).toNat 0
  if v ≠ 0 then if v = 36 then 0 else v - 61 else v

/-- Skip to the next character of the alphabet and past it. -/
def nextValue : List UInt8 → UInt8 × List UInt8
  | [] => (0, [])
  | c :: text => if value c = 0 then nextValue text else (value c, text)

/-- The `for` loop that fills a block, from place `i` on. A character is taken only when the
text goes on after it. -/
def fill : (turns i : Nat) → (text : List UInt8) → (block : Input) → (len : Nat) →
    Input × Nat × List UInt8
  | 0, _, text, block, len => (block, len, text)
  | turns + 1, i, text, block, len =>
      if text = [] then (block, len, text)
      else
        let next := nextValue text
        if next.2 ≠ [] then
          fill turns (i + 1) next.2 (if next.1 ≠ 0 then block.set i (next.1 - 1) else block)
            (len + 1)
        else fill turns (i + 1) next.2 (block.set i 0) len

/-- The `while` loop, at most `turns` times. The block keeps what the last turn left in it. -/
def decodeTurns : (turns : Nat) → (text : List UInt8) → (block : Input) → List UInt8
  | 0, _, _ => []
  | turns + 1, text, block =>
      if text = [] then []
      else
        let filled := fill 4 0 text block 0
        (if filled.2.1 ≠ 0 then (decodeblock filled.1).take (filled.2.1 - 1) else []) ++
          decodeTurns turns filled.2.2 filled.1

/-- The bytes written to the buffer. Every turn takes a character; `block` is what the
uninitialised array happens to hold. -/
def decode (block : Input) (text : List UInt8) : List UInt8 := decodeTurns text.length text block

/-! The alphabet. -/

theorem value_letter (sextet : UInt8) (small : sextet < 64) : value (letter sextet) =
    sextet + 1 := by
  have table : ∀ n : Fin 64, value (cb64.getD n 0) = UInt8.ofNat (n + 1) := by decide
  have bound : sextet.toNat < 64 := small
  have entry := table ⟨sextet.toNat, bound⟩
  rw [letter, entry]
  simp

theorem value_pad : value pad = 0 := by decide

/-- The sextets a text spells, characters outside the alphabet left out. -/
def sextets (text : List UInt8) : List UInt8 :=
  (text.filter (fun c => value c ≠ 0)).map fun c => value c - 1

/-- The bytes behind a sequence of sextets, four to a block. -/
def bytes : List UInt8 → List UInt8
  | s0 :: s1 :: s2 :: s3 :: rest => decodeblock ⟨s0, s1, s2, s3⟩ ++ bytes rest
  | s0 :: s1 :: s2 :: [] => (decodeblock ⟨s0, s1, s2, 0⟩).take 2
  | s0 :: s1 :: [] => (decodeblock ⟨s0, s1, 0, 0⟩).take 1
  | _ => []

@[simp] theorem sextets_nil : sextets [] = [] := rfl

theorem sextets_cons (c : UInt8) (text : List UInt8) :
    sextets (c :: text) = if value c = 0 then sextets text else (value c - 1) :: sextets text := by
  by_cases outside : value c = 0 <;> simp [sextets, outside]

theorem sextets_letter (sextet : UInt8) (small : sextet < 64) (text : List UInt8) :
    sextets (letter sextet :: text) = sextet :: sextets text := by
  have next : sextet + 1 ≠ 0 := by
    intro zero
    have sum := congrArg UInt8.toNat zero
    have bound : sextet.toNat < 64 := small
    simp only [UInt8.toNat_add, UInt8.toNat_one, UInt8.toNat_zero] at sum
    omega
  rw [sextets_cons, value_letter sextet small, if_neg next, UInt8.add_sub_cancel]

theorem sextets_pad (text : List UInt8) : sextets (pad :: text) = sextets text := by
  rw [sextets_cons, if_pos value_pad]

theorem sextets_filter (text : List UInt8) :
    sextets (text.filter fun c => value c ≠ 0) = sextets text := by
  simp [sextets]

/-! What the loops read off a text. Its last character is never taken. -/

theorem nextValue_append (c : UInt8) (text : List UInt8) :
    (sextets text = [] ∧ (nextValue (text ++ [c])).2 = []) ∨
      ∃ s rest, sextets text = s :: sextets rest ∧ rest.length < text.length ∧
        nextValue (text ++ [c]) = (s + 1, rest ++ [c]) ∧ s + 1 ≠ 0 := by
  induction text with
  | nil =>
      left
      refine ⟨rfl, ?_⟩
      by_cases outside : value c = 0 <;> simp [nextValue, outside]
  | cons d text ih =>
      by_cases outside : value d = 0
      · have skip : nextValue (d :: text ++ [c]) = nextValue (text ++ [c]) := by
          simp [nextValue, outside]
        rw [sextets_cons, if_pos outside, skip]
        rcases ih with done | ⟨s, rest, first, shorter, next, nonzero⟩
        · exact .inl done
        · exact .inr ⟨s, rest, first, Nat.lt_succ_of_lt shorter, next, nonzero⟩
      · right
        have back : value d - 1 + 1 = value d := UInt8.sub_add_cancel (value d) 1
        refine ⟨value d - 1, text, ?_, Nat.lt_succ_self _, ?_, ?_⟩
        · rw [sextets_cons, if_neg outside]
        · simp [nextValue, outside, back]
        · rw [back]
          exact outside

theorem fill_end (c : UInt8) {text : List UInt8} (none : sextets text = []) (turns i : Nat)
    (block : Input) (len : Nat) :
    fill (turns + 1) i (text ++ [c]) block len = (block.set i 0, len, []) := by
  rcases nextValue_append c text with ⟨-, last⟩ | ⟨s, rest, first, -⟩
  · cases turns <;> simp [fill, last]
  · rw [none] at first
    cases first

theorem fill_next (c : UInt8) {text rest : List UInt8} {s : UInt8}
    (next : nextValue (text ++ [c]) = (s + 1, rest ++ [c])) (nonzero : s + 1 ≠ 0) (turns i : Nat)
    (block : Input) (len : Nat) :
    fill (turns + 1) i (text ++ [c]) block len =
      fill turns (i + 1) (rest ++ [c]) (block.set i s) (len + 1) := by
  have back : s + 1 - 1 = s := UInt8.add_sub_cancel s 1
  simp [fill, next, nonzero, back]

theorem decodeTurns_nil (turns : Nat) (block : Input) : decodeTurns turns [] block = [] := by
  cases turns <;> simp [decodeTurns]

/-- One turn writes the bytes of a whole block and goes on, or writes what is left. -/
theorem decodeTurns_append (c : UInt8) (turns : Nat) : ∀ (text : List UInt8) (block : Input),
    text.length < turns → decodeTurns turns (text ++ [c]) block = bytes (sextets text) := by
  induction turns with
  | zero => exact fun text block short => absurd short (Nat.not_lt_zero _)
  | succ turns ih =>
      intro text block short
      have filled : text ++ [c] ≠ [] := by simp
      simp only [decodeTurns, if_neg filled]
      rcases nextValue_append c text with ⟨none, -⟩ | ⟨s0, text0, first0, less0, next0, nonzero0⟩
      · rw [fill_end c none, none]
        simp [decodeTurns_nil, bytes]
      rw [fill_next c next0 nonzero0, first0]
      rcases nextValue_append c text0 with ⟨none, -⟩ | ⟨s1, text1, first1, less1, next1, nonzero1⟩
      · rw [fill_end c none, none]
        simp [decodeTurns_nil, bytes]
      rw [fill_next c next1 nonzero1, first1]
      rcases nextValue_append c text1 with ⟨none, -⟩ | ⟨s2, text2, first2, less2, next2, nonzero2⟩
      · rw [fill_end c none, none]
        simp [decodeTurns_nil, bytes, decodeblock, Input.set]
      rw [fill_next c next2 nonzero2, first2]
      rcases nextValue_append c text2 with ⟨none, -⟩ | ⟨s3, text3, first3, less3, next3, nonzero3⟩
      · rw [fill_end c none, none]
        simp [decodeTurns_nil, bytes, decodeblock, Input.set]
      rw [fill_next c next3 nonzero3, first3]
      have rest := ih text3 ⟨s0, s1, s2, s3⟩ (by omega)
      simpa [fill, bytes, decodeblock, Input.set] using rest

/-- The bytes of a text come from all its characters but the last one. -/
theorem decode_append (block : Input) (text : List UInt8) (c : UInt8) :
    decode block (text ++ [c]) = bytes (sextets text) := by
  have length : (text ++ [c]).length = text.length + 1 := by simp
  rw [decode, length]
  exact decodeTurns_append c _ text block (Nat.lt_succ_self _)

/-! The bits of a block. -/

theorem eq_of_bits {a b : UInt8}
    (same : ∀ i, i < 8 → a.toBitVec.getLsbD i = b.toBitVec.getLsbD i) : a = b :=
  UInt8.toBitVec_inj.mp (BitVec.eq_of_getLsbD_eq fun i inside => same i inside)

theorem lt_of_bits {a : UInt8} (same : a &&& 0x3f = a) : a < 64 := by
  have masked : a.toNat &&& 63 = a.toNat := congrArg UInt8.toNat same
  have bound : a.toNat &&& 63 ≤ 63 := Nat.and_le_right
  exact UInt8.lt_iff_toNat_lt.mpr (by
    change a.toNat < 64
    omega)

theorem sextet0_lt (in0 : UInt8) : sextet0 in0 < 64 := by
  apply lt_of_bits
  apply eq_of_bits
  intro i inside
  interval_cases i <;> simp [sextet0]

theorem sextet1_lt (in0 in1 : UInt8) : sextet1 in0 in1 < 64 := by
  apply lt_of_bits
  apply eq_of_bits
  intro i inside
  interval_cases i <;> simp [sextet1]

theorem sextet2_lt (in1 in2 : UInt8) : sextet2 in1 in2 < 64 := by
  apply lt_of_bits
  apply eq_of_bits
  intro i inside
  interval_cases i <;> simp [sextet2]

theorem sextet3_lt (in2 : UInt8) : sextet3 in2 < 64 := by
  apply lt_of_bits
  apply eq_of_bits
  intro i inside
  interval_cases i <;> simp [sextet3]

theorem byte0 (in0 in1 : UInt8) : sextet0 in0 <<< 2 ||| sextet1 in0 in1 >>> 4 = in0 := by
  apply eq_of_bits
  intro i inside
  interval_cases i <;> simp [sextet0, sextet1]

theorem byte1 (in0 in1 in2 : UInt8) : sextet1 in0 in1 <<< 4 ||| sextet2 in1 in2 >>> 2 = in1 := by
  apply eq_of_bits
  intro i inside
  interval_cases i <;> simp [sextet1, sextet2]

theorem byte2 (in1 in2 : UInt8) : ((sextet2 in1 in2 <<< 6) &&& 0xc0) ||| sextet3 in2 = in2 := by
  apply eq_of_bits
  intro i inside
  interval_cases i <;> simp [sextet2, sextet3]

/-! Decoding what was encoded. -/

theorem sextets_block (in0 in1 in2 : UInt8) (text : List UInt8) :
    sextets (encodeblock in0 in1 in2 3 ++ text) =
      sextet0 in0 :: sextet1 in0 in1 :: sextet2 in1 in2 :: sextet3 in2 :: sextets text := by
  simp [encodeblock, sextets_letter, sextet0_lt, sextet1_lt, sextet2_lt, sextet3_lt]

theorem bytes_block (in0 in1 in2 : UInt8) (rest : List UInt8) :
    bytes (sextet0 in0 :: sextet1 in0 in1 :: sextet2 in1 in2 :: sextet3 in2 :: rest) =
      in0 :: in1 :: in2 :: bytes rest := by
  simp [bytes, decodeblock, byte0, byte1, byte2]

/-- An encoding without its last character still spells all the bytes, unless its last
block is a whole one; then it lacks one. -/
theorem encode_split : ∀ buffer : List UInt8, buffer ≠ [] → ∃ text c, encode buffer = text ++ [c] ∧
    bytes (sextets text) = if buffer.length % 3 = 0 then buffer.dropLast else buffer
  | [], filled => absurd rfl filled
  | [in0], _ => by
      refine ⟨[letter (sextet0 in0), letter (sextet1 in0 0), pad],
        pad, by simp [encode, encodeblock],
        ?_⟩
      have first := byte0 in0 0
      simp [sextets_letter, sextet0_lt, sextet1_lt, sextets_pad, bytes, decodeblock, first]
  | [in0, in1], _ => by
      refine ⟨[letter (sextet0 in0), letter (sextet1 in0 in1), letter (sextet2 in1 0)], pad,
        by simp [encode, encodeblock], ?_⟩
      have first := byte0 in0 in1
      have second := byte1 in0 in1 0
      simp [sextets_letter, sextet0_lt, sextet1_lt, sextet2_lt, bytes, decodeblock, first, second]
  | [in0, in1, in2], _ => by
      refine ⟨[letter (sextet0 in0), letter (sextet1 in0 in1), letter (sextet2 in1 in2)],
        letter (sextet3 in2), by simp [encode, encodeblock], ?_⟩
      have first := byte0 in0 in1
      have second := byte1 in0 in1 in2
      simp [sextets_letter, sextet0_lt, sextet1_lt, sextet2_lt, bytes, decodeblock, first, second]
  | in0 :: in1 :: in2 :: in3 :: rest, _ => by
      obtain ⟨text, c, split, spelled⟩ := encode_split (in3 :: rest) (List.cons_ne_nil _ _)
      refine ⟨encodeblock in0 in1 in2 3 ++ text, c, ?_, ?_⟩
      · rw [encode, split, List.append_assoc]
      · have length : (in0 :: in1 :: in2 :: in3 :: rest).length % 3 = (in3 :: rest).length % 3 := by
          simp only [List.length_cons]
          omega
        rw [sextets_block, bytes_block, spelled, length]
        split <;> simp

/-- Decoding loses the last byte of a buffer of whole blocks, and nothing else. -/
theorem decode_encode (block : Input) (buffer : List UInt8) :
    decode block (encode buffer) =
      if buffer.length % 3 = 0 then buffer.dropLast else buffer := by
  cases buffer with
  | nil => rfl
  | cons in0 rest =>
      obtain ⟨text, c, split, spelled⟩ := encode_split (in0 :: rest) (List.cons_ne_nil _ _)
      rw [split, decode_append, spelled]

/-- What the uninitialised array holds never shows. -/
theorem decode_uninitialised (block block' : Input) (text : List UInt8) :
    decode block text = decode block' text := by
  rcases List.eq_nil_or_concat text with rfl | ⟨front, c, rfl⟩
  · rfl
  · rw [List.concat_eq_append, decode_append, decode_append]

/-- Buffers with a padded last block come back as they were, and noise is discarded: before the
last character of a text no character outside the alphabet matters. -/
theorem base64_round_trip (block : Input) :
    (∀ buffer : List UInt8, (buffer = [] ∨ buffer.length % 3 ≠ 0) →
      decode block (encode buffer) = buffer) ∧
    ∀ (text : List UInt8) (c : UInt8),
      decode block (text ++ [c]) = decode block (text.filter (fun d => value d ≠ 0) ++ [c]) := by
  refine ⟨?_, ?_⟩
  · rintro buffer (rfl | partly)
    · rfl
    · rw [decode_encode, if_neg partly]
  · intro text c
    rw [decode_append, decode_append, sextets_filter]

theorem base64_round_trip_ff :
    decode ⟨0, 0, 0, 0⟩ (encode [255, 128]) = [255, 128] ∧
      decode ⟨0, 0, 0, 0⟩ (ascii "TW\nE" ++ [pad]) =
        decode ⟨0, 0, 0, 0⟩ ((ascii "TW\nE").filter (fun d => value d ≠ 0) ++ [pad]) :=
  ⟨(base64_round_trip ⟨0, 0, 0, 0⟩).1 [255, 128] (.inr (by decide)),
    (base64_round_trip ⟨0, 0, 0, 0⟩).2 (ascii "TW\nE") pad⟩

/-- A text with a line break decodes to bytes with another encoding, which decodes to the same
bytes; and three bytes do not come back. -/
theorem base64_lenient :
    let noisy := ascii "TW\nE="
    let decoded := decode ⟨0, 0, 0, 0⟩ noisy
    encode decoded ≠ noisy ∧ decode ⟨0, 0, 0, 0⟩ (encode decoded) = decoded ∧
      decode ⟨0, 0, 0, 0⟩ (encode (ascii "Man")) ≠ ascii "Man" := by
  decide

end Tecs.Base64
