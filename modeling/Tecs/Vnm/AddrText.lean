import Tecs.Vnm.Ipv4Addr

set_option autoImplicit false
set_option maxRecDepth 20000

/-! The texts of the addresses: `String2IP`, `String2MAC` and what is printed. -/

namespace Tecs.AddrText

section Definitions

/-- No result where an array would be indexed outside its bounds, an inner one where the text is
accepted. -/
abbrev Checked (α : Type) := Option (Option α)

/-- What the two parsers differ in. -/
structure TextFormat where
  digitsLength : ℕ
  punctLength : ℕ
  fields : ℕ
  separator : UInt8
  mark : UInt8
  limit : UInt8
  digit : UInt8 → Option UInt8
  /-- One more digit of a field, whose value and number of digits so far are given. -/
  step : ℕ × ℕ → UInt8 → Option (ℕ × ℕ)
  byte : ℕ × ℕ → Option UInt8

def PUNCT_NUL : UInt8 := 0x10

/-- The arrays `digits` and `punct` with their counters. -/
structure Scan where
  digits : List UInt8
  punct : List UInt8
  ndigits : ℕ
  npunct : ℕ
deriving Repr, DecidableEq

/-- A write to an array. -/
def write (array : List UInt8) (i : ℕ) (v : UInt8) : Option (List UInt8) :=
  if i < array.length then some (array.set i v) else none

def Scan.addDigit (scan : Scan) (v : UInt8) : Option Scan :=
  (write scan.digits scan.ndigits v).map fun digits =>
    { scan with digits := digits, ndigits := scan.ndigits + 1 }

def Scan.addPunct (scan : Scan) (v : UInt8) : Option Scan :=
  (scan.addDigit v).bind fun scan =>
    (write scan.punct scan.npunct v).map fun punct =>
      { scan with punct := punct, npunct := scan.npunct + 1 }

variable (fmt : TextFormat)

def TextFormat.fits (scan : Scan) : Prop :=
  scan.ndigits < fmt.digitsLength ∧ scan.npunct < fmt.punctLength

instance (scan : Scan) : Decidable (fmt.fits scan) := inferInstanceAs (Decidable (_ ∧ _))

/-- The loop over the characters; the text ends with a NUL. -/
def TextFormat.scan : List UInt8 → Scan → Checked Scan
  | [], _ => none
  | c :: rest, scan =>
      if c = 0 then
        (scan.addPunct PUNCT_NUL).map fun scan => if fmt.fits scan then some scan else none
      else if c = fmt.separator then
        (scan.addPunct fmt.mark).bind fun scan =>
          if fmt.fits scan then TextFormat.scan rest scan else some none
      else
        match fmt.digit c with
        | none => some none
        | some d =>
            (scan.addDigit d).bind fun scan =>
              if fmt.fits scan then TextFormat.scan rest scan else some none

/-- The inner loop over the digits of one field; it leaves the array from the first that is none. -/
def TextFormat.readNumber : List UInt8 → ℕ × ℕ → Checked ((ℕ × ℕ) × List UInt8)
  | [], _ => none
  | d :: rest, number =>
      if d ≤ fmt.limit then
        match fmt.step number d with
        | none => some none
        | some number => TextFormat.readNumber rest number
      else some (some (number, d :: rest))

/-- The loop over the fields, from the entries of the arrays that are not passed yet. -/
def TextFormat.convert : List UInt8 → List UInt8 → List UInt8 → ℕ → Checked (List UInt8)
  | [], _, _, _ => none
  | p :: punct, digits, out, ibits =>
      if p = fmt.mark ∨ p = PUNCT_NUL then
        match fmt.readNumber digits (0, 0) with
        | none => none
        | some none => some none
        | some (some (_, [])) => none
        | some (some (number, d :: digits)) =>
            match fmt.byte number with
            | none => some none
            | some byte =>
                if d ≠ p then some none
                else
                  (write out ibits byte).bind fun out =>
                    if p = PUNCT_NUL then some (some out)
                    else TextFormat.convert punct digits out (ibits + 1)
      else some none

def isBlank (c : UInt8) : Bool := c = 32 || c = 9

def TextFormat.parse (s : List UInt8) : Checked (List UInt8) :=
  if s = [] then some none
  else
    match fmt.scan ((s ++ [0]).dropWhile isBlank)
      ⟨List.replicate fmt.digitsLength 0, List.replicate fmt.punctLength 0, 0, 0⟩ with
    | none => none
    | some none => some none
    | some (some scan) =>
        if scan.npunct ≠ fmt.fields then some none
        else fmt.convert scan.punct scan.digits (List.replicate fmt.fields 0) 0

def decimalDigit (c : UInt8) : Option UInt8 := if 48 ≤ c ∧ c ≤ 57 then some (c - 48) else none

def hexDigit (c : UInt8) : Option UInt8 :=
  if 48 ≤ c ∧ c ≤ 57 then some (c - 48) else if 97 ≤ c ∧ c ≤ 102 then some (c - 87) else none

def toLower (c : UInt8) : UInt8 := if 65 ≤ c ∧ c ≤ 90 then c + 32 else c

def ipText : TextFormat where
  digitsLength := 46
  punctLength := 10
  fields := 4
  separator := 46
  mark := 0x12
  limit := 9
  digit := decimalDigit
  step number d :=
    if number.1 * 10 + d.toNat > 255 then none else some (number.1 * 10 + d.toNat, number.2 + 1)
  byte number := some (UInt8.ofNat number.1)

def macText : TextFormat where
  digitsLength := 21
  punctLength := 9
  fields := 6
  separator := 58
  mark := 0x11
  limit := 0xf
  digit := hexDigit
  step number d := some ((number.1 <<< 4 ||| d.toNat) % 256, number.2 + 1)
  byte number := if number.2 > 2 then none else some (UInt8.ofNat number.1)

end Definitions

section Splitting

variable {α : Type} [BEq α] [LawfulBEq α] {x : α}

omit [LawfulBEq α] in
theorem length_splitOn (l : List α) : (l.splitOn x).length = l.count x + 1 := by
  induction l with
  | nil => simp
  | cons c rest ih =>
      rw [List.splitOn_cons_eq_if_modifyHead, List.count_cons]
      split
      · rw [List.length_cons, ih]
      · rw [List.length_modifyHead, ih, Nat.add_zero]

/-- The fields hold what is not a separator. -/
theorem forall_splitOn (P : α → Prop) (l : List α) :
    (∀ f ∈ l.splitOn x, ∀ c ∈ f, P c ∧ c ≠ x) ↔ ∀ c ∈ l, c = x ∨ P c := by
  induction l with
  | nil => simp
  | cons c rest ih =>
      rw [List.splitOn_cons_eq_if_modifyHead, List.forall_mem_cons, ← ih]
      cases fields : rest.splitOn x with
      | nil => exact absurd fields (List.splitOn_ne_nil x rest)
      | cons f others =>
          by_cases same : c = x
          · simp [same]
          · simp only [beq_iff_eq, same, if_false, List.modifyHead_cons, List.forall_mem_cons,
              not_false_eq_true, ne_eq, false_or, and_true]
            constructor
            · rintro ⟨⟨first, inner⟩, outer⟩
              exact ⟨first, inner, outer⟩
            · rintro ⟨first, inner, outer⟩
              exact ⟨⟨first, inner⟩, outer⟩

/-- Each element gives its own result. -/
theorem mapM_some_iff {β γ : Type} {f : β → Option γ} {l : List β} {results : List γ} :
    l.mapM f = some results ↔ List.Forall₂ (fun a b => f a = some b) l results := by
  induction l generalizing results with
  | nil =>
      rw [List.mapM_nil, List.forall₂_nil_left_iff]
      exact ⟨fun eq => (Option.some.inj eq).symm, fun eq => congrArg some eq.symm⟩
  | cons a rest ih =>
      rw [List.mapM_cons, List.forall₂_cons_left_iff]
      constructor
      · intro eq
        obtain ⟨b, first, eq⟩ := Option.bind_eq_some_iff.mp eq
        obtain ⟨bs, others, eq⟩ := Option.bind_eq_some_iff.mp eq
        exact ⟨b, bs, first, ih.mp others, (Option.some.inj eq).symm⟩
      · rintro ⟨b, bs, first, others, rfl⟩
        rw [first, ih.mpr others]
        rfl

end Splitting

section Fields

variable {fmt : TextFormat}

/-- What the proofs need of a format. -/
structure TextFormat.Proper (fmt : TextFormat) : Prop where
  digits : ∀ c d, fmt.digit c = some d → d ≤ fmt.limit
  mark : fmt.limit < fmt.mark
  nul : fmt.limit < PUNCT_NUL
  apart : fmt.mark ≠ PUNCT_NUL
  several : 1 < fmt.fields
  room : fmt.fields < fmt.punctLength
  start : 0 < fmt.digitsLength
  separatorNul : fmt.separator ≠ 0
  plain : ∀ c, fmt.digit c ≠ none → c ≠ fmt.separator ∧ c ≠ 0 ∧ isBlank c = false

/-- The characters up to the first that is a NUL, behind the blanks. -/
def body (s : List UInt8) : List UInt8 := s.dropWhile isBlank

def text (s : List UInt8) : List UInt8 := (body s).takeWhile (· ≠ 0)

def TextFormat.fieldsOf (fmt : TextFormat) (s : List UInt8) : List (List UInt8) :=
  (text s).splitOn fmt.separator

def TextFormat.sym (fmt : TextFormat) (c : UInt8) : UInt8 :=
  if c = fmt.separator then fmt.mark else (fmt.digit c).getD 0

def TextFormat.IsDigit (fmt : TextFormat) (c : UInt8) : Prop := (fmt.digit c).isSome = true

instance (c : UInt8) : Decidable (fmt.IsDigit c) := inferInstanceAs (Decidable (_ = _))

def TextFormat.Legal (fmt : TextFormat) (c : UInt8) : Prop := c = fmt.separator ∨ fmt.IsDigit c

instance (c : UInt8) : Decidable (fmt.Legal c) := inferInstanceAs (Decidable (_ ∨ _))

def TextFormat.readField (fmt : TextFormat) (f : List UInt8) : Option UInt8 :=
  ((f.map fmt.sym).foldlM fmt.step (0, 0)).bind fmt.byte

/-- An array of some length that is written from its start. -/
def pad (n : ℕ) (l : List UInt8) : List UInt8 := l ++ List.replicate (n - l.length) 0

def TextFormat.filled (fmt : TextFormat) (digits punct : List UInt8) : Scan :=
  ⟨pad fmt.digitsLength digits, pad fmt.punctLength punct, digits.length, punct.length⟩

theorem write_pad {n : ℕ} {l : List UInt8} (room : l.length < n) (v : UInt8) :
    write (pad n l) l.length v = some (pad n (l ++ [v])) := by
  have length : l.length < (pad n l).length := by
    rw [pad, List.length_append, List.length_replicate]
    omega
  have left : n - l.length = (n - (l ++ [v]).length) + 1 := by
    rw [List.length_append, List.length_singleton]
    omega
  rw [write, if_pos length, pad, List.set_append_right _ _ (Nat.le_refl _), Nat.sub_self, left,
    List.replicate_succ, List.set_cons_zero, pad, List.append_assoc, List.singleton_append]

theorem addDigit_filled {digits punct : List UInt8} (room : digits.length < fmt.digitsLength)
    (v : UInt8) :
    (fmt.filled digits punct).addDigit v = some (fmt.filled (digits ++ [v]) punct) := by
  rw [Scan.addDigit, TextFormat.filled]
  dsimp only
  rw [write_pad room]
  simp [TextFormat.filled]

theorem addPunct_filled {digits punct : List UInt8} (room : digits.length < fmt.digitsLength)
    (space : punct.length < fmt.punctLength) (v : UInt8) :
    (fmt.filled digits punct).addPunct v =
      some (fmt.filled (digits ++ [v]) (punct ++ [v])) := by
  rw [Scan.addPunct, addDigit_filled room, Option.bind_some, TextFormat.filled]
  dsimp only
  rw [write_pad space]
  simp [TextFormat.filled]

theorem fits_filled {digits punct : List UInt8} :
    fmt.fits (fmt.filled digits punct) ↔
      digits.length < fmt.digitsLength ∧ punct.length < fmt.punctLength :=
  Iff.rfl

/-- All characters are known, and the arrays have room for them behind what they hold. -/
def TextFormat.Room (fmt : TextFormat) (chars : List UInt8) (ndigits npunct : ℕ) : Prop :=
  (∀ c ∈ chars, fmt.Legal c) ∧ ndigits + chars.length + 1 < fmt.digitsLength ∧
    npunct + chars.count fmt.separator + 1 < fmt.punctLength

instance (chars : List UInt8) (n m : ℕ) : Decidable (fmt.Room chars n m) :=
  inferInstanceAs (Decidable (_ ∧ _))

/-- The arrays after the loop over the characters. -/
def TextFormat.scanned (fmt : TextFormat) (chars digits punct : List UInt8) : Scan :=
  fmt.filled (digits ++ chars.map fmt.sym ++ [PUNCT_NUL])
    (punct ++ List.replicate (chars.count fmt.separator) fmt.mark ++ [PUNCT_NUL])

theorem room_separator {c : UInt8} {rest : List UInt8} {n m : ℕ} (separator : c = fmt.separator) :
    fmt.Room (c :: rest) n m ↔ fmt.Room rest (n + 1) (m + 1) := by
  have legal : fmt.Legal c := .inl separator
  have count : (c :: rest).count fmt.separator = rest.count fmt.separator + 1 := by
    rw [separator, List.count_cons_self]
  rw [TextFormat.Room, TextFormat.Room, List.forall_mem_cons, List.length_cons, count]
  constructor
  · rintro ⟨⟨-, legals⟩, long, wide⟩
    exact ⟨legals, by omega, by omega⟩
  · rintro ⟨legals, long, wide⟩
    exact ⟨⟨legal, legals⟩, by omega, by omega⟩

theorem room_digit {c d : UInt8} {rest : List UInt8} {n m : ℕ} (separator : c ≠ fmt.separator)
    (digit : fmt.digit c = some d) : fmt.Room (c :: rest) n m ↔ fmt.Room rest (n + 1) m := by
  have legal : fmt.Legal c := .inr (by rw [TextFormat.IsDigit, digit]; rfl)
  have count : (c :: rest).count fmt.separator = rest.count fmt.separator :=
    List.count_cons_of_ne separator
  rw [TextFormat.Room, TextFormat.Room, List.forall_mem_cons, List.length_cons, count]
  constructor
  · rintro ⟨⟨-, legals⟩, long, wide⟩
    exact ⟨legals, by omega, wide⟩
  · rintro ⟨legals, long, wide⟩
    exact ⟨⟨legal, legals⟩, by omega, wide⟩

theorem scanned_separator {c : UInt8} {rest digits punct : List UInt8}
    (separator : c = fmt.separator) :
    fmt.scanned rest (digits ++ [fmt.mark]) (punct ++ [fmt.mark]) =
      fmt.scanned (c :: rest) digits punct := by
  have sym : fmt.sym c = fmt.mark := if_pos separator
  have count : (c :: rest).count fmt.separator = rest.count fmt.separator + 1 := by
    rw [separator, List.count_cons_self]
  simp [TextFormat.scanned, sym, count, List.replicate_succ]

theorem scanned_digit {c d : UInt8} {rest digits punct : List UInt8}
    (separator : c ≠ fmt.separator) (digit : fmt.digit c = some d) :
    fmt.scanned rest (digits ++ [d]) punct = fmt.scanned (c :: rest) digits punct := by
  have sym : fmt.sym c = d := by rw [TextFormat.sym, if_neg separator, digit, Option.getD_some]
  have count : (c :: rest).count fmt.separator = rest.count fmt.separator :=
    List.count_cons_of_ne separator
  simp [TextFormat.scanned, sym, count]

theorem room_bounds {chars : List UInt8} {n m : ℕ} (room : fmt.Room chars n m) :
    n + 1 < fmt.digitsLength ∧ m + 1 < fmt.punctLength :=
  ⟨by have := room.2.1; omega, by have := room.2.2; omega⟩

/-- The loop over the characters up to a NUL. -/
theorem scan_eq (junk : List UInt8) {chars digits punct : List UInt8} (noNul : 0 ∉ chars)
    (long : digits.length < fmt.digitsLength) (wide : punct.length < fmt.punctLength) :
    fmt.scan (chars ++ 0 :: junk) (fmt.filled digits punct) =
      some (if fmt.Room chars digits.length punct.length then some (fmt.scanned chars digits punct)
        else none) := by
  induction chars generalizing digits punct with
  | nil =>
      rw [List.nil_append, TextFormat.scan, if_pos rfl, addPunct_filled long wide, Option.map_some]
      have fits : fmt.fits (fmt.filled (digits ++ [PUNCT_NUL]) (punct ++ [PUNCT_NUL])) ↔
          fmt.Room [] digits.length punct.length := by
        rw [fits_filled, List.length_append, List.length_append, TextFormat.Room]
        simp
      simp only [fits]
      simp [TextFormat.scanned]
  | cons c rest ih =>
      have notNul : c ≠ 0 := fun same => noNul (same ▸ List.mem_cons_self)
      have noNulRest : 0 ∉ rest := fun mem => noNul (List.mem_cons_of_mem c mem)
      rw [List.cons_append, TextFormat.scan, if_neg notNul]
      by_cases separator : c = fmt.separator
      · rw [if_pos separator, addPunct_filled long wide, Option.bind_some]
        simp only [room_separator separator]
        by_cases fits : fmt.fits (fmt.filled (digits ++ [fmt.mark]) (punct ++ [fmt.mark]))
        · have next := ih noNulRest (fits_filled.mp fits).1 (fits_filled.mp fits).2
          rw [if_pos fits, next, scanned_separator separator]
          simp only [List.length_append, List.length_singleton]
        · rw [if_neg fits, if_neg]
          intro room
          rw [fits_filled, List.length_append, List.length_append] at fits
          have bounds := room_bounds room
          exact fits ⟨Nat.lt_of_succ_lt bounds.1, Nat.lt_of_succ_lt bounds.2⟩
      · rw [if_neg separator]
        cases digit : fmt.digit c with
        | none =>
            rw [if_neg]
            intro room
            rcases room.1 c List.mem_cons_self with same | isDigit
            · exact separator same
            · rw [TextFormat.IsDigit, digit] at isDigit
              cases isDigit
        | some d =>
            dsimp only
            rw [addDigit_filled long, Option.bind_some]
            simp only [room_digit separator digit]
            by_cases fits : fmt.fits (fmt.filled (digits ++ [d]) punct)
            · have next := ih noNulRest (fits_filled.mp fits).1 wide
              rw [if_pos fits, next, scanned_digit separator digit]
              simp only [List.length_append, List.length_singleton]
            · rw [if_neg fits, if_neg]
              intro room
              rw [fits_filled, List.length_append] at fits
              exact fits ⟨Nat.lt_of_succ_lt (room_bounds room).1, wide⟩

theorem readNumber_eq {digits rest : List UInt8} {p : UInt8}
    (inside : ∀ d ∈ digits, d ≤ fmt.limit) (ends : fmt.limit < p) (number : ℕ × ℕ) :
    fmt.readNumber (digits ++ p :: rest) number =
      some ((digits.foldlM fmt.step number).map fun number => (number, p :: rest)) := by
  induction digits generalizing number with
  | nil =>
      rw [List.nil_append, TextFormat.readNumber, if_neg (UInt8.not_le.mpr ends)]
      rfl
  | cons d digits ih =>
      rw [List.cons_append, TextFormat.readNumber, if_pos (inside d List.mem_cons_self),
        List.foldlM_cons]
      cases fmt.step number d with
      | none => rfl
      | some number => exact ih (fun e mem => inside e (List.mem_cons_of_mem d mem)) number

/-- What the loop over the characters writes for some fields. -/
def TextFormat.symbols (fmt : TextFormat) (fields : List (List UInt8)) : List UInt8 :=
  ([fmt.separator].intercalate fields).map fmt.sym ++ [PUNCT_NUL]

def TextFormat.marks (fmt : TextFormat) (fields : List (List UInt8)) : List UInt8 :=
  List.replicate (fields.length - 1) fmt.mark ++ [PUNCT_NUL]

theorem sym_digit (proper : fmt.Proper) {c : UInt8} (digit : fmt.IsDigit c)
    (separator : c ≠ fmt.separator) : fmt.sym c ≤ fmt.limit := by
  obtain ⟨d, eq⟩ := Option.isSome_iff_exists.mp digit
  rw [TextFormat.sym, if_neg separator, eq]
  exact proper.digits c d eq

/-- The loop over the fields. -/
theorem convert_eq (proper : fmt.Proper) (more rest : List UInt8) {fields : List (List UInt8)}
    {out : List UInt8} (some_ : fields ≠ [])
    (digits : ∀ f ∈ fields, ∀ c ∈ f, fmt.IsDigit c ∧ c ≠ fmt.separator)
    (room : out.length + fields.length ≤ fmt.fields) :
    fmt.convert (fmt.marks fields ++ more) (fmt.symbols fields ++ rest) (pad fmt.fields out)
      out.length = some ((fields.mapM fmt.readField).map fun bytes =>
        pad fmt.fields (out ++ bytes)) := by
  induction fields generalizing out with
  | nil => exact absurd rfl some_
  | cons f others ih =>
      have inside : ∀ d ∈ f.map fmt.sym, d ≤ fmt.limit := by
        intro d mem
        obtain ⟨c, there, rfl⟩ := List.mem_map.mp mem
        have known := digits f List.mem_cons_self c there
        exact sym_digit proper known.1 known.2
      have space : out.length < fmt.fields := by
        rw [List.length_cons] at room
        omega
      rw [List.mapM_cons]
      cases others with
      | nil =>
          have marks : fmt.marks [f] ++ more = PUNCT_NUL :: more := rfl
          have symbols : fmt.symbols [f] ++ rest = f.map fmt.sym ++ PUNCT_NUL :: rest := by
            simp [TextFormat.symbols]
          rw [marks, symbols, TextFormat.convert, if_pos (.inr rfl),
            readNumber_eq inside proper.nul, TextFormat.readField]
          cases (f.map fmt.sym).foldlM fmt.step (0, 0) with
          | none => rfl
          | some number =>
              dsimp only [Option.map_some, Option.bind_some]
              cases fmt.byte number with
              | none => rfl
              | some byte =>
                  dsimp only
                  rw [if_neg (not_not.mpr rfl), write_pad space, Option.bind_some, if_pos rfl]
                  rfl
      | cons g others =>
          have marks : fmt.marks (f :: g :: others) ++ more =
              fmt.mark :: (fmt.marks (g :: others) ++ more) := rfl
          have symbols : fmt.symbols (f :: g :: others) ++ rest =
              f.map fmt.sym ++ fmt.mark :: (fmt.symbols (g :: others) ++ rest) := by
            have sym : fmt.sym fmt.separator = fmt.mark := if_pos rfl
            simp [TextFormat.symbols, List.intercalate_cons_cons, sym]
          rw [marks, symbols, TextFormat.convert, if_pos (.inl rfl),
            readNumber_eq inside proper.mark, TextFormat.readField]
          cases (f.map fmt.sym).foldlM fmt.step (0, 0) with
          | none => rfl
          | some number =>
              dsimp only [Option.map_some, Option.bind_some]
              cases fmt.byte number with
              | none => rfl
              | some byte =>
                  dsimp only
                  have space' : (out ++ [byte]).length + (g :: others).length ≤ fmt.fields := by
                    rw [List.length_append, List.length_singleton]
                    rw [List.length_cons] at room
                    omega
                  have later := ih (List.cons_ne_nil g others)
                    (fun h mem => digits h (List.mem_cons_of_mem f mem)) space'
                  rw [List.length_append, List.length_singleton] at later
                  rw [if_neg (not_not.mpr rfl), write_pad space, Option.bind_some,
                    if_neg proper.apart, later]
                  cases (g :: others).mapM fmt.readField with
                  | none => rfl
                  | some bytes => simp

theorem dropWhile_blank (s : List UInt8) : (s ++ [0]).dropWhile isBlank = body s ++ [0] := by
  induction s with
  | nil => rfl
  | cons c rest ih =>
      rw [List.cons_append, body, List.dropWhile_cons, List.dropWhile_cons]
      split
      · exact ih
      · rfl

/-- The parser stops at the first NUL, which is there at the latest behind the text. -/
theorem text_nul (s : List UInt8) : ∃ junk, (s ++ [0]).dropWhile isBlank = text s ++ 0 :: junk := by
  rw [dropWhile_blank]
  have parts := List.takeWhile_append_dropWhile (p := (· ≠ (0 : UInt8))) (l := body s)
  cases rest : (body s).dropWhile (· ≠ 0) with
  | nil =>
      refine ⟨[], ?_⟩
      rw [rest, List.append_nil] at parts
      rw [text, parts]
  | cons c later =>
      have nul : c = 0 := by
        have stops := List.head?_dropWhile_not (p := (· ≠ (0 : UInt8))) (l := body s)
        rw [rest] at stops
        simpa using stops
      refine ⟨later ++ [0], ?_⟩
      rw [rest, nul] at parts
      rw [text, ← List.cons_append, ← List.append_assoc, parts]

theorem nul_notMem_text (s : List UInt8) : 0 ∉ text s := by
  intro mem
  have kept := List.mem_takeWhile_imp mem
  simp at kept

/-- What the parser asks of the fields, apart from their values. -/
def TextFormat.Accepts (fmt : TextFormat) (s : List UInt8) : Prop :=
  (∀ f ∈ fmt.fieldsOf s, ∀ c ∈ f, fmt.IsDigit c ∧ c ≠ fmt.separator) ∧
    (text s).length + 1 < fmt.digitsLength ∧ (fmt.fieldsOf s).length = fmt.fields

instance (s : List UInt8) : Decidable (fmt.Accepts s) := inferInstanceAs (Decidable (_ ∧ _))

theorem scanned_punct (fmt : TextFormat) (s : List UInt8) :
    ∃ more, (fmt.scanned (text s) [] []).punct = fmt.marks (fmt.fieldsOf s) ++ more := by
  have fields : (fmt.fieldsOf s).length = (text s).count fmt.separator + 1 :=
    length_splitOn (text s)
  refine ⟨List.replicate (fmt.punctLength - (fmt.marks (fmt.fieldsOf s)).length) 0, ?_⟩
  rw [TextFormat.marks, fields, Nat.add_sub_cancel]
  rfl

theorem scanned_digits (fmt : TextFormat) (s : List UInt8) :
    ∃ rest, (fmt.scanned (text s) [] []).digits = fmt.symbols (fmt.fieldsOf s) ++ rest := by
  refine ⟨List.replicate (fmt.digitsLength - (fmt.symbols (fmt.fieldsOf s)).length) 0, ?_⟩
  rw [TextFormat.symbols, TextFormat.fieldsOf, List.intercalate_splitOn]
  rfl

/-- The parser never leaves its arrays; it reads the fields of the text one by one. -/
theorem parse_eq (proper : fmt.Proper) (s : List UInt8) :
    fmt.parse s =
      some (if fmt.Accepts s then (fmt.fieldsOf s).mapM fmt.readField else none) := by
  have legal : (∀ f ∈ fmt.fieldsOf s, ∀ c ∈ f, fmt.IsDigit c ∧ c ≠ fmt.separator) ↔
      ∀ c ∈ text s, fmt.Legal c := forall_splitOn fmt.IsDigit (text s)
  have fields : (fmt.fieldsOf s).length = (text s).count fmt.separator + 1 :=
    length_splitOn (text s)
  rw [TextFormat.parse]
  split
  · next empty =>
    subst empty
    rw [if_neg]
    rintro ⟨-, -, count⟩
    have several := proper.several
    rw [← count] at several
    exact absurd several (by simp [TextFormat.fieldsOf, text, body])
  · obtain ⟨junk, eq⟩ := text_nul s
    have start : fmt.filled [] [] =
        ⟨List.replicate fmt.digitsLength 0, List.replicate fmt.punctLength 0, 0, 0⟩ := rfl
    have wide : 0 < fmt.punctLength := by
      have room := proper.room
      omega
    have looped : fmt.scan (text s ++ 0 :: junk) (fmt.filled [] []) =
        some (if fmt.Room (text s) 0 0 then some (fmt.scanned (text s) [] []) else none) :=
      scan_eq junk (nul_notMem_text s) (List.length_nil ▸ proper.start) (List.length_nil ▸ wide)
    rw [eq, ← start, looped]
    have room : fmt.Room (text s) 0 0 ↔ (∀ c ∈ text s, fmt.Legal c) ∧
        (text s).length + 1 < fmt.digitsLength ∧ (fmt.fieldsOf s).length < fmt.punctLength := by
      rw [TextFormat.Room, fields, Nat.zero_add, Nat.zero_add]
    split
    · next other =>
      cases other
    · next refused =>
      rw [if_neg]
      rintro ⟨digits, long, count⟩
      have fit : fmt.Room (text s) 0 0 := room.mpr ⟨legal.mp digits, long, count ▸ proper.room⟩
      rw [if_pos fit] at refused
      cases refused
    · next scan scanned =>
      split at scanned
      · next fit =>
        obtain rfl := Option.some.inj (Option.some.inj scanned)
        have npunct : (fmt.scanned (text s) [] []).npunct = (fmt.fieldsOf s).length := by
          rw [fields]
          simp [TextFormat.scanned, TextFormat.filled]
        rw [npunct]
        by_cases count : (fmt.fieldsOf s).length = fmt.fields
        · have digits := legal.mpr (room.mp fit).1
          obtain ⟨more, punct⟩ := scanned_punct fmt s
          obtain ⟨rest, symbols⟩ := scanned_digits fmt s
          have out : List.replicate fmt.fields (0 : UInt8) = pad fmt.fields [] := rfl
          have fits : ([] : List UInt8).length + (fmt.fieldsOf s).length ≤ fmt.fields := by
            rw [List.length_nil, Nat.zero_add]
            exact Nat.le_of_eq count
          have converted := convert_eq proper more rest
            (List.splitOn_ne_nil fmt.separator (text s)) digits fits
          rw [if_neg (not_not.mpr count), if_pos ⟨digits, (room.mp fit).2.1, count⟩, punct, symbols,
            out]
          refine converted.trans ?_
          cases bytes : (fmt.fieldsOf s).mapM fmt.readField with
          | none => exact congrArg some (congrArg (Option.map _) bytes)
          | some values =>
              have length : values.length = fmt.fields := by
                rw [← count]
                exact (mapM_some_iff.mp bytes).length_eq.symm
              refine (congrArg some (congrArg (Option.map _) bytes)).trans ?_
              simp [pad, length]
        · rw [if_pos count, if_neg fun accepts => count accepts.2.2]
      · cases scanned

end Fields

section Denotation

/-- A text that is some blanks and then the texts of bytes with separators between them. -/
def Denotes (separator : UInt8) (count : ℕ) (Byte : List UInt8 → UInt8 → Prop)
    (s bytes : List UInt8) : Prop :=
  ∃ blanks fields, (∀ c ∈ blanks, isBlank c = true) ∧ s = blanks ++ [separator].intercalate fields ∧
    fields.length = count ∧ List.Forall₂ Byte fields bytes

/-- The parser stays inside its arrays and accepts the texts that denote something, with what they
denote. -/
def Reads (parse : List UInt8 → Checked (List UInt8)) (Denoted : List UInt8 → List UInt8 → Prop)
    (s : List UInt8) : Prop :=
  ∃ result, parse s = some result ∧ ∀ bytes, result = some bytes ↔ Denoted s bytes

variable {fmt : TextFormat} {Byte : List UInt8 → UInt8 → Prop} {s bytes : List UInt8}

/-- No field is empty, and no NUL cuts the text short. -/
def TextFormat.Whole (fmt : TextFormat) (s : List UInt8) : Prop :=
  (∀ f ∈ fmt.fieldsOf s, f ≠ []) ∧ text s = body s

theorem text_of_noNul {chars : List UInt8} (same : body s = chars) (noNul : ∀ c ∈ chars, c ≠ 0) :
    text s = chars := by
  rw [text, same, List.takeWhile_eq_self_iff]
  exact fun c mem => decide_eq_true (noNul c mem)

theorem body_append {blanks chars : List UInt8} (blank : ∀ c ∈ blanks, isBlank c = true)
    (starts : ∀ c, chars.head? = some c → isBlank c = false) : body (blanks ++ chars) = chars := by
  rw [body, List.dropWhile_append_of_pos blank]
  cases chars with
  | nil => rfl
  | cons c rest => exact List.dropWhile_cons_of_neg (by rw [starts c rfl]; exact Bool.false_ne_true)

theorem mem_intercalate {x c : UInt8} {fields : List (List UInt8)}
    (mem : c ∈ [x].intercalate fields) : c = x ∨ ∃ f ∈ fields, c ∈ f := by
  induction fields with
  | nil => simp at mem
  | cons f rest ih =>
      cases rest with
      | nil => exact .inr ⟨f, List.mem_cons_self, by simpa using mem⟩
      | cons g rest =>
          rw [List.intercalate_cons_cons, List.append_assoc, List.mem_append, List.mem_append,
            List.mem_singleton] at mem
          rcases mem with first | rfl | later
          · exact .inr ⟨f, List.mem_cons_self, first⟩
          · exact .inl rfl
          · rcases ih later with same | ⟨h, there, mem⟩
            · exact .inl same
            · exact .inr ⟨h, List.mem_cons_of_mem f there, mem⟩

theorem head_intercalate {x c : UInt8} {f : List UInt8} {rest : List (List UInt8)} (some_ : f ≠ [])
    (first : ([x].intercalate (f :: rest)).head? = some c) : c ∈ f := by
  cases f with
  | nil => exact absurd rfl some_
  | cons d f =>
      cases rest with
      | nil =>
          rw [List.intercalate_singleton, List.head?_cons] at first
          exact Option.some.inj first ▸ List.mem_cons_self
      | cons g rest =>
          rw [List.intercalate_cons_cons, List.cons_append, List.cons_append,
            List.head?_cons] at first
          exact Option.some.inj first ▸ List.mem_cons_self

/-- What a text denotes is what its fields are read as. -/
theorem denotes_iff (proper : fmt.Proper)
    (byte_iff : ∀ f b, Byte f b ↔
      f ≠ [] ∧ (∀ c ∈ f, fmt.IsDigit c) ∧ fmt.readField f = some b) :
    Denotes fmt.separator fmt.fields Byte s bytes ↔
      fmt.Whole s ∧ (∀ f ∈ fmt.fieldsOf s, ∀ c ∈ f, fmt.IsDigit c) ∧
        (fmt.fieldsOf s).length = fmt.fields ∧
        (fmt.fieldsOf s).mapM fmt.readField = some bytes := by
  have plain {c : UInt8} (digit : fmt.IsDigit c) : c ≠ fmt.separator ∧ c ≠ 0 ∧ isBlank c = false :=
    proper.plain c fun none => by
      rw [TextFormat.IsDigit, none] at digit
      cases digit
  constructor
  · rintro ⟨blanks, fields, blank, rfl, count, each⟩
    have known : ∀ f ∈ fields, f ≠ [] ∧ ∀ c ∈ f, fmt.IsDigit c := by
      intro f mem
      obtain ⟨i, bound, rfl⟩ := List.getElem_of_mem mem
      have all := List.forall₂_iff_get.mp each
      have field := (byte_iff _ _).mp (all.2 i bound (all.1 ▸ bound))
      exact ⟨field.1, field.2.1⟩
    have nonempty : fields ≠ [] := by
      rintro rfl
      have several := proper.several
      rw [← count] at several
      exact absurd several (by simp)
    have start : ∀ c, ([fmt.separator].intercalate fields).head? = some c → isBlank c = false := by
      intro c first
      cases fields with
      | nil => exact absurd rfl nonempty
      | cons f rest =>
          have here := known f List.mem_cons_self
          exact (plain (here.2 c (head_intercalate here.1 first))).2.2
    have bodyEq := body_append blank start
    have noNul : ∀ c ∈ [fmt.separator].intercalate fields, c ≠ 0 := by
      intro c mem
      rcases mem_intercalate mem with rfl | ⟨f, there, mem⟩
      · exact proper.separatorNul
      · exact (plain ((known f there).2 c mem)).2.1
    have textEq := text_of_noNul bodyEq noNul
    have fieldsEq : fmt.fieldsOf (blanks ++ [fmt.separator].intercalate fields) = fields := by
      rw [TextFormat.fieldsOf, textEq]
      refine List.splitOn_intercalate _ (fun f mem there => ?_) nonempty
      exact (plain ((known f mem).2 _ there)).1 rfl
    refine ⟨⟨?_, textEq.trans bodyEq.symm⟩, ?_, ?_, ?_⟩
    · rw [fieldsEq]
      exact fun f mem => (known f mem).1
    · rw [fieldsEq]
      exact fun f mem => (known f mem).2
    · rw [fieldsEq]
      exact count
    · rw [fieldsEq, mapM_some_iff]
      exact each.imp fun f b byte => ((byte_iff f b).mp byte).2.2
  · rintro ⟨⟨nonempty, whole⟩, digits, count, read⟩
    refine ⟨s.takeWhile isBlank, fmt.fieldsOf s, fun c mem => List.mem_takeWhile_imp mem, ?_, count,
      ?_⟩
    · rw [TextFormat.fieldsOf, List.intercalate_splitOn, whole]
      exact List.takeWhile_append_dropWhile.symm
    · have each := mapM_some_iff.mp read
      rw [List.forall₂_iff_get] at each ⊢
      refine ⟨each.1, fun i bound bound' => (byte_iff _ _).mpr ?_⟩
      have mem := List.get_mem (fmt.fieldsOf s) ⟨i, bound⟩
      exact ⟨nonempty _ mem, digits _ mem, each.2 i bound bound'⟩

/-- The fields are as many as there should be, and each can be read. -/
def TextFormat.Shaped (fmt : TextFormat) (s : List UInt8) : Prop :=
  (∀ f ∈ fmt.fieldsOf s, ∀ c ∈ f, fmt.IsDigit c) ∧ (fmt.fieldsOf s).length = fmt.fields ∧
    ∀ f ∈ fmt.fieldsOf s, (fmt.readField f).isSome = true

theorem exists_mapM {β γ : Type} {f : β → Option γ} {l : List β}
    (each : ∀ a ∈ l, (f a).isSome = true) : ∃ results, l.mapM f = some results := by
  induction l with
  | nil => exact ⟨[], rfl⟩
  | cons a rest ih =>
      obtain ⟨b, first⟩ := Option.isSome_iff_exists.mp (each a List.mem_cons_self)
      obtain ⟨bs, others⟩ := ih fun c mem => each c (List.mem_cons_of_mem a mem)
      exact ⟨b :: bs, by rw [List.mapM_cons, first, others]; rfl⟩

theorem isSome_of_mapM {β γ : Type} {f : β → Option γ} {l : List β} {results : List γ}
    (read : l.mapM f = some results) : ∀ a ∈ l, (f a).isSome = true := by
  intro a mem
  obtain ⟨i, bound, rfl⟩ := List.getElem_of_mem mem
  have all := List.forall₂_iff_get.mp (mapM_some_iff.mp read)
  exact Option.isSome_iff_exists.mpr ⟨_, all.2 i bound (all.1 ▸ bound)⟩

/-- When a parser reads a text as it should. -/
theorem reads_iff (proper : fmt.Proper)
    (byte_iff : ∀ f b, Byte f b ↔
      f ≠ [] ∧ (∀ c ∈ f, fmt.IsDigit c) ∧ fmt.readField f = some b) :
    Reads fmt.parse (Denotes fmt.separator fmt.fields Byte) s ↔
      (fmt.Shaped s → ((text s).length + 1 < fmt.digitsLength ↔ fmt.Whole s)) := by
  have separators (digits : ∀ f ∈ fmt.fieldsOf s, ∀ c ∈ f, fmt.IsDigit c) :
      ∀ f ∈ fmt.fieldsOf s, ∀ c ∈ f, fmt.IsDigit c ∧ c ≠ fmt.separator := by
    intro f mem c there
    refine ⟨digits f mem c there, (proper.plain c fun none => ?_).1⟩
    have digit := digits f mem c there
    rw [TextFormat.IsDigit, none] at digit
    cases digit
  constructor
  · rintro ⟨result, parsed, meaning⟩ ⟨digits, count, each⟩
    obtain ⟨bytes, read⟩ := exists_mapM each
    have accepted : fmt.Accepts s ↔ (text s).length + 1 < fmt.digitsLength :=
      ⟨fun accepts => accepts.2.1, fun short => ⟨separators digits, short, count⟩⟩
    have denoted : Denotes fmt.separator fmt.fields Byte s bytes ↔ _ := denotes_iff proper byte_iff
    rw [parse_eq proper] at parsed
    obtain rfl := Option.some.inj parsed
    rw [← accepted]
    constructor
    · intro accepts
      exact (denoted.mp ((meaning bytes).mp (by rw [if_pos accepts]; exact read))).1
    · intro whole
      have result := (meaning bytes).mpr (denoted.mpr ⟨whole, digits, count, read⟩)
      by_contra refused
      rw [if_neg refused] at result
      cases result
  · intro agree
    refine ⟨_, parse_eq proper s, fun bytes => ?_⟩
    rw [denotes_iff proper byte_iff]
    constructor
    · intro result
      split at result
      · next accepts =>
        have digits : ∀ f ∈ fmt.fieldsOf s, ∀ c ∈ f, fmt.IsDigit c :=
          fun f mem c there => (accepts.1 f mem c there).1
        have shaped : fmt.Shaped s := ⟨digits, accepts.2.2, isSome_of_mapM result⟩
        exact ⟨(agree shaped).mp accepts.2.1, digits, accepts.2.2, result⟩
      · cases result
    · rintro ⟨whole, digits, count, read⟩
      have shaped : fmt.Shaped s := ⟨digits, count, isSome_of_mapM read⟩
      rw [if_pos ⟨separators digits, (agree shaped).mpr whole, count⟩]
      exact read

end Denotation

section Addresses

/-- The four bytes that are copied to `dwIP`. -/
def string2IP (cstrIP : List UInt8) : Checked (List UInt8) := ipText.parse cstrIP

def string2MAC (cstrMAC : List UInt8) : Checked (List UInt8) := macText.parse (cstrMAC.map toLower)

def chars (s : List Char) : List UInt8 := s.map fun c => c.toUInt8

/-- The texts of `IP2String`, from the bytes of the address. -/
def iP2String (aucAddr : List UInt8) : List UInt8 :=
  [46].intercalate (aucAddr.map fun b => chars (Nat.toDigits 10 b.toNat))

/-- A byte with `setw(2)` and `setfill('0')`. -/
def hexText (b : UInt8) : List UInt8 :=
  if b < 16 then 48 :: chars (Nat.toDigits 16 b.toNat) else chars (Nat.toDigits 16 b.toNat)

def getStringMAC (aucMAC : List UInt8) : List UInt8 := [58].intercalate (aucMAC.map hexText)

def isDecimal (c : UInt8) : Bool := 48 ≤ c && c ≤ 57

def isHex (c : UInt8) : Bool := isDecimal c || (97 ≤ c && c ≤ 102) || (65 ≤ c && c ≤ 70)

def hexDigitValue (c : UInt8) : ℕ :=
  if c ≤ 57 then c.toNat - 48 else if 97 ≤ c then c.toNat - 87 else c.toNat - 55

def decimalValue (f : List UInt8) : ℕ := f.foldl (fun v c => 10 * v + (c.toNat - 48)) 0

def hexValue (f : List UInt8) : ℕ := f.foldl (fun v c => 16 * v + hexDigitValue c) 0

def DecimalByte (f : List UInt8) (b : UInt8) : Prop :=
  f ≠ [] ∧ (∀ c ∈ f, isDecimal c = true) ∧ decimalValue f = b.toNat

/-- One or two hexadecimal digits. -/
def HexByte (f : List UInt8) (b : UInt8) : Prop :=
  f ≠ [] ∧ f.length ≤ 2 ∧ (∀ c ∈ f, isHex c = true) ∧ hexValue f = b.toNat

def DenotesIP : List UInt8 → List UInt8 → Prop := Denotes 46 4 DecimalByte

def DenotesMAC : List UInt8 → List UInt8 → Prop := Denotes 58 6 HexByte

def fieldsIP (s : List UInt8) : List (List UInt8) := (text s).splitOn 46

def fieldsMAC (s : List UInt8) : List (List UInt8) := (text s).splitOn 58

/-- Four numbers at most 255, any of which may be without digits. -/
def ShapedIP (s : List UInt8) : Prop :=
  (fieldsIP s).length = 4 ∧ ∀ f ∈ fieldsIP s, (∀ c ∈ f, isDecimal c = true) ∧ decimalValue f ≤ 255

/-- Six bytes of at most two hexadecimal digits. -/
def ShapedMAC (s : List UInt8) : Prop :=
  (fieldsMAC s).length = 6 ∧ ∀ f ∈ fieldsMAC s, (∀ c ∈ f, isHex c = true) ∧ f.length ≤ 2

theorem isDigit_decimal {c : UInt8} : ipText.IsDigit c ↔ isDecimal c = true := by
  change (decimalDigit c).isSome = true ↔ _
  rw [decimalDigit, isDecimal]
  split
  · next range => simp [range.1, range.2]
  · next range => simpa using range

theorem ipText_proper : ipText.Proper where
  digits := by
    intro c d eq
    change decimalDigit c = some d at eq
    rw [decimalDigit] at eq
    split at eq
    · next range =>
      obtain rfl := Option.some.inj eq
      change c - 48 ≤ 9
      have low := UInt8.le_iff_toNat_le.mp range.1
      have high := UInt8.le_iff_toNat_le.mp range.2
      rw [UInt8.le_iff_toNat_le, UInt8.toNat_sub_of_le c 48 range.1]
      simp only [UInt8.reduceToNat] at low high ⊢
      omega
    · cases eq
  mark := by decide
  nul := by decide
  apart := by decide
  several := by decide
  room := by decide
  start := by decide
  separatorNul := by decide
  plain := by
    intro c digit
    have known : ipText.IsDigit c := Option.isSome_iff_ne_none.mpr digit
    rw [isDigit_decimal, isDecimal, Bool.and_eq_true, decide_eq_true_eq, decide_eq_true_eq] at known
    have low := UInt8.le_iff_toNat_le.mp known.1
    refine ⟨?_, ?_, ?_⟩
    · rintro rfl
      exact absurd known.1 (by decide)
    · rintro rfl
      exact absurd known.1 (by decide)
    · rw [isBlank, Bool.or_eq_false_iff, decide_eq_false_iff_not, decide_eq_false_iff_not]
      constructor
      · rintro rfl
        exact absurd known.1 (by decide)
      · rintro rfl
        exact absurd known.1 (by decide)

/-- The number grows digit by digit, and is refused as soon as it passes 255. -/
theorem ipText_fold (f : List UInt8) (digits : ∀ c ∈ f, isDecimal c = true) (v n : ℕ)
    (small : v ≤ 255) :
    (f.map ipText.sym).foldlM ipText.step (v, n) =
      if f.foldl (fun v c => 10 * v + (c.toNat - 48)) v ≤ 255 then
        some (f.foldl (fun v c => 10 * v + (c.toNat - 48)) v, n + f.length)
      else none := by
  induction f generalizing v n with
  | nil => exact (if_pos small).symm
  | cons c rest ih =>
      have decimal := digits c List.mem_cons_self
      have range : 48 ≤ c ∧ c ≤ 57 := by simpa [isDecimal] using decimal
      have separator : c ≠ ipText.separator := by
        rintro rfl
        exact absurd range.1 (by decide)
      have sym : ipText.sym c = c - 48 := by
        rw [TextFormat.sym, if_neg separator]
        change (decimalDigit c).getD 0 = _
        rw [decimalDigit, if_pos range, Option.getD_some]
      have value : (c - 48).toNat = c.toNat - 48 := UInt8.toNat_sub_of_le c 48 range.1
      have step : ipText.step (v, n) (c - 48) = if v * 10 + (c.toNat - 48) > 255 then none
          else some (v * 10 + (c.toNat - 48), n + 1) := by
        rw [← value]
        rfl
      rw [List.map_cons, List.foldlM_cons, sym, step, List.foldl_cons]
      have grows : v * 10 + (c.toNat - 48) ≤
          rest.foldl (fun v c => 10 * v + (c.toNat - 48)) (10 * v + (c.toNat - 48)) := by
        rw [Nat.mul_comm v 10]
        generalize 10 * v + (c.toNat - 48) = w
        clear ih digits
        induction rest generalizing w with
        | nil => exact Nat.le_refl w
        | cons d rest ih =>
            refine Nat.le_trans ?_ (ih (10 * w + (d.toNat - 48)))
            omega
      split
      · next large =>
        rw [if_neg (by omega)]
        rfl
      · next fits =>
        have next := ih (fun d mem => digits d (List.mem_cons_of_mem c mem))
          (v * 10 + (c.toNat - 48)) (n + 1) (by omega)
        rw [Nat.mul_comm v 10] at next ⊢
        rw [List.length_cons, ← Nat.add_assoc, Nat.add_right_comm n]
        exact next

theorem ipText_readField {f : List UInt8} (digits : ∀ c ∈ f, isDecimal c = true) :
    ipText.readField f =
      if decimalValue f ≤ 255 then some (UInt8.ofNat (decimalValue f)) else none := by
  rw [TextFormat.readField, ipText_fold f digits 0 0 (by omega), decimalValue]
  split <;> rfl

theorem decimalByte_iff (f : List UInt8) (b : UInt8) : DecimalByte f b ↔
    f ≠ [] ∧ (∀ c ∈ f, ipText.IsDigit c) ∧ ipText.readField f = some b := by
  have same : (∀ c ∈ f, ipText.IsDigit c) ↔ ∀ c ∈ f, isDecimal c = true :=
    forall₂_congr fun c _ => isDigit_decimal
  rw [DecimalByte, same]
  refine and_congr_right fun _ => and_congr_right fun digits => ?_
  rw [ipText_readField digits]
  have bound := b.toNat_lt
  constructor
  · intro value
    rw [if_pos (by omega), value, UInt8.ofNat_toNat]
  · intro read
    split at read
    · next fits =>
      rw [← Option.some.inj read, UInt8.toNat_ofNat', Nat.mod_eq_of_lt (by omega)]
    · cases read

theorem shapedIP_iff (s : List UInt8) : ipText.Shaped s ↔ ShapedIP s := by
  have same : ipText.fieldsOf s = fieldsIP s := rfl
  rw [TextFormat.Shaped, ShapedIP, same]
  constructor
  · rintro ⟨digits, count, each⟩
    refine ⟨count, fun f mem => ?_⟩
    have decimal : ∀ c ∈ f, isDecimal c = true := fun c there =>
      isDigit_decimal.mp (digits f mem c there)
    refine ⟨decimal, ?_⟩
    have read := each f mem
    rw [ipText_readField decimal] at read
    by_contra large
    rw [if_neg large] at read
    cases read
  · rintro ⟨count, each⟩
    refine ⟨fun f mem c there => isDigit_decimal.mpr ((each f mem).1 c there), count,
      fun f mem => ?_⟩
    rw [ipText_readField (each f mem).1, if_pos (each f mem).2]
    rfl

theorem string2IP_reads_iff (s : List UInt8) : Reads string2IP DenotesIP s ↔
    (ShapedIP s →
      ((text s).length ≤ 44 ↔ (∀ f ∈ fieldsIP s, f ≠ []) ∧ text s = body s)) := by
  have reads : Reads ipText.parse (Denotes ipText.separator ipText.fields DecimalByte) s ↔ _ :=
    reads_iff ipText_proper decimalByte_iff
  rw [shapedIP_iff] at reads
  have short : (text s).length + 1 < ipText.digitsLength ↔ (text s).length ≤ 44 := by
    change (text s).length + 1 < 46 ↔ _
    omega
  rw [short] at reads
  exact reads

/-- What holds of every byte is checked on the numbers below 256. -/
theorem forall_byte {P : UInt8 → Prop} (each : ∀ n < 256, P (UInt8.ofNat n)) (c : UInt8) : P c := by
  have byte := each c.toNat c.toNat_lt
  rwa [UInt8.ofNat_toNat] at byte

/-- The same format, the characters being lowered as they are read. -/
def lowerText : TextFormat := { macText with digit := fun c => hexDigit (toLower c) }

theorem toLower_nul (c : UInt8) : toLower c = 0 ↔ c = 0 := by
  revert c
  exact forall_byte (by decide)

theorem toLower_separator (c : UInt8) : toLower c = 58 ↔ c = 58 := by
  revert c
  exact forall_byte (by decide)

theorem toLower_blank (c : UInt8) : isBlank (toLower c) = isBlank c := by
  revert c
  exact forall_byte (by decide)

theorem scan_toLower (l : List UInt8) (scan : Scan) :
    macText.scan (l.map toLower) scan = lowerText.scan l scan := by
  induction l generalizing scan with
  | nil => rfl
  | cons c rest ih =>
      rw [List.map_cons, TextFormat.scan, TextFormat.scan]
      by_cases nul : c = 0
      · rw [if_pos nul, if_pos ((toLower_nul c).mpr nul)]
        rfl
      · rw [if_neg nul, if_neg (mt (toLower_nul c).mp nul)]
        by_cases separator : c = 58
        · have lower : toLower c = macText.separator := (toLower_separator c).mpr separator
          rw [if_pos lower, if_pos (show c = lowerText.separator from separator)]
          simp only [ih]
          rfl
        · have lower : toLower c ≠ macText.separator := mt (toLower_separator c).mp separator
          rw [if_neg lower, if_neg (show c ≠ lowerText.separator from separator)]
          have digit : lowerText.digit c = macText.digit (toLower c) := rfl
          rw [digit]
          cases macText.digit (toLower c) with
          | none => rfl
          | some d =>
              simp only [ih]
              rfl

theorem dropWhile_toLower (l : List UInt8) :
    (l.map toLower).dropWhile isBlank = (l.dropWhile isBlank).map toLower := by
  have blank : isBlank ∘ toLower = isBlank := funext toLower_blank
  rw [List.dropWhile_map, blank]

/-- The loop over the fields is the same. -/
theorem convert_lowerText (punct digits out : List UInt8) (ibits : ℕ) :
    macText.convert punct digits out ibits = lowerText.convert punct digits out ibits := by
  have readNumber (digits : List UInt8) (number : ℕ × ℕ) :
      macText.readNumber digits number = lowerText.readNumber digits number := by
    induction digits generalizing number with
    | nil => rfl
    | cons d rest ih =>
        rw [TextFormat.readNumber, TextFormat.readNumber]
        simp only [ih]
        rfl
  induction punct generalizing digits out ibits with
  | nil => rfl
  | cons p punct ih =>
      rw [TextFormat.convert, TextFormat.convert]
      simp only [ih, readNumber]
      rfl

theorem string2MAC_eq (s : List UInt8) : string2MAC s = lowerText.parse s := by
  have ended : s.map toLower ++ [0] = (s ++ [0]).map toLower := by
    rw [List.map_append]
    rfl
  rw [string2MAC, TextFormat.parse, TextFormat.parse]
  by_cases empty : s = []
  · rw [if_pos empty, if_pos (List.map_eq_nil_iff.mpr empty)]
  · rw [if_neg empty, if_neg (mt List.map_eq_nil_iff.mp empty), ended, dropWhile_toLower,
      scan_toLower]
    simp only [convert_lowerText]
    rfl

theorem isDigit_hex (c : UInt8) : lowerText.IsDigit c ↔ isHex c = true := by
  revert c
  exact forall_byte (by decide)

theorem sym_hex (c : UInt8) : isHex c = true → lowerText.sym c = UInt8.ofNat (hexDigitValue c) := by
  revert c
  exact forall_byte (by decide)

theorem hexDigitValue_lt (c : UInt8) : isHex c = true → hexDigitValue c < 16 := by
  revert c
  exact forall_byte (by decide)

theorem lowerText_proper : lowerText.Proper where
  digits c d eq := by
    have each : ∀ c, (lowerText.digit c).all (· ≤ lowerText.limit) = true :=
      forall_byte (by decide)
    have known := each c
    rw [eq] at known
    exact of_decide_eq_true known
  mark := by decide
  nul := by decide
  apart := by decide
  several := by decide
  room := by decide
  start := by decide
  separatorNul := by decide
  plain c := by
    revert c
    exact forall_byte (by decide)

/-- The digits of a field are counted, however many they are. -/
theorem lowerText_fold (l : List UInt8) (v n : ℕ) :
    ∃ w, l.foldlM lowerText.step (v, n) = some (w, n + l.length) := by
  induction l generalizing v n with
  | nil => exact ⟨v, rfl⟩
  | cons d rest ih =>
      obtain ⟨w, next⟩ := ih ((v <<< 4 ||| d.toNat) % 256) (n + 1)
      refine ⟨w, ?_⟩
      rw [List.foldlM_cons, List.length_cons, ← Nat.add_assoc, Nat.add_right_comm]
      exact next

theorem lowerText_readField {f : List UInt8} (digits : ∀ c ∈ f, isHex c = true) :
    lowerText.readField f = if f.length ≤ 2 then some (UInt8.ofNat (hexValue f)) else none := by
  have value {c : UInt8} (hex : isHex c = true) : (lowerText.sym c).toNat = hexDigitValue c := by
    have small := hexDigitValue_lt c hex
    rw [sym_hex c hex, UInt8.toNat_ofNat', Nat.mod_eq_of_lt (by omega)]
  have shifted : ∀ a < 16, ∀ b < 16, ((0 <<< 4 ||| a) % 256) <<< 4 ||| b = 16 * a + b := by
    decide
  match f, digits with
  | [], _ => rfl
  | [c], digits =>
      have hex := digits c List.mem_cons_self
      have small := hexDigitValue_lt c hex
      change some (UInt8.ofNat ((0 <<< 4 ||| (lowerText.sym c).toNat) % 256)) = some (UInt8.ofNat _)
      rw [value hex, hexValue, List.foldl_cons, List.foldl_nil, Nat.zero_shiftLeft, Nat.zero_or,
        Nat.mod_eq_of_lt (by omega), Nat.mul_zero, Nat.zero_add]
  | [c, d], digits =>
      have high := digits c List.mem_cons_self
      have low := digits d (List.mem_cons_of_mem c List.mem_cons_self)
      have highSmall := hexDigitValue_lt c high
      have lowSmall := hexDigitValue_lt d low
      change some (UInt8.ofNat ((((0 <<< 4 ||| (lowerText.sym c).toNat) % 256) <<< 4 |||
        (lowerText.sym d).toNat) % 256)) = some (UInt8.ofNat _)
      rw [value high, value low, shifted _ highSmall _ lowSmall, Nat.mod_eq_of_lt (by omega),
        hexValue, List.foldl_cons, List.foldl_cons, List.foldl_nil, Nat.mul_zero, Nat.zero_add]
  | c :: d :: e :: rest, _ =>
      obtain ⟨w, folded⟩ := lowerText_fold ((c :: d :: e :: rest).map lowerText.sym) 0 0
      have long : ¬(c :: d :: e :: rest).length ≤ 2 := by
        rw [List.length_cons, List.length_cons, List.length_cons]
        omega
      have many : 0 + ((c :: d :: e :: rest).map lowerText.sym).length > 2 := by
        rw [List.length_map, Nat.zero_add]
        exact Nat.lt_of_not_le long
      have refused :
          lowerText.byte (w, 0 + ((c :: d :: e :: rest).map lowerText.sym).length) = none := by
        change (if 0 + ((c :: d :: e :: rest).map lowerText.sym).length > 2 then none
          else some (UInt8.ofNat w)) = none
        rw [if_pos many]
      rw [TextFormat.readField, folded, if_neg long, Option.bind_some, refused]

theorem hexValue_lt {f : List UInt8} (digits : ∀ c ∈ f, isHex c = true) (short : f.length ≤ 2) :
    hexValue f < 256 := by
  match f, digits, short with
  | [], _, _ => decide
  | [c], digits, _ =>
      have small := hexDigitValue_lt c (digits c List.mem_cons_self)
      rw [hexValue, List.foldl_cons, List.foldl_nil]
      omega
  | [c, d], digits, _ =>
      have high := hexDigitValue_lt c (digits c List.mem_cons_self)
      have low := hexDigitValue_lt d (digits d (List.mem_cons_of_mem c List.mem_cons_self))
      rw [hexValue, List.foldl_cons, List.foldl_cons, List.foldl_nil]
      omega
  | c :: d :: e :: rest, _, long =>
      rw [List.length_cons, List.length_cons, List.length_cons] at long
      omega

theorem hexByte_iff (f : List UInt8) (b : UInt8) : HexByte f b ↔
    f ≠ [] ∧ (∀ c ∈ f, lowerText.IsDigit c) ∧ lowerText.readField f = some b := by
  have same : (∀ c ∈ f, lowerText.IsDigit c) ↔ ∀ c ∈ f, isHex c = true :=
    forall₂_congr fun c _ => isDigit_hex c
  rw [HexByte, same]
  refine and_congr_right fun _ => ?_
  constructor
  · rintro ⟨short, digits, value⟩
    refine ⟨digits, ?_⟩
    rw [lowerText_readField digits, if_pos short, value, UInt8.ofNat_toNat]
  · rintro ⟨digits, read⟩
    rw [lowerText_readField digits] at read
    split at read
    · next short =>
      refine ⟨short, digits, ?_⟩
      have small := hexValue_lt digits short
      rw [← Option.some.inj read, UInt8.toNat_ofNat', Nat.mod_eq_of_lt small]
    · cases read

theorem shapedMAC_iff (s : List UInt8) : lowerText.Shaped s ↔ ShapedMAC s := by
  have same : lowerText.fieldsOf s = fieldsMAC s := rfl
  rw [TextFormat.Shaped, ShapedMAC, same]
  constructor
  · rintro ⟨digits, count, each⟩
    refine ⟨count, fun f mem => ?_⟩
    have hex : ∀ c ∈ f, isHex c = true := fun c there => (isDigit_hex c).mp (digits f mem c there)
    refine ⟨hex, ?_⟩
    have read := each f mem
    rw [lowerText_readField hex] at read
    by_contra long
    rw [if_neg long] at read
    cases read
  · rintro ⟨count, each⟩
    refine ⟨fun f mem c there => (isDigit_hex c).mpr ((each f mem).1 c there), count,
      fun f mem => ?_⟩
    rw [lowerText_readField (each f mem).1, if_pos (each f mem).2]
    rfl

/-- Fields of at most `k` characters make a text with at most `k + 1` for each. -/
theorem length_intercalate_le {x : UInt8} {k : ℕ} {fields : List (List UInt8)}
    (short : ∀ f ∈ fields, f.length ≤ k) :
    ([x].intercalate fields).length ≤ (k + 1) * fields.length := by
  induction fields with
  | nil => exact Nat.zero_le _
  | cons f rest ih =>
      have here := short f List.mem_cons_self
      have later := ih fun g mem => short g (List.mem_cons_of_mem f mem)
      cases rest with
      | nil =>
          rw [List.intercalate_singleton, List.length_singleton]
          omega
      | cons g rest =>
          rw [List.intercalate_cons_cons, List.length_append, List.length_append,
            List.length_singleton, List.length_cons, Nat.mul_succ]
          omega

theorem string2MAC_reads_iff (s : List UInt8) : Reads string2MAC DenotesMAC s ↔
    (ShapedMAC s → (∀ f ∈ fieldsMAC s, f ≠ []) ∧ text s = body s) := by
  have reads : Reads lowerText.parse (Denotes lowerText.separator lowerText.fields HexByte) s ↔ _ :=
    reads_iff lowerText_proper hexByte_iff
  rw [shapedMAC_iff] at reads
  have same : Reads string2MAC DenotesMAC s ↔
      Reads lowerText.parse (Denotes lowerText.separator lowerText.fields HexByte) s := by
    rw [Reads, Reads, string2MAC_eq]
    rfl
  rw [same, reads]
  refine forall_congr' fun shaped => ?_
  have short : (text s).length + 1 < lowerText.digitsLength := by
    have bound := length_intercalate_le (x := 58) fun f mem => (shaped.2 f mem).2
    rw [fieldsMAC, List.intercalate_splitOn] at bound
    have count : ((text s).splitOn 58).length = 6 := shaped.1
    rw [count] at bound
    change (text s).length + 1 < 21
    omega
  exact iff_true_left short

/-- A short text of what is denoted is read back. -/
theorem parse_of_denotes {fmt : TextFormat} {Byte : List UInt8 → UInt8 → Prop}
    {s bytes : List UInt8}
    (proper : fmt.Proper)
    (byte_iff : ∀ f b, Byte f b ↔
      f ≠ [] ∧ (∀ c ∈ f, fmt.IsDigit c) ∧ fmt.readField f = some b)
    (short : s.length + 1 < fmt.digitsLength)
    (denotes : Denotes fmt.separator fmt.fields Byte s bytes) :
    fmt.parse s = some (some bytes) := by
  have known := (denotes_iff proper byte_iff).mp denotes
  have accepts : fmt.Accepts s := by
    refine ⟨fun f mem c there => ?_, ?_, known.2.2.1⟩
    · have digit := known.2.1 f mem c there
      refine ⟨digit, (proper.plain c fun none => ?_).1⟩
      rw [TextFormat.IsDigit, none] at digit
      cases digit
    · have less : (text s).length ≤ s.length :=
        Nat.le_trans (List.takeWhile_sublist _).length_le (List.dropWhile_sublist _).length_le
      omega
  rw [parse_eq proper, if_pos accepts]
  exact congrArg some known.2.2.2

/-- The texts of bytes with separators between them denote the bytes. -/
theorem denotes_map {separator : UInt8} {Byte : List UInt8 → UInt8 → Prop}
    {print : UInt8 → List UInt8}
    (printed : ∀ b, Byte (print b) b) (bytes : List UInt8) :
    Denotes separator bytes.length Byte ([separator].intercalate (bytes.map print)) bytes := by
  refine ⟨[], bytes.map print, fun c mem => absurd mem List.not_mem_nil, rfl, List.length_map print,
    ?_⟩
  rw [List.forall₂_map_left_iff, List.forall₂_same]
  exact fun b _ => printed b

instance (f : List UInt8) (b : UInt8) : Decidable (DecimalByte f b) :=
  decidable_of_iff (f ≠ [] ∧ f.all isDecimal = true ∧ decimalValue f = b.toNat) (by
    rw [DecimalByte, List.all_eq_true])

instance (f : List UInt8) (b : UInt8) : Decidable (HexByte f b) :=
  decidable_of_iff (f ≠ [] ∧ f.length ≤ 2 ∧ f.all isHex = true ∧ hexValue f = b.toNat) (by
    rw [HexByte, List.all_eq_true])

theorem decimalByte_print (b : UInt8) :
    DecimalByte (chars (Nat.toDigits 10 b.toNat)) b ∧
      (chars (Nat.toDigits 10 b.toNat)).length ≤ 3 := by
  revert b
  exact forall_byte (by decide)

theorem hexByte_print (b : UInt8) : HexByte (hexText b) b := by
  revert b
  exact forall_byte (by decide)

theorem string2IP_iP2String {bytes : List UInt8} (length : bytes.length = 4) :
    string2IP (iP2String bytes) = some (some bytes) := by
  have denotes : Denotes 46 bytes.length DecimalByte (iP2String bytes) bytes :=
    denotes_map (fun b => (decimalByte_print b).1) bytes
  rw [length] at denotes
  refine parse_of_denotes ipText_proper decimalByte_iff ?_ denotes
  have bound : (iP2String bytes).length ≤ _ := length_intercalate_le (x := 46) (k := 3) (by
    intro f mem
    obtain ⟨b, -, rfl⟩ := List.mem_map.mp mem
    exact (decimalByte_print b).2)
  rw [List.length_map, length] at bound
  change (iP2String bytes).length + 1 < 46
  omega

theorem string2MAC_getStringMAC {bytes : List UInt8} (length : bytes.length = 6) :
    string2MAC (getStringMAC bytes) = some (some bytes) := by
  have denotes : Denotes 58 bytes.length HexByte (getStringMAC bytes) bytes :=
    denotes_map hexByte_print bytes
  rw [length] at denotes
  rw [string2MAC_eq]
  refine parse_of_denotes lowerText_proper hexByte_iff ?_ denotes
  have bound : (getStringMAC bytes).length ≤ _ := length_intercalate_le (x := 58) (k := 2) (by
    intro f mem
    obtain ⟨b, -, rfl⟩ := List.mem_map.mp mem
    exact (hexByte_print b).2.1)
  rw [List.length_map, length] at bound
  change (getStringMAC bytes).length + 1 < 21
  omega

/-- When the texts are read as they should be: no part of a text with enough separators is empty, no
NUL cuts it short, and leading zeros do not make an IP address longer than the array. What is
printed is read back. -/
theorem address_texts_iff (s : List UInt8) :
    (Reads string2IP DenotesIP s ↔
      (ShapedIP s → ((text s).length ≤ 44 ↔ (∀ f ∈ fieldsIP s, f ≠ []) ∧ text s = body s))) ∧
    (Reads string2MAC DenotesMAC s ↔
      (ShapedMAC s → (∀ f ∈ fieldsMAC s, f ≠ []) ∧ text s = body s)) ∧
    (string2IP s ≠ none ∧ string2MAC s ≠ none) ∧
    (∀ a b c d, string2IP (iP2String [a, b, c, d]) = some (some [a, b, c, d])) ∧
    ∀ a b c d e f,
      string2MAC (getStringMAC [a, b, c, d, e, f]) = some (some [a, b, c, d, e, f]) := by
  refine ⟨string2IP_reads_iff s, string2MAC_reads_iff s, ⟨?_, ?_⟩,
    fun a b c d => string2IP_iP2String rfl, fun a b c d e f => string2MAC_getStringMAC rfl⟩
  · rw [string2IP, parse_eq ipText_proper]
    exact Option.some_ne_none _
  · rw [string2MAC_eq, parse_eq lowerText_proper]
    exact Option.some_ne_none _

/-- `1..2.3` and `:::::` are accepted. -/
theorem empty_parts_accepted :
    string2IP (chars ['1', '.', '.', '2', '.', '3']) = some (some [1, 0, 2, 3]) ∧
      ¬Reads string2IP DenotesIP (chars ['1', '.', '.', '2', '.', '3']) ∧
      string2MAC (chars [':', ':', ':', ':', ':']) = some (some [0, 0, 0, 0, 0, 0]) ∧
      ¬Reads string2MAC DenotesMAC (chars [':', ':', ':', ':', ':']) := by
  refine ⟨by decide, fun reads => ?_, by decide, fun reads => ?_⟩
  · have fields : fieldsIP (chars ['1', '.', '.', '2', '.', '3']) = [[49], [], [50], [51]] := by
      decide
    have shaped : ShapedIP (chars ['1', '.', '.', '2', '.', '3']) := by
      rw [ShapedIP, fields]
      simp [isDecimal, decimalValue]
    have agree := (string2IP_reads_iff _).mp reads shaped
    exact absurd agree (by decide)
  · have fields : fieldsMAC (chars [':', ':', ':', ':', ':']) = [[], [], [], [], [], []] := by
      decide
    have shaped : ShapedMAC (chars [':', ':', ':', ':', ':']) := by
      rw [ShapedMAC, fields]
      simp
    have agree := (string2MAC_reads_iff _).mp reads shaped
    exact absurd agree (by decide)

end Addresses

end Tecs.AddrText
