import Tecs.Evb.CdcpLists

set_option autoImplicit false

/-! The request of a station's channels, where an allocation can fail. -/

namespace Tecs.Cdcp.Requests

section Walk

variable {α σ : Type} (keep : α → Bool) (free : α → σ → σ)

/-- A walk over a list that starts again at the head after each element that it takes out. -/
def walk : List α → List α → σ → List α × σ
  | passed, [], s => (passed, s)
  | passed, elm :: rest, s =>
      if keep elm then walk (passed ++ [elm]) rest s else walk [] (passed ++ rest) (free elm s)
termination_by passed rest => (passed.length + rest.length, rest.length)
decreasing_by
  · rw [List.length_append, List.length_singleton, List.length_cons]
    rw [show passed.length + 1 + rest.length = passed.length + (rest.length + 1) by omega]
    exact Prod.Lex.right _ (Nat.lt_succ_self _)
  · apply Prod.Lex.left
    rw [List.length_nil, List.length_append, List.length_cons]
    omega

variable {keep free}

/-- What it takes out is freed in order, as one walk would do. -/
theorem walk_eq {passed : List α} (kept : ∀ elm ∈ passed, keep elm = true) (rest : List α) (s : σ) :
    walk keep free passed rest s =
      (passed ++ rest.filter keep,
        (rest.filter fun elm => !keep elm).foldl (fun s elm => free elm s) s) := by
  fun_induction walk keep free passed rest s with
  | case1 passed s => simp
  | case2 passed elm rest s keeps ih =>
      have kept' : ∀ other ∈ passed ++ [elm], keep other = true := by
        intro other mem
        rcases List.mem_append.mp mem with old | here
        · exact kept other old
        · exact List.mem_singleton.mp here ▸ keeps
      have goes : ¬(!keep elm) = true := by rw [keeps]; decide
      rw [ih kept', List.filter_cons_of_pos keeps,
        List.filter_cons_of_neg (p := fun elm => !keep elm) goes, List.append_assoc,
        List.singleton_append]
  | case3 passed elm rest s goes ih =>
      have gone : (!keep elm) = true := by simpa using goes
      have none : passed.filter (fun other => !keep other) = [] := by
        rw [List.filter_eq_nil_iff]
        intro other mem
        rw [kept other mem]
        decide
      rw [ih (fun other mem => absurd mem List.not_mem_nil), List.filter_cons_of_neg goes,
        List.filter_cons_of_pos (p := fun elm => !keep elm) gone, List.filter_append,
        List.filter_append, none, List.filter_eq_self.mpr kept]
      rfl

end Walk

section Definitions

/-- Allocation `i` of a call gets memory if `alloc i`. -/
def copyScidSvidList (alloc : ℕ → Bool) (i : ℕ) :
    List TagCdcpScidSvidPair → List TagCdcpScidSvidPair → ℤ × List TagCdcpScidSvidPair
  | [], dest => (0, dest)
  | elm :: rest, dest =>
      if alloc i then copyScidSvidList alloc (i + 1) rest (dest ++ [⟨elm.wScid, elm.wSvid⟩])
      else (-1, [])

/-- The loop over the channels that are wanted. -/
def requestChannels (alloc : ℕ → Bool) (i : ℕ) :
    List TagCdcpScidSvidPair → List TagCdcpScidSvidPair → ℤ × List TagCdcpScidSvidPair
  | [], list => (0, list)
  | elm :: rest, list =>
      if !isInScidSvidList elm list then
        if alloc i then
          requestChannels alloc (i + 1) rest (insertElmByScidAscendingOrder ⟨elm.wScid, 0⟩ list)
        else (-1, list)
      else requestChannels alloc i rest list

/-- What the copy returns is not looked at. -/
def setSVIDRequest (alloc : ℕ → Bool) (ucOperRole : EMCdcpRole)
    (lstAdminSVIDWants lstOperSVIDList : List TagCdcpScidSvidPair) :
    ℤ × List TagCdcpScidSvidPair :=
  match ucOperRole with
  | .b => (0, lstOperSVIDList)
  | .s =>
      if lstOperSVIDList.isEmpty then (0, (copyScidSvidList alloc 0 lstAdminSVIDWants []).2)
      else
        requestChannels alloc 0 lstAdminSVIDWants
          (walk (isInScidSvidList · lstAdminSVIDWants) (fun _ s => s) [] lstOperSVIDList ()).1

end Definitions

section Success

variable {alloc : ℕ → Bool} {wants oper : List TagCdcpScidSvidPair}

theorem copy_success {i : ℕ} {src dest : List TagCdcpScidSvidPair}
    (success : (copyScidSvidList alloc i src dest).1 = 0) :
    (copyScidSvidList alloc i src dest).2 = dest ++ src := by
  induction src generalizing i dest with
  | nil => exact (List.append_nil dest).symm
  | cons elm rest ih =>
      rw [copyScidSvidList] at success ⊢
      cases memory : alloc i
      · rw [memory, if_neg Bool.false_ne_true] at success
        exact absurd success (by decide)
      · rw [memory, if_pos rfl] at success
        rw [if_pos rfl, ih success, List.append_assoc, List.singleton_append]

theorem requestChannels_success {i : ℕ} {list : List TagCdcpScidSvidPair}
    (success : (requestChannels alloc i wants list).1 = 0) :
    (requestChannels alloc i wants list).2 =
      wants.foldl (fun list elm =>
        if !isInScidSvidList elm list then insertElmByScidAscendingOrder ⟨elm.wScid, 0⟩ list
        else list) list := by
  induction wants generalizing i list with
  | nil => rfl
  | cons elm rest ih =>
      rw [requestChannels] at success ⊢
      rw [List.foldl_cons]
      cases known : isInScidSvidList elm list
      · rw [known, Bool.not_false, if_pos rfl] at success
        rw [Bool.not_false, if_pos rfl, if_pos rfl]
        cases memory : alloc i
        · rw [memory, if_neg Bool.false_ne_true] at success
          exact absurd success (show (-1 : ℤ) ≠ 0 by decide)
        · rw [memory, if_pos rfl] at success
          rw [if_pos rfl]
          exact ih success
      · rw [known, Bool.not_true, if_neg Bool.false_ne_true] at success
        rw [Bool.not_true, if_neg Bool.false_ne_true, if_neg Bool.false_ne_true]
        exact ih success

/-- With memory the function does what it does where no allocation fails. -/
theorem setSVIDRequest_success
    (memory : oper = [] → (copyScidSvidList alloc 0 wants []).1 = 0)
    (success : (setSVIDRequest alloc .s wants oper).1 = 0) :
    (setSVIDRequest alloc .s wants oper).2 = Cdcp.setSVIDRequest .s wants oper := by
  rw [setSVIDRequest] at success ⊢
  rw [Cdcp.setSVIDRequest]
  by_cases empty : oper.isEmpty = true
  · rw [if_pos empty, if_pos empty]
    exact copy_success (memory (List.isEmpty_iff.mp empty))
  · rw [if_neg empty] at success
    rw [if_neg empty, if_neg empty, requestChannels_success success,
      walk_eq fun elm mem => absurd mem List.not_mem_nil, List.nil_append]

/-- The channels of a list, in ascending order. -/
abbrev Ascending (list : List TagCdcpScidSvidPair) : Prop := (scids list).Pairwise (· < ·)

theorem Ascending.nodup {list : List TagCdcpScidSvidPair} (ascending : Ascending list) :
    (scids list).Nodup :=
  ascending.imp fun less => UInt16.ne_of_lt less

theorem Ascending.insert {elm : TagCdcpScidSvidPair} {list : List TagCdcpScidSvidPair}
    (ascending : Ascending list) (absent : elm.wScid ∉ scids list) :
    Ascending (insertElmByScidAscendingOrder elm list) := by
  induction list with
  | nil => exact List.pairwise_singleton _ _
  | cons lstElm rest ih =>
      have ⟨above, ascending'⟩ := List.pairwise_cons.mp ascending
      rw [mem_scids_cons, not_or] at absent
      rw [insertElmByScidAscendingOrder]
      split
      · next less =>
        refine List.pairwise_cons.mpr ⟨fun scid mem => ?_, ascending⟩
        rcases List.mem_cons.mp mem with rfl | later
        · exact less
        · exact UInt16.lt_trans less (above scid later)
      · next notLess =>
        refine List.pairwise_cons.mpr ⟨fun scid mem => ?_, ih ascending' absent.2⟩
        have perm := (insert_perm elm rest).map TagCdcpScidSvidPair.wScid
        rcases mem_scids_cons.mp (perm.mem_iff.mp mem) with rfl | later
        · exact UInt16.lt_of_le_of_ne (UInt16.not_lt.mp notLess) (Ne.symm absent.1)
        · exact above scid later

theorem Ascending.request {list : List TagCdcpScidSvidPair} (ascending : Ascending list) :
    Ascending (wants.foldl (fun list elm =>
      if !isInScidSvidList elm list then insertElmByScidAscendingOrder ⟨elm.wScid, 0⟩ list
      else list) list) := by
  induction wants generalizing list with
  | nil => exact ascending
  | cons elm rest ih =>
      rw [List.foldl_cons]
      apply ih
      split
      · next new =>
        apply ascending.insert
        intro known
        have there : isInScidSvidList elm list = true := isIn_iff.mpr known
        rw [there] at new
        exact absurd new (by decide)
      · exact ascending

/-- Ascending lists of the same channels name them in the same order. -/
theorem Ascending.scids_eq {list other : List TagCdcpScidSvidPair} (first : Ascending list)
    (second : Ascending other) (same : ∀ scid, scid ∈ scids list ↔ scid ∈ scids other) :
    scids list = scids other := by
  have perm : (scids list).Perm (scids other) :=
    (List.perm_ext_iff_of_nodup first.nodup second.nodup).mpr same
  exact perm.eq_of_pairwise
    (fun a b _ _ less more => absurd (UInt16.lt_trans less more) (UInt16.lt_irrefl a)) first second

theorem setSVIDRequest_ascending (ascendingWants : Ascending wants) (ascending : Ascending oper) :
    Ascending (Cdcp.setSVIDRequest .s wants oper) := by
  rw [Cdcp.setSVIDRequest]
  split
  · exact ascendingWants
  · apply Ascending.request
    exact ascending.sublist (List.filter_sublist.map _)

/-- A list that names what is wanted stays as it is. -/
theorem setSVIDRequest_same (alloc : ℕ → Bool) (same : scids oper = scids wants) :
    setSVIDRequest alloc .s wants oper = (0, oper) := by
  rw [setSVIDRequest]
  by_cases empty : oper.isEmpty = true
  · have noWants : wants = [] := by
      rw [List.isEmpty_iff.mp empty] at same
      exact List.map_eq_nil_iff.mp same.symm
    rw [if_pos empty, noWants, List.isEmpty_iff.mp empty]
    rfl
  · have all : oper.filter (isInScidSvidList · wants) = oper := by
      rw [List.filter_eq_self]
      intro pair mem
      have named : pair.wScid ∈ scids wants := same ▸ List.mem_map_of_mem mem
      exact isIn_iff.mpr named
    have quiet (rest : List TagCdcpScidSvidPair) (known : ∀ elm ∈ rest, elm.wScid ∈ scids oper) :
        requestChannels alloc 0 rest oper = (0, oper) := by
      induction rest with
      | nil => rfl
      | cons elm rest ih =>
          have here := isIn_iff.mpr (known elm List.mem_cons_self)
          rw [requestChannels, here, Bool.not_true, if_neg Bool.false_ne_true]
          exact ih fun other mem => known other (List.mem_cons_of_mem elm mem)
    rw [if_neg empty, walk_eq fun elm mem => absurd mem List.not_mem_nil, List.nil_append, all]
    exact quiet wants fun elm mem => same ▸ List.mem_map_of_mem mem

/-- After a request the list names what is wanted, in its order. What was there stays; what is new
has no S-VID yet, but in a list that was empty it has the one that the wants give it. -/
theorem setSVIDRequest_wanted (alloc : ℕ → Bool) {wants oper : List TagCdcpScidSvidPair}
    (ascendingWants : Ascending wants) (ascending : Ascending oper)
    (memory : oper = [] → (copyScidSvidList alloc 0 wants []).1 = 0)
    (success : (setSVIDRequest alloc .s wants oper).1 = 0) :
    scids (setSVIDRequest alloc .s wants oper).2 = scids wants ∧
      (∀ pair ∈ oper, pair.wScid ∈ scids wants → pair ∈ (setSVIDRequest alloc .s wants oper).2) ∧
      (oper ≠ [] → ∀ pair ∈ (setSVIDRequest alloc .s wants oper).2,
        pair.wScid ∉ scids oper → pair.wSvid = 0) ∧
      (oper = [] → (setSVIDRequest alloc .s wants oper).2 = wants) ∧
      ∀ alloc', setSVIDRequest alloc' .s wants (setSVIDRequest alloc .s wants oper).2 =
        (0, (setSVIDRequest alloc .s wants oper).2) := by
  have spec := setSVIDRequest_spec ascendingWants.nodup ascending.nodup
  have same : scids (Cdcp.setSVIDRequest .s wants oper) = scids wants :=
    (setSVIDRequest_ascending ascendingWants ascending).scids_eq ascendingWants spec.channels
  rw [setSVIDRequest_success memory success]
  refine ⟨same, fun pair mem wanted => ?_, fun some pair mem new => ?_, fun none => ?_,
    fun alloc' => setSVIDRequest_same alloc' same⟩
  · have named := (spec.channels pair.wScid).mpr wanted
    obtain ⟨other, there, eq⟩ := List.mem_map.mp named
    have old : pair.wScid ∈ scids oper := List.mem_map_of_mem mem
    rcases spec.origin other there with memOther | ⟨-, new, -⟩ | ⟨none, -⟩
    · have equal : other = pair := List.inj_on_of_nodup_map ascending.nodup memOther mem eq
      exact equal ▸ there
    · exact absurd (eq ▸ old) new
    · exact absurd mem (none ▸ List.not_mem_nil)
  · rcases spec.origin pair mem with old | ⟨-, -, zero⟩ | ⟨none, -⟩
    · exact absurd (List.mem_map_of_mem old) new
    · exact zero
    · exact absurd none some
  · rw [Cdcp.setSVIDRequest, if_pos (List.isEmpty_iff.mpr none)]

theorem setSVIDRequest_wanted_three :
    scids (setSVIDRequest (fun _ => true) .s [⟨1, 1⟩, ⟨2, 0⟩, ⟨4, 0⟩] [⟨1, 1⟩, ⟨3, 7⟩, ⟨4, 9⟩]).2 =
      [1, 2, 4] := by
  have result : setSVIDRequest (fun _ => true) .s [⟨1, 1⟩, ⟨2, 0⟩, ⟨4, 0⟩]
      [⟨1, 1⟩, ⟨3, 7⟩, ⟨4, 9⟩] = (0, [⟨1, 1⟩, ⟨2, 0⟩, ⟨4, 9⟩]) := by
    rw [setSVIDRequest, walk_eq fun elm mem => absurd mem List.not_mem_nil]
    decide
  exact (setSVIDRequest_wanted (fun _ => true) (by decide) (by decide)
    (fun none => absurd none (by decide)) (congrArg Prod.fst result)).1

/-- The default channel is new in an empty list, and it has an S-VID there. -/
theorem default_channel_copied :
    Ascending [(⟨1, 1⟩ : TagCdcpScidSvidPair)] ∧
      setSVIDRequest (fun _ => true) .s [⟨1, 1⟩] [] = (0, [⟨1, 1⟩]) ∧
      ¬ ∀ pair ∈ (setSVIDRequest (fun _ => true) .s [⟨1, 1⟩] []).2,
        pair.wScid ∉ scids [] → pair.wSvid = 0 := by
  have result : setSVIDRequest (fun _ => true) .s [⟨1, 1⟩] [] = (0, [⟨1, 1⟩]) := rfl
  refine ⟨by decide, result, fun zero => ?_⟩
  rw [result] at zero
  exact absurd (zero ⟨1, 1⟩ List.mem_cons_self List.not_mem_nil) (by decide)

end Success

end Tecs.Cdcp.Requests
