import Tecs.Workflow.Workflow

set_option autoImplicit false

namespace Tecs

open Precedence

/-- What a list of sequences says: one action comes before another. -/
def Precedes (s : List ActionSequence) (prev next : String) : Prop :=
  ⟨prev, next⟩ ∈ s

/-- The map `t` of one pass: for every action on some edge, how many edges enter it. -/
def countPrevs (s : List ActionSequence) : Std.TreeMap String Nat :=
  let nodes : Std.TreeMap String Nat :=
    s.foldl (fun t e => (t.insertIfNew e.actionPrev 0).insertIfNew e.actionNext 0) ∅
  s.foldl (fun t e => t.alter e.actionNext fun count => some (count.getD 0 + 1)) nodes

def touches (id : String) (e : ActionSequence) : Bool :=
  e.actionPrev == id || e.actionNext == id

/-- Delete the edges of one node of the map if it has no predecessor; counts what it erased. -/
def eraseNode (found : List ActionSequence × Nat) (id : String) (count : Nat) :
    List ActionSequence × Nat :=
  if count = 0 then
    let (gone, kept) := found.1.partition (touches id)
    (kept, found.2 + gone.length)
  else found

def erasePass (s : List ActionSequence) : List ActionSequence × Nat :=
  (countPrevs s).foldl eraseNode (s, 0)

/-- The `while (1)` loop: passes until one erases nothing. -/
def peel : Nat → List ActionSequence → Option (List ActionSequence)
  | 0, _ => none
  | fuel + 1, s =>
      let (rest, erased) := erasePass s
      if erased = 0 then some rest else peel fuel rest

def Workflow.validateSequence (w : Workflow) : Bool :=
  match peel (w.sequences.length + 1) w.sequences with
  | some [] => true
  | _ => false

def Workflow.validate (w : Workflow) : Bool :=
  if !isWorkflowId w.workflowId then false
  else if w.category == "" then false
  else if w.name == "" then false
  else if !isValidName w.category then false
  else if !isValidName w.name then false
  else if !w.actions.all Action.validate then false
  else if w.sequences.any fun s => s.actionPrev == s.actionNext then false
  else w.validateSequence

/-! The counts of a pass. -/

private theorem getElem?_nodes (s : List ActionSequence) (t : Std.TreeMap String Nat)
    (id : String) (zero : ∀ n, t[id]? = some n → n = 0) :
    ∀ n, (s.foldl (fun t e => (t.insertIfNew e.actionPrev 0).insertIfNew e.actionNext 0) t)[id]? =
      some n → n = 0 := by
  induction s generalizing t with
  | nil => exact zero
  | cons e s ih =>
      refine ih _ fun n found => ?_
      rw [Std.TreeMap.getElem?_insertIfNew, Std.TreeMap.getElem?_insertIfNew] at found
      split at found
      · exact (Option.some.inj found).symm
      · split at found
        · exact (Option.some.inj found).symm
        · exact zero n found

private theorem mem_nodes (s : List ActionSequence) (t : Std.TreeMap String Nat) (id : String) :
    id ∈ s.foldl (fun t e => (t.insertIfNew e.actionPrev 0).insertIfNew e.actionNext 0) t ↔
      id ∈ t ∨ ∃ e ∈ s, e.actionPrev = id ∨ e.actionNext = id := by
  induction s generalizing t with
  | nil => simp
  | cons e s ih =>
      rw [List.foldl_cons, ih, Std.TreeMap.mem_insertIfNew, Std.TreeMap.mem_insertIfNew]
      simp only [Std.LawfulEqCmp.compare_eq_iff_eq, List.mem_cons, exists_eq_or_imp]
      grind

private theorem getElem?_counted (s : List ActionSequence) (t : Std.TreeMap String Nat)
    (id : String) :
    (s.foldl (fun t e => t.alter e.actionNext fun count => some (count.getD 0 + 1)) t)[id]? =
      if s.any (·.actionNext == id) then
        some (t[id]?.getD 0 + s.countP (·.actionNext == id))
      else t[id]? := by
  induction s generalizing t with
  | nil => simp
  | cons e s ih =>
      rw [List.foldl_cons, ih, Std.TreeMap.getElem?_alter]
      by_cases here : e.actionNext = id
      · subst here
        have none : s.any (·.actionNext == e.actionNext) = false →
            s.countP (·.actionNext == e.actionNext) = 0 := by
          intro absent
          rw [List.countP_eq_zero]
          intro x inside
          simpa using List.any_eq_false.mp absent x inside
        cases rest : s.any (·.actionNext == e.actionNext) with
        | true => simp [rest]; omega
        | false => simp [rest, none rest]
      · have other : (e.actionNext == id) = false := by simpa using here
        have apart : compare e.actionNext id ≠ .eq := by
          simpa [Std.LawfulEqCmp.compare_eq_iff_eq] using here
        simp [other, apart]

/-- The nodes counted 0 are the sources of the edges that are left. -/
theorem countPrevs_eq_zero (s : List ActionSequence) (id : String) :
    (countPrevs s)[id]? = some 0 ↔ (∃ next, Precedes s id next) ∧ ¬ ∃ prev, Precedes s prev id := by
  have counted := getElem?_counted s
    (s.foldl (fun t e => (t.insertIfNew e.actionPrev 0).insertIfNew e.actionNext 0) ∅) id
  have zero := getElem?_nodes s ∅ id (by simp)
  have listed := mem_nodes s ∅ id
  unfold countPrevs
  rw [counted]
  split
  · rename_i entered
    obtain ⟨e, inside, enters⟩ := List.any_eq_true.mp entered
    have positive : 0 < s.countP (·.actionNext == id) := List.countP_pos_iff.mpr ⟨e, inside, enters⟩
    have edge : Precedes s e.actionPrev id := by
      rw [← eq_of_beq enters]
      exact inside
    constructor
    · intro equal
      have := Option.some.inj equal
      omega
    · exact fun source => absurd ⟨_, edge⟩ source.2
  · rename_i unentered
    have noPrev : ¬ ∃ prev, Precedes s prev id := by
      rintro ⟨prev, edge⟩
      exact unentered (List.any_eq_true.mpr ⟨_, edge, beq_self_eq_true id⟩)
    rw [Std.TreeMap.mem_iff_isSome_getElem?] at listed
    constructor
    · intro found
      rw [found] at listed
      rcases listed.mp rfl with empty | ⟨e, inside, leaves | enters⟩
      · simp at empty
      · exact ⟨⟨e.actionNext, by rw [← leaves]; exact inside⟩, noPrev⟩
      · exact absurd ⟨e.actionPrev, by rw [← enters]; exact inside⟩ noPrev
    · rintro ⟨⟨next, edge⟩, -⟩
      have present := listed.mpr (.inr ⟨_, edge, .inl rfl⟩)
      obtain ⟨n, found⟩ := Option.isSome_iff_exists.mp present
      rw [found, zero n found]

/-! One pass peels the sequence relation. -/

private theorem foldl_eraseNode (nodes : List (String × Nat)) (found : List ActionSequence × Nat) :
    let done := nodes.foldl (fun found node => eraseNode found node.1 node.2) found
    (∀ e, e ∈ done.1 ↔ e ∈ found.1 ∧ ∀ node ∈ nodes, node.2 = 0 → touches node.1 e = false) ∧
      done.1.length + done.2 = found.1.length + found.2 ∧ done.1.Sublist found.1 := by
  induction nodes generalizing found with
  | nil => simp
  | cons node nodes ih =>
      obtain ⟨members, sizes, sublist⟩ := ih (eraseNode found node.1 node.2)
      simp only [List.foldl_cons]
      by_cases source : node.2 = 0
      · have kept : eraseNode found node.1 node.2 =
            (found.1.filter (!touches node.1 ·),
              found.2 + (found.1.filter (touches node.1)).length) := by
          simp [eraseNode, source, Function.comp_def]
        have split := List.length_eq_length_filter_add (l := found.1) (touches node.1)
        rw [kept] at members sizes sublist ⊢
        refine ⟨fun e => ?_, ?_, sublist.trans List.filter_sublist⟩
        · rw [members, List.mem_filter]
          simp [source]
          tauto
        · simp only at sizes
          omega
      · have same : eraseNode found node.1 node.2 = found := if_neg source
        rw [same] at members sizes sublist ⊢
        refine ⟨fun e => ?_, sizes, sublist⟩
        rw [members]
        simp [source]

theorem mem_erasePass (s : List ActionSequence) (e : ActionSequence) :
    e ∈ (erasePass s).1 ↔ e ∈ s ∧ ∃ prev, Precedes s prev e.actionPrev := by
  have members := (foldl_eraseNode (countPrevs s).toList (s, 0)).1 e
  unfold erasePass
  rw [Std.TreeMap.foldl_eq_foldl_toList, members]
  refine and_congr_right fun inside => ?_
  constructor
  · intro kept
    by_contra source
    have counted := (countPrevs_eq_zero s e.actionPrev).mpr ⟨⟨e.actionNext, inside⟩, source⟩
    have touched := kept (e.actionPrev, 0) (Std.TreeMap.mem_toList_iff_getElem?_eq_some.mpr counted)
        rfl
    simp [touches] at touched
  · rintro ⟨prev, entered⟩ ⟨id, count⟩ listed zero
    obtain rfl : count = 0 := zero
    have source := (countPrevs_eq_zero s id).mp
        (Std.TreeMap.mem_toList_iff_getElem?_eq_some.mp listed)
    rw [touches, Bool.or_eq_false_iff, beq_eq_false_iff_ne, beq_eq_false_iff_ne]
    constructor
    · rintro rfl
      exact source.2 ⟨prev, entered⟩
    · rintro rfl
      exact source.2 ⟨e.actionPrev, inside⟩

theorem precedes_erasePass (s : List ActionSequence) :
    Precedes (erasePass s).1 = Peeled (Precedes s) := by
  funext prev next
  exact propext (mem_erasePass s ⟨prev, next⟩)

theorem length_erasePass (s : List ActionSequence) :
    (erasePass s).1.length + (erasePass s).2 = s.length := by
  have sizes := (foldl_eraseNode (countPrevs s).toList (s, 0)).2.1
  unfold erasePass
  rw [Std.TreeMap.foldl_eq_foldl_toList]
  simpa using sizes

theorem erasePass_eq_self {s : List ActionSequence} (none : (erasePass s).2 = 0) :
    (erasePass s).1 = s := by
  have sublist := (foldl_eraseNode (countPrevs s).toList (s, 0)).2.2
  have sizes := length_erasePass s
  rw [none] at sizes
  unfold erasePass at sizes ⊢
  rw [Std.TreeMap.foldl_eq_foldl_toList] at sizes ⊢
  exact sublist.eq_of_length (by simpa using sizes)

/-! The loop. -/

/-- The loop ends within one pass more than there are edges; what it leaves has a
cycle exactly when the edges it started from have one, or is empty. -/
theorem peel_spec (fuel : Nat) : ∀ s : List ActionSequence, s.length < fuel →
    ∃ rest, peel fuel s = some rest ∧ (rest = [] ↔ Acyclic (Precedes s)) := by
  induction fuel with
  | zero => exact fun s none => absurd none (Nat.not_lt_zero _)
  | succ fuel ih =>
      intro s enough
      unfold peel
      by_cases done : (erasePass s).2 = 0
      · have same := erasePass_eq_self done
        refine ⟨s, by simp [done, same], ?_⟩
        constructor
        · rintro rfl a cycle
          rcases Relation.TransGen.tail'_iff.mp cycle with ⟨b, -, edge⟩
          exact absurd edge List.not_mem_nil
        · intro acyclic
          have kept : ∀ a b, Precedes s a b → Peeled (Precedes s) a b := by
            intro a b edge
            rwa [← precedes_erasePass, same]
          have finite : {a | ∃ b, Precedes s a b}.Finite := by
            refine ((List.finite_toSet s).image ActionSequence.actionPrev).subset ?_
            rintro a ⟨b, edge⟩
            exact ⟨_, edge, rfl⟩
          refine List.eq_nil_iff_forall_not_mem.mpr fun e inside => ?_
          exact acyclic.empty_of_peeled finite kept e.actionPrev e.actionNext inside
      · have sizes := length_erasePass s
        obtain ⟨rest, ended, empty⟩ := ih (erasePass s).1 (by omega)
        refine ⟨rest, by simpa [done] using ended, ?_⟩
        rw [empty, precedes_erasePass, acyclic_peeled]

theorem Workflow.validateSequence_eq_true (w : Workflow) :
    w.validateSequence = true ↔ Acyclic (Precedes w.sequences) := by
  obtain ⟨rest, ended, empty⟩ := peel_spec (w.sequences.length + 1) w.sequences (Nat.lt_succ_self _)
  rw [← empty]
  unfold validateSequence
  rw [ended]
  cases rest with
  | nil => simp
  | cons => simp

theorem Workflow.validateSequence_of_validate {w : Workflow} (valid : w.validate = true) :
    w.validateSequence = true := by
  unfold validate at valid
  grind

/-- `ValidateSequence` terminates (every number of passes beyond the number of edges ends
the loop, with the same verdict), it accepts exactly the acyclic workflows, and what
`Validate` accepts can be put in topological order. -/
theorem validateSequence_acyclic (w : Workflow) :
    (∀ fuel, w.sequences.length < fuel → ∃ rest, peel fuel w.sequences = some rest ∧
      (rest = [] ↔ w.validateSequence = true)) ∧
    (w.validateSequence = true ↔ Acyclic (Precedes w.sequences)) ∧
    (w.validate = true → ∃ order,
      Topological (Precedes w.sequences) (w.actions.map Action.actionId) order) := by
  refine ⟨fun fuel enough => ?_, w.validateSequence_eq_true, fun valid => ?_⟩
  · rw [w.validateSequence_eq_true]
    exact peel_spec fuel w.sequences enough
  · have acyclic := w.validateSequence_eq_true.mp (Workflow.validateSequence_of_validate valid)
    exact acyclic.exists_topological _

/-- Two actions, one after the other. -/
def chain : Workflow :=
  let step (name id : String) : Action :=
    { (Action.init "vm" name 1001 "sender" "agent" id).setMessageReq ⟨"", false⟩ with
      workflowId := "w-chain" }
  (Workflow.init "vm" "deploy" "w-chain").addSequence (step "create" "a-create")
    (step "start" "a-start")

theorem chain_topological :
    ∃ order, Topological (Precedes chain.sequences) (chain.actions.map Action.actionId) order :=
  (validateSequence_acyclic chain).2.2 (by decide)

example : peel 4 [⟨"a", "b"⟩, ⟨"b", "c"⟩, ⟨"c", "b"⟩] = some [⟨"b", "c"⟩, ⟨"c", "b"⟩] := by
  decide

end Tecs
