import Tecs.Library.Precedence

set_option autoImplicit false

/-! Directed graphs that grow by one node or one edge at a time. -/

namespace NodeGraph

open Precedence Relation

variable {α κ : Type*} [DecidableEq κ]

structure Graph (α κ : Type*) where
  nodes : List α
  edges : List (κ × κ)
deriving Repr, DecidableEq

def Graph.empty : Graph α κ := ⟨[], []⟩

/-- A node, unless there is one with its key. -/
def Graph.addNode (key : α → κ) (g : Graph α κ) (a : α) : Graph α κ :=
  if key a ∈ g.nodes.map key then g else { g with nodes := g.nodes ++ [a] }

/-- An edge with its two nodes, unless the opposite edge is there. -/
def Graph.addEdge (key : α → κ) (g : Graph α κ) (prev next : α) : Graph α κ :=
  match g.edges.find? fun e => e = (key prev, key next) ∨ e = (key next, key prev) with
  | some e =>
      if e = (key prev, key next) then (g.addNode key prev).addNode key next else g
  | none =>
      (Graph.addNode key { g with edges := g.edges ++ [(key prev, key next)] } prev).addNode key
        next

inductive Call (α : Type*)
  | node (a : α)
  | edge (prev next : α)
deriving Repr, DecidableEq

def Call.nodes : Call α → List α
  | .node a => [a]
  | .edge prev next => [prev, next]

def Call.edges (key : α → κ) : Call α → List (κ × κ)
  | .node _ => []
  | .edge prev next => [(key prev, key next)]

theorem Call.forall_nodes_edge {P : α → Prop} {prev next : α} (first : P prev) (second : P next) :
    ∀ a ∈ (Call.edge prev next).nodes, P a := by
  intro a mem
  rcases List.mem_pair.mp mem with rfl | rfl
  · exact first
  · exact second

def Graph.call (key : α → κ) (g : Graph α κ) : Call α → Graph α κ
  | .node a => g.addNode key a
  | .edge prev next => g.addEdge key prev next

def build (key : α → κ) (calls : List (Call α)) : Graph α κ :=
  calls.foldl (Graph.call key) .empty

def Graph.Precedes (g : Graph α κ) (prev next : κ) : Prop := (prev, next) ∈ g.edges

section Nodes

variable {key : α → κ} {g : Graph α κ} {a b : α}

@[simp] theorem edges_addNode : (g.addNode key a).edges = g.edges := by
  rw [Graph.addNode]
  split <;> rfl

theorem nodup_addNode (nodup : (g.nodes.map key).Nodup) :
    ((g.addNode key a).nodes.map key).Nodup := by
  rw [Graph.addNode]
  split
  · exact nodup
  · next fresh =>
    rw [List.map_append, List.nodup_append]
    refine ⟨nodup, List.nodup_singleton _, ?_⟩
    rintro k mem other last rfl
    obtain rfl := List.mem_singleton.mp last
    exact fresh mem

/-- Where equal keys mean equal nodes, the node is there afterwards. -/
theorem mem_addNode (same : ∀ b ∈ g.nodes, key b = key a → b = a) :
    b ∈ (g.addNode key a).nodes ↔ b ∈ g.nodes ∨ b = a := by
  rw [Graph.addNode]
  split
  · next there =>
    obtain ⟨c, mem, eq⟩ := List.mem_map.mp there
    obtain rfl := same c mem eq
    constructor
    · exact .inl
    · rintro (old | rfl)
      · exact old
      · exact mem
  · simp

end Nodes

section Build

variable {key : α → κ} {rank : κ → ℕ} {g : Graph α κ} {calls : List (Call α)}

/-- Equal keys mean equal nodes, and every edge goes up. -/
structure Ordered (key : α → κ) (rank : κ → ℕ) (calls : List (Call α)) : Prop where
  same : ∀ call ∈ calls, ∀ a ∈ call.nodes, ∀ call' ∈ calls, ∀ b ∈ call'.nodes,
    key a = key b → a = b
  up : ∀ call ∈ calls, ∀ e ∈ call.edges key, rank e.1 < rank e.2

/-- A graph that was built by calls of an ordered list. -/
structure Built (key : α → κ) (calls : List (Call α)) (g : Graph α κ) : Prop where
  nodup : (g.nodes.map key).Nodup
  nodes : ∀ a, a ∈ g.nodes ↔ ∃ call ∈ calls, a ∈ call.nodes
  edges : ∀ e, e ∈ g.edges ↔ ∃ call ∈ calls, e ∈ call.edges key

omit [DecidableEq κ] in
theorem built_nodes {call : Call α} (ordered : Ordered key rank (calls ++ [call]))
    (built : Built key calls g) (edges : List (κ × κ)) {a : α} (mem : a ∈ call.nodes) :
    ∀ b ∈ (⟨g.nodes, edges⟩ : Graph α κ).nodes, key b = key a → b = a := by
  intro b there eq
  obtain ⟨call', memCall, memB⟩ := (built.nodes b).mp there
  exact ordered.same call' (List.mem_append_left _ memCall) b memB call (by simp) a mem eq

theorem Built.addNode {a : α} (ordered : Ordered key rank (calls ++ [.node a]))
    (built : Built key calls g) : Built key (calls ++ [.node a]) (g.addNode key a) := by
  have same := built_nodes ordered built g.edges
      (show a ∈ Call.nodes (.node a) by simp [Call.nodes])
  refine ⟨nodup_addNode built.nodup, fun b => ?_, fun e => ?_⟩
  · rw [mem_addNode same, built.nodes]
    simp [Call.nodes, or_and_right, exists_or]
  · rw [edges_addNode, built.edges]
    simp [Call.edges, or_and_right, exists_or]

/-- Going up, no edge meets its opposite. -/
theorem addEdge_fresh {prev next : α} (ordered : Ordered key rank (calls ++ [.edge prev next]))
    (built : Built key calls g) :
    ∃ edges, g.addEdge key prev next =
        (Graph.addNode key ⟨g.nodes, edges⟩ prev).addNode key next ∧
      ∀ e, e ∈ edges ↔ e ∈ g.edges ∨ e = (key prev, key next) := by
  have up : rank (key prev) < rank (key next) :=
    ordered.up (.edge prev next) (by simp) (key prev, key next) (by simp [Call.edges])
  rw [Graph.addEdge]
  split
  · next e found =>
    have mem := List.mem_of_find?_eq_some found
    have either := List.find?_some found
    simp only [decide_eq_true_eq] at either
    rcases either with rfl | rfl
    · refine ⟨g.edges, by rw [if_pos rfl], fun other => ?_⟩
      constructor
      · exact .inl
      · rintro (old | rfl)
        · exact old
        · exact mem
    · obtain ⟨call, memCall, memE⟩ := (built.edges _).mp mem
      have down := ordered.up call (List.mem_append_left _ memCall) _ memE
      exact absurd up (Nat.lt_asymm down)
  · exact ⟨g.edges ++ [(key prev, key next)], rfl, fun e => by simp⟩

theorem Built.addEdge {prev next : α} (ordered : Ordered key rank (calls ++ [.edge prev next]))
    (built : Built key calls g) :
    Built key (calls ++ [.edge prev next]) (g.addEdge key prev next) := by
  obtain ⟨edges, eq, mem⟩ := addEdge_fresh ordered built
  have samePrev := built_nodes ordered built edges
    (show prev ∈ Call.nodes (.edge prev next) by simp [Call.nodes])
  have memPrev (b : α) := mem_addNode (b := b) samePrev
  have sameNext : ∀ b ∈ (Graph.addNode key ⟨g.nodes, edges⟩ prev).nodes,
      key b = key next → b = next := by
    intro b there same
    rcases (memPrev b).mp there with old | rfl
    · exact built_nodes ordered built edges (by simp [Call.nodes]) b old same
    · exact ordered.same (.edge b next) (by simp) b (by simp [Call.nodes]) (.edge b next) (by simp)
        next (by simp [Call.nodes]) same
  rw [eq]
  refine ⟨nodup_addNode (nodup_addNode built.nodup), fun b => ?_, fun e => ?_⟩
  · rw [mem_addNode sameNext, memPrev, built.nodes]
    simp [Call.nodes, or_and_right, exists_or, or_assoc]
  · rw [edges_addNode, edges_addNode, mem, built.edges]
    simp [Call.edges, or_and_right, exists_or]

theorem build_built (ordered : Ordered key rank calls) : Built key calls (build key calls) := by
  induction calls using List.reverseRecOn with
  | nil => exact ⟨List.nodup_nil, by simp [build, Graph.empty], by simp [build, Graph.empty]⟩
  | append_singleton calls call ih =>
      have before : Ordered key rank calls :=
        ⟨fun call mem a memA call' mem' => ordered.same call (List.mem_append_left _ mem) a memA
          call' (List.mem_append_left _ mem'),
          fun call mem => ordered.up call (List.mem_append_left _ mem)⟩
      rw [build, List.foldl_append]
      change Built key (calls ++ [call]) (Graph.call key (build key calls) call)
      cases call with
      | node a => exact (ih before).addNode ordered
      | edge prev next => exact (ih before).addEdge ordered

end Build

section Order

variable {κ : Type*} {precedes : κ → κ → Prop} {rank : κ → ℕ}

theorem acyclic_of_rank (up : ∀ a b, precedes a b → rank a < rank b) : Acyclic precedes := by
  have path {a b : κ} (trans : TransGen precedes a b) : rank a < rank b := by
    induction trans with
    | single edge => exact up _ _ edge
    | tail _ edge ih => exact Nat.lt_trans ih (up _ _ edge)
  exact fun a cycle => Nat.lt_irrefl _ (path cycle)

/-- A transitive relation that holds along the edges holds along the paths. -/
theorem path_of_edges {before : κ → κ → Prop} (edges : ∀ a b, precedes a b → before a b)
    (trans : ∀ a b c, before a b → before b c → before a c) {a b : κ}
    (path : TransGen precedes a b) : before a b := by
  induction path with
  | single edge => exact edges _ _ edge
  | tail _ edge ih => exact trans _ _ _ ih (edges _ _ edge)

end Order

end NodeGraph
