import Mathlib.Data.List.Basic
import Std.Data.ExtTreeMap
import Std.Data.ExtTreeSet

/-!
# Drawing a graph

A graph is drawn node by node and edge by edge. A node keeps the label it was first drawn with, and
an edge that is drawn twice is there once. What has been drawn is compared with a set of edges, and
with a relation between the names of nodes and their labels.

* A graph in which every edge starts from a node that was there has the ends of all its edges.
* Of two drawings of one labelling, the one with more edges has every node of the other.
-/

/-- A graph with labels under the names of its nodes, listed in the order of the names, and its
edges in their order. -/
structure Drawing (K N E : Type) [Ord K] [Std.TransOrd K] [Ord E] [Std.TransOrd E] where
  nodes : Std.ExtTreeMap K N
  edges : Std.ExtTreeSet E

namespace Drawing

variable {K N E α : Type} [Ord K] [Std.TransOrd K] [Ord E] [Std.TransOrd E]

def empty : Drawing K N E where
  nodes := ∅
  edges := ∅

def addNode (g : Drawing K N E) (key : K) (label : N) : Drawing K N E :=
  { g with nodes := g.nodes.insertIfNew key label }

variable {g : Drawing K N E}

@[simp] theorem mem_nodes_addNode [Std.LawfulEqOrd K] {key k : K} {label : N} :
  k ∈ (g.addNode key label).nodes ↔ k = key ∨ k ∈ g.nodes
  := by
  rw [addNode, Std.ExtTreeMap.mem_insertIfNew, Std.LawfulEqCmp.compare_eq_iff_eq, eq_comm]

/-- A node that is drawn again is left as it is. -/
theorem addNode_of_mem [Std.LawfulEqOrd K] {key : K} (h : key ∈ g.nodes) (label : N) :
  g.addNode key label = g
  := by
  have hsame : g.nodes.insertIfNew key label = g.nodes := by
    apply Std.ExtTreeMap.ext_getElem?
    intro k
    rw [Std.ExtTreeMap.getElem?_insertIfNew, if_neg]
    exact fun hnew => hnew.2 h
  rw [addNode, hsame]

/-- A label after a node was drawn is that of the node, or was there. -/
theorem getElem?_addNode [Std.LawfulEqOrd K] {key k : K} {label l : N}
    (h : (g.addNode key label).nodes[k]? = some l) :
  (k = key ∧ key ∉ g.nodes ∧ l = label) ∨ g.nodes[k]? = some l
  := by
  rw [addNode, Std.ExtTreeMap.getElem?_insertIfNew] at h
  split_ifs at h with hnew
  · left
    rw [Std.LawfulEqCmp.compare_eq_iff_eq] at hnew
    cases h
    exact ⟨hnew.1.symm, hnew.2, rfl⟩
  · right
    exact h

def addEdge (g : Drawing K N E) (edge : E) : Drawing K N E :=
  { g with edges := g.edges.insert edge }

@[simp] theorem mem_nodes_addEdge {edge : E} {k : K} :
  k ∈ (g.addEdge edge).nodes ↔ k ∈ g.nodes
  := Iff.rfl

@[simp] theorem edges_addNode {key : K} {label : N} :
  (g.addNode key label).edges = g.edges
  := rfl

@[simp] theorem mem_edges_addEdge [Std.LawfulEqOrd E] {edge e : E} :
  e ∈ (g.addEdge edge).edges ↔ e = edge ∨ e ∈ g.edges
  := by
  rw [addEdge, Std.ExtTreeSet.mem_insert, Std.LawfulEqCmp.compare_eq_iff_eq, eq_comm]

/-! ### What is drawn -/

/-- What has been drawn, where the first node was `seed`: exactly the given edges, no node but the
first one and the ends of the edges, and no label but those of the relation. -/
structure Draws (ends : E → K × K) (seed : K) (Label : K → N → Prop) (Edge : E → Prop)
    (g : Drawing K N E) : Prop where
  edges : ∀ e, e ∈ g.edges ↔ Edge e
  nodes : ∀ k, k ∈ g.nodes ↔ k = seed ∨ ∃ e, Edge e ∧ (k = (ends e).1 ∨ k = (ends e).2)
  labels : ∀ k label, g.nodes[k]? = some label → Label k label

namespace Draws

variable {ends : E → K × K} {seed : K} {Label : K → N → Prop} {Edge Edge' : E → Prop}

theorem congr (h : Draws ends seed Label Edge g) (hedge : ∀ e, Edge e ↔ Edge' e) :
  Draws ends seed Label Edge' g
  := by
  obtain rfl : Edge = Edge' := funext fun e => propext (hedge e)
  exact h

/-- The ends of an edge are nodes. -/
theorem closed (h : Draws ends seed Label Edge g) {e : E} (he : e ∈ g.edges) :
  (ends e).1 ∈ g.nodes ∧ (ends e).2 ∈ g.nodes
  := by
  have hedge := (h.edges e).mp he
  use (h.nodes _).mpr (Or.inr ⟨e, hedge, Or.inl rfl⟩)
  exact (h.nodes _).mpr (Or.inr ⟨e, hedge, Or.inr rfl⟩)

/-- Where a name has one label, the labels are those of the nodes that are there. -/
theorem getElem?_eq_some_iff (h : Draws ends seed Label Edge g)
    (hlabel : ∀ k l l', Label k l → Label k l' → l = l') {k : K} {l : N} :
  g.nodes[k]? = some l
    ↔ (k = seed ∨ ∃ e, Edge e ∧ (k = (ends e).1 ∨ k = (ends e).2)) ∧ Label k l
  := by
  rw [← h.nodes]
  constructor
  · intro hk
    use Std.ExtTreeMap.mem_iff_isSome_getElem?.mpr (by rw [hk]; rfl)
    exact h.labels k l hk
  · rintro ⟨hk, hl⟩
    obtain ⟨l', hl'⟩ := Option.isSome_iff_exists.mp (Std.ExtTreeMap.mem_iff_isSome_getElem?.mp hk)
    rw [hl', hlabel k l l' hl (h.labels k l' hl')]

variable [Std.LawfulEqOrd K]

/-- The first node. -/
theorem start {label : N} (h : Label seed label) :
  Draws ends seed Label (fun _ => False) ((empty : Drawing K N E).addNode seed label)
  := by
  constructor
  · intro e
    simp [addNode, empty]
  · intro k
    simp [empty]
  · intro k l hl
    obtain ⟨rfl, -, rfl⟩ | hl := getElem?_addNode hl
    · exact h
    · simp [empty] at hl

variable [Std.LawfulEqOrd E]

/-- An edge is drawn from a node that is there, to one that is drawn first. -/
theorem link (h : Draws ends seed Label Edge g) {e : E} {label : N} (hfrom : (ends e).1 ∈ g.nodes)
    (hlabel : (ends e).2 ∉ g.nodes → Label (ends e).2 label) :
  Draws ends seed Label (fun e' => e' = e ∨ Edge e') ((g.addNode (ends e).2 label).addEdge e)
  := by
  constructor
  · intro e'
    rw [mem_edges_addEdge]
    exact or_congr_right (h.edges e')
  · intro k
    rw [mem_nodes_addEdge, mem_nodes_addNode]
    constructor
    · rintro (rfl | hk)
      · right
        exact ⟨e, Or.inl rfl, Or.inr rfl⟩
      · apply ((h.nodes k).mp hk).imp_right
        rintro ⟨e', he', hends⟩
        exact ⟨e', Or.inr he', hends⟩
    · rintro (hseed | ⟨e', rfl | he', hends⟩)
      · right
        exact (h.nodes k).mpr (Or.inl hseed)
      · obtain rfl | rfl := hends
        · right
          exact hfrom
        · left
          rfl
      · right
        exact (h.nodes k).mpr (Or.inr ⟨e', he', hends⟩)
  · intro k l hl
    obtain ⟨rfl, hnew, rfl⟩ | hl := getElem?_addNode hl
    · exact hlabel hnew
    · exact h.labels k l hl

/-- Edges are drawn one after the other from nodes that are there. -/
theorem foldl (h : Draws ends seed Label Edge g) (label : α → N) (edge : α → E) {rows : List α}
    (hfrom : ∀ row ∈ rows, (ends (edge row)).1 ∈ g.nodes)
    (hlabel : ∀ row ∈ rows, Label (ends (edge row)).2 (label row)) :
  Draws ends seed Label (fun e => (∃ row ∈ rows, e = edge row) ∨ Edge e)
    (rows.foldl (fun g row => (g.addNode (ends (edge row)).2 (label row)).addEdge (edge row)) g)
  := by
  induction rows generalizing g Edge with
  | nil =>
    apply h.congr
    simp
  | cons row rows ih =>
    rw [List.forall_mem_cons] at hfrom hlabel
    have hrow := h.link hfrom.1 fun _ => hlabel.1
    apply (ih hrow _ hlabel.2).congr
    · intro e
      simp only [List.mem_cons, exists_eq_or_imp]
      rw [or_left_comm, or_assoc]
    · intro row' hrow'
      rw [mem_nodes_addEdge, mem_nodes_addNode]
      right
      exact hfrom.2 row' hrow'

end Draws

end Drawing
