/-
This file is the invariant of a worklist search over a graph given by a list of successors of
each node.

A search holds a queue of nodes to expand and a list of visited nodes. `Frontier` is what
holds between two expansions and `Expanding` what holds while the successors of one node are
gone through; when the queue is empty, the visited nodes are those that the start leads to.
`unvisited` counts the nodes still to be found, so that a bound on the number of expansions
can be checked.
-/

import Mathlib.Logic.Relation

namespace ChimpChaos.Library

open Relation

variable {Node : Type} (successors : Node → List Node)

/-- One node leads to another along the successors. -/
def Leads : Node → Node → Prop := ReflTransGen fun node next => next ∈ successors node

/-- Between two expansions: the start is visited, the queue holds visited nodes, the start leads
to all visited nodes, and a visited node that is not queued has all its successors visited. -/
structure Frontier (start : Node) (queue visited : List Node) : Prop where
  begun : start ∈ visited
  queued : ∀ node ∈ queue, node ∈ visited
  sound : ∀ node ∈ visited, Leads successors start node
  settled : ∀ node ∈ visited, node ∈ queue ∨ ∀ next ∈ successors node, next ∈ visited

/-- While a node is expanded: all but some of its successors are visited. -/
structure Expanding (start node : Node) (left queue visited : List Node) : Prop where
  begun : start ∈ visited
  queued : ∀ node ∈ queue, node ∈ visited
  sound : ∀ node ∈ visited, Leads successors start node
  expanded : node ∈ visited
  successor : ∀ next ∈ left, next ∈ successors node
  settled : ∀ other ∈ visited, other ∈ queue ∨
    ∀ next ∈ successors other, next ∈ visited ∨ (other = node ∧ next ∈ left)

section Invariant

variable {successors} {start node next : Node} {left queue visited : List Node}

theorem Frontier.first (node : Node) : Frontier successors node [node] [node] where
  begun := List.mem_singleton_self node
  queued := fun _ member => member
  sound := fun other member => by
    rw [List.mem_singleton.mp member]
    exact .refl
  settled := fun _ member => Or.inl member

/-- Take a node from the queue. -/
theorem Frontier.pop (frontier : Frontier successors start (node :: queue) visited) :
    Expanding successors start node (successors node) queue visited where
  begun := frontier.begun
  queued := fun other member => frontier.queued other (List.mem_cons_of_mem _ member)
  sound := frontier.sound
  expanded := frontier.queued node List.mem_cons_self
  successor := fun _ member => member
  settled := fun other member => by
    rcases frontier.settled other member with queued | closed
    · rcases List.mem_cons.mp queued with rfl | queued
      · exact Or.inr fun next isNext => Or.inr ⟨rfl, isNext⟩
      · exact Or.inl queued
    · exact Or.inr fun next isNext => Or.inl (closed next isNext)

/-- Pass over a successor that has been visited. -/
theorem Expanding.skip (expanding : Expanding successors start node (next :: left) queue visited)
    (seen : next ∈ visited) : Expanding successors start node left queue visited where
  begun := expanding.begun
  queued := expanding.queued
  sound := expanding.sound
  expanded := expanding.expanded
  successor := fun other member => expanding.successor other (List.mem_cons_of_mem _ member)
  settled := fun other member => (expanding.settled other member).imp_right
    fun closed after isNext => by
      rcases closed after isNext with visited | ⟨same, member⟩
      · exact Or.inl visited
      · rcases List.mem_cons.mp member with rfl | member
        · exact Or.inl seen
        · exact Or.inr ⟨same, member⟩

/-- Visit and queue a successor. -/
theorem Expanding.push (expanding : Expanding successors start node (next :: left) queue visited) :
    Expanding successors start node left (queue ++ [next]) (visited ++ [next]) where
  begun := List.mem_append_left _ expanding.begun
  queued := fun other member => by
    rw [List.mem_append] at member ⊢
    exact member.imp_left (expanding.queued other)
  sound := fun other member => by
    rcases List.mem_append.mp member with member | same
    · exact expanding.sound other member
    · rw [List.mem_singleton.mp same]
      exact (expanding.sound node expanding.expanded).tail
        (expanding.successor next List.mem_cons_self)
  expanded := List.mem_append_left _ expanding.expanded
  successor := fun other member => expanding.successor other (List.mem_cons_of_mem _ member)
  settled := fun other member => by
    rcases List.mem_append.mp member with member | same
    · rcases expanding.settled other member with queued | closed
      · exact Or.inl (List.mem_append_left _ queued)
      · refine Or.inr fun after isNext => ?_
        rcases closed after isNext with visited | ⟨same, member⟩
        · exact Or.inl (List.mem_append_left _ visited)
        · rcases List.mem_cons.mp member with rfl | member
          · exact Or.inl (List.mem_append_right _ (List.mem_singleton_self after))
          · exact Or.inr ⟨same, member⟩
    · exact Or.inl (List.mem_append_right _ same)

/-- All successors have been gone through. -/
theorem Expanding.finish (expanding : Expanding successors start node [] queue visited) :
    Frontier successors start queue visited where
  begun := expanding.begun
  queued := expanding.queued
  sound := expanding.sound
  settled := fun other member => (expanding.settled other member).imp_right
    fun closed next isNext => by
      rcases closed next isNext with visited | ⟨-, none⟩
      · exact visited
      · cases none

/-- With an empty queue the visited nodes are those that the start leads to. -/
theorem Frontier.mem_iff (frontier : Frontier successors start [] visited) :
    node ∈ visited ↔ Leads successors start node := by
  refine ⟨frontier.sound node, fun leads => ?_⟩
  induction leads with
  | refl => exact frontier.begun
  | tail _ isNext inductionHypothesis =>
    rcases frontier.settled _ inductionHypothesis with queued | closed
    · cases queued
    · exact closed _ isNext

end Invariant

/-! ### The nodes still to be found -/

section Unvisited

variable [DecidableEq Node]

/-- How many of the given nodes have not been visited. -/
def unvisited (nodes visited : List Node) : Nat :=
  (nodes.filter fun node => decide (node ∉ visited)).length

theorem unvisited_le (nodes visited : List Node) : unvisited nodes visited ≤ nodes.length :=
  List.length_filter_le _ _

/-- Visiting a new node leaves fewer to be found. -/
theorem unvisited_push {nodes visited : List Node} {next : Node} (known : next ∈ nodes)
    (new : next ∉ visited) : unvisited nodes (visited ++ [next]) < unvisited nodes visited := by
  unfold unvisited
  rw [← List.countP_eq_length_filter, ← List.countP_eq_length_filter]
  induction nodes with
  | nil => cases known
  | cons node rest inductionHypothesis =>
    have fewer : rest.countP (fun node => decide (node ∉ visited ++ [next])) ≤
        rest.countP fun node => decide (node ∉ visited) := by
      refine List.countP_mono_left fun node _ unseen => ?_
      simp only [List.mem_append, not_or, decide_eq_true_eq] at unseen ⊢
      exact unseen.1
    rw [List.countP_cons, List.countP_cons]
    by_cases same : node = next
    · subst same
      have found : decide (node ∉ visited ++ [node]) = false := by simp
      have sought : decide (node ∉ visited) = true := by simpa using new
      rw [found, sought, if_neg Bool.false_ne_true, if_pos rfl]
      omega
    · have later := inductionHypothesis ((List.mem_cons.mp known).resolve_left (Ne.symm same))
      have alike : decide (node ∉ visited ++ [next]) = decide (node ∉ visited) := by
        simp [same]
      rw [alike]
      omega

end Unvisited

end ChimpChaos.Library
