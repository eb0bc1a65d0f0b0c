import Mathlib.Data.List.Basic
import Outline.SyntaxTree.Declarations

set_option autoImplicit false

/-!
# Places in a syntax tree

A place says, step by step, which child to take. The places of a tree are the nodes of it told
apart, also where two nodes look alike. In the order of the numbers in them, a node comes before all
that is below it and a child before the children behind it, and this is the order in which the nodes
are visited.
-/
namespace Outline

namespace Node

/-- Induction over the children of a node. -/
@[induction_eliminator]
theorem induction {motive : Node → Prop}
    (step : ∀ n : Node, (∀ c ∈ n.children, motive c) → motive n) (n : Node) : motive n :=
  @Node.rec motive (fun children => ∀ c ∈ children, motive c)
    (fun kind role start stop flawed children => step (.mk kind role start stop flawed children))
    (fun _ h => absurd h List.not_mem_nil)
    (fun _ _ first rest => List.forall_mem_cons.2 ⟨first, rest⟩) n

mutual

/-- A node and all nodes below it, each before its children and these one after the other. -/
def preorder (before : List Node) : Node → List Placed
  | mk kind role start stop flawed children =>
    ⟨mk kind role start stop flawed children, before⟩ :: preorderAll [] children

def preorderAll (before : List Node) : List Node → List Placed
  | [] => []
  | n :: rest => preorder before n ++ preorderAll (n :: before) rest

end

mutual

/-- The places in a tree, that of its root first. -/
def places : Node → List (List ℕ)
  | mk _ _ _ _ _ children => [] :: placesFrom 0 children

/-- The places in trees that are children in a row, the first of them having the given number. -/
def placesFrom (number : ℕ) : List Node → List (List ℕ)
  | [] => []
  | n :: rest => (places n).map (number :: ·) ++ placesFrom (number + 1) rest

end

theorem places_eq (n : Node) : n.places = [] :: placesFrom 0 n.children := by
  cases n
  rfl

theorem mem_placesFrom_iff {number : ℕ} {nodes : List Node} {place : List ℕ} :
    place ∈ placesFrom number nodes ↔
      ∃ i n, nodes[i]? = some n ∧ ∃ rest ∈ n.places, place = (number + i) :: rest := by
  induction nodes generalizing number with
  | nil => simp [placesFrom]
  | cons n nodes ih =>
    rw [placesFrom, List.mem_append, ih, List.mem_map]
    constructor
    · rintro (⟨rest, hrest, rfl⟩ | ⟨i, m, hm, rest, hrest, rfl⟩)
      · exact ⟨0, n, rfl, rest, hrest, rfl⟩
      · exact ⟨i + 1, m, hm, rest, hrest, by congr 1; omega⟩
    · rintro ⟨_ | i, m, hm, rest, hrest, rfl⟩
      · obtain rfl : n = m := by simpa using hm
        exact .inl ⟨rest, hrest, rfl⟩
      · exact .inr ⟨i, m, hm, rest, hrest, by congr 1; omega⟩

theorem pairwise_places (n : Node) : n.places.Pairwise (· < ·) := by
  induction n with
  | step n ih =>
    have hall : ∀ (nodes : List Node) (number : ℕ), (∀ c ∈ nodes, c ∈ n.children) →
        (placesFrom number nodes).Pairwise (· < ·) := by
      intro nodes
      induction nodes with
      | nil => exact fun _ _ => List.Pairwise.nil
      | cons c nodes ihnodes =>
        intro number hnodes
        rw [List.forall_mem_cons] at hnodes
        rw [placesFrom, List.pairwise_append]
        refine ⟨?_, ihnodes _ hnodes.2, ?_⟩
        · exact List.pairwise_map.2 ((ih c hnodes.1).imp fun h => List.cons_lt_cons_self.2 h)
        · intro place hplace place' hplace'
          obtain ⟨rest, -, rfl⟩ := List.mem_map.1 hplace
          obtain ⟨i, m, -, rest', -, rfl⟩ := mem_placesFrom_iff.1 hplace'
          exact List.Lex.rel (by omega)
    rw [places_eq, List.pairwise_cons]
    refine ⟨fun place hplace => ?_, hall n.children 0 fun _ hc => hc⟩
    obtain ⟨i, m, -, rest, -, rfl⟩ := mem_placesFrom_iff.1 hplace
    exact List.Lex.nil

end Node

namespace Placed

theorem getElem?_row (before nodes : List Node) (i : ℕ) :
    (row before nodes)[i]? =
      nodes[i]?.map fun n => ⟨n, (nodes.take i).reverse ++ before⟩ := by
  induction nodes generalizing before i with
  | nil => simp [row]
  | cons n nodes ih =>
    cases i with
    | zero => simp [row]
    | succ i => simp [row, ih]

theorem getElem?_children (p : Placed) (i : ℕ) :
    p.children[i]? =
      p.node.children[i]?.map fun n => ⟨n, (p.node.children.take i).reverse⟩ := by
  simp [children, getElem?_row]

theorem length_children (p : Placed) : p.children.length = p.node.children.length := by
  rw [← congrArg List.length (map_node_row [] p.node.children), List.length_map]
  rfl

theorem map_range_children (p : Placed) :
    (List.range p.node.children.length).map (p.children[·]?) = p.children.map some := by
  refine List.ext_getElem (by simp [length_children]) fun i hi _ => ?_
  rw [List.length_map, List.length_range, ← length_children] at hi
  simp [hi]

/-- A node and all nodes below it, in the order of their places. -/
def preorder (p : Placed) : List Placed := p.node.preorder p.before

theorem preorderAll_eq (before nodes : List Node) :
    Node.preorderAll before nodes = (row before nodes).flatMap preorder := by
  induction nodes generalizing before with
  | nil => rfl
  | cons n nodes ih => simp [Node.preorderAll, row, ih, preorder]

theorem preorder_eq (p : Placed) : p.preorder = p :: p.children.flatMap preorder := by
  obtain ⟨⟨kind, role, start, stop, flawed, children⟩, before⟩ := p
  rw [preorder, Node.preorder, preorderAll_eq]
  rfl

theorem mem_preorder_iff {p q : Placed} :
    q ∈ p.preorder ↔ q = p ∨ ∃ c ∈ p.children, q ∈ c.preorder := by
  rw [preorder_eq, List.mem_cons, List.mem_flatMap]

theorem node_mem_of_mem_children {p c : Placed} (h : c ∈ p.children) :
    c.node ∈ p.node.children := by
  rw [← map_node_row [] p.node.children]
  exact List.mem_map_of_mem h

theorem visit_eq (stack : List Placed) : visit stack = stack.flatMap preorder := by
  induction stack using visit.induct with
  | case1 => rw [visit]; rfl
  | case2 p rest ih => rw [visit, ih, List.flatMap_append, List.flatMap_cons, preorder_eq p]; rfl

/-- The node at a place below a node. -/
def at? (p : Placed) : List ℕ → Option Placed
  | [] => some p
  | i :: rest => p.children[i]?.bind (at? · rest)

theorem at?_append (p : Placed) (place rest : List ℕ) :
    p.at? (place ++ rest) = (p.at? place).bind (at? · rest) := by
  induction place generalizing p with
  | nil => rfl
  | cons i place ih =>
    rw [List.cons_append, at?, at?]
    cases p.children[i]? with
    | none => rfl
    | some c => exact ih c

theorem at?_singleton (p : Placed) (i : ℕ) : p.at? [i] = p.children[i]? := by
  rw [at?]
  cases p.children[i]? <;> rfl

/-- The places of a tree lead to its nodes in the order of the walk. -/
theorem map_at?_places (p : Placed) : p.node.places.map p.at? = p.preorder.map some := by
  obtain ⟨n, before⟩ := p
  induction n generalizing before with
  | step n ih =>
    have hall : ∀ (nodes done : List Node), n.children = done ++ nodes →
        (Node.placesFrom done.length nodes).map (at? ⟨n, before⟩) =
          ((row done.reverse nodes).flatMap preorder).map some := by
      intro nodes
      induction nodes with
      | nil => exact fun _ _ => rfl
      | cons c nodes ihnodes =>
        intro done hdone
        have hchild : (⟨n, before⟩ : Placed).children[done.length]? = some ⟨c, done.reverse⟩ := by
          simp [getElem?_children, hdone]
        have hfirst : ((c.places).map (done.length :: ·)).map (at? ⟨n, before⟩) =
            (preorder ⟨c, done.reverse⟩).map some := by
          rw [← ih c (by simp [hdone]), List.map_map]
          refine List.map_congr_left fun place _ => ?_
          rw [Function.comp_apply, at?, hchild]
          rfl
        have hrest := ihnodes (done ++ [c]) (by simp [hdone])
        rw [List.length_append, List.length_singleton, List.reverse_concat] at hrest
        rw [Node.placesFrom, List.map_append, hfirst, hrest, row, List.flatMap_cons,
          List.map_append]
    have hchildren := hall n.children [] rfl
    rw [Node.places_eq, List.map_cons, preorder_eq, List.map_cons]
    exact congrArg _ hchildren

theorem mem_places_iff {p : Placed} {place : List ℕ} :
    place ∈ p.node.places ↔ ∃ q, p.at? place = some q := by
  constructor
  · intro h
    have hmem : p.at? place ∈ p.preorder.map some := map_at?_places p ▸ List.mem_map_of_mem h
    obtain ⟨q, -, hq⟩ := List.mem_map.1 hmem
    exact ⟨q, hq.symm⟩
  · rintro ⟨q, hq⟩
    induction place generalizing p with
    | nil => simp [Node.places_eq]
    | cons i rest ih =>
      rw [at?, Option.bind_eq_some_iff] at hq
      obtain ⟨c, hc, hrest⟩ := hq
      rw [getElem?_children, Option.map_eq_some_iff] at hc
      obtain ⟨n, hn, rfl⟩ := hc
      rw [Node.places_eq]
      exact List.mem_cons_of_mem _ (Node.mem_placesFrom_iff.2 ⟨i, n, hn, rest, ih hrest, by simp⟩)

end Placed

namespace SyntaxTree

theorem typeNodes_eq (tree : Node) :
    typeNodes tree = (Placed.root tree).preorder.filter (isType ·.node) := by
  rw [typeNodes, Placed.visit_eq, List.flatMap_singleton]

def commentNodes (p : Placed) : List Node :=
  (p.before.takeWhile Node.isComment).reverse ++ innerComments p.node

theorem leadingComments_eq (source : Source) (p : Placed) :
    leadingComments source p = (commentNodes p).map fun c => nodeText source (some c) :=
  rfl

end SyntaxTree

end Outline
