import Mathlib.Data.List.Forall2
import Outline.Proofs.SyntaxTree.Places

set_option autoImplicit false

/-!
# What the walk through a syntax tree finds

The walk goes once through every node and lists the types in the order of their places. Each type
has the members that the children of its body declare, in order. In a tree whose nodes lie in their
parents and come one after the other, both are in the order of the source.
-/
namespace Outline

/-! ## Types -/

namespace Placed

theorem length_visit (stack : List Placed) :
    (visit stack).length = Node.sizeAll (stack.map (·.node)) := by
  induction stack using visit.induct with
  | case1 => rw [visit]; rfl
  | case2 p rest ih =>
    rw [visit, List.length_cons, ih, List.map_append, Node.sizeAll_append, List.map_cons, children,
      map_node_row, Node.sizeAll, Node.size_eq]
    omega

end Placed

def Member.summary : Member → Option String
  | constructor signature => signature.summary
  | method signature _ => signature.summary
  | field _ _ _ summary => summary
  | property _ _ _ summary => summary

namespace SyntaxTree

def typePlaces (tree : Node) : List (List ℕ) :=
  tree.places.filter fun place => ((Placed.root tree).at? place).any (isType ·.node)

theorem mem_typePlaces_iff {tree : Node} {place : List ℕ} : place ∈ typePlaces tree ↔
    ∃ p, (Placed.root tree).at? place = some p ∧ isType p.node = true := by
  have hplaces := @Placed.mem_places_iff (.root tree) place
  rw [typePlaces, List.mem_filter, Option.any_eq_true]
  constructor
  · rintro ⟨-, p, hp, htype⟩
    exact ⟨p, hp, htype⟩
  · rintro ⟨p, hp, htype⟩
    exact ⟨hplaces.2 ⟨p, hp⟩, p, hp, htype⟩

theorem map_at?_typePlaces (tree : Node) :
    (typePlaces tree).map (Placed.root tree).at? = (typeNodes tree).map some := by
  have hplaces := Placed.map_at?_places (.root tree)
  have hfilter := congrArg (List.filter fun found : Option Placed => found.any (isType ·.node))
    hplaces
  rw [List.filter_map, List.filter_map] at hfilter
  rw [typeNodes_eq]
  exact hfilter

/-! ## Members -/

/-- Whether a child of a type's body declares a member; a field does so only with a declaration of
variables in it. -/
def declaresMember (n : Node) : Bool :=
  ["constructor_declaration", "method_declaration", "property_declaration"].contains n.kind ||
    n.kind == "field_declaration" && (n.childFor? "declaration" "variable_declaration").isSome

/-- The children of a type's body that declare members. -/
def memberNodes (n : Node) : List Placed :=
  match n.childFor? "body" "declaration_list" with
  | some body => (Placed.root body).children.filter (declaresMember ·.node)
  | none => []

def declaringKind : Member → String
  | .constructor .. => "constructor_declaration"
  | .method .. => "method_declaration"
  | .field .. => "field_declaration"
  | .property .. => "property_declaration"

/-- A node declares a member, which is of its kind and has its summary. -/
structure Declares (source : Source) (p : Placed) (m : Member) : Prop where
  member : member? source p = some m
  kind : declaringKind m = p.node.kind
  summary : m.summary = summary? source p

theorem member?_cases (source : Source) (p : Placed) :
    declaresMember p.node = false ∧ member? source p = none ∨
      declaresMember p.node = true ∧ ∃ m, Declares source p m := by
  have hdeclares : ∀ {m : Member}, member? source p = some m → declaringKind m = p.node.kind →
      m.summary = summary? source p → ∃ m, Declares source p m :=
    fun hm hkind hsummary => ⟨_, hm, hkind, hsummary⟩
  simp only [member?, declaresMember] at hdeclares ⊢
  split_ifs at hdeclares ⊢ with hconstructor hmethod hfield hproperty
  · exact .inr ⟨by simp_all, hdeclares rfl (eq_of_beq hconstructor).symm rfl⟩
  · exact .inr ⟨by simp_all, hdeclares rfl (eq_of_beq hmethod).symm rfl⟩
  · cases hd : p.node.childFor? "declaration" "variable_declaration" with
    | none => exact .inl ⟨by simp_all, rfl⟩
    | some declaration =>
      rw [hd] at hdeclares
      exact .inr ⟨by simp_all, hdeclares rfl (eq_of_beq hfield).symm rfl⟩
  · exact .inr ⟨by simp_all, hdeclares rfl (eq_of_beq hproperty).symm rfl⟩
  · exact .inl ⟨by simp_all, rfl⟩

theorem forall₂_memberNodes (source : Source) (n : Node) :
    List.Forall₂ (Declares source) (memberNodes n) (members source n) := by
  have hrow : ∀ row : List Placed, List.Forall₂ (Declares source)
      (row.filter (declaresMember ·.node)) (row.filterMap (member? source)) := by
    intro row
    induction row with
    | nil => exact .nil
    | cons p row ih =>
      rw [List.filter_cons, List.filterMap_cons]
      rcases member?_cases source p with ⟨hno, hnone⟩ | ⟨hyes, m, hm⟩
      · rw [hno, hnone]
        exact ih
      · rw [hyes, hm.member]
        exact .cons hm ih
  unfold memberNodes members
  cases n.childFor? "body" "declaration_list" with
  | none => exact .nil
  | some body => exact hrow _

/-- A node declares a type: it is made from the node, and its members from the children of its
body. -/
structure DeclaresType (source : Source) (p : Placed) (t : TypeDecl) : Prop where
  type : t = typeDecl source p
  members : List.Forall₂ (Declares source) (memberNodes p.node) t.members

theorem forall₂_typeNodes (source : String) (tree : Node) :
    List.Forall₂ (DeclaresType (Text.Utf8.encode source.toList)) (typeNodes tree)
      (SourceOutline.ofTree source tree).types := by
  rw [SourceOutline.ofTree, List.forall₂_map_right_iff, List.forall₂_same]
  exact fun p _ => ⟨rfl, forall₂_memberNodes _ p.node⟩

end SyntaxTree

/-! ## The order of the source -/

namespace Node

/-- A tree in the order of its source: children lie in their parents, and siblings come one after
the other without overlap. -/
inductive IsOrdered : Node → Prop
  | mk {n : Node}
      (inside : ∀ c ∈ n.children, n.start ≤ c.start ∧ c.start ≤ n.stop ∧ c.stop ≤ n.stop)
      (apart : n.children.Pairwise fun a b => a.start ≤ b.start ∧ a.stop ≤ b.start)
      (below : ∀ c ∈ n.children, IsOrdered c) : IsOrdered n

theorem isOrdered_mk_iff {kind : String} {role : Option String} {start stop : ℕ} {flawed : Bool}
    {children : List Node} : (mk kind role start stop flawed children).IsOrdered ↔
      (∀ c ∈ children, start ≤ c.start ∧ c.start ≤ stop ∧ c.stop ≤ stop) ∧
      (children.Pairwise fun a b => a.start ≤ b.start ∧ a.stop ≤ b.start) ∧
      ∀ c ∈ children, c.IsOrdered :=
  ⟨fun ⟨inside, apart, below⟩ => ⟨inside, apart, below⟩,
    fun ⟨inside, apart, below⟩ => ⟨inside, apart, below⟩⟩

end Node

namespace Placed

theorem pairwise_children {p : Placed} (h : p.node.IsOrdered) :
    p.children.Pairwise fun a b =>
      a.node.start ≤ b.node.start ∧ a.node.stop ≤ b.node.start := by
  obtain ⟨-, apart, -⟩ := h
  rw [← map_node_row [] p.node.children] at apart
  exact List.pairwise_map.1 apart

theorem isOrdered_of_mem_preorder {p q : Placed} (h : p.node.IsOrdered) (hq : q ∈ p.preorder) :
    q.node.IsOrdered := by
  obtain ⟨n, before⟩ := p
  induction n generalizing before with
  | step n ih =>
    rcases mem_preorder_iff.1 hq with rfl | ⟨c, hc, hq⟩
    · exact h
    · obtain ⟨-, -, below⟩ := h
      have hmem := node_mem_of_mem_children hc
      exact ih c.node hmem c.before (below _ hmem) hq

/-- No node below another begins before it or behind it. -/
theorem start_le_of_mem_preorder {p q : Placed} (h : p.node.IsOrdered) (hq : q ∈ p.preorder) :
    p.node.start ≤ q.node.start ∧ q.node.start ≤ max p.node.start p.node.stop := by
  obtain ⟨n, before⟩ := p
  induction n generalizing before with
  | step n ih =>
    rcases mem_preorder_iff.1 hq with rfl | ⟨c, hc, hq⟩
    · omega
    · obtain ⟨inside, -, below⟩ := h
      have hmem := node_mem_of_mem_children hc
      have hin := inside _ hmem
      have hbelow := ih c.node hmem c.before (below _ hmem) hq
      simp only at hin hbelow ⊢
      omega

theorem pairwise_start_preorder {p : Placed} (h : p.node.IsOrdered) :
    p.preorder.Pairwise fun a b => a.node.start ≤ b.node.start := by
  obtain ⟨n, before⟩ := p
  induction n generalizing before with
  | step n ih =>
    have hstart : ∀ q ∈ (⟨n, before⟩ : Placed).preorder, n.start ≤ q.node.start := fun q hq =>
      (start_le_of_mem_preorder h hq).1
    rw [preorder_eq, List.forall_mem_cons] at hstart
    have hordered : ∀ c ∈ (⟨n, before⟩ : Placed).children, c.node.IsOrdered := by
      obtain ⟨-, -, below⟩ := h
      exact fun c hc => below _ (node_mem_of_mem_children hc)
    rw [preorder_eq, List.pairwise_cons, List.pairwise_flatMap]
    refine ⟨hstart.2, fun c hc => ?_, ?_⟩
    · exact ih c.node (node_mem_of_mem_children hc) c.before (hordered c hc)
    · refine (pairwise_children h).imp_of_mem fun {a b} ha hb hab x hx y hy => ?_
      -- all of the one child begins before the next one does
      have hxa := (start_le_of_mem_preorder (hordered a ha) hx).2
      have hby := (start_le_of_mem_preorder (hordered b hb) hy).1
      omega

end Placed

namespace SyntaxTree

theorem pairwise_start_typeNodes {tree : Node} (h : tree.IsOrdered) :
    ((typeNodes tree).map (·.node.start)).Pairwise (· ≤ ·) := by
  rw [typeNodes_eq, List.pairwise_map]
  exact (Placed.pairwise_start_preorder (p := .root tree) h).filter _

theorem isOrdered_childFor? {n c : Node} {role kind : String} (h : n.IsOrdered)
    (hc : n.childFor? role kind = some c) : c.IsOrdered := by
  obtain ⟨-, -, below⟩ := h
  refine below c ?_
  rw [Node.childFor?, Node.childInRole?, Option.or_eq_some_iff] at hc
  rcases hc with hc | ⟨-, hc⟩
  · exact List.mem_of_find?_eq_some hc
  · exact List.mem_of_find?_eq_some hc

theorem pairwise_start_memberNodes {n : Node} (h : n.IsOrdered) :
    ((memberNodes n).map (·.node.start)).Pairwise (· ≤ ·) := by
  unfold memberNodes
  cases hbody : n.childFor? "body" "declaration_list" with
  | none => exact .nil
  | some body =>
    rw [List.pairwise_map]
    have hchildren := Placed.pairwise_children (p := .root body) (isOrdered_childFor? h hbody)
    exact (hchildren.imp fun hab => hab.1).filter _

/-- The walk finds every declaration once and in order. It takes as many steps as the tree has nodes
and lists the types in recursive order, each at a place of its own; the outline has one type for
each of them, with the members that its body declares. If the tree is in the order of its source,
so are the types and the members of each type. -/
theorem declarations_found_once_in_order (source : String) (tree : Node) :
    (Placed.visit [.root tree]).length = tree.size ∧
    typeNodes tree = (Placed.root tree).preorder.filter (isType ·.node) ∧
    ((typePlaces tree).Pairwise (· < ·) ∧
      (∀ place, place ∈ typePlaces tree ↔
        ∃ p, (Placed.root tree).at? place = some p ∧ isType p.node = true) ∧
      (typePlaces tree).map (Placed.root tree).at? = (typeNodes tree).map some) ∧
    List.Forall₂ (DeclaresType (Text.Utf8.encode source.toList)) (typeNodes tree)
      (SourceOutline.ofTree source tree).types ∧
    (tree.IsOrdered → ((typeNodes tree).map (·.node.start)).Pairwise (· ≤ ·) ∧
      ∀ p ∈ typeNodes tree, ((memberNodes p.node).map (·.node.start)).Pairwise (· ≤ ·)) := by
  have hsize : (Placed.visit [.root tree]).length = tree.size := by
    rw [Placed.length_visit]
    simp [Node.sizeAll, Placed.root]
  refine ⟨hsize, typeNodes_eq tree, ⟨?_, fun _ => mem_typePlaces_iff, map_at?_typePlaces tree⟩,
    forall₂_typeNodes source tree, fun h => ⟨pairwise_start_typeNodes h, fun p hp => ?_⟩⟩
  · exact (Node.pairwise_places tree).filter _
  · rw [typeNodes_eq] at hp
    exact pairwise_start_memberNodes
      (Placed.isOrdered_of_mem_preorder (p := .root tree) h (List.mem_of_mem_filter hp))

/-- The tree of `class A { int f; class B { } void M() { } }`, in outline. -/
def nestedTypes : Node :=
  .mk "compilation_unit" none 0 43 false
    [.mk "class_declaration" none 0 43 false
      [.mk "identifier" (some "name") 6 7 false [],
        .mk "declaration_list" (some "body") 8 43 false
          [.mk "field_declaration" none 10 16 false
              [.mk "variable_declaration" none 10 15 false []],
            .mk "class_declaration" none 17 28 false [],
            .mk "method_declaration" none 29 41 false []]]]

theorem declarations_found_once_in_order_nested : nestedTypes.IsOrdered ∧
    typePlaces nestedTypes = [[0], [0, 1, 1]] ∧
    ((typeNodes nestedTypes).map (·.node.start)).Pairwise (· ≤ ·) ∧
    ∀ p ∈ typeNodes nestedTypes, ((memberNodes p.node).map (·.node.start)).Pairwise (· ≤ ·) := by
  have hordered : nestedTypes.IsOrdered := by
    simp [nestedTypes, Node.isOrdered_mk_iff, Node.start, Node.stop]
  have hlisted := declarations_found_once_in_order
    "class A \x7b int f; class B \x7b \x7d void M() \x7b \x7d \x7d" nestedTypes
  exact ⟨hordered, by decide +kernel, hlisted.2.2.2.2 hordered⟩

end SyntaxTree

end Outline
