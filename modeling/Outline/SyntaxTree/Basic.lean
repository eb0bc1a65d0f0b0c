set_option autoImplicit false

/-!
# Syntax trees

A node has a kind, the role it plays for its parent, the byte offsets of its text, a mark for
syntax errors in it, and its children in order. Comments are nodes like any other.
-/
namespace Outline

inductive Node where
  | mk (kind : String) (role : Option String) (start stop : Nat) (flawed : Bool)
      (children : List Node)
deriving Repr, Inhabited

namespace Node

def kind : Node → String
  | mk kind _ _ _ _ _ => kind

def role : Node → Option String
  | mk _ role _ _ _ _ => role

def start : Node → Nat
  | mk _ _ start _ _ _ => start

def stop : Node → Nat
  | mk _ _ _ stop _ _ => stop

def flawed : Node → Bool
  | mk _ _ _ _ flawed _ => flawed

def children : Node → List Node
  | mk _ _ _ _ _ children => children

mutual

def size : Node → Nat
  | mk _ _ _ _ _ children => sizeAll children + 1

def sizeAll : List Node → Nat
  | [] => 0
  | n :: rest => size n + sizeAll rest

end

theorem size_eq (n : Node) : n.size = sizeAll n.children + 1 := by
  cases n
  simp [size, children]

theorem sizeAll_append (xs ys : List Node) : sizeAll (xs ++ ys) = sizeAll xs + sizeAll ys := by
  induction xs with
  | nil => simp [sizeAll]
  | cons x xs ih => simp [sizeAll, ih, Nat.add_assoc]

def childInRole? (n : Node) (role : String) : Option Node :=
  n.children.find? (·.role == some role)

/-- The first child with a role, or else the first of a kind. -/
def childFor? (n : Node) (role kind : String) : Option Node :=
  (n.childInRole? role).or (n.children.find? (·.kind == kind))

def isComment (n : Node) : Bool := n.kind == "comment"

end Node

/-- A node together with the siblings before it, the nearest first. -/
structure Placed where
  node : Node
  before : List Node

namespace Placed

def root (n : Node) : Placed := ⟨n, []⟩

def row : List Node → List Node → List Placed
  | _, [] => []
  | before, n :: rest => ⟨n, before⟩ :: row (n :: before) rest

theorem map_node_row (before nodes : List Node) : (row before nodes).map (·.node) = nodes := by
  induction nodes generalizing before with
  | nil => rfl
  | cons n rest ih => simp [row, ih]

def children (p : Placed) : List Placed := row [] p.node.children

/-- All nodes reached from a stack of nodes, top first: a node comes before its children, and
these come before the rest of the stack. -/
def visit (stack : List Placed) : List Placed :=
  match stack with
  | [] => []
  | p :: rest => p :: visit (p.children ++ rest)
termination_by Node.sizeAll (stack.map (·.node))
decreasing_by
  rw [List.map_append, Node.sizeAll_append, List.map_cons, children, map_node_row, Node.sizeAll,
    Node.size_eq]
  omega

end Placed

end Outline
