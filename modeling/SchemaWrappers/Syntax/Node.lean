/-! Concrete syntax trees, as a reader of source text hands them over. -/
namespace SchemaWrappers.Syntax

/-- A node with its byte range, the row it starts in counted from 0, and the name of the place it
takes in its parent. Words and marks of the language itself are unnamed nodes; a missing node was
supplied by the reader. -/
structure Node where
  kind : String
  start : Nat := 0
  stop : Nat := 0
  row : Nat := 0
  named : Bool := true
  missing : Bool := false
  field : Option String := none
  children : List Node := []
  deriving Inhabited, Repr

namespace Node

/-- The number of nodes. -/
def size : Node → Nat
  | ⟨_, _, _, _, _, _, _, children⟩ => 1 + sizes children
where
  sizes : List Node → Nat
    | [] => 0
    | n :: ns => size n + sizes ns

def namedChildren (n : Node) : List Node := n.children.filter (·.named)

def child? (n : Node) (name : String) : Option Node :=
  n.children.find? (·.field == some name)

theorem sizes_append (xs ys : List Node) : size.sizes (xs ++ ys) = size.sizes xs + size.sizes ys := by
  induction xs with
  | nil => simp [size.sizes]
  | cons x xs ih => simp only [List.cons_append, size.sizes, ih]; omega

theorem size_le_sizes {n : Node} {ns : List Node} (h : n ∈ ns) : n.size ≤ size.sizes ns := by
  induction ns with
  | nil => simp at h
  | cons m ms ih =>
    rcases List.mem_cons.1 h with rfl | h
    · simp only [size.sizes]; omega
    · have := ih h; simp only [size.sizes]; omega

theorem size_eq (n : Node) : n.size = 1 + size.sizes n.children := by
  cases n; rw [size]

theorem size_lt_of_mem {n m : Node} (h : m ∈ n.children) : m.size < n.size := by
  have := size_le_sizes h
  rw [n.size_eq]; omega

/-- The kind of a node that stands for text the reader could not make sense of. -/
def errorKind : String := "ERROR"

def isFault (n : Node) : Bool := n.kind == errorKind || n.missing

/-- Takes nodes off the stack until one is a fault, its children being put on top. -/
def firstFault : List Node → Option Node
  | [] => none
  | n :: stack => if n.isFault then some n else firstFault (n.children ++ stack)
termination_by stack => size.sizes stack
decreasing_by rw [sizes_append, size.sizes, n.size_eq]; omega

/-- The line, counted from 1, of the first fault, and of the tree itself when it has none. -/
def faultLine (n : Node) : Nat := ((firstFault [n]).getD n).row + 1

end Node
end SchemaWrappers.Syntax
