import LightShow.Strip

/-! The scratch of a pattern tree: strips in which its nodes draw before they combine, kept from
one drawing to the next. A strip keeps its pixels as long as it keeps its length. What has not
been drawn yet is empty. -/

namespace LightShow

inductive Scratch where
  | node (strips : List Strip) (children : List Scratch)

namespace Scratch

def fresh : Scratch := .node [] []

def strips : Scratch → List Strip
  | .node strips _ => strips

def children : Scratch → List Scratch
  | .node _ children => children

/-- The first strip of the node itself. -/
def strip (scratch : Scratch) : Strip := scratch.strips.headD []

/-- The scratch of one of the children. -/
def child (scratch : Scratch) (index : Nat) : Scratch := scratch.children.getD index fresh

end Scratch

end LightShow
