/-
Member and call chains.

`a.b.c()`, `a[b]()` and `a?.b` are all governed by `a`: a chain is followed along
the object of a member and the callee of a call, never into an index or an
argument.  The node around an optional chain counts as its outermost link.
-/
import FreeNames.Tree.Node

namespace FreeNames

/-- What a chain hangs on. -/
inductive Root
  | identifier (x : Ident)
  /-- `this`, or a name spelled like the receiver. -/
  | receiver
  | other
  deriving DecidableEq, Repr

namespace Node

/-- The node a chain goes on with, if this node is a link. -/
def next? : Node → Option Node
  | .member _ _ object _ | .index _ _ object _ | .field _ _ object _ => some object
  | .call _ _ callee _ => some callee
  | .nonNull _ value => some value
  | .chain _ element => some (element.next?.getD element)
  | _ => none

/-- Whether a node is a link of a chain. -/
def isLink (n : Node) : Bool := n.next?.isSome

/-- Where the chain starts. -/
def leftmost : Node → Node
  | .member _ _ object _ | .index _ _ object _ | .field _ _ object _ => object.leftmost
  | .call _ _ callee _ => callee.leftmost
  | .nonNull _ value => value.leftmost
  | .chain _ element => element.leftmost
  | n => n

/-- The chain from this node to its start.  The outermost link inside the node around an
optional chain is not listed: that node stands for it. -/
def links : Node → List Node
  | n@(.member _ _ object _) | n@(.index _ _ object _) | n@(.field _ _ object _) =>
    n :: object.links
  | n@(.call _ _ callee _) => n :: callee.links
  | n@(.nonNull _ value) => n :: value.links
  | n@(.chain _ element) => n :: if element.isLink then element.links.tail else element.links
  | n => [n]

/-- What the chain hangs on, for a receiver of this name. -/
def root (n : Node) (receiver : String) : Root :=
  match n.leftmost with
  | .thisRef _ => .receiver
  | .name .reference x => if x.name == receiver then .receiver else .identifier x
  | _ => .other

end Node

end FreeNames
