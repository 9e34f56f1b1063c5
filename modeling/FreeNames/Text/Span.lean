/-
Places in a source text.

A place is counted in UTF-8 bytes from the start of the text.  A node that was
not read from the text has the empty span at zero, and no token of a source has
that span, so the two are told apart by the span alone.
-/

namespace FreeNames

/-- The bytes from `start` up to but not including `stop`. -/
structure Span where
  start : Nat
  stop : Nat
  deriving DecidableEq, Repr, Inhabited

namespace Span

/-- The span of a node that stands nowhere in the source. -/
def nowhere : Span := ⟨0, 0⟩

/-- Whether a node with this span was put into the tree and not read from the source. -/
def isNowhere (s : Span) : Bool := s == nowhere

end Span

/-- A name together with the place it is written at. -/
structure Ident where
  name : String
  span : Span
  deriving DecidableEq, Repr, Inhabited

/-- How many bytes the characters take in UTF-8. -/
def byteLength (cs : List Char) : Nat := cs.foldr (fun c n => c.utf8Size + n) 0

@[simp] theorem byteLength_nil : byteLength [] = 0 := rfl

@[simp] theorem byteLength_cons (c : Char) (cs : List Char) :
    byteLength (c :: cs) = c.utf8Size + byteLength cs := rfl

@[simp] theorem byteLength_append (cs ds : List Char) :
    byteLength (cs ++ ds) = byteLength cs + byteLength ds := by
  induction cs with
  | nil => simp
  | cons c cs ih => rw [List.cons_append, byteLength_cons, byteLength_cons, ih, Nat.add_assoc]

end FreeNames
