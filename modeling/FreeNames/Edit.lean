/-
Edits of a text.

An edit puts a text in the place of a span.  Edits are made from the back of the
text to its front, so that the places of those still to be made stay right.  An
edit fails if its span is not a span of the text: if it ends before it starts or
after the text, or cuts a character in two.
-/
import FreeNames.Text.Span

namespace FreeNames

/-- A span and the text that takes its place. -/
structure Edit where
  span : Span
  text : String
  deriving DecidableEq, Repr, Inhabited

/-- Cuts the characters in two after `n` bytes, if a character ends there. -/
def splitAtByte? : Nat → List Char → Option (List Char × List Char)
  | 0, cs => some ([], cs)
  | _ + 1, [] => none
  | n + 1, c :: cs =>
    if c.utf8Size ≤ n + 1 then
      (splitAtByte? (n + 1 - c.utf8Size) cs).map fun (a, b) => (c :: a, b)
    else none

namespace Edit

/-- Makes one edit. -/
def splice? (e : Edit) (cs : List Char) : Option (List Char) := do
  if e.span.stop < e.span.start then none
  let (before, rest) ← splitAtByte? e.span.start cs
  let (_, after) ← splitAtByte? (e.span.stop - e.span.start) rest
  return before ++ e.text.toList ++ after

/-- The edits from the back to the front; those at one place keep their order. -/
def backToFront (edits : List Edit) : List Edit :=
  edits.mergeSort fun a b => b.span.start ≤ a.span.start

/-- Makes edits one after the other, each in the text that the ones before it left. -/
def spliceInOrder? (edits : List Edit) (cs : List Char) : Option (List Char) :=
  edits.foldlM (fun cs e => e.splice? cs) cs

/-- Makes all edits. -/
def spliceAll? (edits : List Edit) (source : String) : Option String :=
  (spliceInOrder? (backToFront edits) source.toList).map String.ofList

end Edit

end FreeNames
