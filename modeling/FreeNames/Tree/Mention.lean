/-
Every identifier of a tree, depth first and in source order.
-/
import FreeNames.Tree.Node

namespace FreeNames

/-- What an identifier of a tree is shown as. -/
inductive MentionKind
  | reference
  | binding
  /-- A property, a key, or a name of another module. -/
  | name
  | label
  | thisRef
  /-- Marks a shorthand member of an object literal, in front of its key and its value. -/
  | shorthand
  deriving DecidableEq, Repr

/-- An identifier of a tree. -/
structure Mention where
  kind : MentionKind
  ident : Ident
  deriving DecidableEq, Repr

namespace Node

/-- How an identifier is shown that plays this role. -/
def mentionKind : Role → MentionKind
  | .reference | .exported => .reference
  | .binding => .binding
  | .label => .label
  | .key | .word => .name

mutual

/-- The identifiers of a tree.  Private names are not among them. -/
def mentions : Node → List Mention
  | .name role x => [⟨mentionKind role, x⟩]
  | .thisRef s => [⟨.thisRef, ⟨"this", s⟩⟩]
  | .member _ _ object x => mentions object ++ [⟨.name, x⟩]
  | .index _ _ object key => mentions object ++ mentions key
  | .field _ _ object _ => mentions object
  | .call _ _ callee arguments => mentions callee ++ mentionsOf arguments
  | .chain _ element => mentions element
  | .nonNull _ value => mentions value
  | .write target => mentions target
  | .shorthandTarget _ x value => ⟨.reference, x⟩ :: mentions value
  | .shorthand x => [⟨.shorthand, ⟨"", x.span⟩⟩, ⟨.name, x⟩, ⟨.reference, x⟩]
  | .declarator _ _ pattern value => mentions pattern ++ mentions value
  | .form _ _ parts => mentionsOf parts
  | .region _ _ _ parts => mentionsOf parts

/-- The identifiers of some trees. -/
def mentionsOf : List Node → List Mention
  | [] => []
  | n :: rest => mentions n ++ mentionsOf rest

end

end Node

end FreeNames
