/-
Scope frames and the lookup of a name.

Frames are numbered, and each names its parent by number.  A name is looked up
from a frame outwards: the first frame that binds it decides.  The name
`arguments` is also caught by every function that is not an arrow, unless the
same frame binds it.
-/
import FreeNames.Tree.Node

namespace FreeNames

/-- What a frame belongs to. -/
inductive ScopeFlag
  | strict
  | top
  | function
  | arrow
  | staticBlock
  | moduleBlock
  | constructor
  | getter
  | setter
  | handler
  | directEval
  | conditionalType
  | withBody
  deriving DecidableEq, Repr

/-- One scope: where it lies, what it belongs to, and the symbols of the names it binds. -/
structure Frame where
  parent : Option ScopeId
  flags : List ScopeFlag
  bindings : List (String × SymbolId)
  deriving Repr, Inhabited

/-- What a lookup found. -/
inductive Resolution
  | symbol (id : SymbolId)
  /-- `arguments` of a function. -/
  | implicit
  deriving DecidableEq, Repr

namespace Frame

/-- The symbol the frame itself binds the name to. -/
def binding? (f : Frame) (name : String) : Option SymbolId := f.bindings.lookup name

/-- Binds a name; an earlier binding of the name is hidden. -/
def bind (f : Frame) (name : String) (symbol : SymbolId) : Frame :=
  { f with bindings := (name, symbol) :: f.bindings }

/-- Takes a name out of the frame. -/
def unbind (f : Frame) (name : String) : Frame :=
  { f with bindings := f.bindings.filter (·.1 != name) }

/-- Whether the frame has `arguments` of its own. -/
def hasArguments (f : Frame) : Bool := f.flags.contains .function && !f.flags.contains .arrow

/-- What the frame alone says about a name. -/
def catch? (f : Frame) (name : String) : Option Resolution :=
  match f.binding? name with
  | some s => some (.symbol s)
  | none => if name == "arguments" && f.hasArguments then some .implicit else none

/-- A frame with these names; the symbols are numbered from `first` on, and of a repeated name
the last number counts. -/
def ofNames (parent : Option ScopeId) (flags : List ScopeFlag) (names : List String)
    (first : SymbolId) : Frame :=
  { parent, flags, bindings := (names.zipIdx first).reverse }

end Frame

/-- Numbered frames. -/
structure Scopes where
  frames : Array Frame
  deriving Repr, Inhabited

namespace Scopes

/-- Looks a name up from a frame outwards.  The outer `none` says that the walk met a number
that no frame has.  Fuel bounds the number of frames looked at. -/
def walk (t : Scopes) (name : String) : Nat → ScopeId → Option (Option Resolution)
  | 0, _ => some none
  | fuel + 1, s =>
    match t.frames[s]? with
    | none => none
    | some f =>
      match f.catch? name with
      | some r => some (some r)
      | none =>
        match f.parent with
        | none => some none
        | some p => walk t name fuel p

/-- Looks a name up; no walk outwards meets more frames than there are. -/
def resolve? (t : Scopes) (name : String) (s : ScopeId) : Option (Option Resolution) :=
  t.walk name (t.frames.size + 1) s

/-- What a name stands for in a frame, if anything. -/
def resolve (t : Scopes) (name : String) (s : ScopeId) : Option Resolution :=
  (t.resolve? name s).join

/-- Whether a name is bound in a frame or around it. -/
def isBound (t : Scopes) (name : String) (s : ScopeId) : Bool := (t.resolve name s).isSome

/-- Frames with names; the symbols are numbered through all of them. -/
def ofNames (specs : List (Option ScopeId × List ScopeFlag × List String)) : Scopes :=
  let step (acc : Array Frame × Nat) (spec : Option ScopeId × List ScopeFlag × List String) :=
    (acc.1.push (Frame.ofNames spec.1 spec.2.1 spec.2.2 acc.2), acc.2 + spec.2.2.length)
  ⟨(specs.foldl step (#[], 0)).1⟩

end Scopes

end FreeNames
