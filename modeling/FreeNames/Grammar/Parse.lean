/-
The parsing monad.

A parser sees one token at a time and may go back to an earlier state, since a
state is a value.  The grammar is recursive through a handful of goals only.  A
parser does not call itself: it asks for a goal, and the knot is tied once, in
`FreeNames.Grammar.Program`, with fuel that the length of the text bounds.
-/
import FreeNames.Token.Lexer
import FreeNames.Tree.Node

namespace FreeNames

/-- How a text is to be read. -/
inductive SourceKind
  /-- `await` is an operator at the top, and the text may import and export. -/
  | module
  /-- Comments may also be opened by `<!--`, or by `-->` at the start of a line. -/
  | script
  /-- A module in which a value may be followed by `!`. -/
  | typed
  deriving DecidableEq, Repr, Inhabited

namespace Grammar

/-- What the surroundings of a construct allow in it. -/
structure Mode where
  /-- Whether `in` is an operator. -/
  inOperator : Bool
  /-- Whether `yield` is an operator. -/
  yields : Bool
  /-- Whether `await` is an operator. -/
  awaits : Bool
  /-- Whether `return` may stand here. -/
  returns : Bool
  /-- Whether a bracket starts the next class element and not an index. -/
  decorates : Bool
  deriving Inhabited

/-- Where a statement stands. -/
inductive Place
  | list
  /-- The body of an `if`, a loop, a `with` or a label. -/
  | single
  deriving DecidableEq

/-- The recursive part of the grammar. -/
inductive Goal
  | statement (place : Place)
  | expression
  | assignment
  /-- Operators that bind tighter than the level. -/
  | binary (level : Nat)
  | unary
  /-- What may follow `new`. -/
  | constructed
  /-- What may follow `@` or `extends`. -/
  | leftHand
  | pattern

/-- The current token and how to go on from it. -/
structure State where
  token : Token
  span : Span
  /-- Whether a line ends between the token and the one before it. -/
  newline : Bool
  /-- At the first character of the token. -/
  head : Cursor
  /-- After the token. -/
  tail : Cursor
  /-- Where the token before this one ends. -/
  last : Nat
  /-- The comments up to the token, last one first. -/
  comments : List String
  deriving Inhabited

/-- What stays the same while a goal is parsed. -/
structure Setting where
  kind : SourceKind
  mode : Mode
  /-- No loop over the tokens runs more often than this. -/
  bound : Nat
  /-- The parser for a goal in a mode. -/
  solve : Goal → Mode → State → Option (Node × State)

/-- A parser; it fails without saying why. -/
abbrev Parse (α : Type) := ReaderT Setting (StateT State Option) α

/-! ### Tokens -/

/-- The state at the first token of the gap that starts at `gap.cursor`. -/
def State.ofGap (kind : SourceKind) (bound : Nat) (gap : Trivia) (last : Nat) : Option State := do
  let gap ← gap.skip (kind == .script) bound
  let (token, tail) ← Lexer.token bound gap.cursor
  pure
    { token
      span := ⟨gap.cursor.offset, tail.offset⟩
      newline := gap.newline
      head := gap.cursor
      tail
      last
      comments := gap.comments }

/-- Lifts a partial function on states. -/
def move (f : Setting → State → Option State) : Parse Unit := fun setting s =>
  (f setting s).map fun s' => ((), s')

/-- Goes to the next token. -/
def advance : Parse Unit := move fun setting s =>
  State.ofGap setting.kind setting.bound ⟨false, s.comments, s.tail⟩ s.span.stop

/-- Reads the current token again, as `reader` wants it, from `cursor` on. -/
def reread (cursor : State → Cursor) (reader : Cursor → Option (Token × Cursor)) : Parse Unit :=
  move fun _ s => do
    let (token, tail) ← reader (cursor s)
    pure { s with token, tail, span := ⟨s.span.start, tail.offset⟩ }

/-- The current token. -/
def peek : Parse Token := return (← get).token

/-- The token after the current one, and whether a line ends between the two. -/
def peekNext : Parse (Token × Bool) := fun setting s =>
  match State.ofGap setting.kind setting.bound ⟨false, s.comments, s.tail⟩ s.span.stop with
  | some next => some ((next.token, next.newline), s)
  | none => none

/-- Whether a line ends in front of the current token. -/
def afterNewline : Parse Bool := return (← get).newline

/-- Whether the current token is this punctuator. -/
def atPunct (text : String) : Parse Bool := return (← peek) == .punct text

/-- Whether the current token is this word, spelled without escapes. -/
def atWord (name : String) : Parse Bool := return (← peek) == .word name false

/-- Goes past the punctuator if it is there. -/
def eatPunct (text : String) : Parse Bool := do
  if ← atPunct text then advance; return true
  else return false

/-- Goes past the word if it is there. -/
def eatWord (name : String) : Parse Bool := do
  if ← atWord name then advance; return true
  else return false

def expectPunct (text : String) : Parse Unit := do
  unless ← eatPunct text do failure

def expectWord (name : String) : Parse Unit := do
  unless ← eatWord name do failure

/-- Fails unless the condition holds. -/
def ensure (b : Bool) : Parse Unit := if b then pure () else failure

/-- Where the current token starts. -/
def here : Parse Nat := return (← get).span.start

/-- The span from `start` to the end of the token before the current one. -/
def spanFrom (start : Nat) : Parse Span := return ⟨start, (← get).last⟩

/-- Ends a statement: at a semicolon, or where one may be left out. -/
def semicolon : Parse Unit := do
  unless ← eatPunct ";" do
    ensure ((← afterNewline) || (← atPunct "\x7d") || (← peek) == .eof)

/-! ### Recursion and loops -/

/-- Asks for a goal in the current mode. -/
def solve (goal : Goal) : Parse Node := fun setting s => setting.solve goal setting.mode s

/-- Runs a parser in another mode. -/
def within {α : Type} (f : Mode → Mode) (p : Parse α) : Parse α := fun setting s =>
  p { setting with mode := f setting.mode } s

def mode : Parse Mode := return (← read).mode

/-- Runs a parser and goes back to where it started if it fails. -/
def attempt {α : Type} (p : Parse α) : Parse (Option α) := fun setting s =>
  match p setting s with
  | some (a, s') => some (some a, s')
  | none => some (none, s)

/-- Whether a parser succeeds here; nothing is read. -/
def succeeds {α : Type} (p : Parse α) : Parse Bool := fun setting s =>
  some ((p setting s).isSome, s)

/-- The results of `item` up to the first `none`. -/
def collect {α : Type} (item : Parse (Option α)) : Nat → Parse (List α)
  | 0 => failure
  | fuel + 1 => do
    match ← item with
    | some a => return a :: (← collect item fuel)
    | none => return []

/-- The results of `item` up to the first `none`; each result reads at least one token. -/
def many {α : Type} (item : Parse (Option α)) : Parse (List α) := do
  collect item (← read).bound

/-- Applies `step` until it gives `none`. -/
def iterate {α : Type} (step : α → Parse (Option α)) : Nat → α → Parse α
  | 0, _ => failure
  | fuel + 1, a => do
    match ← step a with
    | some a' => iterate step fuel a'
    | none => return a

/-- Extends a result while `step` can; each step reads at least one token. -/
def extend {α : Type} (step : α → Parse (Option α)) (a : α) : Parse α := do
  iterate step (← read).bound a

/-- Items up to a closing punctuator, each followed by a comma or by the close.  Tells also
whether a comma follows the last one. -/
def commaList (close : String) (item : Parse Node) : Parse (List Node × Bool) := do
  let items ← many do
    if ← atPunct close then return none
    let node ← item
    if ← atPunct close then return some (node, false)
    expectPunct ","
    return some (node, true)
  expectPunct close
  return (items.map (·.1), (items.getLast?.map (·.2)).getD false)

/-! ### Names -/

/-- Whether the word may be the name of something here. -/
def nameAllowed (name : String) : Parse Bool := do
  let m ← mode
  return !reservedWords.contains name && !(name == "await" && m.awaits)
    && !(name == "yield" && m.yields)

/-- The current token as an identifier, whatever word it is. -/
def anyName : Parse Ident := do
  let s ← get
  match s.token with
  | .word name _ => advance; return ⟨name, s.span⟩
  | _ => failure

/-- A name that is not reserved here. -/
def identifier : Parse Ident := do
  let x ← anyName
  ensure (← nameAllowed x.name)
  return x

/-- Whether the current token is a name that is not reserved here. -/
def atIdentifier : Parse Bool := do
  match ← peek with
  | .word name _ => nameAllowed name
  | _ => return false

/-- A name that is declared here. -/
def bindingName : Parse Node := return .name .binding (← identifier)

/-- A literal token by its text. -/
def literal : Parse Node := do
  let s ← get
  match s.token with
  | .numeral text | .quoted text | .regex text | .word text _ =>
    advance
    return .form (.literal text) s.span []
  | _ => failure

/-- A node of a form that starts at `start` and ends here. -/
def formFrom (kind : Form) (start : Nat) (parts : List Node) : Parse Node :=
  return .form kind (← spanFrom start) parts

/-- A node that opens a scope, from `start` to here. -/
def regionFrom (kind : ScopeKind) (start : Nat) (parts : List Node) : Parse Node :=
  return .region kind (← spanFrom start) none parts

end Grammar

end FreeNames
