/-
Whole programs.

The recursion of the grammar is tied here.  Between two requests for a goal that
read nothing there are only a few others, so fuel proportional to the length of
the text never runs out.
-/
import FreeNames.Grammar.Module
import FreeNames.Tree.Binding

namespace FreeNames

namespace Grammar

/-- The parser for each goal. -/
def parserFor : Goal → Parse Node
  | .statement place => statement place
  | .expression => expression
  | .assignment => assignment
  | .binary level => binary level
  | .unary => unary
  | .constructed => constructed
  | .leftHand => leftHand
  | .pattern => pattern

/-- Solves a goal with limited depth of recursion. -/
def solveWithin (kind : SourceKind) (bound : Nat) : Nat → Goal → Mode → State →
    Option (Node × State)
  | 0, _, _, _ => none
  | fuel + 1, goal, mode, s =>
    parserFor goal { kind, mode, bound, solve := solveWithin kind bound fuel } s

/-- What the top of a text allows. -/
def Mode.top (kind : SourceKind) : Mode :=
  { inOperator := true, yields := false, awaits := kind != .script, returns := false,
    decorates := false }

/-- The setting for a text of `length` characters. -/
def Setting.ofLength (kind : SourceKind) (length : Nat) : Setting :=
  { kind
    mode := .top kind
    bound := length + 2
    solve := solveWithin kind (length + 2) (8 * (length + 2)) }

/-- The cursor after a byte order mark and a first line that starts with `#!`. -/
def afterPreamble (source : String) : Cursor :=
  let c := Cursor.ofString source
  let c := match c.rest with
    | '\uFEFF' :: r => c.after ['\uFEFF'] r
    | _ => c
  match c.rest with
  | '#' :: '!' :: r =>
    let line := r.takeWhile (!isLineBreak ·)
    c.after ('#' :: '!' :: line) (r.dropWhile (!isLineBreak ·))
  | _ => c

/-- Runs a parser on a text from its first token on. -/
def run {α : Type} (kind : SourceKind) (source : String) (p : Parse α) : Option (α × State) := do
  let setting := Setting.ofLength kind source.length
  let s ← State.ofGap kind setting.bound ⟨true, [], afterPreamble source⟩ 0
  p setting s

/-- The statements of a program up to the end of the text. -/
def programBody : Parse Node := do
  let parts ← many do
    if (← peek) == .eof then return none
    else return some (← solve (.statement .list))
  regionFrom .program 0 (markDirectives parts)

/-! ### Exported names -/

/-- The name another module knows an export by. -/
def exportedName : Node → Option String
  | .name _ x => some x.name
  | .form (.moduleName text) _ _ => some (String.ofList ((text.toList.drop 1).dropLast))
  | _ => none

/-- The names a statement exports. -/
def exportedNames : Node → List String
  | .form (.exportNamed _) _ parts =>
    parts.filterMap fun
      | .form .exportSpecifier _ [_, exported] => exportedName exported
      | _ => none
  | .form (.exportAll _) _ parts => parts.filterMap exportedName
  | .form .exportDefault _ _ => ["default"]
  | .form .exportDeclaration _ [value] =>
    match value with
    | .form (.declaration _) _ parts => (Node.boundNamesOf parts).map (·.name)
    | .region (.function ..) _ _ (.name _ x :: _) => [x.name]
    | .form (.classLike _) _ parts =>
      parts.filterMap fun
        | .name .binding x => some x.name
        | _ => none
    | _ => []
  | _ => []

/-- Whether no name is exported twice. -/
def exportsDistinct : Node → Bool
  | .region .program _ _ parts => (parts.flatMap exportedNames).Nodup
  | _ => true

end Grammar

/-- A text that has been read. -/
structure Program where
  tree : Node
  /-- The texts of the comments without delimiters, in source order. -/
  comments : List String
  deriving Inhabited

/-- Reads a program; `none` if the text is not one. -/
def Program.parse? (kind : SourceKind) (source : String) : Option Program := do
  let (tree, s) ← Grammar.run kind source Grammar.programBody
  if tree.isSettled && Grammar.exportsDistinct tree then
    pure { tree, comments := s.comments.reverse }
  else none

/-- Reads the expression at the start of a text. -/
def Node.parseExpression? (kind : SourceKind) (source : String) : Option Node := do
  let (tree, _) ← Grammar.run kind source Grammar.expression
  if tree.isSettled then pure tree else none

end FreeNames
