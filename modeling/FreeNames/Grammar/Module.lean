/-
Imports and exports.
-/
import FreeNames.Grammar.Statement

namespace FreeNames.Grammar

/-! ### Imports -/

/-- The text of a string token. -/
def quotedText : Parse String := do
  match ← peek with
  | .quoted text => advance; return text
  | _ => failure

/-- A name of another module: a word, or a string. -/
def moduleName : Parse Node := do
  let s ← get
  match s.token with
  | .quoted text =>
    advance
    return .form (.moduleName text) s.span []
  | _ => return .name .word (← anyName)

/-- The key of an attribute, without quotes. -/
def attributeKey? : Node → Option String
  | .form .importAttribute _ [.name _ x, _] => some x.name
  | .form .importAttribute _ [.form (.moduleName text) _ _, _] =>
    some (String.ofList ((text.toList.drop 1).dropLast))
  | _ => none

/-- The attributes after the source of a module, each key once. -/
def attributes : Parse (List Node) := do
  let present := (← atWord "with") || ((← atWord "assert") && !(← afterNewline))
  if !present then return []
  advance
  expectPunct "\x7b"
  let (parts, _) ← commaList "\x7d" do
    let start ← here
    let key ← moduleName
    expectPunct ":"
    let value ← do
      match ← peek with
      | .quoted _ => literal
      | _ => failure
    formFrom .importAttribute start [key, value]
  ensure (parts.filterMap attributeKey?).Nodup
  return parts

def importSpecifier : Parse Node := do
  let start ← here
  let imported ← moduleName
  if ← eatWord "as" then
    let name ← bindingName
    formFrom .importNamed start [imported, name]
  else
    match imported with
    | .name _ x =>
      ensure (← nameAllowed x.name)
      formFrom .importNamed start [imported, .name .binding x]
    | _ => failure

def importNamespace : Parse Node := do
  let start ← here
  expectPunct "*"
  expectWord "as"
  let name ← bindingName
  formFrom .importNamespace start [name]

/-- What an import declares besides its default. -/
def importList : Parse (List Node) := do
  if ← atPunct "*" then return [← importNamespace]
  expectPunct "\x7b"
  let (parts, _) ← commaList "\x7d" importSpecifier
  return parts

/-- The word between `import` and what is imported. -/
def importPhase : Parse String := do
  let (next, _) ← peekNext
  match ← peek, next with
  | .word "defer" false, .punct "*" => advance; return "defer"
  | .word "source" false, .word w _ =>
    if w == "from" then return ""
    else advance; return "source"
  | _, _ => return ""

def importDeclaration : Parse Node := do
  let start ← here
  expectWord "import"
  match ← peek with
  | .quoted source =>
    advance
    let attrs ← attributes
    semicolon
    formFrom (.importDeclaration "" source) start attrs
  | _ =>
    let phase ← importPhase
    let defaults ← if ← atIdentifier then
        let inner ← here
        let name ← bindingName
        pure [← formFrom .importDefault inner [name]]
      else pure []
    let others ← if defaults.isEmpty || (← eatPunct ",") then importList else pure []
    expectWord "from"
    let source ← quotedText
    let attrs ← attributes
    semicolon
    formFrom (.importDeclaration phase source) start (defaults ++ others ++ attrs)

/-! ### Exports -/

/-- Words that no export may take from its own module. -/
def unexportable (name : String) : Bool :=
  reservedWords.contains name ||
    ["await", "yield", "let", "static", "implements", "interface", "package", "private",
     "protected", "public"].contains name

/-- A specifier as it is written; whether its first name is local shows only after the list. -/
def exportSpecifier : Parse Node := do
  let start ← here
  let first ← moduleName
  let second ← if ← eatWord "as" then moduleName else pure first
  formFrom .exportSpecifier start [first, second]

/-- A specifier whose first name is looked up in this module. -/
def localSpecifier? : Node → Option Node
  | .form .exportSpecifier s [.name .word x, exported] =>
    if unexportable x.name then none
    else some (.form .exportSpecifier s [.name .exported x, exported])
  | _ => none

def exportList (start : Nat) : Parse Node := do
  expectPunct "\x7b"
  let (parts, _) ← commaList "\x7d" exportSpecifier
  if ← eatWord "from" then
    let source ← quotedText
    let attrs ← attributes
    semicolon
    formFrom (.exportNamed source) start (parts ++ attrs)
  else
    semicolon
    match parts.mapM localSpecifier? with
    | some parts => formFrom (.exportNamed "") start parts
    | none => failure

def exportAll (start : Nat) : Parse Node := do
  expectPunct "*"
  let exported ← if ← eatWord "as" then pure [← moduleName] else pure []
  expectWord "from"
  let source ← quotedText
  let attrs ← attributes
  semicolon
  formFrom (.exportAll source) start (exported ++ attrs)

def exportDefault (start : Nat) (decs : List Node) : Parse Node := do
  expectWord "default"
  let inner ← here
  let value ← do
    if (← atWord "function") || (← atAsyncFunction) then
      let async ← eatWord "async"
      functionFrom .declaration async inner false
    else if (← atWord "class") || (← atPunct "@") then
      let more ← decorators
      classFrom true false inner (decs ++ more)
    else
      ensure decs.isEmpty
      let value ← enclosed .assignment
      semicolon
      pure value
  formFrom .exportDefault start [value]

/-- An export, after decorators that belong to the class it exports. -/
def exportDeclaration (start : Nat) (decs : List Node) : Parse Node := do
  expectWord "export"
  match ← peek with
  | .word "default" false => exportDefault start decs
  | .punct "@" =>
    ensure decs.isEmpty
    let inner ← here
    let decs ← decorators
    let value ← classFrom true true inner decs
    formFrom .exportDeclaration start [value]
  | .word "class" false =>
    let inner ← here
    let value ← classFrom true true inner decs
    formFrom .exportDeclaration start [value]
  | .punct "\x7b" => ensure decs.isEmpty; exportList start
  | .punct "*" => ensure decs.isEmpty; exportAll start
  | .word w false =>
    ensure decs.isEmpty
    ensure (["var", "let", "const", "function", "async", "using"].contains w)
    let value ← plainStatement .list
    match value with
    | .form (.declaration _) .. | .region (.function ..) .. =>
      formFrom .exportDeclaration start [value]
    | _ => failure
  | _ => failure

/-! ### Statements at any place -/

/-- Whether `import` at the current token opens a declaration. -/
def atImportDeclaration : Parse Bool := do
  if ← atWord "import" then
    let (next, _) ← peekNext
    return !(next == .punct "(" || next == .punct ".")
  else return false

/-- A statement.  Imports and exports are read wherever they stand. -/
def statement (place : Place) : Parse Node := do
  let start ← here
  if ← atImportDeclaration then return ← importDeclaration
  if ← atWord "export" then return ← exportDeclaration start []
  if ← atPunct "@" then
    let decs ← attempt do
      let decs ← decorators
      ensure (← atWord "export")
      return decs
    match decs with
    | some decs => return ← exportDeclaration start decs
    | none => return ← plainStatement place
  plainStatement place

end FreeNames.Grammar
