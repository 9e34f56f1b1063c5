/-
Tokens of a program text, and the place in the text they are read from.

Whether a slash divides or starts a regular expression, and whether a closing
brace ends a block or a substitution of a template, is known only to the
grammar.  The lexer reads the plain token, and the grammar reads again from the
same place where it wants the other one.
-/
import FreeNames.Text.Letter
import FreeNames.Text.Span

namespace FreeNames

/-- What is left to read, and how many bytes come before it. -/
structure Cursor where
  rest : List Char
  offset : Nat
  deriving Inhabited

namespace Cursor

/-- The cursor at the start of a text. -/
def ofString (s : String) : Cursor := ⟨s.toList, 0⟩

/-- The cursor after `read`, where `rest` is what follows it. -/
def after (c : Cursor) (read rest : List Char) : Cursor := ⟨rest, c.offset + byteLength read⟩

end Cursor

inductive Token
  | eof
  /-- A name or keyword, and whether an escape occurs in its spelling. -/
  | word (name : String) (escaped : Bool)
  /-- `#name` -/
  | privateWord (name : String)
  | numeral (text : String)
  | quoted (text : String)
  | regex (text : String)
  /-- A piece of a template, whether its escapes are sound, and whether it is the last piece. -/
  | piece (text : String) (sound last : Bool)
  | punct (text : String)
  deriving DecidableEq, Repr, Inhabited

/-- The words that are never names. -/
def reservedWords : List String :=
  ["break", "case", "catch", "class", "const", "continue", "debugger", "default", "delete",
   "do", "else", "enum", "export", "extends", "false", "finally", "for", "function", "if",
   "import", "in", "instanceof", "new", "null", "return", "super", "switch", "this", "throw",
   "true", "try", "typeof", "var", "void", "while", "with"]

/-- Line terminators. -/
def isLineBreak (c : Char) : Bool :=
  let n := c.toNat
  n == 10 || n == 13 || n == 0x2028 || n == 0x2029

/-- White space between tokens that does not end a line. -/
def isGap (c : Char) : Bool :=
  let n := c.toNat
  n == 9 || n == 11 || n == 12 || n == 0x20 || n == 0x85 || n == 0xA0 || n == 0x1680
    || (0x2000 ≤ n && n ≤ 0x200B) || n == 0x202F || n == 0x205F || n == 0x3000 || n == 0xFEFF

end FreeNames
