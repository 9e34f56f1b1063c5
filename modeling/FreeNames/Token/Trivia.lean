/-
What stands between two tokens: white space, line ends and comments.

A comment is kept by its text without delimiters.  Scripts have two more
comments, from an opening `<!--` to the end of the line and from `-->` at the
start of a line to its end; of these only the first two characters are dropped.
-/
import FreeNames.Token.Basic

namespace FreeNames

/-- The gap in front of a token. -/
structure Trivia where
  /-- Whether a line ends in the gap, or the gap is at the start of the text. -/
  newline : Bool
  /-- The texts of its comments, last one first. -/
  comments : List String
  cursor : Cursor
  deriving Inhabited

namespace Trivia

/-- The text of a block comment up to its end, and what follows the comment. -/
def block : List Char → Option (List Char × List Char)
  | '*' :: '/' :: r => some ([], r)
  | c :: r => (block r).map fun (text, rest) => (c :: text, rest)
  | [] => none

/-- The gap after a comment that runs to the end of its line; `opener` is not in its text. -/
def line (t : Trivia) (opener rest : List Char) : Trivia :=
  let text := rest.takeWhile (!isLineBreak ·)
  { t with
    comments := String.ofList text :: t.comments
    cursor := t.cursor.after (opener ++ text) (rest.dropWhile (!isLineBreak ·)) }

/-- Extends the gap by one character or comment; `none` if the gap ends, and an error if a
block comment does not. -/
def extend (script : Bool) (t : Trivia) : Except Unit (Option Trivia) :=
  match t.cursor.rest with
  | '/' :: '/' :: r => .ok (t.line ['/', '/'] r)
  | '/' :: '*' :: r =>
    match block r with
    | none => .error ()
    | some (text, rest) => .ok <| some
      { newline := t.newline || text.any isLineBreak
        comments := String.ofList text :: t.comments
        cursor := t.cursor.after ('/' :: '*' :: text ++ ['*', '/']) rest }
  | '<' :: '!' :: '-' :: '-' :: r =>
    .ok <| if script then some (t.line ['<', '!'] ('-' :: '-' :: r)) else none
  | '-' :: '-' :: '>' :: r =>
    .ok <| if script && t.newline then some (t.line ['-', '-'] ('>' :: r)) else none
  | c :: r =>
    if isLineBreak c then .ok <| some { t with newline := true, cursor := t.cursor.after [c] r }
    else if isGap c then .ok <| some { t with cursor := t.cursor.after [c] r }
    else .ok none
  | [] => .ok none

/-- The whole gap from here on.  Every step reads a character, so the length of the text is
fuel enough. -/
def skip (script : Bool) : Nat → Trivia → Option Trivia
  | 0, t => some t
  | fuel + 1, t =>
    match t.extend script with
    | .error _ => none
    | .ok none => some t
    | .ok (some t') => skip script fuel t'

end Trivia

end FreeNames
