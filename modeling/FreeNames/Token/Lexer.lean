/-
Reading one token.

Every reader takes the characters at the cursor and returns those it read and
those it left, so that nothing of the text is lost on the way.
-/
import FreeNames.Token.Trivia

namespace FreeNames.Lexer

/-- What a reader took, and what it left. -/
abbrev Taken := List Char × List Char

/-! ### Escapes -/

/-- The value of a hexadecimal digit. -/
def hexValue (c : Char) : Option Nat :=
  if '0' ≤ c && c ≤ '9' then some (c.toNat - '0'.toNat)
  else if 'a' ≤ c && c ≤ 'f' then some (c.toNat - 'a'.toNat + 10)
  else if 'A' ≤ c && c ≤ 'F' then some (c.toNat - 'A'.toNat + 10)
  else none

def isHex (c : Char) : Bool := (hexValue c).isSome

/-- The number the hexadecimal digits spell. -/
def hexNumber (cs : List Char) : Nat :=
  cs.foldl (fun n c => n * 16 + (hexValue c).getD 0) 0

/-- Whether the text starts with `n` hexadecimal digits. -/
def startsWithHex (n : Nat) (cs : List Char) : Bool :=
  (cs.take n).length == n && (cs.take n).all isHex

/-- Whether the text starts with the inside and the closing brace of `\u{…}`. -/
def startsWithCodePoint (cs : List Char) : Bool :=
  let digits := cs.takeWhile isHex
  !digits.isEmpty && hexNumber digits ≤ 0x10FFFF && (cs.dropWhile isHex).head? == some '\x7d'

/-- Whether every escape in a literal is sound.  In a template no digit may be escaped but a
zero that no digit follows. -/
def escapesSound (template : Bool) : List Char → Bool
  | '\\' :: 'x' :: r => startsWithHex 2 r && escapesSound template r
  | '\\' :: 'u' :: '\x7b' :: r => startsWithCodePoint r && escapesSound template r
  | '\\' :: 'u' :: r => startsWithHex 4 r && escapesSound template r
  | '\\' :: '0' :: r =>
    !(template && (r.head?.any Char.isDigit)) && escapesSound template r
  | '\\' :: c :: r => !(template && c.isDigit) && escapesSound template r
  | _ :: r => escapesSound template r
  | [] => true

/-! ### Literals -/

/-- A string literal from after its opening quote to its closing quote. -/
def quotedBody (quote : Char) : List Char → Option Taken
  | '\\' :: '\r' :: '\n' :: r =>
    (quotedBody quote r).map fun (t, s) => ('\\' :: '\r' :: '\n' :: t, s)
  | '\\' :: c :: r => (quotedBody quote r).map fun (t, s) => ('\\' :: c :: t, s)
  | c :: r =>
    if c == quote then some ([c], r)
    else if c == '\n' || c == '\r' || c == '\\' then none
    else (quotedBody quote r).map fun (t, s) => (c :: t, s)
  | [] => none

/-- A piece of a template: its text, whether the template ends with it, and what follows. -/
def pieceBody : List Char → Option (List Char × Bool × List Char)
  | '\x60' :: r => some ([], true, r)
  | '$' :: '\x7b' :: r => some ([], false, r)
  | '\\' :: c :: r => (pieceBody r).map fun (t, l, s) => ('\\' :: c :: t, l, s)
  | c :: r => (pieceBody r).map fun (t, l, s) => (c :: t, l, s)
  | [] => none

/-- A regular expression from after its opening slash to its closing slash.  A slash between
brackets does not close it. -/
def regexBody (inClass : Bool) : List Char → Option Taken
  | '\\' :: c :: r =>
    if isLineBreak c then none
    else (regexBody inClass r).map fun (t, s) => ('\\' :: c :: t, s)
  | '/' :: r =>
    if inClass then (regexBody true r).map fun (t, s) => ('/' :: t, s) else some (['/'], r)
  | c :: r =>
    if isLineBreak c then none
    else
      (regexBody (if c == '[' then true else if c == ']' then false else inClass) r).map
        fun (t, s) => (c :: t, s)
  | [] => none

/-- The flags of a regular expression are letters of this list, each at most once. -/
def regexFlags : List Char := ['d', 'g', 'i', 'm', 's', 'u', 'v', 'y']

/-- Digits after the first, with single low lines between them. -/
def moreDigits (p : Char → Bool) : List Char → Option Taken
  | '_' :: c :: r =>
    if p c then (moreDigits p r).map fun (t, s) => ('_' :: c :: t, s) else none
  | c :: r =>
    if p c then (moreDigits p r).map fun (t, s) => (c :: t, s)
    else if c == '_' then none
    else some ([], c :: r)
  | [] => some ([], [])

/-- One or more digits. -/
def digits (p : Char → Bool) : List Char → Option Taken
  | c :: r => if p c then (moreDigits p r).map fun (t, s) => (c :: t, s) else none
  | [] => none

/-- Digits, if there are any. -/
def optionalDigits (cs : List Char) : Option Taken :=
  if cs.head?.any Char.isDigit then digits Char.isDigit cs else some ([], cs)

/-- The exponent of a decimal number, if there is one. -/
def exponent : List Char → Option Taken
  | c :: r =>
    if c == 'e' || c == 'E' then
      match r with
      | '+' :: r' => (digits Char.isDigit r').map fun (t, s) => (c :: '+' :: t, s)
      | '-' :: r' => (digits Char.isDigit r').map fun (t, s) => (c :: '-' :: t, s)
      | _ => (digits Char.isDigit r).map fun (t, s) => (c :: t, s)
    else some ([], c :: r)
  | [] => some ([], [])

/-- What may follow the whole part of a decimal number: a fraction and an exponent, or the mark
of a big integer. -/
def decimalTail : List Char → Option Taken
  | '.' :: r => do
    let (fraction, r) ← optionalDigits r
    let (power, r) ← exponent r
    pure ('.' :: fraction ++ power, r)
  | 'n' :: r => some (['n'], r)
  | r => exponent r

/-- A number in another base, after the letter that names the base. -/
def based (p : Char → Bool) (cs : List Char) : Option Taken := do
  let (t, r) ← digits p cs
  match r with
  | 'n' :: r' => pure (t ++ ['n'], r')
  | _ => pure (t, r)

/-- A number that starts with a zero and another digit: octal, unless an eight or a nine
occurs in it, and then it may have a fraction and an exponent. -/
def zeroLed (cs : List Char) : Option Taken :=
  let t := cs.takeWhile Char.isDigit
  let r := cs.dropWhile Char.isDigit
  if t.any (fun c => c == '8' || c == '9') && r.head? != some 'n' then
    (decimalTail r).map fun (u, s) => (t ++ u, s)
  else some (t, r)

/-- A number, which no name and no digit may follow at once. -/
def number (cs : List Char) : Option Taken := do
  let (t, r) ← match cs with
    | '0' :: c :: r =>
      if c == 'x' || c == 'X' then (based isHex r).map fun (t, s) => ('0' :: c :: t, s)
      else if c == 'o' || c == 'O' then
        (based (fun d => '0' ≤ d && d ≤ '7') r).map fun (t, s) => ('0' :: c :: t, s)
      else if c == 'b' || c == 'B' then
        (based (fun d => d == '0' || d == '1') r).map fun (t, s) => ('0' :: c :: t, s)
      else if c.isDigit then (zeroLed (c :: r)).map fun (t, s) => ('0' :: t, s)
      else (decimalTail (c :: r)).map fun (t, s) => ('0' :: t, s)
    | '.' :: r => do
      let (fraction, r) ← digits Char.isDigit r
      let (power, r) ← exponent r
      pure ('.' :: fraction ++ power, r)
    | _ => do
      let (whole, r) ← digits Char.isDigit cs
      let (tail, r) ← decimalTail r
      pure (whole ++ tail, r)
  if r.head?.any (fun c => Letter.isStart c || c.isDigit) then none else pure (t, r)

/-! ### Names -/

/-- The character an escape in a name stands for: what was read, the character, and the rest. -/
def nameEscape : List Char → Option (List Char × Char × List Char)
  | '\\' :: 'u' :: '\x7b' :: r =>
    let ds := r.takeWhile isHex
    if startsWithCodePoint r then
      some ('\\' :: 'u' :: '\x7b' :: ds ++ ['\x7d'], Char.ofNat (hexNumber ds),
        (r.dropWhile isHex).drop 1)
    else none
  | '\\' :: 'u' :: r =>
    if startsWithHex 4 r then
      some ('\\' :: 'u' :: r.take 4, Char.ofNat (hexNumber (r.take 4)), r.drop 4)
    else none
  | _ => none

/-- The letters of a name that satisfies `p` first and `Letter.isPart` from then on: what was
read, the name, whether an escape occurs, and the rest.  Fuel is the length of the text. -/
def nameLetters (p : Char → Bool) :
    Nat → List Char → Option (List Char × List Char × Bool × List Char)
  | 0, cs => some ([], [], false, cs)
  | fuel + 1, cs =>
    match cs with
    | '\\' :: _ => do
      let (t, c, r) ← nameEscape cs
      if p c then
        let (t', name, _, s) ← nameLetters Letter.isPart fuel r
        pure (t ++ t', c :: name, true, s)
      else none
    | c :: r =>
      if p c then do
        let (t, name, e, s) ← nameLetters Letter.isPart fuel r
        pure (c :: t, c :: name, e, s)
      else some ([], [], false, cs)
    | [] => some ([], [], false, [])

/-! ### Punctuators -/

/-- The punctuators, longer ones first. -/
def punctuators : List String :=
  [">>>=", "...", "===", "!==", "**=", "<<=", ">>=", ">>>", "&&=", "||=", "??=",
   "=>", "==", "!=", "<=", ">=", "&&", "||", "??", "?.", "++", "--", "+=", "-=", "*=", "/=",
   "%=", "&=", "|=", "^=", "<<", ">>", "**",
   "\x7b", "\x7d", "(", ")", "[", "]", ";", ",", "<", ">", "+", "-", "*", "/", "%", "&", "|",
   "^", "!", "~", "?", ":", "=", ".", "@"]

/-- The longest punctuator at the start of the text.  A question mark before `.5` stands alone. -/
def punctuator (cs : List Char) : Option (String × List Char) :=
  let found := punctuators.find? fun p => p.toList.isPrefixOf cs
  match found with
  | some "?." =>
    if (cs.drop 2).head?.any Char.isDigit then some ("?", cs.drop 1) else some ("?.", cs.drop 2)
  | some p => some (p, cs.drop p.length)
  | none => none

/-! ### Tokens -/

/-- The token at the cursor, and the cursor after it. -/
def token (fuel : Nat) (c : Cursor) : Option (Token × Cursor) :=
  match c.rest with
  | [] => some (.eof, c)
  | '\x60' :: r => do
    let (t, last, s) ← pieceBody r
    let close := if last then ['\x60'] else ['$', '\x7b']
    pure (.piece (String.ofList t) (escapesSound true t) last, c.after ('\x60' :: t ++ close) s)
  | '#' :: r => do
    let (t, name, _, s) ← nameLetters Letter.isStart fuel r
    if name.isEmpty then none
    else pure (.privateWord (String.ofList name), c.after ('#' :: t) s)
  | a :: r =>
    if a == '"' || a == '\x27' then do
      let (t, s) ← quotedBody a r
      if escapesSound false t then pure (.quoted (String.ofList (a :: t)), c.after (a :: t) s)
      else none
    else if a.isDigit || (a == '.' && r.head?.any Char.isDigit) then do
      let (t, s) ← number c.rest
      pure (.numeral (String.ofList t), c.after t s)
    else if a == '\\' || Letter.isStart a then do
      let (t, name, escaped, s) ← nameLetters Letter.isStart fuel c.rest
      if name.isEmpty then none
      else pure (.word (String.ofList name) escaped, c.after t s)
    else do
      let (p, s) ← punctuator c.rest
      pure (.punct p, c.after p.toList s)

/-- The regular expression whose opening slash is at the cursor. -/
def regex (c : Cursor) : Option (Token × Cursor) :=
  match c.rest with
  | '/' :: r => do
    let (t, s) ← regexBody false r
    let flags := s.takeWhile Letter.isPart
    if flags.all (regexFlags.contains ·) && flags.Nodup then
      let read := '/' :: t ++ flags
      pure (.regex (String.ofList read), c.after read (s.dropWhile Letter.isPart))
    else none
  | _ => none

/-- The next piece of a template, from after the brace that closes a substitution. -/
def nextPiece (c : Cursor) : Option (Token × Cursor) := do
  let (t, last, s) ← pieceBody c.rest
  let close := if last then ['\x60'] else ['$', '\x7b']
  pure (.piece (String.ofList t) (escapesSound true t) last, c.after (t ++ close) s)

end FreeNames.Lexer
