import DeployOptions.Yaml.Cursor

/-! Scalars between quotes. A line break inside reads as one space, and a run of `n + 1` breaks as
`n` breaks. -/
namespace DeployOptions.Yaml.Quoted

/-- What a run of line breaks reads as: the first one counts only if it is a separator character. -/
def folded (first : Char) (breaks : List Char) : List Char :=
  if first ≠ '\n' then first :: breaks else if breaks.isEmpty then [' '] else breaks

/-- Skips the blanks that a line begins with and collects the breaks of lines that hold nothing
else. A document mark may not stand there. -/
private def leadingBreaks (start : Position) : Nat → Cursor → Except Fault (List Char × Cursor)
  | 0, c => .ok ([], c)
  | budget + 1, c =>
    if c.startsWithDocumentMark then .error (c.fault .quoted start .documentSeparator)
    else
      let c := c.skipWhile isBlank
      match c.lineBreak? with
      | none => .ok ([], c)
      | some (b, c) => (leadingBreaks start budget c).map fun (bs, c) => (b :: bs, c)

def breaks (start : Position) (c : Cursor) : Except Fault (List Char × Cursor) :=
  leadingBreaks start (c.rest.length + 1) c

def escape? : Char → Option Char
  | '0' => some '\x00'
  | 'a' => some '\x07'
  | 'b' => some '\x08'
  | 't' | '\t' => some '\t'
  | 'n' => some '\n'
  | 'v' => some '\x0b'
  | 'f' => some '\x0c'
  | 'r' => some '\r'
  | 'e' => some '\x1b'
  | ' ' => some ' '
  | '"' => some '"'
  | '\\' => some '\\'
  | '/' => some '/'
  | 'N' => some '\x85'
  | '_' => some '\xa0'
  | 'L' => some '\u2028'
  | 'P' => some '\u2029'
  | _ => none

def codeLength? : Char → Option Nat
  | 'x' => some 2
  | 'u' => some 4
  | 'U' => some 8
  | _ => none

def hexValue (digits : List Char) : Nat :=
  digits.foldl (fun n c =>
    n * 16 + (if c.isDigit then c.toNat - 48 else c.toLower.toNat - 87)) 0

private def code (start : Position) (length : Nat) (c : Cursor) : Except Fault (Nat × Cursor) :=
  let digits := (c.rest.take length).takeWhile isHexDigit
  if digits.length = length then .ok (hexValue digits, c.skip length)
  else
    .error (c.fault .doubleQuoted start (.expectedCharacter
      ("escape sequence of " ++ toString length ++ " hexadecimal numbers")
      (c.peekAt digits.length)))

/-- The character for a code. Halves of a pair are not put together. -/
private def character (n : Nat) : Except Fault Char :=
  if 0x80000000 ≤ n then .error (.unreadable .codeTooLarge)
  else if 0x110000 ≤ n then .error (.unreadable .noSuchCharacter)
  else .ok (Text.characterOf n)

private def escaped (start : Position) (c : Cursor) : Except Fault (List Char × Cursor) :=
  match c.peek with
  | none => .error (c.fault .doubleQuoted start (.unknownEscape none))
  | some x =>
    match escape? x, codeLength? x, c.lineBreak? with
    | some y, _, _ => .ok ([y], c.skip 1)
    | none, some length, _ => do
      let (n, c) ← code start length (c.skip 1)
      return ([← character n], c)
    | none, none, some (_, c) => breaks start c
    | none, none, none => .error (c.fault .doubleQuoted start (.unknownEscape (some x)))

/-- Reads up to the closing quote and over it. Inside single quotes a quote is written twice; inside
double quotes a backslash begins an escape. -/
private def inside (quote : Char) (start : Position) :
    Nat → Cursor → Except Fault (List Char × Cursor)
  | 0, c => .error (c.fault .quoted start .endOfText)
  | budget + 1, c =>
    let more (read : List Char) (c : Cursor) : Except Fault (List Char × Cursor) :=
      (inside quote start budget c).map fun (t, c) => (read ++ t, c)
    let (blanks, d) := c.span isBlank
    match d.rest, d.lineBreak? with
    | [], _ => .error (d.fault .quoted start .endOfText)
    | _ :: _, some (b, d) => do
      let (bs, d) ← breaks start d
      more (folded b bs) d
    | x :: r, none =>
      if !blanks.isEmpty then more blanks d
      else if x = quote then
        if quote = '\'' ∧ r.head? = some '\'' then more ['\''] (c.skip 2)
        else .ok ([], c.skip 1)
      else if x = '\\' ∧ quote = '"' then do
        let (t, d) ← escaped start (c.skip 1)
        more t d
      else more [x] (c.skip 1)

def scan (quote : Char) (c : Cursor) : Except Fault (List Char × Cursor) :=
  inside quote c.position (c.rest.length + 1) (c.skip 1)

end DeployOptions.Yaml.Quoted
