import DeployOptions.Console.Action.Fault
import DeployOptions.Number.Literal
import DeployOptions.Text.Letter

/-! The tokens of the parameter of an action tag. -/
namespace DeployOptions.Console.Action

/-- What a token is. A whole number comes with the count of its decimal digits, and a text with
what is wrong with its content. -/
inductive Lexeme
  | name (s : String)
  | number (imaginary : Bool) (digits : Nat)
  | text (isBytes isFormatted : Bool) (fault : Option Fault)
  | sign (s : String)
  | unclosed (opening : Char)
  | ending
deriving DecidableEq, Repr

/-- A token, and how many brackets are open behind it. -/
structure Token where
  lexeme : Lexeme
  level : Nat
deriving DecidableEq, Repr

private def isHexDigit (c : Char) : Bool :=
  c.isDigit || ('a' ≤ c && c ≤ 'f') || ('A' ≤ c && c ≤ 'F')

private def digits (isDigit : Char → Bool) (fault : List Char → Fault) :
    List Char → Except Fault (List Char)
  | [] => .ok []
  | c :: r =>
    if isDigit c then digits isDigit fault r
    else if c = '_' then
      if r.head?.any isDigit then digits isDigit fault r else .error (fault r)
    else .ok (c :: r)

/-- Whether a word that may follow a number at once begins a text. -/
private def beginsWord (s : List Char) : Bool :=
  ["and", "else", "for", "if", "in", "is", "or", "not"].any fun w => w.toList.isPrefixOf s

/-- A number ends here, unless a name would begin. -/
private def numberEnd (form : NumberForm) (s : List Char) : Except Fault (List Char) :=
  let goesOn (c : Char) : Bool := c.isAlphanum || c = '_' || 128 ≤ c.toNat
  if s.head?.any goesOn && !beginsWord s then .error (.invalidNumber form) else .ok s

private def based (form : NumberForm) (isDigit : Char → Bool) (s : List Char) :
    Except Fault (List Char) := do
  let fault : List Char → Fault
    | c :: _ =>
      if c.isDigit && form != .hexadecimal then .invalidDigit c form else .invalidNumber form
    | [] => .invalidNumber form
  let first := if s.head? = some '_' then s.drop 1 else s
  if !first.head?.any isDigit then throw (fault first)
  let rest ← digits isDigit fault first
  if rest.head?.any Char.isDigit then throw (fault rest)
  numberEnd form rest

private def decimals (s : List Char) : Except Fault (List Char) :=
  digits Char.isDigit (fun _ => .invalidNumber .decimal) s

private def exponent (s : List Char) : Except Fault (List Char) :=
  match s with
  | 'e' :: r | 'E' :: r =>
    let signed := r.head? = some '+' || r.head? = some '-'
    let unsigned := if signed then r.drop 1 else r
    if unsigned.head?.any Char.isDigit then decimals unsigned
    else if signed then .error (.invalidNumber .decimal)
    else .ok s
  | s => .ok s

private def number (s : List Char) : Except Fault (Lexeme × List Char) := do
  match s with
  | '0' :: 'x' :: r | '0' :: 'X' :: r => return (.number false 0, ← based .hexadecimal isHexDigit r)
  | '0' :: 'o' :: r | '0' :: 'O' :: r =>
    return (.number false 0, ← based .octal (fun c => '0' ≤ c && c ≤ '7') r)
  | '0' :: 'b' :: r | '0' :: 'B' :: r =>
    return (.number false 0, ← based .binary (fun c => c = '0' || c = '1') r)
  | s =>
    let whole ← decimals s
    let fraction ← match whole with
      | '.' :: r => if r.head?.any Char.isDigit then decimals r else pure r
      | r => pure r
    let rest ← exponent fraction
    match rest with
    | 'j' :: r | 'J' :: r => return (.number true 0, ← numberEnd .imaginary r)
    | rest =>
      let written := s.take (s.length - whole.length)
      let isWhole := rest.length = whole.length
      if isWhole && s.head? = some '0' && written.any fun c => c ≠ '0' && c ≠ '_' then
        throw .leadingZeros
      let count := (written.filter Char.isDigit).length
      return (.number false (if isWhole then count else 0), ← numberEnd .decimal rest)

/-- A text within quotes, what follows it, and the line it ends on. -/
private def closing (quote : Char) (long : Bool) (line : Nat) (done : List Char) :
    List Char → Except Fault (List Char × List Char × Nat)
  | [] => .error (.unterminated long line)
  | '\\' :: c :: r =>
    closing quote long (if c = '\n' then line + 1 else line) (c :: '\\' :: done) r
  | c :: r =>
    if c = quote && !long then .ok (done.reverse, r, line)
    else if c = quote && r.take 2 = [quote, quote] then .ok (done.reverse, r.drop 2, line)
    else if c = '\n' && !long then .error (.unterminated long line)
    else closing quote long (if c = '\n' then line + 1 else line) (c :: done) r

private def byteFault? (position : Nat) : List Char → Option Fault
  | '\\' :: 'x' :: r =>
    if (r.take 2).length = 2 && (r.take 2).all isHexDigit then byteFault? (position + 2) r
    else some (.byteEscape position)
  | '\\' :: _ :: r => byteFault? (position + 2) r
  | _ :: r => byteFault? (position + 1) r
  | [] => none

/-- What is wrong with an escape whose letter stands before `s`. -/
private def escapeFault? (position : Nat) (letter : Char) (s : List Char) : Option Fault :=
  let numbered (count : Nat) (kind : EscapeKind) : Option Fault :=
    let digits := (s.take count).takeWhile isHexDigit
    let fault (kind : EscapeKind) : Fault := .escape position (position + 1 + digits.length) kind
    if digits.length < count then some (fault kind)
    else if count = 8 && 0x10FFFF < (Literal.natural? 16 digits).getD 0 then some (fault .tooLarge)
    else none
  match letter, s with
  | 'x', _ => numbered 2 .two
  | 'u', _ => numbered 4 .four
  | 'U', _ => numbered 8 .eight
  | 'N', '\x7b' :: r =>
    let name := r.takeWhile (· ≠ '\x7d')
    if name.isEmpty || name.length = r.length then
      some (.escape position (position + 2 + name.length) .named)
    else none
  | 'N', _ => some (.escape position (position + 1) .named)
  | _, _ => none

/-- The first faulty escape in a text. Outside ASCII a character counts as the escape that stands
for it, and so does a backslash before it. -/
private def textFault? (position : Nat) : List Char → Option Fault
  | '\\' :: c :: r =>
    if c.toNat < 128 then (escapeFault? position c r).or (textFault? (position + 2) r)
    else textFault? (position + 16) r
  | c :: r => textFault? (position + if c.toNat < 128 then 1 else 10) r
  | [] => none

private def quoted (letters : String) (line : Nat) (quote : Char) (s : List Char) :
    Except Fault (Lexeme × List Char × Nat) := do
  let long := s.take 2 = [quote, quote]
  let (content, rest, line) ←
    if s.head? = some quote && !long then pure ([], s.drop 1, line)
    else closing quote long line [] (if long then s.drop 2 else s)
  let isBytes := letters.contains 'b'
  let isFormatted := letters.contains 'f'
  let fault :=
    if isBytes && content.any (128 ≤ ·.toNat) then some .foreignBytes
    else if letters.contains 'r' || isFormatted then none
    else if isBytes then byteFault? 0 content
    else textFault? 0 content
  return (.text isBytes isFormatted fault, rest, line)

private def textLetters : List String := ["b", "br", "rb", "u", "r", "f", "fr", "rf"]

private def signs : List String := [
  "**=", "//=", "<<=", ">>=", "...", "!=", "%=", "&=", "**", "*=", "+=", "-=", "->", "//", "/=",
  ":=", "<<", "<=", "<>", "==", ">=", ">>", "@=", "^=", "|="]

private def partner : Char → Char
  | '(' => ')'
  | c => .ofNat (c.toNat + 2)

def mostOpen : Nat := 200

/-- Reads tokens on `line`, where `opened` are the open brackets and their lines, the latest
first. -/
private def tokensFrom (line : Nat) (opened : List (Char × Nat)) :
    Nat → List Char → Except Fault (List Token)
  | 0, _ => .ok []
  | _, [] => .ok (opened.head?.toList.map fun b => ⟨.unclosed b.1, opened.length⟩)
  | fuel + 1, c :: r => do
    let token (l : Lexeme) : Token := ⟨l, opened.length⟩
    if c = ' ' || c = '\t' || c = '\x0c' then tokensFrom line opened fuel r
    else if c = '#' then tokensFrom line opened fuel (r.dropWhile (· ≠ '\n'))
    else if c = '\n' then
      let rest ← tokensFrom (line + 1) opened fuel r
      return if opened.isEmpty then token (.sign "\n") :: rest else rest
    else if c = '\\' then
      match r with
      | [] | ['\n'] =>
        match opened with
        | [] => throw .unexpectedEnd
        | (b, _) :: _ => throw (.neverClosed b)
      | '\n' :: r => tokensFrom (line + 1) opened fuel r
      | _ => throw .continuation
    else if c.isAlpha || c = '_' || 128 ≤ c.toNat then
      let word := (c :: r).takeWhile fun c => c.isAlphanum || c = '_' || 128 ≤ c.toNat
      let rest := (c :: r).drop word.length
      let letters := (String.ofList word).toLower
      match rest with
      | q :: after =>
        if (q = '"' || q = '\'') && textLetters.contains letters then
          let (l, rest, line) ← quoted letters line q after
          return token l :: (← tokensFrom line opened fuel rest)
      | [] => pure ()
      match word.find? fun c => !Text.isNameCharacter c with
      | some c => throw (.invalidCharacter c)
      | none => return token (.name (String.ofList word)) :: (← tokensFrom line opened fuel rest)
    else if c.isDigit || (c = '.' && r.head?.any Char.isDigit) then
      let (l, rest) ← number (c :: r)
      return token l :: (← tokensFrom line opened fuel rest)
    else if c = '"' || c = '\'' then
      let (l, rest, line) ← quoted "" line c r
      return token l :: (← tokensFrom line opened fuel rest)
    else if c = '(' || c = '[' || c = '{' then
      if mostOpen ≤ opened.length then throw .tooDeep
      return ⟨.sign c.toString, opened.length + 1⟩ ::
        (← tokensFrom line ((c, line) :: opened) fuel r)
    else if c = ')' || c = ']' || c = '}' then
      match opened with
      | [] => throw (.unmatched c)
      | (b, place) :: opened =>
        if partner b ≠ c then
          throw (.mismatched c b (if place = line then none else some place))
        return ⟨.sign c.toString, opened.length⟩ :: (← tokensFrom line opened fuel r)
    else if !Text.isPrintable c then throw (.invalidCharacter c)
    else
      let s := (signs.find? fun s => s.toList.isPrefixOf (c :: r)).getD c.toString
      return token (.sign s) :: (← tokensFrom line opened fuel ((c :: r).drop s.length))

private def withLineFeeds : List Char → List Char
  | '\r' :: '\n' :: r => '\n' :: withLineFeeds r
  | '\r' :: r => '\n' :: withLineFeeds r
  | c :: r => c :: withLineFeeds r
  | [] => []

/-- The tokens of a text. A bracket that stays open is the last one. -/
def tokens (s : List Char) : Except Fault (List Token) :=
  let s := withLineFeeds s
  tokensFrom 1 [] (s.length + 1) s

end DeployOptions.Console.Action
