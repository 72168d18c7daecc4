import DeployOptions.Yaml.Token.Plain
import DeployOptions.Yaml.Token.Property

/-! The tokens of a text, in order, up to its end or the first fault.

A token may turn out to begin a key only when the colon after it is met. So tokens wait until that
is settled, and those that still wait when a fault is met are not part of the stream. -/
namespace DeployOptions.Yaml

/-- A token that begins a key if a colon follows on its line. -/
structure PossibleKey where
  /-- The number of the token in the stream. -/
  number : Nat
  /-- Whether the text is malformed if no colon follows. -/
  required : Bool
  position : Position
deriving Repr

structure Lexer where
  cursor : Cursor
  /-- How many tokens are settled. -/
  settled : Nat := 0
  waiting : List Token := []
  /-- How many brackets are open. -/
  depth : Nat := 0
  /-- The column of the innermost block, -1 outside of all. -/
  indent : Int := -1
  /-- The columns of the blocks around it, from the inside out. -/
  outer : List Int := []
  mayStartKey : Bool := true
  /-- The possible keys, at most one for each depth. -/
  possible : List (Nat × PossibleKey) := []
  isDone : Bool := false

namespace Lexer

def column (l : Lexer) : Int := l.cursor.column

private def inFlow (l : Lexer) : Bool := l.depth ≠ 0

private def dropKey (l : Lexer) : Except Fault Lexer :=
  match l.possible.lookup l.depth with
  | none => .ok l
  | some k =>
    if k.required then .error (l.cursor.fault .simpleKey k.position .colonMissing)
    else .ok { l with possible := l.possible.filter (·.1 ≠ l.depth) }

private def noteKey (l : Lexer) : Except Fault Lexer :=
  if l.mayStartKey then do
    let l ← l.dropKey
    let key : PossibleKey :=
      ⟨l.settled + l.waiting.length, !l.inFlow && l.indent = l.column, l.cursor.position⟩
    return { l with possible := (l.depth, key) :: l.possible }
  else return l

/-- The longest distance between a key and its colon. -/
def longestKey : Nat := 1024

/-- Gives up the possible keys on earlier lines and those that are too long. -/
private def dropStale (l : Lexer) : Except Fault Lexer :=
  let here := l.cursor.position
  let isStale (k : PossibleKey) : Bool :=
    k.position.line ≠ here.line || longestKey < here.index - k.position.index
  match l.possible.find? fun e => e.2.required && isStale e.2 with
  | some (_, k) => .error (l.cursor.fault .simpleKey k.position .colonMissing)
  | none => .ok { l with possible := l.possible.filter fun e => !isStale e.2 }

private def push (kind : TokenKind) (start stop : Position) (l : Lexer) : Lexer :=
  { l with waiting := l.waiting ++ [⟨kind, start, stop⟩] }

private def pushHere (kind : TokenKind) (l : Lexer) : Lexer :=
  l.push kind l.cursor.position l.cursor.position

private def take (kind : TokenKind) (length : Nat) (l : Lexer) : Lexer :=
  let d := l.cursor.skip length
  { l.push kind l.cursor.position d.position with cursor := d }

/-- How many blocks end before a column, and the blocks that stay open. -/
private def closed (column indent : Int) : List Int → Nat × Int × List Int
  | [] => (0, indent, [])
  | o :: r =>
    if column < indent then
      let (n, rest) := closed column o r
      (n + 1, rest)
    else (0, indent, o :: r)

/-- Ends the blocks that are deeper than a column. Inside brackets columns mean nothing. -/
private def closeBlocks (column : Int) (l : Lexer) : Lexer :=
  if l.inFlow then l
  else
    let (n, indent, outer) := closed column l.indent l.outer
    let ends : Token := ⟨.blockEnd, l.cursor.position, l.cursor.position⟩
    { l with waiting := l.waiting ++ List.replicate n ends, indent, outer }

private def opensBlock (column : Int) (l : Lexer) : Bool := l.indent < column

private def enterBlock (column : Int) (l : Lexer) : Lexer :=
  { l with indent := column, outer := l.indent :: l.outer }

private def skipFiller : Nat → Lexer → Lexer
  | 0, l => l
  | budget + 1, l =>
    let c := l.cursor.skipSpaces.skipComment
    match c.lineBreak? with
    | none => { l with cursor := c }
    | some (_, c) =>
      skipFiller budget { l with cursor := c, mayStartKey := l.mayStartKey || !l.inFlow }

private def skipToToken (l : Lexer) : Lexer :=
  let l := if l.cursor.position.index = 0 ∧ l.cursor.peek = some '\uFEFF' then
      { l with cursor := l.cursor.skip 1 }
    else l
  skipFiller (l.cursor.rest.length + 1) l

private def finish (l : Lexer) : Except Fault Lexer := do
  let l ← (l.closeBlocks (-1)).dropKey
  return { l.pushHere .streamEnd with mayStartKey := false, possible := [], isDone := true }

private def readDirective (l : Lexer) : Except Fault Lexer := do
  let l ← (l.closeBlocks (-1)).dropKey
  let (token, c) ← Directive.scan l.cursor
  return { l with cursor := c, mayStartKey := false, waiting := l.waiting ++ [token] }

private def readDocumentMark (kind : TokenKind) (l : Lexer) : Except Fault Lexer := do
  let l ← (l.closeBlocks (-1)).dropKey
  return { l.take kind 3 with mayStartKey := false }

private def readOpening (kind : TokenKind) (l : Lexer) : Except Fault Lexer := do
  let l ← l.noteKey
  return { l.take kind 1 with depth := l.depth + 1, mayStartKey := true }

private def readClosing (kind : TokenKind) (l : Lexer) : Except Fault Lexer := do
  let l ← l.dropKey
  return { l.take kind 1 with depth := l.depth - 1, mayStartKey := false }

private def readFlowEntry (l : Lexer) : Except Fault Lexer := do
  let l ← l.dropKey
  return { l.take .flowEntry 1 with mayStartKey := true }

/-- Begins a block at the cursor, unless it goes on with one; outside brackets this needs a place
where a key may stand. -/
private def beginBlock (kind : TokenKind) (what : String) (l : Lexer) : Except Fault Lexer :=
  if l.inFlow then .ok l
  else if !l.mayStartKey then .error (.malformed none (.notAllowed what) l.cursor.position)
  else if l.opensBlock l.column then .ok ((l.enterBlock l.column).pushHere kind)
  else .ok l

private def readBlockEntry (l : Lexer) : Except Fault Lexer := do
  let l ← l.beginBlock .blockSequenceStart "sequence entries"
  let l ← l.dropKey
  return { l.take .blockEntry 1 with mayStartKey := true }

private def readKey (l : Lexer) : Except Fault Lexer := do
  let l ← l.beginBlock .blockMappingStart "mapping keys"
  let l ← l.dropKey
  return { l.take .key 1 with mayStartKey := !l.inFlow }

/-- Reads a colon. A possible key at this depth has turned out to be one. -/
private def readValue (l : Lexer) : Except Fault Lexer :=
  match l.possible.lookup l.depth with
  | some k =>
    let tokens (kinds : List TokenKind) : List Token := kinds.map (⟨·, k.position, k.position⟩)
    let isNew := !l.inFlow && l.opensBlock k.position.column
    let kinds := if isNew then [TokenKind.blockMappingStart, .key] else [.key]
    let l := if isNew then l.enterBlock k.position.column else l
    let n := k.number - l.settled
    let l := { l with
      possible := l.possible.filter (·.1 ≠ l.depth)
      waiting := l.waiting.take n ++ tokens kinds ++ l.waiting.drop n }
    .ok { l.take .value 1 with mayStartKey := false }
  | none => do
    let l ← l.beginBlock .blockMappingStart "mapping values"
    let l ← l.dropKey
    return { l.take .value 1 with mayStartKey := !l.inFlow }

private def readProperty (scan : Cursor → Except Fault (TokenKind × Cursor)) (l : Lexer) :
    Except Fault Lexer := do
  let l ← l.noteKey
  let (kind, c) ← scan l.cursor
  return { l.push kind l.cursor.position c.position with cursor := c, mayStartKey := false }

private def readBlockScalar (isFolded : Bool) (l : Lexer) : Except Fault Lexer := do
  let l ← l.dropKey
  let s ← Block.scan isFolded (max 1 (l.indent + 1).toNat) l.cursor
  return { l.push (.scalar (String.ofList s.text) false) l.cursor.position s.stop with
    cursor := s.after, mayStartKey := true }

private def readQuoted (quote : Char) (l : Lexer) : Except Fault Lexer := do
  let l ← l.noteKey
  let (text, c) ← Quoted.scan quote l.cursor
  return { l.push (.scalar (String.ofList text) false) l.cursor.position c.position with
    cursor := c, mayStartKey := false }

private def readPlain (l : Lexer) : Except Fault Lexer := do
  let l ← l.noteKey
  let s := Plain.scan l.inFlow (l.indent + 1) l.cursor
  return { l.push (.scalar (String.ofList s.text) true) l.cursor.position s.stop with
    cursor := s.after, mayStartKey := s.hasBreak }

private def startsPlain (flow : Bool) (c : Char) (next : Option Char) : Bool :=
  !(isBlank c || isBreak c || "-?:,[]\x7b\x7d#&*!|>'\"%@`".toList.contains c) ||
    (!endsWord next && (c = '-' || (!flow && (c = '?' || c = ':'))))

private def next (l : Lexer) : Except Fault Lexer := do
  let l ← l.skipToToken.dropStale
  let l := l.closeBlocks l.column
  match l.cursor.peek with
  | none => l.finish
  | some c =>
    let standsAlone := endsWord (l.cursor.peekAt 1)
    let atLineStart : Bool := l.cursor.column = 0
    if c = '%' ∧ atLineStart then l.readDirective
    else if atLineStart ∧ l.cursor.startsWithMark '-' then l.readDocumentMark .documentStart
    else if atLineStart ∧ l.cursor.startsWithMark '.' then l.readDocumentMark .documentEnd
    else if c = '[' then l.readOpening .flowSequenceStart
    else if c = '\x7b' then l.readOpening .flowMappingStart
    else if c = ']' then l.readClosing .flowSequenceEnd
    else if c = '\x7d' then l.readClosing .flowMappingEnd
    else if c = ',' then l.readFlowEntry
    else if c = '-' ∧ standsAlone then l.readBlockEntry
    else if c = '?' ∧ (l.inFlow ∨ standsAlone) then l.readKey
    else if c = ':' ∧ (l.inFlow ∨ standsAlone) then l.readValue
    else if c = '*' then l.readProperty (Property.scanAnchor true)
    else if c = '&' then l.readProperty (Property.scanAnchor false)
    else if c = '!' then l.readProperty Property.scanTag
    else if c = '|' ∧ !l.inFlow then l.readBlockScalar false
    else if c = '>' ∧ !l.inFlow then l.readBlockScalar true
    else if c = '\'' ∨ c = '"' then l.readQuoted c
    else if startsPlain l.inFlow c (l.cursor.peekAt 1) then l.readPlain
    else throw (.malformed (some (.nextToken, none)) (.cannotStart c) l.cursor.position)

/-- Takes the tokens that wait for nothing more. -/
private def settle (l : Lexer) : Except Fault (List Token × Lexer) := do
  if l.waiting.isEmpty then return ([], l)
  let l ← if l.isDone then pure l else l.dropStale
  let n := match (l.possible.map fun e => e.2.number).min? with
    | none => l.waiting.length
    | some number => number - l.settled
  return (l.waiting.take n, { l with waiting := l.waiting.drop n, settled := l.settled + n })

end Lexer

/-- The tokens of a text; after them either the text has ended or a fault has shown. -/
structure TokenStream where
  tokens : List Token
  fault : Option Fault := none
deriving Repr

namespace TokenStream

private def ofLexer : Nat → Lexer → TokenStream
  | 0, _ => ⟨[], none⟩
  | budget + 1, l =>
    match l.next >>= Lexer.settle with
    | .error f => ⟨[], some f⟩
    | .ok (ready, l) =>
      if l.isDone then ⟨ready, none⟩
      else
        let more := ofLexer budget l
        { more with tokens := ready ++ more.tokens }

def isAcceptable (c : Char) : Bool :=
  let n := c.toNat
  n = 0x9 || n = 0xA || n = 0xD || (0x20 ≤ n && n ≤ 0x7E) || n = 0x85 ||
    (0xA0 ≤ n && n ≤ 0xFFFD) || 0x10000 ≤ n

/-- Cuts a text into tokens. One character that may not stand in it spoils it all. -/
def ofText (s : List Char) : TokenStream :=
  match s.find? (!isAcceptable ·) with
  | some c => ⟨[], some (.unacceptable c (s.takeWhile isAcceptable).length)⟩
  | none => ofLexer (s.length + 2) { cursor := ⟨{}, s⟩ }

end TokenStream
end DeployOptions.Yaml
