import DeployOptions.Yaml.Scalar
import DeployOptions.Yaml.Token.Stream

/-! The nodes of a document, put together from tokens. -/
namespace DeployOptions.Yaml

/-- A node, its tag and the place where it begins. An alias has given way to the node it names,
unless that is a collection that the alias stands in: then there is the name and the place of that
collection. -/
inductive Node
  | scalar (tag : Tag) (text : String) (position : Position)
  | sequence (tag : Tag) (items : List Node) (position : Position)
  | mapping (tag : Tag) (entries : List (Node × Node)) (position : Position)
  | enclosing (name : String) (isMapping : Bool) (position : Position)
deriving Repr

namespace Node

instance : Inhabited Node := ⟨.scalar .null "" {}⟩

def tag : Node → Tag
  | .scalar t _ _ | .sequence t _ _ | .mapping t _ _ => t
  | .enclosing _ isMapping _ => if isMapping then .map else .seq

def withTag (t : Tag) : Node → Node
  | .scalar _ text p => .scalar t text p
  | .sequence _ items p => .sequence t items p
  | .mapping _ entries p => .mapping t entries p
  | .enclosing name isMapping p => .enclosing name isMapping p

def position : Node → Position
  | .scalar _ _ p | .sequence _ _ p | .mapping _ _ p | .enclosing _ _ p => p

def kind : Node → String
  | .scalar .. => "scalar"
  | .sequence .. => "sequence"
  | .mapping .. => "mapping"
  | .enclosing _ isMapping _ => if isMapping then "mapping" else "sequence"

/-- A node that is left out reads as an empty text. -/
def empty (p : Position) : Node := .scalar .null "" p

end Node

/-- The named nodes of a document and the places where they were named; of several entries for one
name the first counts. -/
abbrev Names := List (String × Position × Node)

/-- The tokens that are left, with what is known of the document they belong to. -/
structure Remainder where
  tokens : List Token
  /-- The fault behind the last token. -/
  fault : Option Fault
  /-- The addresses that tag handles stand for. -/
  handles : List (String × String) := []
  anchors : Names := []

abbrev Reader := StateT Remainder (Except Fault)

namespace Reader

/-- The next token. Behind the last one there is the fault that ended the stream. -/
private def peek : Reader Token := do
  let r ← get
  match r.tokens, r.fault with
  | t :: _, _ => return t
  | [], some f => throw f
  | [], none => return ⟨.streamEnd, {}, {}⟩

private def advance : Reader Unit := modify fun r => { r with tokens := r.tokens.drop 1 }

private def fail {α : Type} (reading : Option (Reading × Position)) (problem : Problem)
    (position : Position) : Reader α :=
  throw (.malformed (reading.map fun (r, p) => (r, some p)) problem position)

private structure Properties where
  anchor : Option String := none
  tag : Option String := none
  start : Option Position := none

private def fullTag (start : Position) (handle : Option String) (suffix : String)
    (position : Position) : Reader String := do
  match handle with
  | none => return suffix
  | some h =>
    match (← get).handles.lookup h with
    | some address => return address ++ suffix
    | none => fail (some (.node, start)) (.undefinedHandle h) position

private def properties : Reader Properties := do
  let t ← peek
  match t.kind with
  | .anchor name =>
    advance
    let u ← peek
    match u.kind with
    | .tag handle suffix =>
      advance
      return ⟨some name, some (← fullTag t.start handle suffix u.start), some t.start⟩
    | _ => return ⟨some name, none, some t.start⟩
  | .tag handle suffix =>
    advance
    let u ← peek
    match u.kind with
    | .anchor name =>
      advance
      return ⟨some name, some (← fullTag t.start handle suffix t.start), some t.start⟩
    | _ => return ⟨none, some (← fullTag t.start handle suffix t.start), some t.start⟩
  | _ => return {}

/-- The tag of a node: the given one or, where there is none or just an exclamation mark, the one
its kind has by default. -/
private def tagOr (default : Tag) : Option String → Tag
  | none | some "!" => default
  | some name => .ofName name

/-- Gives a name to a node that begins; no two nodes of a document have the same. Up to its end, the
name stands for a collection that encloses what is read. -/
private def checkName (anchor : Option String) (isMapping : Bool) (start : Position) :
    Reader Unit := do
  match anchor with
  | none => return
  | some name =>
    match (← get).anchors.lookup name with
    | some (first, _) => fail (some (.firstAnchor name, first)) .secondAnchor start
    | none =>
      modify fun r =>
        { r with anchors := (name, start, .enclosing name isMapping start) :: r.anchors }

private def named (anchor : Option String) (n : Node) : Reader Node := do
  match anchor with
  | none => return n
  | some name =>
    modify fun r => { r with anchors := (name, n.position, n) :: r.anchors }
    return n

/-- A node as the key of an entry. A key `=` reads as a text from then on, wherever its name
stands. -/
private def asKey (key : Node) : Reader Node := do
  if key.tag = .value then
    modify fun r => { r with anchors := r.anchors.map fun (name, p, n) =>
      (name, p, if n.position = key.position then n.withTag .str else n) }
  return key

/-- The tokens before which a node can be left out in a block. -/
private def endsBlockNode : TokenKind → Bool
  | .key | .value | .blockEnd => true
  | _ => false

private def orEmpty (isEnd : TokenKind → Bool) (position : Position) (node : Reader Node) :
    Reader Node := do
  if isEnd (← peek).kind then return .empty position
  else node

/-- Reads the value of an entry: after a colon it may be left out, and so may colon and value. -/
private def entryValue (isEnd : TokenKind → Bool) (node : Reader Node) : Reader Node := do
  let t ← peek
  if t.kind = .value then
    advance
    orEmpty isEnd t.stop node
  else return .empty t.start

private def expectedBlockEnd {α : Type} (reading : Reading) (mark : Position) (t : Token) :
    Reader α :=
  fail (some (reading, mark)) (.expectedToken "<block end>" t.kind.name) t.start

mutual

/-- Reads a node. `block` tells whether it may be a block, and `bare` whether it may be a sequence
that is not indented. The budget counts the calls that may be nested. -/
private def node (block bare : Bool) : Nat → Reader Node
  | 0 => return .empty {}
  | budget + 1 => do
    let t ← peek
    match t.kind with
    | .alias name =>
      advance
      match (← get).anchors.lookup name with
      | some (_, n) => return n
      | none => fail none (.undefinedAlias name) t.start
    | _ => content block bare (← properties) budget

private def content (block bare : Bool) (p : Properties) : Nat → Reader Node
  | 0 => return .empty {}
  | budget + 1 => do
    let t ← peek
    let start := p.start.getD t.start
    match t.kind, bare, block with
    | .blockEntry, true, _ =>
      checkName p.anchor false start
      let items ← bareItems budget
      named p.anchor (.sequence (tagOr .seq p.tag) items start)
    | .scalar text plain, _, _ =>
      advance
      checkName p.anchor false start
      let isPlain := (plain && p.tag.isNone) || p.tag = some "!"
      let tag := if isPlain then Scalar.kind text.toList else tagOr .str p.tag
      named p.anchor (.scalar tag text start)
    | .flowSequenceStart, _, _ =>
      checkName p.anchor false start
      advance
      let items ← flowItems t.start true budget
      named p.anchor (.sequence (tagOr .seq p.tag) items start)
    | .flowMappingStart, _, _ =>
      checkName p.anchor true start
      advance
      let entries ← flowEntries t.start true budget
      named p.anchor (.mapping (tagOr .map p.tag) entries start)
    | .blockSequenceStart, _, true =>
      checkName p.anchor false start
      advance
      let items ← blockItems t.start budget
      named p.anchor (.sequence (tagOr .seq p.tag) items start)
    | .blockMappingStart, _, true =>
      checkName p.anchor true start
      advance
      let entries ← blockEntries t.start budget
      named p.anchor (.mapping (tagOr .map p.tag) entries start)
    | kind, _, _ =>
      if p.anchor.isSome ∨ p.tag.isSome then
        checkName p.anchor false start
        named p.anchor (.scalar (tagOr .null p.tag) "" start)
      else
        fail (some (if block then .blockNode else .flowNode, start))
          (.expectedToken "the node content" kind.name) t.start

private def blockItems (mark : Position) : Nat → Reader (List Node)
  | 0 => return []
  | budget + 1 => do
    let t ← peek
    match t.kind with
    | .blockEntry =>
      advance
      let item ← orEmpty (fun k => k = .blockEntry || k = .blockEnd) t.stop (node true false budget)
      return item :: (← blockItems mark budget)
    | .blockEnd => do advance; return []
    | _ => expectedBlockEnd .blockCollection mark t

/-- Reads the items of a sequence that is not indented, up to anything else than a dash. -/
private def bareItems : Nat → Reader (List Node)
  | 0 => return []
  | budget + 1 => do
    let t ← peek
    match t.kind with
    | .blockEntry =>
      advance
      let item ← orEmpty (fun k => k = .blockEntry || endsBlockNode k) t.stop
        (node true false budget)
      return item :: (← bareItems budget)
    | _ => return []

private def blockEntries (mark : Position) : Nat → Reader (List (Node × Node))
  | 0 => return []
  | budget + 1 => do
    let t ← peek
    match t.kind with
    | .key =>
      advance
      let key ← asKey (← orEmpty endsBlockNode t.stop (node true true budget))
      let value ← entryValue endsBlockNode (node true true budget)
      return (key, value) :: (← blockEntries mark budget)
    | .blockEnd => do advance; return []
    | _ => expectedBlockEnd .blockMapping mark t

/-- Reads the items between square brackets. An item with a colon is a mapping of one entry. -/
private def flowItems (mark : Position) (isFirst : Bool) : Nat → Reader (List Node)
  | 0 => return []
  | budget + 1 => do
    let t ← peek
    if t.kind = .flowSequenceEnd then
      advance
      return []
    if !isFirst then
      if t.kind = .flowEntry then advance
      else fail (some (.flowSequence, mark)) (.expectedSeparator "',' or ']'" t.kind.name) t.start
    let u ← peek
    match u.kind with
    | .flowSequenceEnd => do advance; return []
    | .key =>
      advance
      let isEnd (k : TokenKind) : Bool := k = .flowEntry || k = .flowSequenceEnd
      let key ← asKey
        (← orEmpty (fun k => k = .value || isEnd k) u.stop (node false false budget))
      let value ← entryValue isEnd (node false false budget)
      return .mapping .map [(key, value)] u.start :: (← flowItems mark false budget)
    | _ =>
      let item ← node false false budget
      return item :: (← flowItems mark false budget)

/-- Reads the entries between curly brackets. A value may be left out together with its colon. -/
private def flowEntries (mark : Position) (isFirst : Bool) : Nat → Reader (List (Node × Node))
  | 0 => return []
  | budget + 1 => do
    let t ← peek
    if t.kind = .flowMappingEnd then
      advance
      return []
    if !isFirst then
      if t.kind = .flowEntry then advance
      else
        fail (some (.flowMapping, mark)) (.expectedSeparator "',' or '\x7d'" t.kind.name) t.start
    let u ← peek
    match u.kind with
    | .flowMappingEnd => do advance; return []
    | .key =>
      advance
      let isEnd (k : TokenKind) : Bool := k = .flowEntry || k = .flowMappingEnd
      let key ← asKey
        (← orEmpty (fun k => k = .value || isEnd k) u.stop (node false false budget))
      let value ← entryValue isEnd (node false false budget)
      return (key, value) :: (← flowEntries mark false budget)
    | _ =>
      let key ← asKey (← node false false budget)
      let value := Node.empty (← peek).start
      return (key, value) :: (← flowEntries mark false budget)

end

private def directives (hasVersion : Bool) (handles : List (String × String)) :
    Nat → Reader (List (String × String))
  | 0 => return handles
  | budget + 1 => do
    let t ← peek
    match t.kind with
    | .directive d =>
      advance
      match d with
      | .version major _ =>
        if hasVersion then fail none .duplicateVersion t.start
        if major ≠ 1 then fail none .foreignVersion t.start
        directives true handles budget
      | .tag handle address =>
        if (handles.lookup handle).isSome then fail none (.duplicateHandle handle) t.start
        directives hasVersion ((handle, address) :: handles) budget
      | .unknown => directives hasVersion handles budget
    | _ => return handles

def defaultHandles : List (String × String) := [("!", "!"), ("!!", Tag.family)]

private def skipDocumentEnds : Nat → Reader Unit
  | 0 => return
  | budget + 1 => do
    if (← peek).kind = .documentEnd then
      advance
      skipDocumentEnds budget

private def enterDocument (handles : List (String × String)) : Reader Unit :=
  modify fun r => { r with handles, anchors := [] }

private def leaveDocument : Reader Unit := do
  if (← peek).kind = .documentEnd then advance

private def isOutside : TokenKind → Bool
  | .directive _ | .documentStart | .documentEnd | .streamEnd => true
  | _ => false

private def markedDocument? (budget : Nat) : Reader (Option Node) := do
  skipDocumentEnds budget
  if (← peek).kind = .streamEnd then return none
  let handles ← directives false [] budget
  let t ← peek
  if t.kind ≠ .documentStart then
    fail none (.expectedToken "'<document start>'" t.kind.name) t.start
  advance
  enterDocument (handles ++ defaultHandles)
  let u ← peek
  let n ← if isOutside u.kind then pure (.empty u.start) else node true false budget
  leaveDocument
  return some n

/-- Reads the next document; none at the end of the text. Only the first can do without a mark. -/
def document? (isFirst : Bool) (budget : Nat) : Reader (Option Node) := do
  let t ← peek
  match t.kind with
  | .directive _ | .documentStart | .streamEnd => markedDocument? budget
  | _ =>
    if isFirst then
      enterDocument defaultHandles
      let n ← node true false budget
      leaveDocument
      return some n
    else markedDocument? budget

end Reader
end DeployOptions.Yaml
