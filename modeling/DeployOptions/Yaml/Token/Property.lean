import DeployOptions.Yaml.Token
import DeployOptions.Yaml.Token.Block
import DeployOptions.Yaml.Token.Quoted

/-! Tokens that say something about a node or a document: anchors, aliases, tags and directives. -/
namespace DeployOptions.Yaml

namespace Property

def scanAnchor (isAlias : Bool) (c : Cursor) : Except Fault (TokenKind × Cursor) :=
  let fault (d : Cursor) : Fault :=
    d.fault (if isAlias then .alias else .anchor) c.position
      (.expectedCharacter "alphabetic or numeric character" d.peek)
  let d := c.skip 1
  let (name, e) := d.span isNameCharacter
  if name.isEmpty then .error (fault d)
  else if endsWord e.peek || e.peek.any (fun x => "?:,]\x7d%@`".toList.contains x) then
    let name := String.ofList name
    .ok (if isAlias then .alias name else .anchor name, e)
  else .error (fault e)

inductive Place
  | tag
  | directive
deriving DecidableEq

private def Place.reading : Place → Reading
  | .tag => .tag
  | .directive => .directive

private def Place.addressReading : Place → Reading
  | .tag => .tagAddress
  | .directive => .directiveAddress

/-- Reads a handle: one exclamation mark, or a name between two. -/
def handle (place : Place) (start : Position) (c : Cursor) :
    Except Fault (String × Cursor) :=
  let expected (d : Cursor) : Fault := d.fault place.reading start (.expectedCharacter "'!'" d.peek)
  if c.peek ≠ some '!' then .error (expected c)
  else if c.peekAt 1 = some ' ' then .ok ("!", c.skip 1)
  else
    let (name, d) := (c.skip 1).span isNameCharacter
    if d.peek = some '!' then .ok (String.ofList ('!' :: name ++ ['!']), d.skip 1)
    else .error (expected d)

private def isAddressCharacter (c : Char) : Bool :=
  c.isAlphanum || "-;/?:@&=+$,_.!~*'()[]".toList.contains c

private def escapedBytes (place : Place) (start : Position) :
    Nat → Cursor → Except Fault (List UInt8 × Cursor)
  | 0, c => .ok ([], c)
  | budget + 1, c =>
    if c.peek ≠ some '%' then .ok ([], c)
    else
      let d := c.skip 1
      let digits := (d.rest.take 2).takeWhile isHexDigit
      if digits.length = 2 then
        (escapedBytes place start budget (d.skip 2)).map fun (bytes, e) =>
          (.ofNat (Quoted.hexValue digits) :: bytes, e)
      else
        .error (d.fault place.reading start (.expectedCharacter
          "URI escape sequence of 2 hexadecimal numbers" (d.peekAt digits.length)))

private def addressFrom (place : Place) (start : Position) :
    Nat → Cursor → Except Fault (List Char × Cursor)
  | 0, c => .ok ([], c)
  | budget + 1, c =>
    match c.peek with
    | none => .ok ([], c)
    | some x =>
      if x = '%' then do
        let (bytes, d) ← escapedBytes place start (c.rest.length + 1) c
        match Text.Utf8.decode bytes with
        | .error f => throw (c.fault place.reading start (.addressUndecodable f))
        | .ok text =>
          let (more, d) ← addressFrom place start budget d
          return (text ++ more, d)
      else if isAddressCharacter x then
        (addressFrom place start budget (c.skip 1)).map fun (more, d) => (x :: more, d)
      else .ok ([], c)

def address (place : Place) (start : Position) (c : Cursor) :
    Except Fault (String × Cursor) := do
  let (text, d) ← addressFrom place start (c.rest.length + 1) c
  if text.isEmpty then
    throw (d.fault place.addressReading start (.expectedCharacter "URI" d.peek))
  return (String.ofList text, d)

/-- Whether another exclamation mark follows in the same word. -/
private def hasHandle (c : Cursor) : Bool :=
  ((c.rest.drop 1).takeWhile fun x => !(x = ' ' || isBreak x)).contains '!'

def scanTag (c : Cursor) : Except Fault (TokenKind × Cursor) := do
  let start := c.position
  let (kind, d) ←
    if c.peekAt 1 = some '<' then do
      let (suffix, d) ← address .tag start (c.skip 2)
      if d.peek ≠ some '>' then
        throw (d.fault .tagAddress start (.expectedCharacter "'>'" d.peek))
      pure (TokenKind.tag none suffix, d.skip 1)
    else if endsWord (c.peekAt 1) then pure (TokenKind.tag none "!", c.skip 1)
    else do
      let (handle, d) ← if hasHandle c then handle .tag start c else pure ("!", c.skip 1)
      let (suffix, d) ← address .tag start d
      pure (TokenKind.tag (some handle) suffix, d)
  if isSpaceOrEnd d.peek then return (kind, d)
  else throw (d.fault .tag start (.expectedCharacter "' '" d.peek))

end Property

namespace Directive

private def expected (start : Position) (what : String) (c : Cursor) : Fault :=
  c.fault .directive start (.expectedCharacter what c.peek)

private def number (start : Position) (c : Cursor) : Except Fault (Nat × Cursor) :=
  let (digits, d) := c.span Char.isDigit
  if digits.isEmpty then .error (expected start "a digit" c)
  else .ok (digits.foldl (fun n x => n * 10 + (x.toNat - 48)) 0, d)

private def scanVersion (start : Position) (c : Cursor) : Except Fault (Directive × Cursor) := do
  let (major, c) ← number start c.skipSpaces
  if c.peek ≠ some '.' then throw (expected start "a digit or '.'" c)
  let (minor, c) ← number start (c.skip 1)
  if !isSpaceOrEnd c.peek then throw (expected start "a digit or ' '" c)
  return (.version major minor, c)

private def scanHandle (start : Position) (c : Cursor) : Except Fault (Directive × Cursor) := do
  let (handle, c) ← Property.handle .directive start c.skipSpaces
  if c.peek ≠ some ' ' then throw (expected start "' '" c)
  let (address, c) ← Property.address .directive start c.skipSpaces
  if !isSpaceOrEnd c.peek then throw (expected start "' '" c)
  return (.tag handle address, c)

/-- Reads a directive and the rest of its line; the token ends before the rest. -/
def scan (c : Cursor) : Except Fault (Token × Cursor) := do
  let start := c.position
  let c := c.skip 1
  let (name, d) := c.span isNameCharacter
  if name.isEmpty then throw (expected start "alphabetic or numeric character" c)
  if !isSpaceOrEnd d.peek then throw (expected start "alphabetic or numeric character" d)
  let (directive, d) ← match String.ofList name with
    | "YAML" => scanVersion start d
    | "TAG" => scanHandle start d
    | _ => pure (Directive.unknown, d)
  let token : Token := ⟨.directive directive, start, d.position⟩
  match directive with
  | .unknown => return (token, (d.skipWhile (!isBreak ·)).skipBreak)
  | _ => return (token, ← Block.restOfLine .directive start d)

end Directive
end DeployOptions.Yaml
