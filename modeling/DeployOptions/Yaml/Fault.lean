import DeployOptions.Calendar
import DeployOptions.Number.Literal
import DeployOptions.Text.Base64
import DeployOptions.Text.Quoted
import DeployOptions.Text.Utf8

/-! Why a text is no YAML, and where that shows. -/
namespace DeployOptions.Yaml

structure Position where
  index : Nat := 0
  line : Nat := 0
  column : Nat := 0
deriving DecidableEq, Repr

inductive Reading
  | nextToken
  | simpleKey
  | directive
  | directiveAddress
  | alias
  | anchor
  | tag
  | tagAddress
  | blockScalar
  | quoted
  | doubleQuoted
  | node
  | blockNode
  | flowNode
  | blockCollection
  | blockMapping
  | flowSequence
  | flowMapping
  | firstAnchor (name : String)
  | mapping
  | orderedMap
  | pairs
deriving DecidableEq, Repr

def quotedText (s : String) : String := String.ofList (Text.Quoted.quote s.toList)

def Reading.text : Reading → String
  | .nextToken => "while scanning for the next token"
  | .simpleKey => "while scanning a simple key"
  | .directive => "while scanning a directive"
  | .directiveAddress => "while parsing a directive"
  | .alias => "while scanning an alias"
  | .anchor => "while scanning an anchor"
  | .tag => "while scanning a tag"
  | .tagAddress => "while parsing a tag"
  | .blockScalar => "while scanning a block scalar"
  | .quoted => "while scanning a quoted scalar"
  | .doubleQuoted => "while scanning a double-quoted scalar"
  | .node => "while parsing a node"
  | .blockNode => "while parsing a block node"
  | .flowNode => "while parsing a flow node"
  | .blockCollection => "while parsing a block collection"
  | .blockMapping => "while parsing a block mapping"
  | .flowSequence => "while parsing a flow sequence"
  | .flowMapping => "while parsing a flow mapping"
  | .firstAnchor name => "found duplicate anchor " ++ quotedText name ++ "; first occurrence"
  | .mapping => "while constructing a mapping"
  | .orderedMap => "while constructing an ordered map"
  | .pairs => "while constructing pairs"

/-- What is wrong. The end of the text counts as a character that is none. -/
inductive Problem
  | expectedCharacter (expected : String) (found : Option Char)
  | expectedToken (expected found : String)
  | expectedSeparator (expected found : String)
  | expectedNode (expected found : String)
  | cannotStart (c : Char)
  | colonMissing
  | notAllowed (what : String)
  | zeroIndentation
  | unknownEscape (found : Option Char)
  | endOfText
  | documentSeparator
  | addressUndecodable (fault : Text.Utf8.Fault)
  | duplicateVersion
  | foreignVersion
  | duplicateHandle (handle : String)
  | undefinedHandle (handle : String)
  | undefinedAlias (name : String)
  | secondAnchor
  | unknownTag (tag : String)
  | unhashableKey
  | manyItems (count : Nat)
  | binaryNotAscii (c : Char) (index count : Nat)
  | binaryUndecodable (fault : Text.Base64.Fault)
deriving DecidableEq, Repr

private def shownCharacter (c : Option Char) : String :=
  String.ofList (Text.Quoted.quote [c.getD '\x00'])

/-- A character in the escaped form, whether or not it would show. -/
private def escapedCharacter (c : Char) : String :=
  let n := c.toNat
  String.ofList <| '\\' ::
    (if n < 0x100 then 'x' :: Text.Quoted.hexDigits 2 n
      else if n < 0x10000 then 'u' :: Text.Quoted.hexDigits 4 n
      else 'U' :: Text.Quoted.hexDigits 8 n)

def Problem.text : Problem → String
  | .expectedCharacter expected found =>
    "expected " ++ expected ++ ", but found " ++ shownCharacter found
  | .expectedToken expected found => "expected " ++ expected ++ ", but found " ++ quotedText found
  | .expectedSeparator expected found => "expected " ++ expected ++ ", but got " ++ quotedText found
  | .expectedNode expected found => "expected " ++ expected ++ ", but found " ++ found
  | .cannotStart c => "found character " ++ shownCharacter c ++ " that cannot start any token"
  | .colonMissing => "could not find expected ':'"
  | .notAllowed what => what ++ " are not allowed here"
  | .zeroIndentation => "expected indentation indicator in the range 1-9, but found 0"
  | .unknownEscape found => "found unknown escape character " ++ shownCharacter found
  | .endOfText => "found unexpected end of stream"
  | .documentSeparator => "found unexpected document separator"
  | .addressUndecodable fault => fault.message
  | .duplicateVersion => "found duplicate YAML directive"
  | .foreignVersion => "found incompatible YAML document (version 1.* is required)"
  | .duplicateHandle handle => "duplicate tag handle " ++ quotedText handle
  | .undefinedHandle handle => "found undefined tag handle " ++ quotedText handle
  | .undefinedAlias name => "found undefined alias " ++ quotedText name
  | .secondAnchor => "second occurrence"
  | .unknownTag tag => "could not determine a constructor for the tag " ++ quotedText tag
  | .unhashableKey => "found unhashable key"
  | .manyItems count => "expected a single mapping item, but found " ++ toString count ++ " items"
  | .binaryNotAscii c index count =>
    "failed to convert base64 data into ascii: 'ascii' codec can't encode character" ++
      (if count = 1 then " '" ++ escapedCharacter c ++ "' in position " ++ toString index
        else "s in position " ++ toString index ++ "-" ++ toString (index + count - 1)) ++
      ": ordinal not in range(128)"
  | .binaryUndecodable fault => "failed to decode base64 data: " ++ fault.message

inductive ScalarFault
  | notInteger (fault : Literal.IntegerFault)
  | notNumber (text : String)
  | notTruthValue (text : String)
  | notTimestamp
  | notText
  | tooLargeForDouble
  | empty
  | noSuchMoment (fault : CalendarFault)
  | noSuchCharacter
  | codeTooLarge
deriving DecidableEq, Repr

def ScalarFault.message : ScalarFault → String
  | .notInteger fault => fault.message
  | .notNumber text => "could not convert string to float: " ++ quotedText text
  | .notTruthValue text => text
  | .notTimestamp | .notText => ""
  | .tooLargeForDouble => "int too large to convert to float"
  | .empty => "string index out of range"
  | .noSuchMoment fault => fault.message
  | .noSuchCharacter => "chr() arg not in range(0x110000)"
  | .codeTooLarge => "Python int too large to convert to C int"

/-- Why a text cannot be read: a character that may not stand in it, a part that is not well formed,
or a well-formed scalar that stands for no value. -/
inductive Fault
  | unacceptable (c : Char) (index : Nat)
  | malformed (reading : Option (Reading × Option Position)) (problem : Problem)
      (position : Position)
  | unreadable (fault : ScalarFault)
deriving DecidableEq, Repr

namespace Fault

private def place (file : String) (p : Position) : String :=
  "  in \"" ++ file ++ "\", line " ++ toString (p.line + 1) ++
    ", column " ++ toString (p.column + 1)

/-- The wording, for a text that came from `file`. Where reading began is left out if the problem
shows right there. -/
def message (file : String) : Fault → String
  | .unacceptable c index =>
    let digits := Nat.toDigits 16 c.toNat
    "unacceptable character #x" ++
      String.ofList (List.replicate (4 - digits.length) '0' ++ digits) ++
      ": special characters are not allowed\n  in \"" ++ file ++ "\", position " ++ toString index
  | .malformed reading problem position =>
    let context := match reading with
      | none => []
      | some (r, none) => [r.text]
      | some (r, some p) =>
        if p.line = position.line ∧ p.column = position.column then [r.text]
        else [r.text, place file p]
    "\n".intercalate (context ++ [problem.text, place file position])
  | .unreadable fault => fault.message

end Fault
end DeployOptions.Yaml
