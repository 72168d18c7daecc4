import DeployOptions.Text.Quoted

/-! What can be wrong with the parameter of an action tag. -/
namespace DeployOptions.Console.Action

inductive NumberForm
  | decimal
  | hexadecimal
  | octal
  | binary
  | imaginary
deriving DecidableEq, Repr

def NumberForm.name : NumberForm → String
  | .decimal => "decimal"
  | .hexadecimal => "hexadecimal"
  | .octal => "octal"
  | .binary => "binary"
  | .imaginary => "imaginary"

inductive EscapeKind
  | two
  | four
  | eight
  | tooLarge
  | named
deriving DecidableEq, Repr

def EscapeKind.message : EscapeKind → String
  | .two => "truncated \\xXX escape"
  | .four => "truncated \\uXXXX escape"
  | .eight => "truncated \\UXXXXXXXX escape"
  | .tooLarge => "illegal Unicode character"
  | .named => "malformed \\N character escape"

/-- Why a parameter is no value: it is not well formed, or it is, but stands for none. -/
inductive Fault
  | invalid
  | invalidNumber (form : NumberForm)
  | invalidDigit (digit : Char) (form : NumberForm)
  | leadingZeros
  | tooManyDigits (count : Nat)
  | unterminated (long : Bool) (line : Nat)
  | invalidCharacter (c : Char)
  | continuation
  | unexpectedEnd
  | unmatched (closing : Char)
  | mismatched (closing opening : Char) (line : Option Nat)
  | tooDeep
  | neverClosed (opening : Char)
  | mixedTexts
  | foreignBytes
  | byteEscape (position : Nat)
  | escape (first last : Nat) (kind : EscapeKind)
  | forgottenComma
  | missingParentheses (name : String)
  | missingElse
  | equalsForComparison
  | assigned (what : String)
  | assignedNamed (what : String)
  | starred (double : Bool)
  | starredValue
  | missingValue
  | missingColon
  | unhashable (kind : String)
  | nullCharacter
  | noValue
deriving DecidableEq, Repr

namespace Fault

def isWellFormed : Fault → Bool
  | .unhashable _ | .nullCharacter | .noValue => true
  | _ => false

private def codePoint (c : Char) : String :=
  "U+" ++ (String.ofList (Text.Quoted.hexDigits 4 (Text.codeOf c))).toUpper

def message : Fault → String
  | .invalid => "invalid syntax"
  | .invalidNumber form => "invalid " ++ form.name ++ " literal"
  | .invalidDigit digit form =>
    "invalid digit '" ++ digit.toString ++ "' in " ++ form.name ++ " literal"
  | .leadingZeros =>
    "leading zeros in decimal integer literals are not permitted; " ++
      "use an 0o prefix for octal integers"
  | .tooManyDigits count =>
    "Exceeds the limit (4300 digits) for integer string conversion: value has " ++
      toString count ++ " digits; use sys.set_int_max_str_digits() to increase the limit - " ++
      "Consider hexadecimal for huge integer literals to avoid decimal conversion limits."
  | .unterminated long line =>
    "unterminated " ++ (if long then "triple-quoted " else "") ++
      "string literal (detected at line " ++ toString line ++ ")"
  | .invalidCharacter c =>
    if Text.isPrintable c then "invalid character '" ++ c.toString ++ "' (" ++ codePoint c ++ ")"
    else "invalid non-printable character " ++ codePoint c
  | .continuation => "unexpected character after line continuation character"
  | .unexpectedEnd => "unexpected EOF while parsing"
  | .unmatched closing => "unmatched '" ++ closing.toString ++ "'"
  | .mismatched closing opening line =>
    "closing parenthesis '" ++ closing.toString ++ "' does not match opening parenthesis '" ++
      opening.toString ++ "'" ++
      (match line with
        | none => ""
        | some n => " on line " ++ toString n)
  | .tooDeep => "too many nested parentheses"
  | .neverClosed opening => "'" ++ opening.toString ++ "' was never closed"
  | .mixedTexts => "cannot mix bytes and nonbytes literals"
  | .foreignBytes => "bytes can only contain ASCII literal characters"
  | .byteEscape position =>
    "(value error) invalid \\x escape at position " ++ toString position
  | .escape first last kind =>
    "(unicode error) 'unicodeescape' codec can't decode bytes in position " ++
      toString first ++ "-" ++ toString last ++ ": " ++ kind.message
  | .forgottenComma => "invalid syntax. Perhaps you forgot a comma?"
  | .missingParentheses name =>
    "Missing parentheses in call to '" ++ name ++ "'. Did you mean " ++ name ++ "(...)?"
  | .missingElse => "expected 'else' after 'if' expression"
  | .equalsForComparison => "invalid syntax. Maybe you meant '==' or ':=' instead of '='?"
  | .assigned what =>
    "cannot assign to " ++ what ++ " here. Maybe you meant '==' instead of '='?"
  | .assignedNamed what => "cannot use assignment expressions with " ++ what
  | .starred double =>
    "cannot use " ++ (if double then "double " else "") ++ "starred expression here"
  | .starredValue => "cannot use a starred expression in a dictionary value"
  | .missingValue => "expression expected after dictionary key and ':'"
  | .missingColon => "':' expected after dictionary key"
  | .unhashable kind => "unhashable type: '" ++ kind ++ "'"
  | .nullCharacter => "source code string cannot contain null bytes"
  | .noValue => "malformed node or string"

end Fault
end DeployOptions.Console.Action
