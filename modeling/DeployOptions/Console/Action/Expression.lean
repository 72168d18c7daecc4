import DeployOptions.Console.Action.Token
import DeployOptions.Number.Literal

/-! The parameter of an action tag as an expression. It has to be a value that is written out:
numbers, texts, and tuples, sets and mappings of them. -/
namespace DeployOptions.Console.Action

/-- An expression, as far as it matters which value it writes out. One that writes out none has
a name for messages, and may or may not be an operand. -/
inductive Expression
  | constant (what : String)
  | number (imaginary signed : Bool)
  | complex
  | emptySet
  | tuple (items : List Expression)
  | set (items : List Expression)
  | mapping (entries : List (Expression × Expression))
  | other (what : String) (isOperand : Bool)
deriving Repr

namespace Expression

def what : Expression → String
  | .constant w | .other w _ => w
  | .number _ signed => if signed then "expression" else "literal"
  | .complex => "expression"
  | .emptySet => "function call"
  | .tuple _ => "tuple"
  | .set _ => "set display"
  | .mapping _ => "dict literal"

def isAssignmentMistake : Expression → Bool
  | .constant w => w = "literal" || w = "ellipsis"
  | .tuple _ => false
  | .other _ isOperand => isOperand
  | _ => true

/-- The kind of the first part of a value that cannot be a member of a set or a key. -/
def unhashable? : Expression → Option String
  | .set _ | .emptySet => some "set"
  | .mapping _ => some "dict"
  | .tuple items => firstUnhashable items
  | _ => none
where
  firstUnhashable : List Expression → Option String
    | [] => none
    | e :: r =>
      match unhashable? e with
      | some k => some k
      | none => firstUnhashable r

private def asMember (e : Expression) : Except Fault Unit :=
  match e.unhashable? with
  | some kind => .error (.unhashable kind)
  | none => .ok ()

mutual

def check : Expression → Except Fault Unit
  | .constant _ | .number .. | .complex | .emptySet => .ok ()
  | .other .. => .error .noValue
  | .tuple items => checkAll false items
  | .set items => checkAll true items
  | .mapping entries => checkEntries entries

def checkAll (asMembers : Bool) : List Expression → Except Fault Unit
  | [] => .ok ()
  | e :: r => do
    check e
    if asMembers then asMember e
    checkAll asMembers r

/-- `check` for the entries of a mapping: a key is refused only after its value. -/
def checkEntries : List (Expression × Expression) → Except Fault Unit
  | [] => .ok ()
  | (k, v) :: r => do
    check k
    check v
    asMember k
    checkEntries r

end

end Expression

/-- What stands at the front of tokens and the tokens after it; none if it does not stand there.
A fault says that nothing else can be read there either. -/
abbrev Found (α : Type) := Option (α × List Token)

/-- The next token. It is a fault to look behind a bracket that stays open. -/
private def next (ts : List Token) : Except Fault Lexeme :=
  match ts with
  | [] => .ok .ending
  | t :: _ =>
    match t.lexeme with
    | .unclosed c => .error (.neverClosed c)
    | l => .ok l

private def isAt (l : Lexeme) (ts : List Token) : Except Fault Bool := (next ts).map (· == l)

private def reserved : List String := [
  "False", "None", "True", "and", "as", "assert", "async", "await", "break", "class", "continue",
  "def", "del", "elif", "else", "except", "finally", "for", "from", "global", "if", "import", "in",
  "is", "lambda", "nonlocal", "not", "or", "pass", "raise", "return", "try", "while", "with",
  "yield"]

private def nameAt? : List Token → Option String
  | ⟨.name s, _⟩ :: _ => if reserved.contains s then none else some s
  | _ => none

/-- How many brackets are open behind the last of the tokens before `rest`. -/
private def levelBefore (rest ts : List Token) : Nat :=
  ((ts.take (ts.length - rest.length)).getLast?.map (·.level)).getD 0

/-- Whether what follows an expression that begins so is taken for no forgotten comma. -/
private def isExempt (ts : List Token) : Bool :=
  match nameAt? ts, ts.drop 1 with
  | some s, r =>
    ["_", "case", "match", "print", "exec"].contains s ||
      (match r with
        | ⟨.text .., _⟩ :: _ => true
        | _ => false)
  | none, _ => false

/-- The number of tokens that an operator takes up; none if there is no operator. -/
private def operator? (signs : List String) (ts : List Token) : Option Nat :=
  match ts with
  | ⟨.sign s, _⟩ :: _ => if signs.contains s then some 1 else none
  | ⟨.name "not", _⟩ :: ⟨.name "in", _⟩ :: _ => if signs.contains "in" then some 2 else none
  | ⟨.name "is", _⟩ :: ⟨.name "not", _⟩ :: _ => if signs.contains "is" then some 2 else none
  | ⟨.name s, _⟩ :: _ => if signs.contains s then some 1 else none
  | _ => none

private def arithmeticSigns : List String := [
  "+", "-", "*", "/", "//", "%", "@", "**", "<<", ">>", "&", "^", "|"]

private def comparisonSigns : List String := ["==", "!=", "<", "<=", ">", ">=", "in", "is"]

private def texts (isBytes isFormatted : Bool) : List Token → Except Fault (Bool × List Token)
  | ⟨.text b f fault, _⟩ :: r =>
    match fault with
    | some fault => .error fault
    | none => if b ≠ isBytes then .error .mixedTexts else texts isBytes (isFormatted || f) r
  | ts => .ok (isFormatted, ts)

private def operation (a : Expression) (sign : Lexeme) (b : Expression) : Expression :=
  match a, b with
  | .number false _, .number true false =>
    if sign = .sign "+" ∨ sign = .sign "-" then .complex else .other "expression" true
  | _, _ => .other "expression" true

mutual

/-- An expression, with an alternative behind `if` or without. If asked, it `explains` what may be
wrong with what follows. -/
private def expression (explains : Bool) : Nat → List Token → Except Fault (Found Expression)
  | 0, _ => return none
  | n + 1, ts => do
    let some (a, rest) ← logical explains n ts | return none
    if explains then
      if !isExempt ts then
        if let some (_, after) ← expression false n rest then
          if levelBefore after rest ≠ 0 then throw .forgottenComma
      else if let some s := nameAt? ts then
        if (s = "print" || s = "exec") && rest.length + 1 = ts.length then
          if let some _ ← expression false n rest then throw (.missingParentheses s)
    if ← isAt (.name "if") rest then
      if let some (_, after) ← logical explains n (rest.drop 1) then
        if ← isAt (.name "else") after then
          if let some (_, after) ← expression explains n (after.drop 1) then
            return some (.other "conditional expression" false, after)
        else if explains && !(← isAt (.sign ":") after) then throw .missingElse
    return some (a, rest)

private def logical (explains : Bool) : Nat → List Token → Except Fault (Found Expression)
  | 0, _ => return none
  | n + 1, ts => do
    let some (a, rest) ← negation explains n ts | return none
    match ← next rest with
    | .name "and" | .name "or" =>
      match ← logical explains n (rest.drop 1) with
      | some (_, rest) => return some (.other "expression" false, rest)
      | none => return some (a, rest)
    | _ => return some (a, rest)

private def negation (explains : Bool) : Nat → List Token → Except Fault (Found Expression)
  | 0, _ => return none
  | n + 1, ts => do
    if ← isAt (.name "not") ts then
      let some (_, rest) ← negation explains n (ts.drop 1) | return none
      return some (.other "expression" false, rest)
    comparison explains n ts

private def comparison (explains : Bool) : Nat → List Token → Except Fault (Found Expression)
  | 0, _ => return none
  | n + 1, ts => do
    let some (a, rest) ← operations explains n ts | return none
    let _ ← next rest
    match operator? comparisonSigns rest with
    | some count =>
      match ← comparison explains n (rest.drop count) with
      | some (_, rest) => return some (.other "comparison" false, rest)
      | none => return some (a, rest)
    | none => return some (a, rest)

private def operations (explains : Bool) : Nat → List Token → Except Fault (Found Expression)
  | 0, _ => return none
  | n + 1, ts => do
    let some (a, rest) ← operand explains n ts | return none
    moreOperands explains a n rest

private def moreOperands (explains : Bool) (a : Expression) :
    Nat → List Token → Except Fault (Found Expression)
  | 0, _ => return none
  | n + 1, ts => do
    let sign ← next ts
    if (operator? arithmeticSigns ts).isNone then return some (a, ts)
    match ← operand explains n (ts.drop 1) with
    | some (b, rest) => moreOperands explains (operation a sign b) n rest
    | none => return some (a, ts)

private def operand (explains : Bool) : Nat → List Token → Except Fault (Found Expression)
  | 0, _ => return none
  | n + 1, ts => do
    match ← next ts with
    | .sign s =>
      if s = "+" || s = "-" || s = "~" then
        let some (a, rest) ← operand explains n (ts.drop 1) | return none
        match a with
        | .number imaginary false =>
          return some (if s = "~" then .other "expression" true else .number imaginary true, rest)
        | _ => return some (.other "expression" true, rest)
      primary explains n ts
    | _ => primary explains n ts

private def primary (explains : Bool) : Nat → List Token → Except Fault (Found Expression)
  | 0, _ => return none
  | n + 1, ts => do
    let some (a, rest) ← atom explains n ts | return none
    trailers explains a (nameAt? ts = some "set" && rest.length + 1 = ts.length) n rest

private def trailers (explains : Bool) (a : Expression) (isSet : Bool) :
    Nat → List Token → Except Fault (Found Expression)
  | 0, _ => return none
  | n + 1, ts => do
    match ← next ts with
    | .sign "." =>
      let _ ← next (ts.drop 1)
      match nameAt? (ts.drop 1) with
      | some _ => trailers explains (.other "attribute" true) false n (ts.drop 2)
      | none => return some (a, ts)
    | .sign "(" =>
      if ← isAt (.sign ")") (ts.drop 1) then
        trailers explains (if isSet then .emptySet else .other "function call" true) false n
          (ts.drop 2)
      else
        match ← arguments explains n (ts.drop 1) with
        | some ((), rest) => trailers explains (.other "function call" true) false n rest
        | none => return some (a, ts)
    | _ => return some (a, ts)

private def arguments (explains : Bool) : Nat → List Token → Except Fault (Found Unit)
  | 0, _ => return none
  | n + 1, ts => do
    if ← isAt (.sign ")") ts then return some ((), ts.drop 1)
    let start ← match ← next ts with
      | .sign "*" | .sign "**" => pure (ts.drop 1)
      | .name _ => do
        if (nameAt? ts).isSome && (← isAt (.sign "=") (ts.drop 1)) then pure (ts.drop 2)
        else if (nameAt? ts).isSome && (← isAt (.sign ":=") (ts.drop 1)) then pure (ts.drop 2)
        else pure ts
      | _ => pure ts
    let some (_, rest) ← expression explains n start | return none
    match ← next rest with
    | .sign "," => arguments explains n (rest.drop 1)
    | .sign ")" => return some ((), rest.drop 1)
    | _ => return none

private def atom (explains : Bool) : Nat → List Token → Except Fault (Found Expression)
  | 0, _ => return none
  | n + 1, ts => do
    let rest := ts.drop 1
    match ← next ts with
    | .name s =>
      if s = "True" || s = "False" || s = "None" then return some (.constant s, rest)
      return (nameAt? ts).map fun _ => (Expression.other "name" true, rest)
    | .number imaginary count =>
      if Literal.mostDigits < count then throw (.tooManyDigits count)
      return some (.number imaginary false, rest)
    | .text isBytes isFormatted _ =>
      let _ ← next rest
      let (isFormatted, rest) ← texts isBytes isFormatted ts
      return some (if isFormatted then .other "f-string expression" true else .constant "literal",
        rest)
    | .sign "..." => return some (.constant "ellipsis", rest)
    | .sign "(" =>
      if ← isAt (.sign ")") rest then return some (.tuple [], rest.drop 1)
      if ← isAt (.sign "**") rest then
        if let some (_, after) ← expression explains n (rest.drop 1) then
          if explains && (← isAt (.sign ")") after) then throw (.starred true)
        return none
      let some (e, after) ← member explains n rest | return none
      match ← next after with
      | .sign ")" =>
        if ← isAt (.sign "*") rest then
          if explains then throw (.starred false)
          return none
        return some (e, after.drop 1)
      | .sign "," =>
        let some (items, after) ← members explains ")" n (after.drop 1) | return none
        return some (.tuple (e :: items), after)
      | _ => return none
    | .sign "\x7b" =>
      if ← isAt (.sign "\x7d") rest then return some (.mapping [], rest.drop 1)
      let isSpread ← isAt (.sign "**") rest
      let key ← if isSpread then pure none else expression explains n rest
      let isEntry ← match key with
        | some (_, after) => isAt (.sign ":") after
        | none => pure isSpread
      if isEntry then
        let some (entries, after) ← entries explains true n rest | return none
        return some (.mapping entries, after)
      let some (items, after) ← members explains "\x7d" n rest | return none
      return some (.set items, after)
    | _ => return none

private def members (explains : Bool) (closing : String) :
    Nat → List Token → Except Fault (Found (List Expression))
  | 0, _ => return none
  | n + 1, ts => do
    if ← isAt (.sign closing) ts then return some ([], ts.drop 1)
    let some (e, rest) ← member explains n ts | return none
    match ← next rest with
    | .sign "," =>
      let some (items, rest) ← members explains closing n (rest.drop 1) | return none
      return some (e :: items, rest)
    | _ =>
      if ← isAt (.sign closing) rest then return some ([e], rest.drop 1)
      return none

/-- A member of a tuple or a set. It may be spread, and it may be given a name. -/
private def member (explains : Bool) : Nat → List Token → Except Fault (Found Expression)
  | 0, _ => return none
  | n + 1, ts => do
    if ← isAt (.sign "*") ts then
      let some (_, rest) ← operations explains n (ts.drop 1) | return none
      return some (.other "starred" false, rest)
    let some (a, rest) ← expression explains n ts | return none
    let isName := (nameAt? ts).isSome && rest.length + 1 = ts.length
    match ← next rest with
    | .sign ":=" =>
      let some (_, after) ← expression explains n (rest.drop 1) | return none
      if isName then return some (.other "named expression" false, after)
      if explains then throw (.assignedNamed a.what)
      return none
    | .sign "=" =>
      if explains && (isName || a.isAssignmentMistake) then
        if let some (_, after) ← operations explains n (rest.drop 1) then
          match ← next after with
          | .sign "=" | .sign ":=" => pure ()
          | _ => throw (if isName then .equalsForComparison else .assigned a.what)
      return some (a, rest)
    | _ => return some (a, rest)

private def entries (explains isFirst : Bool) :
    Nat → List Token → Except Fault (Found (List (Expression × Expression)))
  | 0, _ => return none
  | n + 1, ts => do
    if !isFirst && (← isAt (.sign "\x7d") ts) then return some ([], ts.drop 1)
    let isSpread ← isAt (.sign "**") ts
    let entry ←
      if isSpread then do
        let some (_, rest) ← operations explains n (ts.drop 1) | return none
        pure ((Expression.other "" false, Expression.other "" false), rest)
      else do
        let some (k, rest) ← expression explains n ts | return none
        if !(← isAt (.sign ":") rest) then
          if explains then throw .missingColon
          return none
        match ← expression explains n (rest.drop 1) with
        | some (v, rest) => pure ((k, v), rest)
        | none =>
          match ← next (rest.drop 1) with
          | .sign "\x7d" | .sign "," =>
            if explains then throw .missingValue
            return none
          | .sign "*" =>
            if (← operations explains n (rest.drop 2)).isSome && explains then throw .starredValue
            return none
          | _ => return none
    match ← next entry.2 with
    | .sign "," =>
      let some (more, rest) ← entries explains false n (entry.2.drop 1) | return none
      return some (entry.1 :: more, rest)
    | .sign "\x7d" => return some ([entry.1], entry.2.drop 1)
    | _ => return none

end

private def expressions (fuel : Nat) :
    Nat → List Token → Except Fault (Found (List Expression × Bool))
  | 0, _ => return none
  | n + 1, ts => do
    let some (e, rest) ← expression true fuel ts | return none
    if ← isAt (.sign ",") rest then
      match ← expressions fuel n (rest.drop 1) with
      | some ((items, _), rest) => return some ((e :: items, true), rest)
      | none => return some (([e], true), rest.drop 1)
    return some (([e], false), rest)

def Expression.read (s : List Char) : Except Fault Expression := do
  let ts ← tokens s
  let fuel := 16 * (ts.length + 1)
  let some ((items, isTuple), rest) ← expressions fuel fuel ts | throw .invalid
  let rest := rest.dropWhile (·.lexeme = .sign "\n")
  if (← next rest) ≠ .ending then throw .invalid
  match items, isTuple with
  | [e], false => return e
  | items, _ => return .tuple items

def checkValue (s : List Char) : Except Fault Unit := do
  if '\x00' ∈ s then throw .nullCharacter
  (← Expression.read s).check

end DeployOptions.Console.Action
