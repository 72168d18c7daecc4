import DeployOptions.CommandLine.Help
import DeployOptions.Text.Similar

/-! Arguments as switches and operands, and what can be wrong with them. -/
namespace DeployOptions.CommandLine

inductive UsageFault
  | noSuchSwitch (name : String) (similar : List String)
  | noSuchCommand (name : String) (similar : List String)
  | valueMissing (switch : String)
  | valueUnwanted (switch : String)
  | notAChoice (switch value : String) (choices : List String)
  | operandMissing (name : String)
  | operandsUnwanted (operands : List String)
  | fileMissing (operand path : String)
  | fileIsFolder (operand path : String)
  | namespaceMissing
  | ruleTypeMissing
  | ruleTypeUnknown (failure : Failure)
deriving Repr

namespace UsageFault

private def shownText (s : String) : String := (Value.str s).shown

private def hint (candidates : List String) : String :=
  match candidates with
  | [] => ""
  | [c] => " Did you mean " ++ shownText c ++ "?"
  | l => " (Did you mean one of: " ++ ", ".intercalate (l.map shownText) ++ "?)"

def message : UsageFault → String
  | .noSuchSwitch name similar =>
    "No such option " ++ shownText name ++ "." ++ hint similar
  | .noSuchCommand name similar =>
    "No such command " ++ shownText name ++ "." ++ hint similar
  | .valueMissing switch => "Option " ++ shownText switch ++ " requires an argument."
  | .valueUnwanted switch => "Option " ++ shownText switch ++ " does not take a value."
  | .notAChoice switch value choices =>
    "Invalid value for " ++ switch ++ ": " ++ shownText value ++ " is not one of " ++
      ", ".intercalate (choices.map shownText) ++ "."
  | .operandMissing name => "Missing argument '" ++ name ++ "'."
  | .operandsUnwanted [operand] => "Got unexpected extra argument (" ++ operand ++ ")"
  | .operandsUnwanted operands =>
    "Got unexpected extra arguments (" ++ " ".intercalate operands ++ ")"
  | .fileMissing operand path =>
    "Invalid value for '" ++ operand ++ "': File " ++ shownText path ++ " does not exist."
  | .fileIsFolder operand path =>
    "Invalid value for '" ++ operand ++ "': File " ++ shownText path ++ " is a directory."
  | .namespaceMissing => "No namespace given and the APIManager has none"
  | .ruleTypeMissing => "Missing argument 'RULE_TYPE'. Use --list to see the available types."
  | .ruleTypeUnknown failure => "Invalid value for RULE_TYPE: " ++ failure.message

end UsageFault

structure Given where
  switch : Switch
  value : String := ""
deriving Repr

/-- Arguments taken apart: the switches in order, and all else. -/
structure Arguments where
  given : List Given := []
  operands : List String := []
deriving Repr

namespace Arguments

def has (word : String) (a : Arguments) : Bool := a.given.any (·.switch.word = word)

/-- The value of a switch; the last one counts. -/
def value? (word : String) (a : Arguments) : Option String :=
  (a.given.reverse.find? (·.switch.word = word)).map (·.value)

/-- What an argument with switches gives, and whether the next argument is the value of the last. -/
private structure Piece where
  given : List Given
  usesNext : Bool := false

/-- Reads a switch by its word. Its value stands after an equals sign or is the next argument. -/
private def readLong (s : Switch) (value next : Option String) : Except UsageFault Piece :=
  match s.takesValue, value, next with
  | false, none, _ => .ok ⟨[⟨s, ""⟩], false⟩
  | false, some _, _ => .error (.valueUnwanted s.long)
  | true, some v, _ => .ok ⟨[⟨s, v⟩], false⟩
  | true, none, some v => .ok ⟨[⟨s, v⟩], true⟩
  | true, none, none => .error (.valueMissing s.long)

/-- Reads switches by their letters. The value of one is the rest of the argument or, if there is no
rest, the next argument. -/
private def readLetters (c : Command) (next : Option String) : List Char → Except UsageFault Piece
  | [] => .ok ⟨[], false⟩
  | x :: r =>
    let name := "-" ++ x.toString
    match c.switches.find? fun s => s.letter = some x with
    | none => .error (.noSuchSwitch name [])
    | some s =>
      if !s.takesValue then
        (readLetters c next r).map fun p => { p with given := ⟨s, ""⟩ :: p.given }
      else if !r.isEmpty then .ok ⟨[⟨s, String.ofList r⟩], false⟩
      else
        match next with
        | some v => .ok ⟨[⟨s, v⟩], true⟩
        | none => .error (.valueMissing name)

private def isSwitch (a : String) : Bool := a.toList.head? = some '-' && 1 < a.length

private def readSwitch (c : Command) (a : String) (next : Option String) :
    Except UsageFault Piece :=
  let (name, value) := Text.cutFirst '=' a.toList
  let name := String.ofList name
  match c.switches.find? fun s => s.long = name with
  | some s => readLong s (value.map String.ofList) next
  | none =>
    match a.toList with
    | '-' :: '-' :: _ => .error (.noSuchSwitch name (Text.similar name (c.switches.map (·.long))))
    | _ => readLetters c next (a.toList.drop 1)

/-- Takes arguments apart. Behind two dashes all are operands; so are they, for a command with
subcommands, from the first operand on. -/
def read (c : Command) : List String → Except UsageFault Arguments
  | [] => .ok {}
  | a :: r =>
    if a = "--" then .ok { operands := r }
    else if isSwitch a then
      match readSwitch c a r.head? with
      | .error f => .error f
      | .ok p =>
        let add (rest : Arguments) : Arguments := { rest with given := p.given ++ rest.given }
        match p.usesNext, r with
        | true, _ :: r => (read c r).map add
        | _, r => (read c r).map add
    else if c.subcommands.isEmpty then
      (read c r).map fun rest => { rest with operands := a :: rest.operands }
    else .ok { operands := a :: r }

/-- The switches that were given, each once, in the order in which they first were. -/
private def distinct (a : Arguments) : List Switch := (a.given.map (·.switch)).eraseDups

private def checkSwitch (a : Arguments) (s : Switch) : Except UsageFault Unit :=
  match s.kind, a.value? s.word with
  | .choice values, some v =>
    if v ∈ values then .ok () else .error (.notAChoice s.shown v values)
  | _, _ => .ok ()

/-- Why checked arguments are not served: they are wrong, or the check itself has failed. -/
inductive Refusal
  | misuse (fault : UsageFault)
  | failure (failure : Failure)
deriving Repr

private def checkOperand (f : Folder) (o : Operand) (given : Option String) :
    Except Refusal Unit :=
  match o.kind, given with
  | .text, _ => .ok ()
  | .file, none => .error (.misuse (.operandMissing o.name))
  | .file, some path =>
    match f.follow? path with
    | .file _ => .ok ()
    | .folder => .error (.misuse (.fileIsFolder o.name path))
    | .missing | .throughFile | .tooLong => .error (.misuse (.fileMissing o.name path))
    | .unusable => .error (.failure .unusablePath)

/-- Checks arguments: first the switches as given, then the operand, then that nothing is left. -/
def check (c : Command) (f : Folder) (a : Arguments) : Except Refusal Unit := do
  (a.distinct.forM (checkSwitch a)).mapError .misuse
  match c.operand with
  | none => return
  | some o =>
    checkOperand f o a.operands.head?
    if 1 < a.operands.length then throw (.misuse (.operandsUnwanted (a.operands.drop 1)))

end Arguments
end DeployOptions.CommandLine
