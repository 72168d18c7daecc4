import DeployOptions.Console.Action.Fault
import DeployOptions.Number.Literal

/-! Why console markup cannot be printed. -/
namespace DeployOptions

/-- A closing tag without its opening one, an action that is no value, or a color that is made up
of numbers, one of which cannot be read. -/
inductive MarkupFault
  | unmatchedClosing (tag : String) (position : Nat)
  | nothingToClose (position : Nat)
  | action (value parameter : List Char) (fault : Console.Action.Fault)
  | color (fault : Literal.IntegerFault)
deriving DecidableEq, Repr

def MarkupFault.message : MarkupFault → String
  | .unmatchedClosing tag position =>
    "closing tag '" ++ tag ++ "' at position " ++ toString position ++
      " doesn't match any open tag"
  | .nothingToClose position =>
    "closing tag '[/]' at position " ++ toString position ++ " has nothing to close"
  | .action value parameter fault =>
    let quoted (s : List Char) : String := String.ofList (Text.Quoted.quote s)
    "error parsing " ++
      (if fault.isWellFormed then "" else quoted value ++ " in ") ++ quoted parameter ++ "; " ++
      fault.message
  | .color fault => fault.message

end DeployOptions
