/-! Cutting a text at a separator, and replacing one text inside another. -/
namespace DeployOptions.Text

def cutFirst (c : Char) : List Char → List Char × Option (List Char)
  | [] => ([], none)
  | x :: r =>
    if x = c then ([], some r)
    else
      let (before, after) := cutFirst c r
      (x :: before, after)

def cutLast (c : Char) : List Char → Option (List Char × List Char)
  | [] => none
  | x :: r =>
    match cutLast c r with
    | some (before, after) => some (x :: before, after)
    | none => if x = c then some ([], r) else none

/-- The texts between the separators; one more than there are separators. -/
def fields (c : Char) : List Char → List (List Char)
  | [] => [[]]
  | x :: r =>
    if x = c then [] :: fields c r
    else
      match fields c r with
      | [] => [[x]]
      | f :: fs => (x :: f) :: fs

/-- Replaces from left to right, passing over the `skip` characters of the last occurrence found. -/
def replaceFrom (old new : List Char) : Nat → List Char → List Char
  | _, [] => []
  | skip + 1, _ :: r => replaceFrom old new skip r
  | 0, x :: r =>
    if old.isPrefixOf (x :: r) then new ++ replaceFrom old new (old.length - 1) r
    else x :: replaceFrom old new 0 r

/-- Every occurrence of the non-empty text `old` that does not overlap an earlier one gives way to
`new`; what is put in is not searched again. -/
def replaceAll (old new s : List Char) : List Char := replaceFrom old new 0 s

def replaceString (old new s : String) : String :=
  String.ofList (replaceAll old.toList new.toList s.toList)

end DeployOptions.Text
