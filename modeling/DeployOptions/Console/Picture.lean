import DeployOptions.Console.Picture.Table
import DeployOptions.Text.Blank
import DeployOptions.Text.Case

/-! Pictures by name: `:rocket:` stands for a picture, and `:rocket-text:` asks for its plain
form. -/
namespace DeployOptions.Console

private def inPairs : List (List Char) → List (List Char × List Char)
  | name :: picture :: r => (name, picture) :: inPairs r
  | _ => []

def pictures : List (List Char × List Char) := inPairs (Text.splitWords pictureTable.toList)

/-- A name less the form it asks for, and the character that selects the form. -/
def splitForm (name : List Char) : List Char × List Char :=
  let without (form : String) : Option (List Char) :=
    if form.toList.isSuffixOf name then some (name.take (name.length - form.length)) else none
  match without "-emoji", without "-text" with
  | some short, _ => (short, ['\uFE0F'])
  | none, some short => (short, ['\uFE0E'])
  | none, none => (name, [])

def picture? (name : List Char) : Option (List Char) :=
  let (short, form) := splitForm name
  (pictures.lookup (Text.lower short)).map (· ++ form)

def withPictures : List Char → List Char
  | [] => []
  | c :: r =>
    if c = ':' then
      let name := r.takeWhile fun x => x ≠ ':' && !Text.isSpace x
      match _h : r.drop name.length with
      | ':' :: rest => (picture? name).getD (':' :: name ++ [':']) ++ withPictures rest
      | _ => c :: withPictures r
    else c :: withPictures r
termination_by s => s.length
decreasing_by
  · have := congrArg List.length _h
    simp only [List.length_drop, List.length_cons] at this
    simp only [List.length_cons]
    omega
  all_goals simp

end DeployOptions.Console
