import DeployOptions.Text.Split

/-! References to container images: registry and path, a tag after a colon, a digest after `@`. -/
namespace DeployOptions.Image

def latest : List Char := "latest".toList

/-- The tag of an image reference. A colon before the last slash belongs to a port. -/
def version (reference : List Char) : List Char :=
  let name := (Text.cutFirst '@' reference).1
  let segment := match Text.cutLast '/' name with
    | some (_, after) => after
    | none => name
  match Text.cutLast ':' segment with
  | some (_, tag) => if tag.isEmpty then latest else tag
  | none => latest

end DeployOptions.Image
