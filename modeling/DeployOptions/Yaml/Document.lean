import DeployOptions.Yaml.Node.Value

/-! The documents of a text. -/
namespace DeployOptions.Yaml

/-- Reads document after document, each up to its value before the next one is looked at. -/
private def documentsFrom (isFirst : Bool) (calls : Nat) :
    Nat → Remainder → Except Fault (List Value)
  | 0, _ => .ok []
  | budget + 1, r => do
    let (n, r) ← (Reader.document? isFirst calls).run r
    match n with
    | none => return []
    | some n =>
      let v ← n.toValue r.anchors
      return v :: (← documentsFrom false calls budget r)

def documents (s : List Char) : Except Fault (List Value) :=
  let stream := TokenStream.ofText s
  let size := stream.tokens.length + 2
  documentsFrom true (4 * size) size ⟨stream.tokens, stream.fault, [], []⟩

end DeployOptions.Yaml
