import DeployOptions.CommandLine.Outcome

/-! The program. It reads the files that its arguments name, and has no cluster to talk to. -/
open DeployOptions

private def entryAt (path : String) : IO Folder := do
  try
    let bytes ← IO.FS.readBinFile path
    return [(path, .file bytes.toList)]
  catch
    | .noFileOrDirectory .. => return []
    | _ => return [(path, .folder)]

private def picksNeeded : Nat :=
  Credential.passwordLength + Credential.keyBaseLength + Credential.tokenLength

def main (args : List String) : IO UInt32 := do
  let entries ← args.mapM entryAt
  let picks ← (List.range picksNeeded).mapM fun _ => IO.rand 0 (Picks.alphabet.length - 1)
  let world : World := {
    folder := entries.flatten
    kube := { listError := some "Invalid kube-config file. No configuration found." }
    picks := { index := fun k => picks.getD k 0 } }
  let (outcome, world) := (CommandLine.run .builtIn args).run world
  match Notice.printed world.notices with
  | .ok text => IO.eprint text
  | .error f => IO.eprintln f.message
  IO.eprint outcome.errors
  IO.print outcome.output
  match outcome.crash with
  | some f => IO.eprintln f.message
  | none => pure ()
  return outcome.status.toUInt32
