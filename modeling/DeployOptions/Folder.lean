import DeployOptions.Manager
import DeployOptions.Yaml.Document

/-! A folder of resource files, and the document in one of them. -/
namespace DeployOptions

inductive FolderEntry
  | file (bytes : List UInt8)
  | folder
deriving Repr

/-- A folder: names, which may lead through further folders, and what stands there. -/
abbrev Folder := List (String × FolderEntry)

/-- What a path leads to. A path with a name or as a whole too long, and one that holds a NUL,
cannot even be followed. -/
inductive Destination
  | file (bytes : List UInt8)
  | folder
  | missing
  | throughFile
  | tooLong
  | unusable
deriving Repr

namespace Folder

/-- The steps of a path; empty steps and single dots lead nowhere else. -/
def steps (path : String) : List (List Char) :=
  (Text.fields '/' path.toList).filter fun s => s ≠ [] ∧ s ≠ ['.']

private def standsAt (f : Folder) (place : List (List Char)) : Destination :=
  match f.find? fun e => steps e.1 = place with
  | some (_, .file bytes) => .file bytes
  | some (_, .folder) => .folder
  | none =>
    if place.all (· = ['.', '.']) ∨ f.any fun e => place.isPrefixOf (steps e.1) then .folder
    else .missing

/-- One step on from a place. Two dots lead back, or further out. -/
private def step (place : List (List Char)) (s : List Char) : List (List Char) :=
  if s = ['.', '.'] ∧ place.getLast?.any (· ≠ ['.', '.']) then place.dropLast else place ++ [s]

def longestName : Nat := 255

def longestPath : Nat := 4095

private def size (s : List Char) : Nat := (Text.Utf8.encode s).length

private def follow (f : Folder) (place : List (List Char)) : List (List Char) → Destination
  | [] => f.standsAt place
  | s :: r =>
    match f.standsAt place with
    | .folder => if longestName < size s then .tooLong else follow f (step place s) r
    | .file _ => .throughFile
    | d => d

/-- Whether a path says that it leads to a folder: by a slash or a dot at its end. -/
private def namesFolder (path : List Char) : Bool :=
  match (Text.fields '/' path).getLast? with
  | some last => last = [] || last = ['.']
  | none => false

/-- Follows a path from the folder. Outside of it, only the root is known, which is a folder. -/
def follow? (f : Folder) (path : String) : Destination :=
  let s := path.toList
  if '\x00' ∈ s then .unusable
  else if s.isEmpty then .missing
  else if longestPath < size s then .tooLong
  else if s.head? = some '/' then
    match (steps path).filter (· ≠ ['.', '.']) with
    | [] => .folder
    | name :: _ => if longestName < size name then .tooLong else .missing
  else
    match f.follow [] (steps path) with
    | .file bytes => if namesFolder s then .throughFile else .file bytes
    | d => d

def unifyLineEnds : List Char → List Char
  | [] => []
  | '\r' :: '\n' :: r => '\n' :: unifyLineEnds r
  | c :: r => (if c = '\r' then '\n' else c) :: unifyLineEnds r

/-- The text of a file. A sequence that the end of the file cuts off is read on its own, so the
place of its fault is counted from its own start. -/
def text (bytes : List UInt8) : Except Failure (List Char) :=
  match Text.Utf8.decode bytes with
  | .ok s => .ok (unifyLineEnds s)
  | .error f =>
    .error (.undecodableFile (if f.kind = .truncated then { f with position := 0 } else f))

private def isNull : Value → Bool
  | .null => true
  | _ => false

def entriesOf (path : String) (s : List Char) : Except Failure (List (Value × Value)) :=
  match Yaml.documents s with
  | .error (.unreadable f) => .error (.unreadableScalar f)
  | .error f => .error (Cause.fileMalformed path f)
  | .ok values =>
    match (values.filter (!isNull ·)).map Value.opened with
    | [] => .error (Cause.fileEmpty path)
    | [.map entries] => .ok entries
    | [_] => .error (Cause.fileNotMapping path)
    | _ => .error (Cause.fileHoldsMany path)

def entries (f : Folder) (path : String) : Except Failure (List (Value × Value)) :=
  match f.follow? path with
  | .file bytes => (text bytes).bind (entriesOf path)
  | .missing => .error (Cause.fileMissing path)
  | .folder => .error (.notAFile path)
  | .throughFile => .error (.notAFolder path)
  | .tooLong => .error (.pathTooLong path)
  | .unusable => .error .unusablePath

private def isManagerKind : Value → Bool
  | .str s => s = "APIManager"
  | _ => false

def manager (f : Folder) (path : String) : Except Failure Manager := do
  let entries ← f.entries path
  let kind := Value.get entries "kind"
  if !isManagerKind kind then throw (.ofCause (.wrongKind path kind))
  Manager.ofDocument (.map entries)

end Folder
end DeployOptions
