import DeployOptions.Console.Action.Expression
import DeployOptions.Console.Fault
import DeployOptions.Console.Picture
import DeployOptions.Console.Style
import DeployOptions.Console.Styled

/-! Console markup: text with style tags in square brackets. Only what is printed matters here, and
whether the closing tags match. -/
namespace DeployOptions.Console

inductive MarkupItem
  | text (s : List Char)
  | tag (position : Nat) (name : List Char) (parameter : Option (List Char))
deriving DecidableEq, Repr

def beginsTag (c : Char) : Bool :=
  ('a' ≤ c && c ≤ 'z') || c = '#' || c = '/' || c = '@'

/-- What a tag goes on with, up to a bracket of either kind. -/
def tagBody (s : List Char) : List Char := s.takeWhile fun x => x ≠ '[' && x ≠ ']'

def tag? (s : List Char) : Option (List Char × List Char) :=
  match s with
  | '[' :: c :: r =>
    match beginsTag c, r.drop (tagBody r).length with
    | true, ']' :: rest => some (c :: tagBody r, rest)
    | _, _ => none
  | _ => none

theorem tag?_length {s body rest : List Char} (h : tag? s = some (body, rest)) :
    rest.length < s.length := by
  unfold tag? at h
  split at h
  · next c r =>
    split at h
    · next heq =>
      simp only [Option.some.injEq, Prod.mk.injEq] at h
      have hlen := congrArg List.length heq
      simp only [List.length_drop, List.length_cons] at hlen
      simp only [List.length_cons, ← h.2]
      omega
    · simp at h
  · simp at h

def textItem (s : List Char) : List MarkupItem := if s.isEmpty then [] else [.text s]

def tagItem (position : Nat) (body : List Char) : MarkupItem :=
  let (name, parameter) := Text.cutFirst '=' body
  .tag position name parameter

/-- Reads on at `position`, with the text `plain` not yet delivered. Backslashes before a tag
stand in pairs for one each, and an odd one makes the tag a text. -/
def itemsFrom (position : Nat) (plain : List Char) (s : List Char) : List MarkupItem :=
  match s with
  | [] => textItem plain
  | c :: r =>
    let slashes := (c :: r).takeWhile (· = '\\')
    match _h : tag? ((c :: r).drop slashes.length) with
    | some (body, rest) =>
      let escaped := slashes.length % 2 = 1
      let kept := List.replicate (slashes.length / 2) '\\'
      let start := position + slashes.length / 2 * 2
      let next := position + slashes.length + body.length + 2
      textItem plain ++ textItem kept ++
        (if escaped then [.text ('[' :: body ++ [']'])] else [tagItem start body]) ++
        itemsFrom next [] rest
    | none => itemsFrom (position + 1) (plain ++ [c]) r
termination_by s.length
decreasing_by
  · have := tag?_length ‹_›
    simp only [List.length_drop] at this
    omega
  · simp

def markupItems (s : List Char) : List MarkupItem := itemsFrom 0 [] s

/-- A tag that has not been closed: where its span starts, its name in canonical form, and what
follows its equals sign. -/
structure OpenTag where
  start : Nat
  name : String
  parameter : Option (List Char)
deriving DecidableEq, Repr

namespace OpenTag

def span (stop : Nat) (t : OpenTag) : Span :=
  { start := t.start
    stop
    style := t.name.toList ++
      (match t.parameter with
        | none => []
        | some p => ' ' :: p) }

/-- The value that the parameter of an action writes out: what stands in the brackets of a call,
`()` for a name alone, and else all of it. -/
def actionValue (parameter : List Char) : List Char :=
  let stripped := Text.strip parameter
  let behindName := stripped.dropWhile fun c => c = '.' || Text.isNameCharacter c
  if behindName.isEmpty then ['(', ')']
  else if behindName.head? = some '(' && stripped.getLast? = some ')' && '\n' ∉ behindName then
    behindName
  else stripped

/-- Closes the tag. An action is checked only now, and it has no style. -/
def close (stop : Nat) (t : OpenTag) : Except MarkupFault Span :=
  match t.name.toList, t.parameter with
  | '@' :: _, some (c :: r) =>
    let value := actionValue (c :: r)
    match Action.checkValue value with
    | .ok () => .ok { t.span stop with style := [] }
    | .error fault => .error (.action value (c :: r) fault)
  | '@' :: _, _ => .ok { t.span stop with style := [] }
  | _, _ => .ok (t.span stop)

end OpenTag

/-- Takes out the tag that was opened last among those with a name. -/
def takeNamed (name : String) : List OpenTag → Option (OpenTag × List OpenTag)
  | [] => none
  | top :: r =>
    if top.name = name then some (top, r)
    else (takeNamed name r).map fun (t, r) => (t, top :: r)

def isUnprinted (c : Char) : Bool :=
  let n := c.toNat
  n = 7 || n = 8 || n = 11 || n = 12 || n = 13

/-- The text that markup prints, after what is `done` and within the tags that are `opened`, the
latest first. -/
def renderItems (done : Styled) (opened : List OpenTag) :
    List MarkupItem → Except MarkupFault Styled
  | [] =>
    let spans := done.spans ++ opened.map (OpenTag.span done.text.length)
    .ok { done with spans := spans.reverse.mergeSort fun a b => a.start ≤ b.start }
  | .text s :: r =>
    let shown := (withPictures (Text.replaceAll ['\\', '['] ['['] s)).filter (!isUnprinted ·)
    renderItems { done with text := done.text ++ shown } opened r
  | .tag position name parameter :: r =>
    match name with
    | '/' :: closing =>
      let closing := Text.strip closing
      if closing.isEmpty then
        match opened with
        | [] => .error (.nothingToClose position)
        | top :: opened => do
          let span ← top.close done.text.length
          renderItems { done with spans := done.spans ++ [span] } opened r
      else do
        let canonical ← (normalizeStyle closing).mapError .color
        match takeNamed canonical opened with
        | some (tag, opened) => do
          let span ← tag.close done.text.length
          renderItems { done with spans := done.spans ++ [span] } opened r
        | none =>
          let given := match parameter with
            | none => name
            | some p => name ++ '=' :: p
          .error (.unmatchedClosing ("[" ++ String.ofList given ++ "]") position)
    | _ => do
      let canonical ← (normalizeStyle name).mapError .color
      renderItems done (⟨done.text.length, canonical, parameter⟩ :: opened) r

def styledText (markup : List Char) : Except MarkupFault Styled :=
  renderItems ⟨[], []⟩ [] (markupItems markup)

def tagged (style text : String) : String := "[" ++ style ++ "]" ++ text ++ "[/" ++ style ++ "]"

def highlight (text : String) : String := tagged "highlight" text

end DeployOptions.Console
