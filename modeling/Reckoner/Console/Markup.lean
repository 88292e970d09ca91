import Reckoner.Console.Pictures
import Reckoner.Console.Style

/-!
Texts with markup. A tag in square brackets opens a style, or closes one that is open; backslashes
before a tag escape it, and each other. Styles are not shown here, so that rendering a text leaves
what is between the tags; a closing tag with nothing to close is an error. `escape` writes a text so
that no part of it is taken for a tag.
-/

namespace Reckoner.Console

def isTagStart (c : Char) : Bool :=
  ('a' ≤ c && c ≤ 'z') || c = '#' || c = '/' || c = '@'

structure TagMatch where
  backslashes : Nat
  inside : List Char
deriving DecidableEq, Repr

def TagMatch.length (m : TagMatch) : Nat := m.backslashes + m.inside.length + 2

/-- The tag at the beginning of a text, after any backslashes. A tag goes up to the first closing
bracket, and holds no opening one. -/
def tagAt? (chars : List Char) : Option TagMatch :=
  let backslashes := (chars.takeWhile (· = '\\')).length
  match chars.drop backslashes with
  | '[' :: c :: rest =>
    let inside := rest.takeWhile fun c => c ≠ '[' && c ≠ ']'
    if isTagStart c && (rest.drop inside.length).head? = some ']' then
      some ⟨backslashes, c :: inside⟩
    else none
  | _ => none

inductive Part where
  | plain (chars : List Char)
  | tagged (m : TagMatch) (position : Nat)
deriving DecidableEq, Repr

def consPlain (c : Char) : List Part → List Part
  | .plain chars :: rest => .plain (c :: chars) :: rest
  | parts => .plain [c] :: parts

/-- The parts of a text that begins at a place, and of which the first `skip` characters belong to
the match before. -/
def partsFrom (position : Nat) : Nat → List Char → List Part
  | _, [] => []
  | skip + 1, _ :: rest => partsFrom (position + 1) skip rest
  | 0, c :: rest =>
    match tagAt? (c :: rest) with
    | some m => .tagged m position :: partsFrom (position + 1) (m.length - 1) rest
    | none => consPlain c (partsFrom (position + 1) 0 rest)

def parts (chars : List Char) : List Part := partsFrom 0 0 chars

def bracketed (inside : List Char) : List Char := '[' :: (inside ++ [']'])

/-- Write a text so that no part of it is taken for a tag. Backslashes before a tag are doubled and
one is added; one at the end of the text is doubled if it stands alone there. -/
def escape (text : String) : String :=
  let escaped := (parts text.toList).flatMap fun
    | .plain chars => chars
    | .tagged m _ =>
      List.replicate (2 * m.backslashes) '\\' ++ '\\' :: bracketed m.inside
  let isOpenEnd := escaped.getLast? = some '\\' && escaped.dropLast.getLast? ≠ some '\\'
  String.ofList (if isOpenEnd then escaped ++ ['\\'] else escaped)

/-- A tag: its name, and what follows an equals sign. A name that begins with a slash closes what
another tag has opened. -/
structure Tag where
  name : List Char
  parameters : Option (List Char)
deriving DecidableEq, Repr

def Tag.ofInside (inside : List Char) : Tag :=
  let name := inside.takeWhile (· ≠ '=')
  ⟨name, if name.length < inside.length then some (inside.drop (name.length + 1)) else none⟩

def Tag.written (tag : Tag) : List Char :=
  bracketed (match tag.parameters with
    | none => tag.name
    | some parameters => tag.name ++ '=' :: parameters)

inductive MarkupError where
  | nothingOpen (position : Nat)
  | notOpen (tag : Tag) (position : Nat)
deriving DecidableEq, Repr

def MarkupError.message : MarkupError → String
  | nothingOpen position =>
    "closing tag '[/]' at position " ++ toString position ++ " has nothing to close"
  | notOpen tag position =>
    "closing tag '" ++ String.ofList tag.written ++ "' at position " ++ toString position ++
      " doesn't match any open tag"

/-- What is seen of a text: a backslash before an opening bracket is dropped, codes of pictures are
replaced, and the controls that would move the cursor are left out. -/
def visible (chars : List Char) : List Char :=
  (replacePictures (withoutEscapes chars)).filter (!isCursorControl ·)
where
  withoutEscapes : List Char → List Char
    | '\\' :: '[' :: rest => '[' :: withoutEscapes rest
    | c :: rest => c :: withoutEscapes rest
    | [] => []
  isCursorControl (c : Char) : Bool :=
    c = '\x07' || c = '\x08' || c = '\x0b' || c = '\x0c' || c = '\x0d'

/-- Open or close a style, given the normal forms of the open ones, the last one first. Only closing
can fail: a style that is not open cannot be closed, and neither can nothing. -/
def applyTag (tag : Tag) (position : Nat) (opened : List String) :
    Except MarkupError (List String) :=
  match tag.name with
  | '/' :: name =>
    let name := Text.trim name
    match name, opened with
    | [], [] => .error (.nothingOpen position)
    | [], _ :: rest => .ok rest
    | _, _ =>
      let style := normalStyle (String.ofList name)
      if opened.contains style then .ok (opened.erase style) else .error (.notOpen tag position)
  | name => .ok (normalStyle (String.ofList name) :: opened)

def renderParts (opened : List String) : List Part → Except MarkupError (List Char)
  | [] => .ok []
  | .plain chars :: rest => do return visible chars ++ (← renderParts opened rest)
  | .tagged m position :: rest => do
    let literal := List.replicate (m.backslashes / 2) '\\'
    if m.backslashes % 2 = 1 then
      return literal ++ visible (bracketed m.inside) ++ (← renderParts opened rest)
    else
      let opened ← applyTag (.ofInside m.inside) (position + m.backslashes) opened
      return literal ++ (← renderParts opened rest)

def renderMarkup (markup : String) : Except MarkupError (List Char) :=
  renderParts [] (parts markup.toList)

end Reckoner.Console
