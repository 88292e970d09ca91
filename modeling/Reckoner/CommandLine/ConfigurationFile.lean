import Reckoner.Document.Reader
import Reckoner.Text.Quoted

/-!
Configuration files. A file holds a document that denotes a mapping from the names of settings to
values; pairs in a sequence are taken for a mapping, and an empty document for an empty one.
-/

namespace Reckoner.CommandLine

inductive File where
  | missing
  | directory
  | text (content : String)

def pathParts : List Char → List (List Char)
  | [] => [[]]
  | '/' :: rest => [] :: pathParts rest
  | c :: rest =>
    match pathParts rest with
    | part :: others => (c :: part) :: others
    | [] => [[c]]

/-- A path in its shortest spelling: without empty parts and parts that lead nowhere. Two slashes at
the beginning stay, more of them count as one. -/
def normalPath (path : String) : String :=
  let slashes := (path.toList.takeWhile (· = '/')).length
  let root := if slashes = 0 then "" else if slashes = 2 then "//" else "/"
  let parts := (pathParts path.toList).filter fun part => !part.isEmpty && part ≠ ['.']
  let shortest := root ++ "/".intercalate (parts.map String.ofList)
  if shortest.isEmpty then "." else shortest

inductive FileError where
  | directory (path : String)
  | unreadable
  /-- The document is one value of this kind, which has no parts. -/
  | noParts (kind : String)
  /-- The part at an index has no parts of its own. -/
  | noPair (index : Nat)
  /-- The part at an index does not have two parts. -/
  | partCount (index count : Nat)
  /-- A value of this kind stands where a name is needed. -/
  | noName (kind : String)
deriving DecidableEq, Repr

def FileError.message : FileError → String
  | directory path => "[Errno 21] Is a directory: " ++ String.ofList (Text.quoted path.toList)
  | unreadable => "The document cannot be read"
  | noParts kind => "'" ++ kind ++ "' object is not iterable"
  | noPair index =>
    "cannot convert dictionary update sequence element #" ++ toString index ++ " to a sequence"
  | partCount index count =>
    "dictionary update sequence element #" ++ toString index ++ " has length " ++ toString count ++
      "; 2 is required"
  | noName kind => "unhashable type: '" ++ kind ++ "'"

/-- The parts of a value: the elements of an array, the keys of an object and the characters of a
string. -/
def valueParts? : Json → Option (List Json)
  | .array elements => some elements
  | .object members => some (members.map fun (key, _) => .string key)
  | .string s => some (s.toList.map fun c => .string (String.singleton c))
  | _ => none

/-- The name that a value is. A value that is no text names no setting and is passed over; a
sequence or mapping cannot stand as a name at all. -/
def nameOf (value : Json) : Except FileError (Option String) :=
  match value with
  | .string s => .ok (some s)
  | .array _ | .object _ => .error (.noName value.kind)
  | _ => .ok none

/-- The mapping of pairs, of which the first has an index. The index is only there for the message
about an element that is no pair. -/
def mappingOfPairs (index : Nat) (mapping : List (String × Json)) :
    List Json → Except FileError (List (String × Json))
  | [] => .ok mapping
  | pair :: rest =>
    match valueParts? pair with
    | none => .error (.noPair index)
    | some [name, value] => do
      match ← nameOf name with
      | some name => mappingOfPairs (index + 1) (Json.setMember name value mapping) rest
      | none => mappingOfPairs (index + 1) mapping rest
    | some parts => .error (.partCount index parts.length)

def mappingOf (value : Json) : Except FileError (List (String × Json)) :=
  if value.isVacant then .ok []
  else
    match value with
    | .object members => .ok members
    | other =>
      match valueParts? other with
      | some parts => mappingOfPairs 0 [] parts
      | none => .error (.noParts other.kind)

/-- The mapping that a file holds, `none` if there is no file. Every other reason for not having a
mapping is an error, and each has its own message. -/
def File.mapping? (path : String) : File → Except FileError (Option (List (String × Json)))
  | missing => .ok none
  | directory => .error (.directory (normalPath path))
  | text content =>
    match Document.read? content with
    | some value => (mappingOf value).map some
    | none => .error .unreadable

end Reckoner.CommandLine
