import Reckoner.Json.Reader

/-!
The endpoints of the server and the way to them. An endpoint has one method and a path of segments,
some of which are parameters; slashes at the end of a path are passed over when the path leads
nowhere with them.
-/

namespace Reckoner.Server

/-- What can be asked of the server. Parameters are as they stand in the path, and are checked when
the request is handled. -/
inductive Endpoint where
  | health
  | configuration
  | createSession
  | showSession (identifier : String)
  | removeSession (identifier : String)
  | pressKey (identifier : String)
  | evaluate (identifier : String)
  | history (identifier : String)
  | selectHistory (identifier index : String)
  | startCapture (identifier : String)
  | stopCapture (identifier : String)
  | submitTranscript (identifier : String)
deriving DecidableEq, Repr

/-- The endpoints of a path that begins with the version of the interface, by their methods. A path
that has some is known, even if the method is none of theirs. -/
def versionedEndpoints : List String → List (String × Endpoint)
  | ["config"] => [("GET", .configuration)]
  | ["sessions"] => [("POST", .createSession)]
  | ["sessions", id] => [("GET", .showSession id), ("DELETE", .removeSession id)]
  | ["sessions", id, "keys"] => [("POST", .pressKey id)]
  | ["sessions", id, "evaluate"] => [("POST", .evaluate id)]
  | ["sessions", id, "history"] => [("GET", .history id)]
  | ["sessions", id, "history", index, "select"] => [("POST", .selectHistory id index)]
  | ["sessions", id, "capture", "start"] => [("POST", .startCapture id)]
  | ["sessions", id, "capture", "stop"] => [("POST", .stopCapture id)]
  | ["sessions", id, "capture", "transcripts"] => [("POST", .submitTranscript id)]
  | _ => []

/-- The endpoints of a path, given by its segments. No segment is empty, so a slash at the end or
two in a row lead nowhere. -/
def endpointsOf (segments : List String) : List (String × Endpoint) :=
  if segments.any String.isEmpty then []
  else
    match segments with
    | ["health"] => [("GET", .health)]
    | "api" :: "v1" :: rest => versionedEndpoints rest
    | _ => []

def splitSegments : List Char → List (List Char)
  | [] => [[]]
  | '/' :: rest => [] :: splitSegments rest
  | c :: rest =>
    match splitSegments rest with
    | first :: others => (c :: first) :: others
    | [] => [[c]]

/-- The segments of a path, which begins with a slash. What stands before that slash is empty and is
left out. -/
def segmentsOf (path : List Char) : List String :=
  ((splitSegments path).drop 1).map String.ofList

def withoutLastSlashes (path : List Char) : List Char :=
  (path.reverse.dropWhile (· = '/')).reverse

/-- The path of a target: what stands before a query, with the escapes of ASCII characters
undone. -/
def pathOf (target : String) : List Char :=
  unescape (target.toList.takeWhile fun c => c ≠ '?' && c ≠ '#')
where
  unescape : List Char → List Char
    | '%' :: a :: b :: rest =>
      match Json.hexDigit? a, Json.hexDigit? b with
      | some high, some low =>
        if high < 8 then Char.ofNat (high * 16 + low) :: unescape rest
        else '%' :: a :: b :: unescape rest
      | _, _ => '%' :: unescape (a :: b :: rest)
    | c :: rest => c :: unescape rest
    | [] => []

inductive RouteError where
  | notFound
  | methodNotAllowed
deriving DecidableEq, Repr

def Endpoint.find (method target : String) : Except RouteError Endpoint :=
  let path := pathOf target
  let candidates := match endpointsOf (segmentsOf path) with
    | [] => endpointsOf (segmentsOf (withoutLastSlashes path))
    | found => found
  match candidates.lookup method with
  | some endpoint => .ok endpoint
  | none => .error (if candidates.isEmpty then .notFound else .methodNotAllowed)

end Reckoner.Server
