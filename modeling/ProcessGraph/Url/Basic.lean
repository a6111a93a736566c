import ProcessGraph.Text.FormEncoded
import ProcessGraph.Url.Host

/-!
# Absolute URLs

* `Url`: the parts of an absolute URL, each in its written, percent-encoded form.
* `Url.chars`, `Url.text`: the written URL.
* `Url.appendPair`: one more pair at the end of the query.
* `Url.queryPairs`: the decoded pairs of the query.
-/

namespace ProcessGraph

namespace Url

/-- A path: segments, each after a slash, or a text that is not interpreted. -/
inductive Path where
  | segments (parts : List (List Char))
  | plain (chars : List Char)
deriving DecidableEq, Repr

/-- The written path. -/
def Path.chars : Path → List Char
  | segments parts => parts.flatMap fun p => '/' :: p
  | plain cs => cs

end Url

/-- An absolute URL. Without a host it has no authority part. -/
structure Url where
  scheme : List Char
  username : List Char
  password : List Char
  host : Option Url.Host
  port : Option Nat
  path : Url.Path
  query : Option (List Char)
  fragment : Option (List Char)
deriving DecidableEq, Repr

namespace Url

/-- The schemes of web addresses. -/
def isWebScheme (scheme : List Char) : Bool :=
  ["http", "https", "ws", "wss", "ftp"].any (·.toList == scheme)

/-- The scheme of local files. -/
def isFileScheme (scheme : List Char) : Bool := scheme == "file".toList

/-- The schemes whose hosts and paths are interpreted. -/
def isSpecialScheme (scheme : List Char) : Bool := isWebScheme scheme || isFileScheme scheme

/-- The port that a scheme implies. -/
def defaultPort (scheme : List Char) : Option Nat :=
  if scheme = "http".toList ∨ scheme = "ws".toList then some 80
  else if scheme = "https".toList ∨ scheme = "wss".toList then some 443
  else if scheme = "ftp".toList then some 21
  else none

/-- The credentials, with the sign that ends them. -/
def userinfoChars (u : Url) : List Char :=
  if u.username.isEmpty && u.password.isEmpty then []
  else
    u.username ++ ((if u.password.isEmpty then [] else ':' :: u.password) ++ ['@'])

/-- The port, with its colon. -/
def portChars (u : Url) : List Char :=
  match u.port with
  | some p => ':' :: Nat.toDigits 10 p
  | none => []

/-- The authority part. A path that begins with two slashes is set off from a missing one. -/
def authorityChars (u : Url) : List Char :=
  match u.host with
  | some h => '/' :: '/' :: (u.userinfoChars ++ (h.chars ++ u.portChars))
  | none =>
    match u.path with
    | .segments ([] :: _ :: _) => ['/', '.']
    | _ => []

/-- The query, with its question mark. -/
def queryChars (u : Url) : List Char :=
  match u.query with
  | some q => '?' :: q
  | none => []

/-- The fragment, with its number sign. -/
def fragmentChars (u : Url) : List Char :=
  match u.fragment with
  | some f => '#' :: f
  | none => []

/-- The written URL without its fragment. -/
def charsWithoutFragment (u : Url) : List Char :=
  u.scheme ++ ':' :: (u.authorityChars ++ (u.path.chars ++ u.queryChars))

/-- The written URL. -/
def chars (u : Url) : List Char := u.charsWithoutFragment ++ u.fragmentChars

/-- The written URL. -/
def text (u : Url) : String := String.ofList u.chars

/-- The URL with one more pair at the end of its query. -/
def appendPair (u : Url) (name value : List Char) : Url :=
  let pair := Text.FormEncoded.pair name value
  let query :=
    match u.query with
    | none | some [] => pair
    | some q => q ++ '&' :: pair
  { u with query := some query }

/-- The decoded pairs of the query. -/
def queryPairs (u : Url) : List (List Char × List Char) :=
  Text.FormEncoded.pairs (Text.Utf8.encode (u.query.getD []))

end Url

end ProcessGraph
