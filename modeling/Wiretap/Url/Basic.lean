import Wiretap.Url.Host

/-!
# Addresses

The parts of an absolute address and its text.

* `Url` holds each part in the form in which it is written, coded where needed.
* `Url.target` is the part that a request line shows: path and query.
* `Url.text` writes the whole address.
-/

namespace Wiretap

/-- A path. -/
inductive Url.Path where
  /-- A path without structure, in an address that cannot be the base of others. -/
  | rootless (chars : List Char)
  /-- Segments, each behind a slash. -/
  | segments (list : List (List Char))
deriving DecidableEq

/-- The text of a path. -/
def Url.Path.chars : Url.Path → List Char
  | .rootless chars => chars
  | .segments list => list.flatMap fun segment => '/' :: segment

/-- An absolute address. -/
structure Url where
  /-- The scheme, in lowercase. -/
  scheme : String
  /-- The user name. -/
  username : List Char
  /-- The password, if there is a non-empty one. -/
  password : Option (List Char)
  /-- The host, if the address names one; it may be empty. -/
  host : Option Host
  /-- The port, if it is not the one that the scheme implies. -/
  port : Option Nat
  /-- The path. -/
  path : Url.Path
  /-- What stands between the question mark and the fragment. -/
  query : Option (List Char)
  /-- What stands behind the number sign. -/
  fragment : Option (List Char)
deriving DecidableEq

namespace Url

/-- The port that a scheme implies. -/
def defaultPort? (scheme : String) : Option Nat :=
  match scheme with
  | "http" => some 80
  | "ws" => some 80
  | "https" => some 443
  | "wss" => some 443
  | "ftp" => some 21
  | _ => none

/-- Whether a scheme always has a host, and backslashes count as slashes. -/
def isHostScheme (scheme : String) : Bool :=
  (defaultPort? scheme).isSome

/-- Whether a scheme is special; besides those with a host these are files. -/
def isSpecial (scheme : String) : Bool :=
  isHostScheme scheme || scheme == "file"

/-- Whether the scheme is one of the protocol. -/
def isHttp (url : Url) : Bool :=
  url.scheme == "http" || url.scheme == "https"

/-- The text of the host, if there is one that is not empty. -/
def hostText? (url : Url) : Option String :=
  match url.host with
  | none => none
  | some .empty => none
  | some host => some host.text

/-- The text of the path. -/
def pathText (url : Url) : String := String.ofList url.path.chars

/-- The question mark with the query. -/
def queryPart (url : Url) : List Char :=
  match url.query with
  | some query => '?' :: query
  | none => []

/-- The number sign with the fragment. -/
def fragmentPart (url : Url) : List Char :=
  match url.fragment with
  | some fragment => '#' :: fragment
  | none => []

/-- Path and query. -/
def target (url : Url) : List Char := url.path.chars ++ url.queryPart

/-- User name and password with the mark behind them. -/
def userinfoPart (url : Url) : List Char :=
  match url.password with
  | some password => url.username ++ ':' :: password ++ ['@']
  | none => if url.username.isEmpty then [] else url.username ++ ['@']

/-- The colon with the port. -/
def portPart (url : Url) : List Char :=
  match url.port with
  | some port => ':' :: (toString port).toList
  | none => []

/-- The host with what stands around it; without a host, a path that would look like one is
kept apart by a dot. -/
def authorityPart (url : Url) : List Char :=
  match url.host with
  | some host => '/' :: '/' :: (url.userinfoPart ++ host.text.toList ++ url.portPart)
  | none =>
    match url.path with
    | .segments ([] :: _ :: _) => ['/', '.']
    | _ => []

/-- The address as text. -/
def chars (url : Url) : List Char :=
  url.scheme.toList ++ ':' :: (url.authorityPart ++ url.target ++ url.fragmentPart)

/-- The address as text. -/
def text (url : Url) : String := String.ofList url.chars

end Url
end Wiretap
