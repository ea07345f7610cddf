import Wiretap.Cookie.Reading
import Wiretap.Cookie.Suffix
import Wiretap.Header.Value

/-!
# Cookie jars

A jar keeps the cookies that responses set, and knows which of them belong to a
request.  It refuses cookies for a public suffix, unless the suffix itself is the
host that sets them; they are then kept for that host alone.

* `Jar.add?` takes a cookie or refuses it; a refusal changes nothing.
* `Jar.add` (`add_cookie_str`) gives the jar and says whether the cookie was taken;
  `Jar.addAll` (`set_cookies`) takes those of a response.
* `Jar.header?` (`cookie_header`) is what belongs to a request, and `Jar.carried?` (`cookies`)
  what the request carries of it.
-/

namespace Wiretap
namespace Cookie

/-- Cookies, at most one of each key. -/
structure Jar where
  /-- The cookies, oldest first. -/
  cookies : List Cookie
deriving DecidableEq

namespace Jar

/-- A jar without cookies. -/
def empty : Jar := ⟨[]⟩

/-- The cookie of a key, unless it has expired. -/
def find? (jar : Jar) (key : String × String × String) (now : Int) : Option Cookie :=
  jar.cookies.find? fun cookie => cookie.key = key && !cookie.isExpired now

/-- Drops the cookie of a key. -/
def erase (jar : Jar) (key : String × String × String) : Jar :=
  ⟨jar.cookies.filter fun cookie => cookie.key ≠ key⟩

/-- Puts a cookie in place of the one of its key. -/
def put (jar : Jar) (cookie : Cookie) : Jar :=
  ⟨(jar.erase cookie.key).cookies ++ [cookie]⟩

/-- Keeps a cookie of a public suffix for the host that sets it, if it is that suffix. -/
def narrow? (suffixes : Suffixes) (cookie : Cookie) (url : Url) : Option Cookie :=
  if suffixes.isPublic cookie.scope.name then
    if url.hostText? = some cookie.scope.name then
      (storedHost? url).map fun host => { cookie with scope := .host host }
    else none
  else some cookie

/-- Takes a cookie that has been read.  One that has expired takes the cookie of its key away. -/
def insert? (suffixes : Suffixes) (now : Int) (jar : Jar) (cookie : Cookie) (url : Url) :
    Option Jar := do
  let cookie ← narrow? suffixes cookie url
  if cookie.scope.covers url.hostText? then
    match jar.find? cookie.key now with
    | some old =>
      -- A cookie kept from scripts can only be replaced by the protocol.
      if old.httpOnly && !isHttp url then none
      else if cookie.isExpired now then some (jar.erase cookie.key)
      else some (jar.put cookie)
    | none => if cookie.isExpired now then none else some (jar.put cookie)
  else none

/-- Takes the cookie that a response from an address sets. -/
def add? (suffixes : Suffixes) (now : Int) (jar : Jar) (text : String) (url : Url) : Option Jar :=
  (Cookie.ofText? text url now).bind fun cookie => jar.insert? suffixes now cookie url

/-- Takes the cookie that a response from an address sets; the flag tells whether it was taken. -/
def add (suffixes : Suffixes) (now : Int) (jar : Jar) (text : String) (url : Url) : Jar × Bool :=
  match jar.add? suffixes now text url with
  | some next => (next, true)
  | none => (jar, false)

/-- Takes the cookies of header values; values that are not UTF-8 are passed over. -/
def addAll (suffixes : Suffixes) (now : Int) (jar : Jar) (values : List Header.Value) (url : Url) :
    Jar :=
  values.foldl (fun jar value =>
    match Utf8.text? value.bytes with
    | some text => (jar.add suffixes now text url).1
    | none => jar) jar

/-- The domain that the name of a stored cookie stands for when it is looked up. -/
def storedScope? (name : String) : Option Scope :=
  match asciiName? name with
  | none => none
  | some ascii =>
    if ascii = "" ∨ ascii = "." then none
    else
      match ascii.toList with
      | '.' :: rest => some (.under (String.ofList rest))
      | _ => some (.under ascii)

/-- Whether a cookie is found under its domain by a request. -/
def isFound (cookie : Cookie) (url : Url) : Bool :=
  match storedScope? cookie.scope.name with
  | some scope => scope.covers url.hostText?
  | none => false

/-- The cookies that belong to a request. -/
def matching (jar : Jar) (url : Url) (now : Int) : List Cookie :=
  jar.cookies.filter fun cookie => isFound cookie url && cookie.isSentTo url now

/-- The cookies that belong to a request as one text, if there are any. -/
def header? (jar : Jar) (url : Url) (now : Int) : Option String :=
  match jar.matching url now with
  | [] => none
  | cookies => some ("; ".intercalate (cookies.map Cookie.text))

/-- What a request carries: nothing if the text is no legal header value. -/
def carried? (jar : Jar) (url : Url) (now : Int) : Option Header.Value :=
  (jar.header? url now).bind Header.Value.ofString?

/-- A refused cookie leaves the jar as it is. -/
theorem add_eq_self_of_refused {suffixes : Suffixes} {now : Int} {jar : Jar} {text : String}
    {url : Url} (h : (jar.add suffixes now text url).2 = false) :
    (jar.add suffixes now text url).1 = jar := by
  unfold add at h ⊢
  split at h <;> simp_all

end Jar
end Cookie
end Wiretap
