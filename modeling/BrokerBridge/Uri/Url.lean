import BrokerBridge.Uri.Host

/-!
# URLs

`Url.parse` reads a URL from left to right: the scheme, the user, the host and the port, the path
and the query.  Tabs and line ends count for nothing anywhere, nor do spaces and controls at the
two ends.  A scheme that the web knows (`SchemeKind.web`, `SchemeKind.file`) needs no slashes after
it, takes a backslash for a slash and must have a host; any other is read as it stands, and without
a slash after the scheme it has no parts at all.
-/
namespace BrokerBridge.Uri

/-- How the rest of a URL is read. -/
inductive SchemeKind where
  | web
  | file
  | other
  deriving DecidableEq, Repr

/-- The kind of a scheme. -/
def SchemeKind.ofScheme (scheme : String) : SchemeKind :=
  if scheme = "file" then .file
  else if scheme ∈ ["http", "https", "ws", "wss", "ftp"] then .web
  else .other

/-- A URL. -/
structure Url where
  scheme : String
  /-- Whether the URL has no parts after its scheme. -/
  isWhole : Bool := false
  username : List Char := []
  password : Option (List Char) := none
  host : Option Host := none
  port : Option Nat := none
  path : List Char := []
  query : Option (List Char) := none
  deriving Repr

/-- The text of the host; empty when there is none. -/
def Url.hostText (u : Url) : String := (u.host.map Host.text).getD ""

/-! ## 1. The scheme -/

/-- Whether a character counts for nothing in a URL. -/
def isIgnored (c : Char) : Bool := c = '\t' || c = '\n' || c = '\r'

/-- Whether a character counts for nothing at the ends of a URL. -/
def isEdge (c : Char) : Bool := c.toNat ≤ 0x20

/-- The characters of a text that count. -/
def significant (text : String) : List Char :=
  ((text.toList.dropWhile isEdge).reverse.dropWhile isEdge).reverse.filter fun c => !isIgnored c

/-- Whether a character may stand in a scheme after its first letter. -/
def isSchemeChar (c : Char) : Bool :=
  c.isAlphanum || c = '+' || c = '-' || c = '.'

/-- The scheme of a text in lower case, and what follows the colon after it. -/
def scheme? (cs : List Char) : Option (String × List Char) :=
  match cs.head?, cs.dropWhile isSchemeChar with
  | some c, ':' :: rest =>
    if c.isAlpha then some (String.ofList ((cs.takeWhile isSchemeChar).map Char.toLower), rest)
    else none
  | _, _ => none

/-! ## 2. User, host and port -/

/-- Whether a character ends the part of a URL that names the host. -/
def endsAuthority (kind : SchemeKind) (c : Char) : Bool :=
  c = '/' || c = '?' || c = '#' || (kind ≠ .other && c = '\\')

/-- The user of a URL, and what follows it. -/
structure Credentials where
  username : List Char := []
  password : Option (List Char) := none
  rest : List Char

/-- The part before the last `@` in front of the host, if there is one. -/
def userText? (kind : SchemeKind) (cs : List Char) : Option (List Char × List Char) :=
  let authority := cs.takeWhile fun c => !endsAuthority kind c
  if '@' ∈ authority then
    let behind := (authority.reverse.takeWhile (· ≠ '@')).length
    some (authority.take (authority.length - behind - 1), cs.drop (authority.length - behind))
  else none

/-- Reads the user: a name and, after the first colon, a password that is not empty. -/
def readCredentials (kind : SchemeKind) (cs : List Char) : Except UrlFault Credentials :=
  match userText? kind cs with
  | none => .ok { rest := cs }
  | some ([], rest) =>
    match rest with
    | c :: _ => if endsAuthority kind c then .error .emptyHost else .ok { rest }
    | [] => .ok { rest }
  | some (user, rest) =>
    let password := match user.dropWhile (· ≠ ':') with
      | ':' :: c :: more => some (c :: more)
      | _ => none
    .ok ⟨user.takeWhile (· ≠ ':'), password, rest⟩

/-- Whether a user was given. -/
def Credentials.isGiven (c : Credentials) : Bool := !c.username.isEmpty || c.password.isSome

/-- The characters of the host and what follows them; a colon between brackets ends no host. -/
def spanHost (kind : SchemeKind) : (inBrackets : Bool) → List Char → List Char × List Char
  | _, [] => ([], [])
  | inBrackets, c :: rest =>
    if endsAuthority kind c || (c = ':' && !inBrackets) then ([], c :: rest)
    else
      let inBrackets := if c = '[' then true else if c = ']' then false else inBrackets
      let (host, after) := spanHost kind inBrackets rest
      (c :: host, after)

/-- Reads the digits of a port after its colon; `value` is that of the digits read. -/
def readPort (value : Option Nat) : List Char → Except UrlFault (Option Nat × List Char)
  | [] => .ok (value, [])
  | c :: rest =>
    match digit? c with
    | some d =>
      let next := value.getD 0 * 10 + d
      if 65535 < next then .error .invalidPort else readPort (some next) rest
    | none =>
      if c = '/' ∨ c = '\\' ∨ c = '?' ∨ c = '#' then .ok (value, c :: rest)
      else .error .invalidPort

/-- Reads the host by the rules of the scheme; a host that is empty is none. -/
def readHost (kind : SchemeKind) (cs : List Char) : Except UrlFault (Option Host) :=
  match kind with
  | .other => if cs.isEmpty then .ok none else (Host.ofOpaque cs).map some
  | _ => if cs.isEmpty then .error .emptyHost else (Host.ofDomain cs).map some

/-! ## 3. Path and query -/

/-- Whether a segment of a path leads one up. -/
def isUp (segment : List Char) : Bool :=
  String.ofList (segment.map Char.toLower) ∈ ["..", "%2e%2e", "%2e.", ".%2e"]

/-- Whether a segment of a path stays where it is. -/
def isHere (segment : List Char) : Bool :=
  String.ofList (segment.map Char.toLower) ∈ [".", "%2e"]

/-- Whether a path begins like a drive of a file system, after its slash. -/
def startsWithDrive : List Char → Bool
  | '/' :: c :: d :: rest =>
    c.isAlpha && (d = ':' || d = '|') &&
      (match rest with
        | [] => true
        | e :: _ => e = '/' || e = '\\' || e = '?' || e = '#')
  | _ => false

/-- A path up to and with its last slash. -/
def upToSlash (path : List Char) : List Char := (path.reverse.dropWhile (· ≠ '/')).reverse

/-- A path without its last segment: the slash behind it goes first, unless it is the root or
follows a drive. -/
def goUp (path : List Char) : List Char :=
  let parent := upToSlash path.dropLast
  if path.getLast? = some '/' ∧ parent ≠ [] ∧
      ¬ startsWithDrive (path.drop (parent.length - 1)) then parent
  else upToSlash path

/-- Adds a segment to a path; `slash` says that a slash follows it. -/
def addSegment (path segment : List Char) (slash : Bool) : List Char :=
  if isUp segment then
    let path := goUp path
    if slash ∧ path.getLast? ≠ some '/' then path ++ ['/'] else path
  else if isHere segment then
    if path.getLast? = some '/' then path else path ++ ['/']
  else path ++ segment ++ (if slash then ['/'] else [])

/-- Adds segments with slashes between them to a path. -/
def addSegments (path : List Char) : List (List Char) → List Char
  | [] => path
  | [segment] => addSegment path segment false
  | segment :: rest => addSegments (addSegment path segment true) rest

/-- The path of the characters in front of a query: the dots in it are resolved. -/
def pathOf (cs : List Char) : List Char :=
  match cs with
  | [] => []
  | '/' :: rest => addSegments ['/'] (splitAt (· == '/') rest)
  | cs => addSegments ['/'] (splitAt (· == '/') cs)

/-- The characters of the path, and the query after it. -/
def splitQuery (cs : List Char) : List Char × Option (List Char) :=
  let path := cs.takeWhile fun c => c ≠ '?' && c ≠ '#'
  match cs.drop path.length with
  | '?' :: query => (path, some (query.takeWhile (· ≠ '#')))
  | _ => (path, none)

/-! ## 4. The whole -/

/-- Gives a URL the path and the query that follow its host. -/
def Url.withRest (u : Url) (cs : List Char) : Url :=
  let (path, query) := splitQuery cs
  { u with path := pathOf path, query }

/-- Reads what follows two slashes. -/
def readAuthority (scheme : String) (kind : SchemeKind) (cs : List Char) : Except UrlFault Url := do
  let credentials ← readCredentials kind cs
  let (hostChars, rest) := spanHost kind false credentials.rest
  let host ← readHost kind hostChars
  if host = none ∧ rest.head? = some ':' then .error .emptyHost
  else
    let (port, rest) ← match rest with
      | ':' :: more => readPort none more
      | rest => .ok (none, rest)
    if host = none ∧ credentials.isGiven then .error .emptyHost
    else
      let u : Url := {
        scheme, username := credentials.username, password := credentials.password, host, port }
      .ok (u.withRest rest)

/-- Reads the host of a file, which may be missing. -/
def readFile (cs : List Char) : Except UrlFault Url :=
  let isSlash (c : Char) : Bool := c = '/' || c = '\\'
  match cs with
  | a :: b :: rest =>
    if isSlash a && isSlash b then
      let host := rest.takeWhile fun c => !endsAuthority .file c
      if host.isEmpty ∨ startsWithDrive ('/' :: host) then .ok { scheme := "file" }
      else (Host.ofDomain host).map fun h => { scheme := "file", host := some h }
    else .ok { scheme := "file" }
  | _ => .ok { scheme := "file" }

/-- Reads a URL. -/
def Url.parse (text : String) : Except UrlFault Url :=
  match scheme? (significant text) with
  | none => .error .relative
  | some (scheme, rest) =>
    match SchemeKind.ofScheme scheme with
    | .file => readFile rest
    | .web => readAuthority scheme .web (rest.dropWhile fun c => c = '/' || c = '\\')
    | .other =>
      match rest with
      | '/' :: '/' :: cs => readAuthority scheme .other cs
      | '/' :: cs => .ok (({ scheme } : Url).withRest ('/' :: cs))
      | _ => .ok { scheme, isWhole := true }

end BrokerBridge.Uri
