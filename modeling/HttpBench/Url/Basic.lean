import HttpBench.Url.Address
import HttpBench.Url.Domain

/-!
# URLs

`Url.parse` reads an absolute URL of the web the way browsers do: it forgives
backslashes, blanks around the text, line breaks inside it and any number of
slashes behind the scheme, and it brings the URL into its one written form.
URLs of other schemes are checked for their host and then refused by name.

`Url.text` is the written form, `Url.appendQuery` adds pairs to the query.
-/

namespace HttpBench

namespace Url

/-- **Why a text is no URL of the web.** -/
inductive Error where
  /-- there is no scheme -/
  | relative
  | emptyHost
  /-- the host is no domain name -/
  | domain
  | port
  | ipv4
  | ipv6
  /-- a character that the host of another scheme may not hold -/
  | hostCharacter
  /-- a well-formed URL, but of another scheme -/
  | otherScheme (name : String)
deriving DecidableEq, Repr

/-- The text of an error for a reader. -/
def Error.message : Error → String
  | .relative => "relative URL without a base"
  | .emptyHost => "empty host"
  | .domain => "invalid international domain name"
  | .port => "invalid port number"
  | .ipv4 => "invalid IPv4 address"
  | .ipv6 => "invalid IPv6 address"
  | .hostCharacter => "invalid domain character"
  | .otherScheme name => "unsupported scheme " ++ name

end Url

/-- **The scheme** of a URL of the web. -/
inductive Scheme where
  | http
  | https
deriving DecidableEq, Repr, Inhabited

namespace Scheme

/-- The name of a scheme. -/
def name : Scheme → String
  | .http => "http"
  | .https => "https"

/-- The port of a scheme where a URL names none. -/
def defaultPort : Scheme → Nat
  | .http => 80
  | .https => 443

end Scheme

/-- **A host**: a domain, or an address. -/
inductive Host where
  | domain (name : String)
  | ipv4 (address : Nat)
  | ipv6 (pieces : List Nat)
deriving DecidableEq, Repr, Inhabited

namespace Host

/-- The host in a URL. -/
def text : Host → String
  | .domain name => name
  | .ipv4 address => Url.ipv4Text address
  | .ipv6 pieces => "[" ++ Url.ipv6Text pieces ++ "]"

/-- The host on its own, as a resolver takes it. -/
def plainText : Host → String
  | .domain name => name
  | .ipv4 address => Url.ipv4Text address
  | .ipv6 pieces => Url.ipv6PlainText pieces

/-- The host is an address. -/
def isAddress : Host → Bool
  | .domain _ => false
  | _ => true

end Host

/-- **A URL of the web**, every part in its written form. -/
structure Url where
  scheme : Scheme
  username : String
  password : String
  host : Host
  /-- a port other than the scheme's own -/
  port : Option Nat
  path : String
  query : Option String
  fragment : Option String
deriving DecidableEq, Repr, Inhabited

namespace Url

/-! ## Parts of the text -/

/-- Blanks and control characters around a URL are no part of it. -/
def isOuterBlank (c : Char) : Bool := c.toNat ≤ 0x20

/-- Tabs and line breaks are no part of a URL anywhere. -/
def isLineBlank (c : Char) : Bool := c == '\t' || c == '\n' || c == '\r'

/-- **The characters of a URL text.** -/
def significant (s : String) : List Char :=
  (((s.toList.dropWhile isOuterBlank).reverse.dropWhile isOuterBlank).reverse).filter (!isLineBlank ·)

/-- The scheme in lower case, and what follows its colon. -/
def splitScheme? (cs : List Char) : Option (String × List Char) :=
  let isSchemeChar := fun c : Char => c.isAlphanum || c == '+' || c == '-' || c == '.'
  match cs with
  | [] => none
  | first :: _ =>
    if first.isAlpha then
      match cs.dropWhile isSchemeChar with
      | ':' :: rest => some ((String.ofList (cs.takeWhile isSchemeChar)).toLower, rest)
      | _ => none
    else none

/-- A character that ends the authority. -/
def endsAuthority (special : Bool) (c : Char) : Bool :=
  c == '/' || c == '?' || c == '#' || (special && c == '\\')

/-- **The credentials** in front of the last `@` of the authority, and what follows. -/
def splitCredentials (special : Bool) (cs : List Char) : Option (List Char) × List Char :=
  let authority := cs.takeWhile (!endsAuthority special ·)
  let behind := cs.dropWhile (!endsAuthority special ·)
  if authority.contains '@' then
    let host := (authority.reverse.takeWhile (· != '@')).reverse
    (some (authority.take (authority.length - host.length - 1)), host ++ behind)
  else (none, cs)

/-- The user name and the password of credentials, encoded. -/
def credentials (cs : List Char) : String × String :=
  let user := cs.takeWhile (· != ':')
  let password := (cs.dropWhile (· != ':')).drop 1
  (encode .credentials user, encode .credentials password)

/-- **The host** up to a colon outside brackets or the end of the authority,
and what follows. -/
def splitHost (special : Bool) (cs : List Char) : List Char × List Char :=
  go false cs
where
  /-- `inside` tells whether a bracket is open. -/
  go (inside : Bool) : List Char → List Char × List Char
  | [] => ([], [])
  | c :: rest =>
    if endsAuthority special c || (c == ':' && !inside) then ([], c :: rest)
    else
      let inside := if c == '[' then true else if c == ']' then false else inside
      let (host, behind) := go inside rest
      (c :: host, behind)

/-- An address in brackets. -/
def bracketedHost (cs : List Char) : Except Error Host :=
  match cs with
  | '[' :: rest =>
    if rest.getLast? == some ']' then
      match ipv6? rest.dropLast with
      | some pieces => .ok (.ipv6 pieces)
      | none => .error .ipv6
    else .error .ipv6
  | _ => .error .ipv6

/-- The text that percent-encoded bytes stand for, if it is a text. -/
def decodedText? (cs : List Char) : Option (List Char) :=
  let bytes := decodeBytes (String.ofList cs).toUTF8.toList
  (String.fromUTF8? (ByteArray.mk bytes.toArray)).map String.toList

/-- **The host of a URL of the web.** -/
def parseHost (cs : List Char) : Except Error Host :=
  if cs.head? == some '[' then bracketedHost cs
  else
    match (decodedText? cs).bind asciiDomain? with
    | none => .error .domain
    | some [] => .error .emptyHost
    | some domain =>
      if endsInNumber domain then
        match ipv4? domain with
        | some address => .ok (.ipv4 address)
        | none => .error .ipv4
      else .ok (.domain (String.ofList domain))

/-- **The port** behind a colon, none if it is empty or the default. -/
def parsePort (default : Nat) (special : Bool) (cs : List Char) :
    Except Error (Option Nat × List Char) :=
  let digits := cs.takeWhile Char.isDigit
  let rest := cs.dropWhile Char.isDigit
  let port := digits.foldl (fun n c => n * 10 + (c.toNat - 48)) 0
  let ended := match rest with
    | [] => true
    | c :: _ => endsAuthority true c
  if 65535 < port || !ended then .error .port
  else if digits.isEmpty || (special && port == default) then .ok (none, rest)
  else .ok (some port, rest)

/-- A segment that stands for the current directory. -/
def isSingleDot (segment : String) : Bool :=
  let s := segment.toLower
  s == "." || s == "%2e"

/-- A segment that stands for the directory above. -/
def isDoubleDot (segment : String) : Bool :=
  let s := segment.toLower
  s == ".." || s == "%2e." || s == ".%2e" || s == "%2e%2e"

/-- A segment that names a drive, which `..` does not leave. -/
def isDrive (segment : String) : Bool :=
  match segment.toList with
  | [letter, mark] => letter.isAlpha && (mark == ':' || mark == '|')
  | _ => false

/-- One level up, unless that would leave a drive. -/
def dropSegment (segments : List String) : List String :=
  match segments.reverse with
  | [] => []
  | last :: rest => if isDrive last then segments else rest.reverse

/-- Split the text of a path at slashes of either kind. -/
def pathSegments (cs : List Char) : List (List Char) :=
  cs.foldr (fun c parts =>
    match parts with
    | [] => [[c]]
    | part :: rest => if c == '/' || c == '\\' then [] :: part :: rest else (c :: part) :: rest) [[]]

/-- **The path** from its text: dots are resolved, all else is encoded. -/
def normalPath (cs : List Char) : String :=
  let cs := match cs with
    | c :: rest => if c == '/' || c == '\\' then rest else cs
    | [] => []
  let segments := (pathSegments cs).map (encode .path)
  let rec walk (kept : List String) : List String → List String
    | [] => kept
    | [last] =>
      if isDoubleDot last then dropSegment kept ++ [""]
      else if isSingleDot last then kept ++ [""]
      else kept ++ [last]
    | segment :: rest =>
      if isDoubleDot segment then walk (dropSegment kept) rest
      else if isSingleDot segment then walk kept rest
      else walk (kept ++ [segment]) rest
  "/" ++ "/".intercalate (walk [] segments)

/-- **The part of the text behind the authority**: path, query and fragment. -/
def splitTail (cs : List Char) : String × Option String × Option String :=
  let isMark := fun c : Char => c == '?' || c == '#'
  let path := normalPath (cs.takeWhile (!isMark ·))
  let afterPath := cs.dropWhile (!isMark ·)
  let (query, afterQuery) := match afterPath with
    | '?' :: rest => (some (encode .query (rest.takeWhile (· != '#'))), rest.dropWhile (· != '#'))
    | _ => (none, afterPath)
  let fragment := match afterQuery with
    | '#' :: rest => some (encode .fragment rest)
    | _ => none
  (path, query, fragment)

/-- **A URL of the web** from the text behind its scheme. -/
def parseWeb (scheme : Scheme) (cs : List Char) : Except Error Url := do
  let cs := cs.dropWhile fun c => c == '/' || c == '\\'
  let (written, rest) := splitCredentials true cs
  let (hostText, rest) := splitHost true rest
  if hostText.isEmpty then throw .emptyHost
  let host ← parseHost hostText
  let (port, rest) ← match rest with
    | ':' :: behind => parsePort scheme.defaultPort true behind
    | _ => pure (none, rest)
  let (username, password) := credentials (written.getD [])
  let (path, query, fragment) := splitTail rest
  pure { scheme, username, password, host, port, path, query, fragment }

/-! ## Other schemes -/

/-- A character that the host of another scheme may not hold. -/
def isOpaqueForbidden (c : Char) : Bool :=
  c == Char.ofNat 0 || " #/:<>?@[\\]^|".toList.contains c

/-- Check the host of a URL that is not of the web. -/
def checkOpaqueHost (cs : List Char) : Except Error Unit :=
  if cs.head? == some '[' then (bracketedHost cs).map fun _ => ()
  else if cs.any isOpaqueForbidden then .error .hostCharacter
  else .ok ()

/-- The schemes that share the rules of the web for their authority. -/
def webLike : List (String × Nat) := [("ftp", 21), ("ws", 80), ("wss", 443)]

/-- Check the authority behind two slashes. -/
def checkAuthority (special : Bool) (cs : List Char) : Except Error Unit := do
  let (written, rest) := splitCredentials special cs
  let (hostText, rest) := splitHost special rest
  if hostText.isEmpty && (special || rest.head? == some ':' || written.any (fun w => !w.isEmpty)) then
    throw .emptyHost
  if special then let _ ← parseHost hostText else checkOpaqueHost hostText
  if written == some [] && hostText.isEmpty && (match rest with | c :: _ => endsAuthority special c | [] => false) then
    throw .emptyHost
  match rest with
  | ':' :: behind => let _ ← parsePort 0 false behind
  | _ => pure ()

/-- Check a `file` URL, which has a host only behind two slashes. -/
def checkFile (cs : List Char) : Except Error Unit :=
  let isSlash := fun c : Char => c == '/' || c == '\\'
  match cs with
  | a :: b :: rest =>
    if isSlash a && isSlash b then
      let host := rest.takeWhile fun c => !(endsAuthority true c)
      if host.isEmpty || isDrive (String.ofList host) then .ok ()
      else (parseHost host).map fun _ => ()
    else .ok ()
  | _ => .ok ()

/-- **Check a URL of another scheme.** -/
def checkOther (scheme : String) (cs : List Char) : Except Error Unit :=
  if scheme == "file" then checkFile cs
  else if webLike.any (·.1 == scheme) then checkAuthority true (cs.dropWhile fun c => c == '/' || c == '\\')
  else
    match cs with
    | '/' :: '/' :: rest => checkAuthority false rest
    | _ => .ok ()

/-! ## Whole URLs -/

/-- **Read a URL of the web.** -/
def parse (s : String) : Except Error Url :=
  match splitScheme? (significant s) with
  | none => .error .relative
  | some ("http", rest) => parseWeb .http rest
  | some ("https", rest) => parseWeb .https rest
  | some (scheme, rest) => do
    checkOther scheme rest
    throw (.otherScheme scheme)

/-- The host with a port that is not the scheme's own. -/
def authority (u : Url) : String :=
  match u.port with
  | some port => u.host.text ++ ":" ++ Nat.repr port
  | none => u.host.text

/-- The credentials with their `@`; nothing if there are none. -/
def credentialsText (u : Url) : String :=
  if u.username.isEmpty && u.password.isEmpty then ""
  else if u.password.isEmpty then u.username ++ "@"
  else u.username ++ ":" ++ u.password ++ "@"

/-- Path and query, as a request names them. -/
def pathAndQuery (u : Url) : String :=
  match u.query with
  | some query => u.path ++ "?" ++ query
  | none => u.path

/-- **The written form.** -/
def text (u : Url) : String :=
  u.scheme.name ++ "://" ++ u.credentialsText ++ u.authority ++ u.pathAndQuery
    ++ (match u.fragment with
      | some fragment => "#" ++ fragment
      | none => "")

/-- The port to connect to. -/
def effectivePort (u : Url) : Nat := u.port.getD u.scheme.defaultPort

/-- **Append pairs to the query.** Without any pair the URL stays as it is. -/
def appendQuery (u : Url) (pairs : List (String × String)) : Url :=
  let append := fun (query : String) (pair : String × String) =>
    (if query.isEmpty then "" else query ++ "&") ++ formEncode pair.1 ++ "=" ++ formEncode pair.2
  if pairs.isEmpty then u else { u with query := some (pairs.foldl append (u.query.getD "")) }

end Url

end HttpBench
