import RequestRouting.Host.Basic
import RequestRouting.Request.Scope

/-!
# Origins

The part of an absolute URL in front of its path: a scheme, a host and a port.  An origin is read
as a URL that has nothing else.

## Main definitions

* `WebScheme`, `Origin` — the schemes that origins may have, and origins.
* `Origin.parse` — the origin that a text spells.
* `Origin.new` — the origin of a scheme, a host and a port.
* `Origin.text`, `Origin.absolute` — the text of an origin, and of a path behind it.
-/

set_option autoImplicit false

namespace RequestRouting

/-- A scheme that origins may have. -/
inductive WebScheme where
  | http
  | https
  deriving DecidableEq

namespace WebScheme

/-- The name of a scheme. -/
def name : WebScheme → String
  | .http => "http"
  | .https => "https"

/-- The port that is meant where none is given. -/
def defaultPort : WebScheme → Nat
  | .http => 80
  | .https => 443

/-- The scheme with a name. -/
def ofName? (text : String) : Option WebScheme :=
  if text = "http" then some .http else if text = "https" then some .https else none

/-- A scheme is found by its name. -/
@[simp] theorem ofName?_name (scheme : WebScheme) : ofName? scheme.name = some scheme := by
  cases scheme <;> decide

end WebScheme

/-- The part of an absolute URL in front of its path. -/
structure Origin where
  scheme : WebScheme
  host : Host
  /-- The port, if it is not the default one of the scheme. -/
  port : Option Nat
  deriving DecidableEq

namespace Origin

/-- The text of an origin. -/
def text (origin : Origin) : String :=
  origin.scheme.name ++ "://" ++ origin.host.text ++
    match origin.port with
    | some port => ":" ++ toString port
    | none => ""

/-- The absolute URL of a path. -/
def absolute (origin : Origin) (path : String) : String :=
  if path.startsWith "/" then origin.text ++ path else origin.text ++ "/" ++ path

/-! ## Reading -/

/-- The characters that are left out at the ends of a URL. -/
def isOuter (c : Char) : Bool := c.toNat ≤ 0x20

/-- The characters that are left out everywhere in a URL. -/
def isIgnored (c : Char) : Bool := c == '\t' || c == '\n' || c == '\r'

/-- A URL without the characters that do not count. -/
def clean (text : List Char) : List Char :=
  (((text.dropWhile isOuter).reverse.dropWhile isOuter).reverse).filter (!isIgnored ·)

/-- Whether a character may occur in a scheme. -/
def isSchemeChar (c : Char) : Bool := c.isAlphanum || c == '+' || c == '-' || c == '.'

/-- The scheme of a URL in lower case, and what follows its colon. -/
def splitScheme? (text : List Char) : Option (String × List Char) :=
  match text with
  | [] => none
  | first :: _ =>
    if first.isAlpha then
      match text.dropWhile isSchemeChar with
      | ':' :: rest =>
        some (asciiLower (String.ofList (text.takeWhile isSchemeChar)), rest)
      | _ => none
    else none

/-- How a scheme separates the parts of its URLs. -/
inductive SchemeKind where
  /-- A known scheme with hosts. -/
  | special
  /-- Local files. -/
  | file
  /-- Any other scheme. -/
  | foreign
  deriving DecidableEq

/-- The kind of a scheme. -/
def schemeKind (name : String) : SchemeKind :=
  if name = "file" then .file
  else if ["http", "https", "ws", "wss", "ftp"].contains name then .special
  else .foreign

/-- The default port of a scheme. -/
def defaultPortOf? (name : String) : Option Nat := (WebScheme.ofName? name).map WebScheme.defaultPort

/-- Slashes of either kind. -/
def isSlash (c : Char) : Bool := c == '/' || c == '\\'

/-- Whether a character ends the part of a URL with the host. -/
def endsAuthority (special : Bool) (c : Char) : Bool :=
  c == '/' || c == '?' || c == '#' || (special && c == '\\')

/-- Splits a text at the last match of a character. -/
def splitLast? (mark : Char) (text : List Char) : Option (List Char × List Char) :=
  (splitFirst? mark text.reverse).map fun (after, before) => (before.reverse, after.reverse)

/-- Splits a host from the port.  Colons between brackets belong to the host. -/
def splitPort (bracketed : Bool) : List Char → List Char × Option (List Char)
  | [] => ([], none)
  | c :: rest =>
    if c = ':' && !bracketed then ([], some rest)
    else
      let (host, port) := splitPort (c == '[' || (bracketed && c != ']')) rest
      (c :: host, port)

/-- The number of a port; nothing at all is no number, and so is the default port of the scheme. -/
def readPort (default : Option Nat) (digits : List Char) : Except OriginFault (Option Nat) :=
  if !digits.all Char.isDigit || 65535 < ofDigits digits then .error .badPort
  else if digits.isEmpty || some (ofDigits digits) = default then .ok none
  else .ok (some (ofDigits digits))

/-- The port of the part behind a host. -/
def parsePort (default : Option Nat) : Option (List Char) → Except OriginFault (Option Nat)
  | none => .ok none
  | some digits => readPort default digits

/-- The host and the port of a URL with a known scheme.  What comes before the last `@` is left
out. -/
def parseAuthority (default : Option Nat) (text : List Char) :
    Except OriginFault (Host × Option Nat) := do
  let hostAndPort := match splitLast? '@' text with
    | some (_, rest) => rest
    | none => text
  let (host, port) := splitPort false hostAndPort
  if host.isEmpty then .error .emptyHost
  let host ← Host.parse host
  let port ← parsePort default port
  .ok (host, port)

/-- Checks the part of a URL with a foreign scheme that holds the host.  Behind a name or a password
there has to be one; `ended` tells whether something follows this part. -/
def checkForeign (text : List Char) (ended : Bool) : Except OriginFault Unit := do
  let (user, hostAndPort) := match splitLast? '@' text with
    | some (user, rest) => (some user, rest)
    | none => (none, text)
  if user = some [] && hostAndPort.isEmpty && ended then .error .emptyHost
  let (host, port) := splitPort false hostAndPort
  Host.checkOpaque host
  if host.isEmpty && port.isSome then .error .emptyHost
  let _ ← parsePort none port
  if host.isEmpty && user.any fun name => name ≠ [] && name ≠ [':'] then .error .emptyHost

/-- Whether a text is the letter of a drive. -/
def isDriveLetter : List Char → Bool
  | [letter, mark] => letter.isAlpha && (mark == ':' || mark == '|')
  | _ => false

/-- Checks the host of a local file, if there is one. -/
def checkFile (text : List Char) : Except OriginFault Unit :=
  match text with
  | a :: b :: rest =>
    let host := rest.takeWhile fun c => !(isSlash c || c == '?' || c == '#')
    if isSlash a && isSlash b && !host.isEmpty && !isDriveLetter host then
      (Host.parse host).map fun _ => ()
    else .ok ()
  | _ => .ok ()

/-! ## Paths of origins -/

/-- The segments of a path, between slashes of either kind. -/
def segments (path : List Char) : List (List Char) :=
  splitOnChar '/' (path.map fun c => if c = '\\' then '/' else c)

/-- A segment with its escaped points in plain form. -/
def plainDots : List Char → List Char
  | '%' :: '2' :: 'e' :: rest | '%' :: '2' :: 'E' :: rest => '.' :: plainDots rest
  | c :: rest => c :: plainDots rest
  | [] => []

/-- Resolves the segments of a path that stand for the same or the upper level.  The first argument
holds the segments so far, in reverse. -/
def resolveSegments (reversed : List (List Char)) : List (List Char) → List (List Char)
  | [] => reversed.reverse
  | segment :: rest =>
    let isLast := rest.isEmpty
    if plainDots segment = ['.', '.'] then
      resolveSegments (if isLast then [] :: reversed.tail else reversed.tail) rest
    else if plainDots segment = ['.'] then
      resolveSegments (if isLast then [] :: reversed else reversed) rest
    else resolveSegments (segment :: reversed) rest

/-- Whether the path of a URL is the root. -/
def isRoot (path : List Char) : Bool :=
  match path with
  | [] => true
  | first :: rest => resolveSegments [] (segments (if isSlash first then rest else path)) = [[]]

/-- Whether nothing but the root follows the host of a URL. -/
def isBare (rest : List Char) : Bool :=
  !rest.any (fun c => c == '?' || c == '#') && isRoot rest

/-- The origin of a URL with a known scheme. -/
def parseSpecial (scheme : String) (rest : List Char) : Except OriginFault Origin := do
  let rest := rest.dropWhile isSlash
  let authority := rest.takeWhile (!endsAuthority true ·)
  let (host, port) ← parseAuthority (defaultPortOf? scheme) authority
  match WebScheme.ofName? scheme with
  | none => .error (.scheme scheme)
  | some scheme =>
    if isBare (rest.dropWhile (!endsAuthority true ·)) then .ok ⟨scheme, host, port⟩
    else .error .trailing

/-- Checks a URL with a scheme that origins may not have. -/
def checkOther (kind : SchemeKind) (rest : List Char) : Except OriginFault Unit :=
  match kind, rest with
  | .file, rest => checkFile rest
  | _, '/' :: '/' :: rest =>
    checkForeign (rest.takeWhile (!endsAuthority false ·)) (rest.any (endsAuthority false))
  | _, _ => .ok ()

/-- The origin that a text spells, or what is wrong with it. -/
def read (text : List Char) : Except OriginFault Origin :=
  match splitScheme? (clean text) with
  | none => .error .relative
  | some (scheme, rest) =>
    match schemeKind scheme with
    | .special => parseSpecial scheme rest
    | kind => do
      checkOther kind rest
      .error (.scheme scheme)

/-- The origin that a text spells. -/
def parse (text : String) : Except UrlError Origin :=
  (read text.toList).mapError (.invalidOrigin text)

/-- The origin of a scheme, a host and a port, read from the text that they make. -/
def new (scheme host : String) (port : Option Nat) : Except UrlError Origin :=
  parse (scheme ++ "://" ++ host ++
    match port with
    | some port => ":" ++ toString port
    | none => "")

end Origin

end RequestRouting
