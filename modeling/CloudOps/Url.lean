import CloudOps.Url.Host

/-!
# URLs

`isUrl` says whether a text is an absolute URL: a scheme, and where the scheme asks for it a host
and perhaps a number behind a colon.

* Web schemes need a host, whatever slashes stand in front of it.
* The `file` scheme may have a host behind two slashes, but no number.
* Any other scheme may have a host that only it understands behind two slashes.
-/

namespace CloudOps

namespace Url

/-- A character of a scheme behind its first letter. -/
def isSchemeChar (c : Char) : Bool := c.isAlphanum || c == '+' || c == '-' || c == '.'

/-- The scheme, lower case, and what stands behind the colon. -/
def scheme? (text : List Char) : Option (String × List Char) :=
  match Text.cutAt ':' text with
  | (c :: rest, some behind) =>
    if c.isAlpha && rest.all isSchemeChar then
      some (String.ofList ((c :: rest).map Char.toLower), behind)
    else none
  | _ => none

/-- The schemes whose URLs need a host. -/
def webSchemes : List String := ["http", "https", "ws", "wss", "ftp"]

/-- A slash of either direction. -/
def isSlash (c : Char) : Bool := c == '/' || c == '\\'

/-- A character that begins a path, a query or a fragment. -/
def endsAuthority (c : Char) : Bool := c == '/' || c == '?' || c == '#'

/-- The number behind the colon: sixteen bits, or no digits at all. -/
def isPortNumber (text : List Char) : Bool :=
  text.isEmpty || (Text.readNat? text).any (· < 65536)

/-- The user, if an at sign ends one, and what stands behind. -/
def cutUser (text : List Char) : Option (List Char) × List Char :=
  match Text.cutAtLast '@' text with
  | none => (none, text)
  | some (user, behind) => (some user, behind)

/-- The host, and what stands behind the first colon outside brackets if there is one. -/
def cutHost (inside : Bool) : List Char → List Char × Option (List Char)
  | [] => ([], none)
  | c :: rest =>
    if c = ':' && !inside then ([], some rest)
    else
      let (host, number) := cutHost (c = '[' || (inside && c ≠ ']')) rest
      (c :: host, number)

/-- A user, a host and a number as web schemes have them. -/
def isWebAuthority (text : List Char) : Bool :=
  let (host, number) := cutHost false (cutUser text).2
  isHost host && number.all isPortNumber

/-- A user, a host and a number as other schemes have them. The host may be empty where no user and
no number is given. A colon alone is no user, and neither is nothing unless more than the user
follows. -/
def isOpaqueAuthority (text : List Char) (isLast : Bool) : Bool :=
  let (user, behind) := cutUser text
  let (host, number) := cutHost false behind
  if host.isEmpty then
    number.isNone && (user.isNone || user = some [':'] || (user = some [] && isLast))
  else
    isOpaqueHost host && number.all fun digits => isPortNumber (digits.takeWhile (· ≠ '\\'))

/-- A letter and a colon or a bar: the name of a drive, which belongs to the path. -/
def isDrive : List Char → Bool
  | [letter, mark] => letter.isAlpha && (mark == ':' || mark == '|')
  | _ => false

/-- What may stand behind the scheme of the web. -/
def isWebRest (rest : List Char) : Bool :=
  isWebAuthority ((rest.dropWhile isSlash).takeWhile fun c => !(isSlash c || endsAuthority c))

/-- What may stand behind the scheme of files. -/
def isFileRest : List Char → Bool
  | first :: second :: rest =>
    let host := rest.takeWhile fun c => !(isSlash c || endsAuthority c)
    !(isSlash first && isSlash second) || host.isEmpty || isDrive host || isHost host
  | _ => true

/-- What may stand behind any other scheme. -/
def isOtherRest : List Char → Bool
  | '/' :: '/' :: rest =>
    let authority := rest.takeWhile fun c => !endsAuthority c
    isOpaqueAuthority authority (authority.length = rest.length)
  | _ => true

/-- Characters that are not looked at inside a URL. -/
def isDropped (c : Char) : Bool := c == '\t' || c == '\n' || c == '\r'

/-- What is looked at of a text: blanks and control characters around it do not count. -/
def content (text : String) : List Char :=
  (Text.trimmed (fun c => c.toNat ≤ 0x20) text.toList).filter fun c => !isDropped c

end Url

/-- The text is an absolute URL. -/
def isUrl (text : String) : Bool :=
  match Url.scheme? (Url.content text) with
  | none => false
  | some (scheme, rest) =>
    if scheme ∈ Url.webSchemes then Url.isWebRest rest
    else if scheme = "file" then Url.isFileRest rest
    else Url.isOtherRest rest

end CloudOps
