import PageCheck.Number.Literal
import PageCheck.Text.Digit
import PageCheck.Text.Split
import PageCheck.Text.Utf8

/-!
# URLs

A URL is taken apart into scheme, authority, path, query and fragment. Characters that may not stand
in a part are written as percent signs with two digits; the other way round, such digits are
replaced where the character itself may stand.
-/

namespace PageCheck

structure Authority where
  user : Option String
  password : Option String
  host : String
  port : Option Nat
deriving DecidableEq, Repr

structure Url where
  /-- In lower case, and empty if there is none. -/
  scheme : String
  authority : Option Authority
  path : String
  query : String
  fragment : String
deriving DecidableEq, Repr

namespace Url

def isPlain (c : Char) : Bool :=
  c.isAlphanum || "-._~!$'()*,".toList.contains c

/-- Which characters a part may hold besides the plain ones. -/
structure Part where
  safe : List Char
  /-- Safe characters that mean something else when they are written with a percent sign. -/
  kept : List Char
  /-- Whether a space is written as a plus sign. -/
  plusForSpace : Bool

namespace Part

def user : Part := ⟨"+&=;".toList, [], false⟩

def path : Part := ⟨"@:+&=;/".toList, ['/', '+'], false⟩

def query : Part := ⟨"?/:@=+&;".toList, "=+&;".toList, true⟩

def fragment : Part := ⟨"?/:@+&=;".toList, [], false⟩

def admits (part : Part) (c : Char) : Bool := isPlain c || part.safe.contains c

end Part

def percent (n : Nat) : List Char :=
  '%' :: [n / 16, n % 16].map fun d => Char.ofNat (if d < 10 then d + 48 else d + 55)

def Part.writeChar (part : Part) (c : Char) : List Char :=
  if c = ' ' && part.plusForSpace then ['+']
  else if part.admits c then [c]
  else (Text.encodeChar c).flatMap fun b => percent b.toNat

/-- The byte that two digits write. -/
def digitPair? (a b : Char) : Option Nat :=
  if [a, b].all Text.isHexDigit then some (Text.numeral 16 [a, b]) else none

def Part.write (part : Part) : List Char → List Char
  | '%' :: a :: b :: rest =>
    match digitPair? a b with
    | some n =>
      let c := Char.ofNat n
      (if n < 0x80 && part.admits c && !part.kept.contains c then [c] else percent n) ++
        part.write rest
    | none => percent 0x25 ++ part.write (a :: b :: rest)
  | c :: rest => (if c = '%' then percent 0x25 else part.writeChar c) ++ part.write rest
  | [] => []

def Part.writeText (part : Part) (s : List Char) : String := String.ofList (part.write s)

def hostSchemes : List String := ["http", "https", "ws", "wss", "ftp"]

/-- Schemes that are written with two slashes also without an authority. -/
def slashSchemes : List String :=
  ["ftp", "http", "gopher", "nntp", "telnet", "imap", "wais", "file", "mms", "https", "shttp",
    "snews", "prospero", "rtsp", "rtspu", "rsync", "svn", "svn+ssh", "sftp", "nfs", "git",
    "git+ssh", "ws", "wss", "itms-services"]

/-- The port that a scheme has without one being given. -/
def usualPort? (scheme : String) : Option Nat :=
  match scheme with
  | "http" => some 80
  | "ws" => some 80
  | "https" => some 443
  | "wss" => some 443
  | "ftp" => some 21
  | _ => none

def isSchemeChar (c : Char) : Bool := c.isAlphanum || c == '+' || c == '-' || c == '.'

/-- The scheme before a colon, in lower case, and the text behind it. -/
def takeScheme (s : List Char) : String × List Char :=
  let name := s.takeWhile isSchemeChar
  match s.dropWhile isSchemeChar with
  | ':' :: rest => if name.isEmpty then ("", s) else (String.ofList (name.map Char.toLower), rest)
  | _ => ("", s)

/-- The text before a mark and the text behind it, which is empty without the mark. -/
def cut (mark : Char) (s : List Char) : List Char × List Char :=
  (s.takeWhile (· != mark), (s.dropWhile (· != mark)).drop 1)

/-- The text before the last occurrence of a mark, if there is one, and the text behind it. -/
def cutLast (mark : Char) (s : List Char) : Option (List Char) × List Char :=
  if s.contains mark then
    (some (s.reverse.dropWhile (· != mark)).tail.reverse, (s.reverse.takeWhile (· != mark)).reverse)
  else (none, s)

/-- A port: nothing, or a number up to 65535. The outer `none` stands for anything else. -/
def readPort? (s : List Char) : Option (Option Nat) :=
  if s.isEmpty then some none
  else match Literal.whole? s with
    | some n => if 0 ≤ n && n ≤ 65535 then some (some n.toNat) else none
    | none => none

/-- Whether the brackets around a host number stand in pairs, with a number of the long kind or of
a kind to come between them. -/
def bracketsFit (s : List Char) : Bool :=
  if s.contains '[' || s.contains ']' then
    let inside := ((s.dropWhile (· != '[')).drop 1).takeWhile (· != ']')
    s.contains '[' && s.contains ']' &&
      (match inside with
      | 'v' :: rest =>
        let number := rest.takeWhile Text.isHexDigit
        !number.isEmpty && (match rest.drop number.length with
          | '.' :: _ :: _ => true
          | _ => false)
      | _ => inside.contains ':')
  else true

/-- Characters that become marks of a URL in their plain form. -/
def disguised : List Nat :=
  [0x2047, 0x2048, 0x2049, 0x2100, 0x2101, 0x2105, 0x2106, 0x2A74, 0xFE13, 0xFE16, 0xFE55, 0xFE56,
    0xFE5F, 0xFE6B, 0xFF03, 0xFF0F, 0xFF1A, 0xFF1F, 0xFF20]

/-- Host and port; the host is empty if there is none. -/
def readHost? (s : List Char) : Option (List Char × Option Nat) :=
  let (host, port) :=
    if s.contains '[' then
      let (host, behind) := cut ']' (cut '[' s).2
      (host, (cut ':' behind).2)
    else cut ':' s
  (readPort? port).map fun port => (host, port)

/-- The authority of a URL of a scheme. -/
def readAuthority? (scheme : String) (s : List Char) : Option Authority := do
  if !bracketsFit s || s.any (fun c => disguised.contains c.toNat) then none
  let (info, hostText) := cutLast '@' s
  let (host, port) ← readHost? hostText
  if host.isEmpty && hostSchemes.contains scheme then none
  let user := info.map fun s => (cut ':' s).1
  let password := info.bind fun s => if s.contains ':' then some (cut ':' s).2 else none
  return {
    user := (user.filter fun s => !s.isEmpty).map Part.user.writeText
    password := password.map Part.user.writeText
    host := String.ofList (host.map Char.toLower)
    port := port }

/-- The segments of a path without those that stand for the same place or the one above. -/
def settle (done : List (List Char)) : List (List Char) → List (List Char)
  | [] => done.reverse
  | [segment] =>
    if segment = ['.', '.'] then ([] :: done.drop 1).reverse
    else if segment = ['.'] then ([] :: done).reverse
    else (segment :: done).reverse
  | segment :: rest =>
    if segment = ['.', '.'] then settle (done.drop 1) rest
    else if segment = ['.'] then settle done rest
    else settle (segment :: done) rest

/-- A path without detours. -/
def settlePath (path : List Char) : List Char :=
  let (lead, body) := match path with
    | '/' :: rest => (['/'], rest)
    | _ => ([], path)
  lead ++ ((settle [] (Text.splitAt '/' body)).intersperse ['/']).flatten

/-- Characters that are left out at the beginning. -/
def isLeading (c : Char) : Bool := c.toNat ≤ 0x20

def isDropped (c : Char) : Bool := c == '\t' || c == '\r' || c == '\n'

def read? (text : String) : Option Url := do
  let s := (text.toList.dropWhile isLeading).filter (!isDropped ·)
  let (scheme, rest) := takeScheme s
  let (body, fragment) := cut '#' rest
  let isEnd (c : Char) : Bool := c == '/' || c == '?'
  let (authority, body) ← match body with
    | '/' :: '/' :: more =>
      let text := more.takeWhile (!isEnd ·)
      let behind := more.dropWhile (!isEnd ·)
      if text.isEmpty then pure (none, behind)
      else (readAuthority? scheme text).map fun a => (some a, behind)
    | _ => pure (none, body)
  let (path, query) := cut '?' body
  let path := Part.path.write path
  return {
    scheme := scheme
    authority := authority
    path := String.ofList (if authority.isSome then settlePath path else path)
    query := Part.query.writeText query
    fragment := Part.fragment.writeText fragment }

/-- The text of an authority; the usual port of the scheme is left out. -/
def authorityText (scheme : String) (a : Authority) : String :=
  let host := if a.host.contains ':' then "[" ++ a.host ++ "]" else a.host
  let place := match a.port with
    | some n => if usualPort? scheme = some n then host else host ++ ":" ++ toString n
    | none => host
  match a.user, a.password with
  | none, none => place
  | some user, none => user ++ "@" ++ place
  | user, some password => user.getD "" ++ ":" ++ password ++ "@" ++ place

def text (u : Url) : String :=
  let place := (u.authority.map (authorityText u.scheme)).getD ""
  let path := if u.path.isEmpty && place != "" && (u.query != "" || u.fragment != "") then "/"
    else u.path
  let slashed := u.scheme != "" && slashSchemes.contains u.scheme && !path.startsWith "//"
  let body :=
    if place != "" || slashed then
      let join := if path.isEmpty || path.startsWith "/" then "" else "/"
      if u.scheme = "" then "//" ++ place ++ path
      else u.scheme ++ "://" ++ place ++ join ++ path
    else if u.scheme != "" then u.scheme ++ ":" ++ path
    else path
  body ++ (if u.query = "" then "" else "?" ++ u.query) ++
    (if u.fragment = "" then "" else "#" ++ u.fragment)

def pageSchemes : List String := ["", "http", "https", "ws", "wss"]

/-- The URL without the name and password of a user. -/
def withoutUser (u : Url) : Url :=
  { u with authority := u.authority.map fun a => { a with user := none, password := none } }

def hasHost (u : Url) : Bool := u.authority.any fun a => a.host != ""

/-- The text of a URL that no page can be asked for with: as it is given if it cannot be read, else
in its settled form. -/
def refusal? (url : String) : Option String :=
  match read? url with
  | none => some url
  | some u =>
    if !pageSchemes.contains u.scheme then some u.text
    else if !u.hasHost then some u.withoutUser.text
    else none

end Url

end PageCheck
