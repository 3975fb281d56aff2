import Translator.Schemes.Text

/-! URLs as Python's `urllib.parse` reads, joins and quotes them. A result of `none` is a `ValueError`. -/

namespace Translator.Schemes

/-- What the parser of URLs rests on. -/
structure Urls where
  letters : Letters
  /-- Whether the brackets of a `netloc` hold an address: `_check_bracketed_netloc`. -/
  bracketed : Text → Bool

/-- `SplitResult`. -/
structure Split where
  scheme : Text
  netloc : Text
  path : Text
  query : Text
  fragment : Text
  deriving DecidableEq

/-- `ParseResult`. -/
structure Parsed extends Split where
  params : Text
  deriving DecidableEq

namespace Urls

/-- `uses_relative`. -/
def usesRelative : List Text :=
  ["", "ftp", "http", "gopher", "nntp", "imap", "wais", "file", "https", "shttp", "mms", "prospero",
    "rtsp", "rtsps", "rtspu", "sftp", "svn", "svn+ssh", "ws", "wss"].map text

/-- `uses_netloc`. -/
def usesNetloc : List Text :=
  ["", "ftp", "http", "gopher", "nntp", "telnet", "imap", "wais", "file", "mms", "https", "shttp",
    "snews", "prospero", "rtsp", "rtsps", "rtspu", "rsync", "svn", "svn+ssh", "sftp", "nfs", "git",
    "git+ssh", "ws", "wss"].map text

/-- `uses_params`. -/
def usesParams : List Text :=
  ["", "ftp", "hdl", "prospero", "http", "imap", "https", "shttp", "rtsp", "rtsps", "rtspu", "sip",
    "sips", "mms", "sftp", "tel"].map text

/-! ### Reading -/

/-- The letters that `urlsplit` removes wherever they stand. -/
def dropped (c : Nat) : Bool := c == 9 || c == 10 || c == 13

/-- The text that `urlsplit` reads. -/
def cleaned (url : Text) : Text := (url.dropWhile (· ≤ 32)).filter fun c => !dropped c

/-- `scheme_chars`. -/
def schemeLetter (c : Nat) : Bool :=
  Text.letter c || Text.digit c || c == 43 || c == 45 || c == 46

/-- The scheme of a URL, if it has one, and the rest. -/
def splitScheme (scheme url : Text) : Text × Text :=
  if url.contains 58 && (url.head?.any Text.letter) && (Text.partition 58 url).1.all schemeLetter then
    ((Text.partition 58 url).1.map Text.small, (Text.partition 58 url).2)
  else (scheme, url)

/-- The letters that end a `netloc`. -/
def delimiter (c : Nat) : Bool := c == 47 || c == 63 || c == 35

/-- `_splitnetloc` of a URL that has one. -/
def splitNetloc : Text → Text × Text
  | 47 :: 47 :: url => (url.takeWhile fun c => !delimiter c, url.dropWhile fun c => !delimiter c)
  | url => ([], url)

variable (u : Urls)

/-- The brackets of a `netloc` are in order. -/
def bracketsFit (netloc : Text) : Bool :=
  (netloc.contains 91 == netloc.contains 93) && (!netloc.contains 91 || u.bracketed netloc)

/-- `_checknetloc`: no letter stands for another that would split the URL elsewhere. -/
def checkNetloc (netloc : Text) : Bool :=
  let n := netloc.filter fun c => !(c == 64 || c == 58 || c == 35 || c == 63)
  netloc.all (· < 128) || n == u.letters.nfkc n
    || !(u.letters.nfkc n).any fun c => c == 47 || c == 63 || c == 35 || c == 64 || c == 58

/-- `urlsplit`. -/
def urlsplit (scheme url : Text) : Option Split :=
  let (scheme, url) := splitScheme scheme (cleaned url)
  let (netloc, url) := splitNetloc url
  let (url, fragment) := Text.partition 35 url
  let (path, query) := Text.partition 63 url
  if u.bracketsFit netloc && u.checkNetloc netloc then
    some { scheme, netloc, path, query, fragment }
  else none

/-- `_splitparams`: the parameters of the last segment. -/
def splitParams (path : Text) : Text × Text :=
  let last := (path.reverse.takeWhile (· ≠ 47)).reverse
  let before := (path.reverse.dropWhile (· ≠ 47)).reverse
  (before ++ (Text.partition 59 last).1, (Text.partition 59 last).2)

/-- `urlparse`. -/
def urlparse (scheme url : Text) : Option Parsed := do
  let split ← u.urlsplit scheme url
  if usesParams.contains split.scheme then
    return { split with path := (splitParams split.path).1, params := (splitParams split.path).2 }
  else return { split with params := [] }

/-! ### Parts of a `netloc` -/

/-- `_userinfo`. -/
def userinfo (netloc : Text) : Option Text × Option Text :=
  if netloc.contains 64 then
    let info := (Text.rpartition 64 netloc).1
    (some (Text.partition 58 info).1, if info.contains 58 then some (Text.partition 58 info).2 else none)
  else (none, none)

/-- `username`. -/
def username (parsed : Parsed) : Option Text := (userinfo parsed.netloc).1

/-- `password`. -/
def password (parsed : Parsed) : Option Text := (userinfo parsed.netloc).2

/-- The host of `_hostinfo`. -/
def hostinfo (netloc : Text) : Text :=
  let info := (Text.rpartition 64 netloc).2
  if info.contains 91 then (Text.partition 93 (Text.partition 91 info).2).1
  else (Text.partition 58 info).1

/-- `hostname`: in small letters, save the zone of an address. -/
def hostname (parsed : Parsed) : Option Text :=
  let host := hostinfo parsed.netloc
  if host.isEmpty then none
  else some (u.letters.lower (Text.partition 37 host).1
    ++ (if host.contains 37 then 37 :: (Text.partition 37 host).2 else []))

/-! ### Joining -/

/-- `urlunsplit`. -/
def urlunsplit (parts : Split) : Text :=
  let path := parts.path
  let url :=
    if parts.netloc.isEmpty = false then
      47 :: 47 :: parts.netloc
        ++ (if path.isEmpty = false ∧ path.head? ≠ some 47 then 47 :: path else path)
    else if path.take 2 = [47, 47] then 47 :: 47 :: path
    else if parts.scheme.isEmpty = false ∧ usesNetloc.contains parts.scheme
        ∧ (path.isEmpty ∨ path.head? = some 47) then 47 :: 47 :: path
    else path
  let url := if parts.scheme.isEmpty then url else parts.scheme ++ 58 :: url
  let url := if parts.query.isEmpty then url else url ++ 63 :: parts.query
  if parts.fragment.isEmpty then url else url ++ 35 :: parts.fragment

/-- `urlunparse`. -/
def urlunparse (parts : Parsed) : Text :=
  urlunsplit { parts.toSplit with
    path := if parts.params.isEmpty then parts.path else parts.path ++ 59 :: parts.params }

/-- The segments of a path, read where the base stands. -/
def segments (base path : Text) : List Text :=
  if path.head? = some 47 then path.splitOn 47
  else
    let parts := base.splitOn 47
    let parts := if parts.getLast? = some [] then parts else parts.dropLast
    let all := parts ++ path.splitOn 47
    all.take 1 ++ (all.drop 1).dropLast.filter (fun segment => !segment.isEmpty)
      ++ (all.drop 1).getLast?.toList

/-- The segments once the dots among them are followed. -/
def resolved (segments : List Text) : List Text :=
  let walked := segments.foldl (fun walked segment =>
    if segment = text ".." then walked.dropLast
    else if segment = text "." then walked
    else walked ++ [segment]) []
  if segments.getLast? = some (text ".") ∨ segments.getLast? = some (text "..") then walked ++ [[]]
  else walked

/-- `urljoin`. -/
def urljoin (base url : Text) : Option Text :=
  if base.isEmpty then some url
  else if url.isEmpty then some base
  else do
    let b ← u.urlparse [] base
    let r ← u.urlparse b.scheme url
    if r.scheme ≠ b.scheme ∨ usesRelative.contains r.scheme = false then return url
    else if usesNetloc.contains r.scheme = true ∧ r.netloc.isEmpty = false then return urlunparse r
    else
      let r := if usesNetloc.contains r.scheme then { r with netloc := b.netloc } else r
      if r.path.isEmpty ∧ r.params.isEmpty then
        return urlunparse { r with
          path := b.path, params := b.params, query := if r.query.isEmpty then b.query else r.query }
      else
        let path := [47].intercalate (resolved (segments b.path r.path))
        return urlunparse { r with path := if path.isEmpty then [47] else path }

/-! ### Quoting -/

/-- The letters that `quote` leaves as they are. -/
def safe (b : Nat) : Bool :=
  Text.letter b || Text.digit b || b == 95 || b == 46 || b == 45 || b == 126

def hexLetter (n : Nat) : Nat := if n < 10 then 48 + n else 55 + n

/-- `quote(_, safe='')`. -/
def quote (t : Text) : Option Text := do
  let bytes ← Text.encode t
  return bytes.flatMap fun b => if safe b then [b] else [37, hexLetter (b / 16), hexLetter (b % 16)]

end Urls
end Translator.Schemes
