import EvmWallet.Url.Path

/-!
# Reading URLs

A text is read as a URL by cutting it into its parts and bringing each into the form in which
it is written. Blanks and controls around the text and line breaks inside it do not count.
`ofString` reads a URL that stands for itself, `descend` a relative one that goes down from
a base.
-/

namespace EvmWallet.Url

/-! ## Cutting -/

/-- The text without blanks and controls around it. -/
def trimmed (s : List Char) : List Char :=
  let edge := fun c : Char => c.toNat ≤ 0x20
  ((s.dropWhile edge).reverse.dropWhile edge).reverse

/-- The text before the first `mark`, and what follows it. -/
def cutAt (mark : Char) : List Char → List Char × Option (List Char)
  | [] => ([], none)
  | c :: rest =>
    if c = mark then ([], some rest)
    else ((c :: (cutAt mark rest).1), (cutAt mark rest).2)

/-- The text before the last `mark`, if there is one, and what follows it. -/
def cutAtLast (mark : Char) (s : List Char) : Option (List Char) × List Char :=
  match cutAt mark s.reverse with
  | (after, some before) => (some before.reverse, after.reverse)
  | (_, none) => (none, s)

/-- The characters of a scheme after its first letter. -/
def isSchemeChar (c : Char) : Bool := isLetter c || Text.isDigit c || ['+', '-', '.'].contains c

/-- The scheme in lower case and what follows its colon. -/
def cutScheme? (s : List Char) : Option (List Char × List Char) :=
  match cutAt ':' s with
  | (front, some rest) =>
    match withoutBreaks front with
    | c :: more =>
      if isLetter c && more.all isSchemeChar then some ((c :: more).map Text.asciiLowerChar, rest)
      else none
    | [] => none
  | _ => none

/-- The parts behind the scheme. Query and fragment are in the form in which they are written,
and the body still has its line breaks. -/
structure Parts where
  body : List Char
  query : Option (List Char)
  fragment : Option (List Char)

/-- Cuts query and fragment off. -/
def Parts.ofChars (style : Style) (s : List Char) : Parts :=
  let (front, fragment) := cutAt '#' s
  let (body, query) := cutAt '?' front
  ⟨body, query.map (percentEncode (inQuery style.isSpecial) ∘ withoutBreaks),
    fragment.map (percentEncode inFragment ∘ withoutBreaks)⟩

/-! ## Authorities -/

/-- The host and what follows the colon behind it; colons in brackets are part of the host. -/
def cutPort (inside : Bool) : List Char → List Char × Option (List Char)
  | [] => ([], none)
  | c :: rest =>
    if c = ':' ∧ inside = false then ([], some rest)
    else
      let (host, port) := cutPort (if c = '[' then true else if c = ']' then false else inside) rest
      (c :: host, port)

/-- The port that digits name, unless it is the default one. A backslash ends the digits; it
and what follows belong to the path. -/
def readPort (style : Style) (s : List Char) : Except Error (Option Nat × List Char) :=
  let (ds, rest) := s.span (· ≠ '\\')
  if ds.isEmpty then .ok (none, rest)
  else
    match (Text.ofDigits? ds).filter (· < 65536) with
    | none => .error .invalidPort
    | some p => .ok (if some p = style.defaultPort then none else some p, rest)

/-- The user and the password of credentials. -/
def readCredentials (s : List Char) : List Char × List Char :=
  let (user, password) := cutAt ':' s
  (percentEncode inCredentials user, percentEncode inCredentials (password.getD []))

/-- The host of a text, which may be empty only outside the web and without a port. -/
def readHost (style : Style) (s : List Char) (hasPort : Bool) : Except Error Host :=
  if style.isSpecial then
    if s.isEmpty then .error .emptyHost else Host.ofWeb s
  else
    (Host.ofOther s).bind fun host =>
      if s.isEmpty && hasPort then .error .emptyHost else .ok host

/-- The authority of a text, and what of it belongs to the path; `last` tells whether nothing
at all follows it. -/
def readAuthority (style : Style) (s : List Char) (last : Bool) :
    Except Error (Authority × List Char) := do
  let (credentials, server) := cutAtLast '@' s
  if credentials = some [] ∧ server = [] ∧ last = false then throw .emptyHost
  let (user, password) := readCredentials (credentials.getD [])
  let (hostText, portText) := cutPort false server
  let host ← readHost style hostText portText.isSome
  let (port, rest) ← readPort style (portText.getD [])
  let a : Authority := ⟨user, password, host, port⟩
  if a.hasCredentials ∧ host = .name [] then throw .emptyHost
  return (a, rest)

/-! ## Bodies -/

/-- The authority and path behind two slashes. -/
def readServer (style : Style) (p : Parts) (s : List Char) :
    Except Error (Option Authority × Path) := do
  let (front, path) := s.span (!style.separates ·)
  let last := path.isEmpty && p.query.isNone && p.fragment.isNone
  let (a, rest) ← readAuthority style front last
  return (some a, pathAfterHost style (rest ++ path))

/-- The host of a file; the own computer is the absence of a host. -/
def readFileHost (s : List Char) : Except Error Host :=
  if s.isEmpty then .ok (.name [])
  else
    (Host.ofWeb s).map fun host => if host = .name "localhost".toList then .name [] else host

/-- What follows a slash in front. -/
def afterSlash? (s : List Char) : Option (List Char) :=
  match s.dropWhile isBreak with
  | c :: rest => if Style.file.separates c then some rest else none
  | [] => none

/-- The host and path of a file behind two slashes. A drive letter in the place of the host
begins the path, and one at the front of the path takes the host away. Where there is no
host, the slash behind it is part of the path, so that a drive letter there is an ordinary
segment. -/
def readFileServer (s : List Char) : Except Error (Option Authority × Path) := do
  let (front, path) := s.span (!Style.file.separates ·)
  let hostText := withoutBreaks front
  if isDrive hostText then return (some .none, .rooted (segmentsAfter .file [] s))
  let host ← readFileHost hostText
  if host = .name [] then return (some .none, .rooted (segmentsAfter .file [] path))
  let onDrive := (walk .file [] (path.drop 1)).onDrive
  return (some { Authority.none with host := if onDrive then .name [] else host },
    .rooted (segmentsAfter .file [] (path.drop 1)))

/-- The host and path of a file. -/
def readFile (s : List Char) : Except Error (Option Authority × Path) :=
  match afterSlash? s with
  | none => .ok (some .none, .rooted (segmentsAfter .file [] s))
  | some rest =>
    match afterSlash? rest with
    | none => .ok (some .none, .rooted (segmentsAfter .file [] rest))
    | some more => readFileServer more

/-- The authority and path of what follows the scheme. -/
def readBody (style : Style) (p : Parts) : Except Error (Option Authority × Path) :=
  match style, withoutBreaks p.body with
  | .web _, body => readServer style p (body.dropWhile style.separates)
  | .file, _ => readFile p.body
  | .other, '/' :: '/' :: rest => readServer style p rest
  | .other, body => .ok (none, pathAlone body)

/-! ## URLs -/

/-- The URL of characters. -/
def ofChars (s : List Char) : Except Error Url :=
  match cutScheme? (trimmed s) with
  | none => .error .relative
  | some (scheme, rest) => do
    let style := Style.ofScheme scheme
    let p := Parts.ofChars style rest
    let (authority, path) ← readBody style p
    return ⟨scheme, authority, path, p.query, p.fragment⟩

/-- The URL of a text. -/
def ofString (s : String) : Except Error Url := ofChars s.toList

/-- The URL with an empty segment at the end of its path, unless there is one. A path without
hierarchy gets a slash instead. -/
def asFolder (u : Url) : Url :=
  match u.path with
  | .rootless text =>
    if text.getLast? = some '/' then u else { u with path := .rootless (text ++ ['/']) }
  | .rooted segments =>
    if segments.getLast? = some [] then u else { u with path := .rooted (segments ++ [[]]) }

/-- The URL of a relative text whose path begins with a name: the path goes on from the folder
that the base is in, and query and fragment are the text's own. -/
def descend (base : Url) (s : List Char) : Except Error Url :=
  match base.path with
  | .rootless _ => .error .rootlessBase
  | .rooted segments =>
    let style := Style.ofScheme base.scheme
    let p := Parts.ofChars style (trimmed s)
    .ok { base with
      path := .rooted (segmentsAfter style segments.dropLast p.body)
      query := p.query
      fragment := p.fragment }

/-- The URL with one more pair in its query. -/
def addPair (u : Url) (name value : String) : Url :=
  { u with query := some (match u.query with
      | none | some [] => formPair name value
      | some q => q ++ '&' :: formPair name value) }

end EvmWallet.Url
