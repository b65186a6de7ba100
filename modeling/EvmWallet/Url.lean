import EvmWallet.Text.Pieces
import EvmWallet.Url.Host

/-!
# URLs

A URL by its parts, all in the form in which they are written: what a place cannot hold is
percent-encoded already, so that writing a URL is joining its parts (`Url.chars`).
-/

namespace EvmWallet

namespace Url

/-- Who is contacted: credentials, host, and the port where it is not the scheme's own. -/
structure Authority where
  user : List Char
  password : List Char
  host : Host
  port : Option Nat
  deriving DecidableEq, Repr

/-- A path: a sequence of segments behind slashes, or, where there is no hierarchy, a text. -/
inductive Path where
  | rooted (segments : List (List Char))
  | rootless (text : List Char)
  deriving DecidableEq, Repr

end Url

/-- A URL. -/
structure Url where
  scheme : List Char
  authority : Option Url.Authority
  path : Url.Path
  query : Option (List Char)
  fragment : Option (List Char)
  deriving DecidableEq, Repr

namespace Url

/-- No host and no credentials. -/
def Authority.none : Authority := ⟨[], [], .name [], Option.none⟩

/-- Whether a user or a password is given. -/
def Authority.hasCredentials (a : Authority) : Bool := !a.user.isEmpty || !a.password.isEmpty

/-! ## Writing -/

/-- The user, the password behind a colon if there is one, and an at sign. -/
def Authority.credentialChars (a : Authority) : List Char :=
  if a.hasCredentials then
    a.user ++ (if a.password.isEmpty then [] else ':' :: a.password) ++ ['@']
  else []

/-- The text of an authority. -/
def Authority.chars (a : Authority) : List Char :=
  a.credentialChars ++ a.host.chars
    ++ (match a.port with
      | some p => ':' :: Text.digits p
      | Option.none => [])

/-- Each segment behind a slash. -/
def segmentChars (segments : List (List Char)) : List Char := segments.flatMap ('/' :: ·)

/-- The text of a path. Without an authority in front, a path that begins with two slashes is
written behind `/.`, so that it is not taken for one. -/
def pathChars (hasAuthority : Bool) : Path → List Char
  | .rootless text => text
  | .rooted segments =>
    match segments with
    | [] :: _ :: _ => (if hasAuthority then [] else ['/', '.']) ++ segmentChars segments
    | _ => segmentChars segments

/-- A part behind its mark, or nothing. -/
def marked (mark : Char) : Option (List Char) → List Char
  | some part => mark :: part
  | Option.none => []

/-- The URL without its fragment, as it is requested. -/
def requestChars (u : Url) : List Char :=
  u.scheme ++ ':' :: ((u.authority.elim [] fun a => '/' :: '/' :: a.chars)
    ++ pathChars u.authority.isSome u.path ++ marked '?' u.query)

/-- The text of a URL. -/
def chars (u : Url) : List Char := u.requestChars ++ marked '#' u.fragment

instance : ToString Url := ⟨fun u => String.ofList u.chars⟩

end Url

end EvmWallet
