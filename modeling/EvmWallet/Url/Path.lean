import EvmWallet.Url

/-!
# Reading paths

A rooted path is cut at its slashes, and its segments are taken one after the other: a
segment that is one dot is dropped, one that is two dots takes the segment before it away
unless that is a drive letter, and where either ends the path an empty segment ends it
instead. In schemes of the web a backslash is a slash. In file URLs a drive letter in front
is written with a colon, and leading empty segments are dropped. Line breaks and tabs do not
count, save that one behind a drive letter in front of a file path ends that segment.
-/

namespace EvmWallet.Url

/-- How the scheme of a URL reads what follows. -/
inductive Style where
  | web (port : Nat)
  | file
  | other
  deriving DecidableEq, Repr

namespace Style

/-- The style of a scheme. -/
def ofScheme (scheme : List Char) : Style :=
  match String.ofList scheme with
  | "http" | "ws" => web 80
  | "https" | "wss" => web 443
  | "ftp" => web 21
  | "file" => file
  | _ => other

/-- Whether the scheme is one of the web or of files. -/
def isSpecial : Style → Bool
  | other => false
  | _ => true

/-- Whether a character separates segments. -/
def separates (s : Style) (c : Char) : Bool := c == '/' || (c == '\\' && s.isSpecial)

/-- The port that is left out. -/
def defaultPort : Style → Option Nat
  | web port => some port
  | _ => none

end Style

/-! ## Segments -/

/-- Whether a segment is a dot, encoded or not. -/
def isDot (segment : List Char) : Bool :=
  [".", "%2e"].contains (String.ofList (segment.map Text.asciiLowerChar))

/-- Whether a segment is two dots, encoded or not. -/
def isDoubleDot (segment : List Char) : Bool :=
  ["..", ".%2e", "%2e.", "%2e%2e"].contains (String.ofList (segment.map Text.asciiLowerChar))

/-- Whether a character is a letter of ASCII. -/
def isLetter (c : Char) : Bool := ('a' ≤ c && c ≤ 'z') || ('A' ≤ c && c ≤ 'Z')

/-- Whether a segment is a drive letter. -/
def isDrive : List Char → Bool
  | [c, d] => isLetter c && (d == ':' || d == '|')
  | _ => false

/-- Whether a segment is a drive letter up to its end or its first backslash. -/
def isOnDrive (segment : List Char) : Bool := isDrive (segment.takeWhile (· ≠ '\\'))

/-- Whether a character is a line break or a tab. -/
def isBreak (c : Char) : Bool := c == '\t' || c == '\n' || c == '\r'

/-- The text without line breaks and tabs. -/
def withoutBreaks (s : List Char) : List Char := s.filter (!isBreak ·)

/-- A drive letter with a break behind it and the text behind that, if there is some. -/
def brokenDrive? (s : List Char) : Option (List Char × List Char) :=
  match s.dropWhile isBreak with
  | [] => none
  | c :: more =>
    match more.dropWhile isBreak with
    | ':' :: d :: rest =>
      if isLetter c && isBreak d && !(withoutBreaks rest).isEmpty then
        some ([c, ':'], withoutBreaks rest)
      else none
    | _ => none

/-! ## Walking -/

/-- The segments taken so far, and whether a drive letter was taken as the first of a file
path, where there is no host. -/
structure Walk where
  segments : List (List Char)
  onDrive : Bool

namespace Walk

/-- The segments with the last one taken away, unless it is a drive letter. -/
def parent (segments : List (List Char)) : List (List Char) :=
  if (segments.getLast?.map isOnDrive).getD false then segments else segments.dropLast

/-- One more segment; `last` tells whether it ends the path. -/
def take (style : Style) (w : Walk) (last : Bool) (text : List Char) : Walk :=
  let s := percentEncode inPath (withoutBreaks text)
  let ending := if last then [[]] else []
  let first := style == .file && w.segments.isEmpty
  match (if first then brokenDrive? text else none) with
  | some (drive, rest) => { w with segments := [drive, percentEncode inPath rest] }
  | none =>
    if isDoubleDot s then { w with segments := parent w.segments ++ ending }
    else if isDot s then { w with segments := w.segments ++ ending }
    else if first && isDrive s then ⟨[s.take 1 ++ [':']], true⟩
    else { w with segments := w.segments ++ [s] }

/-- The segments of texts in order. -/
def run (style : Style) (w : Walk) : List (List Char) → Walk
  | [] => w
  | text :: rest => run style (w.take style rest.isEmpty text) rest

end Walk

/-- Drops empty segments in front of another one. -/
def dropEmpty : List (List Char) → List (List Char)
  | [] :: s :: rest => dropEmpty (s :: rest)
  | segments => segments

/-- The walk along the path of a text, behind other segments. -/
def walk (style : Style) (before : List (List Char)) (s : List Char) : Walk :=
  Walk.run style ⟨before, false⟩ (Text.pieces style.separates s)

/-- The segments of a path that continues others. -/
def segmentsAfter (style : Style) (before : List (List Char)) (s : List Char) :
    List (List Char) :=
  let segments := (walk style before s).segments
  if style = .file then dropEmpty segments else segments

/-- The path behind an authority. Only a scheme that is not special can have none. -/
def pathAfterHost (style : Style) (s : List Char) : Path :=
  match s with
  | [] => if style.isSpecial then .rooted [[]] else .rooted []
  | c :: rest => .rooted (segmentsAfter style [] (if style.separates c then rest else s))

/-- The path of a URL without an authority. -/
def pathAlone (s : List Char) : Path :=
  match s with
  | '/' :: rest => .rooted (segmentsAfter .other [] rest)
  | _ => .rootless (percentEncode isControl s)

end EvmWallet.Url
