import ResourceKernel.Text.Blank
import ResourceKernel.Uri.Host

/-!
# Reading URIs

Reading is generous: blanks around the text and line breaks within it do not count, the schemes
of the web take backslashes for slashes, and characters out of place are percent encoded. What is
read is in normal form, so that two spellings of one URI become equal.
-/

namespace ResourceKernel.Uri

open Text

/-- How the rest of a URI is read depends on the kind of its scheme. -/
inductive SchemeKind
  | file
  | web
  | other
  deriving DecidableEq, Repr

/-- The schemes of the web, each with the port that needs no mention. -/
def webPorts : List (String × Nat) :=
  [("http", 80), ("https", 443), ("ws", 80), ("wss", 443), ("ftp", 21)]

def SchemeKind.of (scheme : String) : SchemeKind :=
  if scheme = "file" then .file
  else if (webPorts.lookup scheme).isSome then .web
  else .other

/-- Whether backslashes count as slashes. -/
def SchemeKind.isSpecial : SchemeKind → Bool
  | .file | .web => true
  | .other => false

def isLetter (c : Char) : Bool := ('a' ≤ c && c ≤ 'z') || ('A' ≤ c && c ≤ 'Z')

def isSlash (kind : SchemeKind) (c : Char) : Bool := c == '/' || (c == '\\' && kind.isSpecial)

def endsPath (c : Char) : Bool := c == '?' || c == '#'

def readScheme (cs : List Char) : Option (String × List Char) :=
  let inScheme (c : Char) : Bool := isLetter c || Decimal.isDigit c || "+-.".toList.contains c
  match cs.takeWhile inScheme, cs.dropWhile inScheme with
  | c :: name, ':' :: rest =>
      if isLetter c then some (String.ofList ((c :: name).map Char.toLower), rest) else none
  | _, _ => none

/-! ## Authority -/

def splitLast (c : Char) (cs : List Char) : Option (List Char × List Char) :=
  match cs.reverse.dropWhile (· ≠ c) with
  | [] => none
  | _ :: before =>
      some (before.reverse, (cs.reverse.takeWhile (· ≠ c)).reverse)

/-- User name and password. The colon is left out before an empty password, and a password
without a user name is kept. -/
def userInfoOf (cs : List Char) : Option String :=
  let name := percentEncode encodedInUserInfo (cs.takeWhile (· ≠ ':'))
  let password := percentEncode encodedInUserInfo ((cs.dropWhile (· ≠ ':')).drop 1)
  let whole := if password.isEmpty then name else name ++ ':' :: password
  if whole.isEmpty then none else some (String.ofList whole)

/-- The characters before the port, where colons between square brackets do not count. -/
def hostLength (kind : SchemeKind) : (bracketed : Bool) → List Char → Nat
  | _, [] => 0
  | bracketed, c :: rest =>
      if (c = ':' ∧ bracketed = false) ∨ isSlash kind c ∨ endsPath c then 0
      else
        1 + hostLength kind (if c = '[' then true else if c = ']' then false else bracketed) rest

/-- The port after its colon, and what follows it. No digits mean no port. -/
def readPort (scheme : String) (cs : List Char) :
    Except UriFault (Option Nat × List Char) :=
  let digits := cs.takeWhile Decimal.isDigit
  let rest := cs.dropWhile Decimal.isDigit
  let n := Decimal.valueOf digits
  if 65535 < n then .error .port
  else
    match rest with
    | c :: _ =>
        if c = '/' ∨ c = '\\' ∨ endsPath c then .ok (port n digits, rest) else .error .port
    | [] => .ok (port n digits, rest)
where
  port (n : Nat) (digits : List Char) : Option Nat :=
    if digits.isEmpty ∨ webPorts.lookup scheme = some n then none else some n

/-- Host and port. Only schemes outside the web may leave the host empty, and then nothing may
stand around it. -/
def readHostAndPort (kind : SchemeKind) (scheme : String) (userInfo : Option String)
    (cs : List Char) : Except UriFault (Authority × List Char) := do
  let length := hostLength kind false cs
  let written := cs.take length
  let rest := cs.drop length
  if kind = .web ∧ written.isEmpty then throw .emptyHost
  let host ← if kind.isSpecial then webHost written else plainHost written
  if host.isEmpty ∧ (rest.head? = some ':' ∨ userInfo.isSome) then throw .emptyHost
  match rest with
  | ':' :: rest =>
      let (port, rest) ← readPort scheme rest
      return (⟨userInfo, host, port⟩, rest)
  | rest => return (⟨userInfo, host, none⟩, rest)

def readAuthority (kind : SchemeKind) (scheme : String) (cs : List Char) :
    Except UriFault (Authority × List Char) :=
  let inAuthority (c : Char) : Bool := !(c == '/' || endsPath c || isSlash kind c)
  let whole := cs.takeWhile inAuthority
  let rest := cs.dropWhile inAuthority
  match splitLast '@' whole with
  | none => readHostAndPort kind scheme none cs
  | some ([], []) =>
      if rest.isEmpty then readHostAndPort kind scheme none rest else .error .emptyHost
  | some (user, host) => readHostAndPort kind scheme (userInfoOf user) (host ++ rest)

/-! ## Path -/

/-- A letter before a colon or a bar. -/
def isDriveLetter : List Char → Bool
  | [c, d] => isLetter c && (d == ':' || d == '|')
  | _ => false

/-- The texts between slashes up to the end of the path, and what follows it. The list is never
empty. -/
def splitPath (kind : SchemeKind) : List Char → List (List Char) × List Char
  | [] => ([[]], [])
  | c :: rest =>
      if endsPath c then ([[]], c :: rest)
      else
        match splitPath kind rest with
        | (part :: parts, rest) =>
            if isSlash kind c then ([] :: part :: parts, rest) else ((c :: part) :: parts, rest)
        | ([], rest) => ([[c]], rest)

/-- The text of a segment in which an encoded point counts as a point. -/
def pointsOf : List Char → List Char
  | '%' :: '2' :: e :: rest =>
      if e = 'e' ∨ e = 'E' then '.' :: pointsOf rest else '%' :: '2' :: e :: pointsOf rest
  | c :: rest => c :: pointsOf rest
  | [] => []

/-- The path above the last segment. Drive letters stay. -/
def parent (path : List String) : List String :=
  match path.getLast? with
  | some last => if isDriveLetter last.toList then path else path.dropLast
  | none => []

/-- Adds a segment to a path. A segment of one point adds nothing and one of two points goes up;
at the end of the path either leaves an empty segment. -/
def pushPlain (path : List String) (segment : List Char) (final : Bool) : List String :=
  let close (path : List String) : List String := if final then path ++ [""] else path
  if pointsOf segment = ['.', '.'] then close (parent path)
  else if pointsOf segment = ['.'] then close path
  else path ++ [String.ofList (percentEncode encodedInPath segment)]

/-- Adds a segment to a path. In a file path, a drive letter at the start is written with a colon
and parted from what follows it. -/
def pushSegment (kind : SchemeKind) (path : List String) (segment : List Char) (final : Bool) :
    List String :=
  match kind, path, segment with
  | .file, [], [c, '|'] => pushPlain [] (if isLetter c then [c, ':'] else segment) final
  | .file, [], c :: ':' :: d :: rest =>
      if isLetter c then pushPlain [String.ofList [c, ':']] (d :: rest) final
      else pushPlain [] segment final
  | _, _, _ => pushPlain path segment final

def pushSegments (kind : SchemeKind) : List String → List (List Char) → List String
  | path, [] => path
  | path, [segment] => pushSegment kind path segment true
  | path, segment :: rest => pushSegments kind (pushSegment kind path segment false) rest

/-- The path after its first slash, and what follows it. File paths do not begin with empty
segments. -/
def readSegments (kind : SchemeKind) (cs : List Char) : Path × List Char :=
  let (parts, rest) := splitPath kind cs
  let segments := pushSegments kind [] parts
  match kind with
  | .file =>
      match segments.dropWhile (· == "") with
      | [] => (.segments [""], rest)
      | segments => (.segments segments, rest)
  | _ => (.segments segments, rest)

/-- The path after an authority. Only the schemes of the web need one. -/
def readPath (kind : SchemeKind) : List Char → Path × List Char
  | [] => if kind.isSpecial then (.segments [""], []) else (.segments [], [])
  | c :: rest =>
      if isSlash kind c then readSegments kind rest
      else if endsPath c ∧ kind = .other then (.segments [], c :: rest)
      else readSegments kind (c :: rest)

/-! ## Query and fragment -/

def readEnd (kind : SchemeKind) (scheme : String) (authority : Option Authority)
    (path : Path) (cs : List Char) : Parts :=
  let inQuery := if kind.isSpecial then encodedInSpecialQuery else encodedInQuery
  let query :=
    match cs.takeWhile (· ≠ '#') with
    | '?' :: query => some (String.ofList (percentEncode inQuery query))
    | _ => none
  let fragment :=
    match cs.dropWhile (· ≠ '#') with
    | _ :: fragment => some (String.ofList (percentEncode encodedInFragment fragment))
    | [] => none
  ⟨scheme, authority, path, query, fragment⟩

/-! ## The whole -/

/-- A file has an authority, with an empty host unless another machine is named. -/
def fileAuthority (host : String) : Authority :=
  ⟨none, if host = "localhost" then "" else host, none⟩

/-- A file URI after its colon. A drive letter in the place of the host belongs to the path, and
a path that begins with a drive letter has no host. -/
def readFile (scheme : String) (cs : List Char) : Except UriFault Parts := do
  let slash (c : Char) : Bool := isSlash .file c
  let finish (host : String) (path : Path × List Char) : Parts :=
    let hasDrive :=
      match path.1 with
      | .segments (first :: _) => isDriveLetter first.toList
      | _ => false
    readEnd .file scheme (some (fileAuthority (if hasDrive then "" else host))) path.1 path.2
  match cs with
  | a :: b :: rest =>
      if slash a && slash b then
        let inHost (c : Char) : Bool := !(slash c || endsPath c)
        let written := rest.takeWhile inHost
        if isDriveLetter written then return finish "" (readSegments .file rest)
        else if written.isEmpty then return finish "" (readPath .file rest)
        else
          let host ← webHost written
          return finish host (readPath .file (rest.dropWhile inHost))
      else return finish "" (readPath .file cs)
  | cs => return finish "" (readPath .file cs)

def readOther (scheme : String) (cs : List Char) : Except UriFault Parts := do
  match cs with
  | '/' :: '/' :: rest =>
      let (authority, rest) ← readAuthority .other scheme rest
      let (path, rest) := readPath .other rest
      return readEnd .other scheme (some authority) path rest
  | '/' :: rest =>
      let (path, rest) := readSegments .other rest
      return readEnd .other scheme none path rest
  | cs =>
      let inPath (c : Char) : Bool := !endsPath c
      let path := String.ofList (percentEncode isControl (cs.takeWhile inPath))
      return readEnd .other scheme none (.rootless path) (cs.dropWhile inPath)

/-- A URI of a scheme of the web, after its colon. Any number of slashes may come first. -/
def readWeb (scheme : String) (cs : List Char) : Except UriFault Parts := do
  let (authority, rest) ← readAuthority .web scheme (cs.dropWhile (isSlash .web))
  let (path, rest) := readPath .web rest
  return readEnd .web scheme (some authority) path rest

/-- Whether the character is dropped from both ends of a text before reading. -/
def isMargin (c : Char) : Bool := c.toNat ≤ 0x20

/-- Whether the character is dropped wherever it stands. -/
def isBreak (c : Char) : Bool := c == '\t' || c == '\n' || c == '\r'

def readParts (s : String) : Except UriFault Parts :=
  let cs := (stripEnds isMargin s.toList).filter fun c ↦ !isBreak c
  match readScheme cs with
  | none => .error .relative
  | some (scheme, rest) =>
      match SchemeKind.of scheme with
      | .file => readFile scheme rest
      | .web => readWeb scheme rest
      | .other => readOther scheme rest

def ofText (s : String) : Except UriFault Uri := (readParts s).map ofParts

end ResourceKernel.Uri
