import ResourceKernel.Text.Decimal

/-!
# Absolute URIs

A URI is read into its parts, and kept as the text in normal form that is put together from them.
URIs are equal if their texts are, and ordered by their texts.
-/

namespace ResourceKernel

inductive UriFault
  | relative
  | emptyHost
  | forbiddenHost
  | forbiddenHostCharacter
  | port
  | ipv4
  | ipv6
  deriving DecidableEq, Repr

def UriFault.message : UriFault → String
  | .relative => "relative URL without a base"
  | .emptyHost => "empty host"
  | .forbiddenHost => "invalid international domain name"
  | .forbiddenHostCharacter => "invalid domain character"
  | .port => "invalid port number"
  | .ipv4 => "invalid IPv4 address"
  | .ipv6 => "invalid IPv6 address"

namespace Uri

/-- The part between the double slash and the path. -/
structure Authority where
  /-- The user name, and a colon and the password if there is one. -/
  userInfo : Option String
  host : String
  port : Option Nat
  deriving DecidableEq, Repr

def Authority.text (a : Authority) : String :=
  (match a.userInfo with | some u => u ++ "@" | none => "") ++ a.host ++
    (match a.port with | some p => ":" ++ Text.Decimal.ofNat p | none => "")

/-- A path is either one text without structure or a list of segments, each after a slash. -/
inductive Path
  | rootless (s : String)
  | segments (parts : List String)
  deriving DecidableEq, Repr

structure Parts where
  scheme : String
  authority : Option Authority
  path : Path
  query : Option String
  fragment : Option String
  deriving DecidableEq, Repr

/-- A path that begins with two slashes would read as an authority, so without an authority a
dot segment goes before it. -/
def pathText (hasAuthority : Bool) : Path → String
  | .rootless s => s
  | .segments parts =>
      let text := String.join (parts.map ("/" ++ ·))
      match hasAuthority, parts with
      | false, "" :: _ :: _ => "/." ++ text
      | _, _ => text

def Parts.text (p : Parts) : String :=
  p.scheme ++ ":" ++ (match p.authority with | some a => "//" ++ a.text | none => "") ++
    pathText p.authority.isSome p.path ++
    (match p.query with | some q => "?" ++ q | none => "") ++
    (match p.fragment with | some f => "#" ++ f | none => "")

end Uri

/-- An absolute URI in normal form. -/
@[ext] structure Uri where
  text : String
  deriving DecidableEq, Repr

namespace Uri

def ofParts (p : Parts) : Uri := ⟨p.text⟩

/-- Whether the path is one text without structure, as in `urn:a`: no slash follows the colon
after the scheme. -/
def isRootless (u : Uri) : Bool :=
  ((u.text.toList.dropWhile (· ≠ ':')).drop 1).head? ≠ some '/'

instance : ToString Uri := ⟨text⟩

end Uri

end ResourceKernel
