import ResourceKernel.Text.BigEndian
import ResourceKernel.Text.Decimal
import ResourceKernel.Uri.Basic
import ResourceKernel.Uri.Percent

/-!
# Hosts

A host is a domain, an address of four numbers, or an address of eight numbers in square
brackets. Each has one normal form in writing.

International domain names are not covered. A domain with characters beyond ASCII is refused, where
it would have to be mapped and turned into its ASCII form; and a label that begins with `xn--`, as
such a form does, is taken like any other, where it would have to be checked.
-/

namespace ResourceKernel.Uri

open Text

/-! ## Addresses of four numbers -/

def numberIn? (base : Nat) (cs : List Char) : Option Nat :=
  cs.foldl (fun n c ↦ do
    let n ← n
    let d ← Hex.value? c
    if d < base then some (base * n + d) else none) (some 0)

/-- A part of an address: hexadecimal after `0x`, octal after a zero, decimal otherwise. -/
def addressPart? : List Char → Option Nat
  | [] => none
  | '0' :: 'x' :: digits => numberIn? 16 digits
  | '0' :: 'X' :: digits => numberIn? 16 digits
  | '0' :: d :: digits => numberIn? 8 (d :: digits)
  | digits => numberIn? 10 digits

def splitAt (separator : Char) : List Char → List (List Char)
  | [] => [[]]
  | c :: rest =>
      if c = separator then [] :: splitAt separator rest
      else
        match splitAt separator rest with
        | [] => [[c]]
        | part :: parts => (c :: part) :: parts

/-- The parts between points, where one point may end the text. -/
def domainParts (cs : List Char) : List (List Char) :=
  let parts := splitAt '.' cs
  if parts.getLast? == some [] then parts.dropLast else parts

/-- Whether the last part of a domain is a number, so that the whole has to be an address. -/
def endsInNumber (cs : List Char) : Bool :=
  match (domainParts cs).getLast? with
  | none => false
  | some last =>
      (!last.isEmpty && last.all Decimal.isDigit) || (addressPart? last).isSome

/-- The last part fills all bytes that the parts before it leave. -/
def ipv4? (cs : List Char) : Except UriFault String :=
  match (domainParts cs).mapM addressPart? with
  | none => .error .ipv4
  | some parts =>
      match parts.reverse with
      | [] => .error .ipv4
      | last :: before =>
          let heads := before.reverse
          let width := 4 - heads.length
          if 4 < parts.length || heads.any (255 < ·) || BigEndian.bound width ≤ last then
            .error .ipv4
          else
            let bytes := heads ++ (BigEndian.encode width last).map UInt8.toNat
            .ok (".".intercalate (bytes.map Decimal.ofNat))

/-! ## Addresses of eight numbers -/

/-- Numbers read so far, and how many of them stand before the gap and in it, if there is one. -/
structure Groups where
  numbers : List Nat
  gap : Option Nat

/-- Up to four hexadecimal digits, and what follows them. -/
def readGroup (cs : List Char) : Nat × Nat × List Char :=
  let digits := (cs.take 4).takeWhile fun c ↦ (Hex.value? c).isSome
  ((numberIn? 16 digits).getD 0, digits.length, cs.drop digits.length)

/-- A number up to 255 in decimal digits without a needless leading zero. -/
def readByte (cs : List Char) : Option (Nat × List Char) :=
  match cs.takeWhile Decimal.isDigit with
  | [] => none
  | '0' :: _ :: _ => none
  | digits =>
      let n := Decimal.valueOf digits
      if n ≤ 255 then some (n, cs.dropWhile Decimal.isDigit) else none

def readDotted (cs : List Char) : Option (List Nat) := do
  let (a, cs) ← readByte cs
  let cs ← after '.' cs
  let (b, cs) ← readByte cs
  let cs ← after '.' cs
  let (c, cs) ← readByte cs
  let cs ← after '.' cs
  let (d, cs) ← readByte cs
  if cs.isEmpty then some [a * 256 + b, c * 256 + d] else none
where
  after (c : Char) : List Char → Option (List Char)
    | d :: rest => if d = c then some rest else none
    | [] => none

/-- The groups of an address after those already read. Every step takes a character at least, so
the length of the text is enough `fuel`. -/
def readGroups : (fuel : Nat) → Groups → List Char → Option Groups
  | _, g, [] => some g
  | 0, _, _ => none
  | fuel + 1, g, ':' :: rest =>
      if g.numbers.length = 8 ∨ g.gap.isSome then none
      else
        readGroups fuel ⟨g.numbers ++ [0], some (g.numbers.length + 1)⟩ rest
  | fuel + 1, g, cs =>
      if g.numbers.length = 8 then none
      else
        let (n, count, rest) := readGroup cs
        match rest with
        | [] => if count = 0 then none else some { g with numbers := g.numbers ++ [n] }
        | '.' :: _ =>
            if count = 0 ∨ 6 < g.numbers.length then none
            else (readDotted cs).map fun pair ↦ { g with numbers := g.numbers ++ pair }
        | ':' :: rest =>
            if rest.isEmpty then none
            else readGroups fuel { g with numbers := g.numbers ++ [n] } rest
        | _ => none

/-- The eight numbers of an address. The gap stands for as many zeros as are missing. -/
def ipv6Numbers? (cs : List Char) : Option (List Nat) := do
  let groups ←
    match cs with
    | ':' :: ':' :: rest => readGroups rest.length ⟨[0], some 1⟩ rest
    | ':' :: _ => none
    | [] => none
    | [_] => none
    | cs => readGroups cs.length ⟨[], none⟩ cs
  match groups.gap with
  | none => if groups.numbers.length = 8 then some groups.numbers else none
  | some gap =>
      some (groups.numbers.take gap ++ List.replicate (8 - groups.numbers.length) 0 ++
        groups.numbers.drop gap)

def zeroRun (ns : List Nat) : Nat := (ns.takeWhile (· == 0)).length

/-- Start and length of the first longest run of two or more zeros. -/
def longestZeroRun (ns : List Nat) : Option (Nat × Nat) :=
  let runs := (List.range ns.length).map fun i ↦ (i, zeroRun (ns.drop i))
  let best := runs.foldl (fun best r ↦ if best.2 < r.2 then r else best) (0, 0)
  if 2 ≤ best.2 then some best else none

def groupText (n : Nat) : String := String.ofList (Nat.toDigits 16 n)

/-- Groups in hexadecimal digits, the longest run of zeros left out. -/
def ipv6Text (ns : List Nat) : String :=
  let joined (part : List Nat) : String := ":".intercalate (part.map groupText)
  match longestZeroRun ns with
  | none => joined ns
  | some (start, length) => joined (ns.take start) ++ "::" ++ joined (ns.drop (start + length))

def bracketed? : List Char → Option (Except UriFault String)
  | '[' :: rest =>
      some <|
        if rest.getLast? == some ']' then
          match ipv6Numbers? rest.dropLast with
          | some ns => .ok ("[" ++ ipv6Text ns ++ "]")
          | none => .error .ipv6
        else .error .ipv6
  | _ => none

/-! ## Domains -/

/-- The characters that no domain has. -/
def forbiddenInDomain (c : Char) : Bool :=
  c.toNat ≤ 0x20 || c.toNat == 0x7F || "%#/:<>?@[\\]^|".toList.contains c

/-- The characters that no host outside the web's schemes has. -/
def forbiddenInHost (c : Char) : Bool :=
  c.toNat == 0 || "\t\n\r #/:<>?@[\\]^|".toList.contains c

/-- The host of a web scheme: percent signs are decoded, letters are lower case, and a domain
that ends in a number has to be an address. Only domains of ASCII characters are covered, and their
labels are not checked as those of international names. -/
def webHost (cs : List Char) : Except UriFault String :=
  match bracketed? cs with
  | some r => r
  | none =>
      match Utf8.decode (percentDecode cs) with
      | .error _ => .error .forbiddenHost
      | .ok decoded =>
          let domain := decoded.toList.map Char.toLower
          if domain.any fun c ↦ 0x7F < c.toNat || forbiddenInDomain c then .error .forbiddenHost
          else if domain.isEmpty then .error .emptyHost
          else if endsInNumber domain then ipv4? domain
          else .ok (String.ofList domain)

/-- The host of any other scheme is kept as it is, but for control characters. -/
def plainHost (cs : List Char) : Except UriFault String :=
  match bracketed? cs with
  | some r => r
  | none =>
      if cs.any forbiddenInHost then .error .forbiddenHostCharacter
      else .ok (String.ofList (percentEncode isControl cs))

end ResourceKernel.Uri
