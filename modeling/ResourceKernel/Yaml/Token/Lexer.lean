import ResourceKernel.Yaml.Scalar.Block
import ResourceKernel.Yaml.Scalar.Flow
import ResourceKernel.Yaml.Token.Basic

/-!
# From text to tokens

A key that is followed by a colon on its line is seen to be one only at the colon. The lexer
therefore remembers where a key may have started, and puts the tokens that announce it there.
-/

namespace ResourceKernel.Yaml

/-- A place where a key may have started. -/
structure PossibleKey where
  /-- Whether a block mapping can only go on with a key there. -/
  required : Bool
  /-- How many tokens come before it. -/
  position : Nat
  spot : Spot

structure Lexer where
  tokens : List Token
  count : Nat
  /-- The columns of the open block collections, innermost first. -/
  indents : List Nat
  /-- The possible key of the innermost flow collection, or of the block. -/
  key : Option PossibleKey
  /-- The possible keys of what the open flow collections are in. -/
  outer : List (Option PossibleKey)
  /-- Whether a key may start here. -/
  keyAllowed : Bool

namespace Lexer

def start : Lexer := ⟨[], 0, [], none, [], true⟩

def inFlow (l : Lexer) : Bool := !l.outer.isEmpty

def push (l : Lexer) (t : Token) : Lexer :=
  { l with tokens := t :: l.tokens, count := l.count + 1 }

/-- Puts tokens, latest first, where so many tokens come before them. -/
def insertAt (l : Lexer) (position : Nat) (ts : List Token) : Lexer :=
  let after := l.count - position
  { l with
    tokens := l.tokens.take after ++ ts ++ l.tokens.drop after
    count := l.count + ts.length }

def allowKey (l : Lexer) (allowed : Bool) : Lexer := { l with keyAllowed := allowed }

/-! ## Possible keys -/

/-- Whether what has been read since the start of a key is too long for one. -/
def isStale (s : Spot) (k : PossibleKey) : Bool :=
  k.spot.line < s.line || k.spot.index + 1024 < s.index

def forget : Option PossibleKey → Option (Option PossibleKey)
  | some k => if k.required then none else some none
  | none => some none

def forgetStale (s : Spot) (key : Option PossibleKey) : Option (Option PossibleKey) :=
  match key with
  | some k => if isStale s k then forget key else some key
  | none => some none

def expire (l : Lexer) (s : Spot) : Option Lexer := do
  return { l with key := ← forgetStale s l.key, outer := ← l.outer.mapM (forgetStale s) }

def removeKey (l : Lexer) : Option Lexer := do
  return { l with key := ← forget l.key }

/-- Remembers that a key may start at the spot. -/
def saveKey (l : Lexer) (s : Spot) : Option Lexer := do
  if l.keyAllowed then
    let l ← l.removeKey
    return { l with
      key := some ⟨!l.inFlow && l.indents.head? == some s.column, l.count, s⟩ }
  else return l

/-! ## Block collections -/

/-- Whether a block collection at the column would be within the innermost one. -/
def isDeeper (l : Lexer) (column : Nat) : Bool :=
  match l.indents with
  | [] => true
  | i :: _ => i < column

/-- Opens a block collection at the column, unless one is open there. Its token goes where so many
tokens come before it, and before the tokens given, latest first. -/
def openAt (l : Lexer) (column position : Nat) (t : Token) (ts : List Token) : Lexer :=
  if !l.inFlow && l.isDeeper column then
    { l with indents := column :: l.indents }.insertAt position (ts ++ [t])
  else l.insertAt position ts

/-- Closes all block collections whose column is not among those that stay. -/
def closeWhile (stays : Nat → Bool) (l : Lexer) : Lexer :=
  if l.inFlow then l
  else
    let closed := l.indents.takeWhile fun i ↦ !stays i
    { l with
      tokens := closed.map (fun _ ↦ Token.blockEnd) ++ l.tokens
      count := l.count + closed.length
      indents := l.indents.dropWhile fun i ↦ !stays i }

/-- Closes the block collections that a token at the column is not in. -/
def closeTo (l : Lexer) (column : Nat) : Lexer := l.closeWhile (· ≤ column)

def closeAll (l : Lexer) : Lexer := l.closeWhile fun _ ↦ false

/-! ## Tokens -/

/-- A directive or a document mark, which ends all that is open. -/
def boundary (l : Lexer) (t : Token) : Option Lexer := do
  return ((← l.closeAll.removeKey).allowKey false).push t

def openFlow (l : Lexer) (s : Spot) (t : Token) : Option Lexer := do
  let l ← l.saveKey s
  return { (l.push t) with key := none, outer := l.key :: l.outer, keyAllowed := true }

def closeFlow (l : Lexer) (t : Token) : Option Lexer := do
  let l ← l.removeKey
  let l := match l.outer with
    | key :: outer => { l with key := key, outer := outer }
    | [] => l
  return (l.allowKey false).push t

def comma (l : Lexer) : Option Lexer := do
  return ((← l.removeKey).allowKey true).push .comma

/-- A dash or a question mark. In a block, it may stand where a key may, and opens a collection. -/
def indicator (l : Lexer) (s : Spot) (collection t : Token) (thenAllowed : Bool) :
    Option Lexer := do
  if !l.inFlow && !l.keyAllowed then none
  let l := if l.inFlow then l else l.openAt s.column l.count collection []
  return ((← l.removeKey).allowKey thenAllowed).push t

def dash (l : Lexer) (s : Spot) : Option Lexer := l.indicator s .blockSequence .dash true

def question (l : Lexer) (s : Spot) : Option Lexer :=
  l.indicator s .blockMapping .key (!l.inFlow)

def colon (l : Lexer) (s : Spot) : Option Lexer :=
  match l.key with
  | some k =>
      let l := l.openAt k.spot.column k.position .blockMapping [.key]
      some (({ l with key := none }.allowKey false).push .value)
  | none =>
      if l.inFlow then some ((l.allowKey false).push .value)
      else if l.keyAllowed then
        some (((l.openAt s.column l.count .blockMapping []).allowKey true).push .value)
      else none

/-- A token that may be a key or start one. -/
def atom (l : Lexer) (s : Spot) (read : Option (Token × List Spot)) :
    Option (Lexer × List Spot) := do
  let l ← l.saveKey s
  let (t, rest) ← read
  return ((l.allowKey false).push t, rest)

def blockScalar (l : Lexer) (style : Style) (rest : List Spot) : Option (Lexer × List Spot) := do
  let l ← l.removeKey
  let (cs, rest) ← readBlock (style == .folded) l.indents.head? rest
  return ((l.allowKey true).push (.scalar style (String.ofList cs)), rest)

def quotedScalar (l : Lexer) (s : Spot) (single : Bool) (rest : List Spot) :
    Option (Lexer × List Spot) :=
  l.atom s ((readQuoted single [] .none .text rest).map fun r ↦
    (.scalar .quoted (String.ofList r.1), r.2))

/-- A plain scalar. A key may start after it if it ends its line. -/
def plainScalar (l : Lexer) (s : Spot) (rest : List Spot) : Option (Lexer × List Spot) := do
  let l ← l.saveKey s
  let least := match l.indents with
    | [] => 0
    | i :: _ => i + 1
  let p ← readPlain l.inFlow least [] .none (s :: rest)
  return ((l.allowKey p.endsLine).push (.scalar .plain (String.ofList p.chars)), p.rest)

/-- The characters that have a meaning of their own at the start of a token. -/
def isIndicator (c : Char) : Bool := "-?:,[]\x7b\x7d#&*!|>'\"%@\x60".toList.contains c

/-- Whether a plain scalar can start with the character and what follows it. -/
def startsPlain (inFlow : Bool) (c : Char) (rest : List Spot) : Bool :=
  !(isBlankOrBreak c || isIndicator c) || (c == '-' && !atGap rest) ||
    (!inFlow && (c == '?' || c == ':') && !atGap rest)

def readToken (l : Lexer) (s : Spot) (rest : List Spot) : Option (Lexer × List Spot) :=
  let c := s.char
  let beforeGap := atGap rest
  if s.column == 0 && c == '%' then do
    let (t, rest) ← readDirective rest
    return (← l.boundary t, rest)
  else if atMarker '-' (s :: rest) then (l.boundary .documentStart).map (·, rest.drop 2)
  else if atMarker '.' (s :: rest) then (l.boundary .documentEnd).map (·, rest.drop 2)
  else if c == '[' then (l.openFlow s .sequenceOpen).map (·, rest)
  else if c == '\x7b' then (l.openFlow s .mappingOpen).map (·, rest)
  else if c == ']' then (l.closeFlow .sequenceClose).map (·, rest)
  else if c == '\x7d' then (l.closeFlow .mappingClose).map (·, rest)
  else if c == ',' then l.comma.map (·, rest)
  else if c == '-' && beforeGap then (l.dash s).map (·, rest)
  else if c == '?' && (l.inFlow || beforeGap) then (l.question s).map (·, rest)
  else if c == ':' && (l.inFlow || beforeGap) then (l.colon s).map (·, rest)
  else if c == '*' then l.atom s ((readName rest).map fun r ↦ (.alias r.1, r.2))
  else if c == '&' then l.atom s ((readName rest).map fun r ↦ (.anchor r.1, r.2))
  else if c == '!' then l.atom s ((readTag l.inFlow (s :: rest)).map fun r ↦ (.tag r.1, r.2))
  else if c == '|' && !l.inFlow then l.blockScalar .literal rest
  else if c == '>' && !l.inFlow then l.blockScalar .folded rest
  else if c == '\'' then l.quotedScalar s true rest
  else if c == '"' then l.quotedScalar s false rest
  else if startsPlain l.inFlow c rest then l.plainScalar s rest
  else none

/-- Reads all tokens. Each takes a character at least, so one more than the length of the text is
always enough `fuel`. -/
def readAll : (fuel : Nat) → Lexer → List Spot → Option (List Token)
  | 0, _, _ => none
  | fuel + 1, l, spots =>
      let (keyAllowed, rest) := skipGap l.inFlow false l.keyAllowed spots
      let l := l.allowKey keyAllowed
      match rest with
      | [] => l.closeAll.removeKey.map fun l ↦ l.tokens.reverse
      | s :: rest => do
          let l ← l.expire s
          let (l, rest) ← (l.closeTo s.column).readToken s rest
          readAll fuel l rest

end Lexer

def tokens? (s : String) : Option (List Token) :=
  (spots? s).bind fun spots ↦ Lexer.readAll (spots.length + 1) .start spots

end ResourceKernel.Yaml
