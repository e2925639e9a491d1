import KafkaTopology.Document.Yaml.Token
/-!
# The tokens of a YAML text

A colon tells only afterwards that a key began before it. So each place at which a key may have
begun is kept as a `Candidate`, with the number that its token would get, and the colon puts the
key token there. A candidate is given up on another line and after 1024 octets; that is an
error for one that stands at the indentation of its block (`Candidate.required`).
-/
namespace KafkaTopology.Document.Yaml

/-- A place at which a key may have begun. -/
structure Candidate where
  /-- The number of tokens before it. -/
  number : Nat
  /-- Only a key may stand there. -/
  required : Bool
  index : Nat
  line : Nat
  column : Nat

/-- The state of a lexer between two tokens. -/
structure Lexer where
  cursor : Cursor
  tokens : Array Token
  /-- The columns of the open blocks, innermost first. -/
  blocks : List Nat
  /-- The candidate at the current level of brackets. -/
  candidate : Option Candidate
  /-- The candidates of the levels around it, innermost first. -/
  around : List (Option Candidate)
  /-- A key may begin at this place. -/
  keyAllowed : Bool
deriving Inhabited

namespace Lexer

def start (text : List Char) : Lexer := ⟨.start text, #[], [], none, [], true⟩

def inFlow (l : Lexer) : Bool := !l.around.isEmpty

/-- The column of the innermost block, -1 outside of all. -/
def indent (l : Lexer) : Int :=
  match l.blocks with
  | [] => -1
  | n :: _ => n

/-- Adds a token. -/
def push (l : Lexer) (t : Token) : Lexer := { l with tokens := l.tokens.push t }

/-! ## The next place that is no space -/

/-- Skips blanks, comments and breaks, and one byte order mark at the beginning of a line. Where a
key may begin outside brackets no tabulator is skipped. A break allows a key outside brackets. -/
def skipSpace : (fuel : Nat) → Lexer → Lexer
  | 0, l => l
  | fuel + 1, l =>
    let c := l.cursor
    let c := if c.column == 0 && c.rest.head? == some '\ufeff' then c.skip 1 else c
    let c := c.dropWhile (fun x => x == ' ' || (x == '\t' && (l.inFlow || !l.keyAllowed)))
    let c := if c.rest.head? == some '#' then c.dropWhile (!isBreak ·) else c
    match c.lineBreak? with
    | some (_, c) =>
      skipSpace fuel { l with cursor := c, keyAllowed := l.keyAllowed || !l.inFlow }
    | none => { l with cursor := c }

/-! ## Candidates -/

def isStale (c : Cursor) (k : Candidate) : Bool := k.line < c.line || k.index + 1024 < c.index

/-- A candidate that is not too far behind; it is an error to give up a required one. -/
def renew? (c : Cursor) : Option Candidate → Option (Option Candidate)
  | none => some none
  | some k => if isStale c k then (if k.required then none else some none) else some (some k)

/-- Gives up the candidates that are too far behind. -/
def dropStale? (l : Lexer) : Option Lexer := do
  return { l with candidate := ← renew? l.cursor l.candidate
                  around := ← l.around.mapM (renew? l.cursor) }

/-- Gives up the candidate of the current level. -/
def dropCandidate? (l : Lexer) : Option Lexer :=
  if l.candidate.any (·.required) then none else some { l with candidate := none }

/-- Makes this place the candidate of its level, if a key may begin here. -/
def mark? (l : Lexer) : Option Lexer :=
  if l.keyAllowed then do
    let l ← l.dropCandidate?
    let c := l.cursor
    let required := !l.inFlow && l.indent == c.column
    return { l with candidate := some ⟨l.tokens.size, required, c.index, c.line, c.column⟩ }
  else some l

/-! ## Blocks -/

/-- Closes the blocks that are deeper than a column, outside brackets. -/
def closeBlocks (l : Lexer) (column : Int) : Lexer :=
  if l.inFlow then l
  else
    let closed := l.blocks.takeWhile (fun (n : Nat) => column < n)
    { l with blocks := l.blocks.drop closed.length
             tokens := closed.foldl (fun ts _ => ts.push .blockEnd) l.tokens }

/-- Opens a block at a column that is deeper than the current block, with its token in the given
position. -/
def openBlock (l : Lexer) (column : Nat) (position : Nat) (t : Token) : Lexer :=
  if l.inFlow || column ≤ l.indent then l
  else { l with blocks := column :: l.blocks, tokens := l.tokens.insertIdxIfInBounds position t }

/-! ## Single tokens -/

def take (l : Lexer) (n : Nat) (t : Token) : Lexer := { l.push t with cursor := l.cursor.skip n }

/-- Sets whether a key may begin next. -/
def allow (l : Lexer) (keyAllowed : Bool) : Lexer := { l with keyAllowed }

/-- Leaves all blocks, before a directive or a document marker. -/
def toRoot? (l : Lexer) : Option Lexer := do
  let l ← (l.closeBlocks (-1)).dropCandidate?
  return l.allow false

def finish? (l : Lexer) : Option (Array Token) := do return (← l.toRoot?).tokens

def openFlow? (l : Lexer) (t : Token) : Option Lexer := do
  let l ← l.mark?
  let l := { l with around := l.candidate :: l.around, candidate := none }
  return (l.allow true).take 1 t

def closeFlow? (l : Lexer) (t : Token) : Option Lexer := do
  let l ← l.dropCandidate?
  let l :=
    match l.around with
    | candidate :: around => { l with candidate, around }
    | [] => l
  return (l.allow false).take 1 t

/-- The dash of a list or the question mark of a key: outside brackets each opens a block and must
stand where a key may begin. -/
def blockIndicator? (l : Lexer) (opening t : Token) (allowed : Bool) : Option Lexer :=
  if !l.inFlow && !l.keyAllowed then none
  else do
    let l ← (l.openBlock l.cursor.column l.tokens.size opening).dropCandidate?
    return (l.allow allowed).take 1 t

/-- The colon after a key. With a candidate the key began there; without one the key is empty or
was announced by a question mark. -/
def value? (l : Lexer) : Option Lexer :=
  match l.candidate with
  | some k =>
    let l := { l with tokens := l.tokens.insertIdxIfInBounds k.number .key, candidate := none }
    some (((l.openBlock k.column k.number .blockMappingStart).allow false).take 1 .value)
  | none =>
    if !l.inFlow && !l.keyAllowed then none
    else
      let l := l.openBlock l.cursor.column l.tokens.size .blockMappingStart
      some ((l.allow !l.inFlow).take 1 .value)

/-- Whether a plain scalar begins with these characters. -/
def startsPlain (flow : Bool) : List Char → Bool
  | [] => false
  | x :: rest =>
    if x == '-' then !rest.head?.any isBlank
    else if x == '?' || x == ':' then !flow && !endsWord rest
    else !isSpace x && !",[]\x7b\x7d#&*!|>'\"%@\x60".toList.contains x

/-- A token that begins a node and is read by the given function. -/
def nodeToken? (l : Lexer) (read : Lexer → Option (Token × Cursor)) : Option Lexer := do
  let l ← l.mark?
  let (t, cursor) ← read l
  return { (l.allow false).push t with cursor }

def quotedToken? (fuel : Nat) (l : Lexer) (single : Bool) : Option Lexer :=
  l.nodeToken? fun l => do
    let (s, c) ← quoted? single fuel [] (l.cursor.skip 1)
    return (.scalar s false, c)

def blockToken? (fuel : Nat) (l : Lexer) (folded : Bool) : Option Lexer := do
  let l ← l.dropCandidate?
  let (s, cursor) ← block? folded l.indent fuel (l.cursor.skip 1)
  return { (l.allow true).push (.scalar s false) with cursor }

/-- A plain scalar. If it ends on another line a key may begin after it. -/
def plainToken? (fuel : Nat) (l : Lexer) : Option Lexer := do
  let l ← l.mark?
  let (s, broken, cursor) ←
    plain? l.inFlow (l.indent + 1).toNat fuel [] .empty l.cursor
  return { (l.allow broken).push (.scalar s true) with cursor }

/-! ## The next token -/

/-- What the characters at this place begin. -/
def next? (fuel : Nat) (l : Lexer) : Option Lexer :=
  let c := l.cursor
  let flow := l.inFlow
  if c.column == 0 && c.rest.head? == some '%' then do
    let l ← l.toRoot?
    let (t, cursor) ← Token.directive? (l.cursor.skip 1)
    return { l.push t with cursor }
  else if c.atMarker then do
    let l ← l.toRoot?
    return l.take 3 (if c.rest.head? == some '-' then .documentStart else .documentEnd)
  else
    match c.rest with
    | [] => none
    | x :: rest =>
      if x == '[' then l.openFlow? .flowSequenceStart
      else if x == '\x7b' then l.openFlow? .flowMappingStart
      else if x == ']' then l.closeFlow? .flowSequenceEnd
      else if x == '\x7d' then l.closeFlow? .flowMappingEnd
      else if x == ',' then do return ((← l.dropCandidate?).allow true).take 1 .flowEntry
      else if x == '-' && endsWord rest then l.blockIndicator? .blockSequenceStart .blockEntry true
      else if x == '?' && (flow || endsWord rest) then
        l.blockIndicator? .blockMappingStart .key !flow
      else if x == ':' && (flow || endsWord rest) then l.value?
      else if x == '*' then
        l.nodeToken? fun l => (Token.name? (l.cursor.skip 1)).map fun (n, c) => (.alias n, c)
      else if x == '&' then
        l.nodeToken? fun l => (Token.name? (l.cursor.skip 1)).map fun (n, c) => (.anchor n, c)
      else if x == '!' then
        l.nodeToken? fun l => (Token.tag? flow l.cursor).map fun (t, c) => (.tag t, c)
      else if x == '|' && !flow then blockToken? fuel l false
      else if x == '>' && !flow then blockToken? fuel l true
      else if x == '\'' then quotedToken? fuel l true
      else if x == '"' then quotedToken? fuel l false
      else if startsPlain flow c.rest then plainToken? fuel l
      else none

/-- Reads tokens to the end of the text. Every token takes a character, so fuel of more than the
length of the text is enough, for the readers of its parts too. -/
def run? : (fuel : Nat) → Lexer → Option (Array Token)
  | 0, _ => none
  | fuel + 1, l => do
    let l ← (skipSpace (fuel + 1) l).dropStale?
    let l := l.closeBlocks l.cursor.column
    if l.cursor.rest.isEmpty then l.finish? else run? fuel (← next? (fuel + 1) l)

end Lexer

/-- The tokens of a text. -/
def Token.ofText? (text : List Char) : Option (Array Token) :=
  if text.all isAllowed then Lexer.run? (text.length + 1) (.start text) else none

end KafkaTopology.Document.Yaml
