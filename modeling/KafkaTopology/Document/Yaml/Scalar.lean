import KafkaTopology.Document.Yaml.Cursor
import KafkaTopology.Text.Digit
/-!
# The text of YAML scalars

Block scalars (`|` and `>`), quoted scalars and plain scalars. In the last two a gap between words
that holds line breaks is folded (`Gap.text`): one break becomes a space, and of several the first
is dropped. Every reader takes a character at each step but the last, so fuel of more than the
number of characters that are left is enough for it.
-/
namespace KafkaTopology.Document.Yaml

/-! ## Gaps -/

/-- The blanks and breaks between two words of a scalar. -/
structure Gap where
  /-- The blanks before the first break. -/
  blanks : List Char
  /-- The breaks, except for an escaped one. -/
  breaks : List Char
  /-- The gap begins with a break that is escaped. -/
  escaped : Bool

namespace Gap

def empty : Gap := ⟨[], [], false⟩

/-- The gap that an escaped break opens. -/
def afterEscape : Gap := ⟨[], [], true⟩

def isBroken (g : Gap) : Bool := g.escaped || !g.breaks.isEmpty

def text (g : Gap) : List Char :=
  if g.escaped then g.breaks
  else
    match g.breaks with
    | [] => g.blanks
    | ['\n'] => [' ']
    | '\n' :: more => more
    | more => more

/-- Reads a gap. On a line after the first, a tabulator left of column `floor` is an error. -/
def scan? (floor : Nat) : (fuel : Nat) → Gap → Cursor → Option (Gap × Cursor)
  | 0, _, _ => none
  | fuel + 1, g, c =>
    match c.lineBreak? with
    | some (b, c) => scan? floor fuel { g with breaks := g.breaks ++ [b] } c
    | none =>
      match c.rest with
      | x :: _ =>
        if isBlank x then
          if g.isBroken then
            if x == '\t' && c.column < floor then none else scan? floor fuel g (c.skip 1)
          else scan? floor fuel { g with blanks := g.blanks ++ [x] } (c.skip 1)
        else some (g, c)
      | [] => some (g, c)

end Gap

def behind (acc more : List Char) : List Char := more.reverse ++ acc

/-! ## Plain scalars -/

/-- The characters that end a plain scalar inside brackets. -/
def isFlowIndicator (c : Char) : Bool :=
  c == ',' || c == '[' || c == ']' || c == '\x7b' || c == '\x7d'

/-- A word of a plain scalar. It ends before a blank, a break, a colon at the end of a word and,
inside brackets, a flow indicator. Inside brackets no indicator may follow a colon. -/
def plainWord? (flow : Bool) (acc : List Char) : List Char → Option (List Char)
  | [] => some acc
  | c :: rest =>
    if isSpace c then some acc
    else
      let next := rest.head?
      if flow && c == ':' && next.any (fun d => isFlowIndicator d || d == '?') then none
      else if c == ':' && endsWord rest then some acc
      else if flow && isFlowIndicator c then some acc
      else plainWord? flow (c :: acc) rest

/-- A plain scalar: its text, whether the reading stopped on another line than that of its last
word, and the place after it. Outside brackets its lines are indented to column `floor`. -/
def plain? (flow : Bool) (floor : Nat) :
    (fuel : Nat) → List Char → Gap → Cursor → Option (String × Bool × Cursor)
  | 0, _, _, _ => none
  | fuel + 1, acc, gap, c =>
    let stop (acc : List Char) (gap : Gap) (c : Cursor) :=
      some (String.ofList acc.reverse, gap.isBroken, c)
    if c.atMarker || c.rest.head? == some '#' then stop acc gap c
    else do
      let word ← plainWord? flow [] c.rest
      if word.isEmpty then stop acc gap c
      else
        let acc := word ++ behind acc gap.text
        let c := c.skip word.length
        let (gap, c) ← Gap.scan? floor fuel .empty c
        if gap.blanks.isEmpty && gap.breaks.isEmpty then stop acc gap c
        else if !flow && c.column < floor then stop acc gap c
        else plain? flow floor fuel acc gap c

/-! ## Quoted scalars -/

/-- The character of an escape by number, with the length of the escape after its backslash. -/
def numericEscape? (count : Nat) (digits : List Char) : Option (Char × Nat) :=
  (Text.numberedCharacter? count digits).map fun (c, _) => (c, count + 1)

/-- The character that an escape stands for, and the length of the escape after its backslash. -/
def escape? : List Char → Option (Char × Nat)
  | [] => none
  | c :: rest =>
    match c with
    | '0' => some ('\x00', 1)
    | 'a' => some ('\x07', 1)
    | 'b' => some ('\x08', 1)
    | 't' => some ('\t', 1)
    | '\t' => some ('\t', 1)
    | 'n' => some ('\n', 1)
    | 'v' => some ('\x0b', 1)
    | 'f' => some ('\x0c', 1)
    | 'r' => some ('\r', 1)
    | 'e' => some ('\x1b', 1)
    | ' ' => some (' ', 1)
    | '"' => some ('"', 1)
    | '/' => some ('/', 1)
    | '\\' => some ('\\', 1)
    | 'N' => some ('\u0085', 1)
    | '_' => some ('\u00a0', 1)
    | 'L' => some ('\u2028', 1)
    | 'P' => some ('\u2029', 1)
    | 'x' => numericEscape? 2 rest
    | 'u' => numericEscape? 4 rest
    | 'U' => numericEscape? 8 rest
    | _ => none

/-- A word between single quotes, collected in reverse. A quote is written twice. -/
def singleWord : (fuel : Nat) → List Char → Cursor → List Char × Cursor
  | 0, acc, c => (acc, c)
  | fuel + 1, acc, c =>
    match c.rest with
    | '\'' :: '\'' :: _ => singleWord fuel ('\'' :: acc) (c.skip 2)
    | x :: _ =>
      if x == '\'' || isSpace x then (acc, c) else singleWord fuel (x :: acc) (c.skip 1)
    | [] => (acc, c)

/-- A word between double quotes, collected in reverse, and whether an escaped break ended it. -/
def doubleWord? : (fuel : Nat) → List Char → Cursor → Option (List Char × Bool × Cursor)
  | 0, _, _ => none
  | fuel + 1, acc, c =>
    match c.rest with
    | '\\' :: rest =>
      if rest.head?.any isBreak then some (acc, true, (c.skip 1).skipBreak)
      else do
        let (x, n) ← escape? rest
        doubleWord? fuel (x :: acc) (c.skip (n + 1))
    | x :: _ =>
      if x == '"' || isSpace x then some (acc, false, c)
      else doubleWord? fuel (x :: acc) (c.skip 1)
    | [] => some (acc, false, c)

/-- A quoted scalar after its opening quote: its text and the place after its closing quote. No
document marker may stand in it. -/
def quoted? (single : Bool) : (fuel : Nat) → List Char → Cursor → Option (String × Cursor)
  | 0, _, _ => none
  | fuel + 1, acc, c =>
    if c.atMarker then none
    else do
      let (acc, escaped, c) ←
        if single then
          let (acc, c) := singleWord (fuel + 1) acc c
          some (acc, false, c)
        else doubleWord? (fuel + 1) acc c
      match c.rest with
      | [] => none
      | x :: _ =>
        if x == (if single then '\'' else '"') then
          some (String.ofList acc.reverse, c.skip 1)
        else
          let gap := if escaped then Gap.afterEscape else Gap.empty
          let (gap, c) ← Gap.scan? 0 (fuel + 1) gap c
          quoted? single fuel (behind acc gap.text) c

/-! ## Block scalars -/

/-- What becomes of the breaks at the end of a block scalar. -/
inductive Chomping where
  | strip
  | clip
  | keep
deriving DecidableEq, Repr

/-- The sign of a block scalar's header that sets the chomping. -/
def Chomping.ofSign? (c : Char) : Option Chomping :=
  if c == '+' then some .keep else if c == '-' then some .strip else none

/-- The digit of a block scalar's header that sets the indentation; zero is refused. -/
def indentDigit? (c : Char) : Option (Option Nat) :=
  if c == '0' then some none
  else if '1' ≤ c ∧ c ≤ '9' then some (some (c.toNat - 48))
  else none

/-- The indicators after the first character of a block scalar's header, in either order. -/
def blockHeader? (c : Cursor) : Option (Chomping × Option Nat × Cursor) :=
  match c.rest with
  | a :: rest =>
    match Chomping.ofSign? a, indentDigit? a with
    | some chomping, _ =>
      match rest.head?.bind indentDigit? with
      | some none => none
      | some (some n) => some (chomping, some n, c.skip 2)
      | none => some (chomping, none, c.skip 1)
    | none, some none => none
    | none, some (some n) =>
      match rest.head?.bind Chomping.ofSign? with
      | some chomping => some (chomping, some n, c.skip 2)
      | none => some (.clip, some n, c.skip 1)
    | none, none => some (.clip, none, c)
  | [] => some (.clip, none, c)

/-- The empty lines before the next line of a block scalar, and the greatest column that they
reach. Spaces are read up to column `indent`, or all of them while it is not known; no tabulator
may stand before it. -/
def emptyLines? (indent : Option Nat) :
    (fuel : Nat) → (widest : Nat) → List Char → Cursor → Option (Nat × List Char × Cursor)
  | 0, _, _, _ => none
  | fuel + 1, widest, breaks, c =>
    let within (column : Nat) : Bool := indent.all (column < ·)
    let spaces := (c.rest.takeWhile (· == ' ')).length
    let c := c.skip (match indent with
      | some n => min spaces (n - c.column)
      | none => spaces)
    let widest := max widest c.column
    if within c.column && c.rest.head? == some '\t' then none
    else
      match c.lineBreak? with
      | some (b, c) => emptyLines? indent fuel widest (breaks ++ [b]) c
      | none => some (widest, breaks, c)

/-- The breaks around the next line of a block scalar. -/
structure BlockTail where
  /-- The break that ended the last line, if any. -/
  lineEnd : List Char
  /-- The breaks of the empty lines after it. -/
  emptyLines : List Char
  /-- The last line began with a blank. -/
  indented : Bool

/-- What stands between two lines of a block scalar. In a folded one the break between two lines
that begin with no blank becomes a space, or nothing before empty lines. -/
def BlockTail.text (tail : BlockTail) (folded nextIndented : Bool) : List Char :=
  if folded && tail.lineEnd == ['\n'] && !tail.indented && !nextIndented then
    (if tail.emptyLines.isEmpty then [' '] else []) ++ tail.emptyLines
  else tail.lineEnd ++ tail.emptyLines

/-- The lines of a block scalar, collected in reverse. -/
def blockLines? (folded : Bool) (indent : Nat) :
    (fuel : Nat) → List Char → BlockTail → Cursor → Option (List Char × BlockTail × Cursor)
  | 0, _, _, _ => none
  | fuel + 1, acc, tail, c =>
    match c.rest with
    | [] => some (acc, tail, c)
    | x :: _ =>
      if c.column == indent then do
        let indented := isBlank x
        let (line, c) := c.span (!isBreak ·)
        let acc := behind (behind acc (tail.text folded indented)) line
        let (lineEnd, c) : List Char × Cursor :=
          match c.lineBreak? with
          | some (b, c) => ([b], c)
          | none => ([], c)
        let (_, emptyLines, c) ← emptyLines? (some indent) fuel 0 [] c
        blockLines? folded indent fuel acc ⟨lineEnd, emptyLines, indented⟩ c
      else some (acc, tail, c)

/-- A block scalar after its first character, inside a block of the given indentation (-1 at the
root): its text and the place after it. Without a digit in the header its indentation is that of
its first line or of a wider empty line before it, but deeper than the block around it. -/
def block? (folded : Bool) (outer : Int) (fuel : Nat) (c : Cursor) : Option (String × Cursor) := do
  let (chomping, digit, c) ← blockHeader? c
  let c ← c.skipLineEnd?
  let known := digit.map (fun n => (max outer 0).toNat + n)
  let (widest, emptyLines, c) ← emptyLines? known fuel 0 [] c
  let indent := known.getD (max widest (max (outer + 1) 1).toNat)
  let (acc, tail, c) ← blockLines? folded indent fuel [] ⟨[], emptyLines, false⟩ c
  let ending :=
    match chomping with
    | .strip => []
    | .clip => tail.lineEnd
    | .keep => tail.lineEnd ++ tail.emptyLines
  return (String.ofList (behind acc ending).reverse, c)

end KafkaTopology.Document.Yaml
