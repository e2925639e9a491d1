/-!
# Places in a YAML text

A `Cursor` is the part of a text that is still to be read, with its place: the number of octets
before it, and its line and column, all counted from zero. A column is a number of characters. A
line break is a carriage return, a line feed, both in this order, or one of the breaks U+0085,
U+2028 and U+2029.
-/
namespace KafkaTopology.Document.Yaml

def isAllowed (c : Char) : Bool :=
  let n := c.toNat
  n == 0x09 || n == 0x0A || n == 0x0D || (0x20 ≤ n && n ≤ 0x7E) || n == 0x85 ||
    (0xA0 ≤ n && n ≤ 0xD7FF) || (0xE000 ≤ n && n ≤ 0xFFFD) || 0x10000 ≤ n

def isBlank (c : Char) : Bool := c == ' ' || c == '\t'

def isBreak (c : Char) : Bool :=
  c == '\n' || c == '\r' || c == '\u0085' || c == '\u2028' || c == '\u2029'

def isSpace (c : Char) : Bool := isBlank c || isBreak c

/-- Whether a character may stand in the name of an anchor, of a handle or of a directive. -/
def isWord (c : Char) : Bool :=
  ('0' ≤ c && c ≤ '9') || ('A' ≤ c && c ≤ 'Z') || ('a' ≤ c && c ≤ 'z') || c == '_' || c == '-'

/-- What a text still holds, and where that begins. -/
structure Cursor where
  rest : List Char
  /-- The number of octets before it in UTF-8. -/
  index : Nat
  line : Nat
  column : Nat
deriving Inhabited

def octets (cs : List Char) : Nat := cs.foldl (fun n x => n + x.utf8Size) 0

namespace Cursor

def start (text : List Char) : Cursor := ⟨text, 0, 0, 0⟩

def skip (c : Cursor) (n : Nat) : Cursor :=
  { c with rest := c.rest.drop n
           index := c.index + octets (c.rest.take n)
           column := c.column + n }

/-- The longest run of characters of a class, and the place after it. The class holds no break. -/
def span (c : Cursor) (p : Char → Bool) : List Char × Cursor :=
  let (run, rest) := c.rest.span p
  (run, { c with rest, index := c.index + octets run, column := c.column + run.length })

/-- The place after the longest run of characters of a class. The class holds no break. -/
def dropWhile (c : Cursor) (p : Char → Bool) : Cursor := (c.span p).2

def nextLine (c : Cursor) (lineBreak rest : List Char) : Cursor :=
  ⟨rest, c.index + octets lineBreak, c.line + 1, 0⟩

/-- The line break at this place and the place after it. All breaks count as line feeds, except
for the two separators of lines and paragraphs. -/
def lineBreak? (c : Cursor) : Option (Char × Cursor) :=
  match c.rest with
  | '\r' :: '\n' :: rest => some ('\n', c.nextLine ['\r', '\n'] rest)
  | '\u2028' :: rest => some ('\u2028', c.nextLine ['\u2028'] rest)
  | '\u2029' :: rest => some ('\u2029', c.nextLine ['\u2029'] rest)
  | x :: rest => if isBreak x then some ('\n', c.nextLine [x] rest) else none
  | [] => none

/-- The place after the line break at this place, if there is one. -/
def skipBreak (c : Cursor) : Cursor :=
  match c.lineBreak? with
  | some (_, c) => c
  | none => c

/-- The place after blanks and a comment, which must reach the end of the line, and after its
break. -/
def skipLineEnd? (c : Cursor) : Option Cursor :=
  let c := c.dropWhile isBlank
  let c := if c.rest.head? == some '#' then c.dropWhile (!isBreak ·) else c
  match c.rest with
  | [] => some c
  | x :: _ => if isBreak x then some c.skipBreak else none

end Cursor

/-- Whether a word ends before these characters: they begin with a blank or a break, or the text
is at its end. -/
def endsWord : List Char → Bool
  | [] => true
  | c :: _ => isSpace c

/-- Whether a line begins with a document marker. -/
def Cursor.atMarker (c : Cursor) : Bool :=
  c.column == 0 &&
    match c.rest with
    | '-' :: '-' :: '-' :: rest => endsWord rest
    | '.' :: '.' :: '.' :: rest => endsWord rest
    | _ => false

end KafkaTopology.Document.Yaml
