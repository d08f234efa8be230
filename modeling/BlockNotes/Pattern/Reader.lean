import BlockNotes.Pattern.Expr
import BlockNotes.Unicode.Blank
import BlockNotes.Unicode.Digit
import BlockNotes.Unicode.Case
import BlockNotes.Unicode.Property
import BlockNotes.Text.Basic

/-!
# Reading patterns

`Expr.ofText?` reads the written form of a pattern.  It gives no answer exactly
when the text is no pattern: an operator with nothing to repeat, a bracket that
is not closed, a range in descending order, two groups of one name, an escape
that means nothing, look-around and back references, which no automaton has, or
a pattern that nests or repeats beyond bounds.

Groups and classes nest, and both are read with an explicit stack, so each round
of the loop uses up one character and the length of the text bounds the rounds.
Flags hold from where they stand to the end of their group, in later
alternatives too.
-/

namespace BlockNotes.Pattern

open BlockNotes.Unicode (CharSet isBlank isLetter isAlphanumeric)

/-! ## Flags -/

/-- How the text that follows is to be understood. -/
structure Flags where
  /-- `i`: letters match in either case. -/
  ignoreCase : Bool := false
  /-- `m`: `^` and `$` match at lines. -/
  multiLine : Bool := false
  /-- `s`: `.` matches a line feed. -/
  dotAll : Bool := false
  /-- `U`: repetitions prefer fewer rounds, and `?` turns that round. -/
  swapGreed : Bool := false
  /-- `u`: classes know all characters and not only ASCII. -/
  unicode : Bool := true
  /-- `R`: a carriage return ends a line too. -/
  crlf : Bool := false
  /-- `x`: blanks and comments in the pattern mean nothing. -/
  verbose : Bool := false
deriving DecidableEq, Repr

namespace Flags

/-- Sets the flag of a letter, if the letter has one. -/
def put? (f : Flags) (letter : Char) (on : Bool) : Option Flags :=
  match letter with
  | 'i' => some { f with ignoreCase := on }
  | 'm' => some { f with multiLine := on }
  | 's' => some { f with dotAll := on }
  | 'U' => some { f with swapGreed := on }
  | 'u' => some { f with unicode := on }
  | 'R' => some { f with crlf := on }
  | 'x' => some { f with verbose := on }
  | _ => none

end Flags

/-! ## Characters of the written form -/

/-- The blanks and comments at the start of a text. -/
def skipBlanks : (inComment : Bool) → List Char → List Char
  | _, [] => []
  | true, c :: rest => if c = '\n' then skipBlanks false rest else skipBlanks true rest
  | false, c :: rest =>
    if isBlank c then skipBlanks false rest
    else if c = '#' then skipBlanks true rest
    else c :: rest

/-- What is left to read, without what the flags ignore. -/
def skip (f : Flags) (s : List Char) : List Char :=
  if f.verbose then skipBlanks false s else s

/-- The characters with a meaning of their own, which a backslash takes away. -/
def isMeta (c : Char) : Bool :=
  ['\\', '.', '+', '*', '?', '(', ')', '|', '[', ']', '\x7b', '\x7d', '^', '$', '#', '&', '-',
    '~'].contains c

/-- The characters that stand for themselves after a backslash. -/
def isEscapable (c : Char) : Bool :=
  isMeta c || (c.toNat < 0x80 && !c.isAlphanum && c != '<' && c != '>')

/-- The value of a hexadecimal digit. -/
def hexValue? (c : Char) : Option Nat :=
  if c.isDigit then some (c.toNat - '0'.toNat)
  else if 'a' ≤ c ∧ c ≤ 'f' then some (c.toNat - 'a'.toNat + 10)
  else if 'A' ≤ c ∧ c ≤ 'F' then some (c.toNat - 'A'.toNat + 10)
  else none

/-- The number written by hexadecimal digits, if there is at least one. -/
def hexNumber? (digits : List Char) : Option Nat :=
  if digits.isEmpty then none
  else digits.foldlM (fun n c => (hexValue? c).map fun d => n * 16 + d) 0

/-- The character with a code point. -/
def charOf? (n : Nat) : Option Char :=
  if n.isValidChar then some (Char.ofNat n) else none

/-! ## Classes with a name -/

/-- The members of `\d`, `\s` and `\w`, by the letter in lower case. -/
def perlSet (f : Flags) : Char → CharSet
  | 'd' => if f.unicode then Unicode.decimal else CharSet.range '0' '9'
  | 's' => if f.unicode then Unicode.blank
    else CharSet.ofRanges [(0x9, 0xd), (0x20, 0x20)]
  | _ => if f.unicode then Unicode.word
    else CharSet.ofRanges [(0x30, 0x39), (0x41, 0x5a), (0x5f, 0x5f), (0x61, 0x7a)]

/-- The members of a class in brackets and colons. -/
def asciiSet? : String → Option CharSet
  | "alnum" => some (.ofRanges [(0x30, 0x39), (0x41, 0x5a), (0x61, 0x7a)])
  | "alpha" => some (.ofRanges [(0x41, 0x5a), (0x61, 0x7a)])
  | "ascii" => some (.ofRanges [(0x0, 0x7f)])
  | "blank" => some (.ofRanges [(0x9, 0x9), (0x20, 0x20)])
  | "cntrl" => some (.ofRanges [(0x0, 0x1f), (0x7f, 0x7f)])
  | "digit" => some (.ofRanges [(0x30, 0x39)])
  | "graph" => some (.ofRanges [(0x21, 0x7e)])
  | "lower" => some (.ofRanges [(0x61, 0x7a)])
  | "print" => some (.ofRanges [(0x20, 0x7e)])
  | "punct" => some (.ofRanges [(0x21, 0x2f), (0x3a, 0x40), (0x5b, 0x60), (0x7b, 0x7e)])
  | "space" => some (.ofRanges [(0x9, 0xd), (0x20, 0x20)])
  | "upper" => some (.ofRanges [(0x41, 0x5a)])
  | "word" => some (.ofRanges [(0x30, 0x39), (0x41, 0x5a), (0x5f, 0x5f), (0x61, 0x7a)])
  | "xdigit" => some (.ofRanges [(0x30, 0x39), (0x41, 0x46), (0x61, 0x66)])
  | _ => none

/-- A set with the case variants that the flags ask for. -/
def foldCase (f : Flags) (s : CharSet) : CharSet :=
  if !f.ignoreCase then s
  else if f.unicode then s.closeCase
  else s.union (s.closeCase.inter (CharSet.ofRanges [(0x0, 0x7f)]))

/-- A complement.  Without `u` it would hold bytes that are no text, so there is none. -/
def negate? (f : Flags) (negated : Bool) (s : CharSet) : Option CharSet :=
  if !negated then some s else if f.unicode then some s.compl else none

/-- The pattern of one literal character. -/
def literal (f : Flags) (c : Char) : Expr :=
  if !f.ignoreCase then .set (.single c)
  else
    let others := (Unicode.caseVariants c.toNat).filter fun n => f.unicode || n < 0x80
    let others := if f.unicode || c.toNat < 0x80 then others else []
    .set (.ofRanges ((c.toNat, c.toNat) :: others.map fun n => (n, n)))

/-! ## Escapes -/

/-- What a backslash and the characters after it stand for. -/
inductive Escape where
  /-- One character; whether it was written as two hexadecimal digits after `x`. -/
  | char (c : Char) (isByte : Bool)
  /-- A set of characters. -/
  | set (s : CharSet)
  /-- A position. -/
  | assertion (a : Assertion)

/-- Reads as many hexadecimal digits as asked for. -/
def takeHex? (f : Flags) : (count : Nat) → List Char → Option (List Char × List Char)
  | 0, s => some ([], s)
  | n + 1, s =>
    match skip f s with
    | c :: rest => do
      guard (hexValue? c).isSome
      let (more, rest) ← takeHex? f n rest
      some (c :: more, rest)
    | [] => none

/-- Reads up to a closing brace and past it. -/
def takeBraced? (f : Flags) : List Char → Option (List Char × List Char)
  | [] => none
  | c :: rest =>
    if c = '\x7d' then some ([], rest)
    else if f.verbose && isBlank c then takeBraced? f rest
    else (takeBraced? f rest).map fun (inner, rest) => (c :: inner, rest)

/-- Reads the code point after `\x`, `\u` or `\U`. -/
def hexEscape? (f : Flags) (digits : Nat) (s : List Char) : Option (Char × List Char) :=
  match skip f s with
  | '\x7b' :: rest => do
    let (inner, rest) ← takeBraced? f rest
    let c ← charOf? (← hexNumber? inner)
    some (c, rest)
  | s => do
    let (inner, rest) ← takeHex? f digits s
    let c ← charOf? (← hexNumber? inner)
    some (c, rest)

/-- The set of a name in braces, which may also be a property with a value. -/
def propertySet? (inner : List Char) : Option CharSet :=
  match Text.cutFirst? '!' inner with
  | some (name, '=' :: value) => (Unicode.Property.ofValue? name value).map CharSet.compl
  | _ =>
    match (Text.cutFirst? ':' inner).or (Text.cutFirst? '=' inner) with
    | some (name, value) => Unicode.Property.ofValue? name value
    | none => Unicode.Property.ofName? inner

/-- Reads the name of a property after `\p`: one letter, or a name in braces. -/
def property? (f : Flags) (s : List Char) : Option (CharSet × List Char) :=
  match skip f s with
  | '\x7b' :: rest => do
    let (inner, rest) ← takeBraced? f rest
    let set ← propertySet? inner
    some (set, rest)
  | c :: rest => (Unicode.Property.ofName? [c]).map (·, rest)
  | [] => none

/-- Whether a character may stand in the name of an edge of a word. -/
def isEdgeChar (c : Char) : Bool :=
  c.isAlpha || c == '-'

/--
Reads the name of an edge after `\b`.  A brace with anything but a name after
it is left alone: it may count repetitions.
-/
def wordEdge? (f : Flags) (s : List Char) : Option (WordEdge × List Char) :=
  match s with
  | '\x7b' :: rest =>
    match skip f rest with
    | [] => none
    | c :: _ =>
      if !isEdgeChar c then some (.boundary, s)
      else do
        let letters := if f.verbose then rest.filter (!isBlank ·) else rest
        let name := letters.takeWhile isEdgeChar
        guard ((letters.drop name.length).head? = some '\x7d')
        let rest := (rest.dropWhile (· ≠ '\x7d')).drop 1
        match String.ofList name with
        | "start" => some (.start, rest)
        | "end" => some (.stop, rest)
        | "start-half" => some (.startHalf, rest)
        | "end-half" => some (.stopHalf, rest)
        | _ => none
  | _ => some (.boundary, s)

/-- Reads what follows a backslash. -/
def escape? (f : Flags) : List Char → Option (Escape × List Char)
  | [] => none
  | c :: rest =>
    let word := fun edge => Escape.assertion (.word (!f.unicode) edge)
    match c with
    | 'x' => do
      let braced := (skip f rest).head? = some '\x7b'
      let (c, rest) ← hexEscape? f 2 rest
      some (.char c !braced, rest)
    | 'u' => do let (c, rest) ← hexEscape? f 4 rest; some (.char c false, rest)
    | 'U' => do let (c, rest) ← hexEscape? f 8 rest; some (.char c false, rest)
    | 'd' | 's' | 'w' => some (.set (perlSet f c), rest)
    | 'D' | 'S' | 'W' => do
      let s ← negate? f true (perlSet f c.toLower)
      some (.set s, rest)
    | 'p' | 'P' => do
      guard f.unicode
      let (s, rest) ← property? f rest
      let s := foldCase f s
      some (.set (if c = 'P' then s.compl else s), rest)
    | 'a' => some (.char '\x07' false, rest)
    | 'f' => some (.char '\x0c' false, rest)
    | 't' => some (.char '\t' false, rest)
    | 'n' => some (.char '\n' false, rest)
    | 'r' => some (.char '\r' false, rest)
    | 'v' => some (.char '\x0b' false, rest)
    | 'A' => some (.assertion .textStart, rest)
    | 'z' => some (.assertion .textEnd, rest)
    | 'b' => do
      let (edge, rest) ← wordEdge? f rest
      some (word edge, rest)
    | 'B' => some (word .inside, rest)
    | '<' => some (word .start, rest)
    | '>' => some (word .stop, rest)
    | _ => if isEscapable c then some (.char c false, rest) else none

/-- Whether a character may be written here: without `u` a byte beyond ASCII is no text. -/
def allowsChar (f : Flags) (c : Char) (isByte : Bool) : Bool :=
  f.unicode || !isByte || c.toNat < 0x80

/-! ## Bracketed classes -/

/-- The binary operators of classes. -/
inductive ClassOp where
  /-- `&&` -/
  | inter
  /-- `--` -/
  | diff
  /-- `~~` -/
  | symmDiff
deriving DecidableEq, Repr

namespace ClassOp

/-- The set that an operator makes. -/
def apply (op : ClassOp) (s t : CharSet) : CharSet :=
  match op with
  | inter => s.inter t
  | diff => s.diff t
  | symmDiff => s.symmDiff t

end ClassOp

/-- An open bracket: what has been read of its class. -/
structure ClassFrame where
  /-- Whether the class starts with `^`. -/
  negated : Bool
  /-- The operand and operator before the items, if there are any. -/
  left : Option (CharSet × ClassOp) := none
  /-- The ranges of the items so far, last first. -/
  items : List (Nat × Nat) := []
  /-- How many items there are. -/
  count : Nat := 0
  /-- How deep the items nest. -/
  depth : Nat := 0
deriving Repr

namespace ClassFrame

/-- Adds an item. -/
def add (fr : ClassFrame) (ranges : List (Nat × Nat)) (depth : Nat) : ClassFrame :=
  { fr with items := ranges ++ fr.items, count := fr.count + 1, depth := max fr.depth depth }

/-- The set of the items after the last operator, with everything before it applied. -/
def value (f : Flags) (fr : ClassFrame) : CharSet :=
  let items := CharSet.ofRanges fr.items
  match fr.left with
  | none => items
  | some (l, op) => op.apply (foldCase f l) (foldCase f items)

/-- How deep the class nests. -/
def nesting (fr : ClassFrame) : Nat :=
  fr.depth + (if 1 < fr.count then 1 else 0) + (if fr.left.isSome then 1 else 0)

/-- Starts the right side of an operator. -/
def operator (f : Flags) (fr : ClassFrame) (op : ClassOp) : ClassFrame :=
  { fr with left := some (fr.value f, op), items := [], count := 0, depth := fr.nesting }

end ClassFrame

/-- Drops the dashes at the start of a class, which stand for themselves. -/
def leadingDashes (f : Flags) : List Char → Nat × List Char
  | [] => (0, [])
  | c :: rest =>
    if c = '-' then
      let (n, rest) := leadingDashes f rest
      (n + 1, rest)
    else if f.verbose && isBlank c then leadingDashes f rest
    else (0, c :: rest)

/-- Reads the start of a class, after its bracket. -/
def openClass? (f : Flags) (s : List Char) : Option (ClassFrame × List Char) := do
  let s := skip f s
  let negated := s.head? = some '^'
  let s := if negated then skip f (s.drop 1) else s
  let (dashes, s) := leadingDashes f s
  let s := skip f s
  let fr : ClassFrame := { negated := negated }
  let fr := (List.replicate dashes ()).foldl (fun fr _ => fr.add [(0x2d, 0x2d)] 0) fr
  match s with
  | [] => none
  | ']' :: rest =>
    if dashes = 0 then
      let rest := skip f rest
      if rest.isEmpty then none else some (fr.add [(0x5d, 0x5d)] 0, rest)
    else some (fr, s)
  | _ => some (fr, s)

/-- Reads a class in brackets and colons, after its bracket, if there is one. -/
def namedClass? (s : List Char) : Option (CharSet × Bool × List Char) :=
  match s with
  | ':' :: rest => do
    let negated := rest.head? = some '^'
    let rest := if negated then rest.drop 1 else rest
    let name := rest.takeWhile (· ≠ ':')
    guard ((rest.drop name.length).take 2 = [':', ']'])
    let set ← asciiSet? (String.ofList name)
    some (set, negated, rest.drop (name.length + 2))
  | _ => none

/-- One member of a class: an escape or a character as it is. -/
def classItem? (f : Flags) : List Char → Option (Escape × List Char)
  | [] => none
  | '\\' :: rest => escape? f rest
  | c :: rest => some (.char c false, rest)

/-- The code point of a member that is one character. -/
def memberCode? (f : Flags) : Escape → Option Nat
  | .char c isByte =>
    if f.unicode || (c.toNat < 0x80 && allowsChar f c isByte) then some c.toNat else none
  | _ => none

/-- Reads a member of a class or a range of them. -/
def classRange? (f : Flags) (s : List Char) : Option (List (Nat × Nat) × List Char) := do
  let (first, rest) ← classItem? f s
  let rest := skip f rest
  guard (!rest.isEmpty)
  let after := (skip f (rest.drop 1)).head?
  if rest.head? ≠ some '-' || after = some ']' || after = some '-' then
    match first with
    | .set members => some (members.ranges.toList, rest)
    | .char .. => do let n ← memberCode? f first; some ([(n, n)], rest)
    | .assertion _ => none
  else
    let (last, rest) ← classItem? f (skip f (rest.drop 1))
    let a ← memberCode? f first
    let b ← memberCode? f last
    guard (a ≤ b)
    some ([(a, b)], rest)

/-- Reads a class to its closing bracket, with the brackets that are open, innermost first. -/
def classLoop? (f : Flags) :
    (fuel : Nat) → List ClassFrame → List Char → Option (CharSet × Nat × List Char)
  | 0, _, _ => none
  | _ + 1, [], _ => none
  | fuel + 1, fr :: outer, s =>
    match skip f s with
    | [] => none
    | '[' :: rest =>
      match namedClass? rest with
      | some (set, negated, rest) => do
        let set ← negate? f negated (foldCase f set)
        classLoop? f fuel (fr.add set.ranges.toList 0 :: outer) rest
      | none => do
        let (inner, rest) ← openClass? f rest
        classLoop? f fuel (inner :: fr :: outer) rest
    | ']' :: rest => do
      let set ← negate? f fr.negated (foldCase f (fr.value f))
      match outer with
      | [] => some (set, fr.nesting + 1, rest)
      | up :: outer => classLoop? f fuel (up.add set.ranges.toList (fr.nesting + 1) :: outer) rest
    | '&' :: '&' :: rest => classLoop? f fuel (fr.operator f .inter :: outer) rest
    | '-' :: '-' :: rest => classLoop? f fuel (fr.operator f .diff :: outer) rest
    | '~' :: '~' :: rest => classLoop? f fuel (fr.operator f .symmDiff :: outer) rest
    | s => do
      let (ranges, rest) ← classRange? f s
      classLoop? f fuel (fr.add ranges 0 :: outer) rest

/-- Reads a bracketed class, after its bracket: its members and how deep it nests. -/
def class? (f : Flags) (s : List Char) : Option (CharSet × Nat × List Char) := do
  let (fr, rest) ← openClass? f s
  classLoop? f (s.length + 1) [fr] rest

/-! ## Groups and operators -/

/-- A part of a branch: a pattern that an operator may repeat, or a change of flags. -/
structure Part where
  /-- The pattern. -/
  expr : Expr
  /-- How deep it nests. -/
  depth : Nat := 0
  /-- Whether it may be repeated. -/
  repeatable : Bool := true
deriving Repr

/-- An open group: what has been read of it. -/
structure GroupFrame where
  /-- The flags outside of the group. -/
  outside : Flags
  /-- Whether this is the group called `token`. -/
  isToken : Bool
  /-- The finished branches, last first. -/
  branches : List Part := []
  /-- The parts of the branch that is being read, last first. -/
  parts : List Part := []
deriving Repr

namespace GroupFrame

/-- Adds a part. -/
def add (fr : GroupFrame) (p : Part) : GroupFrame :=
  { fr with parts := p :: fr.parts }

/-- The greatest depth among parts. -/
def deepest (ps : List Part) : Nat :=
  ps.foldl (fun d p => max d p.depth) 0

/-- Parts put together, one level deeper if there are several. -/
def combine (make : List Expr → Expr) (ps : List Part) : Part where
  expr := make (ps.reverse.map Part.expr)
  depth := deepest ps + (if 1 < ps.length then 1 else 0)

/-- Finishes a branch. -/
def branch (fr : GroupFrame) : GroupFrame :=
  { fr with branches := combine Expr.ofSeq fr.parts :: fr.branches, parts := [] }

/-- The pattern between the parentheses. -/
def body (fr : GroupFrame) : Part :=
  combine Expr.ofAlts fr.branch.branches

/-- The group as a part of the branch around it. -/
def close (fr : GroupFrame) : Part :=
  let inner := fr.body
  { expr := if fr.isToken then .token inner.expr else inner.expr, depth := inner.depth + 1 }

/-- Repeats the last part of the branch. -/
def repeatLast? (fr : GroupFrame) (least : Nat) (most : Option Nat) (greedy : Bool) :
    Option GroupFrame :=
  match fr.parts with
  | p :: rest =>
    if p.repeatable then
      let p' : Part := { expr := .rounds least most greedy p.expr, depth := p.depth + 1 }
      some { fr with parts := p' :: rest }
    else none
  | [] => none

end GroupFrame

/-- How far a pattern may nest. -/
def maxDepth : Nat := 250

/-- How many bytes a compiled pattern may take. -/
def maxWeight : Nat := 10 * 1024 * 1024

/-- Reads a decimal number, with blanks on both sides. -/
def decimal? (f : Flags) (s : List Char) : Option Nat × List Char :=
  let s := s.dropWhile isBlank
  let rec digits : List Char → List Char × List Char
    | [] => ([], [])
    | c :: rest =>
      if c.isDigit then
        let (ds, rest) := digits rest
        (c :: ds, rest)
      else if f.verbose && isBlank c then digits rest
      else ([], c :: rest)
  let (ds, rest) := digits s
  let rest := rest.dropWhile isBlank
  if ds.isEmpty then (none, rest)
  else (some (ds.foldl (fun n c => n * 10 + (c.toNat - '0'.toNat)) 0), rest)

/-- Whether a number fits into 32 bits. -/
def fits32 (n : Nat) : Bool :=
  n < 0x100000000

/-- Reads the bounds of a repetition, after the brace. -/
def bounds? (f : Flags) (s : List Char) : Option (Nat × Option Nat × List Char) := do
  let (least, s) := decimal? f s
  let least ← least
  guard (fits32 least)
  match s with
  | '\x7d' :: rest => some (least, some least, rest)
  | ',' :: rest =>
    match skip f rest with
    | '\x7d' :: rest => some (least, none, rest)
    | rest => do
      let (most, s) := decimal? f rest
      let most ← most
      guard (fits32 most && least ≤ most)
      match s with
      | '\x7d' :: rest => some (least, some most, rest)
      | _ => none
  | _ => none

/-- Reads flag letters up to a colon or a parenthesis, which is left standing. -/
def flagLetters? (f : Flags) :
    (on : Bool) → (seen : List Char) → List Char → Option (Flags × List Char × List Char)
  | _, _, [] => none
  | on, seen, c :: rest =>
    if c = ':' || c = ')' then
      if seen.head? = some '-' then none else some (f, seen, c :: rest)
    else if seen.contains c then none
    else if c = '-' then flagLetters? f false (c :: seen) rest
    else do
      let f ← f.put? c on
      flagLetters? f on (c :: seen) rest

/-- Whether a character may stand in the name of a group. -/
def isNameChar (first : Bool) (c : Char) : Bool :=
  if first then c == '_' || isLetter c
  else c == '_' || c == '.' || c == '[' || c == ']' || isAlphanumeric c

/-- Reads the name of a group, to the angle bracket and past it. -/
def groupName? (s : List Char) : Option (String × List Char) :=
  let name := s.takeWhile (· ≠ '>')
  match name, s.drop name.length with
  | c :: more, _ :: rest =>
    if isNameChar true c && more.all (isNameChar false) then some (String.ofList name, rest)
    else none
  | _, _ => none

/-- Where the reading of a pattern stands. -/
structure ReadState where
  /-- The flags that hold here. -/
  flags : Flags := {}
  /-- The names of the groups so far. -/
  names : List String := []
  /-- The open groups, innermost first, and the whole pattern last. -/
  frames : List GroupFrame
deriving Repr

namespace ReadState

/-- Adds a part to the branch that is being read. -/
def add (st : ReadState) (p : Part) : ReadState :=
  match st.frames with
  | fr :: outer => { st with frames := fr.add p :: outer }
  | [] => st

/-- Opens a group. -/
def openGroup (st : ReadState) (inside : Flags) (isToken : Bool) : ReadState :=
  { st with flags := inside, frames := { outside := st.flags, isToken } :: st.frames }

/-- Opens a group with a name, which no other group has. -/
def openNamed? (st : ReadState) (s : List Char) : Option (ReadState × List Char) := do
  let (name, rest) ← groupName? s
  guard (!st.names.contains name)
  some ({ st.openGroup st.flags (name == "token") with names := name :: st.names }, rest)

/-- Reads the start of a group or a change of flags, after the parenthesis. -/
def group? (st : ReadState) (s : List Char) : Option (ReadState × List Char) :=
  match skip st.flags s with
  | '?' :: '=' :: _ | '?' :: '!' :: _ => none
  | '?' :: '<' :: '=' :: _ | '?' :: '<' :: '!' :: _ => none
  | '?' :: 'P' :: '<' :: rest | '?' :: '<' :: rest => st.openNamed? rest
  | '?' :: rest => do
    let (flags, seen, rest) ← flagLetters? st.flags true [] rest
    match rest with
    | ')' :: rest =>
      if seen.isEmpty then none
      else some ({ st.add { expr := .empty, repeatable := false } with flags }, rest)
    | _ => some (st.openGroup flags false, rest.drop 1)
  | s => some (st.openGroup st.flags false, s)

/-- Closes the innermost group. -/
def closeGroup? (st : ReadState) : Option ReadState :=
  match st.frames with
  | fr :: up :: outer =>
    some { st with flags := fr.outside, frames := up.add fr.close :: outer }
  | _ => none

/-- Starts another alternative. -/
def alternative (st : ReadState) : ReadState :=
  match st.frames with
  | fr :: outer => { st with frames := fr.branch :: outer }
  | [] => st

/-- Repeats the last part, with the question mark that turns the preference. -/
def repeat? (st : ReadState) (least : Nat) (most : Option Nat) (s : List Char) :
    Option (ReadState × List Char) :=
  match st.frames with
  | fr :: outer => do
    let lazy := s.head? = some '?'
    let fr ← fr.repeatLast? least most (lazy == st.flags.swapGreed)
    some ({ st with frames := fr :: outer }, if lazy then s.drop 1 else s)
  | [] => none

/-- Repeats the last part between bounds, after the brace. -/
def counted? (st : ReadState) (s : List Char) : Option (ReadState × List Char) := do
  let (least, most, rest) ← bounds? st.flags s
  st.repeat? least most (skip st.flags rest)

/-- The part of one character that is no operator. -/
def primitive? (st : ReadState) (c : Char) (rest : List Char) : Option (Part × List Char) :=
  let f := st.flags
  match c with
  | '\\' => do
    let (e, rest) ← escape? f rest
    match e with
    | .char c isByte =>
      if allowsChar f c isByte then some ({ expr := literal f c }, rest) else none
    | .set s => some ({ expr := .set s }, rest)
    | .assertion a => some ({ expr := .assert a }, rest)
  | '.' =>
    if !f.unicode then none
    else if f.dotAll then some ({ expr := .set .full }, rest)
    else
      let stops := if f.crlf then ['\n', '\r'] else ['\n']
      some ({ expr := .set (CharSet.ofList stops).compl }, rest)
  | '^' =>
    let a := if !f.multiLine then .textStart else if f.crlf then .crlfLineStart else .lineStart
    some ({ expr := .assert a }, rest)
  | '$' =>
    let a := if !f.multiLine then .textEnd else if f.crlf then .crlfLineEnd else .lineEnd
    some ({ expr := .assert a }, rest)
  | _ => some ({ expr := literal f c }, rest)

/-- Reads one piece of a pattern. -/
def step? (st : ReadState) (c : Char) (rest : List Char) : Option (ReadState × List Char) :=
  match c with
  | '(' => st.group? rest
  | ')' => st.closeGroup?.map (·, rest)
  | '|' => some (st.alternative, rest)
  | '[' => do
    let (set, depth, rest) ← class? st.flags rest
    some (st.add { expr := .set set, depth }, rest)
  | '?' => st.repeat? 0 (some 1) rest
  | '*' => st.repeat? 0 none rest
  | '+' => st.repeat? 1 none rest
  | '\x7b' => st.counted? rest
  | _ => do
    let (p, rest) ← st.primitive? c rest
    some (st.add p, rest)

/-- Reads a pattern piece by piece. -/
def run? : (fuel : Nat) → ReadState → List Char → Option ReadState
  | 0, _, _ => none
  | fuel + 1, st, s =>
    match skip st.flags s with
    | [] => some st
    | c :: rest => do
      let (st, rest) ← st.step? c rest
      run? fuel st rest

end ReadState

/-- The pattern that a text writes, if it writes one. -/
def Expr.ofText? (s : List Char) : Option Expr := do
  let start : ReadState := { frames := [{ outside := {}, isToken := false }] }
  let st ← start.run? (s.length + 1) s
  match st.frames with
  | [fr] =>
    let p := fr.body
    if p.depth ≤ maxDepth ∧ p.expr.weight ≤ maxWeight then some p.expr else none
  | _ => none

end BlockNotes.Pattern
