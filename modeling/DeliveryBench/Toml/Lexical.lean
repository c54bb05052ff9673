import DeliveryBench.Text.Hex

/-!
The characters of a TOML document: blanks, ends of lines, comments, quoted texts and keys.

Every reader takes a list of characters and gives back what it has read together with the rest, or
nothing if the text is malformed. Quoted texts are read one character at a time by a small state
machine each, by recursion on the characters.
-/

namespace DeliveryBench.Toml

/-- The blanks within a line. -/
def isSpace (c : Char) : Bool :=
  c == ' ' || c == '\t'

def skipSpaces (cs : List Char) : List Char :=
  cs.dropWhile isSpace

/-- Characters that may stand in comments: no controls but the tab. -/
def isPrintable (c : Char) : Bool :=
  c == '\t' || (' ' ≤ c && c != '\x7f')

/-- The rest after an end of line. -/
def newline? : List Char → Option (List Char)
  | '\n' :: rest => some rest
  | '\r' :: '\n' :: rest => some rest
  | _ => none

/-- The rest after an end of line, or nothing at the end of the text. -/
def lineEnd? (cs : List Char) : Option (List Char) :=
  if cs.isEmpty then some [] else newline? cs

/-- Skips a comment, if one begins here. -/
def skipComment : List Char → List Char
  | '#' :: rest => rest.dropWhile isPrintable
  | cs => cs

/-- The rest after what may follow a statement: blanks, a comment, the end of the line. -/
def lineTail? (cs : List Char) : Option (List Char) :=
  lineEnd? (skipComment (skipSpaces cs))

/-- Skips blanks, comments and ends of lines in at most so many rounds. -/
def skipLines : Nat → List Char → Option (List Char)
  | 0, cs => some cs
  | rounds + 1, cs =>
    match skipSpaces cs with
    | '#' :: rest => (lineEnd? (skipComment ('#' :: rest))).bind (skipLines rounds)
    | '\n' :: rest => skipLines rounds rest
    | '\r' :: rest => (newline? ('\r' :: rest)).bind (skipLines rounds)
    | other => some other

/-- Skips blanks, comments and ends of lines. -/
def skipFiller (cs : List Char) : Option (List Char) :=
  skipLines (cs.length + 1) cs

/-! ## Escapes -/

/-- The character that a one-letter escape stands for. -/
def escaped? (c : Char) : Option Char :=
  if c = 'b' then some '\x08'
  else if c = 'f' then some '\x0c'
  else if c = 'n' then some '\n'
  else if c = 'r' then some '\r'
  else if c = 't' then some '\t'
  else if c = '"' then some '"'
  else if c = '\\' then some '\\'
  else none

/-- The number of digits of a numeric escape. -/
def escapeWidth? (c : Char) : Option Nat :=
  if c = 'u' then some 4 else if c = 'U' then some 8 else none

/-- The character of a code point, if it is one. -/
def charOf? (n : Nat) : Option Char :=
  if n.isValidChar then some (Char.ofNat n) else none

/-! ## Quoted texts -/

/-- Where in a quoted text the reader is. -/
inductive QuoteState where
  | plain
  /-- After a backslash. -/
  | escape
  /-- In a numeric escape, with so many digits to come and this value so far. -/
  | code (left value : Nat)
  /-- After so many quotes in a text of several lines. -/
  | quotes (count : Nat)
  /-- After a carriage return, which only a line feed may follow. -/
  | cr
  /-- After a backslash and blanks, before the end of the line. -/
  | fold
  /-- After a folded end of line: further blanks and ends of lines are dropped. -/
  | folded
  /-- After a carriage return in such a gap; true if a line has to end here first. -/
  | foldedCr
deriving DecidableEq, Repr

/-- Reads the rest of a text between double quotes on one line. -/
def readBasic : QuoteState → List Char → List Char → Option (List Char × List Char)
  | _, _, [] => none
  | .plain, acc, c :: rest =>
    if c = '"' then some (acc.reverse, rest)
    else if c = '\\' then readBasic .escape acc rest
    else if isPrintable c then readBasic .plain (c :: acc) rest
    else none
  | .escape, acc, c :: rest =>
    match escaped? c, escapeWidth? c with
    | some e, _ => readBasic .plain (e :: acc) rest
    | none, some width => readBasic (.code width 0) acc rest
    | none, none => none
  | .code left value, acc, c :: rest =>
    match Text.hexValue? c with
    | none => none
    | some d =>
      if left ≤ 1 then
        match charOf? (16 * value + d) with
        | some e => readBasic .plain (e :: acc) rest
        | none => none
      else readBasic (.code (left - 1) (16 * value + d)) acc rest
  | _, _, _ :: _ => none

/-- Reads the rest of a text between apostrophes on one line. -/
def readLiteral : List Char → List Char → Option (List Char × List Char)
  | _, [] => none
  | acc, c :: rest =>
    if c = '\'' then some (acc.reverse, rest)
    else if isPrintable c then readLiteral (c :: acc) rest
    else none

/-- Drops the end of line with which a text of several lines may begin. -/
def skipFirstNewline (cs : List Char) : List Char :=
  (newline? cs).getD cs

/-- Ends a text of several lines after a run of quotes: three of them close it, the others, two at
most, belong to it. -/
def closeQuotes (mark : Char) (count : Nat) (acc : List Char) : List Char :=
  (List.replicate (count - 3) mark ++ acc).reverse

/-- Reads the rest of a text of several lines between triple marks. Backslashes are escapes only
if `escapes` says so. -/
def readMultiline (mark : Char) (escapes : Bool) :
    QuoteState → List Char → List Char → Option (List Char × List Char)
  | .quotes count, acc, [] =>
    if 3 ≤ count then some (closeQuotes mark count acc, []) else none
  | _, _, [] => none
  | .plain, acc, c :: rest =>
    if c = mark then readMultiline mark escapes (.quotes 1) acc rest
    else if c = '\\' ∧ escapes = true then readMultiline mark escapes .escape acc rest
    else if c = '\n' then readMultiline mark escapes .plain ('\n' :: acc) rest
    else if c = '\r' then readMultiline mark escapes .cr acc rest
    else if isPrintable c then readMultiline mark escapes .plain (c :: acc) rest
    else none
  | .cr, acc, c :: rest =>
    if c = '\n' then readMultiline mark escapes .plain ('\n' :: acc) rest else none
  | .quotes count, acc, c :: rest =>
    if c = mark ∧ count < 5 then readMultiline mark escapes (.quotes (count + 1)) acc rest
    else if 3 ≤ count then some (closeQuotes mark count acc, c :: rest)
    else
      let acc := List.replicate count mark ++ acc
      if c = '\\' ∧ escapes = true then readMultiline mark escapes .escape acc rest
      else if c = '\n' then readMultiline mark escapes .plain ('\n' :: acc) rest
      else if c = '\r' then readMultiline mark escapes .cr acc rest
      else if isPrintable c then readMultiline mark escapes .plain (c :: acc) rest
      else none
  | .escape, acc, c :: rest =>
    match escaped? c, escapeWidth? c with
    | some e, _ => readMultiline mark escapes .plain (e :: acc) rest
    | none, some width => readMultiline mark escapes (.code width 0) acc rest
    | none, none =>
      if c = '\n' then readMultiline mark escapes .folded acc rest
      else if c = '\r' then readMultiline mark escapes .foldedCr acc rest
      else if isSpace c then readMultiline mark escapes .fold acc rest
      else none
  | .code left value, acc, c :: rest =>
    match Text.hexValue? c with
    | none => none
    | some d =>
      if left ≤ 1 then
        match charOf? (16 * value + d) with
        | some e => readMultiline mark escapes .plain (e :: acc) rest
        | none => none
      else readMultiline mark escapes (.code (left - 1) (16 * value + d)) acc rest
  | .fold, acc, c :: rest =>
    if c = '\n' then readMultiline mark escapes .folded acc rest
    else if c = '\r' then readMultiline mark escapes .foldedCr acc rest
    else if isSpace c then readMultiline mark escapes .fold acc rest
    else none
  | .foldedCr, acc, c :: rest =>
    if c = '\n' then readMultiline mark escapes .folded acc rest else none
  | .folded, acc, c :: rest =>
    if c = '\n' || isSpace c then readMultiline mark escapes .folded acc rest
    else if c = '\r' then readMultiline mark escapes .foldedCr acc rest
    else if c = mark then readMultiline mark escapes (.quotes 1) acc rest
    else if c = '\\' then readMultiline mark escapes .escape acc rest
    else if isPrintable c then readMultiline mark escapes .plain (c :: acc) rest
    else none

/-- Reads a text that begins with a mark, of one line or of several. -/
def readText? : List Char → Option (List Char × List Char)
  | '"' :: '"' :: '"' :: rest => readMultiline '"' true .plain [] (skipFirstNewline rest)
  | '"' :: rest => readBasic .plain [] rest
  | '\'' :: '\'' :: '\'' :: rest => readMultiline '\'' false .plain [] (skipFirstNewline rest)
  | '\'' :: rest => readLiteral [] rest
  | _ => none

/-! ## Keys -/

/-- The characters of a key without marks. -/
def isBareKey (c : Char) : Bool :=
  c.isAlphanum || c == '_' || c == '-'

/-- Reads one part of a key. -/
def readKeyPart? : List Char → Option (String × List Char)
  | '"' :: rest => (readBasic .plain [] rest).map fun read => (String.ofList read.1, read.2)
  | '\'' :: rest => (readLiteral [] rest).map fun read => (String.ofList read.1, read.2)
  | cs =>
    match cs.takeWhile isBareKey with
    | [] => none
    | name => some (String.ofList name, cs.dropWhile isBareKey)

/-- Reads a dotted key of at most so many parts, with blanks around each. -/
def readKeyParts : Nat → List Char → Option (List String × List Char)
  | 0, _ => none
  | parts + 1, cs =>
    match readKeyPart? (skipSpaces cs) with
    | none => none
    | some (name, rest) =>
      match skipSpaces rest with
      | '.' :: rest => (readKeyParts parts rest).map fun read => (name :: read.1, read.2)
      | rest => some ([name], rest)

/-- The deepest nesting that is read, and the first that is not. -/
def nestingLimit : Nat := 80

/-- Reads a dotted key. -/
def readKey? (cs : List Char) : Option (List String × List Char) :=
  readKeyParts (nestingLimit - 1) cs

end DeliveryBench.Toml
