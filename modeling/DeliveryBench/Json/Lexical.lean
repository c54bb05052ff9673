import DeliveryBench.Text.Hex

/-!
The texts and literals of JSON, and the skipping of values that nobody asked for.

A text that is read must be made of characters: halves of surrogate pairs must come in pairs. A
text that is only skipped need not (`TextState.step` is told which). Numbers are only ever skipped,
so their size does not matter.
-/

namespace DeliveryBench.Json

/-- The blanks of JSON. -/
def isSpace (c : Char) : Bool :=
  c == ' ' || c == '\n' || c == '\t' || c == '\r'

def skipSpaces (cs : List Char) : List Char :=
  cs.dropWhile isSpace

/-! ## Texts -/

/-- Where in a text the reader is. -/
inductive TextState where
  | plain
  /-- After a backslash. -/
  | escape
  /-- In a numeric escape; `high` is the first half of a pair, if this is the second. -/
  | code (left value : Nat) (high : Option Nat)
  /-- After the first half of a pair. -/
  | half (high : Nat)
  /-- After the first half of a pair and a backslash. -/
  | halfEscape (high : Nat)
deriving DecidableEq, Repr

/-- The character that a one-letter escape stands for. -/
def escaped? (c : Char) : Option Char :=
  if c = '"' then some '"'
  else if c = '\\' then some '\\'
  else if c = '/' then some '/'
  else if c = 'b' then some '\x08'
  else if c = 'f' then some '\x0c'
  else if c = 'n' then some '\n'
  else if c = 'r' then some '\r'
  else if c = 't' then some '\t'
  else none

def isHighHalf (n : Nat) : Bool := 0xD800 ≤ n && n ≤ 0xDBFF

def isLowHalf (n : Nat) : Bool := 0xDC00 ≤ n && n ≤ 0xDFFF

/-- What follows a complete numeric escape: the next state, and the character if there is one. -/
def closeCode (strict : Bool) (value : Nat) (high : Option Nat) :
    Option (TextState × Option Char) :=
  if strict then
    match high with
    | some h =>
      if isLowHalf value then
        some (.plain, some (Char.ofNat (0x10000 + (h - 0xD800) * 0x400 + (value - 0xDC00))))
      else none
    | none =>
      if isHighHalf value then some (.half value, none)
      else if isLowHalf value then none
      else some (.plain, some (Char.ofNat value))
  else some (.plain, none)

/-- Takes one character of a text, other than the closing quote. -/
def TextState.step (strict : Bool) (state : TextState) (c : Char) :
    Option (TextState × Option Char) :=
  match state with
  | .plain =>
    if c = '\\' then some (.escape, none)
    else if c.toNat < 0x20 then none
    else some (.plain, some c)
  | .escape =>
    if c = 'u' then some (.code 4 0 none, none)
    else (escaped? c).map fun e => (.plain, some e)
  | .code left value high =>
    match Text.hexValue? c with
    | none => none
    | some d =>
      if left ≤ 1 then closeCode strict (16 * value + d) high
      else some (.code (left - 1) (16 * value + d) high, none)
  | .half high => if c = '\\' then some (.halfEscape high, none) else none
  | .halfEscape high => if c = 'u' then some (.code 4 0 (some high), none) else none

/-- Reads the rest of a text up to its closing quote. -/
def readText (strict : Bool) : TextState → List Char → List Char → Option (String × List Char)
  | _, _, [] => none
  | state, acc, c :: rest =>
    if state = .plain ∧ c = '"' then some (String.ofList acc.reverse, rest)
    else
      match state.step strict c with
      | none => none
      | some (next, none) => readText strict next acc rest
      | some (next, some e) => readText strict next (e :: acc) rest

/-- Reads a text, after blanks. -/
def readText? (cs : List Char) : Option (String × List Char) :=
  match skipSpaces cs with
  | '"' :: rest => readText true .plain [] rest
  | _ => none

/-! ## Literals -/

/-- The rest after a word. -/
def afterWord? : List Char → List Char → Option (List Char)
  | [], cs => some cs
  | w :: word, c :: cs => if w = c then afterWord? word cs else none
  | _ :: _, [] => none

def wordNull : List Char := ['n', 'u', 'l', 'l']
def wordTrue : List Char := ['t', 'r', 'u', 'e']
def wordFalse : List Char := ['f', 'a', 'l', 's', 'e']

/-- Reads a Boolean, after blanks. -/
def readBool? (cs : List Char) : Option (Bool × List Char) :=
  let cs := skipSpaces cs
  match afterWord? wordTrue cs with
  | some rest => some (true, rest)
  | none => (afterWord? wordFalse cs).map fun rest => (false, rest)

/-- Reads a null, after blanks. -/
def readNull? (cs : List Char) : Option (List Char) :=
  afterWord? wordNull (skipSpaces cs)

/-- Reads a text or a null, after blanks. -/
def readOptionalText? (cs : List Char) : Option (Option String × List Char) :=
  match readNull? cs with
  | some rest => some (none, rest)
  | none => (readText? cs).map fun read => (some read.1, read.2)

/-! ## Skipping -/

/-- The rest after at least one digit. -/
def skipDigits? (cs : List Char) : Option (List Char) :=
  match cs with
  | c :: rest => if c.isDigit then some (rest.dropWhile Char.isDigit) else none
  | [] => none

/-- The rest after the whole part of a number, which has no needless zero in front. -/
def skipWhole? : List Char → Option (List Char)
  | '0' :: c :: rest => if c.isDigit then none else some (c :: rest)
  | '0' :: [] => some []
  | cs => skipDigits? cs

/-- The rest after a fraction, if there is one. -/
def skipFraction? : List Char → Option (List Char)
  | '.' :: rest => skipDigits? rest
  | cs => some cs

/-- The rest after an exponent, if there is one. -/
def skipExponent? : List Char → Option (List Char)
  | [] => some []
  | c :: rest =>
    if c = 'e' ∨ c = 'E' then
      match rest with
      | '+' :: rest => skipDigits? rest
      | '-' :: rest => skipDigits? rest
      | rest => skipDigits? rest
    else some (c :: rest)

/-- The rest after a number. -/
def skipNumber? (cs : List Char) : Option (List Char) :=
  let unsigned := match cs with
    | '-' :: rest => rest
    | cs => cs
  ((skipWhole? unsigned).bind skipFraction?).bind skipExponent?

/-- The rest after a text that is not looked at. -/
def skipText? : List Char → Option (List Char)
  | '"' :: rest => (readText false .plain [] rest).map Prod.snd
  | _ => none

mutual

/-- The rest after a value, after blanks. -/
def skipValue : Nat → List Char → Option (List Char)
  | 0, _ => none
  | fuel + 1, cs =>
    match skipSpaces cs with
    | [] => none
    | c :: rest =>
      if c = '"' then skipText? (c :: rest)
      else if c = '[' then
        match skipSpaces rest with
        | ']' :: rest => some rest
        | inside => skipItems fuel inside
      else if c = '{' then
        match skipSpaces rest with
        | '}' :: rest => some rest
        | inside => skipMembers fuel inside
      else if c = 'n' then afterWord? wordNull (c :: rest)
      else if c = 't' then afterWord? wordTrue (c :: rest)
      else if c = 'f' then afterWord? wordFalse (c :: rest)
      else skipNumber? (c :: rest)

/-- The rest after the items of an array and its bracket. -/
def skipItems : Nat → List Char → Option (List Char)
  | 0, _ => none
  | fuel + 1, cs =>
    match skipValue fuel cs with
    | none => none
    | some rest =>
      match skipSpaces rest with
      | ']' :: rest => some rest
      | ',' :: rest => skipItems fuel rest
      | _ => none

/-- The rest after the members of an object and its brace. -/
def skipMembers : Nat → List Char → Option (List Char)
  | 0, _ => none
  | fuel + 1, cs =>
    match skipText? (skipSpaces cs) with
    | none => none
    | some rest =>
      match skipSpaces rest with
      | ':' :: rest =>
        match skipValue fuel rest with
        | none => none
        | some rest =>
          match skipSpaces rest with
          | '}' :: rest => some rest
          | ',' :: rest => skipMembers fuel rest
          | _ => none
      | _ => none

end

/-- The rest after a value that is not looked at. -/
def skipValue? (cs : List Char) : Option (List Char) :=
  skipValue (2 * cs.length + 2) cs

end DeliveryBench.Json
