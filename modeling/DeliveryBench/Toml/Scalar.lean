import DeliveryBench.Toml.Node
import DeliveryBench.Toml.Lexical

/-!
The unquoted values of a TOML document: Booleans, numbers, dates and times.

A number with a fraction or an exponent has to stay below the largest double; whether it does is
decided exactly, on its digits. Dates are checked against the calendar.
-/

namespace DeliveryBench.Toml

/-! ## Digits -/

/-- The rest after digits of a kind, in which single underscores may stand between two digits; the
digits come without them. -/
def readDigits (isDigit : Char → Bool) : List Char → List Char × List Char
  | c :: '_' :: d :: rest =>
    if isDigit c then
      if isDigit d then
        let read := readDigits isDigit (d :: rest)
        (c :: read.1, read.2)
      else ([c], '_' :: d :: rest)
    else ([], c :: '_' :: d :: rest)
  | c :: rest =>
    if isDigit c then
      let read := readDigits isDigit rest
      (c :: read.1, read.2)
    else ([], c :: rest)
  | [] => ([], [])

/-- Reads at least one digit. -/
def readDigits? (isDigit : Char → Bool) (cs : List Char) : Option (List Char × List Char) :=
  match readDigits isDigit cs with
  | ([], _) => none
  | read => some read

/-- The number that digits stand for. -/
def valueOf (base : Nat) (digits : List Char) : Nat :=
  digits.foldl (fun n c => base * n + (Text.hexValue? c).getD 0) 0

/-- A sign, and the rest after it. -/
def readSign : List Char → Bool × List Char
  | '+' :: rest => (false, rest)
  | '-' :: rest => (true, rest)
  | cs => (false, cs)

/-- Reads the whole part of a number: a zero alone, or digits that do not begin with one. -/
def readWhole? : List Char → Option (List Char × List Char)
  | '0' :: rest => some (['0'], rest)
  | cs => readDigits? Char.isDigit cs

/-! ## Whole numbers -/

/-- A signed number of 64 bits. -/
def integer? (negative : Bool) (n : Nat) : Option Node :=
  if negative then
    if n ≤ Nat.pow 2 63 then some (.integer (-(n : Int))) else none
  else if n < Nat.pow 2 63 then some (.integer n) else none

/-- The base that a mark after a zero announces, and its digits. -/
def baseOf? (c : Char) : Option (Nat × (Char → Bool)) :=
  if c = 'x' then some (16, fun d => (Text.hexValue? d).isSome)
  else if c = 'o' then some (8, fun d => '0' ≤ d && d ≤ '7')
  else if c = 'b' then some (2, fun d => d == '0' || d == '1')
  else none

/-- Reads a whole number. -/
def readInteger? (cs : List Char) : Option (Node × List Char) :=
  let decimal (cs : List Char) : Option (Node × List Char) := do
    let (negative, cs) := readSign cs
    let (digits, rest) ← readWhole? cs
    let value ← integer? negative (valueOf 10 digits)
    pure (value, rest)
  match cs with
  | '0' :: c :: rest =>
    match baseOf? c with
    | some (base, isDigit) => do
      let (digits, rest) ← readDigits? isDigit rest
      let value ← integer? false (valueOf base digits)
      pure (value, rest)
    | none => decimal cs
  | _ => decimal cs

/-! ## Numbers with a fraction or an exponent -/

/-- The least number that is rounded to infinity: half a unit above the largest double. -/
def tooLarge : Nat := Nat.pow 2 1024 - Nat.pow 2 970

/-- Whether `n * 10 ^ exponent` is rounded to infinity. -/
def overflows (n : Nat) (exponent : Int) : Bool :=
  let width : Int := (Nat.toDigits 10 n).length
  if n = 0 then false
  else if width + exponent > 310 then true
  else if width + exponent < 300 then false
  else if 0 ≤ exponent then tooLarge ≤ n * Nat.pow 10 exponent.toNat
  else tooLarge * Nat.pow 10 (-exponent).toNat ≤ n

/-- Reads an exponent. -/
def readExponent? : List Char → Option (Int × List Char)
  | c :: rest =>
    if c = 'e' ∨ c = 'E' then do
      let (negative, cs) := readSign rest
      let (digits, rest) ← readDigits? Char.isDigit cs
      let n : Int := valueOf 10 digits
      pure (if negative then -n else n, rest)
    else none
  | [] => none

/-- A number with these digits, unless it is too large. -/
def float? (negative : Bool) (digits : List Char) (exponent : Int) : Option Node :=
  if !negative && overflows (valueOf 10 digits) exponent then none else some .float

/-- The outcome of trying one way to read a value. -/
inductive Attempt where
  | read (node : Node) (rest : List Char)
  /-- The text is not of this kind. -/
  | other
  /-- It is, and it is malformed. -/
  | malformed

/-- Reads a number that has a fraction or an exponent, or is named. -/
def readFloat (cs : List Char) : Attempt :=
  let (negative, unsigned) := readSign cs
  match unsigned with
  | 'i' :: 'n' :: 'f' :: rest => .read .float rest
  | 'n' :: 'a' :: 'n' :: rest => .read .float rest
  | _ =>
    match readWhole? unsigned with
    | none => .other
    | some (whole, '.' :: rest) =>
      match readDigits? Char.isDigit rest with
      | none => .malformed
      | some (fraction, rest) =>
        let places : Int := fraction.length
        match rest with
        | c :: _ =>
          if c = 'e' ∨ c = 'E' then
            match readExponent? rest with
            | none => .malformed
            | some (exponent, rest) =>
              match float? negative (whole ++ fraction) (exponent - places) with
              | none => .malformed
              | some node => .read node rest
          else
            match float? negative (whole ++ fraction) (-places) with
            | none => .malformed
            | some node => .read node rest
        | [] =>
          match float? negative (whole ++ fraction) (-places) with
          | none => .malformed
          | some node => .read node []
    | some (whole, c :: rest) =>
      if c = 'e' ∨ c = 'E' then
        match readExponent? (c :: rest) with
        | none => .malformed
        | some (exponent, rest) =>
          match float? negative whole exponent with
          | none => .malformed
          | some node => .read node rest
      else .other
    | some (_, []) => .other

/-! ## Dates and times -/

/-- Reads a number of exactly so many digits. -/
def readFixed? (width : Nat) (cs : List Char) : Option (Nat × List Char) :=
  let digits := cs.take width
  if digits.length = width ∧ digits.all Char.isDigit then some (valueOf 10 digits, cs.drop width)
  else none

/-- The number of days of a month. -/
def daysIn (year month : Nat) : Nat :=
  if month = 2 then
    if year % 4 = 0 ∧ (year % 100 ≠ 0 ∨ year % 400 = 0) then 29 else 28
  else if month = 4 ∨ month = 6 ∨ month = 9 ∨ month = 11 then 30
  else 31

/-- The rest after a character that has to come next. -/
def expect? (c : Char) : List Char → Option (List Char)
  | d :: rest => if d = c then some rest else none
  | [] => none

/-- The rest after a date. -/
def readDate? (cs : List Char) : Option (List Char) := do
  let (year, cs) ← readFixed? 4 cs
  let cs ← expect? '-' cs
  let (month, cs) ← readFixed? 2 cs
  let cs ← expect? '-' cs
  let (day, cs) ← readFixed? 2 cs
  if 1 ≤ month ∧ month ≤ 12 ∧ 1 ≤ day ∧ day ≤ daysIn year month then some cs else none

/-- The rest after a time of day. -/
def readTime? (cs : List Char) : Option (List Char) := do
  let (hour, cs) ← readFixed? 2 cs
  let cs ← expect? ':' cs
  let (minute, cs) ← readFixed? 2 cs
  let cs ← expect? ':' cs
  let (second, cs) ← readFixed? 2 cs
  if hour ≤ 23 ∧ minute ≤ 59 ∧ second ≤ 60 then
    match cs with
    | '.' :: rest =>
      match rest.takeWhile Char.isDigit with
      | [] => some cs
      | _ => some (rest.dropWhile Char.isDigit)
    | _ => some cs
  else none

/-- The rest after an offset from universal time. -/
def readOffset? : List Char → Option (List Char)
  | 'Z' :: rest | 'z' :: rest => some rest
  | c :: rest =>
    if c = '+' ∨ c = '-' then do
      let (hour, cs) ← readFixed? 2 rest
      let cs ← expect? ':' cs
      let (minute, cs) ← readFixed? 2 cs
      if hour ≤ 23 ∧ minute ≤ 59 then some cs else none
    else none
  | [] => none

/-- The rest after a time of day and, if there is one, its offset. -/
def readTimeOffset? (cs : List Char) : Option (List Char) :=
  (readTime? cs).map fun rest => (readOffset? rest).getD rest

/-- The rest after a date, a time of day, or both. -/
def readMoment? (cs : List Char) : Option (List Char) :=
  match readDate? cs with
  | none => readTime? cs
  | some rest =>
    match rest with
    | c :: after =>
      if c = 'T' ∨ c = 't' ∨ c = ' ' then some ((readTimeOffset? after).getD rest) else some rest
    | [] => some []

/-! ## Unquoted values -/

/-- Reads an unquoted value. -/
def readScalar? (cs : List Char) : Option (Node × List Char) :=
  match cs with
  | 't' :: 'r' :: 'u' :: 'e' :: rest => some (.boolean true, rest)
  | 'f' :: 'a' :: 'l' :: 's' :: 'e' :: rest => some (.boolean false, rest)
  | _ =>
    match readMoment? cs with
    | some rest => some (.moment, rest)
    | none =>
      match readFloat cs with
      | .read node rest => some (node, rest)
      | .malformed => none
      | .other => readInteger? cs

end DeliveryBench.Toml
