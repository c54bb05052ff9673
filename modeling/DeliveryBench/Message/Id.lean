import DeliveryBench.Text.Hex

/-!
Message identifiers: 128 bits, their text, and how fresh ones are made.

`MessageId.text` writes 32 hexadecimal digits in five groups. `MessageId.ofText?` also reads the
ungrouped form, the grouped form in braces and the grouped form after `urn:uuid:`, in any letter
case, and nothing else.

A `Mint` makes time-ordered identifiers: 48 bits of milliseconds, the version 7, and entropy that
moves on with every identifier, so that two identifiers of one mint differ (`next_ne_next`).
-/

namespace DeliveryBench

/-- The identity of a message. -/
structure MessageId where
  bits : BitVec 128
deriving DecidableEq

namespace MessageId

def ofNat (n : Nat) : MessageId := ⟨BitVec.ofNat 128 n⟩

/-! ## Text -/

/-- The lengths of the groups of digits. -/
def groupWidths : List Nat := [8, 4, 4, 4, 12]

/-- All 32 digits, in lower case. -/
def digits (id : MessageId) : List Char :=
  let shown := Text.hexDigits id.bits.toNat
  List.replicate (32 - shown.length) '0' ++ shown

/-- Splits digits into groups of the given lengths, with a hyphen between two groups. -/
def hyphenate : List Nat → List Char → List Char
  | [], cs => cs
  | [_], cs => cs
  | width :: widths, cs => cs.take width ++ '-' :: hyphenate widths (cs.drop width)

/-- The usual text of an identifier. -/
def text (id : MessageId) : String :=
  String.ofList (hyphenate groupWidths id.digits)

/-- The number that 32 digits stand for. -/
def ofDigits? (cs : List Char) : Option MessageId :=
  if cs.length = 32 then
    (cs.mapM Text.hexValue?).map fun values => ofNat (values.foldl (fun n d => 16 * n + d) 0)
  else none

/-- Joins groups of exactly the given lengths that have a hyphen between them. -/
def unhyphenate? : List Nat → List Char → Option (List Char)
  | [], cs => if cs.isEmpty then some [] else none
  | [width], cs => if cs.length = width then some cs else none
  | width :: widths, cs =>
    match cs.drop width with
    | '-' :: rest => (unhyphenate? widths rest).map (cs.take width ++ ·)
    | _ => none

/-- Reads the grouped form. -/
def ofGrouped? (cs : List Char) : Option MessageId :=
  (unhyphenate? groupWidths cs).bind ofDigits?

/-- What may stand before a grouped identifier to name its kind. -/
def urnLead : List Char := ['u', 'r', 'n', ':', 'u', 'u', 'i', 'd', ':']

/-- Reads any of the accepted forms. -/
def ofText? (s : String) : Option MessageId :=
  let cs := s.toList
  if cs.length = 32 then ofDigits? cs
  else if cs.length = 36 then ofGrouped? cs
  else if cs.length = 38 then
    if cs.head? = some '{' ∧ cs.getLast? = some '}' then ofGrouped? (cs.drop 1).dropLast else none
  else if (cs.take 9).map Char.toLower = urnLead then ofGrouped? (cs.drop 9)
  else none

/-- The version that an identifier carries. -/
def version (id : MessageId) : Nat :=
  (id.bits >>> 76).toNat % 16

/-- The time-ordered identifier of a millisecond and 74 bits of entropy. -/
def timeOrdered (millis : BitVec 48) (high : BitVec 12) (low : BitVec 62) : MessageId :=
  ⟨millis ++ (0x7#4 ++ (high ++ (0x2#2 ++ low)))⟩

end MessageId

/-! ## Fresh identifiers -/

/-- A source of identifiers. -/
structure Mint where
  millis : BitVec 48 := 0
  high : BitVec 12 := 0
  low : BitVec 62 := 0
deriving DecidableEq

namespace Mint

/-- The next identifier, and the source after it. -/
def next (mint : Mint) : MessageId × Mint :=
  (.timeOrdered mint.millis mint.high mint.low, { mint with low := mint.low + 1 })

/-- Two identifiers of one mint, drawn one after the other, differ. -/
theorem next_ne_next (mint : Mint) : mint.next.1 ≠ mint.next.2.next.1 := by
  intro h
  have low := congrArg (fun id : MessageId => id.bits.setWidth 62) h
  simp only [next, MessageId.timeOrdered, BitVec.setWidth_append] at low
  simp at low

end Mint

end DeliveryBench
