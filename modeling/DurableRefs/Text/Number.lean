import DurableRefs.Text.Word

/-!
# Numbers in texts

The text of a 64-bit word in base sixteen, where a negative word is written by its bits and so has
sixteen digits; and the texts that are read as decimal numbers: digits with a point and an
exponent, or the words for what is no finite number, with a sign before them.
-/

namespace DurableRefs.Text

/-! ### Hexadecimal words -/

/-- The lower-case hexadecimal digits of the bits of a word, after `0x`. -/
def hexWord (w : Int64) : String :=
  "0x" ++ String.ofList (Nat.toDigits 16 w.toUInt64.toNat)

/-- The value of a hexadecimal digit in either case. -/
def hexDigit? (c : Char) : Option UInt8 :=
  if '0' ≤ c ∧ c ≤ '9' then some (c.toNat - '0'.toNat).toUInt8
  else if 'a' ≤ c ∧ c ≤ 'f' then some (c.toNat - 'a'.toNat + 10).toUInt8
  else if 'A' ≤ c ∧ c ≤ 'F' then some (c.toNat - 'A'.toNat + 10).toUInt8
  else none

/-- The bytes that pairs of hexadecimal digits spell; nothing for an odd digit or another
character. -/
def hexBytes? : List Char → Option (List UInt8)
  | [] => some []
  | high :: low :: rest => do
    let h ← hexDigit? high
    let l ← hexDigit? low
    let bytes ← hexBytes? rest
    return (h <<< 4 ||| l) :: bytes
  | [_] => none

/-! ### Decimal numbers -/

/-- A text without a sign at its beginning. -/
def dropSign : List Char → List Char
  | '+' :: cs => cs
  | '-' :: cs => cs
  | cs => cs

/-- Whether a text is the end of a number: nothing, or an exponent. -/
def isExponent : List Char → Bool
  | [] => true
  | c :: cs =>
    (c == 'e' || c == 'E') && !(dropSign cs).isEmpty && (dropSign cs).all Char.isDigit

/-- Whether a text is a number. There must be a digit before or behind the point. -/
def isNumber (cs : List Char) : Bool :=
  let unsigned := dropSign cs
  let (whole, rest) := unsigned.span Char.isDigit
  let (part, rest) :=
    match rest with
    | '.' :: rest => rest.span Char.isDigit
    | _ => ([], rest)
  ["inf", "infinity", "nan"].contains (foldCase (String.ofList unsigned)) ||
    !(whole.isEmpty && part.isEmpty) && isExponent rest

end DurableRefs.Text
