import RoleChain.Text.Printable

/-!
Quoted text. The quote is single unless the text holds a single quote and no double quote; the
quote in use, the backslash and every hidden character are escaped, the last by the shortest of
the forms with two, four and eight hexadecimal digits.
-/
namespace RoleChain.Text

def hexDigit (n : Nat) : Char :=
  if n < 10 then Char.ofNat (0x30 + n) else Char.ofNat (0x57 + n)

/-- The last `width` hexadecimal digits of a number. -/
def hexDigits : Nat → Nat → List Char
  | 0, _ => []
  | width + 1, n => hexDigits width (n / 16) ++ [hexDigit (n % 16)]

/-- How a character is written between the given quotes. -/
def escapeChar (mark c : Char) : List Char :=
  if c = mark ∨ c = '\\' then ['\\', c]
  else if c = '\n' then ['\\', 'n']
  else if c = '\r' then ['\\', 'r']
  else if c = '\t' then ['\\', 't']
  else if isPrintable c then [c]
  else if c.toNat < 0x100 then '\\' :: 'x' :: hexDigits 2 c.toNat
  else if c.toNat < 0x10000 then '\\' :: 'u' :: hexDigits 4 c.toNat
  else '\\' :: 'U' :: hexDigits 8 c.toNat

/-- The quote that a text is written with. -/
def quoteMark (s : List Char) : Char :=
  if '\x27' ∈ s ∧ '\x22' ∉ s then '\x22' else '\x27'

def quotedChars (s : List Char) : List Char :=
  let mark := quoteMark s
  mark :: s.flatMap (escapeChar mark) ++ [mark]

def quoted (s : String) : String :=
  String.ofList (quotedChars s.toList)

/-- An optional text: in quotes, or the word for its absence. -/
def quotedOption : Option String → String
  | none => "None"
  | some s => quoted s

/-- How a byte is written between the given quotes; bytes beyond ASCII are always escaped. -/
def escapeByte (mark : Char) (b : UInt8) : List Char :=
  if b.toNat < 0x80 then escapeChar mark (Char.ofNat b.toNat)
  else '\\' :: 'x' :: hexDigits 2 b.toNat

/-- The bytes in quotes, after the letter that marks them as bytes. -/
def quotedBytes (bytes : List UInt8) : String :=
  let mark := quoteMark (bytes.map fun b => Char.ofNat b.toNat)
  String.ofList ('b' :: mark :: bytes.flatMap (escapeByte mark) ++ [mark])

end RoleChain.Text
