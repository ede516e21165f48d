import RoleChain.Datum

/-!
Why a template cannot be filled: its braces are malformed, it asks for a value that is not given,
or a layout does not suit the value it is for.
-/
namespace RoleChain

/-- The kind of a value, as refusals name it. -/
def Datum.kindName : Datum → String
  | .null => "NoneType"
  | .bool _ => "bool"
  | .int _ => "int"
  | .float _ => "float"
  | .text _ => "str"
  | .bytes _ => "bytes"
  | .moment _ => "datetime.datetime"
  | .list _ => "list"
  | .mapping _ => "dict"

namespace Template

inductive Refusal where
  | loneOpen
  | loneClose
  | openInName
  | unclosed
  | conversionMissing
  | conversionEnd
  | layoutUnclosed
  | unknownConversion (c : Char)
  | toAutomatic
  | toManual
  | tooManyDigits
  | emptyStep
  | stepUnclosed
  | stepUnknown
  | tooDeep
  | noPosition (index : Nat)
  | noName (name : String)
  | noKey (key : Datum)
  | noElement (kind : String)
  | noMember (kind name : String)
  | noKindMember (kind name : String)
  | notIndexed (kind : String)
  | kindNotIndexed (kind : String)
  | textIndex (kind : String)
  | layoutUnsupported (kind : String)
  | layoutUnknown (code : Char) (kind : String)
  | layoutInvalid (layout kind : String)
  | separatorInvalid (separator code : Char)
  | separatorsBoth
  | precisionMissing
  | precisionRefused
  | precisionTooBig
  | tooLarge
  | beyondWord
  | notAllowed (what place : String)
  | characterRange

namespace Refusal

/-- The kind of text that refusals call by another name than values of it. -/
def subject (kind : String) : String := if kind = "str" then "string" else kind

/-- A character as refusals print it: itself if it is above the space and below a bound. -/
def shown (bound : Nat) (c : Char) : String :=
  if 32 < c.toNat ∧ c.toNat < bound then String.singleton c
  else "\\x" ++ String.ofList (Nat.toDigits 16 c.toNat)

/-- The code of a layout as refusals print it. -/
def shownCode : Char → String := shown 128

def message : Refusal → String
  | loneOpen => "Single '\x7b' encountered in format string"
  | loneClose => "Single '\x7d' encountered in format string"
  | openInName => "unexpected '\x7b' in field name"
  | unclosed => "expected '\x7d' before end of string"
  | conversionMissing => "end of string while looking for conversion specifier"
  | conversionEnd => "expected ':' after conversion specifier"
  | layoutUnclosed => "unmatched '\x7b' in format spec"
  | unknownConversion c => "Unknown conversion specifier " ++ shown 127 c
  | toAutomatic => "cannot switch from manual field specification to automatic field numbering"
  | toManual => "cannot switch from automatic field numbering to manual field specification"
  | tooManyDigits => "Too many decimal digits in format string"
  | emptyStep => "Empty attribute in format string"
  | stepUnclosed => "Missing ']' in format string"
  | stepUnknown => "Only '.' or '[' may follow ']' in format field specifier"
  | tooDeep => "Max string recursion exceeded"
  | noPosition index =>
    "Replacement index " ++ Decimal.digitText index ++ " out of range for positional args tuple"
  | noName name => Text.quoted name
  | noKey key => key.literal
  | noElement kind => subject kind ++ " index out of range"
  | noMember kind name => "'" ++ kind ++ "' object has no attribute '" ++ name ++ "'"
  | noKindMember kind name => "type object '" ++ kind ++ "' has no attribute '" ++ name ++ "'"
  | notIndexed kind => "'" ++ kind ++ "' object is not subscriptable"
  | kindNotIndexed kind => "type '" ++ kind ++ "' is not subscriptable"
  | textIndex kind =>
    if kind = "str" then "string indices must be integers, not 'str'"
    else kind ++ " indices must be integers or slices, not str"
  | layoutUnsupported kind => "unsupported format string passed to " ++ kind ++ ".__format__"
  | layoutUnknown code kind =>
    "Unknown format code '" ++ shownCode code ++ "' for object of type '" ++ kind ++ "'"
  | layoutInvalid layout kind =>
    "Invalid format specifier '" ++ layout ++ "' for object of type '" ++ kind ++ "'"
  | separatorInvalid separator code =>
    "Cannot specify '" ++ String.singleton separator ++ "' with '" ++ shownCode code ++ "'."
  | separatorsBoth => "Cannot specify both ',' and '_'."
  | precisionMissing => "Format specifier missing precision"
  | precisionRefused => "Precision not allowed in integer format specifier"
  | precisionTooBig => "precision too big"
  | tooLarge => "int too large to convert to float"
  | beyondWord => "Python int too large to convert to C long"
  | notAllowed what place => what ++ " not allowed " ++ place
  | characterRange => "%c arg not in range(0x110000)"

end Refusal

end Template

end RoleChain
