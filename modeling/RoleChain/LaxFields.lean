import RoleChain.Calendar.Reading
import RoleChain.Schema
import RoleChain.Text.Utf8

/-!
Lax rules for fields. Bytes count as the text that they encode, and numbers and text as the moments
that they state.
-/
namespace RoleChain

namespace DateReason

def message : DateReason → String
  | tooShort => "input is too short"
  | yearCharacter => "invalid character in year"
  | monthCharacter => "invalid character in month"
  | dayCharacter => "invalid character in day"
  | separator => "invalid date separator, expected `-`"
  | monthRange => "month value is outside expected range of 1-12"
  | dayRange => "day value is outside expected range"
  | extraCharacters => "unexpected extra characters at the end of the input"
  | afterRange => "dates after 9999 are not supported as unix timestamps"
  | beforeRange => "dates before 0000 are not supported as unix timestamps"

end DateReason

namespace MomentRefusal

def code : MomentRefusal → String
  | kind => "datetime_type"
  | text _ => "datetime_from_date_parsing"
  | afterRange | beforeRange | yearZero => "datetime_parsing"

def message : MomentRefusal → String
  | kind => "Input should be a valid datetime"
  | text reason => "Input should be a valid datetime or date, " ++ reason.message
  | afterRange => "Input should be a valid datetime, " ++ DateReason.afterRange.message
  | beforeRange => "Input should be a valid datetime, " ++ DateReason.beforeRange.message
  | yearZero => "Input should be a valid datetime, year 0 is out of range"

end MomentRefusal

namespace FieldRules

/-- Text, or bytes that encode text. -/
def laxText : Datum → Except FieldRefusal String
  | .text value => .ok value
  | .bytes value =>
    match Text.decodeUtf8 value with
    | .ok chars => .ok (String.ofList chars)
    | .error _ => .error ⟨"string_unicode",
        "Input should be a valid string, unable to parse raw data as a unicode string"⟩
  | _ => .error .notText

/-- A moment, a number that counts seconds or milliseconds, or text that states either. A whole
number beyond all binary values is no moment of any time. -/
def laxMoment : Datum → Except MomentRefusal DateTime
  | .moment value => .ok value
  | .int value =>
    if Binary64.isFinite (.ofInt value) then Calendar.ofWhole value >>= Calendar.settle
    else .error .kind
  | .float value => Calendar.ofFraction value >>= Calendar.settle
  | .text value => Calendar.readMoment value.toUTF8.toList
  | .bytes value => Calendar.readMoment value
  | _ => .error .kind

@[reducible] def lax : FieldRules where
  text := laxText
  moment d := (laxMoment d).mapError fun refusal => ⟨refusal.code, refusal.message⟩
  text_text _ := rfl
  moment_moment _ := rfl
  text_parts
    | .list _, _ | .mapping _, _ => rfl
  moment_parts
    | .list _, _ | .mapping _, _ => rfl

end FieldRules

end RoleChain
