import RoleChain.Template.Refusal
import RoleChain.Text.Digit

/-!
Layouts: how a value is put into text. A layout gives a fill and an alignment, a sign, a width, a
separator of digit groups, a precision and a code of one letter, each of them optional.
-/
namespace RoleChain.Template

/-- A layout as it was written. An empty precision or width means that none was given. -/
structure Layout where
  fill : Char
  align : Char
  sign : Option Char
  coerceZero : Bool
  alternate : Bool
  width : Nat
  separator : Option Char
  precision : Option Nat
  code : Option Char

/-- The largest number that a width, a precision or an index may be, and one more. -/
def numberLimit : Nat := Nat.pow 2 63

/-- The decimal number that characters begin with, none if they begin with no digit, and the
rest. -/
def takeNumber (chars : List Char) : Except Refusal (Option Nat × List Char) :=
  go none chars
where
  /-- Goes on after digits that stand for the given number. -/
  go (read : Option Nat) : List Char → Except Refusal (Option Nat × List Char)
    | [] => .ok (read, [])
    | c :: rest =>
      match Text.digitValue? c with
      | none => .ok (read, c :: rest)
      | some d =>
        let n := read.getD 0 * 10 + d
        if numberLimit ≤ n then .error .tooManyDigits else go (some n) rest

def isAlignment (c : Char) : Bool := c = '<' || c = '>' || c = '=' || c = '^'

def takeChar (c : Char) : List Char → Bool × List Char
  | [] => (false, [])
  | d :: rest => if d = c then (true, rest) else (false, d :: rest)

def takeSeparator (chars : List Char) : Except Refusal (Option Char × List Char) :=
  match chars with
  | ',' :: '_' :: _ => .error .separatorsBoth
  | '_' :: ',' :: _ => .error .separatorsBoth
  | ',' :: rest => .ok (some ',', rest)
  | '_' :: rest => .ok (some '_', rest)
  | chars => .ok (none, chars)

/-- A separator suits decimal codes; the underscore suits the binary ones too. -/
def checkSeparator (separator : Option Char) (code : Option Char) : Except Refusal Unit :=
  match separator, code with
  | none, _ => .ok ()
  | some _, none => .ok ()
  | some s, some c =>
    if c ∈ ['d', 'e', 'f', 'g', 'E', 'G', '%', 'F'] then .ok ()
    else if s = '_' ∧ c ∈ ['b', 'o', 'x', 'X'] then .ok ()
    else .error (.separatorInvalid s c)

/-- Reads a layout for a value of the given kind. Without a code the default one counts when the
separator is checked. -/
def Layout.read (kind : String) (numeric : Bool) (default : Option Char) (chars : List Char) :
    Except Refusal Layout := do
  let written := String.ofList chars
  let (fill, align, chars) := match chars with
    | f :: a :: rest =>
      if isAlignment a then (some f, some a, rest)
      else if isAlignment f then (none, some f, a :: rest) else (none, none, f :: a :: rest)
    | [a] => if isAlignment a then (none, some a, []) else (none, none, [a])
    | [] => (none, none, [])
  let (sign, chars) := match chars with
    | c :: rest => if c = ' ' ∨ c = '+' ∨ c = '-' then (some c, rest) else (none, chars)
    | [] => (none, chars)
  let (coerceZero, chars) := takeChar 'z' chars
  let (alternate, chars) := takeChar '#' chars
  let (zero, chars) := if fill.isNone then takeChar '0' chars else (false, chars)
  let align := match align with
    | some a => a
    | none => if numeric then (if zero then '=' else '>') else '<'
  let fill := fill.getD (if zero then '0' else ' ')
  let (width, chars) ← takeNumber chars
  let (separator, chars) ← takeSeparator chars
  let (dot, chars) := takeChar '.' chars
  let (precision, chars) ← if dot then takeNumber chars else pure (none, chars)
  if dot ∧ precision.isNone then throw .precisionMissing
  match chars with
  | [] =>
    checkSeparator separator default
    return ⟨fill, align, sign, coerceZero, alternate, width.getD 0, separator, precision, none⟩
  | [code] =>
    checkSeparator separator (some code)
    return ⟨fill, align, sign, coerceZero, alternate, width.getD 0, separator, precision, some code⟩
  | _ => throw (.layoutInvalid written kind)

/-- Fills text up to the width; half of an odd remainder goes to the left, rounded down. -/
def Layout.pad (layout : Layout) (text : List Char) : List Char :=
  let missing := layout.width - text.length
  let filler := fun n => List.replicate n layout.fill
  match layout.align with
  | '>' => filler missing ++ text
  | '^' => filler (missing / 2) ++ text ++ filler (missing - missing / 2)
  | '=' => filler missing ++ text
  | _ => text ++ filler missing

def Layout.signText (layout : Layout) (negative : Bool) : List Char :=
  if negative then ['-']
  else match layout.sign with
    | some '+' => ['+']
    | some ' ' => [' ']
    | _ => []

/-- Digits with a separator between groups of the given size, counted from the right. -/
def grouped (separator : Char) (size : Nat) (digits : List Char) : List Char :=
  let pieces := digits.reverse.zipIdx.map fun (c, i) =>
    if i ≠ 0 ∧ i % size = 0 then [separator, c] else [c]
  (pieces.flatten).reverse

/-- The fewest digits that fill a width once they are grouped. -/
def groupedCount (size width : Nat) : Nat → Nat → Nat
  | 0, count => count
  | fuel + 1, count =>
    if count + (count - 1) / size < width then groupedCount size width fuel (count + 1) else count

/-- Puts a number together: sign, mark of the base, whole digits and what follows them. -/
def Layout.number (layout : Layout) (negative : Bool) (mark whole rest : List Char) :
    List Char :=
  let lead := layout.signText negative ++ mark
  let size := if layout.code ∈ [some 'b', some 'o', some 'x', some 'X'] then 4 else 3
  let zeroFilled := layout.fill = '0' ∧ layout.align = '='
  match layout.separator with
  | some separator =>
    let room := layout.width - lead.length - rest.length
    let count := if zeroFilled then groupedCount size room room whole.length else whole.length
    let digits := List.replicate (count - whole.length) '0' ++ whole
    let body := grouped separator size digits ++ rest
    if layout.align = '=' then
      lead ++ List.replicate (layout.width - lead.length - body.length) layout.fill ++ body
    else layout.pad (lead ++ body)
  | none =>
    let body := whole ++ rest
    if layout.align = '=' then
      lead ++ List.replicate (layout.width - lead.length - body.length) layout.fill ++ body
    else layout.pad (lead ++ body)

/-- The digits of a magnitude with a fixed number of places, whole part and fraction apart. -/
def fixedDigits (num den places : Nat) : List Char × List Char :=
  let scaled := Binary64.roundHalfEven (num * Nat.pow 10 places) den
  let text := (Decimal.padded (places + 1) scaled).toList
  (text.take (text.length - places), text.drop (text.length - places))

/-- The given number of significant digits of a magnitude, and the power of ten of the first. -/
def significant (num den count : Nat) : List Char × Int :=
  if num = 0 then (List.replicate count '0', 0)
  else
    let lead := Decimal.leadingPower num den
    let at' := fun (lead : Int) =>
      let (up, down) := Decimal.powerOfTen (lead + 1 - count)
      Binary64.roundHalfEven (num * down) (den * up)
    let digits := at' lead
    if digits = Nat.pow 10 count then ((Nat.toDigits 10 (at' (lead + 1))), lead + 1)
    else ((Nat.toDigits 10 digits), lead)

def dropZeros (digits : List Char) : List Char :=
  (digits.reverse.dropWhile (· = '0')).reverse

/-- A point and a fraction; the point of an empty fraction stands only in the alternate form. -/
def pointed (alternate : Bool) (fraction : List Char) : List Char :=
  if fraction.isEmpty ∧ !alternate then [] else '.' :: fraction

def exponentChars (upper : Bool) (exponent : Int) : List Char :=
  (if upper then 'E' else 'e') :: (Decimal.exponentText exponent).toList

/-- Scientific notation with the given digits. -/
def scientificParts (alternate upper : Bool) (digits : List Char) (lead : Int) :
    List Char × List Char :=
  (digits.take 1, pointed alternate (digits.drop 1) ++ exponentChars upper lead)

/-- Positional notation of digits of which the first stands for the given power of ten. -/
def positionalParts (alternate : Bool) (digits : List Char) (lead : Int) :
    List Char × List Char :=
  if lead < 0 then
    (['0'], pointed alternate (List.replicate ((-lead).toNat - 1) '0' ++ digits))
  else
    let whole := lead.toNat + 1
    (digits.take whole ++ List.replicate (whole - digits.length) '0',
      pointed alternate (digits.drop whole))

/-- The general form: positional for moderate powers of ten, scientific otherwise, and without
zeros at the end. `keepPoint` asks for a fraction in any case. -/
def generalParts (alternate upper keepPoint : Bool) (num den precision : Nat) :
    List Char × List Char :=
  let precision := max precision 1
  let (digits, lead) := significant num den precision
  let limit : Int := if keepPoint then (precision : Int) - 1 else precision
  if lead < -4 ∨ limit ≤ lead then
    let digits := if alternate then digits else digits.take 1 ++ dropZeros (digits.drop 1)
    scientificParts alternate upper digits lead
  else
    let digits := if alternate then digits else dropZeros digits
    let digits := if digits.isEmpty then ['0'] else digits
    let (whole, rest) := positionalParts alternate digits lead
    (whole, if keepPoint ∧ rest.isEmpty then ['.', '0'] else rest)

def layText (layout : Layout) (text : String) : Except Refusal String := do
  match layout.code with
  | none | some 's' => pure ()
  | some c => throw (.layoutUnknown c "str")
  let place := "in string format specifier"
  match layout.sign with
  | some ' ' => throw (.notAllowed "Space" place)
  | some _ => throw (.notAllowed "Sign" place)
  | none => pure ()
  if layout.coerceZero then throw (.notAllowed "Negative zero coercion (z)" place)
  if layout.alternate then throw (.notAllowed "Alternate form (#)" place)
  if layout.align = '=' then throw (.notAllowed "'=' alignment" place)
  let chars := match layout.precision with
    | none => text.toList
    | some n => text.toList.take n
  return String.ofList (layout.pad chars)

def precisionLimit : Nat := Nat.pow 2 31 - 1

/-- The shortest digits that read back as the value, whole part and what follows it. -/
def shortestParts (alternate : Bool) (x : Binary64) : List Char × List Char :=
  let text := x.text.toList
  let whole := text.takeWhile Char.isDigit
  let rest := text.drop whole.length
  (whole, if alternate ∧ rest.head? ≠ some '.' then '.' :: rest else rest)

/-- The magnitude of a finite number: whole part and what follows it. -/
def Layout.magnitude (layout : Layout) (mantissa : Nat) (exponent : Int) :
    List Char × List Char :=
  let (num, den) := Binary64.ratio mantissa exponent
  let precision := layout.precision.getD 6
  let upper := layout.code = some 'E' || layout.code = some 'G'
  let alternate := layout.alternate
  match layout.code with
  | none =>
    match layout.precision with
    | some p => generalParts alternate false true num den p
    | none => shortestParts alternate (.finite false mantissa exponent)
  | some c =>
    if c = 'e' ∨ c = 'E' then
      let (digits, lead) := significant num den (precision + 1)
      scientificParts alternate upper digits lead
    else if c = 'g' ∨ c = 'G' ∨ c = 'n' then generalParts alternate upper false num den precision
    else
      let (whole, fraction) := fixedDigits num den precision
      (whole, pointed alternate fraction)

/-- A floating-point number in its layout. A percentage is a hundred times the number, as far as
that is finite. -/
def layFloat (layout : Layout) (kind : String) (x : Binary64) : Except Refusal String := do
  match layout.code with
  | none => pure ()
  | some c =>
    if c ∉ ['e', 'E', 'f', 'F', 'g', 'G', 'n', '%'] then throw (.layoutUnknown c kind)
  if precisionLimit < layout.precision.getD 0 then throw .precisionTooBig
  let isPercentage := layout.code = some '%'
  let mark := if isPercentage then ['%'] else []
  match if isPercentage then x.scale 100 else x with
  | .infinite negative =>
    let isUpper := layout.code ∈ [some 'E', some 'F', some 'G']
    let word := if isUpper then "INF" else "inf"
    return String.ofList (layout.number negative [] [] (word.toList ++ mark))
  | .finite negative mantissa exponent =>
    let (whole, rest) := layout.magnitude mantissa exponent
    let isZero := (whole ++ rest).all fun c => !(Char.isDigit c) || c = '0'
    let negative := negative && !(layout.coerceZero && isZero)
    return String.ofList (layout.number negative [] whole (rest ++ mark))

/-- Whether a number fits into a signed word of the machine. -/
def isWord (n : Int) : Bool := decide (-Int.pow 2 63 ≤ n ∧ n < Int.pow 2 63)

def layInt (layout : Layout) (kind : String) (n : Int) : Except Refusal String := do
  let code := layout.code.getD 'd'
  if code ∈ ['e', 'E', 'f', 'F', 'g', 'G', '%'] then
    let x := Binary64.ofInt n
    if x.isFinite then layFloat layout kind x else throw .tooLarge
  else
    let base ← match code with
      | 'b' => pure 2
      | 'o' => pure 8
      | 'x' | 'X' => pure 16
      | 'd' | 'n' => pure 10
      | 'c' => pure 0
      | c => throw (.layoutUnknown c kind)
    if layout.precision.isSome then throw .precisionRefused
    if layout.coerceZero then
      throw (.notAllowed "Negative zero coercion (z)" "in integer format specifier")
    if base = 0 then
      let place := "with integer format specifier 'c'"
      if layout.sign.isSome then throw (.notAllowed "Sign" place)
      if layout.alternate then throw (.notAllowed "Alternate form (#)" place)
      if !isWord n then throw .beyondWord
      if n < 0 ∨ 0x110000 ≤ n then throw .characterRange
      return String.ofList (layout.number false [] [Char.ofNat n.toNat] [])
    else
      let digits := Nat.toDigits base n.natAbs
      let digits := if code = 'X' then digits.map Char.toUpper else digits
      let mark := if layout.alternate ∧ base ≠ 10 then ['0', code] else []
      return String.ofList (layout.number (decide (n < 0)) mark digits [])

def lay (layout : List Char) (value : Datum) : Except Refusal String :=
  if layout.isEmpty then .ok value.plain
  else match value with
  | .text s => do layText (← Layout.read "str" false (some 's') layout) s
  | .int n => do layInt (← Layout.read "int" true (some 'd') layout) "int" n
  | .bool b => do layInt (← Layout.read "bool" true (some 'd') layout) "bool" (if b then 1 else 0)
  | .float x => do layFloat (← Layout.read "float" true none layout) "float" x
  | other => .error (.layoutUnsupported other.kindName)

end RoleChain.Template
