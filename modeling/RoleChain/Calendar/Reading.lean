import RoleChain.Calendar.DateTime

/-!
Reading moments from numbers and from text. A number counts seconds from the start of 1970, or
milliseconds if its magnitude is above 2 · 10¹⁰. Text is a date with a time, a date alone, or a
number; where it is none of these, the refusal says why it is no date.
-/
namespace RoleChain

inductive DateReason where
  | tooShort
  | yearCharacter
  | monthCharacter
  | dayCharacter
  | separator
  | monthRange
  | dayRange
  | extraCharacters
  | afterRange
  | beforeRange
  deriving DecidableEq

inductive MomentRefusal where
  | kind
  | afterRange
  | beforeRange
  | yearZero
  | text (reason : DateReason)
  deriving DecidableEq

namespace Calendar

def digit? (b : UInt8) : Option Nat :=
  if 0x30 ≤ b.toNat ∧ b.toNat ≤ 0x39 then some (b.toNat - 0x30) else none

def is (c : Char) (b : UInt8) : Bool := b.toNat == c.toNat

def twoDigits? (a b : UInt8) : Option Nat := do
  return (← digit? a) * 10 + (← digit? b)

def readDate : List UInt8 → Except DateReason (Nat × Nat × Nat)
  | y₁ :: y₂ :: y₃ :: y₄ :: s₁ :: m₁ :: m₂ :: s₂ :: d₁ :: d₂ :: _ =>
    match twoDigits? y₁ y₂, twoDigits? y₃ y₄ with
    | some century, some year =>
      if !is '-' s₁ then .error .separator
      else match twoDigits? m₁ m₂ with
      | none => .error .monthCharacter
      | some month =>
        if !is '-' s₂ then .error .separator
        else match twoDigits? d₁ d₂ with
        | none => .error .dayCharacter
        | some day =>
          let year := century * 100 + year
          if month < 1 ∨ 12 < month then .error .monthRange
          else if day < 1 ∨ monthLength year month < day then .error .dayRange
          else .ok (year, month, day)
    | _, _ => .error .yearCharacter
  | _ => .error .tooShort

def takeDigits : List UInt8 → List Nat × List UInt8
  | [] => ([], [])
  | b :: rest =>
    match digit? b with
    | none => ([], b :: rest)
    | some d => let (digits, rest) := takeDigits rest; (d :: digits, rest)

def ofDigits (digits : List Nat) : Nat :=
  digits.foldl (fun n d => n * 10 + d) 0

/-- A fraction of a second in microseconds; digits after the sixth are cut. -/
def fractionMicroseconds (digits : List Nat) : Nat :=
  let kept := digits.take 6
  ofDigits kept * Nat.pow 10 (6 - kept.length)

/-- The seconds and microseconds after the minutes, both zero if no colon follows. -/
def readSeconds? : List UInt8 → Option (Nat × Nat × List UInt8)
  | [] => some (0, 0, [])
  | c :: rest =>
    if !is ':' c then some (0, 0, c :: rest)
    else match rest with
    | s₁ :: s₂ :: rest => do
      let second ← twoDigits? s₁ s₂
      if 59 < second then none
      else match rest with
      | [] => some (second, 0, [])
      | p :: fraction =>
        if is '.' p || is ',' p then
          match takeDigits fraction with
          | ([], _) => none
          | (digits, rest) => some (second, fractionMicroseconds digits, rest)
        else some (second, 0, p :: fraction)
    | _ => none

/-- The hours and minutes of an offset after its sign, in seconds; nothing may follow. -/
def readOffset? : List UInt8 → Option Nat
  | [h₁, h₂, m₁, m₂] => do
    let hours ← twoDigits? h₁ h₂
    let minutes ← twoDigits? m₁ m₂
    if minutes < 60 ∧ hours < 24 then some (hours * 3600 + minutes * 60) else none
  | [h₁, h₂, c, m₁, m₂] => do
    let hours ← twoDigits? h₁ h₂
    let minutes ← twoDigits? m₁ m₂
    if is ':' c ∧ minutes < 60 ∧ hours < 24 then some (hours * 3600 + minutes * 60) else none
  | _ => none

/-- The zone that ends a text: nothing, the letter of UTC, or a signed offset. The minus sign may
be the hyphen or U+2212. -/
def readZone? : List UInt8 → Option (Option Zone)
  | [] => some none
  | c :: rest =>
    if is 'Z' c || is 'z' c then
      if rest.isEmpty then some (some (.read 0)) else none
    else if is '+' c then (readOffset? rest).map fun seconds => some (.read seconds)
    else if is '-' c then (readOffset? rest).map fun seconds => some (.read (-(seconds : Int)))
    else match c :: rest with
    | 0xe2 :: 0x88 :: 0x92 :: rest =>
      (readOffset? rest).map fun seconds => some (.read (-(seconds : Int)))
    | _ => none

def readTime? (year month day : Nat) : List UInt8 → Option DateTime
  | s :: h₁ :: h₂ :: c :: m₁ :: m₂ :: rest => do
    if !(is 'T' s || is 't' s || is '_' s || is ' ' s) || !is ':' c then none
    let hour ← twoDigits? h₁ h₂
    let minute ← twoDigits? m₁ m₂
    if 23 < hour ∨ 59 < minute then none
    let (second, microsecond, rest) ← readSeconds? rest
    let zone ← readZone? rest
    return ⟨year, month, day, hour, minute, second, microsecond, zone⟩
  | _ => none

/-- The moment a number of seconds and microseconds after the start of 1970, in UTC. -/
def ofUnix (seconds : Int) (microsecond : Nat) : Except MomentRefusal DateTime :=
  if seconds < -62167219200 then .error .beforeRange
  else if 253402300799 < seconds then .error .afterRange
  else
    let n := (seconds + 62167219200).toNat
    let (year, month, day) := ofDayNumber (n / 86400)
    let clock := n % 86400
    .ok ⟨year, month, day, clock / 3600, clock / 60 % 60, clock % 60, microsecond, some (.read 0)⟩

/-- The magnitude above which numbers count milliseconds. -/
def millisecondThreshold : Nat := 20000000000

def unit (inMilliseconds : Bool) : Nat := if inMilliseconds then 1000 else 1000000

def ofMicroseconds (n : Int) : Except MomentRefusal DateTime :=
  ofUnix (n.fdiv 1000000) (n.fmod 1000000).toNat

def ofWhole (n : Int) : Except MomentRefusal DateTime :=
  ofMicroseconds (n * unit (decide (millisecondThreshold < n.natAbs)))

/-- The moment that a number with a fraction states, to the nearest microsecond. What is above the
whole units is multiplied as a binary value. -/
def ofFraction (x : Binary64) : Except MomentRefusal DateTime :=
  match x.floor? with
  | none => .error (if x = .infinite true then .beforeRange else .afterRange)
  | some units =>
    let unit := unit (x.magnitudeAbove millisecondThreshold)
    let fraction := x.add (Binary64.ofInt (-units))
    ofMicroseconds (units * unit + (fraction.scale unit).roundedMagnitude)

inductive TextNumber where
  | whole (n : Int)
  | fraction (x : Binary64)

def takeSign : List UInt8 → Bool × List UInt8
  | [] => (false, [])
  | c :: rest =>
    if is '-' c then (true, rest) else if is '+' c then (false, rest) else (false, c :: rest)

/-- The power of ten after the digits of a number: nothing, or a letter, a sign or none, and at
least one digit. -/
def readPower? : List UInt8 → Option Int
  | [] => some 0
  | e :: rest =>
    let (negative, rest) := takeSign rest
    match takeDigits rest with
    | (d :: digits, []) =>
      if is 'e' e || is 'E' e then
        some (if negative then -(ofDigits (d :: digits) : Int) else ofDigits (d :: digits))
      else none
    | _ => none

/-- A number in decimal: a sign or none and digits, the value of which fits into 64 bits; or
digits with a point among, before or after them, and perhaps a power of ten. The digits before a
point are subject to the same bound. -/
def readNumber? (bytes : List UInt8) : Option TextNumber :=
  let (negative, bytes) := takeSign bytes
  let (whole, rest) := takeDigits bytes
  let n : Int := if negative then -(ofDigits whole : Int) else ofDigits whole
  if n < -Int.pow 2 63 ∨ Int.pow 2 63 ≤ n then none
  else match rest with
  | [] => if whole.isEmpty then none else some (.whole n)
  | p :: rest =>
    let (fraction, rest) := takeDigits rest
    let digits := whole ++ fraction
    if !is '.' p || digits.isEmpty then none
    else (readPower? rest).map fun power =>
      .fraction (.ofDecimal negative (ofDigits digits) digits.length (power - fraction.length))

/-- A moment in a calendar that has no year zero. -/
def settle (t : DateTime) : Except MomentRefusal DateTime :=
  if t.year = 0 then .error .yearZero else .ok t

/-- The refusal of text that states a number: a whole number out of range is refused as such,
any other number because it is no date. -/
def numberRefusal (bytes : List UInt8) : TextNumber → MomentRefusal → MomentRefusal
  | .whole _, .afterRange => .text .afterRange
  | .whole _, .beforeRange => .text .beforeRange
  | _, refusal =>
    match readDate bytes with
    | .error reason => .text reason
    | .ok _ => refusal

def readMoment (bytes : List UInt8) : Except MomentRefusal DateTime :=
  match readDate bytes with
  | .ok (year, month, day) =>
    let rest := bytes.drop 10
    match readTime? year month day rest with
    | some t => settle t
    | none =>
      if rest.isEmpty then settle ⟨year, month, day, 0, 0, 0, 0, none⟩
      else .error (.text .extraCharacters)
  | .error reason =>
    match readNumber? bytes with
    | none => .error (.text reason)
    | some number =>
      let result := match number with
        | .whole n => ofWhole n
        | .fraction x => ofFraction x
      match result with
      | .ok t => settle t
      | .error refusal => .error (numberRefusal bytes number refusal)

/-- The moment stated in ISO 8601 with a `T`, an optional fraction and an optional offset that may
have seconds and microseconds; microseconds alone make no offset. -/
def ofIso? (s : String) : Option DateTime := do
  let bytes := s.toUTF8.toList
  let (year, month, day) ← (readDate bytes).toOption
  let (t, rest) ← match bytes.drop 10 with
    | _ :: h₁ :: h₂ :: _ :: m₁ :: m₂ :: rest => do
      let hour ← twoDigits? h₁ h₂
      let minute ← twoDigits? m₁ m₂
      let (second, microsecond, rest) ← readSeconds? rest
      pure (DateTime.mk year month day hour minute second microsecond none, rest)
    | [] => pure (DateTime.mk year month day 0 0 0 0 none, [])
    | _ => none
  match rest with
  | [] => return t
  | sign :: h₁ :: h₂ :: _ :: m₁ :: m₂ :: rest => do
    let hours ← twoDigits? h₁ h₂
    let minutes ← twoDigits? m₁ m₂
    let (second, microsecond, rest) ← readSeconds? rest
    if !rest.isEmpty then none
    let seconds := hours * 3600 + minutes * 60 + second
    let offset : Int := (if seconds = 0 then 0 else seconds * 1000000 + microsecond : Nat)
    return { t with zone := some (.stated (if is '-' sign then -offset else offset)) }
  | _ => none

end Calendar

end RoleChain
