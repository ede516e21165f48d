/-!
Strict UTF-8. Surrogates, overlong forms and code points beyond U+10FFFF are refused. A refusal
names the longest run of bytes that could still have begun a character, and why it did not.
-/
namespace RoleChain.Text

inductive Utf8Reason where
  | badStart
  | badContinuation
  | unexpectedEnd
  deriving DecidableEq

/-- The first place where decoding fails: the byte there, its offset, and how many are at fault. -/
structure Utf8Refusal where
  byte : UInt8
  offset : Nat
  count : Nat
  reason : Utf8Reason
  deriving DecidableEq

/-- How many bytes a leading byte announces after itself, its payload, and the range that the
first of them has to be in. -/
def leadingByte (b : UInt8) : Option (Nat × Nat × Nat × Nat) :=
  let n := b.toNat
  if 0xc2 ≤ n ∧ n ≤ 0xdf then some (1, n - 0xc0, 0x80, 0xbf)
  else if n = 0xe0 then some (2, 0, 0xa0, 0xbf)
  else if n = 0xed then some (2, 0xd, 0x80, 0x9f)
  else if 0xe1 ≤ n ∧ n ≤ 0xef then some (2, n - 0xe0, 0x80, 0xbf)
  else if n = 0xf0 then some (3, 0, 0x90, 0xbf)
  else if 0xf1 ≤ n ∧ n ≤ 0xf3 then some (3, n - 0xf0, 0x80, 0xbf)
  else if n = 0xf4 then some (3, 4, 0x80, 0x8f)
  else none

/-- Reads `count` continuation bytes, the first within the given range. On failure says how many
were read and whether the bytes ended. -/
def continuation : Nat → Nat → Nat → Nat → List UInt8 → Except (Nat × Utf8Reason) Nat
  | 0, code, _, _, _ => .ok code
  | _ + 1, _, _, _, [] => .error (0, .unexpectedEnd)
  | count + 1, code, low, high, b :: rest =>
    if low ≤ b.toNat ∧ b.toNat ≤ high then
      match continuation count (code * 64 + (b.toNat - 0x80)) 0x80 0xbf rest with
      | .ok value => .ok value
      | .error (read, reason) => .error (read + 1, reason)
    else .error (0, .badContinuation)

/-- Decodes bytes whose first stands at the given offset. `skip` counts the continuation bytes
that belong to a character decoded already. -/
def decodeUtf8From : Nat → Nat → List UInt8 → Except Utf8Refusal (List Char)
  | _, _, [] => .ok []
  | offset, skip + 1, _ :: rest => decodeUtf8From (offset + 1) skip rest
  | offset, 0, b :: rest =>
    if b.toNat < 0x80 then
      (decodeUtf8From (offset + 1) 0 rest).map (Char.ofNat b.toNat :: ·)
    else
      match leadingByte b with
      | none => .error ⟨b, offset, 1, .badStart⟩
      | some (count, payload, low, high) =>
        match continuation count payload low high rest with
        | .error (read, reason) => .error ⟨b, offset, read + 1, reason⟩
        | .ok code => (decodeUtf8From (offset + 1) count rest).map (Char.ofNat code :: ·)

def decodeUtf8 (bytes : List UInt8) : Except Utf8Refusal (List Char) :=
  decodeUtf8From 0 0 bytes

def isUtf8 (bytes : List UInt8) : Bool :=
  (decodeUtf8 bytes).toOption.isSome

end RoleChain.Text
