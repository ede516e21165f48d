/-!
Blank characters, and text without the blanks at its ends. These are the characters of the
bidirectional types B, S and WS and those of the category Zs, so the separators U+001C to U+001F
are blank and the zero width space is not.
-/
namespace RoleChain.Text

def isBlank (c : Char) : Bool :=
  let code := c.toNat
  decide ((0x09 ≤ code ∧ code ≤ 0x0d) ∨ (0x1c ≤ code ∧ code ≤ 0x20) ∨ code = 0x85 ∨
    code = 0xa0 ∨ code = 0x1680 ∨ (0x2000 ≤ code ∧ code ≤ 0x200a) ∨ code = 0x2028 ∨
    code = 0x2029 ∨ code = 0x202f ∨ code = 0x205f ∨ code = 0x3000)

/-- The characters without the blanks at the end. -/
def dropBlankEnd (s : List Char) : List Char :=
  (s.reverse.dropWhile isBlank).reverse

/-- The characters without the blanks at either end. -/
def trimChars (s : List Char) : List Char :=
  dropBlankEnd (s.dropWhile isBlank)

def trim (s : String) : String :=
  String.ofList (trimChars s.toList)

end RoleChain.Text
