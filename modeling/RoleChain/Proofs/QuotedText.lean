import Mathlib.Algebra.Group.Nat.Defs
import RoleChain.Datum

/-!
Quoted text read back. A text in quotes says where it ends, whatever stands in it: its characters
can be read one by one up to the quote that closes it. So texts in quotes, and records of them,
tell apart what they were written from, and nothing that they show is hidden.
-/
namespace RoleChain.Text

def hexValue (c : Char) : Nat :=
  if c.toNat < 0x3a then c.toNat - 0x30 else c.toNat - 0x57

def readHex (digits : List Char) : Nat :=
  digits.foldl (fun n c => n * 16 + hexValue c) 0

/-- The character that is written after a backslash, and what follows it. -/
def readEscape (letter : Char) (rest : List Char) : Char × List Char :=
  if letter = 'n' then ('\n', rest)
  else if letter = 'r' then ('\r', rest)
  else if letter = 't' then ('\t', rest)
  else if letter = 'x' then (Char.ofNat (readHex (rest.take 2)), rest.drop 2)
  else if letter = 'u' then (Char.ofNat (readHex (rest.take 4)), rest.drop 4)
  else if letter = 'U' then (Char.ofNat (readHex (rest.take 8)), rest.drop 8)
  else (letter, rest)

def readChar : List Char → Option (Char × List Char)
  | [] => none
  | c :: rest =>
    if c = '\\' then
      match rest with
      | [] => none
      | letter :: more => some (readEscape letter more)
    else some (c, rest)

theorem hexValue_hexDigit : ∀ n < 16, hexValue (hexDigit n) = n := by decide

theorem length_hexDigits (width n : Nat) : (hexDigits width n).length = width := by
  induction width generalizing n with
  | zero => rfl
  | succ width ih => simp only [hexDigits, List.length_append, ih, List.length_singleton]

theorem readHex_append (digits : List Char) (c : Char) :
    readHex (digits ++ [c]) = readHex digits * 16 + hexValue c := by
  simp only [readHex, List.foldl_append, List.foldl_cons, List.foldl_nil]

theorem readHex_hexDigits {width n : Nat} (h : n < 16 ^ width) :
    readHex (hexDigits width n) = n := by
  induction width generalizing n with
  | zero =>
    have hzero : n = 0 := by simpa using h
    rw [hzero]
    rfl
  | succ width ih =>
    have hdigit : n % 16 < 16 := Nat.mod_lt n (by decide)
    have hrest : n / 16 < 16 ^ width := by
      rw [Nat.pow_succ] at h
      omega
    rw [hexDigits, readHex_append, ih hrest, hexValue_hexDigit _ hdigit]
    omega

/-- Digits of a known width, and what follows them. -/
theorem readHex_escaped {width : Nat} {c : Char} (h : c.toNat < 16 ^ width) (rest : List Char) :
    (Char.ofNat (readHex ((hexDigits width c.toNat ++ rest).take width)),
      (hexDigits width c.toNat ++ rest).drop width) = (c, rest) := by
  have hlength := length_hexDigits width c.toNat
  rw [List.take_left' hlength, List.drop_left' hlength, readHex_hexDigits h, Char.ofNat_toNat]

theorem toNat_lt_unicode (c : Char) : c.toNat < 0x110000 := by
  rcases c.valid with hlow | ⟨-, hhigh⟩
  · exact Nat.lt_trans hlow (by decide)
  · exact hhigh

theorem mem_hexDigits {width n : Nat} {c : Char} (h : c ∈ hexDigits width n) :
    ∃ digit < 16, c = hexDigit digit := by
  induction width generalizing n with
  | zero => cases h
  | succ width ih =>
    rcases List.mem_append.mp h with h | h
    · exact ih h
    · exact ⟨n % 16, Nat.mod_lt n (by decide), List.mem_singleton.mp h⟩

theorem isPrintable_hexDigit : ∀ n < 16, isPrintable (hexDigit n) = true := by decide

theorem isPrintable_escape {letter : Char} (h : isPrintable letter = true) (width n : Nat) :
    ∀ c ∈ letter :: hexDigits width n, isPrintable c = true := by
  intro c hc
  rcases List.mem_cons.mp hc with rfl | hc
  · exact h
  · obtain ⟨digit, hdigit, rfl⟩ := mem_hexDigits hc
    exact isPrintable_hexDigit digit hdigit

/-- Whether a character can open and close quoted text. -/
def IsMark (mark : Char) : Prop := mark = '\x27' ∨ mark = '\x22'

theorem isMark_quoteMark (s : List Char) : IsMark (quoteMark s) := by
  unfold quoteMark
  split
  · exact Or.inr rfl
  · exact Or.inl rfl

theorem readChar_backslash (letter : Char) (rest : List Char) :
    readChar ('\\' :: letter :: rest) = some (readEscape letter rest) := by
  simp [readChar]

/-- Every character is read back as it was before it was escaped. -/
theorem readChar_escapeChar {mark : Char} (hmark : IsMark mark) (c : Char) (rest : List Char) :
    readChar (escapeChar mark c ++ rest) = some (c, rest) := by
  -- The cases are the ways of writing a character, in the order in which they are tried.
  unfold escapeChar
  split
  · next h =>
    have hself : readEscape c rest = (c, rest) := by
      rcases h with rfl | rfl
      · rcases hmark with rfl | rfl <;> rfl
      · rfl
    exact (readChar_backslash c rest).trans (congrArg some hself)
  next hplain =>
  split
  · next h => rw [h]; rfl
  split
  · next h => rw [h]; rfl
  split
  · next h => rw [h]; rfl
  split
  · have hbackslash : c ≠ '\\' := fun h => hplain (Or.inr h)
    simp [readChar, hbackslash]
  split
  · next h =>
    exact (readChar_backslash 'x' _).trans (congrArg some (readHex_escaped (by omega) rest))
  split
  · next h =>
    exact (readChar_backslash 'u' _).trans (congrArg some (readHex_escaped (by omega) rest))
  · have h := toNat_lt_unicode c
    exact (readChar_backslash 'U' _).trans (congrArg some (readHex_escaped (by omega) rest))

theorem escapeChar_append_inj {mark : Char} (hmark : IsMark mark) {c d : Char} {x y : List Char}
    (h : escapeChar mark c ++ x = escapeChar mark d ++ y) : c = d ∧ x = y := by
  have hread : some (c, x) = some (d, y) := by
    rw [← readChar_escapeChar hmark c x, h, readChar_escapeChar hmark d y]
  simpa using hread

/-- A character stands for itself, or a backslash begins what it is written as. -/
theorem escapeChar_cases {mark : Char} (hmark : IsMark mark) (c : Char) :
    (∃ rest, escapeChar mark c = '\\' :: rest ∧ ∀ d ∈ rest, isPrintable d = true) ∨
      escapeChar mark c = [c] ∧ c ≠ mark ∧ isPrintable c = true := by
  unfold escapeChar
  split
  · next h =>
    have hshown : isPrintable c = true := by
      rcases h with rfl | rfl
      · rcases hmark with rfl | rfl <;> decide
      · decide
    refine Or.inl ⟨[c], rfl, ?_⟩
    intro d hd
    rw [List.mem_singleton.mp hd]
    exact hshown
  next hplain =>
  split
  · exact Or.inl ⟨['n'], rfl, List.forall_mem_singleton.mpr (by decide)⟩
  split
  · exact Or.inl ⟨['r'], rfl, List.forall_mem_singleton.mpr (by decide)⟩
  split
  · exact Or.inl ⟨['t'], rfl, List.forall_mem_singleton.mpr (by decide)⟩
  split
  · next hshown => exact Or.inr ⟨rfl, fun h => hplain (Or.inl h), hshown⟩
  split
  · exact Or.inl ⟨_, rfl, isPrintable_escape (by decide) 2 c.toNat⟩
  split
  · exact Or.inl ⟨_, rfl, isPrintable_escape (by decide) 4 c.toNat⟩
  · exact Or.inl ⟨_, rfl, isPrintable_escape (by decide) 8 c.toNat⟩

/-- No escaped character begins with the quote, so the first one that stands alone closes. -/
theorem escapeChar_append_ne_mark {mark : Char} (hmark : IsMark mark) (c : Char) (x y : List Char) :
    escapeChar mark c ++ x ≠ mark :: y := by
  intro h
  rcases escapeChar_cases hmark c with ⟨rest, hescaped, -⟩ | ⟨hself, hne, -⟩
  · rw [hescaped] at h
    have hhead : '\\' = mark := (List.cons.inj h).1
    rcases hmark with rfl | rfl <;> cases hhead
  · rw [hself] at h
    exact hne (List.cons.inj h).1

theorem flatMap_escapeChar_append_inj {mark : Char} (hmark : IsMark mark) {s t x y : List Char}
    (h : s.flatMap (escapeChar mark) ++ mark :: x = t.flatMap (escapeChar mark) ++ mark :: y) :
    s = t ∧ x = y := by
  induction s generalizing t with
  | nil =>
    cases t with
    | nil => exact ⟨rfl, (List.cons.inj h).2⟩
    | cons d t =>
      rw [List.flatMap_cons, List.append_assoc] at h
      exact absurd h.symm (escapeChar_append_ne_mark hmark d _ _)
  | cons c s ih =>
    cases t with
    | nil =>
      rw [List.flatMap_cons, List.append_assoc] at h
      exact absurd h (escapeChar_append_ne_mark hmark c _ _)
    | cons d t =>
      simp only [List.flatMap_cons, List.append_assoc] at h
      obtain ⟨hchar, hrest⟩ := escapeChar_append_inj hmark h
      obtain ⟨htail, hafter⟩ := ih hrest
      exact ⟨by rw [hchar, htail], hafter⟩

theorem quotedChars_append_inj {s t x y : List Char}
    (h : quotedChars s ++ x = quotedChars t ++ y) : s = t ∧ x = y := by
  simp only [quotedChars, List.cons_append, List.append_assoc, List.nil_append] at h
  obtain ⟨hmark, hrest⟩ := List.cons.inj h
  rw [← hmark] at hrest
  exact flatMap_escapeChar_append_inj (isMark_quoteMark s) hrest

/-- Two texts of which neither begins the other, unless they are the same. -/
def Apart (s t : String) : Prop :=
  ∀ ⦃x y : List Char⦄, s.toList ++ x = t.toList ++ y → s = t

theorem Apart.append_inj {s t : String} (h : Apart s t) {x y : List Char}
    (heq : s.toList ++ x = t.toList ++ y) : s = t ∧ x = y := by
  have hsame := h heq
  rw [hsame] at heq
  exact ⟨hsame, List.append_cancel_left heq⟩

theorem quoted_inj {s t : String} (h : quoted s = quoted t) : s = t := by
  have hchars : quotedChars s.toList ++ [] = quotedChars t.toList ++ [] := by
    rw [String.ofList_inj.mp h]
  exact String.toList_inj.mp (quotedChars_append_inj hchars).1

theorem apart_quoted (s t : String) : Apart (quoted s) (quoted t) := by
  intro x y h
  simp only [quoted, String.toList_ofList] at h
  rw [quoted, quoted, (quotedChars_append_inj h).1]

theorem head_quoted (s : String) : ∃ mark rest, IsMark mark ∧ (quoted s).toList = mark :: rest :=
  ⟨_, _, isMark_quoteMark s.toList, String.toList_ofList⟩

theorem quoted_append_ne_none (s : String) (x y : List Char) :
    (quoted s).toList ++ x ≠ "None".toList ++ y := by
  obtain ⟨mark, rest, hmark, hquoted⟩ := head_quoted s
  intro h
  rw [hquoted] at h
  have hhead : mark = 'N' := (List.cons.inj h).1
  rcases hmark with rfl | rfl <;> cases hhead

/-- A text that is there is in quotes, so it is never taken for one that is not there. -/
theorem quotedOption_inj {s t : Option String} (h : quotedOption s = quotedOption t) : s = t := by
  have hlists : (quotedOption s).toList ++ [] = (quotedOption t).toList ++ [] := by rw [h]
  cases s with
  | none =>
    cases t with
    | none => rfl
    | some t => exact absurd hlists.symm (quoted_append_ne_none t _ _)
  | some s =>
    cases t with
    | none => exact absurd hlists (quoted_append_ne_none s _ _)
    | some t => exact congrArg some (quoted_inj h)

theorem apart_quotedOption (s t : Option String) : Apart (quotedOption s) (quotedOption t) := by
  cases s with
  | none =>
    cases t with
    | none => exact fun _ _ _ => rfl
    | some t => exact fun _ _ h => absurd h.symm (quoted_append_ne_none t _ _)
  | some s =>
    cases t with
    | none => exact fun _ _ h => absurd h (quoted_append_ne_none s _ _)
    | some t => exact apart_quoted s t

/-- Whether all that a text holds shows itself. -/
def Shown (s : String) : Prop := ∀ c ∈ s.toList, isPrintable c = true

instance (s : String) : Decidable (Shown s) :=
  List.decidableBAll (fun c => isPrintable c = true) s.toList

theorem Shown.append {s t : String} (hs : Shown s) (ht : Shown t) : Shown (s ++ t) := by
  intro c hc
  rw [String.toList_append] at hc
  rcases List.mem_append.mp hc with hc | hc
  · exact hs c hc
  · exact ht c hc

theorem shown_quoted (s : String) : Shown (quoted s) := by
  intro c hc
  simp only [quoted, String.toList_ofList, quotedChars, List.cons_append, List.mem_cons,
    List.mem_append, List.mem_flatMap, List.not_mem_nil, or_false] at hc
  have hmark := isMark_quoteMark s.toList
  have hshown : isPrintable (quoteMark s.toList) = true := by
    rcases hmark with h | h <;> rw [h] <;> decide
  rcases hc with rfl | ⟨d, -, hc⟩ | rfl
  · exact hshown
  · rcases escapeChar_cases hmark d with ⟨rest, hescaped, hrest⟩ | ⟨hself, -, hd⟩
    · rw [hescaped] at hc
      rcases List.mem_cons.mp hc with rfl | hc
      · decide
      · exact hrest c hc
    · rw [hself] at hc
      rw [List.mem_singleton.mp hc]
      exact hd
  · exact hshown

theorem shown_quotedOption (s : Option String) : Shown (quotedOption s) := by
  cases s with
  | none => decide
  | some s => exact shown_quoted s

/-- The characters that end a line, in any of the conventions there are. -/
def lineBreaks : List Char :=
  ['\n', '\x0b', '\x0c', '\r', '\x1c', '\x1d', '\x1e', '\u0085', '\u2028', '\u2029']

theorem isPrintable_of_mem_lineBreaks : ∀ c ∈ lineBreaks, isPrintable c = false := by
  have hnone : lineBreaks.all (fun c => !isPrintable c) = true := by decide +kernel
  intro c hc
  have hc := List.all_eq_true.mp hnone c hc
  rwa [Bool.not_eq_true'] at hc

end RoleChain.Text
