import Mathlib.Data.List.DropRight
import RoleChain.Text.Blank
import RoleChain.Text.Lines

/-!
Text without the blanks at its ends. What is left begins and ends with no blank, it is empty only if
all was blank, and more blanks at either end change nothing. Line feeds may be made of line ends
before or after the blanks are removed, so neither the line ends that a text is written with nor the
blanks around it have a say in what is left of it.
-/
namespace RoleChain.Text

/-! ### Blanks -/

/-- Whether all characters are blank; there may be none. -/
def AllBlank (s : List Char) : Prop := ∀ c ∈ s, isBlank c = true

instance (s : List Char) : Decidable (AllBlank s) :=
  decidable_of_iff (s.all isBlank = true) List.all_eq_true

/-- Whether neither end of the characters is blank. -/
structure Trimmed (s : List Char) : Prop where
  head : ∀ c, s.head? = some c → isBlank c = false
  last : ∀ c, s.getLast? = some c → isBlank c = false

theorem dropBlankEnd_eq (s : List Char) : dropBlankEnd s = s.rdropWhile isBlank := rfl

theorem dropWhile_blank_append {before : List Char} (h : AllBlank before) (s : List Char) :
    (before ++ s).dropWhile isBlank = s.dropWhile isBlank := by
  have hnil : before.dropWhile isBlank = [] := List.dropWhile_eq_nil_iff.mpr h
  rw [List.dropWhile_append, hnil]
  rfl

theorem dropBlankEnd_append {after : List Char} (h : AllBlank after) (s : List Char) :
    dropBlankEnd (s ++ after) = dropBlankEnd s := by
  have hreverse : AllBlank after.reverse := fun c hc => h c (List.mem_reverse.mp hc)
  rw [dropBlankEnd, List.reverse_append, dropWhile_blank_append hreverse, dropBlankEnd]

/-- Blanks at either end have no say. -/
theorem trimChars_padded {before after : List Char} (hbefore : AllBlank before)
    (hafter : AllBlank after) (s : List Char) :
    trimChars (before ++ s ++ after) = trimChars s := by
  rw [List.append_assoc, trimChars, dropWhile_blank_append hbefore, List.dropWhile_append]
  split
  · next hempty =>
    have hnil : s.dropWhile isBlank = [] := List.isEmpty_iff.mp hempty
    have hnone : after.dropWhile isBlank = [] := List.dropWhile_eq_nil_iff.mpr hafter
    rw [hnone, trimChars, hnil]
  · rw [dropBlankEnd_append hafter, trimChars]

/-- What is removed is blank. -/
theorem exists_padded (s : List Char) :
    ∃ before after, AllBlank before ∧ AllBlank after ∧ s = before ++ trimChars s ++ after := by
  refine ⟨s.takeWhile isBlank, (s.dropWhile isBlank).rtakeWhile isBlank, ?_, ?_, ?_⟩
  · intro c hc
    exact List.mem_takeWhile_imp hc
  · intro c hc
    exact List.mem_rtakeWhile_imp hc
  · rw [trimChars, dropBlankEnd_eq, List.append_assoc, List.rdropWhile_append_rtakeWhile,
      List.takeWhile_append_dropWhile]

theorem trimmed_trimChars (s : List Char) : Trimmed (trimChars s) := by
  constructor
  · intro c hc
    have hfirst : (s.dropWhile isBlank).head? = some c := by
      obtain ⟨rest, hrest⟩ : trimChars s <+: s.dropWhile isBlank :=
        List.rdropWhile_prefix isBlank _
      rw [← hrest, List.head?_append, hc, Option.some_or]
    have hdrop := List.head?_dropWhile_not isBlank s
    rw [hfirst] at hdrop
    exact hdrop
  · intro c hc
    rw [trimChars, dropBlankEnd, List.getLast?_reverse] at hc
    have hdrop := List.head?_dropWhile_not isBlank (s.dropWhile isBlank).reverse
    rw [hc] at hdrop
    exact hdrop

theorem trimChars_of_trimmed {s : List Char} (h : Trimmed s) : trimChars s = s := by
  have hhead : s.dropWhile isBlank = s := by
    cases s with
    | nil => rfl
    | cons c rest =>
      have hc : isBlank c = false := h.head c rfl
      rw [List.dropWhile_cons, hc]
      rfl
  rw [trimChars, hhead, dropBlankEnd_eq, List.rdropWhile_eq_self_iff]
  intro hne
  rw [h.last _ (List.getLast?_eq_some_getLast hne)]
  exact Bool.false_ne_true

theorem trimChars_eq_nil_iff (s : List Char) : trimChars s = [] ↔ AllBlank s := by
  constructor
  · intro h
    obtain ⟨before, after, hbefore, hafter, hs⟩ := exists_padded s
    rw [h, List.append_nil] at hs
    intro c hc
    rw [hs] at hc
    rcases List.mem_append.mp hc with hc | hc
    · exact hbefore c hc
    · exact hafter c hc
  · intro h
    have hempty : AllBlank [] := fun c hc => absurd hc List.not_mem_nil
    have hpadded := trimChars_padded h hempty []
    rwa [List.append_nil, List.append_nil] at hpadded

theorem toList_trim (s : String) : (trim s).toList = trimChars s.toList := String.toList_ofList

theorem trim_eq_empty_iff (s : String) : trim s = "" ↔ AllBlank s.toList := by
  rw [trim, String.ofList_eq_empty_iff, trimChars_eq_nil_iff]

/-! ### Line ends -/

/-- The ways to end a line. -/
inductive LineEnd where
  | lineFeed
  | carriageReturn
  | both
  deriving DecidableEq

def LineEnd.chars : LineEnd → List Char
  | lineFeed => ['\n']
  | carriageReturn => ['\r']
  | both => ['\r', '\n']

/-- The characters with all lines ended in one way. -/
def LineEnd.write (lineEnd : LineEnd) (s : List Char) : List Char :=
  s.flatMap fun c => if c = '\n' then lineEnd.chars else [c]

theorem lineFeeds_cons {c : Char} {s : List Char} (h : c = '\r' → s.head? ≠ some '\n') :
    lineFeeds (c :: s) = (if c = '\r' then '\n' else c) :: lineFeeds s := by
  rw [lineFeeds]
  rintro rest rfl rfl
  exact h rfl rfl

/-- A text may be cut anywhere but inside of a line end. -/
theorem lineFeeds_append {s t : List Char} (h : s.getLast? = some '\r' → t.head? ≠ some '\n') :
    lineFeeds (s ++ t) = lineFeeds s ++ lineFeeds t := by
  fun_induction lineFeeds s with
  | case1 => rfl
  | case2 rest ih =>
    have hrest : rest.getLast? = some '\r' → t.head? ≠ some '\n' := by
      intro hlast
      apply h
      rw [List.getLast?_cons, List.getLast?_cons, hlast]
      rfl
    exact congrArg (List.cons '\n') (ih hrest)
  | case3 c rest hc ih =>
    have hrest : rest.getLast? = some '\r' → t.head? ≠ some '\n' := by
      intro hlast
      apply h
      rw [List.getLast?_cons, hlast]
      rfl
    have hcut : c = '\r' → (rest ++ t).head? ≠ some '\n' := by
      intro hreturn
      cases rest with
      | nil => exact h (congrArg some hreturn)
      | cons d rest =>
        intro hfeed
        exact hc rest hreturn (congrArg (· :: rest) (Option.some.inj hfeed))
    rw [List.cons_append, lineFeeds_cons hcut, ih hrest, List.cons_append]

theorem allBlank_lineFeeds {s : List Char} (h : AllBlank s) : AllBlank (lineFeeds s) := by
  fun_induction lineFeeds s with
  | case1 => exact h
  | case2 rest ih =>
    have hrest : AllBlank rest := fun c hc =>
      h c (List.mem_cons_of_mem _ (List.mem_cons_of_mem _ hc))
    exact List.forall_mem_cons.mpr ⟨rfl, ih hrest⟩
  | case3 c rest hc ih =>
    obtain ⟨hfirst, hrest⟩ := List.forall_mem_cons.mp h
    refine List.forall_mem_cons.mpr ⟨?_, ih hrest⟩
    split
    · rfl
    · exact hfirst

/-- A character that is not blank stays where it is. -/
theorem lineFeeds_singleton {c : Char} (h : isBlank c = false) : lineFeeds [c] = [c] := by
  have hreturn : c ≠ '\r' := by
    rintro rfl
    cases h
  rw [lineFeeds_cons (fun heq => absurd heq hreturn), if_neg hreturn]
  rfl

theorem trimmed_lineFeeds {s : List Char} (h : Trimmed s) : Trimmed (lineFeeds s) := by
  constructor
  · intro c hc
    cases s with
    | nil => cases hc
    | cons d rest =>
      have hd : isBlank d = false := h.head d rfl
      have hreturn : [d].getLast? = some '\r' → rest.head? ≠ some '\n' := by
        intro heq
        cases heq
        cases hd
      have hcut : lineFeeds (d :: rest) = d :: lineFeeds rest := by
        rw [← List.singleton_append, lineFeeds_append hreturn, lineFeeds_singleton hd]
        rfl
      rw [hcut] at hc
      cases hc
      exact hd
  · intro c hc
    rcases List.eq_nil_or_concat' s with rfl | ⟨rest, d, rfl⟩
    · cases hc
    · have hd : isBlank d = false := h.last d List.getLast?_concat
      have hfeed : rest.getLast? = some '\r' → [d].head? ≠ some '\n' := by
        intro _ heq
        cases heq
        cases hd
      rw [lineFeeds_append hfeed, lineFeeds_singleton hd, List.getLast?_concat] at hc
      cases hc
      exact hd

/-- Line feeds may be made before or after the blanks are removed. -/
theorem trimChars_lineFeeds (s : List Char) :
    trimChars (lineFeeds s) = lineFeeds (trimChars s) := by
  obtain ⟨before, after, hbefore, hafter, hs⟩ := exists_padded s
  have htrimmed := trimmed_trimChars s
  by_cases hnil : trimChars s = []
  · have hblank : AllBlank s := (trimChars_eq_nil_iff s).mp hnil
    rw [hnil, (trimChars_eq_nil_iff _).mpr (allBlank_lineFeeds hblank)]
    rfl
  · -- What is kept begins and ends with no line end, so the text is cut in three there.
    have hfirst : (trimChars s).head? ≠ some '\n' := by
      intro heq
      cases htrimmed.head _ heq
    have hlast : (before ++ trimChars s).getLast? ≠ some '\r' := by
      rw [List.getLast?_append_of_ne_nil _ hnil]
      intro heq
      cases htrimmed.last _ heq
    have hcut : lineFeeds s = lineFeeds before ++ lineFeeds (trimChars s) ++ lineFeeds after := by
      calc lineFeeds s
          = lineFeeds (before ++ trimChars s ++ after) := congrArg lineFeeds hs
        _ = lineFeeds (before ++ trimChars s) ++ lineFeeds after :=
          lineFeeds_append fun heq => absurd heq hlast
        _ = lineFeeds before ++ lineFeeds (trimChars s) ++ lineFeeds after := by
          rw [lineFeeds_append fun _ => hfirst]
    rw [hcut, trimChars_padded (allBlank_lineFeeds hbefore) (allBlank_lineFeeds hafter),
      trimChars_of_trimmed (trimmed_lineFeeds htrimmed)]

theorem head_write_carriageReturn (s : List Char) :
    (LineEnd.carriageReturn.write s).head? ≠ some '\n' := by
  intro h
  obtain ⟨rest, hrest⟩ := List.head?_eq_some_iff.mp h
  have hmem : '\n' ∈ LineEnd.carriageReturn.write s := by
    rw [hrest]
    exact List.mem_cons_self
  obtain ⟨c, -, hc⟩ := List.mem_flatMap.mp hmem
  split at hc
  · cases List.mem_singleton.mp hc
  · next hfeed => exact hfeed (List.mem_singleton.mp hc).symm

/-- In whichever way the lines of a text are ended, they are read with line feeds. -/
theorem lineFeeds_write (lineEnd : LineEnd) {s : List Char} (h : '\r' ∉ s) :
    lineFeeds (lineEnd.write s) = s := by
  induction s with
  | nil => rfl
  | cons c rest ih =>
    have hc : c ≠ '\r' := Ne.symm (List.ne_of_not_mem_cons h)
    have hrest : lineFeeds (lineEnd.write rest) = rest := ih (List.not_mem_of_not_mem_cons h)
    have hcut : lineEnd.write (c :: rest) =
      (if c = '\n' then lineEnd.chars else [c]) ++ lineEnd.write rest := rfl
    rw [hcut]
    by_cases hfeed : c = '\n'
    · subst hfeed
      rw [if_pos rfl]
      cases lineEnd with
      | lineFeed => exact congrArg (List.cons '\n') hrest
      | carriageReturn =>
        have hhead := head_write_carriageReturn rest
        exact (lineFeeds_cons fun _ => hhead).trans (congrArg (List.cons '\n') hrest)
      | both => exact congrArg (List.cons '\n') hrest
    · rw [if_neg hfeed, List.singleton_append, lineFeeds_cons (fun heq => absurd heq hc),
        if_neg hc, hrest]

/-- What is left of a text says neither how its lines were ended nor what blanks were around it. -/
theorem trimChars_written {before after s : List Char} (hbefore : AllBlank before)
    (hafter : AllBlank after) (h : '\r' ∉ s) (lineEnd : LineEnd) :
    trimChars (lineFeeds (before ++ lineEnd.write s ++ after)) = trimChars s := by
  rw [trimChars_lineFeeds, trimChars_padded hbefore hafter, ← trimChars_lineFeeds,
    lineFeeds_write lineEnd h]

end RoleChain.Text
