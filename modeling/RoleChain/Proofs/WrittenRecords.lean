import Mathlib.Data.List.Forall2
import RoleChain.Proofs.QuotedText
import RoleChain.Proofs.Secrecy

/-!
Written records. A record is written with its name and its fields in a fixed order, so two that are
written alike have the same fields, as long as each of these says where it ends. Roles are told
apart by how they are written, and so are bases, but for the secrets of a key.
-/
namespace RoleChain

open Text

/-- Fields with the same labels whose texts say where they end. -/
def FieldsApart (fields others : List (String × String)) : Prop :=
  List.Forall₂ (fun f g => f.1 = g.1 ∧ Apart f.2 g.2) fields others

theorem FieldsApart.cons {label s t : String} {fields others : List (String × String)}
    (h : Apart s t) (hrest : FieldsApart fields others) :
    FieldsApart ((label, s) :: fields) ((label, t) :: others) :=
  List.Forall₂.cons ⟨rfl, h⟩ hrest

def fieldText (field : String × String) : String := field.1 ++ "=" ++ field.2

theorem fieldText_append_inj {f g : String × String} (hlabel : f.1 = g.1) (h : Apart f.2 g.2)
    {x y : List Char} (heq : (fieldText f).toList ++ x = (fieldText g).toList ++ y) :
    f = g ∧ x = y := by
  simp only [fieldText, String.toList_append, List.append_assoc, hlabel] at heq
  have hvalue := List.append_cancel_left (List.append_cancel_left heq)
  obtain ⟨hsame, hrest⟩ := h.append_inj hvalue
  exact ⟨Prod.ext hlabel hsame, hrest⟩

theorem intercalate_fieldText_append_inj {fields others : List (String × String)}
    (h : FieldsApart fields others) {x y : List Char} (separator : List Char)
    (heq : separator.intercalate (fields.map fun f => (fieldText f).toList) ++ x =
      separator.intercalate (others.map fun f => (fieldText f).toList) ++ y) :
    fields = others := by
  induction h with
  | nil => rfl
  | @cons f g fields others hfg hrest ih =>
    cases hrest with
    | nil =>
      simp only [List.map_cons, List.map_nil, List.intercalate_singleton] at heq
      rw [(fieldText_append_inj hfg.1 hfg.2 heq).1]
    | cons hnext hmore =>
      simp only [List.map_cons, List.intercalate_cons_cons, List.append_assoc] at heq ih
      obtain ⟨hfield, hafter⟩ := fieldText_append_inj hfg.1 hfg.2 heq
      rw [hfield, ih (List.append_cancel_left hafter)]

theorem toList_recordText (name : String) (fields : List (String × String)) :
    (recordText name fields).toList = name.toList ++ '(' ::
      ((", ".toList.intercalate (fields.map fun f => (fieldText f).toList)) ++ [')']) := by
  simp only [recordText, String.toList_append, String.toList_intercalate, List.map_map,
    List.append_assoc]
  rfl

theorem recordText_inj {name : String} {fields others : List (String × String)}
    (h : FieldsApart fields others) (heq : recordText name fields = recordText name others) :
    fields = others := by
  have hlists := congrArg String.toList heq
  rw [toList_recordText, toList_recordText] at hlists
  exact intercalate_fieldText_append_inj h _ (List.cons.inj (List.append_cancel_left hlists)).2

theorem mem_intercalate {c : Char} {separator : List Char} {pieces : List (List Char)}
    (h : c ∈ separator.intercalate pieces) : c ∈ separator ∨ ∃ piece ∈ pieces, c ∈ piece := by
  induction pieces with
  | nil => cases h
  | cons piece pieces ih =>
    cases pieces with
    | nil =>
      rw [List.intercalate_singleton] at h
      exact Or.inr ⟨piece, List.mem_cons_self, h⟩
    | cons next pieces =>
      rw [List.intercalate_cons_cons, List.append_assoc] at h
      rcases List.mem_append.mp h with h | h
      · exact Or.inr ⟨piece, List.mem_cons_self, h⟩
      rcases List.mem_append.mp h with h | h
      · exact Or.inl h
      · rcases ih h with h | ⟨p, hp, hc⟩
        · exact Or.inl h
        · exact Or.inr ⟨p, List.mem_cons_of_mem _ hp, hc⟩

/-- Whether labels and texts of fields show all that they hold. -/
def FieldsShown (fields : List (String × String)) : Prop :=
  ∀ f ∈ fields, Shown f.1 ∧ Shown f.2

namespace FieldsShown

theorem nil : FieldsShown [] := fun _ h => absurd h List.not_mem_nil

theorem cons {label s : String} {fields : List (String × String)} (hlabel : Shown label)
    (hs : Shown s) (hrest : FieldsShown fields) : FieldsShown ((label, s) :: fields) :=
  List.forall_mem_cons.mpr ⟨⟨hlabel, hs⟩, hrest⟩

end FieldsShown

theorem shown_recordText {name : String} {fields : List (String × String)} (hname : Shown name)
    (hfields : FieldsShown fields) : Shown (recordText name fields) := by
  intro c hc
  have hopen : isPrintable '(' = true := by decide
  have hclose : isPrintable ')' = true := by decide
  have hseparator : Shown ", " := by decide
  have hequals : Shown "=" := by decide
  rw [toList_recordText] at hc
  simp only [List.mem_append, List.mem_cons, List.not_mem_nil, or_false] at hc
  rcases hc with hc | rfl | hc | rfl
  · exact hname c hc
  · exact hopen
  · rcases mem_intercalate hc with hc | ⟨piece, hpiece, hc⟩
    · exact hseparator c hc
    · obtain ⟨f, hf, rfl⟩ := List.mem_map.mp hpiece
      exact (((hfields f hf).1.append hequals).append (hfields f hf).2) c hc
  · exact hclose

namespace Role

theorem text_inj {role other : Role} (h : role.text = other.text) : role = other := by
  have hfields := recordText_inj (.cons (apart_quoted _ _) (.cons (apart_quotedOption _ _)
    (.cons (apart_quotedOption _ _) .nil))) h
  simp only [List.cons.injEq, Prod.mk.injEq, true_and, and_true] at hfields
  obtain ⟨harn, hid, hname⟩ := hfields
  obtain ⟨arn, externalId, sessionName⟩ := role
  obtain ⟨arn', externalId', sessionName'⟩ := other
  rw [mk.injEq]
  exact ⟨quoted_inj harn, quotedOption_inj hid, quotedOption_inj hname⟩

theorem shown_text (role : Role) : Shown role.text :=
  shown_recordText (by decide) (.cons (by decide) (shown_quoted _)
    (.cons (by decide) (shown_quotedOption _) (.cons (by decide) (shown_quotedOption _) .nil)))

end Role

namespace Base

/-- Whether a base is one of the declared kinds. -/
def IsDeclared : Base → Prop
  | unsupported _ => False
  | named _ | accessKey .. | webIdentity .. => True

/-- The letter that a declared base is written with first; each kind has its own. -/
def initial : Base → Option Char
  | named _ => some 'N'
  | accessKey .. => some 'A'
  | webIdentity .. => some 'W'
  | unsupported _ => none

theorem head?_text {base : Base} (h : base.IsDeclared) :
    base.text.toList.head? = base.initial := by
  cases base with
  | unsupported value => exact h.elim
  | named name => unfold text; rw [toList_recordText]; rfl
  | accessKey id secret token => unfold text; rw [toList_recordText]; rfl
  | webIdentity arn tokenFile sessionName => unfold text; rw [toList_recordText]; rfl

theorem initial_eq_of_text {base other : Base} (h : base.IsDeclared) (hother : other.IsDeclared)
    (htext : base.text = other.text) : base.initial = other.initial := by
  rw [← head?_text h, ← head?_text hother, htext]

/-- Bases that are written alike are the same, or keys with the same id. -/
theorem alike_of_text {base other : Base} (h : base.IsDeclared) (hother : other.IsDeclared)
    (htext : base.text = other.text) : base.Alike other := by
  have hinitial := initial_eq_of_text h hother htext
  cases base with
  | unsupported value => exact h.elim
  | named name =>
    cases other with
    | unsupported value => exact hother.elim
    | accessKey | webIdentity => cases hinitial
    | named name' =>
      have hfields := recordText_inj (.cons (apart_quoted _ _) .nil) htext
      simp only [List.cons.injEq, Prod.mk.injEq, true_and, and_true] at hfields
      rw [quoted_inj hfields]
      exact .same _
  | accessKey id secret token =>
    cases other with
    | unsupported value => exact hother.elim
    | named | webIdentity => cases hinitial
    | accessKey id' secret' token' =>
      have hfields := recordText_inj (.cons (apart_quoted _ _) .nil) htext
      simp only [List.cons.injEq, Prod.mk.injEq, true_and, and_true] at hfields
      rw [quoted_inj hfields]
      exact .accessKey _ _ _ _ _
  | webIdentity arn tokenFile sessionName =>
    cases other with
    | unsupported value => exact hother.elim
    | named | accessKey => cases hinitial
    | webIdentity arn' tokenFile' sessionName' =>
      have hfields := recordText_inj (.cons (apart_quoted _ _) (.cons (apart_quoted _ _)
        (.cons (apart_quotedOption _ _) .nil))) htext
      simp only [List.cons.injEq, Prod.mk.injEq, true_and, and_true] at hfields
      obtain ⟨harn, hfile, hname⟩ := hfields
      rw [quoted_inj harn, quoted_inj hfile, quotedOption_inj hname]
      exact .same _

theorem shown_text {base : Base} (h : base.IsDeclared) : Shown base.text := by
  cases base with
  | unsupported value => exact h.elim
  | named name =>
    exact shown_recordText (by decide) (.cons (by decide) (shown_quoted _) .nil)
  | accessKey id secret token =>
    exact shown_recordText (by decide) (.cons (by decide) (shown_quoted _) .nil)
  | webIdentity arn tokenFile sessionName =>
    exact shown_recordText (by decide) (.cons (by decide) (shown_quoted _)
      (.cons (by decide) (shown_quoted _) (.cons (by decide) (shown_quotedOption _) .nil)))

end Base

end RoleChain
