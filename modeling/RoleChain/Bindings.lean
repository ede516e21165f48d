/-!
Values bound to names. Every name is bound at most once and keeps the place of its first binding
unless it is moved: `update` replaces a value where it stands, `renew` puts the name last.
-/
namespace RoleChain

/-- Named values in order, no name twice. -/
structure Bindings (α : Type) where
  entries : List (String × α)
  distinct : (entries.map Prod.fst).Nodup

namespace Bindings

variable {α : Type}

def without (name : String) : List (String × α) → List (String × α)
  | [] => []
  | entry :: rest => if entry.1 = name then without name rest else entry :: without name rest

/-- Replaces the value of a name where it stands, or adds the name at the end. -/
def place (name : String) (value : α) : List (String × α) → List (String × α)
  | [] => [(name, value)]
  | entry :: rest =>
    if entry.1 = name then (name, value) :: rest else entry :: place name value rest

theorem mem_names_without {name n : String} {entries : List (String × α)} :
    n ∈ (without name entries).map Prod.fst ↔ n ∈ entries.map Prod.fst ∧ n ≠ name := by
  induction entries with
  | nil => simp [without]
  | cons entry rest ih => by_cases h : entry.1 = name <;> grind [without]

theorem nodup_without {name : String} {entries : List (String × α)}
    (h : (entries.map Prod.fst).Nodup) : ((without name entries).map Prod.fst).Nodup := by
  induction entries with
  | nil => simp [without]
  | cons entry rest ih =>
    simp only [List.map_cons, List.nodup_cons] at h
    by_cases hn : entry.1 = name
    · simpa [without, hn] using ih h.2
    · simp only [without, hn, if_false, List.map_cons, List.nodup_cons]
      exact ⟨fun hm => h.1 (mem_names_without.1 hm).1, ih h.2⟩

theorem mem_names_place {name n : String} {value : α} {entries : List (String × α)} :
    n ∈ (place name value entries).map Prod.fst ↔ n ∈ entries.map Prod.fst ∨ n = name := by
  induction entries with
  | nil => simp [place]
  | cons entry rest ih => by_cases h : entry.1 = name <;> grind [place]

theorem nodup_place {name : String} {value : α} {entries : List (String × α)}
    (h : (entries.map Prod.fst).Nodup) : ((place name value entries).map Prod.fst).Nodup := by
  induction entries with
  | nil => simp [place]
  | cons entry rest ih =>
    simp only [List.map_cons, List.nodup_cons] at h
    by_cases hn : entry.1 = name
    · simp only [place, hn, if_true, List.map_cons, List.nodup_cons]
      exact ⟨hn ▸ h.1, h.2⟩
    · simp only [place, hn, if_false, List.map_cons, List.nodup_cons]
      refine ⟨fun hm => ?_, ih h.2⟩
      rcases mem_names_place.1 hm with hm | hm
      · exact h.1 hm
      · exact hn hm

theorem nodup_renew {name : String} {value : α} {entries : List (String × α)}
    (h : (entries.map Prod.fst).Nodup) :
    ((without name entries ++ [(name, value)]).map Prod.fst).Nodup := by
  rw [List.map_append, List.nodup_append]
  refine ⟨nodup_without h, by simp, ?_⟩
  intro a ha b hb
  simp only [List.map_cons, List.map_nil, List.mem_singleton] at hb
  exact hb ▸ (mem_names_without.1 ha).2

theorem find?_place (name : String) (value : α) (entries : List (String × α)) :
    (place name value entries).find? (fun entry => decide (entry.1 = name)) =
      some (name, value) := by
  induction entries with
  | nil => simp [place]
  | cons entry rest ih => by_cases h : entry.1 = name <;> simp [place, h, ih]

def empty : Bindings α := ⟨[], List.nodup_nil⟩

def names (b : Bindings α) : List String :=
  b.entries.map Prod.fst

def get? (b : Bindings α) (name : String) : Option α :=
  (b.entries.find? (fun entry => decide (entry.1 = name))).map Prod.snd

def contains (b : Bindings α) (name : String) : Bool :=
  (b.get? name).isSome

def erase (b : Bindings α) (name : String) : Bindings α :=
  ⟨without name b.entries, nodup_without b.distinct⟩

/-- Binds a name; a name that is bound already keeps its place. -/
def update (b : Bindings α) (name : String) (value : α) : Bindings α :=
  ⟨place name value b.entries, nodup_place b.distinct⟩

theorem get?_update (b : Bindings α) (name : String) (value : α) :
    (b.update name value).get? name = some value := by
  rw [get?, update, find?_place]
  rfl

/-- Binds a name and makes it the last one. -/
def renew (b : Bindings α) (name : String) (value : α) : Bindings α :=
  ⟨without name b.entries ++ [(name, value)], nodup_renew b.distinct⟩

/-- Of several bindings of one name the first gives the place and the last the value. -/
def ofList (entries : List (String × α)) : Bindings α :=
  entries.foldl (fun b entry => b.update entry.1 entry.2) empty

end Bindings

end RoleChain
