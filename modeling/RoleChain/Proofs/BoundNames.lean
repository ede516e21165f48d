import Mathlib.Data.Finset.Card
import Mathlib.Data.List.Induction
import RoleChain.Bindings

/-!
Names in bindings. When names are bound one after the other, a name stands where it was bound first,
has the value that it was bound to last, and is there once. Bindings are what comes of binding their
own entries in order.
-/
namespace RoleChain.Bindings

variable {α : Type}

/-! ### One binding -/

theorem find?_place_of_ne {name n : String} (h : n ≠ name) (value : α)
    (entries : List (String × α)) :
    (place name value entries).find? (fun entry => decide (entry.1 = n)) =
      entries.find? fun entry => decide (entry.1 = n) := by
  induction entries with
  | nil => simp [place, Ne.symm h]
  | cons entry rest ih =>
    by_cases hname : entry.1 = name
    · have hne : entry.1 ≠ n := fun heq => h (heq.symm.trans hname)
      simp [place, hname, Ne.symm h]
    · simp only [place, hname, if_false, List.find?_cons, ih]

theorem get?_update_of_ne {name n : String} (h : n ≠ name) (b : Bindings α) (value : α) :
    (b.update name value).get? n = b.get? n := by
  rw [get?, update, find?_place_of_ne h]
  rfl

theorem place_of_not_mem {name : String} {entries : List (String × α)}
    (h : name ∉ entries.map Prod.fst) (value : α) :
    place name value entries = entries ++ [(name, value)] := by
  induction entries with
  | nil => rfl
  | cons entry rest ih =>
    simp only [List.map_cons, List.mem_cons, not_or] at h
    simp only [place, Ne.symm h.1, if_false, ih h.2, List.cons_append]

theorem map_fst_place_of_mem {name : String} {entries : List (String × α)}
    (h : name ∈ entries.map Prod.fst) (value : α) :
    (place name value entries).map Prod.fst = entries.map Prod.fst := by
  induction entries with
  | nil => cases h
  | cons entry rest ih =>
    by_cases hname : entry.1 = name
    · simp only [place, hname, if_true, List.map_cons]
    · have hrest : name ∈ rest.map Prod.fst := List.mem_of_ne_of_mem (Ne.symm hname) h
      simp only [place, hname, if_false, List.map_cons, ih hrest]

theorem names_update_of_mem {b : Bindings α} {name : String} (h : name ∈ b.names) (value : α) :
    (b.update name value).names = b.names :=
  map_fst_place_of_mem h value

theorem entries_update_of_not_mem {b : Bindings α} {name : String} (h : name ∉ b.names)
    (value : α) : (b.update name value).entries = b.entries ++ [(name, value)] :=
  place_of_not_mem h value

theorem names_update_of_not_mem {b : Bindings α} {name : String} (h : name ∉ b.names) (value : α) :
    (b.update name value).names = b.names ++ [name] := by
  rw [names, entries_update_of_not_mem h, List.map_append]
  rfl

theorem mem_names_update {b : Bindings α} {name n : String} {value : α} :
    n ∈ (b.update name value).names ↔ n ∈ b.names ∨ n = name :=
  mem_names_place

theorem get?_eq_none_iff (b : Bindings α) (name : String) : b.get? name = none ↔ name ∉ b.names := by
  rw [get?, Option.map_eq_none_iff, List.find?_eq_none]
  simp only [decide_eq_true_eq, names, List.mem_map, not_exists, not_and]

theorem contains_eq_true_iff (b : Bindings α) (name : String) :
    b.contains name = true ↔ name ∈ b.names := by
  rw [contains, Option.isSome_iff_ne_none, ne_eq, get?_eq_none_iff, not_not]

/-! ### Bindings in a row -/

theorem ofList_concat (entries : List (String × α)) (entry : String × α) :
    ofList (entries ++ [entry]) = (ofList entries).update entry.1 entry.2 := by
  rw [ofList, List.foldl_append]
  rfl

theorem get?_ofList (entries : List (String × α)) (name : String) :
    (ofList entries).get? name =
      ((entries.filter fun entry => decide (entry.1 = name)).getLast?).map Prod.snd := by
  induction entries using List.reverseRecOn with
  | nil => rfl
  | append_singleton entries entry ih =>
    rw [ofList_concat, List.filter_append]
    by_cases hname : entry.1 = name
    · subst hname
      rw [get?_update]
      simp
    · rw [get?_update_of_ne (Ne.symm hname), ih]
      simp [hname]

theorem mem_names_ofList (entries : List (String × α)) (name : String) :
    name ∈ (ofList entries).names ↔ name ∈ entries.map Prod.fst := by
  induction entries using List.reverseRecOn with
  | nil => rfl
  | append_singleton entries entry ih =>
    rw [ofList_concat, mem_names_update, ih, List.map_append, List.mem_append]
    simp

/-- Names stand in the order in which they were bound first. -/
theorem pairwise_names_ofList (entries : List (String × α)) :
    (ofList entries).names.Pairwise fun m n =>
      (entries.map Prod.fst).idxOf m < (entries.map Prod.fst).idxOf n := by
  induction entries using List.reverseRecOn with
  | nil => exact .nil
  | append_singleton entries entry ih =>
    -- A further binding moves no name that is bound already, and a new name comes behind them all.
    have hindex {n : String} (hn : n ∈ (ofList entries).names) :
        ((entries ++ [entry]).map Prod.fst).idxOf n = (entries.map Prod.fst).idxOf n := by
      rw [List.map_append, List.idxOf_append_of_mem ((mem_names_ofList entries n).mp hn)]
    have hkept : (ofList entries).names.Pairwise fun m n =>
        ((entries ++ [entry]).map Prod.fst).idxOf m <
          ((entries ++ [entry]).map Prod.fst).idxOf n := by
      refine ih.imp_of_mem fun hm hn hlt => ?_
      rw [hindex hm, hindex hn]
      exact hlt
    rw [ofList_concat]
    by_cases hbound : entry.1 ∈ (ofList entries).names
    · rw [names_update_of_mem hbound]
      exact hkept
    · rw [names_update_of_not_mem hbound, List.pairwise_append]
      refine ⟨hkept, List.pairwise_singleton _ _, fun m hm n hn => ?_⟩
      obtain rfl := List.mem_singleton.mp hn
      have hnew : entry.1 ∉ entries.map Prod.fst :=
        fun hmem => hbound ((mem_names_ofList entries entry.1).mpr hmem)
      have hearlier : (entries.map Prod.fst).idxOf m < (entries.map Prod.fst).length :=
        List.idxOf_lt_length_of_mem ((mem_names_ofList entries m).mp hm)
      rw [hindex hm, List.map_append, List.idxOf_append_of_notMem hnew]
      omega

/-- Whether a name is bound to a value, and to none after that. -/
def BoundLast (entries : List (String × α)) (name : String) (value : α) : Prop :=
  ∃ earlier later, entries = earlier ++ (name, value) :: later ∧ name ∉ later.map Prod.fst

theorem not_boundLast_nil (name : String) (value : α) : ¬ BoundLast [] name value := by
  rintro ⟨earlier, later, heq, -⟩
  simp at heq

theorem boundLast_concat_iff (entries : List (String × α)) (entry : String × α) (name : String)
    (value : α) :
    BoundLast (entries ++ [entry]) name value ↔
      entry = (name, value) ∨ entry.1 ≠ name ∧ BoundLast entries name value := by
  constructor
  · rintro ⟨earlier, later, heq, hlater⟩
    rcases List.eq_nil_or_concat later with rfl | ⟨later, last, rfl⟩
    · obtain ⟨-, hlast⟩ := List.append_inj' heq rfl
      exact Or.inl (List.cons.inj hlast).1
    · rw [List.concat_eq_append, ← List.cons_append, ← List.append_assoc] at heq
      obtain ⟨hentries, hlast⟩ := List.append_inj' heq rfl
      obtain rfl := (List.cons.inj hlast).1
      simp only [List.concat_eq_append, List.map_append, List.mem_append, not_or] at hlater
      exact Or.inr ⟨fun hname => hlater.2 (by simp [hname]), earlier, later, hentries, hlater.1⟩
  · rintro (rfl | ⟨hname, earlier, later, rfl, hlater⟩)
    · exact ⟨entries, [], rfl, List.not_mem_nil⟩
    · refine ⟨earlier, later ++ [entry], by simp, ?_⟩
      simp only [List.map_append, List.mem_append, not_or]
      exact ⟨hlater, by simpa using Ne.symm hname⟩

/-- A name has the value of its last binding. -/
theorem get?_ofList_eq_some_iff (entries : List (String × α)) (name : String) (value : α) :
    (ofList entries).get? name = some value ↔ BoundLast entries name value := by
  induction entries using List.reverseRecOn with
  | nil => exact iff_of_false nofun (not_boundLast_nil name value)
  | append_singleton entries entry ih =>
    obtain ⟨bound, last⟩ := entry
    rw [ofList_concat, boundLast_concat_iff]
    by_cases hname : bound = name
    · subst hname
      rw [get?_update]
      simp
    · rw [get?_update_of_ne (Ne.symm hname), ih]
      simp [hname]

/-- The number of bindings that are left is that of the names. -/
theorem length_ofList (entries : List (String × α)) :
    (ofList entries).entries.length = (entries.map Prod.fst).toFinset.card := by
  have hnames : (ofList entries).names.toFinset = (entries.map Prod.fst).toFinset := by
    ext n
    rw [List.mem_toFinset, List.mem_toFinset, mem_names_ofList]
  have hdistinct : (ofList entries).names.Nodup := (ofList entries).distinct
  rw [← hnames, List.toFinset_card_of_nodup hdistinct, names, List.length_map]

/-- Bound in order, the entries of bindings give those bindings again. -/
theorem ofList_entries (b : Bindings α) : ofList b.entries = b := by
  obtain ⟨entries, hdistinct⟩ := b
  suffices h : (ofList entries).entries = entries by
    cases hb : ofList entries
    rw [hb] at h
    cases h
    rfl
  induction entries using List.reverseRecOn with
  | nil => rfl
  | append_singleton entries entry ih =>
    rw [List.map_append, List.nodup_append] at hdistinct
    have hearlier : (ofList entries).entries = entries := ih hdistinct.1
    have hnew : entry.1 ∉ (ofList entries).names := by
      rw [names, hearlier]
      exact fun hmem => hdistinct.2.2 entry.1 hmem entry.1 (List.mem_singleton_self _) rfl
    rw [ofList_concat, entries_update_of_not_mem hnew, hearlier]

end RoleChain.Bindings
