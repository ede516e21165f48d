import RoleChain.Proofs.BoundNames
import RoleChain.Proofs.ResolutionEffects

/-!
Registries of sources. A registrar binds providers to names in a mapping of its own and makes
registries of what the mapping holds. All that a registry answers is fixed when it is made: which
names it knows and in which order, the provider under a name, and what a profile that is based on
the name resolves to. What is done to the mapping later is not seen in it.
-/
namespace RoleChain

variable {σ : Type}

/-- Whoever makes registries: a mapping of its own, and the registries made so far in order. -/
structure Registrar where
  mapping : Bindings Provider
  registries : List Registry

/-- What a registrar does: it changes its mapping, or makes a registry of what that holds. -/
inductive RegistryAct where
  | bind (name : String) (provider : Provider)
  | unbind (name : String)
  | register

namespace RegistryAct

/-- The registrar after an act. A registry has bindings of its own, taken over in order. -/
def step : RegistryAct → Registrar → Registrar
  | bind name provider, r => { r with mapping := r.mapping.update name provider }
  | unbind name, r => { r with mapping := r.mapping.erase name }
  | register, r => { r with registries := r.registries ++ [Bindings.ofList r.mapping.entries] }

def after (acts : List RegistryAct) (r : Registrar) : Registrar :=
  acts.foldl (fun r act => act.step r) r

/-- The acts that bind names one after the other. -/
def binds (bindings : List (String × Provider)) : List RegistryAct :=
  bindings.map fun entry => bind entry.1 entry.2

theorem after_append (acts more : List RegistryAct) (r : Registrar) :
    after (acts ++ more) r = after more (after acts r) :=
  List.foldl_append

theorem after_binds (bindings : List (String × Provider)) (registries : List Registry) :
    after (binds bindings) ⟨.empty, registries⟩ = ⟨.ofList bindings, registries⟩ := by
  induction bindings using List.reverseRecOn with
  | nil => rfl
  | append_singleton bindings entry ih =>
    have hacts : binds (bindings ++ [entry]) = binds bindings ++ [bind entry.1 entry.2] :=
      List.map_append
    rw [hacts, after_append, ih, Bindings.ofList_concat]
    rfl

/-- An act leaves the registries that have been made as they are. -/
theorem registries_step (act : RegistryAct) (r : Registrar) :
    r.registries <+: (act.step r).registries := by
  cases act with
  | bind | unbind => exact List.prefix_rfl
  | register => exact List.prefix_append _ _

/-- Whatever is done, the registries that have been made stay as they are. -/
theorem registries_after (acts : List RegistryAct) (r : Registrar) :
    r.registries <+: (after acts r).registries := by
  induction acts generalizing r with
  | nil => exact List.prefix_rfl
  | cons act acts ih => exact (registries_step act r).trans (ih (act.step r))

/-- A registry has exactly the bindings that the mapping has when it is made. -/
theorem step_register (r : Registrar) :
    register.step r = { r with registries := r.registries ++ [r.mapping] } := by
  simp only [step, Bindings.ofList_entries]

theorem registries_register (bindings : List (String × Provider)) (later : List RegistryAct)
    (earlier : List Registry) :
    (after (binds bindings ++ register :: later) ⟨.empty, earlier⟩).registries[earlier.length]? =
      some (.ofList bindings) := by
  -- What is done later starts from the registrar that has just made the registry.
  let made : Registrar := ⟨.ofList bindings, earlier ++ [.ofList bindings]⟩
  have hafter : after (binds bindings ++ register :: later) ⟨.empty, earlier⟩ = after later made := by
    rw [after_append, after_binds]
    exact congrArg (after later) (step_register _)
  obtain ⟨rest, hrest⟩ := registries_after later made
  rw [hafter, ← hrest, List.append_assoc, List.getElem?_append_right (le_refl _), Nat.sub_self]
  rfl

end RegistryAct

namespace Registry

/-- Whether the answers of a registry are those that bindings give, made one after the other. -/
structure AnswersFor (registry : Registry) (bindings : List (String × Provider)) : Prop where
  nodup_names : registry.names.Nodup
  mem_names_iff : ∀ name, name ∈ registry.names ↔ name ∈ bindings.map Prod.fst
  /-- Of two names the one that was bound first stands first, as the names are listed and as the
  registry is gone through. -/
  in_order : registry.names.Pairwise fun m n =>
    (bindings.map Prod.fst).idxOf m < (bindings.map Prod.fst).idxOf n
  length_eq : registry.entries.length = (bindings.map Prod.fst).toFinset.card
  /-- The provider under a name is the one that the name was bound to last. -/
  get?_eq_some_iff : ∀ name provider,
    registry.get? name = some provider ↔ Bindings.BoundLast bindings name provider
  get?_eq_none_iff : ∀ name, registry.get? name = none ↔ name ∉ bindings.map Prod.fst
  /-- Bindings of other names have no say, however like the name they are. -/
  get?_own : ∀ name, registry.get? name =
    (Bindings.ofList (bindings.filter fun entry => decide (entry.1 = name))).get? name

theorem answersFor_ofList (bindings : List (String × Provider)) :
    Registry.AnswersFor (.ofList bindings) bindings where
  nodup_names := (Bindings.ofList bindings).distinct
  mem_names_iff := Bindings.mem_names_ofList bindings
  in_order := Bindings.pairwise_names_ofList bindings
  length_eq := Bindings.length_ofList bindings
  get?_eq_some_iff := Bindings.get?_ofList_eq_some_iff bindings
  get?_eq_none_iff name := by
    rw [Bindings.get?_eq_none_iff, Bindings.mem_names_ofList]
  get?_own name := by
    rw [Bindings.get?_ofList, Bindings.get?_ofList, List.filter_filter]
    simp only [Bool.and_self]

section

variable (registry : Registry) (name : String) (roles : List Role)
  (given : Option ClientConfiguration) (service : Service σ) (w : World σ)

/-- A profile that is based on a name resolves as the name is looked up. -/
theorem result_resolve_named :
    ((Profile.resolve ⟨.named name, roles⟩ registry given).perform service w).result =
      match registry.get? name with
      | some provider => .ok ⟨provider, roles.map Hop.ofRole⟩
      | none => .error (Failure.unknownSource name).alone := by
  rw [Profile.perform_resolve]
  simp only [Base.provider?]
  cases registry.get? name <;> rfl

theorem exists_resolve_named_iff :
    (∃ c, ((Profile.resolve ⟨.named name, roles⟩ registry given).perform service w).result = .ok c ∧
      registry.get? name = some c.base) ↔ name ∈ registry.names := by
  rw [result_resolve_named, ← not_iff_not, ← Bindings.get?_eq_none_iff]
  cases registry.get? name with
  | none => simp
  | some provider => simp

theorem resolve_named_refused_iff :
    ((Profile.resolve ⟨.named name, roles⟩ registry given).perform service w).result =
      .error (Failure.unknownSource name).alone ↔ name ∉ registry.names := by
  rw [result_resolve_named, ← Bindings.get?_eq_none_iff]
  cases registry.get? name <;> simp

end

/-- A registry that is made of bindings, after earlier ones or not, gives the answers of the bindings
whatever is done to the mapping later. That a name is known, that a provider is found under it, that
it is listed, and that a profile which is based on it resolves to a chain on that very provider, is
one and the same; a profile that is based on any other name is refused by that name. -/
theorem answers_agree (bindings : List (String × Provider)) (later : List RegistryAct)
    (earlier : List Registry) :
    ∃ registry,
      let registrar := RegistryAct.after (RegistryAct.binds bindings ++ .register :: later)
        ⟨.empty, earlier⟩
      registrar.registries[earlier.length]? = some registry ∧
      registry.AnswersFor bindings ∧
      ∀ (name : String) (roles : List Role) (given : Option ClientConfiguration)
        (service : Service σ) (w : World σ),
        let built := (Profile.resolve ⟨.named name, roles⟩ registry given).perform service w
        (registry.contains name = true ↔ registry.get? name ≠ none) ∧
        (registry.get? name ≠ none ↔ name ∈ registry.names) ∧
        (name ∈ registry.names ↔
          ∃ c, built.result = .ok c ∧ registry.get? name = some c.base) ∧
        (name ∉ registry.names ↔ built.result = .error (Failure.unknownSource name).alone) := by
  refine ⟨.ofList bindings, RegistryAct.registries_register bindings later earlier,
    answersFor_ofList bindings, fun name roles given service w => ?_⟩
  intro built
  have hfound : (Bindings.ofList bindings).get? name ≠ none ↔
      name ∈ (Bindings.ofList bindings).names := by
    rw [ne_eq, Bindings.get?_eq_none_iff, not_not]
  refine ⟨?_, hfound, ?_, ?_⟩
  · rw [hfound, Bindings.contains_eq_true_iff]
  · exact (exists_resolve_named_iff _ name roles given service w).symm
  · exact (resolve_named_refused_iff _ name roles given service w).symm

/-- A name that is bound twice, beside another that differs in a letter's case, and is taken out of
the mapping after the registry has been made. -/
theorem answers_agree_unbound :
    let p (id : String) : Provider := .static { accessKeyId := id, secretAccessKey := "" }
    let bindings := [("Web", p "1"), ("web", p "2"), ("Web", p "3")]
    let later : List RegistryAct := [.unbind "Web", .bind "WEB" (p "4"), .register]
    let registrar := RegistryAct.after (RegistryAct.binds bindings ++ .register :: later) ⟨.empty, []⟩
    registrar.mapping.names = ["web", "WEB"] ∧
      ∃ registry, registrar.registries[0]? = some registry ∧ registry.names = ["Web", "web"] ∧
        registry.get? "Web" = some (p "3") ∧ registry.get? "WEB" = none := by
  intro p bindings later registrar
  obtain ⟨registry, hmade, hanswers, -⟩ := @answers_agree Unit bindings later []
  have hregistry : registry = .ofList bindings := Option.some.inj (hmade.symm.trans rfl)
  refine ⟨rfl, registry, hmade, ?_, ?_, ?_⟩
  · rw [hregistry]
    rfl
  · exact (hanswers.get?_eq_some_iff "Web" (p "3")).mpr
      ⟨[("Web", p "1"), ("web", p "2")], [], rfl, List.not_mem_nil⟩
  · exact (hanswers.get?_eq_none_iff "WEB").mpr (by decide)

end Registry

end RoleChain
