import Mathlib.Data.List.Induction
import RoleChain.Proofs.HopSteps

/-!
Nested chains. A chain whose base is a chain does what the flat chain of all their hops does, to
any depth: it makes the same calls and draws the same suffixes, and it ends alike. A failing hop is
named by its position within its own level, where the flat chain counts the hops of the levels
below as well. Only the records differ, since each level tells of its base.
-/
namespace RoleChain

/-- Whether something is done, and not merely told in a record. -/
def Event.isDeed : Event → Bool
  | logged _ => false
  | drew _ | client .. | called .. => true

/-- What a run has drawn and called, in order. -/
def Ran.deeds {σ α : Type} (ran : Ran σ α) : List Event := ran.events.filter Event.isDeed

namespace Hop

theorem deeds_warnings (hop : Hop) (index : Nat) (raised : Raised) :
    (hop.warnings index raised).filter Event.isDeed = [] := by
  unfold warnings
  split <;> rfl

end Hop

/-- A failure without its position: its kind, its cause, its role and its provider, and what it was
raised from. -/
def Raised.unplaced (raised : Raised) : Raised :=
  match raised.failure with
  | .provider cause name role _ => ⟨.provider cause name role none, raised.source⟩
  | .invalidResponse reason role _ => ⟨.invalidResponse reason role none, raised.source⟩
  | _ => raised

theorem Raised.unplaced_atHop (raised : Raised) (i k : Nat) :
    (raised.atHop i).unplaced = (raised.atHop k).unplaced := by
  obtain ⟨failure, source⟩ := raised
  cases failure <;> rfl

variable [FieldRules]

/-- Chains on top of each other, each level the base of the next one. -/
def executeLevels (base : Run Credentials) (levels : List (List Hop))
    (configuration : Option ClientConfiguration) : Run Credentials :=
  levels.foldl (fun run hops => executeFrom run hops configuration) base

/-- The provider of chains on top of each other. -/
def Provider.nest (base : Provider) (levels : List (List Hop))
    (configuration : Option ClientConfiguration) : Provider :=
  levels.foldl (fun provider hops => .chain provider hops configuration) base

theorem Provider.provide_nest (base : Provider) (levels : List (List Hop))
    (configuration : Option ClientConfiguration) :
    (base.nest levels configuration).provide =
      executeLevels base.provide levels configuration := by
  induction levels generalizing base with
  | nil => rfl
  | cons hops levels ih => exact ih (.chain base hops configuration)

example (base : Provider) (xs ys : List Hop) (configuration : Option ClientConfiguration) :
    (base.nest [xs, ys] configuration).provide =
      ProviderChain.execute ⟨(ProviderChain.mk base xs).provider configuration, ys⟩ configuration :=
  rfl

variable {σ : Type}

/-- How the same hops end when they are counted from two positions. -/
inductive EndsShifted (service : Service σ) (configuration : Option ClientConfiguration)
    (i k : Nat) (hops : List Hop) (c : Credentials) (w : World σ) :
    Except Raised Credentials → Except Raised Credentials → Prop
  | issued (d : Credentials) : EndsShifted service configuration i k hops c w (.ok d) (.ok d)
  | failed {j : Nat} {hop : Hop} {caller : Credentials} {v : World σ} {events : List Event}
      {raised : Raised} (hop_eq : hops[j]? = some hop)
      (before : (assumeAll configuration i (hops.take j) c).perform service w =
        ⟨.ok caller, v, events⟩)
      (step : ((hop.credentials caller configuration).perform service v).result = .error raised) :
      EndsShifted service configuration i k hops c w (.error (raised.atHop (i + j)))
        (.error (raised.atHop (k + j)))

/-- A step that both have taken before. -/
theorem EndsShifted.after {service : Service σ} {configuration : Option ClientConfiguration}
    {i k : Nat} {hop : Hop} {hops : List Hop} {c assumed : Credentials} {w v : World σ}
    {events : List Event} {one other : Except Raised Credentials}
    (h : EndsShifted service configuration (i + 1) (k + 1) hops assumed v one other)
    (hstep : (hop.credentials c configuration).perform service w = ⟨.ok assumed, v, events⟩) :
    EndsShifted service configuration i k (hop :: hops) c w one other := by
  cases h with
  | issued d => exact .issued d
  | @failed j last caller u later raised hhop hbefore hlast =>
    have hi : i + 1 + j = i + (j + 1) := by omega
    have hk : k + 1 + j = k + (j + 1) := by omega
    rw [hi, hk]
    have hcut : (assumeAll configuration i ((hop :: hops).take (j + 1)) c).perform service w =
        ⟨.ok caller, u, events ++ hop.assumedEvent assumed :: later⟩ := by
      rw [List.take_succ_cons, perform_assumeAll_assumed _ _ hstep, hbefore]
    exact .failed hhop hcut hlast

/-- Counting from another position changes nothing but the position of a failure. -/
theorem assumeAll_shifted (service : Service σ) (configuration : Option ClientConfiguration)
    (i k : Nat) (hops : List Hop) (c : Credentials) (w : World σ) :
    let one := (assumeAll configuration i hops c).perform service w
    let other := (assumeAll configuration k hops c).perform service w
    one.world = other.world ∧ one.deeds = other.deeds ∧
      EndsShifted service configuration i k hops c w one.result other.result := by
  induction hops generalizing i k c w with
  | nil => exact ⟨rfl, rfl, .issued c⟩
  | cons hop hops ih =>
    intro one other
    cases hstep : (hop.credentials c configuration).perform service w with
    | mk result v events =>
    cases result with
    | error raised =>
      have hone : one = _ := perform_assumeAll_failed service configuration hstep i hops
      have hother : other = _ := perform_assumeAll_failed service configuration hstep k hops
      rw [hone, hother]
      refine ⟨rfl, ?_, ?_⟩
      · simp only [Ran.deeds, List.filter_append, Hop.deeds_warnings]
      · exact .failed (j := 0) rfl rfl (congrArg Ran.result hstep)
    | ok assumed =>
      have hone : one = _ := perform_assumeAll_assumed service configuration hstep i hops
      have hother : other = _ := perform_assumeAll_assumed service configuration hstep k hops
      obtain ⟨hworld, hdeeds, hends⟩ := ih (i + 1) (k + 1) assumed v
      rw [hone, hother]
      refine ⟨hworld, ?_, hends.after hstep⟩
      simp only [Ran.deeds, List.filter_append]
      exact congrArg (events.filter Event.isDeed ++ ·) hdeeds

/-- How nested chains and their flat form end. A failing hop has a position in its level, to which
the flat form adds the hops of the levels below. -/
inductive EndsAlike (service : Service σ) (configuration : Option ClientConfiguration)
    (base : Run Credentials) (levels : List (List Hop)) (w : World σ) :
    Except Raised Credentials → Except Raised Credentials → Prop
  | issued (c : Credentials) :
      EndsAlike service configuration base levels w (.ok c) (.ok c)
  | baseFailed {raised : Raised} (base_eq : (base.perform service w).result = .error raised) :
      EndsAlike service configuration base levels w (.error raised) (.error raised)
  | hopFailed {level j : Nat} {hops : List Hop} {hop : Hop} {caller : Credentials} {v : World σ}
      {events : List Event} {raised : Raised} (level_eq : levels[level]? = some hops)
      (hop_eq : hops[j]? = some hop)
      (before : (executeFrom (executeLevels base (levels.take level) configuration) (hops.take j)
        configuration).perform service w = ⟨.ok caller, v, events⟩)
      (step : ((hop.credentials caller configuration).perform service v).result = .error raised) :
      EndsAlike service configuration base levels w (.error (raised.atHop j))
        (.error (raised.atHop ((levels.take level).flatten.length + j)))

theorem executeLevels_concat (base : Run Credentials) (levels : List (List Hop))
    (hops : List Hop) (configuration : Option ClientConfiguration) :
    executeLevels base (levels ++ [hops]) configuration =
      executeFrom (executeLevels base levels configuration) hops configuration := by
  simp only [executeLevels, List.foldl_append, List.foldl_cons, List.foldl_nil]

namespace EndsAlike

variable {service : Service σ} {configuration : Option ClientConfiguration}
  {base : Run Credentials} {levels : List (List Hop)} {hops : List Hop} {w v : World σ}
  {one other : Except Raised Credentials}

/-- Nested chains and their flat form end in the same credentials, or in failures that differ in
nothing but their positions. -/
theorem unplaced_eq (h : EndsAlike service configuration base levels w one other) :
    one.mapError Raised.unplaced = other.mapError Raised.unplaced := by
  cases h with
  | issued c => rfl
  | baseFailed hbase => rfl
  | @hopFailed level j hops hop caller v events raised hlevel hhop hbefore hstep =>
    exact congrArg Except.error (raised.unplaced_atHop j _)

theorem concat {raised raised' : Raised}
    (h : EndsAlike service configuration base levels w (.error raised) (.error raised')) :
    EndsAlike service configuration base (levels ++ [hops]) w (.error raised)
      (.error raised') := by
  cases h with
  | baseFailed hbase => exact .baseFailed hbase
  | @hopFailed level j xs hop caller v events raised hlevel hhop hbefore hstep =>
    have hlt : level < levels.length := (List.getElem?_eq_some_iff.mp hlevel).1
    have htake : (levels ++ [hops]).take level = levels.take level :=
      List.take_append_of_le_length (Nat.le_of_lt hlt)
    rw [← htake] at hbefore ⊢
    refine .hopFailed ?_ hhop hbefore hstep
    rw [List.getElem?_append_left hlt]
    exact hlevel

/-- A failure, or none, at the level on top of all others. -/
theorem of_shifted {c : Credentials} {events : List Event}
    (hlevels : (executeLevels base levels configuration).perform service w = ⟨.ok c, v, events⟩)
    (h : EndsShifted service configuration 0 levels.flatten.length hops c v one other) :
    EndsAlike service configuration base (levels ++ [hops]) w one other := by
  cases h with
  | issued d => exact .issued d
  | @failed j hop caller u later raised hhop hbefore hstep =>
    have htake : (levels ++ [hops]).take levels.length = levels := List.take_left
    have hcut : (executeFrom (executeLevels base ((levels ++ [hops]).take levels.length)
        configuration) (hops.take j) configuration).perform service w =
        ⟨.ok caller, u, events ++ loadedEvent c :: later⟩ := by
      rw [htake, perform_executeFrom_loaded _ _ _ _ (congrArg Ran.result hlevels), hlevels,
        hbefore]
    have hlevel : (levels ++ [hops])[levels.length]? = some hops := by simp
    have hends : EndsAlike service configuration base (levels ++ [hops]) w
        (.error (raised.atHop j)) (.error (raised.atHop
          (((levels ++ [hops]).take levels.length).flatten.length + j))) :=
      .hopFailed hlevel hhop hcut hstep
    rw [htake] at hends
    rw [Nat.zero_add]
    exact hends

end EndsAlike

/-- What nested chains and their flat form have in common. -/
structure FlattensTo (service : Service σ) (configuration : Option ClientConfiguration)
    (base : Run Credentials) (levels : List (List Hop)) (w : World σ)
    (nested flat : Ran σ Credentials) : Prop where
  world_eq : nested.world = flat.world
  deeds_eq : nested.deeds = flat.deeds
  ends : EndsAlike service configuration base levels w nested.result flat.result
  unplaced_eq : nested.result.mapError Raised.unplaced = flat.result.mapError Raised.unplaced

namespace FlattensTo

variable {service : Service σ} {configuration : Option ClientConfiguration}
  {base : Run Credentials} {levels : List (List Hop)} {w : World σ}
  {nested flat : Ran σ Credentials}

theorem of_ends (hworld : nested.world = flat.world) (hdeeds : nested.deeds = flat.deeds)
    (hends : EndsAlike service configuration base levels w nested.result flat.result) :
    FlattensTo service configuration base levels w nested flat :=
  ⟨hworld, hdeeds, hends, hends.unplaced_eq⟩

end FlattensTo

section

variable (service : Service σ) (base : Run Credentials) (configuration : Option ClientConfiguration)
  (w : World σ)

theorem executeLevels_flattensTo_nil :
    FlattensTo service configuration base [] w (base.perform service w)
      ((executeFrom base [] configuration).perform service w) := by
  cases hresult : (base.perform service w).result with
  | error raised =>
    rw [perform_executeFrom_failed service configuration base [] hresult]
    refine .of_ends rfl rfl ?_
    rw [hresult]
    exact .baseFailed hresult
  | ok c =>
    rw [perform_executeFrom_loaded service configuration base [] hresult]
    refine .of_ends rfl ?_ ?_
    · simp only [Ran.deeds, List.filter_append]
      exact (List.append_nil _).symm
    · rw [hresult]
      exact .issued c

/-- Induction on the levels from the innermost one on: the flat form of all of them is that of the
levels below, followed by the hops of the last. -/
theorem executeLevels_flattensTo (levels : List (List Hop)) :
    FlattensTo service configuration base levels w
      ((executeLevels base levels configuration).perform service w)
      ((executeFrom base levels.flatten configuration).perform service w) := by
  induction levels using List.reverseRecOn with
  | nil => exact executeLevels_flattensTo_nil service base configuration w
  | append_singleton levels hops ih =>
    have hflatten : (levels ++ [hops]).flatten = levels.flatten ++ hops := by simp
    rw [executeLevels_concat, hflatten, executeFrom_append, Run.perform_bind]
    obtain ⟨hworld, hdeeds, hends, -⟩ := ih
    generalize hflat : (executeFrom base levels.flatten configuration).perform service w = flat
      at hworld hdeeds hends ⊢
    obtain ⟨flatResult, v, flatEvents⟩ := flat
    cases hnested : (executeLevels base levels configuration).perform service w with
    | mk result _ events =>
    rw [hnested] at hworld hdeeds hends
    cases hworld
    have hresult : ((executeLevels base levels configuration).perform service w).result = result :=
      congrArg Ran.result hnested
    cases result with
    | error raised =>
      rw [perform_executeFrom_failed service configuration _ hops hresult, hnested]
      cases flatResult with
      | error raised' => exact .of_ends rfl hdeeds hends.concat
      | ok c => cases hends
    -- The last level counts its hops from zero, the flat form from the hops of the levels below.
    | ok c =>
      rw [perform_executeFrom_loaded service configuration _ hops hresult, hnested]
      cases hends
      obtain ⟨hworld, hlater, hshifted⟩ :=
        assumeAll_shifted service configuration 0 levels.flatten.length hops c v
      refine .of_ends hworld ?_ (.of_shifted hnested hshifted)
      simp only [Ran.deeds, Ran.andThen_ok, List.filter_append] at hdeeds hlater ⊢
      rw [hdeeds, ← hlater]
      rfl

end

/-- A provider of chains on top of each other loads its credentials as the flat chain of all their
hops does. -/
theorem Provider.nest_flattensTo (service : Service σ) (base : Provider) (levels : List (List Hop))
    (configuration : Option ClientConfiguration) (w : World σ) :
    FlattensTo service configuration base.provide levels w
      ((base.nest levels configuration).provide.perform service w)
      (((ProviderChain.mk base levels.flatten).execute configuration).perform service w) := by
  rw [Provider.provide_nest]
  exact executeLevels_flattensTo service base.provide configuration w levels

end RoleChain
