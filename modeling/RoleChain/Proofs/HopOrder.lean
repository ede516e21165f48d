import Mathlib.Data.List.Chain
import RoleChain.LaxFields
import RoleChain.Proofs.HopSteps
import RoleChain.Sts.Script

/-!
The order of the hops. Whatever the service answers, the hops of a chain are attempted one after
another as they are declared, each by the credentials that the one before it was issued, and the
first that is issued none is the last. The base is carried out before them and never again.
-/
namespace RoleChain

section

variable [FieldRules] {σ : Type}

/-- Attempts at hops in their order, the first by a given caller in a given state of the service,
each other one by the credentials that the one before was issued, in the state that it left. They
end with the hops or with an attempt that is issued none. -/
structure InTurn (route : Route σ) (hops : List Hop) (first : Credentials) (state : σ)
    (attempts : List (Attempt σ)) : Prop where
  hop_eq : attempts.map Attempt.hop = hops.take attempts.length
  start : ∀ a ∈ attempts.head?, a.caller = first ∧ a.state = state
  next : attempts.IsChain fun a b => a.issued? route = some b.caller ∧ a.next route = b.state
  stop : attempts.length = hops.length ∨ ∃ a ∈ attempts.getLast?, a.issued? route = none

namespace InTurn

variable {route : Route σ} {hops : List Hop} {first : Credentials} {state : σ}
  {attempts : List (Attempt σ)}

theorem nil (route : Route σ) (first : Credentials) (state : σ) :
    InTurn route [] first state [] := by
  refine ⟨rfl, ?_, List.isChain_nil, Or.inl rfl⟩
  intro a ha
  cases ha

theorem refused {a : Attempt σ} (h : a.issued? route = none) (hops : List Hop) :
    InTurn route (a.hop :: hops) a.caller a.state [a] := by
  refine ⟨rfl, ?_, List.isChain_singleton a, Or.inr ⟨a, rfl, h⟩⟩
  intro b hb
  cases hb
  exact ⟨rfl, rfl⟩

theorem cons {a : Attempt σ} (ha : a.issued? route = some first)
    (h : InTurn route hops first (a.next route) attempts) :
    InTurn route (a.hop :: hops) a.caller a.state (a :: attempts) := by
  refine ⟨?_, ?_, ?_, ?_⟩
  · simp only [List.map_cons, List.length_cons, List.take_succ_cons, h.hop_eq]
  · intro b hb
    cases hb
    exact ⟨rfl, rfl⟩
  · rw [List.isChain_cons]
    refine ⟨?_, h.next⟩
    intro b hb
    obtain ⟨hcaller, hstate⟩ := h.start b hb
    exact ⟨by rw [ha, hcaller], hstate.symm⟩
  · rcases h.stop with hlength | ⟨b, hb, hnone⟩
    · exact Or.inl (by simp only [List.length_cons, hlength])
    · exact Or.inr ⟨b, List.mem_getLast?_cons hb, hnone⟩

end InTurn

namespace Attempt

/-- The record that an attempt leaves at its position. -/
def verdict (route : Route σ) (index : Nat) (a : Attempt σ) : List Event :=
  match a.result route with
  | .ok credentials => [a.hop.assumedEvent credentials]
  | .error raised => a.hop.warnings index raised

/-- All that is seen of attempts of which the first has the given position. -/
def seen (route : Route σ) (index : Nat) (attempts : List (Attempt σ)) : List Event :=
  (attempts.zipIdx index).flatMap fun p => p.1.events route ++ p.1.verdict route p.2

/-- What comes of attempts of which the first has the given position: what came of the last. -/
def ending (route : Route σ) (index : Nat) (first : Credentials) (attempts : List (Attempt σ)) :
    Except Raised Credentials :=
  match (attempts.zipIdx index).getLast? with
  | none => .ok first
  | some (a, i) => (a.result route).mapError (Raised.atHop i)

theorem filter_seen (route : Route σ) (index : Nat) (attempts : List (Attempt σ)) :
    (seen route index attempts).filter Event.isCall =
      attempts.flatMap fun a => a.calls route := by
  induction attempts generalizing index with
  | nil => rfl
  | cons a rest ih =>
    have hverdict : (a.verdict route index).filter Event.isCall = [] := by
      unfold verdict
      split
      · rfl
      · exact Hop.filter_warnings _ _ _
    have hrest := ih (index + 1)
    unfold seen at hrest ⊢
    simp only [List.zipIdx_cons, List.flatMap_cons, List.filter_append, filter_events, hverdict,
      List.append_nil, hrest]

theorem ending_cons (route : Route σ) (index : Nat) {a : Attempt σ} {first : Credentials}
    (h : a.result route = .ok first) (rest : List (Attempt σ)) (c : Credentials) :
    ending route index c (a :: rest) = ending route (index + 1) first rest := by
  unfold ending
  cases rest with
  | nil => simp [h, mapError_ok]
  | cons b rest => simp only [List.zipIdx_cons, List.getLast?_cons, Option.getD_some]

end Attempt

/-- Whether a result is what attempts at hops lead to: the credentials of the last hop, those at the
start if there is no hop, or a failure if the last attempt is issued none. -/
def AgreesWith (route : Route σ) (hops : List Hop) (first : Credentials)
    (attempts : List (Attempt σ)) (result : Except Raised Credentials) : Prop :=
  match attempts.getLast? with
  | none => hops = [] ∧ result = .ok first
  | some last =>
    match last.issued? route with
    | some c => attempts.length = hops.length ∧ result = .ok c
    | none => ∃ raised, result = .error raised

namespace InTurn

variable {route : Route σ} {hops : List Hop} {first : Credentials} {state : σ}
  {attempts : List (Attempt σ)}

theorem agreesWith_ending (h : InTurn route hops first state attempts) (index : Nat) :
    AgreesWith route hops first attempts (Attempt.ending route index first attempts) := by
  unfold AgreesWith Attempt.ending
  rw [List.getLast?_zipIdx]
  cases hlast : attempts.getLast? with
  | none =>
    have hnil : attempts = [] := List.getLast?_eq_none_iff.mp hlast
    subst hnil
    refine ⟨?_, rfl⟩
    rcases h.stop with hlength | ⟨a, ha, -⟩
    · exact List.length_eq_zero_iff.mp hlength.symm
    · cases ha
  | some last =>
    dsimp only [Option.map_some]
    cases hissued : last.issued? route with
    | some c =>
      have hresult := (last.result_eq_ok_iff route c).mpr hissued
      refine ⟨?_, by rw [hresult]; rfl⟩
      rcases h.stop with hlength | ⟨a, ha, hnone⟩
      · exact hlength
      · rw [hlast] at ha
        cases ha
        rw [hissued] at hnone
        cases hnone
    | none =>
      obtain ⟨raised, hresult⟩ := (last.issued?_eq_none_iff route).mp hissued
      exact ⟨_, by rw [hresult]; rfl⟩

end InTurn

/-- The hops of a chain are carried out as attempts in turn. -/
theorem perform_assumeAll (route : Route σ) (hops : List Hop) (index : Nat) (first : Credentials)
    {w : World σ} (h : w.suffixes.NeverFails) :
    ∃ attempts v, InTurn route hops first (w.services route.transport.service) attempts ∧
      (assumeAll (some route.configuration) index hops first).perform route.service w =
        ⟨Attempt.ending route index first attempts, v, Attempt.seen route index attempts⟩ := by
  induction hops generalizing index first w with
  | nil => exact ⟨[], w, InTurn.nil _ _ _, rfl⟩
  | cons hop hops ih =>
    obtain ⟨suffix, hsuffix⟩ := h w.suffixes.position
    let a : Attempt σ := ⟨hop, first, suffix, w.services route.transport.service⟩
    have hstep := a.perform_credentials route hsuffix rfl
    cases hresult : a.result route with
    | error raised =>
      have hnone : a.issued? route = none := (a.issued?_eq_none_iff route).mpr ⟨raised, hresult⟩
      refine ⟨[a], a.worldAfter route w, InTurn.refused hnone hops, ?_⟩
      rw [perform_assumeAll_failed _ _ (hstep.trans (by rw [hresult]))]
      simp only [Attempt.ending, Attempt.seen, Attempt.verdict, List.zipIdx_cons,
        List.zipIdx_nil, List.getLast?_singleton, List.flatMap_cons, List.flatMap_nil,
        List.append_nil, hresult, mapError_error]
    | ok assumed =>
      have hissued := (a.result_eq_ok_iff route assumed).mp hresult
      obtain ⟨attempts, v, hturn, hrun⟩ := ih (index + 1) assumed
        (h.of_stream (a.worldAfter_stream route w))
      rw [a.worldAfter_state route w] at hturn
      refine ⟨a :: attempts, v, InTurn.cons hissued hturn, ?_⟩
      rw [perform_assumeAll_assumed _ _ (hstep.trans (by rw [hresult])), hrun,
        Attempt.ending_cons route index hresult]
      simp only [Attempt.seen, Attempt.verdict, List.zipIdx_cons, List.flatMap_cons, hresult,
        List.append_assoc, List.singleton_append]

/-- After the base, whose failure ends the chain at once, the service sees the attempts at the hops
and no other call. The base may be any run; a `ProviderChain` is executed from the run of its
base. -/
theorem executeFrom_in_turn (route : Route σ) (base : Run Credentials) (hops : List Hop)
    (w : World σ) (h : w.suffixes.NeverFails) :
    let loaded := base.perform route.service w
    let ran := (executeFrom base hops (some route.configuration)).perform route.service w
    (∀ raised, loaded.result = .error raised →
      ran = ⟨.error raised, loaded.world, loaded.events⟩) ∧
    ∀ first, loaded.result = .ok first → ∃ attempts later,
      InTurn route hops first (loaded.world.services route.transport.service) attempts ∧
      ran.events = loaded.events ++ later ∧
      later.filter Event.isCall = attempts.flatMap (fun a => a.calls route) ∧
      AgreesWith route hops first attempts ran.result := by
  intro loaded ran
  refine ⟨fun raised hfailed => perform_executeFrom_failed _ _ base hops hfailed, ?_⟩
  intro first hfirst
  have hran := perform_executeFrom_loaded route.service (some route.configuration) base hops hfirst
  obtain ⟨attempts, v, hturn, hrun⟩ := perform_assumeAll route hops 0 first
    (h.of_stream (base.perform_stream route.service w))
  rw [hrun] at hran
  refine ⟨attempts, loadedEvent first :: Attempt.seen route 0 attempts, hturn, ?_, ?_, ?_⟩
  · exact congrArg Ran.events hran
  · exact Attempt.filter_seen route 0 attempts
  · have hresult : ran.result = Attempt.ending route 0 first attempts := congrArg Ran.result hran
    rw [hresult]
    exact hturn.agreesWith_ending 0

end

attribute [local instance] FieldRules.lax

/-- Three hops of which the service refuses the second. -/
theorem executeFrom_in_turn_refused :
    let script : Script := { roles := [("b", .always (.fail (.unreachable "sts")))] }
    let route : Route ScriptState :=
      { service := ScriptState.service, transport := ⟨.standard, .direct⟩, region := some "r" }
    let base : Run Credentials := .done { accessKeyId := "id", secretAccessKey := "secret" }
    let hops : List Hop := [{ roleArn := "a" }, { roleArn := "b" }, { roleArn := "c" }]
    let w := World.bare "1" (ScriptState.start script)
    let first : Credentials := { accessKeyId := "id", secretAccessKey := "secret" }
    let ran := (executeFrom base hops (some route.configuration)).perform route.service w
    w.suffixes.NeverFails ∧ ∃ attempts later,
      InTurn route hops first (ScriptState.start script) attempts ∧
      ran.events = later ∧
      later.filter Event.isCall = attempts.flatMap (fun a => a.calls route) ∧
      AgreesWith route hops first attempts ran.result := by
  intro script route base hops w first ran
  have hdraws := SuffixSource.neverFails_constant "1"
  exact ⟨hdraws, (executeFrom_in_turn route base hops w hdraws).2 first rfl⟩

end RoleChain
