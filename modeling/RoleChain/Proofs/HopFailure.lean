import RoleChain.LaxFields
import RoleChain.Proofs.HopSteps
import RoleChain.Sts.Script

/-!
Failures of a chain. A failing hop is named by its position, which is the number of hops that
succeeded before it, and by nothing that the failure of the transport says of itself; whatever the
transport raises is the cause. The failure of a base passes through a chain as it is.
-/
namespace RoleChain

/-- The words that a position adds to a failure. -/
def Failure.positionText (index : Nat) : String :=
  " (after " ++ toString index ++ " successful hops)"

theorem Failure.hopText_index (index : Nat) :
    hopText (some (index : Int)) = positionText index := by
  have hdigits : Decimal.intText (index : Int) = toString index := by
    have hnonneg : ¬ (index : Int) < 0 := by omega
    simp only [Decimal.intText, hnonneg, if_false, Int.natAbs_natCast, Decimal.digitText]
    exact Nat.toString_eq_ofList_toDigits.symm
  rw [hopText, hdigits, positionText]

namespace Failure

theorem message_provider (cause : Failure) (name : String) (role : Option String)
    (hop : Option Int) :
    (provider cause name role hop).message =
      name ++ " failed to load credentials" ++ roleText role ++ ": " ++ cause.message ++
        hopText hop := rfl

theorem message_invalidResponse (reason : String) (role : Option String) (hop : Option Int) :
    (invalidResponse reason role hop).message = reason ++ roleText role ++ hopText hop := rfl

/-- A position is told after all that is told without it. -/
theorem message_provider_index (cause : Failure) (name : String) (role : Option String)
    (index : Nat) :
    (provider cause name role (some (index : Int))).message =
      (provider cause name role none).message ++ positionText index := by
  rw [message_provider, message_provider, hopText_index]
  exact congrArg (· ++ positionText index) (String.append_empty).symm

theorem message_invalidResponse_index (reason : String) (role : Option String) (index : Nat) :
    (invalidResponse reason role (some (index : Int))).message =
      (invalidResponse reason role none).message ++ positionText index := by
  rw [message_invalidResponse, message_invalidResponse, hopText_index]
  exact congrArg (· ++ positionText index) (String.append_empty).symm

end Failure

section

variable [FieldRules] {σ : Type}

/-- A chain comes to the attempt at a position: the chain of the hops before it ends in the
credentials of the caller, and leaves the state and the suffix that the attempt starts from. -/
structure ComesTo (route : Route σ) (base : Run Credentials) (hops : List Hop) (w : World σ)
    (k : Nat) (a : Attempt σ) : Prop where
  hop_eq : hops[k]? = some a.hop
  before : ∃ v events, (executeFrom base (hops.take k) (some route.configuration)).perform
      route.service w = ⟨.ok a.caller, v, events⟩ ∧
    v.suffixes.stream v.suffixes.position = .ok a.suffix ∧
    v.services route.transport.service = a.state

namespace ComesTo

variable {route : Route σ} {base : Run Credentials} {hops : List Hop} {w : World σ} {k : Nat}
  {a : Attempt σ}

theorem perform_refused (h : ComesTo route base hops w k a) {raised : Raised}
    (hresult : a.result route = .error raised) :
    let earlier := (executeFrom base (hops.take k) (some route.configuration)).perform
      route.service w
    ∃ v, (executeFrom base hops (some route.configuration)).perform route.service w =
      ⟨.error (raised.atHop k), v,
        earlier.events ++ (a.events route ++ a.hop.warnings k raised)⟩ := by
  intro earlier
  obtain ⟨v, events, hbefore, hsuffix, hstate⟩ := h.before
  obtain ⟨hk, hget⟩ := List.getElem?_eq_some_iff.mp h.hop_eq
  have hsplit : hops = hops.take k ++ a.hop :: hops.drop (k + 1) := by
    rw [← hget, List.getElem_cons_drop hk, List.take_append_drop]
  have hlength : (hops.take k).length = k := by
    rw [List.length_take]
    omega
  have hstep := a.perform_credentials route hsuffix hstate
  rw [hresult] at hstep
  have hran : (executeFrom base (hops.take k ++ a.hop :: hops.drop (k + 1))
      (some route.configuration)).perform route.service w =
      ⟨.error (raised.atHop k), a.worldAfter route v,
        events ++ (a.events route ++ a.hop.warnings k raised)⟩ := by
    rw [executeFrom_append, Run.perform_bind, hbefore, Ran.andThen_ok, hlength,
      perform_assumeAll_failed _ _ hstep]
  rw [← hsplit] at hran
  have hevents : earlier.events = events := congrArg Ran.events hbefore
  rw [hevents]
  exact ⟨a.worldAfter route v, hran⟩

theorem result_refused (h : ComesTo route base hops w k a) {raised : Raised}
    (hresult : a.result route = .error raised) :
    ((executeFrom base hops (some route.configuration)).perform route.service w).result =
      .error (raised.atHop k) := by
  obtain ⟨v, hran⟩ := h.perform_refused hresult
  rw [hran]

theorem result_issued (h : ComesTo route base hops w k a) {c : Credentials}
    (hissued : a.issued? route = some c) :
    ((executeFrom base (hops.take (k + 1)) (some route.configuration)).perform
      route.service w).result = .ok c := by
  obtain ⟨v, events, hbefore, hsuffix, hstate⟩ := h.before
  have hstep := a.perform_credentials route hsuffix hstate
  rw [(a.result_eq_ok_iff route c).mpr hissued] at hstep
  rw [List.take_add_one, h.hop_eq, Option.toList_some, executeFrom_append, Run.perform_bind,
    hbefore, Ran.andThen_ok, perform_assumeAll_assumed _ _ hstep]
  rfl

end ComesTo

theorem exists_comesTo {route : Route σ} {base : Run Credentials} {hops : List Hop} {w : World σ}
    (h : w.suffixes.NeverFails) {k : Nat} (hk : k < hops.length) {caller : Credentials}
    (hcaller : ((executeFrom base (hops.take k) (some route.configuration)).perform
      route.service w).result = .ok caller) :
    ∃ a, ComesTo route base hops w k a := by
  let cut := (executeFrom base (hops.take k) (some route.configuration)).perform route.service w
  obtain ⟨suffix, hsuffix⟩ :=
    h.of_stream (Run.perform_stream route.service _ w) cut.world.suffixes.position
  refine ⟨⟨hops[k], caller, suffix, cut.world.services route.transport.service⟩, ?_, ?_⟩
  · exact List.getElem?_eq_getElem hk
  · exact ⟨cut.world, cut.events, by rw [← hcaller], hsuffix, rfl⟩

/-- A chain with a working base ends in credentials, or it comes to an attempt that is issued
none. -/
theorem exists_refused (route : Route σ) (base : Run Credentials) (hops : List Hop) {w : World σ}
    (h : w.suffixes.NeverFails) {first : Credentials}
    (hfirst : (base.perform route.service w).result = .ok first) :
    (∃ c, ((executeFrom base hops (some route.configuration)).perform route.service w).result =
      .ok c) ∨ ∃ k a, ComesTo route base hops w k a ∧ a.issued? route = none := by
  by_cases hrefused : ∃ k a, ComesTo route base hops w k a ∧ a.issued? route = none
  · exact Or.inr hrefused
  left
  have hcut : ∀ k, k ≤ hops.length → ∃ c,
      ((executeFrom base (hops.take k) (some route.configuration)).perform route.service w).result =
        .ok c := by
    intro k
    induction k with
    | zero =>
      intro _
      refine ⟨first, ?_⟩
      rw [List.take_zero, perform_executeFrom_loaded _ _ base [] hfirst]
      rfl
    | succ k ih =>
      intro hk
      obtain ⟨caller, hcaller⟩ := ih (by omega)
      obtain ⟨a, hcomes⟩ := exists_comesTo h (show k < hops.length by omega) hcaller
      cases hissued : a.issued? route with
      | some c => exact ⟨c, hcomes.result_issued hissued⟩
      | none => exact absurd ⟨k, a, hcomes, hissued⟩ hrefused
  obtain ⟨c, hc⟩ := hcut hops.length (Nat.le_refl _)
  rw [List.take_length] at hc
  exact ⟨c, hc⟩

namespace Attempt

variable (a : Attempt σ) (route : Route σ)

/-- Whether the transport raised an exception, that is, any failure other than a cancellation. -/
def RaisedException (e : Failure) : Prop := a.outcome route = .error e ∧ e.isCancellation = false

/-- Whether the transport returned a response without credentials. -/
def RespondedEmpty : Prop := ∃ user, a.outcome route = .ok ⟨none, user⟩

variable {a : Attempt σ} {route : Route σ} (k : Nat)

theorem atHop_of_raisedException {e : Failure} (h : a.RaisedException route e) :
    (a.result route).mapError (Raised.atHop k) =
      .error ⟨.provider e Hop.providerName (some a.hop.roleArn) (some k), some e⟩ := by
  simp only [result, h.1, mapError_error, Failure.wrapped, h.2]
  rfl

theorem atHop_of_respondedEmpty (h : a.RespondedEmpty route) :
    (a.result route).mapError (Raised.atHop k) =
      let reason := "STS credentials must be defined"
      .error ⟨.invalidResponse reason (some a.hop.roleArn) (some k),
        some (.invalidResponse reason (some a.hop.roleArn) none)⟩ := by
  obtain ⟨user, houtcome⟩ := h
  simp only [result, houtcome, Credentials.ofIssued, mapError_error]
  rfl

theorem atHop_of_cancellation {e : Failure} (h : a.outcome route = .error e)
    (hcancel : e.isCancellation = true) :
    (a.result route).mapError (Raised.atHop k) = .error e.alone := by
  cases e <;> try cases hcancel
  simp only [result, h, mapError_error]
  rfl

/-- An attempt that is issued no credentials has met an exception, an empty response, or a
cancellation. -/
theorem cases_of_refused (h : a.issued? route = none) :
    (∃ e, a.RaisedException route e) ∨ a.RespondedEmpty route ∨
      ∃ e, a.outcome route = .error e ∧ e.isCancellation = true := by
  unfold issued? at h
  cases houtcome : a.outcome route with
  | error e =>
    cases hcancel : e.isCancellation with
    | false => exact Or.inl ⟨e, houtcome, hcancel⟩
    | true => exact Or.inr (Or.inr ⟨e, rfl, hcancel⟩)
  | ok response =>
    obtain ⟨_ | block, user⟩ := response
    · exact Or.inr (Or.inl ⟨user, houtcome⟩)
    · rw [houtcome] at h
      cases h

end Attempt

/-- How a chain ends when the attempt at a position is issued no credentials. -/
structure FailsAs (route : Route σ) (k : Nat) (a : Attempt σ) (result : Except Raised Credentials) :
    Prop where
  provider_iff :
    (∃ cause name role hop source, result = .error ⟨.provider cause name role hop, source⟩) ↔
      ∃ e, a.RaisedException route e
  provider_eq : ∀ e, a.RaisedException route e →
    let untagged := Failure.provider e "AssumeRoleProvider" (some a.hop.roleArn) none
    let tagged := Failure.provider e "AssumeRoleProvider" (some a.hop.roleArn) (some k)
    result = .error ⟨tagged, some e⟩ ∧
      tagged.message = untagged.message ++ Failure.positionText k
  invalidResponse_iff :
    (∃ reason role hop source, result = .error ⟨.invalidResponse reason role hop, source⟩) ↔
      a.RespondedEmpty route
  invalidResponse_eq : a.RespondedEmpty route →
    let reason := "STS credentials must be defined"
    let untagged := Failure.invalidResponse reason (some a.hop.roleArn) none
    let tagged := Failure.invalidResponse reason (some a.hop.roleArn) (some k)
    result = .error ⟨tagged, some untagged⟩ ∧
      tagged.message = untagged.message ++ Failure.positionText k

theorem failsAs_atHop (route : Route σ) (k : Nat) {a : Attempt σ}
    (h : a.issued? route = none) :
    FailsAs route k a ((a.result route).mapError (Raised.atHop k)) := by
  have hprovider {e : Failure} (he : a.RaisedException route e) :=
    Attempt.atHop_of_raisedException k he
  have hempty (he : a.RespondedEmpty route) := Attempt.atHop_of_respondedEmpty k he
  constructor
  · constructor
    · rintro ⟨cause, name, role, hop, source, hraised⟩
      rcases Attempt.cases_of_refused h with he | he | ⟨e, he, hcancel⟩
      · exact he
      · rw [hempty he] at hraised
        cases hraised
      · rw [Attempt.atHop_of_cancellation k he hcancel] at hraised
        cases hraised
        cases hcancel
    · rintro ⟨e, he⟩
      exact ⟨_, _, _, _, _, hprovider he⟩
  · intro e he
    exact ⟨hprovider he, Failure.message_provider_index _ _ _ _⟩
  · constructor
    · rintro ⟨reason, role, hop, source, hraised⟩
      rcases Attempt.cases_of_refused h with ⟨e, he⟩ | he | ⟨e, he, hcancel⟩
      · rw [hprovider he] at hraised
        cases hraised
      · exact he
      · rw [Attempt.atHop_of_cancellation k he hcancel] at hraised
        cases hraised
        cases hcancel
    · intro he
      exact ⟨_, _, _, _, hempty he⟩
  · intro he
    exact ⟨hempty he, Failure.message_invalidResponse_index _ _ _⟩

/-- A failing chain fails as its base does, or else at the first hop that is issued nothing: with
the exception of the transport as the cause, or for want of credentials in a response, and in
either case at the position of the hop. -/
theorem executeFrom_failure (route : Route σ) (base : Run Credentials) (hops : List Hop)
    (w : World σ) (h : w.suffixes.NeverFails) :
    let loaded := base.perform route.service w
    let ran := (executeFrom base hops (some route.configuration)).perform route.service w
    (∀ raised, loaded.result = .error raised → ran.result = .error raised) ∧
    (∀ first, loaded.result = .ok first → (∃ c, ran.result = .ok c) ∨
      ∃ k a, ComesTo route base hops w k a ∧ a.issued? route = none) ∧
    ∀ k a, ComesTo route base hops w k a → a.issued? route = none →
      FailsAs route k a ran.result := by
  intro loaded ran
  refine ⟨?_, fun first hfirst => exists_refused route base hops h hfirst, ?_⟩
  · intro raised hraised
    exact congrArg Ran.result (perform_executeFrom_failed _ _ base hops hraised)
  · intro k a hcomes hrefused
    obtain ⟨raised, hraised⟩ := (a.issued?_eq_none_iff route).mp hrefused
    have hresult : ran.result = (a.result route).mapError (Raised.atHop k) := by
      rw [hraised]
      exact hcomes.result_refused hraised
    rw [hresult]
    exact failsAs_atHop route k hrefused

end

attribute [local instance] FieldRules.lax

/-- The second of two hops fails with an exception that tells of a position of its own. -/
theorem executeFrom_failure_second :
    let raised : Failure := .provider (.unreachable "sts") "P" none (some 7)
    let script : Script := { roles := [("b", .always (.fail raised))] }
    let route : Route ScriptState :=
      { service := ScriptState.service, transport := ⟨.standard, .direct⟩ }
    let base : Run Credentials := .done { accessKeyId := "id", secretAccessKey := "secret" }
    let hops : List Hop := [{ roleArn := "a" }, { roleArn := "b" }]
    let w := World.bare "1" (ScriptState.start script)
    let a : Attempt ScriptState := {
      hop := { roleArn := "b" }
      caller := {
        accessKeyId := "ASIA-a"
        secretAccessKey := "secret-a"
        sessionToken := some "token-a"
        expiry := some Script.echoExpiration
        providerName := "AssumeRoleProvider" }
      suffix := "1"
      state := ScriptState.start script }
    w.suffixes.NeverFails ∧ ComesTo route base hops w 1 a ∧ a.issued? route = none ∧
      FailsAs route 1 a
        ((executeFrom base hops (some route.configuration)).perform route.service w).result := by
  intro raised script route base hops w a
  have hdraws := SuffixSource.neverFails_constant "1"
  have hcomes : ComesTo route base hops w 1 a := ⟨rfl, _, _, rfl, rfl, rfl⟩
  have hrefused : a.issued? route = none := rfl
  exact ⟨hdraws, hcomes, hrefused,
    (executeFrom_failure route base hops w hdraws).2.2 1 a hcomes hrefused⟩

end RoleChain
