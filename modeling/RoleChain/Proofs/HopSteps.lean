import RoleChain.Proofs.Attempt

/-!
Steps of a chain. After the base the hops take their steps in order, and a failing step ends the
chain with its failure placed at its position. A chain that is cut in two is its first part and
then its second, the positions of the second counted on.
-/
namespace RoleChain

/-- The failure as it leaves a chain at a position. -/
def Raised.atHop (index : Nat) (raised : Raised) : Raised :=
  match raised.failure with
  | .provider cause name role _ => ⟨.provider cause name role (some index), some cause⟩
  | .invalidResponse reason role hop =>
    ⟨.invalidResponse reason role (some index), some (.invalidResponse reason role hop)⟩
  | _ => raised

namespace Hop

/-- The warning that a failing step leaves. -/
def warnings (hop : Hop) (index : Nat) (raised : Raised) : List Event :=
  let place := hop.roleArn ++ " at hop " ++ Decimal.digitText index
  match raised.failure with
  | .provider .. => [.logged ⟨.warning, Logger.execution, "failed to assume role " ++ place⟩]
  | .invalidResponse .. =>
    [.logged ⟨.warning, Logger.execution, "invalid response assuming role " ++ place⟩]
  | _ => []

/-- The record that a successful step leaves. -/
def assumedEvent (hop : Hop) (credentials : Credentials) : Event :=
  .logged ⟨.debug, Logger.execution, "assumed role " ++ hop.roleArn ++ ": " ++ credentials.text⟩

theorem filter_warnings (hop : Hop) (index : Nat) (raised : Raised) :
    (hop.warnings index raised).filter Event.isCall = [] := by
  unfold warnings
  split <;> rfl

variable {σ : Type}

theorem perform_failAt (hop : Hop) (index : Nat) (raised : Raised) (service : Service σ)
    (w : World σ) :
    (hop.failAt index raised).perform service w =
      ⟨.error (raised.atHop index), w, hop.warnings index raised⟩ := by
  obtain ⟨failure, source⟩ := raised
  cases failure <;> rfl

end Hop

def loadedEvent (credentials : Credentials) : Event :=
  .logged ⟨.debug, Logger.execution, "loaded base credentials: " ++ credentials.text⟩

section

variable [FieldRules] {σ : Type} (service : Service σ) (configuration : Option ClientConfiguration)

theorem perform_assumeAll_failed {hop : Hop} {caller : Credentials} {w v : World σ}
    {raised : Raised} {events : List Event}
    (h : (hop.credentials caller configuration).perform service w = ⟨.error raised, v, events⟩)
    (index : Nat) (hops : List Hop) :
    (assumeAll configuration index (hop :: hops) caller).perform service w =
      ⟨.error (raised.atHop index), v, events ++ hop.warnings index raised⟩ := by
  change (((hop.credentials caller configuration).rescue (hop.failAt index)).bind _).perform
    service w = _
  rw [Run.perform_bind, Run.perform_rescue, h, Ran.orElse_error, Hop.perform_failAt,
    Ran.andThen_error]

/-- After a successful step the chain goes on with the credentials of its role. -/
theorem perform_assumeAll_assumed {hop : Hop} {caller assumed : Credentials} {w v : World σ}
    {events : List Event}
    (h : (hop.credentials caller configuration).perform service w = ⟨.ok assumed, v, events⟩)
    (index : Nat) (hops : List Hop) :
    (assumeAll configuration index (hop :: hops) caller).perform service w =
      let later := (assumeAll configuration (index + 1) hops assumed).perform service v
      ⟨later.result, later.world, events ++ hop.assumedEvent assumed :: later.events⟩ := by
  change (((hop.credentials caller configuration).rescue (hop.failAt index)).bind
    fun c => (Run.record .debug Logger.execution _).bind fun _ =>
      assumeAll configuration (index + 1) hops c).perform service w = _
  rw [Run.perform_bind, Run.perform_rescue, h, Ran.orElse_ok, Ran.andThen_ok]
  rfl

variable (base : Run Credentials) (hops : List Hop) {w : World σ}

theorem perform_executeFrom_failed {raised : Raised}
    (h : (base.perform service w).result = .error raised) :
    (executeFrom base hops configuration).perform service w =
      ⟨.error raised, (base.perform service w).world, (base.perform service w).events⟩ := by
  change (base.bind _).perform service w = _
  rw [Run.perform_bind]
  simp only [Ran.andThen, h]

theorem perform_executeFrom_loaded {first : Credentials}
    (h : (base.perform service w).result = .ok first) :
    (executeFrom base hops configuration).perform service w =
      let later := (assumeAll configuration 0 hops first).perform service
        (base.perform service w).world
      ⟨later.result, later.world,
        (base.perform service w).events ++ loadedEvent first :: later.events⟩ := by
  change (base.bind fun c => (Run.record .debug Logger.execution _).bind fun _ =>
    assumeAll configuration 0 hops c).perform service w = _
  rw [Run.perform_bind]
  simp only [Ran.andThen, h]
  rfl

end

theorem assumeAll_append [FieldRules] (configuration : Option ClientConfiguration) (index : Nat)
    (xs ys : List Hop) (c : Credentials) :
    assumeAll configuration index (xs ++ ys) c =
      (assumeAll configuration index xs c).bind
        (assumeAll configuration (index + xs.length) ys) := by
  induction xs generalizing index c with
  | nil => rfl
  | cons hop xs ih =>
    have hlength : index + (hop :: xs).length = index + 1 + xs.length := by
      simp only [List.length_cons]
      omega
    change Run.bind _ (fun assumed => Run.bind _ fun _ =>
      assumeAll configuration (index + 1) (xs ++ ys) assumed) = Run.bind (Run.bind _ fun assumed =>
        Run.bind _ fun _ => assumeAll configuration (index + 1) xs assumed) _
    simp only [Run.bind_assoc, ih, hlength]

/-- A chain that is cut in two. -/
theorem executeFrom_append [FieldRules] (base : Run Credentials) (xs ys : List Hop)
    (configuration : Option ClientConfiguration) :
    executeFrom base (xs ++ ys) configuration =
      (executeFrom base xs configuration).bind (assumeAll configuration xs.length ys) := by
  change Run.bind base (fun c => Run.bind _ fun _ => assumeAll configuration 0 (xs ++ ys) c) =
    Run.bind (Run.bind base fun c => Run.bind _ fun _ => assumeAll configuration 0 xs c) _
  simp only [Run.bind_assoc, assumeAll_append, Nat.zero_add]

end RoleChain
