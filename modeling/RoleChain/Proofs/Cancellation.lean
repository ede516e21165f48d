import RoleChain.LaxFields
import RoleChain.Proofs.Errands
import RoleChain.Proofs.TwoRuns
import RoleChain.Sts.Script

/-!
Cancellation. A run that is cancelled while it waits for a service is the run that it would have
been, up to there: it has made the same calls and left the same records, and it ends at once with
the cancellation itself. No chain around it puts another failure in its place, warns of it or goes
on to a later hop.
-/
namespace RoleChain

variable {σ τ α β : Type}

def Heard.failure? : Heard → Option Failure
  | client refusal => refusal
  | reply r =>
    match r.outcome with
    | .ok _ => none
    | .error failure => some failure

theorem Heard.outcome_of_failure? {r : Reply} {failure : Failure}
    (h : (Heard.reply r).failure? = some failure) : r.outcome = .error failure := by
  cases r <;> cases h <;> rfl

def World.withServices (w : World σ) (services : ServiceName → τ) : World τ :=
  ⟨w.environment, w.files, w.settings, w.suffixes, services⟩

theorem Run.heard_call (service : Service σ) (transport : Transport) (c : Call)
    (next : Except Failure Datum → Run α) (w : World σ) :
    (call transport c next).heard service w =
      let answered := service.answer (w.services transport.service) c
      .reply answered.1 :: (next answered.1.outcome).heard service
        (w.withService transport.service answered.2) := rfl

/-! ### Runs cut short -/

/-- A run that was cancelled when it had been told a number of things by services: it has done what
the other run did up to its next request of a service, and this request was its last. -/
def Ran.CutsShort (cut : Ran τ α) (ran : Ran σ α) (told : Nat) (arguments : List Datum) : Prop :=
  cut.result = .error (Failure.cancelled arguments).alone ∧
    ∃ before last after, cut.events = before ++ [last] ∧ ran.events = before ++ last :: after ∧
      last.isCall = true ∧ (before.filter Event.isCall).length = told ∧
      ∀ record, .logged record ∈ before → record.level ≠ .warning

namespace Ran.CutsShort

variable {cut : Ran τ α} {ran : Ran σ α} {told : Nat} {arguments : List Datum}

theorem of_last {last : Event} (hresult : cut.result = .error (Failure.cancelled arguments).alone)
    (hevents : cut.events = []) (hlast : last.isCall = true) :
    (cut.after last).CutsShort (ran.after last) 0 arguments := by
  refine ⟨hresult, [], last, ran.events, ?_, rfl, hlast, rfl, ?_⟩
  · exact congrArg (last :: ·) hevents
  · exact fun record h => nomatch h

theorem after (h : cut.CutsShort ran told arguments) {event : Event}
    (hevent : ∀ record, event = .logged record → record.level ≠ .warning) :
    (cut.after event).CutsShort (ran.after event)
      (if event.isCall then told + 1 else told) arguments := by
  obtain ⟨hresult, before, last, after, hevents, hevents', hlast, hlength, hwarning⟩ := h
  refine ⟨hresult, event :: before, last, after, ?_, ?_, hlast, ?_, ?_⟩
  · exact congrArg (event :: ·) hevents
  · exact congrArg (event :: ·) hevents'
  · cases hcall : event.isCall <;> simp [hcall, hlength]
  · intro record hrecord
    rcases List.mem_cons.mp hrecord with heq | hbefore
    · exact hevent record heq.symm
    · exact hwarning record hbefore

end Ran.CutsShort

/-- Where something is told after the same first answer, the rest is told after it. -/
theorem Heard.tails_eq {first x y a b : Heard} {told later later' rest rest' : List Heard}
    (h : a :: rest = first :: told ++ x :: later) (h' : b :: rest' = first :: told ++ y :: later') :
    a = b ∧ rest = told ++ x :: later ∧ rest' = told ++ y :: later' := by
  rw [List.cons_append, List.cons.injEq] at h h'
  exact ⟨h.1.trans h'.1.symm, h.2, h'.2⟩

namespace Run.Along

/-- A run that has ended is told nothing. -/
theorem nothing_told {told later : List Heard} {x : Heard} (h : [] = told ++ x :: later) : False :=
  List.append_ne_nil_of_right_ne_nil told (List.cons_ne_nil x later) h.symm

variable [FieldRules] {plan : List Errand} {done : Nat} {run : Run Credentials} {past : History}

/-- A run that has warned, or has been told of a cancellation, does nothing more but fail. -/
theorem ends_of_isOver (h : run.Along (KeepsTo plan) (Fails plan true) past (IsReady plan done))
    (hover : past.isOver = true) (service : Service σ) (w : World σ) :
    run.heard service w = [] ∧
      ∃ raised, run.perform service w = ⟨.error raised, w, []⟩ ∧ Fails plan true raised past := by
  have hright {act : Act} (hact : KeepsTo plan past act) : False :=
    Bool.false_ne_true (hact.goesOn.symm.trans hover)
  -- No act is right any more, so the run may look at variables and files and must then fail.
  induction run generalizing w with
  | done value => exact (Bool.false_ne_true (h.goesOn.symm.trans hover)).elim
  | raise raised => exact ⟨rfl, raised, rfl, h⟩
  | log record next ih => exact (hright h.1).elim
  | environment next ih => exact ih _ (h _) w
  | settings next ih => exact h.elim
  | file path next ih => exact ih _ (h.2 _) w
  | suffix next ih => exact (hright (h (.ok "")).1).elim
  | client name arguments next ih => exact (hright (h none).1).elim
  | call transport c next ih => exact (hright h.1).elim

/-- A run that has been told of a cancellation fails with it. -/
theorem perform_cancelled (h : run.Along (KeepsTo plan) (Fails plan true) past (IsReady plan done))
    {arguments : List Datum} (hcancelled : past.cancellation? = some arguments)
    (service : Service σ) (w : World σ) :
    run.heard service w = [] ∧
      run.perform service w = ⟨.error (Failure.cancelled arguments).alone, w, []⟩ := by
  have hover : past.isOver = true := by simp [History.isOver, hcancelled]
  obtain ⟨hheard, raised, hran, hfails⟩ := h.ends_of_isOver hover service w
  rw [hfails.cancelled arguments hcancelled] at hran
  exact ⟨hheard, hran⟩

/-- One run twice, with services that say the same until one of them cancels it. -/
theorem cut (h : run.Along (KeepsTo plan) (Fails plan true) past (IsReady plan done))
    (service : Service σ) (service' : Service τ) {w : World σ}
    {services : ServiceName → τ} {told later later' : List Heard} {x y : Heard}
    (hran : run.heard service w = told ++ x :: later)
    (hcut : run.heard service' (w.withServices services) = told ++ y :: later')
    {arguments : List Datum} (hcancelled : y.failure? = some (.cancelled arguments)) :
    later' = [] ∧ (run.perform service' (w.withServices services)).CutsShort
      (run.perform service w) told.length arguments := by
  induction run generalizing past w services told with
  | done value => exact (nothing_told hran).elim
  | raise raised => exact (nothing_told hran).elim
  | log record next ih =>
    obtain ⟨hlater, hshort⟩ := ih h.2 hran hcut
    refine ⟨hlater, hshort.after fun record' hrecord hlevel => ?_⟩
    -- A run that is told something later has not warned.
    cases hrecord
    have hover : History.isOver (.logged record :: past) = true := by
      simp [History.isOver, History.hasWarned, hlevel]
    obtain ⟨hnothing, -⟩ := h.2.ends_of_isOver hover service w
    rw [Run.heard, hnothing] at hran
    exact nothing_told hran
  | environment next ih => exact ih _ (h _) hran hcut
  | settings next ih => exact h.elim
  | file path next ih => exact ih _ (h.2 _) hran hcut
  | suffix next ih =>
    obtain ⟨hlater, hshort⟩ :=
      ih _ (w := { w with suffixes := w.suffixes.next.2 }) (h _).2 hran hcut
    refine ⟨hlater, hshort.after fun record hrecord => ?_⟩
    cases hrecord
  | client name clientArguments next ih =>
    simp only [Run.heard, Run.perform] at hran hcut ⊢
    generalize service.refusal (w.services name) clientArguments = refusal at hran ⊢
    generalize service'.refusal ((w.withServices services).services name) clientArguments =
      refusal' at hcut ⊢
    cases told with
    | nil =>
      obtain ⟨rfl, rfl⟩ := List.cons.inj hcut
      cases hcancelled
      obtain ⟨hnothing, hran⟩ := (h (some (.cancelled arguments))).2.perform_cancelled rfl service'
        (w.withServices services)
      rw [hnothing, hran]
      exact ⟨rfl, .of_last rfl rfl rfl⟩
    | cons first told =>
      obtain ⟨hsame, hran, hcut⟩ := Heard.tails_eq hran hcut
      cases hsame
      obtain ⟨hlater, hshort⟩ := ih _ (h _).2 hran hcut
      refine ⟨hlater, hshort.after fun record hrecord => ?_⟩
      cases hrecord
  | call transport c next ih =>
    rw [heard_call] at hran hcut
    rw [perform_call, perform_call]
    generalize service.answer (w.services transport.service) c = answered at hran ⊢
    generalize service'.answer ((w.withServices services).services transport.service) c =
      answered' at hcut ⊢
    obtain ⟨reply, state⟩ := answered
    obtain ⟨reply', state'⟩ := answered'
    dsimp only at hran hcut ⊢
    cases told with
    | nil =>
      obtain ⟨rfl, rfl⟩ := List.cons.inj hcut
      obtain ⟨hnothing, hran⟩ := (h.2 (.error (.cancelled arguments))).2.perform_cancelled rfl
        service' ((w.withServices services).withService transport.service state')
      rw [Heard.outcome_of_failure? hcancelled, hnothing, hran]
      exact ⟨rfl, .of_last rfl rfl rfl⟩
    | cons first told =>
      obtain ⟨hsame, hran, hcut⟩ := Heard.tails_eq hran hcut
      cases hsame
      obtain ⟨hlater, hshort⟩ := ih _ (h.2 _).2 hran hcut
      refine ⟨hlater, hshort.after fun record hrecord => ?_⟩
      cases hrecord

end Run.Along

namespace Provider

attribute [local instance] FieldRules.lax

/-- A chain is cancelled as its provider is. -/
example (c : ProviderChain) (configuration : Option ClientConfiguration) :
    c.execute configuration = (c.provider configuration).provide := rfl

end Provider

end RoleChain
