import RoleChain.Proofs.Answers

/-!
Two runs side by side. Runs are alike if they take the same steps whenever what they are told is
alike. Carried out in worlds that are alike, with services that answer alike call for call, they
leave the same records and end alike; nothing is asked of the services beyond these answers.
-/
namespace RoleChain

/-- What a run is told by services: why there is no client, if there is none, or the reply to a
call. -/
inductive Heard where
  | client (refusal : Option Failure)
  | reply (reply : Reply)

section

variable [FieldRules]

namespace Reply

inductive Alike : Reply → Reply → Prop
  | data {value other : Datum} (h : Response.AnswersAlike value other) :
      Alike (.data value) (.data other)
  | failure (f : Failure) : Alike (.failure f) (.failure f)
  | silence : Alike .silence .silence

theorem Alike.outcome {reply other : Reply} (h : reply.Alike other) :
    ResultsAlike Response.AnswersAlike reply.outcome other.outcome := by
  cases h with
  | data h => exact .ok h
  | failure f => exact .error f
  | silence => exact .error _

end Reply

inductive Heard.Alike : Heard → Heard → Prop
  | client (refusal : Option Failure) : Alike (.client refusal) (.client refusal)
  | reply {r s : Reply} (h : r.Alike s) : Alike (.reply r) (.reply s)

theorem Heard.Alike.refusal_eq {refusal other : Option Failure}
    (h : (Heard.client refusal).Alike (.client other)) : refusal = other := by
  cases h
  rfl

theorem Heard.Alike.reply_alike {r s : Reply} (h : (Heard.reply r).Alike (.reply s)) :
    r.Alike s := by
  cases h with
  | reply h => exact h

/-- The same answers one by one, as far as both go. -/
def HeardAlike (heard others : List Heard) : Prop := ∀ p ∈ heard.zip others, p.1.Alike p.2

theorem HeardAlike.head {a b : Heard} {heard others : List Heard}
    (h : HeardAlike (a :: heard) (b :: others)) : a.Alike b :=
  h (a, b) List.mem_cons_self

theorem HeardAlike.tail {a b : Heard} {heard others : List Heard}
    (h : HeardAlike (a :: heard) (b :: others)) : HeardAlike heard others :=
  fun p hp => h p (List.mem_cons_of_mem _ hp)

end

variable {σ τ α β γ δ : Type}

/-- All that a run is told by services, in order. -/
def Run.heard (service : Service σ) : Run α → World σ → List Heard
  | done _, _ => []
  | raise _, _ => []
  | log _ next, w => next.heard service w
  | environment next, w => (next w.environment).heard service w
  | settings next, w =>
    let (s, store) := w.settings.read
    (next s).heard service { w with settings := store }
  | file path next, w => (next (w.files.read path)).heard service w
  | suffix next, w =>
    let (drawn, source) := w.suffixes.next
    (next drawn).heard service { w with suffixes := source }
  | client name arguments next, w =>
    let refusal := service.refusal (w.services name) arguments
    .client refusal :: (next refusal).heard service w
  | call transport c next, w =>
    let (reply, state) := service.answer (w.services transport.service) c
    .reply reply :: (next reply.outcome).heard service (w.withService transport.service state)

/-- A run that goes on is told what its parts are told. -/
theorem Run.heard_bind (service : Service σ) (run : Run α) (f : α → Run β) (w : World σ) :
    (run.bind f).heard service w = run.heard service w ++
      match (run.perform service w).result with
      | .ok value => (f value).heard service (run.perform service w).world
      | .error _ => [] := by
  induction run generalizing w with
  | done | raise => rfl
  | log record next ih => exact ih w
  | environment next ih => exact ih _ w
  | settings next ih => exact ih _ _
  | file path next ih => exact ih _ w
  | suffix next ih => exact ih _ _
  | client name arguments next ih => exact congrArg (_ :: ·) (ih _ w)
  | call transport c next ih => exact congrArg (_ :: ·) (ih _ _)

/-- Whether a run is told nothing by services, since it asks them for nothing. -/
def Run.AsksNothing (run : Run α) : Prop :=
  ∀ (σ : Type) (service : Service σ) (w : World σ), run.heard service w = []

theorem Run.AsksNothing.bind {run : Run α} {f : α → Run β} (h : run.AsksNothing)
    (hnext : ∀ value, (f value).AsksNothing) : (run.bind f).AsksNothing := by
  intro σ service w
  rw [Run.heard_bind, h, List.nil_append]
  split
  · exact hnext _ _ _ _
  · rfl

/-- Worlds with the same variables and files up to secrets. The states of their services need not
have anything in common. -/
structure World.Alike (w : World σ) (v : World τ) : Prop where
  environment : w.environment.Alike v.environment
  files : w.files.Alike v.files
  settings_eq : w.settings = v.settings
  suffixes_eq : w.suffixes = v.suffixes

theorem World.Alike.withService {w : World σ} {v : World τ} (h : w.Alike v) (name : ServiceName)
    (state : σ) (state' : τ) : (w.withService name state).Alike (v.withService name state') :=
  ⟨h.environment, h.files, h.settings_eq, h.suffixes_eq⟩

/-- What is seen of two runs is the same, and what they leave is alike. -/
structure Ran.Alike (same : α → β → Prop) (ran : Ran σ α) (other : Ran τ β) : Prop where
  records_eq : ran.records = other.records
  result : ResultsAlike same ran.result other.result
  world : ran.world.Alike other.world

theorem Ran.Alike.mono {same weaker : α → β → Prop} {ran : Ran σ α} {other : Ran τ β}
    (h : ran.Alike same other) (hmono : ∀ a b, same a b → weaker a b) : ran.Alike weaker other :=
  ⟨h.records_eq, h.result.mono hmono, h.world⟩

def Event.record? : Event → Option Record
  | logged record => some record
  | drew _ | client .. | called .. => none

theorem Ran.records_after (event : Event) (ran : Ran σ α) :
    (ran.after event).records = event.record?.toList ++ ran.records := by
  cases event <;> rfl

/-- Events that are the same record, or none, change nothing. -/
theorem Ran.Alike.after {same : α → β → Prop} {ran : Ran σ α} {other : Ran τ β}
    (h : ran.Alike same other) {event event' : Event} (hevent : event.record? = event'.record?) :
    (ran.after event).Alike same (other.after event') := by
  refine ⟨?_, h.result, h.world⟩
  rw [Ran.records_after, Ran.records_after, hevent, h.records_eq]

variable [FieldRules]

/-- Runs that take the same steps whenever what they are told is alike. -/
inductive Run.Alike (same : α → β → Prop) : Run α → Run β → Prop
  | done {a : α} {b : β} (h : same a b) : Alike same (.done a) (.done b)
  | raise (raised : Raised) : Alike same (.raise raised) (.raise raised)
  | log (record : Record) {next : Run α} {next' : Run β} (h : Alike same next next') :
      Alike same (.log record next) (.log record next')
  | environment {next : Environment → Run α} {next' : Environment → Run β}
      (h : ∀ env other, env.Alike other → Alike same (next env) (next' other)) :
      Alike same (.environment next) (.environment next')
  | settings {next : Settings → Run α} {next' : Settings → Run β}
      (h : ∀ s, Alike same (next s) (next' s)) :
      Alike same (.settings next) (.settings next')
  | file (path : Path) {next : Except FileError (List UInt8) → Run α}
      {next' : Except FileError (List UInt8) → Run β}
      (h : ∀ content other, ResultsAlike Text.ContentsAlike content other →
        Alike same (next content) (next' other)) :
      Alike same (.file path next) (.file path next')
  | suffix {next : Except Failure String → Run α} {next' : Except Failure String → Run β}
      (h : ∀ drawn, Alike same (next drawn) (next' drawn)) :
      Alike same (.suffix next) (.suffix next')
  | client (name : ServiceName) (arguments arguments' : ClientArguments)
      {next : Option Failure → Run α} {next' : Option Failure → Run β}
      (h : ∀ refusal, Alike same (next refusal) (next' refusal)) :
      Alike same (.client name arguments next) (.client name arguments' next')
  | call (transport : Transport) (c d : Call) {next : Except Failure Datum → Run α}
      {next' : Except Failure Datum → Run β}
      (h : ∀ answer other, ResultsAlike Response.AnswersAlike answer other →
        Alike same (next answer) (next' other)) :
      Alike same (.call transport c next) (.call transport d next')

namespace Run.Alike

variable {same : α → β → Prop} {also : γ → δ → Prop} {run : Run α} {run' : Run β}

theorem bind (h : run.Alike same run') {f : α → Run γ} {g : β → Run δ}
    (hnext : ∀ a b, same a b → (f a).Alike also (g b)) :
    (run.bind f).Alike also (run'.bind g) := by
  induction h with
  | done h => exact hnext _ _ h
  | raise raised => exact .raise raised
  | log record _ ih => exact .log record ih
  | environment _ ih => exact .environment ih
  | settings _ ih => exact .settings ih
  | file path _ ih => exact .file path ih
  | suffix _ ih => exact .suffix ih
  | client name arguments arguments' _ ih => exact .client name arguments arguments' ih
  | call transport c d _ ih => exact .call transport c d ih

theorem rescue (h : run.Alike same run') {f : Raised → Run α} {g : Raised → Run β}
    (hhandler : ∀ raised, (f raised).Alike same (g raised)) :
    (run.rescue f).Alike same (run'.rescue g) := by
  induction h with
  | done h => exact .done h
  | raise raised => exact hhandler raised
  | log record _ ih => exact .log record ih
  | environment _ ih => exact .environment ih
  | settings _ ih => exact .settings ih
  | file path _ ih => exact .file path ih
  | suffix _ ih => exact .suffix ih
  | client name arguments arguments' _ ih => exact .client name arguments arguments' ih
  | call transport c d _ ih => exact .call transport c d ih

/-- Runs that are alike, carried out where what they are told is alike. -/
theorem perform (h : run.Alike same run') {service : Service σ} {service' : Service τ}
    {w : World σ} {v : World τ} (hworld : w.Alike v)
    (hheard : HeardAlike (run.heard service w) (run'.heard service' v)) :
    (run.perform service w).Alike same (run'.perform service' v) := by
  -- Every step keeps the worlds alike and takes off the first of what both are told.
  induction h generalizing w v with
  | done h => exact ⟨rfl, .ok h, hworld⟩
  | raise raised => exact ⟨rfl, .error raised, hworld⟩
  | log record _ ih => exact (ih hworld hheard).after rfl
  | environment _ ih => exact ih _ _ hworld.environment hworld hheard
  | settings _ ih =>
    obtain ⟨henvironment, hfiles, hsettings, hsuffixes⟩ := hworld
    simp only [Run.heard, hsettings] at hheard
    simp only [Run.perform, hsettings]
    have hnext : World.Alike { w with settings := v.settings.read.2 }
        { v with settings := v.settings.read.2 } := ⟨henvironment, hfiles, rfl, hsuffixes⟩
    exact ih _ hnext hheard
  | file path _ ih => exact ih _ _ (hworld.files path) hworld hheard
  | suffix _ ih =>
    obtain ⟨henvironment, hfiles, hsettings, hsuffixes⟩ := hworld
    simp only [Run.heard, hsuffixes] at hheard
    simp only [Run.perform, hsuffixes]
    have hnext : World.Alike { w with suffixes := v.suffixes.next.2 }
        { v with suffixes := v.suffixes.next.2 } := ⟨henvironment, hfiles, hsettings, rfl⟩
    exact (ih _ hnext hheard).after rfl
  | @client name arguments arguments' next next' _ ih =>
    have hrefusal : service.refusal (w.services name) arguments =
        service'.refusal (v.services name) arguments' := hheard.head.refusal_eq
    have hlater := hheard.tail
    simp only [Run.perform]
    rw [hrefusal] at hlater ⊢
    exact (ih _ hworld hlater).after rfl
  | call transport c d _ ih =>
    have hreply := hheard.head.reply_alike
    have hnext := hworld.withService transport.service
      (service.answer (w.services transport.service) c).2
      (service'.answer (v.services transport.service) d).2
    exact (ih _ _ hreply.outcome hnext hheard.tail).after rfl

end Run.Alike

end RoleChain
