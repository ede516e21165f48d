import RoleChain.Gathering
import RoleChain.Proofs.Errands

/-!
Runs among others, one act at a time. Between any two acts of a run others may act; a call goes out in
one act and is answered in another. A run may be cancelled where it waits: for an answer, for a client
or for a file. A move changes one run only, and of the world only what the run draws and the services
that it calls. So what each run does is right in its turn, whoever else is there, and each draw is the
next suffix of the one source.
-/
namespace RoleChain

variable {σ α : Type}

/-! ### Moves -/

/-- A run on its way: it can go on, or it waits for the answer to a call that has gone out. -/
inductive Party (α : Type) where
  | going (rest : Run α)
  | waiting (transport : Transport) (call : Call) (next : Except Failure Datum → Run α)

/-- What is left of a run after one act, the world after it, and the act, unless the run has only
looked at the world or has ended before. -/
structure Step (σ α : Type) where
  party : Party α
  world : World σ
  act : Option Act

/-- The next act of a run. -/
def Run.step (service : Service σ) : Run α → World σ → Step σ α
  | done value, w => ⟨.going (done value), w, none⟩
  | raise raised, w => ⟨.going (raise raised), w, none⟩
  | log record next, w => ⟨.going next, w, some (.logged record)⟩
  | environment next, w => ⟨.going (next w.environment), w, none⟩
  | settings next, w =>
    ⟨.going (next w.settings.read.1), { w with settings := w.settings.read.2 }, none⟩
  | file path next, w => ⟨.going (next (w.files.read path)), w, none⟩
  | suffix next, w =>
    ⟨.going (next w.suffixes.next.1), { w with suffixes := w.suffixes.next.2 },
      some (.drew w.suffixes.next.1)⟩
  | client name arguments next, w =>
    let refusal := service.refusal (w.services name) arguments
    ⟨.going (next refusal), w, some (.client name arguments refusal)⟩
  | call transport c next, w => ⟨.waiting transport c next, w, some (.issued transport c)⟩

namespace Party

def step (service : Service σ) : Party α → World σ → Step σ α
  | going rest, w => rest.step service w
  | waiting transport call next, w =>
    let answered := service.answer (w.services transport.service) call
    ⟨.going (next answered.1.outcome), w.withService transport.service answered.2,
      some (.answered answered.1.outcome)⟩

/-- What a cancellation does to a run on its way. It answers a call that is waited for, and it is the
reason why there is no client where one is waited for; a run that waits for a file ends with it. It
strikes nowhere else. -/
def cancel : Party α → World σ → Step σ α
  | waiting _ _ next, w =>
    ⟨going (next (.error (.cancelled []))), w, some (.answered (.error (.cancelled [])))⟩
  | going (.client name arguments next), w =>
    ⟨going (next (some (.cancelled []))), w,
      some (.client name arguments (some (.cancelled [])))⟩
  | going (.file _ _), w => ⟨going (.fail (.cancelled [])), w, none⟩
  | going rest, w => ⟨going rest, w, none⟩

/-- The result of a run that has ended. -/
def result? : Party α → Option (Except Raised α)
  | going (.done value) => some (.ok value)
  | going (.raise raised) => some (.error raised)
  | _ => none

end Party

/-- Runs on their way by position, and what has been done, the latest first, with the position of
who did it. -/
structure Crowd (σ α : Type) where
  world : World σ
  parties : List (Party α)
  acts : List (Nat × Act) := []

/-- Who acts next, or is cancelled. -/
inductive Move where
  | turn (position : Nat)
  | cancel (position : Nat)
  deriving DecidableEq

namespace Move

def position : Move → Nat
  | turn position | cancel position => position

def step (service : Service σ) : Move → Party α → World σ → Step σ α
  | turn _ => Party.step service
  | cancel _ => Party.cancel

end Move

namespace Crowd

def start (world : World σ) (runs : List (Run α)) : Crowd σ α where
  world := world
  parties := runs.map .going

def move (service : Service σ) (crowd : Crowd σ α) (m : Move) : Crowd σ α :=
  match crowd.parties[m.position]? with
  | none => crowd
  | some party =>
    let step := m.step service party crowd.world
    ⟨step.world, crowd.parties.set m.position step.party,
      (step.act.map fun act => (m.position, act)).toList ++ crowd.acts⟩

def after (service : Service σ) (moves : List Move) (crowd : Crowd σ α) : Crowd σ α :=
  moves.foldl (move service) crowd

/-- What the run at a position has done. -/
def past (crowd : Crowd σ α) (position : Nat) : History :=
  crowd.acts.filterMap fun (n, act) => if n = position then some act else none

/-- What has been done by all. -/
def history (crowd : Crowd σ α) : History := crowd.acts.map Prod.snd

/-- The result of the run at a position, if it has ended. -/
def result? (crowd : Crowd σ α) (position : Nat) : Option (Except Raised α) :=
  crowd.parties[position]?.bind Party.result?

section

variable {service : Service σ} {crowd : Crowd σ α} {m : Move}

theorem move_of_none (h : crowd.parties[m.position]? = none) : crowd.move service m = crowd := by
  simp only [move, h]

theorem move_of_some {party : Party α} (h : crowd.parties[m.position]? = some party) :
    crowd.move service m =
      ⟨(m.step service party crowd.world).world,
        crowd.parties.set m.position (m.step service party crowd.world).party,
        ((m.step service party crowd.world).act.map fun act => (m.position, act)).toList ++
          crowd.acts⟩ := by
  simp only [move, h]

theorem length_parties_move : (crowd.move service m).parties.length = crowd.parties.length := by
  unfold move
  split
  · rfl
  · exact List.length_set

/-- The run that a move is about. -/
theorem parties_move_self {party : Party α} (h : crowd.parties[m.position]? = some party) :
    (crowd.move service m).parties[m.position]? =
      some (m.step service party crowd.world).party := by
  rw [move_of_some h]
  obtain ⟨hlt, -⟩ := List.getElem?_eq_some_iff.mp h
  exact List.getElem?_set_self hlt

theorem parties_move_other {i : Nat} (h : m.position ≠ i) :
    (crowd.move service m).parties[i]? = crowd.parties[i]? := by
  unfold move
  split
  · rfl
  · exact List.getElem?_set_ne h

theorem past_move_self {party : Party α} (h : crowd.parties[m.position]? = some party) :
    (crowd.move service m).past m.position =
      (m.step service party crowd.world).act.toList ++ crowd.past m.position := by
  rw [move_of_some h]
  simp only [past, List.filterMap_append]
  cases (m.step service party crowd.world).act <;> simp

theorem past_move_other {i : Nat} (h : m.position ≠ i) :
    (crowd.move service m).past i = crowd.past i := by
  unfold move
  split
  · rfl
  · next party hparty =>
    simp only [past, List.filterMap_append]
    cases (m.step service party crowd.world).act <;> simp [h]

theorem history_move {party : Party α} (h : crowd.parties[m.position]? = some party) :
    (crowd.move service m).history =
      (m.step service party crowd.world).act.toList ++ crowd.history := by
  rw [move_of_some h]
  simp only [history, List.map_append]
  cases (m.step service party crowd.world).act <;> simp

end

/-- What holds before any move and is kept by each holds after all. -/
theorem after_induction (service : Service σ) {motive : Crowd σ α → Prop} {crowd : Crowd σ α}
    (hstart : motive crowd) (moves : List Move)
    (hmove : ∀ crowd m, m ∈ moves → motive crowd → motive (crowd.move service m)) :
    motive (crowd.after service moves) := by
  induction moves generalizing crowd with
  | nil => exact hstart
  | cons m moves ih =>
    refine ih (hmove crowd m List.mem_cons_self hstart) fun crowd m' hm' => ?_
    exact hmove crowd m' (List.mem_cons_of_mem _ hm')

end Crowd

/-! ### Right acts -/

/-- Whether each act in a past was right in its turn. -/
def History.Throughout (right : History → Act → Prop) (past : History) : Prop :=
  ∀ act earlier, act :: earlier <:+ past → right earlier act

namespace History.Throughout

variable {right : History → Act → Prop} {past : History}

theorem nil : Throughout right [] := by
  intro act earlier h
  exact absurd (List.suffix_nil.mp h) (List.cons_ne_nil act earlier)

theorem cons_iff {act : Act} :
    Throughout right (act :: past) ↔ right past act ∧ Throughout right past := by
  constructor
  · intro h
    refine ⟨h act past (List.suffix_refl _), fun act' earlier hsuffix => ?_⟩
    exact h act' earlier (hsuffix.trans (List.suffix_cons _ _))
  · rintro ⟨hact, hpast⟩ act' earlier hsuffix
    rcases List.suffix_cons_iff.mp hsuffix with heq | hsuffix
    · cases heq
      exact hact
    · exact hpast act' earlier hsuffix

end History.Throughout

/-- What runs are held to: which acts are right in their turn, what holds when a run fails, and what
holds when it ends with a value. -/
structure Rule (α : Type) where
  right : History → Act → Prop
  fails : Raised → History → Prop
  ends : α → History → Prop

/-- Whether a run keeps to a rule from here on, whatever it is told. -/
def Rule.Binds (rule : Rule α) (run : Run α) (past : History) : Prop :=
  run.Along rule.right rule.fails past rule.ends

/-- Whether a run on its way keeps to a rule from here on; its past ends with the call if it waits for
an answer. -/
def Party.Along (rule : Rule α) (past : History) : Party α → Prop
  | going rest => rule.Binds rest past
  | waiting transport call next =>
    (∃ earlier, past = .issued transport call :: earlier ∧
      rule.right earlier (.issued transport call)) ∧
    ∀ answer, rule.right past (.answered answer) ∧
      rule.Binds (next answer) (.answered answer :: past)

/-- An act is right, and so is all that may come after it. -/
theorem Party.Along.step {rule : Rule α} {past : History} {party : Party α}
    (h : party.Along rule past) (m : Move) (service : Service σ) (w : World σ) :
    (∀ act ∈ (m.step service party w).act, rule.right past act) ∧
      (m.step service party w).party.Along rule ((m.step service party w).act.toList ++ past) := by
  cases m with
  | turn position =>
    cases party with
    | waiting transport call next =>
      refine ⟨fun act hact => ?_, (h.2 _).2⟩
      cases hact
      exact (h.2 _).1
    | going rest =>
      cases rest with
      | done | raise => exact ⟨fun act hact => (nomatch hact), h⟩
      | log record next =>
        refine ⟨fun act hact => ?_, h.2⟩
        cases hact
        exact h.1
      | environment next => exact ⟨fun act hact => (nomatch hact), h _⟩
      | settings next => exact h.elim
      | file path next => exact ⟨fun act hact => (nomatch hact), h.2 _⟩
      | suffix next =>
        refine ⟨fun act hact => ?_, (h _).2⟩
        cases hact
        exact (h _).1
      | client name arguments next =>
        refine ⟨fun act hact => ?_, (h _).2⟩
        cases hact
        exact (h _).1
      | call transport c next =>
        refine ⟨fun act hact => ?_, ⟨past, rfl, h.1⟩, h.2⟩
        cases hact
        exact h.1
  -- What a run is told of a cancellation is one of the answers that it keeps to its rule for.
  | cancel position =>
    cases party with
    | waiting transport call next =>
      refine ⟨fun act hact => ?_, (h.2 _).2⟩
      cases hact
      exact (h.2 _).1
    | going rest =>
      cases rest with
      | client name arguments next =>
        refine ⟨fun act hact => ?_, (h _).2⟩
        cases hact
        exact (h _).1
      | file path next => exact ⟨fun act hact => (nomatch hact), h.1⟩
      | done | raise | log | environment | settings | suffix | call =>
        exact ⟨fun act hact => (nomatch hact), h⟩

/-- Whether each run keeps to its rule, in what it has done and in what it may do. -/
def Crowd.Keeps (rules : Nat → Rule α) (crowd : Crowd σ α) : Prop :=
  ∀ i party, crowd.parties[i]? = some party →
    (crowd.past i).Throughout (rules i).right ∧ party.Along (rules i) (crowd.past i)

namespace Crowd.Keeps

variable {rules : Nat → Rule α} {crowd : Crowd σ α} {service : Service σ}

theorem move (h : crowd.Keeps rules) (m : Move) : (crowd.move service m).Keeps rules := by
  intro i party' hparty'
  by_cases hi : m.position = i
  · subst hi
    cases hparty : crowd.parties[m.position]? with
    | none =>
      rw [move_of_none hparty, hparty] at hparty'
      cases hparty'
    | some party =>
      obtain ⟨hpast, halong⟩ := h _ party hparty
      obtain ⟨hact, hafter⟩ := halong.step m service crowd.world
      rw [parties_move_self hparty] at hparty'
      cases hparty'
      rw [past_move_self hparty]
      refine ⟨?_, hafter⟩
      cases hdone : (m.step service party crowd.world).act with
      | none => exact hpast
      | some act => exact History.Throughout.cons_iff.mpr ⟨hact act hdone, hpast⟩
  · rw [parties_move_other hi] at hparty'
    rw [past_move_other hi]
    exact h i party' hparty'

theorem start {w : World σ} {runs : List (Run α)}
    (h : ∀ (i : Nat) (run : Run α), runs[i]? = some run → (rules i).Binds run []) :
    (Crowd.start w runs).Keeps rules := by
  intro i party hparty
  simp only [Crowd.start, List.getElem?_map, Option.map_eq_some_iff] at hparty
  obtain ⟨run, hrun, rfl⟩ := hparty
  exact ⟨.nil, h i run hrun⟩

/-- Whatever the moves, each run keeps to its rule. -/
theorem after {w : World σ} {runs : List (Run α)}
    (h : ∀ (i : Nat) (run : Run α), runs[i]? = some run → (rules i).Binds run [])
    (moves : List Move) : ((Crowd.start w runs).after service moves).Keeps rules :=
  after_induction service (start h) moves fun _ m _ hcrowd => hcrowd.move m

/-- A run that has ended has done what its rule says. -/
theorem of_result (h : crowd.Keeps rules) {i : Nat} {result : Except Raised α}
    (hresult : crowd.result? i = some result) :
    match result with
    | .ok value => (rules i).ends value (crowd.past i)
    | .error raised => (rules i).fails raised (crowd.past i) := by
  obtain ⟨party, hparty, hended⟩ := Option.bind_eq_some_iff.mp hresult
  obtain ⟨-, halong⟩ := h i party hparty
  rcases party with (_ | _ | _ | _ | _ | _ | _ | _ | _) | _ <;> cases hended <;> exact halong

end Crowd.Keeps

/-! ### Draws -/

/-- The suffixes that have been drawn, the first one first. -/
def History.drawn : History → List (Except Failure String)
  | [] => []
  | .drew suffix :: past => drawn past ++ [suffix]
  | _ :: past => drawn past

/-- Whether suffixes are the next ones of a source, in order. -/
def SuffixSource.Gives (source : SuffixSource) (drawn : List (Except Failure String)) : Prop :=
  ∀ n suffix, drawn[n]? = some suffix → source.stream (source.position + n) = suffix

namespace SuffixSource

theorem gives_nil (source : SuffixSource) : source.Gives [] := fun _ _ h => nomatch h

theorem Gives.of_append {source : SuffixSource} {drawn later : List (Except Failure String)}
    (h : source.Gives (drawn ++ later)) : source.Gives drawn := by
  intro n suffix hn
  obtain ⟨hlt, -⟩ := List.getElem?_eq_some_iff.mp hn
  refine h n suffix ?_
  rwa [List.getElem?_append_left hlt]

theorem gives_concat {source : SuffixSource} {drawn : List (Except Failure String)}
    {suffix : Except Failure String} :
    source.Gives (drawn ++ [suffix]) ↔
      source.Gives drawn ∧ source.stream (source.position + drawn.length) = suffix := by
  constructor
  · intro h
    exact ⟨h.of_append, h _ _ List.getElem?_concat_length⟩
  · rintro ⟨hdrawn, hlast⟩ n suffix' hn
    by_cases hlt : n < drawn.length
    · rw [List.getElem?_append_left hlt] at hn
      exact hdrawn n suffix' hn
    · obtain ⟨hle, -⟩ := List.getElem?_eq_some_iff.mp hn
      rw [List.length_append, List.length_singleton] at hle
      obtain rfl : n = drawn.length := by omega
      rw [List.getElem?_concat_length] at hn
      cases hn
      exact hlast

/-- A source that always gives the same suffix gives what is drawn from it in any part of a run. -/
theorem gives_of_constant {source : SuffixSource} {suffix : Except Failure String}
    (h : ∀ n, source.stream n = suffix) {drawn : List (Except Failure String)}
    (hdrawn : ∀ d ∈ drawn, d = suffix) : source.Gives drawn := by
  intro n d hd
  rw [h, hdrawn d (List.mem_of_getElem? hd)]

/-- What is drawn has been given by the source. -/
theorem Gives.exists_of_mem {source : SuffixSource} {drawn : List (Except Failure String)}
    (h : source.Gives drawn) {suffix : Except Failure String} (hmem : suffix ∈ drawn) :
    ∃ n, source.stream n = suffix := by
  obtain ⟨n, hn⟩ := List.getElem?_of_mem hmem
  exact ⟨_, h n suffix hn⟩

end SuffixSource

theorem History.mem_drawn_iff {past : History} {suffix : Except Failure String} :
    suffix ∈ past.drawn ↔ .drew suffix ∈ past := by
  induction past with
  | nil => simp [drawn]
  | cons act past ih => cases act <;> simp [drawn, ih, or_comm, eq_comm]

/-- What one has drawn is among what all have drawn. -/
theorem Crowd.mem_drawn_history {crowd : Crowd σ α} {i : Nat} {suffix : Except Failure String}
    (h : suffix ∈ (crowd.past i).drawn) : suffix ∈ crowd.history.drawn := by
  rw [History.mem_drawn_iff] at h ⊢
  obtain ⟨⟨n, act⟩, hmem, hact⟩ := List.mem_filterMap.mp h
  refine List.mem_map.mpr ⟨(n, act), hmem, ?_⟩
  dsimp only at hact
  split at hact <;> cases hact
  rfl

def SuffixSource.skip (source : SuffixSource) (n : Nat) : SuffixSource :=
  { source with position := source.position + n }

theorem SuffixSource.skip_skip (source : SuffixSource) (m n : Nat) :
    (source.skip m).skip n = source.skip (m + n) := by
  simp only [skip, Nat.add_assoc]

namespace Step

/-- Whether all that a step has drawn is the next suffix of the world that it was made in. -/
structure Draws (step : Step σ α) (w : World σ) : Prop where
  suffixes_eq : step.world.suffixes = w.suffixes.skip (History.drawn step.act.toList).length
  drew : ∀ suffix, step.act = some (.drew suffix) →
    suffix = w.suffixes.stream w.suffixes.position

end Step

theorem Move.draws_step (m : Move) (service : Service σ) (party : Party α) (w : World σ) :
    (m.step service party w).Draws w := by
  cases m with
  | turn position =>
    cases party with
    | waiting => exact ⟨rfl, fun suffix h => (nomatch h)⟩
    | going rest =>
      cases rest with
      | suffix next =>
        refine ⟨rfl, fun suffix h => ?_⟩
        cases h
        rfl
      | done | raise | environment | settings | file => exact ⟨rfl, fun suffix h => (nomatch h)⟩
      | log | client | call => exact ⟨rfl, fun suffix h => (nomatch h)⟩
  | cancel position =>
    cases party with
    | waiting => exact ⟨rfl, fun suffix h => (nomatch h)⟩
    | going rest => cases rest <;> exact ⟨rfl, fun suffix h => (nomatch h)⟩

theorem History.drawn_append_act (act : Option Act) (past : History) :
    History.drawn (act.toList ++ past) = past.drawn ++ History.drawn act.toList := by
  rcases act with _ | (_ | _ | _ | _ | _) <;> simp [drawn]

/-- Whether what all have drawn is what a source gives, one suffix after the other. -/
structure Crowd.DrawsFrom (crowd : Crowd σ α) (source : SuffixSource) : Prop where
  gives : source.Gives crowd.history.drawn
  suffixes_eq : crowd.world.suffixes = source.skip crowd.history.drawn.length

theorem Crowd.DrawsFrom.move {crowd : Crowd σ α} {source : SuffixSource}
    (h : crowd.DrawsFrom source) (service : Service σ) (m : Move) :
    (crowd.move service m).DrawsFrom source := by
  cases hparty : crowd.parties[m.position]? with
  | none => rwa [move_of_none hparty]
  | some party =>
    obtain ⟨hsuffixes, hdrew⟩ := m.draws_step service party crowd.world
    have hdrawn : (crowd.move service m).history.drawn = crowd.history.drawn ++
        History.drawn (m.step service party crowd.world).act.toList := by
      rw [history_move hparty, History.drawn_append_act]
    refine ⟨?_, ?_⟩
    · rw [hdrawn]
      rcases hact : (m.step service party crowd.world).act with _ | (_ | suffix | _ | _ | _)
      case some.drew =>
        refine SuffixSource.gives_concat.mpr ⟨h.gives, ?_⟩
        rw [hdrew suffix hact, h.suffixes_eq]
        rfl
      all_goals exact (List.append_nil _).symm ▸ h.gives
    · rw [hdrawn, move_of_some hparty, hsuffixes, h.suffixes_eq, SuffixSource.skip_skip,
        List.length_append]

/-- Whatever the moves, what all draw is what the source of the world gives. -/
theorem Crowd.drawsFrom (service : Service σ) (w : World σ) (runs : List (Run α))
    (moves : List Move) : ((start w runs).after service moves).DrawsFrom w.suffixes := by
  refine after_induction (motive := fun crowd => crowd.DrawsFrom w.suffixes) service ?_ moves ?_
  · exact ⟨w.suffixes.gives_nil, rfl⟩
  · exact fun crowd m _ h => h.move service m

end RoleChain
