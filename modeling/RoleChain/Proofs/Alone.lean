import Mathlib.Data.List.Induction
import RoleChain.Proofs.Crowd

/-!
Among others and alone. What a run among others sees of the world is what it would see alone: the
variables, files and settings, which nobody changes, and services of its own, which nobody else
calls. So if it is not cancelled it does, act by act, what it does alone with the suffixes that it
has drawn, and it ends as it ends alone. Turns of the fair schedule and of any other are such acts.
-/
namespace RoleChain

variable {σ α : Type}

/-! ### The same run in a world of its own -/

/-- The event that an act is seen as, if it is seen. -/
def Act.event? : Act → Option Event
  | logged record => some (.logged record)
  | drew suffix => some (.drew suffix)
  | client service arguments _ => some (.client service arguments)
  | issued transport call => some (.called transport call)
  | answered _ => none

/-- What is seen of a past, in order. -/
def History.events : History → List Event
  | [] => []
  | act :: past => events past ++ act.event?.toList

def Ran.behind (events : List Event) (ran : Ran σ α) : Ran σ α :=
  { ran with events := events ++ ran.events }

/-- Carries out the rest of a run on its way. -/
def Party.finish (service : Service σ) : Party α → World σ → Ran σ α
  | going rest, w => rest.perform service w
  | waiting transport call next, w =>
    let answered := service.answer (w.services transport.service) call
    (next answered.1.outcome).perform service (w.withService transport.service answered.2)

/-- An act and the rest after it are the rest before it. -/
theorem Party.finish_step (service : Service σ) (party : Party α) (w : World σ) :
    let step := party.step service w
    party.finish service w =
      (step.party.finish service step.world).behind (step.act.bind Act.event?).toList := by
  cases party with
  | waiting => rfl
  | going rest => cases rest <;> rfl

theorem History.events_append_act (act : Option Act) (past : History) :
    History.events (act.toList ++ past) = past.events ++ (act.bind Act.event?).toList := by
  cases act with
  | none => exact (List.append_nil _).symm
  | some act => rfl

/-! ### What a run sees of the world -/

/-- Worlds that are the same to a run which calls certain services only, but for the suffixes. -/
structure World.AgreesOn (own : ServiceName → Prop) (w v : World σ) : Prop where
  environment_eq : w.environment = v.environment
  files_eq : w.files = v.files
  settings_eq : w.settings.read.1 = v.settings.read.1
  services_eq : ∀ name, own name → w.services name = v.services name

theorem SettingsStore.read_read (store : SettingsStore) : store.read.2.read.1 = store.read.1 := by
  obtain ⟨current, _ | _ | _⟩ := store <;> rfl

namespace World.AgreesOn

variable {own : ServiceName → Prop} {u v w : World σ}

theorem refl (own : ServiceName → Prop) (w : World σ) : w.AgreesOn own w :=
  ⟨rfl, rfl, rfl, fun _ _ => rfl⟩

theorem trans (h : u.AgreesOn own v) (h' : v.AgreesOn own w) : u.AgreesOn own w :=
  ⟨h.environment_eq.trans h'.environment_eq, h.files_eq.trans h'.files_eq,
    h.settings_eq.trans h'.settings_eq,
    fun name hname => (h.services_eq name hname).trans (h'.services_eq name hname)⟩

theorem symm (h : u.AgreesOn own v) : v.AgreesOn own u :=
  ⟨h.environment_eq.symm, h.files_eq.symm, h.settings_eq.symm,
    fun name hname => (h.services_eq name hname).symm⟩

theorem mono (h : u.AgreesOn own v) {less : ServiceName → Prop} (hless : ∀ n, less n → own n) :
    u.AgreesOn less v :=
  ⟨h.environment_eq, h.files_eq, h.settings_eq, fun n hn => h.services_eq n (hless n hn)⟩

theorem withSuffixes (h : u.AgreesOn own v) (source source' : SuffixSource) :
    World.AgreesOn own { u with suffixes := source } { v with suffixes := source' } :=
  ⟨h.environment_eq, h.files_eq, h.settings_eq, h.services_eq⟩

/-- Looking at the settings changes nothing that is seen of them. -/
theorem withSettings (h : u.AgreesOn own v) :
    World.AgreesOn own { u with settings := u.settings.read.2 }
      { v with settings := v.settings.read.2 } := by
  refine ⟨h.environment_eq, h.files_eq, ?_, h.services_eq⟩
  rw [SettingsStore.read_read, SettingsStore.read_read]
  exact h.settings_eq

theorem withService (h : u.AgreesOn own v) (name : ServiceName) (state : σ) :
    (u.withService name state).AgreesOn own (v.withService name state) := by
  refine ⟨h.environment_eq, h.files_eq, h.settings_eq, fun n hn => ?_⟩
  simp only [World.withService]
  split
  · rfl
  · exact h.services_eq n hn

end World.AgreesOn

/-- Whether an act asks no services but certain ones. -/
def Act.Within (own : ServiceName → Prop) : Act → Prop
  | client service _ _ => own service
  | issued transport _ => own transport.service
  | logged _ | drew _ | answered _ => True

section

variable {own : ServiceName → Prop} {rule : Rule α} {past : History} {party : Party α}

/-- A move of a run whose rule lets it ask certain services changes nothing else that others see. -/
theorem Party.Along.agreesOn_step (h : party.Along rule past)
    (hown : ∀ past act, rule.right past act → act.Within own) (m : Move) (service : Service σ)
    (w : World σ) : w.AgreesOn (fun name => ¬ own name) (m.step service party w).world := by
  cases m with
  | cancel position =>
    cases party with
    | waiting => exact .refl _ w
    | going rest => cases rest <;> exact .refl _ w
  | turn position =>
    cases party with
    | waiting transport call next =>
      obtain ⟨⟨earlier, -, hissued⟩, -⟩ := h
      refine ⟨rfl, rfl, rfl, fun name hname => ?_⟩
      have hne : name ≠ transport.service := by
        rintro rfl
        exact hname (hown _ _ hissued)
      simp only [Move.step, Party.step, World.withService, hne, if_false]
    | going rest =>
      cases rest with
      | settings next => exact ⟨rfl, rfl, (SettingsStore.read_read _).symm, fun _ _ => rfl⟩
      | done | raise | log | environment | file | suffix | client | call =>
        exact ⟨rfl, rfl, rfl, fun _ _ => rfl⟩

/-- In worlds that are the same to a run it takes the same step, if it draws the same suffix. -/
theorem Party.Along.step_congr (h : party.Along rule past)
    (hown : ∀ past act, rule.right past act → act.Within own) (service : Service σ) {w v : World σ}
    (hworlds : w.AgreesOn own v)
    (hdrew : ∀ suffix, (party.step service w).act = some (.drew suffix) →
      v.suffixes.stream v.suffixes.position = suffix) :
    (party.step service v).party = (party.step service w).party ∧
      (party.step service v).act = (party.step service w).act ∧
      (party.step service w).world.AgreesOn own (party.step service v).world := by
  cases party with
  | waiting transport call next =>
    -- The call was right when it went out, so it asks one of the services in question.
    obtain ⟨⟨earlier, -, hissued⟩, -⟩ := h
    have hstate := hworlds.services_eq transport.service (hown _ _ hissued)
    simp only [Party.step, hstate, true_and]
    exact hworlds.withService _ _
  | going rest =>
    cases rest with
    | done | raise | log | call => exact ⟨rfl, rfl, hworlds⟩
    | environment next =>
      simp only [Party.step, Run.step, hworlds.environment_eq, true_and]
      exact hworlds
    | settings next =>
      simp only [Party.step, Run.step, hworlds.settings_eq, true_and]
      exact hworlds.withSettings
    | file path next =>
      simp only [Party.step, Run.step, hworlds.files_eq, true_and]
      exact hworlds
    | suffix next =>
      have hsuffix : v.suffixes.next.1 = w.suffixes.next.1 := hdrew _ rfl
      simp only [Party.step, Run.step, hsuffix, true_and]
      exact hworlds.withSuffixes _ _
    | client name arguments next =>
      obtain ⟨hclient, -⟩ := h none
      have hstate := hworlds.services_eq name (hown _ _ hclient)
      simp only [Party.step, Run.step, hstate, true_and]
      exact hworlds

end

/-! ### Tracking a run -/

/-- A run among others has come to where the same run has come in a world of its own: what is left
of both is the same, and so is what both see of the world. -/
def Crowd.Tracks (crowd : Crowd σ α) (i : Nat) (service : Service σ) (own : ServiceName → Prop)
    (source : SuffixSource) (alone : Ran σ α) : Prop :=
  ∃ party v, crowd.parties[i]? = some party ∧ crowd.world.AgreesOn own v ∧
    v.suffixes = source.skip (crowd.past i).drawn.length ∧
    alone = (party.finish service v).behind (crowd.past i).events

/-- A run among others has done what the run alone does, as far as it has come, and if it has ended
it has done all of it and ended like it. -/
structure Crowd.Follows (crowd : Crowd σ α) (i : Nat) (alone : Ran σ α) : Prop where
  events : (crowd.past i).events <+: alone.events
  result : ∀ result, crowd.result? i = some result →
    alone.result = result ∧ alone.events = (crowd.past i).events

section

variable {rules : Nat → Rule α} {own : Nat → ServiceName → Prop}
  {service : Service σ} {crowd : Crowd σ α} {source : SuffixSource} {alone : Ran σ α} {i : Nat}

theorem Crowd.Tracks.follows {own : ServiceName → Prop}
    (h : crowd.Tracks i service own source alone) : crowd.Follows i alone := by
  obtain ⟨party, v, hparty, -, -, rfl⟩ := h
  refine ⟨List.prefix_append _ _, fun result hresult => ?_⟩
  rw [result?, hparty, Option.bind_some] at hresult
  rcases party with (_ | _ | _ | _ | _ | _ | _ | _ | _) | _ <;> cases hresult <;>
    exact ⟨rfl, List.append_nil _⟩

/-- A move of another run is not noticed. -/
theorem Crowd.Tracks.move_other (h : crowd.Tracks i service (own i) source alone)
    (hkeeps : crowd.Keeps rules)
    (hown : ∀ i past act, (rules i).right past act → act.Within (own i))
    (happart : ∀ i j name, i ≠ j → own i name → ¬ own j name) {m : Move} (hm : m.position ≠ i) :
    (crowd.move service m).Tracks i service (own i) source alone := by
  obtain ⟨party, v, hparty, hworlds, hsuffixes, halone⟩ := h
  refine ⟨party, v, ?_, ?_, ?_, ?_⟩
  · rw [parties_move_other hm]
    exact hparty
  · cases hother : crowd.parties[m.position]? with
    | none =>
      rw [move_of_none hother]
      exact hworlds
    | some other =>
      have hstep := (hkeeps _ _ hother).2.agreesOn_step (hown m.position) m service crowd.world
      rw [move_of_some hother]
      refine (hstep.mono fun name hname => ?_).symm.trans hworlds
      exact happart i m.position name (Ne.symm hm) hname
  · rw [past_move_other hm]
    exact hsuffixes
  · rw [past_move_other hm]
    exact halone

theorem Ran.behind_behind (ran : Ran σ α) (later earlier : List Event) :
    (ran.behind later).behind earlier = ran.behind (earlier ++ later) := by
  simp only [behind, List.append_assoc]

theorem SuffixSource.gives_of_move {m : Move}
    (h : source.Gives ((crowd.move service m).past i).drawn) :
    source.Gives (crowd.past i).drawn := by
  by_cases hi : m.position = i
  · subst hi
    cases hparty : crowd.parties[m.position]? with
    | none => rwa [Crowd.move_of_none hparty] at h
    | some party =>
      rw [Crowd.past_move_self hparty, History.drawn_append_act] at h
      exact h.of_append
  · rwa [Crowd.past_move_other hi] at h

/-- A turn of the run is a step of the same run in its own world. -/
theorem Crowd.Tracks.move_self (h : crowd.Tracks i service (own i) source alone)
    (hkeeps : crowd.Keeps rules)
    (hown : ∀ i past act, (rules i).right past act → act.Within (own i))
    (hgives : source.Gives ((crowd.move service (.turn i)).past i).drawn) :
    (crowd.move service (.turn i)).Tracks i service (own i) source alone := by
  obtain ⟨party, v, hparty, hworlds, hsuffixes, halone⟩ := h
  have hpast : (crowd.move service (.turn i)).past i =
      (party.step service crowd.world).act.toList ++ crowd.past i := past_move_self hparty
  rw [hpast, History.drawn_append_act] at hgives
  obtain ⟨hsame, hact, hafter⟩ := (hkeeps _ _ hparty).2.step_congr (hown i) service hworlds <| by
    intro suffix hdrew
    rw [hdrew] at hgives
    rw [hsuffixes]
    exact (SuffixSource.gives_concat.mp hgives).2
  have hdraws : (party.step service v).world.suffixes = v.suffixes.skip
      (History.drawn (party.step service v).act.toList).length :=
    ((Move.turn i).draws_step service party v).suffixes_eq
  refine ⟨_, (party.step service v).world, parties_move_self hparty, ?_, ?_, ?_⟩
  · rw [move_of_some hparty]
    exact hafter
  · rw [hdraws, hsuffixes, hact, SuffixSource.skip_skip, hpast, History.drawn_append_act,
      List.length_append]
  · rw [halone, Party.finish_step, Ran.behind_behind, hpast, History.events_append_act, hact, hsame]
    rfl

/-- A run that is not cancelled is tracked by the same run alone, in a world of its own that gives it
the suffixes that it draws. -/
theorem Crowd.tracks_after {w : World σ} {runs : List (Run α)}
    (hrules : ∀ (i : Nat) (run : Run α), runs[i]? = some run → (rules i).Binds run [])
    (hown : ∀ i past act, (rules i).right past act → act.Within (own i))
    (happart : ∀ i j name, i ≠ j → own i name → ¬ own j name) (service : Service σ)
    (moves : List Move) {run : Run α} (hrun : runs[i]? = some run) (hmoves : Move.cancel i ∉ moves) :
    let crowd := (Crowd.start w runs).after service moves
    source.Gives (crowd.past i).drawn → crowd.Tracks i service (own i) source
      (run.perform service { w with suffixes := source }) := by
  let alone := run.perform service { w with suffixes := source }
  let holds (crowd : Crowd σ α) : Prop := crowd.Keeps rules ∧
    (source.Gives (crowd.past i).drawn → crowd.Tracks i service (own i) source alone)
  have hstart : holds (Crowd.start w runs) := by
    refine ⟨.start hrules, fun _ => ⟨.going run, { w with suffixes := source }, ?_, ?_, rfl, rfl⟩⟩
    · rw [start, List.getElem?_map, hrun]
      rfl
    · exact (World.AgreesOn.refl (own i) w).withSuffixes _ _
  -- That others keep to their rules is carried along: it is why their moves are not noticed.
  refine (after_induction service hstart moves fun crowd m hm hcrowd => ?_).2
  refine ⟨hcrowd.1.move m, fun hgives => ?_⟩
  by_cases hi : m.position = i
  · cases m with
    | cancel position =>
      cases hi
      exact absurd hm hmoves
    | turn position =>
      cases hi
      refine (hcrowd.2 ?_).move_self hcrowd.1 hown hgives
      exact SuffixSource.gives_of_move hgives
  · rw [past_move_other hi] at hgives
    exact (hcrowd.2 hgives).move_other hcrowd.1 hown happart hi

end

/-! ### Turns up to where a run waits -/

namespace Crowd

def events (crowd : Crowd σ α) : List (Nat × Event) :=
  crowd.acts.reverse.filterMap fun (n, act) => act.event?.map fun event => (n, event)

/-- A crowd after the run at a position has come to some point, with what is seen of it. -/
structure HasCome (crowd : Crowd σ α) (i : Nat) (rest : Run α) (w : World σ) (events : List Event)
    (later : Crowd σ α) : Prop where
  world_eq : later.world = w
  parties_eq : later.parties = crowd.parties.set i (.going rest)
  events_eq : later.events = crowd.events ++ events.map fun event => (i, event)

theorem after_append (service : Service σ) (moves later : List Move) (crowd : Crowd σ α) :
    crowd.after service (moves ++ later) = (crowd.after service moves).after service later :=
  List.foldl_append

theorem set_of_getElem? {β : Type} {xs : List β} {i : Nat} {x : β} (h : xs[i]? = some x) :
    xs.set i x = xs := by
  obtain ⟨hlt, rfl⟩ := List.getElem?_eq_some_iff.mp h
  exact List.set_getElem_self hlt

theorem HasCome.refl {crowd : Crowd σ α} {i : Nat} {rest : Run α}
    (h : crowd.parties[i]? = some (.going rest)) : crowd.HasCome i rest crowd.world [] crowd := by
  refine ⟨rfl, ?_, (List.append_nil _).symm⟩
  rw [set_of_getElem? h]

section

variable {service : Service σ} {crowd : Crowd σ α} {i : Nat}

variable (service) in
theorem party_turn {party : Party α} (h : crowd.parties[i]? = some party) :
    (crowd.move service (.turn i)).parties[i]? = some (party.step service crowd.world).party :=
  parties_move_self h

theorem world_turn {party : Party α} (h : crowd.parties[i]? = some party) :
    (crowd.move service (.turn i)).world = (party.step service crowd.world).world :=
  congrArg Crowd.world (move_of_some h : crowd.move service (.turn i) = _)

theorem events_turn {party : Party α} (h : crowd.parties[i]? = some party) :
    (crowd.move service (.turn i)).events = crowd.events ++
      ((party.step service crowd.world).act.bind Act.event?).toList.map fun event => (i, event) := by
  have hacts := congrArg Crowd.acts (move_of_some h : crowd.move service (.turn i) = _)
  rw [events, hacts, List.reverse_append, List.filterMap_append]
  change _ ++ _ = _ ++ _
  refine congrArg (crowd.events ++ ·) ?_
  change ((((party.step service crowd.world).act.map fun act => (i, act)).toList).reverse).filterMap
    _ = _
  rcases (party.step service crowd.world).act with _ | (_ | _ | _ | _ | _) <;> rfl

/-- The first turn on the way, and the rest of the way. -/
theorem HasCome.after_turn {party : Party α} (h : crowd.parties[i]? = some party) {rest : Run α}
    {w : World σ} {later : Crowd σ α} {events : List Event}
    (hrest : (crowd.move service (.turn i)).HasCome i rest w events later) :
    crowd.HasCome i rest w
      (((party.step service crowd.world).act.bind Act.event?).toList ++ events) later := by
  refine ⟨hrest.world_eq, ?_, ?_⟩
  · have hparties := congrArg Crowd.parties (move_of_some h : crowd.move service (.turn i) = _)
    rw [hrest.parties_eq, hparties]
    exact List.set_set ..
  · rw [hrest.events_eq, events_turn h, List.append_assoc, List.map_append]

variable (service) in
/-- Where a run has come in one turn up to where it waits it comes by acts of its own. -/
theorem exists_turns_advance (rest : Run α) (h : crowd.parties[i]? = some (.going rest)) :
    ∃ n, let turn := rest.advance service crowd.world
      crowd.HasCome i turn.standing.rest turn.world turn.events
        (crowd.after service (List.replicate n (.turn i))) := by
  induction rest generalizing crowd with
  | done value => exact ⟨0, .refl h⟩
  | raise raised => exact ⟨0, .refl h⟩
  | log record next ih =>
    obtain ⟨n, hn⟩ := ih (party_turn service h)
    rw [world_turn h] at hn
    exact ⟨n + 1, hn.after_turn h⟩
  | environment next ih | settings next ih | suffix next ih | client name arguments next ih =>
    obtain ⟨n, hn⟩ := ih _ (party_turn service h)
    rw [world_turn h] at hn
    exact ⟨n + 1, hn.after_turn h⟩
  | file path next ih =>
    have hcome := HasCome.refl (party_turn service h)
    rw [world_turn h] at hcome
    exact ⟨1, hcome.after_turn h⟩
  | call transport c next ih =>
    have hcome := HasCome.refl (party_turn service (party_turn service h))
    rw [world_turn (party_turn service h), world_turn h] at hcome
    exact ⟨2, (hcome.after_turn (party_turn service h)).after_turn h⟩

end

/-- A run that is given enough turns comes to its end. -/
theorem exists_turns_end (service : Service σ) (i : Nat) {crowd : Crowd σ α} {party : Party α}
    (h : crowd.parties[i]? = some party) :
    ∃ n result, (crowd.after service (List.replicate n (.turn i))).result? i = some result := by
  have hgoing (rest : Run α) (crowd : Crowd σ α) (hrest : crowd.parties[i]? = some (.going rest)) :
      ∃ n result, (crowd.after service (List.replicate n (.turn i))).result? i = some result := by
    induction rest generalizing crowd with
    | done value => exact ⟨0, .ok value, congrArg (·.bind Party.result?) hrest⟩
    | raise raised => exact ⟨0, .error raised, congrArg (·.bind Party.result?) hrest⟩
    | log record next ih =>
      obtain ⟨n, hn⟩ := ih _ (party_turn service hrest)
      exact ⟨n + 1, hn⟩
    | environment next ih | settings next ih | file path next ih | suffix next ih
    | client name arguments next ih =>
      obtain ⟨n, hn⟩ := ih _ _ (party_turn service hrest)
      exact ⟨n + 1, hn⟩
    | call transport c next ih =>
      obtain ⟨n, hn⟩ := ih _ _ (party_turn service (party_turn service hrest))
      exact ⟨n + 2, hn⟩
  cases party with
  | going rest => exact hgoing rest crowd h
  | waiting transport call next =>
    obtain ⟨n, hn⟩ := hgoing _ _ (party_turn service h)
    exact ⟨n + 1, hn⟩

/-- A crowd is where runs are that have followed a schedule. -/
structure IsAt (crowd : Crowd σ α) (g : Gathering σ α) : Prop where
  world_eq : crowd.world = g.world
  parties_eq : crowd.parties = g.runs.map fun standing => .going standing.rest
  events_eq : crowd.events = g.events

theorem IsAt.exists_turns_giveTurn {crowd : Crowd σ α} {g : Gathering σ α} (h : crowd.IsAt g)
    (service : Service σ) (i : Nat) :
    ∃ n, (crowd.after service (List.replicate n (.turn i))).IsAt (g.giveTurn service i) := by
  unfold Gathering.giveTurn
  split
  · exact ⟨0, h⟩
  · next rest wait hrun =>
    refine ⟨0, h.world_eq, ?_, h.events_eq⟩
    have hrest : (g.runs.map fun standing => Party.going standing.rest)[i]? =
        some (.going rest) := by
      rw [List.getElem?_map, hrun]
      rfl
    change crowd.parties = _
    rw [h.parties_eq, List.map_set, set_of_getElem? hrest]
  · next rest hrun =>
    have hparty : crowd.parties[i]? = some (.going rest) := by
      rw [h.parties_eq, List.getElem?_map, hrun]
      rfl
    obtain ⟨n, hworld, hparties, hevents⟩ := exists_turns_advance service rest hparty
    rw [h.world_eq] at hworld hparties hevents
    refine ⟨n, hworld, ?_, ?_⟩
    · rw [hparties, h.parties_eq, List.map_set]
    · rw [hevents, h.events_eq]

/-- Whatever the schedule, the runs come to where they come by single acts of theirs. -/
theorem exists_turns_follow (service : Service σ) (w : World σ) (runs : List (Run α))
    (schedule : List Nat) :
    ∃ moves : List Move, (∀ i, Move.cancel i ∉ moves) ∧
      ((Crowd.start w runs).after service moves).IsAt
        ((Gathering.start w runs).follow service schedule) := by
  have hstart : (Crowd.start w runs).IsAt (Gathering.start w runs) := by
    refine ⟨rfl, ?_, rfl⟩
    rw [Crowd.start, Gathering.start, List.map_map]
    rfl
  induction schedule using List.reverseRecOn with
  | nil => exact ⟨[], fun _ => List.not_mem_nil, hstart⟩
  | append_singleton schedule i ih =>
    obtain ⟨moves, hmoves, hat⟩ := ih
    obtain ⟨n, hn⟩ := hat.exists_turns_giveTurn service i
    refine ⟨moves ++ List.replicate n (.turn i), fun j hj => ?_, ?_⟩
    · rcases List.mem_append.mp hj with hj | hj
      · exact hmoves j hj
      · cases List.eq_of_mem_replicate hj
    · rw [after_append, Gathering.follow, List.foldl_append]
      exact hn

end Crowd

end RoleChain
