import SkillScript.Proofs.History
import SkillScript.Proofs.Machine.Watch
import SkillScript.Proofs.Reentry.Replay
/-!
# Single steps of machines

An update of an active machine is one step. It ticks one state: the current one, or the
initial one if there is none, which is entered first. Then the machine stays in that
state, unless the logic of the state has ended and the first of its transitions that
names a state names a known one. In that case the machine switches: the state is left,
its exit behavior is run once, and the target is entered and not ticked. Nothing else
runs an exit behavior.
-/
set_option autoImplicit false
namespace SkillScript

/-! ## The first target -/

namespace Transition

def checkEach (step : Float32) (ctx : Context) (ts : List Transition) : Context :=
  ts.foldl (fun ctx t => (t.check step ctx).2.2) ctx

/-- What the transition at a position answers when those before it have been checked. -/
def answer? (step : Float32) (ctx : Context) (ts : List Transition) (k : Nat) : Option String :=
  ts[k]?.bind fun t => (t.check step (checkEach step ctx (ts.take k))).1

/-- The first transition in order that names a state names this one. -/
def NamesFirst (step : Float32) (ctx : Context) (ts : List Transition) (id : String) : Prop :=
  ∃ k, answer? step ctx ts k = some id ∧ ∀ j, j < k → answer? step ctx ts j = none

theorem checkFirst_eq_some_iff (step : Float32) (ctx : Context) (ts : List Transition)
    (id : String) : (checkFirst step ctx ts).1 = some id ↔ NamesFirst step ctx ts id := by
  induction ts generalizing ctx with
  | nil =>
    constructor
    · intro found
      cases found
    · rintro ⟨k, named, -⟩
      cases named
  | cons t rest ih =>
    have first : answer? step ctx (t :: rest) 0 = (t.check step ctx).1 := rfl
    have later (k : Nat) : answer? step ctx (t :: rest) (k + 1) =
        answer? step (t.check step ctx).2.2 rest k := rfl
    cases answer : (t.check step ctx).1 with
    | some target =>
      have found : (checkFirst step ctx (t :: rest)).1 = some target := by
        rw [checkFirst]
        generalize t.check step ctx = p at answer
        obtain ⟨_, _, _⟩ := p
        cases answer
        rfl
      rw [found]
      constructor
      · intro same
        exact ⟨0, first.trans (answer.trans same), fun j early => absurd early (Nat.not_lt_zero j)⟩
      · rintro ⟨k, named, before⟩
        cases k with
        | zero => exact answer.symm.trans (first.symm.trans named)
        | succ k =>
          have silent := before 0 (Nat.succ_pos k)
          rw [first, answer] at silent
          cases silent
    | none =>
      have found : (checkFirst step ctx (t :: rest)).1 =
          (checkFirst step (t.check step ctx).2.2 rest).1 := by
        rw [checkFirst]
        generalize t.check step ctx = p at answer
        obtain ⟨_, _, _⟩ := p
        cases answer
        rfl
      rw [found, ih]
      constructor
      · rintro ⟨k, named, before⟩
        refine ⟨k + 1, (later k).trans named, ?_⟩
        intro j earlier
        cases j with
        | zero => exact first.trans answer
        | succ j => exact (later j).trans (before j (Nat.lt_of_succ_lt_succ earlier))
      · rintro ⟨k, named, before⟩
        cases k with
        | zero =>
          rw [first, answer] at named
          cases named
        | succ k =>
          refine ⟨k, (later k).symm.trans named, ?_⟩
          intro j earlier
          exact (later j).symm.trans (before (j + 1) (Nat.succ_lt_succ earlier))

end Transition

variable {β : Type}

/-- The logic of the state has ended, and its transitions lead to the given one. -/
def State.LeadsTo (step : Float32) (ctx : Context) (s : State β) (id : String) : Prop :=
  s.ended = true ∧ Transition.NamesFirst step ctx s.transitions id

theorem State.checkTransitions_eq_some_iff (step : Float32) (ctx : Context) (s : State β)
    (id : String) : (s.checkTransitions step ctx).1 = some id ↔ s.LeadsTo step ctx id := by
  rw [LeadsTo, ← Transition.checkFirst_eq_some_iff, checkTransitions]
  cases s.ended with
  | true => exact ⟨fun found => ⟨rfl, found⟩, fun found => found.2⟩
  | false => exact ⟨nofun, nofun⟩

namespace Machine

/-! ## One step -/

/-- The positions that the machine stores are those of states. -/
structure Placed (m : Machine β) : Prop where
  index : ∀ id i, m.index.find? id = some i → i < m.states.length
  current : ∀ i, m.current = some i → i < m.states.length

section

variable [Behaves β]

/-- The state whose turn it is: the current one, or else the initial one, once it is entered. -/
inductive Turn (ctx : Context) (m : Machine β) : Nat → State β → Context → Prop where
  | current {i : Nat} {s : State β} : m.current = some i → m.states[i]? = some s →
    Turn ctx m i s ctx
  | initial {i : Nat} {s : State β} : m.current = none → m.index.find? m.initial = some i →
    m.states[i]? = some s → Turn ctx m i (s.enter ctx).1 (s.enter ctx).2

def GoesTo (step : Float32) (m : Machine β) (s : State β) (ctx : Context) (j : Nat) : Prop :=
  ∃ id, (s.update step ctx).1.LeadsTo step (s.update step ctx).2 id ∧ m.index.find? id = some j

/-- The ticked state stays the current one, and nothing else has changed. -/
def stayed (step : Float32) (m : Machine β) (i : Nat) (s : State β) (ctx : Context) :
    Machine β × Context :=
  let ticked := (tick step ctx s).2
  ({ m with current := some i, states := m.states.set i ticked.1 }, ticked.2)

/-- The ticked state is left and the state at another position is entered. The target is the state
that is left if both positions are the same. -/
def switched (step : Float32) (m : Machine β) (i j : Nat) (s : State β) (ctx : Context) :
    Machine β × Context :=
  let ticked := (tick step ctx s).2
  let left := ticked.1.leave ticked.2
  let entered := actAt State.enter left.2 j (m.states.set i left.1)
  ({ m with current := some j, switches := m.switches + 1, states := entered.1 }, entered.2)

variable {step : Float32} {ctx ctx₁ : Context} {m : Machine β} {i j : Nat} {s : State β}

theorem tick_eq_some_iff (step : Float32) (ctx : Context) (s : State β) (id : String) :
    (tick step ctx s).1 = some id ↔
      (s.update step ctx).1.LeadsTo step (s.update step ctx).2 id :=
  State.checkTransitions_eq_some_iff ..

theorem Turn.lt (turn : m.Turn ctx i s ctx₁) : i < m.states.length := by
  cases turn with
  | current _ found => exact (List.getElem?_eq_some_iff.mp found).1
  | initial _ _ found => exact (List.getElem?_eq_some_iff.mp found).1

/-- An update advances the state whose turn it is. -/
theorem Turn.onUpdate_eq (turn : m.Turn ctx i s ctx₁) (step : Float32) :
    (m.onUpdate step ctx).2 =
      advance step ctx₁ { m with current := some i, states := m.states.set i s } i s := by
  have bound := turn.lt
  have found : (m.states.set i s)[i]? = some s := by
    rw [List.getElem?_set_self bound]
  have readied : m.ready ctx =
      ({ m with current := some i, states := m.states.set i s }, ctx₁) := by
    cases turn with
    | current current found =>
      have same : m.states.set i s = m.states := by
        obtain ⟨_, rfl⟩ := List.getElem?_eq_some_iff.mp found
        exact List.set_getElem_self _
      obtain ⟨states, index, initial, _, switches⟩ := m
      cases current
      rw [same]
      rfl
    | initial idle known inside =>
      have entered := actAt_eq State.enter ctx i m.states
      rw [inside] at entered
      simp only [ready, idle, enterInitial, known, enterAt, actOnCurrent, entered]
  simp only [onUpdate, readied, found]

theorem Turn.onUpdate_stayed (turn : m.Turn ctx i s ctx₁)
    (nowhere : ∀ j, ¬ m.GoesTo step s ctx₁ j) :
    (m.onUpdate step ctx).2 = m.stayed step i s ctx₁ := by
  rw [turn.onUpdate_eq, advance, stayed]
  simp only [List.set_set]
  cases target : (tick step ctx₁ s).1 with
  | none => rfl
  | some id =>
    have unknown : m.index.find? id = none := by
      rw [Option.eq_none_iff_forall_ne_some]
      exact fun j known => nowhere j ⟨id, (tick_eq_some_iff ..).mp target, known⟩
    simp only [switchTo, unknown]

theorem Turn.onUpdate_switched (turn : m.Turn ctx i s ctx₁) (goes : m.GoesTo step s ctx₁ j) :
    (m.onUpdate step ctx).2 = m.switched step i j s ctx₁ := by
  obtain ⟨id, leads, known⟩ := goes
  have target := (tick_eq_some_iff ..).mpr leads
  have left := actAt_set State.leave (tick step ctx₁ s).2.2 turn.lt (tick step ctx₁ s).2.1
  rw [turn.onUpdate_eq, advance, switched]
  simp only [List.set_set, target, switchTo, known, actOnCurrent, left, enterAt]

end

end Machine

/-! ## What the children see -/

def exitRun (exitStep : Float32) : List Behaves.Call :=
  [.reset, .activate, .update exitStep, .deactivate]

structure State.Saw (s : State (Watched β)) (behavior exit : List Behaves.Call) : Prop where
  behavior : ∀ b ∈ s.behavior, b.calls = behavior
  exit : ∀ b ∈ s.exit, b.calls = exit

namespace State

theorem saw_watched (s : State β) : s.watched.Saw [] [] := by
  obtain ⟨active, id, endEvent, behavior, exit, transitions, ended⟩ := s
  refine ⟨?_, ?_⟩
  · intro b member
    obtain ⟨b, -, rfl⟩ := Option.map_eq_some_iff.mp member
    rfl
  · intro b member
    obtain ⟨b, -, rfl⟩ := Option.map_eq_some_iff.mp member
    rfl

namespace Saw

variable [Behaves β] {s : State (Watched β)} {l l' : List Behaves.Call}

theorem enter (saw : s.Saw l l') (resting : s.active = false) (ctx : Context) :
    (s.enter ctx).1.Saw (l ++ [.reset, .activate]) l' := by
  obtain ⟨active, id, endEvent, behavior, exit, transitions, ended⟩ := s
  cases resting
  refine ⟨?_, saw.exit⟩
  cases behavior with
  | none => nofun
  | some b =>
    intro b' same
    cases same
    have before := saw.behavior b rfl
    subst before
    exact List.append_assoc ..

theorem update (saw : s.Saw l l') (active : s.active = true) (step : Float32) (ctx : Context) :
    (s.update step ctx).1.Saw (l ++ [.update step]) l' := by
  obtain ⟨_, id, endEvent, behavior, exit, transitions, ended⟩ := s
  cases active
  have ran : ∀ b ∈ (runBehavior step ctx behavior).2.1, b.calls = l ++ [.update step] := by
    cases behavior with
    | none => nofun
    | some b =>
      intro b' same
      cases same
      have before := saw.behavior b rfl
      subst before
      rfl
  rw [State.update, if_pos rfl]
  dsimp only
  split <;> exact ⟨ran, saw.exit⟩

omit [Behaves β] in
theorem checkTransitions (saw : s.Saw l l') (step : Float32) (ctx : Context) :
    (s.checkTransitions step ctx).2.1.Saw l l' := by
  unfold State.checkTransitions
  split <;> exact ⟨saw.behavior, saw.exit⟩

/-- A state that is left has run its exit behavior, with the step that the settings give. -/
theorem leave [Behaves.Quiet β] (saw : s.Saw l l') (active : s.active = true) (ctx : Context) :
    (s.leave ctx).1.Saw (l ++ [.deactivate]) (l' ++ exitRun ctx.settings.exitStep) := by
  obtain ⟨_, id, endEvent, behavior, exit, transitions, ended⟩ := s
  cases active
  refine ⟨?_, ?_⟩
  · cases behavior with
    | none => nofun
    | some b =>
      intro b' same
      cases same
      have before := saw.behavior b rfl
      subst before
      rfl
  · cases exit with
    | none => nofun
    | some b =>
      intro b' same
      cases same
      have before := saw.exit b rfl
      subst before
      -- neither the rest of the state nor the entry of its exit behavior changes the settings
      have rested := Context.settings_eq_of_mute (mute_deactivate ctx
        (State.mk true id endEvent behavior (some b) transitions ended))
      have entered := Context.settings_eq_of_mute (Behaves.mute_enter (State.deactivate ctx
        (State.mk true id endEvent behavior (some b) transitions ended)).2 b)
      rw [← rested, ← entered]
      show (((b.calls ++ [.reset]) ++ [.activate]) ++ [.update _]) ++ [.deactivate] = _
      simp only [List.append_assoc]
      rfl

end Saw

end State

namespace Machine

def Saw (m : Machine (Watched β)) (k : Nat) (behavior exit : List Behaves.Call) : Prop :=
  ∀ s, m.states[k]? = some s → s.Saw behavior exit

/-- The calls on the behavior of a state whose turn it is, before it is ticked. -/
def outset (m : Machine β) : List Behaves.Call :=
  if m.current.isSome then [] else [.reset, .activate]

def exits (m : Machine β) : List (Option β) :=
  m.states.map (·.exit)

theorem getElem?_watched (m : Machine β) (k : Nat) :
    m.watched.states[k]? = m.states[k]?.map State.watched :=
  List.getElem?_map

theorem saw_watched (m : Machine β) (k : Nat) : m.watched.Saw k [] [] := by
  intro s found
  rw [getElem?_watched] at found
  obtain ⟨s, -, rfl⟩ := Option.map_eq_some_iff.mp found
  exact s.saw_watched

variable [Behaves β]

/-- The machine stays in the state that was ticked, and asks nothing of any other. -/
structure Stays (step : Float32) (m : Machine β) (i : Nat) (s : State β) (ctx : Context)
    (w : Machine (Watched β)) (after : Context) : Prop where
  result : (w.unwatched, after) = m.stayed step i s ctx
  ticked : w.Saw i (m.outset ++ [.update step]) []
  others : ∀ k, k ≠ i → w.Saw k [] []

/-- The machine leaves the state that was ticked for the one at another position. It runs the exit
behavior of the first once and does not update the second. -/
structure Switches (step : Float32) (m : Machine β) (i j : Nat) (s : State β) (ctx : Context)
    (w : Machine (Watched β)) (after : Context) : Prop where
  result : (w.unwatched, after) = m.switched step i j s ctx
  ticked : w.Saw i
    (m.outset ++ [.update step, .deactivate] ++ if i = j then [.reset, .activate] else [])
    (exitRun (tick step ctx s).2.2.settings.exitStep)
  target : i ≠ j → w.Saw j [.reset, .activate] []
  others : ∀ k, k ≠ i → k ≠ j → w.Saw k [] []

/-- One step of a machine: some state has its turn, is active and is ticked, and the machine stays
in it unless its tick makes it go elsewhere. The machine is watched from before the step. -/
def OneStep (step : Float32) (m : Machine β) (ctx : Context) (w : Machine (Watched β))
    (after : Context) : Prop :=
  ∃ i s ctx₁, m.Turn ctx i s ctx₁ ∧ s.active = true ∧
    (((∀ j, ¬ m.GoesTo step s ctx₁ j) ∧ m.Stays step i s ctx₁ w after) ∨
      ∃ j, m.GoesTo step s ctx₁ j ∧ m.Switches step i j s ctx₁ w after)

theorem goesTo_unwatched (step : Float32) (m : Machine (Watched β)) (s : State (Watched β))
    (ctx : Context) (j : Nat) :
    m.unwatched.GoesTo step s.unwatched ctx j ↔ m.GoesTo step s ctx j := by
  simp only [GoesTo, State.update_unwatched]
  exact Iff.rfl

variable [Ordered β] {strict : Bool} {step : Float32} {ctx ctx₁ : Context} {m : Machine β}
  {i j k : Nat} {s : State β}

theorem Orderly.placed {active : Bool} (orderly : m.Orderly strict active) : m.Placed :=
  ⟨orderly.index, orderly.current⟩

theorem Orderly.turn (orderly : m.Orderly strict true) (ctx : Context) :
    ∃ i s ctx₁, m.Turn ctx i s ctx₁ := by
  cases current : m.current with
  | some i =>
    have bound := orderly.current i current
    exact ⟨i, _, ctx, .current current (List.getElem?_eq_getElem bound)⟩
  | none =>
    obtain ⟨i, known⟩ := Option.isSome_iff_exists.mp orderly.initial
    have bound := orderly.index _ i known
    exact ⟨i, _, _, .initial current known (List.getElem?_eq_getElem bound)⟩

theorem Turn.active (orderly : m.Orderly strict true) (turn : m.Turn ctx i s ctx₁) :
    s.active = true := by
  cases turn with
  | current current found =>
    have status := (orderly.states i s found).1
    simpa [current] using status
  | initial => exact State.active_enter ctx _

/-- All states but the one whose turn it is are at rest. -/
theorem Turn.resting (orderly : m.Orderly strict true) (turn : m.Turn ctx i s ctx₁) {u : State β}
    (other : k ≠ i) (found : m.states[k]? = some u) : u.active = false := by
  have status := (orderly.states k u found).1
  cases turn with
  | current current _ =>
    have elsewhere : (i == k) = false := beq_false_of_ne (Ne.symm other)
    simpa [current, elsewhere] using status
  | initial idle => simpa [idle] using status

/-- The same state has its turn in a machine that is watched. -/
theorem Turn.watched (orderly : m.Orderly strict true) (turn : m.Turn ctx i s ctx₁) :
    ∃ s', m.watched.Turn ctx i s' ctx₁ ∧ s'.unwatched = s ∧ s'.Saw m.outset [] := by
  cases turn with
  | current current found =>
    have inside := m.getElem?_watched i
    rw [found, Option.map_some] at inside
    refine ⟨s.watched, .current current inside, s.unwatched_watched, ?_⟩
    rw [outset, current]
    exact s.saw_watched
  | @initial s idle known found =>
    have inside := m.getElem?_watched i
    rw [found, Option.map_some] at inside
    have resting : s.active = false := by simpa [idle] using (orderly.states i s found).1
    have same := State.enter_unwatched ctx s.watched
    rw [s.unwatched_watched] at same
    refine ⟨(s.watched.enter ctx).1, ?_, by rw [same], ?_⟩
    · rw [same]
      exact .initial idle known inside
    · rw [outset, idle]
      exact s.saw_watched.enter resting ctx

/-! ## Updates -/

section Updates

variable [Behaves.Quiet β] {s' : State (Watched β)}

omit [Ordered β] [Behaves.Quiet β] in
theorem saw_tick {l l' : List Behaves.Call} (saw : s'.Saw l l') (active : s'.active = true)
    (step : Float32) (ctx : Context) :
    (tick step ctx s').2.1.Saw (l ++ [.update step]) l' :=
  (saw.update active step ctx).checkTransitions step _

omit [Ordered β] [Behaves.Quiet β] in
theorem Turn.saw_stayed (turn : m.watched.Turn ctx i s' ctx₁) (saw : s'.Saw m.outset [])
    (active : s'.active = true) :
    (m.watched.stayed step i s' ctx₁).1.Saw i (m.outset ++ [.update step]) [] ∧
      ∀ k, k ≠ i → (m.watched.stayed step i s' ctx₁).1.Saw k [] [] := by
  refine ⟨?_, ?_⟩
  · intro t found
    have here := List.getElem?_set_self (a := (tick step ctx₁ s').2.1) turn.lt
    cases here.symm.trans found
    exact saw_tick saw active step ctx₁
  · intro k other t found
    have here := List.getElem?_set_ne (l := m.watched.states) (a := (tick step ctx₁ s').2.1)
      (Ne.symm other)
    exact m.saw_watched k t (here.symm.trans found)

omit [Ordered β] in
/-- The children of the state that is left, when nothing else is done to it. -/
theorem saw_left (saw : s'.Saw m.outset []) (active : s'.active = true) (step : Float32)
    (ctx : Context) :
    ((tick step ctx s').2.1.leave (tick step ctx s').2.2).1.Saw
      (m.outset ++ [.update step, .deactivate])
      (exitRun (tick step ctx s').2.2.settings.exitStep) := by
  have awake : (tick step ctx s').2.1.active = true := by
    rw [tick]
    exact (State.active_checkTransitions ..).trans ((s'.active_update step ctx).trans active)
  have left := (saw_tick saw active step ctx).leave awake (tick step ctx s').2.2
  rw [List.append_assoc] at left
  exact left

theorem Turn.saw_switched (orderly : m.Orderly strict true) (turn : m.Turn ctx i s ctx₁)
    (watched : m.watched.Turn ctx i s' ctx₁) (saw : s'.Saw m.outset [])
    (active : s'.active = true) (step : Float32) (j : Nat) :
    (m.watched.switched step i j s' ctx₁).1.Saw i
        (m.outset ++ [.update step, .deactivate] ++ if i = j then [.reset, .activate] else [])
        (exitRun (tick step ctx₁ s').2.2.settings.exitStep) ∧
      (i ≠ j → (m.watched.switched step i j s' ctx₁).1.Saw j [.reset, .activate] []) ∧
      ∀ k, k ≠ i → k ≠ j → (m.watched.switched step i j s' ctx₁).1.Saw k [] [] := by
  have left := saw_left saw active step ctx₁
  generalize leaves : (tick step ctx₁ s').2.1.leave (tick step ctx₁ s').2.2 = p at left
  have states : (m.watched.switched step i j s' ctx₁).1.states =
      (actAt State.enter p.2 j (m.watched.states.set i p.1)).1 := by
    rw [← leaves]
    rfl
  have here : (m.watched.states.set i p.1)[i]? = some p.1 :=
    List.getElem?_set_self watched.lt
  have elsewhere (k : Nat) (other : k ≠ i) :
      (m.watched.states.set i p.1)[k]? = m.watched.states[k]? :=
    List.getElem?_set_ne (Ne.symm other)
  refine ⟨?_, ?_, ?_⟩
  · intro t found
    rw [states, getElem?_actAt] at found
    by_cases again : i = j
    · subst again
      rw [if_pos rfl, here] at found
      cases found
      rw [if_pos rfl]
      refine left.enter ?_ p.2
      rw [← leaves]
      exact State.active_leave ..
    · rw [if_neg again, here] at found
      cases found
      rw [if_neg again, List.append_nil]
      exact left
  · intro apart t found
    rw [states, getElem?_actAt, if_pos rfl, elsewhere j (Ne.symm apart), m.getElem?_watched]
      at found
    rw [Option.map_map, Option.map_eq_some_iff] at found
    obtain ⟨u, inside, rfl⟩ := found
    exact u.saw_watched.enter (turn.resting orderly (Ne.symm apart) inside) p.2
  · intro k other apart t found
    rw [states, getElem?_actAt, if_neg apart, elsewhere k other] at found
    exact m.saw_watched k t found

/-- An update of a machine that is active and in order is one step. -/
theorem Orderly.oneStep (orderly : m.Orderly strict true) (step : Float32) (ctx : Context) :
    m.OneStep step ctx (m.watched.onUpdate step ctx).2.1 (m.watched.onUpdate step ctx).2.2 := by
  obtain ⟨i, s, ctx₁, turn⟩ := orderly.turn ctx
  obtain ⟨s', watched, rfl, saw⟩ := turn.watched orderly
  have awake : s'.unwatched.active = true := turn.active orderly
  have active : s'.active = true := awake
  have goes (j : Nat) : m.GoesTo step s'.unwatched ctx₁ j ↔ m.watched.GoesTo step s' ctx₁ j := by
    rw [← goesTo_unwatched, m.unwatched_watched]
  have same := onUpdate_unwatched ctx m.watched step
  rw [m.unwatched_watched] at same
  refine ⟨i, s'.unwatched, ctx₁, turn, awake, ?_⟩
  by_cases nowhere : ∀ j, ¬ m.GoesTo step s'.unwatched ctx₁ j
  · have stays := turn.onUpdate_stayed nowhere
    have staysWatched := watched.onUpdate_stayed fun j goes' => nowhere j ((goes j).mpr goes')
    obtain ⟨ticked, others⟩ := watched.saw_stayed saw active
    rw [same] at stays
    rw [← staysWatched] at ticked others
    exact Or.inl ⟨nowhere, stays, ticked, others⟩
  · rw [not_forall] at nowhere
    obtain ⟨j, goes'⟩ := nowhere
    have goes' := not_not.mp goes'
    have switches := turn.onUpdate_switched goes'
    have switchesWatched := watched.onUpdate_switched ((goes j).mp goes')
    obtain ⟨ticked, target, others⟩ := turn.saw_switched orderly watched saw active step j
    have settings : (Machine.tick step ctx₁ s').2.2 =
        (Machine.tick step ctx₁ s'.unwatched).2.2 := by
      rw [tick_unwatched]
    rw [same] at switches
    rw [← switchesWatched] at ticked target others
    rw [settings] at ticked
    exact Or.inr ⟨j, goes', switches, ticked, target, others⟩

end Updates

/-! ## Other calls -/

section Exits

omit [Ordered β]

omit [Behaves β] in
theorem exits_actOnCurrent {f : Context → State β → State β × Context}
    (keeps : ∀ ctx s, (f ctx s).1.exit = s.exit) (ctx : Context) (m : Machine β) :
    (m.actOnCurrent f ctx).1.exits = m.exits := by
  unfold actOnCurrent
  split
  · rfl
  · exact map_actAt keeps ..

theorem exits_onActivate (ctx : Context) (m : Machine β) :
    (m.onActivate ctx).1.exits = m.exits := by
  unfold onActivate enterInitial
  split
  · exact exits_actOnCurrent State.exit_activate ctx m
  · split
    · rfl
    · exact exits_actOnCurrent State.exit_enter ctx _

/-- Only an update of an active machine reaches an exit behavior. -/
theorem exits_perform (ctx : Context) {active : Bool} (m : Machine β) {call : Behaves.Call}
    (idle : (∀ step, call ≠ .update step) ∨ active = false) :
    (m.perform ctx active call).1.exits = m.exits := by
  have rested := exits_actOnCurrent State.exit_deactivate ctx m
  cases call with
  | activate =>
    cases active with
    | true => rfl
    | false => exact exits_onActivate ctx m
  | deactivate =>
    cases active with
    | true => exact rested
    | false => rfl
  | reset => exact rested
  | update step =>
    rcases idle with other | rfl
    · exact absurd rfl (other step)
    · rfl
  | trigger tag =>
    cases active with
    | true =>
      show (m.onTrigger tag).exits = m.exits
      unfold onTrigger
      split
      · rfl
      · exact map_modify (State.exit_onTrigger tag) ..
    | false => rfl

end Exits

theorem Orderly.perform [Behaves.Disciplined β] {active : Bool} (orderly : m.Orderly false active)
    (ctx : Context) (call : Behaves.Call) :
    ∃ after, (m.perform ctx active call).1.Orderly false after := by
  cases call with
  | activate =>
    cases active with
    | true => exact ⟨true, orderly⟩
    | false => exact ⟨true, orderly.onActivate ctx⟩
  | deactivate =>
    cases active with
    | true => exact ⟨false, orderly.deactivateCurrent ctx⟩
    | false => exact ⟨false, orderly⟩
  | reset => exact ⟨active, orderly.onReset nofun ctx⟩
  | update step =>
    cases active with
    | true => exact ⟨true, orderly.onUpdate _ ctx⟩
    | false => exact ⟨false, orderly⟩
  | trigger tag =>
    cases active with
    | true => exact ⟨true, orderly.onTrigger tag⟩
    | false => exact ⟨false, orderly⟩

end Machine

/-! ## Destruction -/

structure Lifeless (β : Type) where
  node : β

namespace Lifeless

variable [Behaves β]

instance behaves : Behaves (Lifeless β) where
  isActive _ := false
  activate ctx b := (b, ctx)
  deactivate ctx b := (b, ctx)
  reset ctx b := (b, ctx)
  update step ctx b := (step, b, ctx)
  canStop _ := true
  onTrigger _ b := b
  destroy ctx b := Behaves.destroy ctx b.node
  abandon bus b := Behaves.abandon bus b.node

end Lifeless

theorem State.release_lifeless [Behaves β] (ctx : Context) (s : State β) :
    (s.map Lifeless.mk).release ctx = s.release ctx := by
  obtain ⟨active, id, endEvent, behavior, exit, transitions, ended⟩ := s
  cases behavior <;> cases exit <;> rfl

/-- When a machine is destroyed, its children are asked for nothing but their destruction. -/
theorem Machine.onDestroy_lifeless [Behaves β] (ctx : Context) (m : Machine β) :
    (m.map Lifeless.mk).onDestroy ctx = m.onDestroy ctx := by
  show (m.states.map (State.map Lifeless.mk)).foldl State.release ctx = _
  rw [List.foldl_map]
  simp only [State.release_lifeless]
  rfl

theorem Node.logic_of_fsm {n : Node β} (type : n.logic.type = .fsm) :
    ∃ m, n.logic = .machine m := by
  cases logic : n.logic with
  | machine m => exact ⟨m, rfl⟩
  | task t =>
    rw [logic] at type
    cases t with
    | deed d => cases d <;> cases type
    | _ => cases type
  | _ =>
    rw [logic] at type
    cases type

/-- After any history, all positions that a machine stores are those of its states, and an update
of a machine that is active is one step. A call that is no such update, and the destruction of the
machine, reach no exit behavior. To watch the children changes nothing of what is done. -/
theorem machine_updates_are_single_steps (r : Registry) (ctx₀ : Context) (c : Config) (h : Handle)
    (created : (Handle.create? r ctx₀ (some .behavior) c).1 = some h)
    (fsm : h.type = .behavior .fsm) (calls : List (Context × Handle.Call)) :
    ∃ (n : Node (Behavior c.height)) (m : Machine (Behavior c.height)),
      h.run calls = .live c.height (.behavior n) ∧ n.logic = .machine m ∧ m.Placed ∧
      (∀ (ctx : Context) (call : Behaves.Call),
        let after := Behaves.perform ctx n call
        let watched := m.watched.perform ctx n.active call
        after.1.logic = .machine watched.1.unwatched ∧ after.2 = watched.2 ∧
        watched.1.unwatched.Placed ∧
        (∀ step, call = .update step → n.active = true →
          m.OneStep (if step < 0 then 0 else step) ctx watched.1 watched.2) ∧
        ((∀ step, call ≠ .update step) ∨ n.active = false →
          watched.1.exits = m.watched.exits)) ∧
      (∀ ctx, Behaves.destroy ctx n = (m.map Lifeless.mk).onDestroy ctx) := by
  obtain ⟨n₀, made, rfl⟩ := Handle.create?_behavior created
  have begun := (create_begun false r c.height ctx₀ c).fresh _ made
  obtain ⟨n, ran, ordered, form⟩ := Handle.KeepsForm.run ⟨n₀, rfl, begun.2, rfl⟩ calls
  have type : n.logic.type = .fsm := by
    have same : n.logic.pristine = n₀.logic.pristine := congrArg (·.logic) form
    rw [← n.logic.type_pristine, same, Logic.type_pristine]
    exact NodeType.behavior.inj fsm
  obtain ⟨m, logic⟩ := n.logic_of_fsm type
  have orderly : m.Orderly false n.active := by
    have ordered : n.logic.Orderly false n.active := ordered
    rw [logic] at ordered
    exact ordered
  refine ⟨n, m, ran, logic, orderly.placed, ?_, ?_⟩
  · intro ctx call after watched
    obtain ⟨result, context⟩ := Node.perform_machine logic ctx call
    obtain ⟨same, same'⟩ := m.perform_watched ctx n.active call
    obtain ⟨_, kept⟩ := orderly.perform ctx call
    refine ⟨?_, context.trans same'.symm, ?_, ?_, m.watched.exits_perform ctx⟩
    · rw [same]
      exact result
    · rw [same]
      exact kept.placed
    · intro step update active
      subst update
      rw [active] at orderly
      have one := orderly.oneStep (if step < 0 then 0 else step) ctx
      simp only [watched, active]
      exact one
  · intro ctx
    rw [Machine.onDestroy_lifeless]
    show n.logic.onDestroy ctx = _
    rw [logic]
    rfl

def spinConfig : Config :=
  Build.fsm "spin" [{
    id := "spin"
    exit := some (Build.setVar "spun" (.bool true))
    transitions := [
      Build.transition { condition := some (Build.constant true), onTrue := some "spin" }] }]

theorem machine_updates_are_single_steps_of_spin :
    ∃ h, (Handle.create? .standard emptyStage (some .behavior) spinConfig).1 = some h ∧
      ∃ (n : Node (Behavior spinConfig.height)) (m : Machine (Behavior spinConfig.height)),
        h.run [(emptyStage, .activate), (emptyStage, .reset)] =
          .live spinConfig.height (.behavior n) ∧
        n.active = true ∧ m.Placed ∧
        let after := m.watched.perform emptyStage n.active (.update 1)
        m.OneStep 1 emptyStage after.1 after.2 := by
  obtain ⟨n, m, ran, -, placed, calls, -⟩ := machine_updates_are_single_steps .standard
    emptyStage spinConfig _ rfl rfl [(emptyStage, .activate), (emptyStage, .reset)]
  have active : n.active = true := by
    cases ran
    rfl
  obtain ⟨-, -, -, one, -⟩ := calls emptyStage (.update 1)
  have positive : ¬ (1 : Float32) < 0 := by decide
  have one := one 1 rfl active
  rw [if_neg positive] at one
  exact ⟨_, rfl, n, m, ran, active, placed, one⟩

end SkillScript
