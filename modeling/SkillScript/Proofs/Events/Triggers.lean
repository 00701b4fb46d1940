import SkillScript.Proofs.Status.ActivePath
import SkillScript.Proofs.Status.Finality
import SkillScript.Proofs.Tree.Conditions
/-!
# Whom a trigger reaches

A trigger is passed down along what is running: by a sequence to the child at its index,
by a parallel to the children that are not through, by a machine to its current state.
In an orderly tree these are exactly the active nodes. So a trigger does to the tree
what one would do to it who knew nothing of sequences, parallels and machines: go to
every sensor there is, and set the latch if the sensor is for triggers of this tag and
active. No call but a reset clears a latch that was set.
-/
set_option autoImplicit false
namespace SkillScript

/-! ## All sensors of a tree -/

/-- What has sensors in it, which may each be changed. What becomes of a sensor may depend on
whether it is active. -/
class Sensing (α : Type) where
  mapSensors : (Bool → Sensor → Sensor) → α → α

export Sensing (mapSensors)

instance : Sensing Empty where
  mapSensors _ b := nomatch b

mutual

def Condition.mapSensors (f : Bool → Sensor → Sensor) : Condition → Condition
  | .sensor active x => .sensor active (f active x)
  | .gate active g children => .gate active g (Condition.mapSensorsAll f children)

def Condition.mapSensorsAll (f : Bool → Sensor → Sensor) : List Condition → List Condition
  | [] => []
  | c :: rest => Condition.mapSensors f c :: Condition.mapSensorsAll f rest

end

instance Condition.sensing : Sensing Condition where
  mapSensors := Condition.mapSensors

instance Transition.sensing : Sensing Transition where
  mapSensors f t := { t with condition := mapSensors f t.condition }

variable {β : Type} [Sensing β]

instance State.sensing : Sensing (State β) where
  mapSensors f s :=
    { s with
      behavior := s.behavior.map (mapSensors f)
      exit := s.exit.map (mapSensors f)
      transitions := s.transitions.map (mapSensors f) }

instance Lane.sensing : Sensing (Lane β) where
  mapSensors f l := { l with child := mapSensors f l.child }

instance Logic.sensing : Sensing (Logic β) where
  mapSensors f
    | .task t => .task t
    | .sequence s => .sequence { s with children := s.children.map (mapSensors f) }
    | .parallel p => .parallel { p with lanes := p.lanes.map (mapSensors f) }
    | .machine m => .machine { m with states := m.states.map (mapSensors f) }

instance Node.sensing : Sensing (Node β) where
  mapSensors f n := { n with logic := mapSensors f n.logic }

instance Behavior.sensing : (height : Nat) → Sensing (Behavior height)
  | 0 => inferInstanceAs (Sensing Empty)
  | height + 1 =>
    let _ := sensing height
    inferInstanceAs (Sensing (Node (Behavior height)))

/-- What a sensor is to become when there is a trigger: the latch is set if it was set before, or if
the sensor is active and has the tag of the trigger. -/
def Sensor.hear (tag : String) (active : Bool) : Sensor → Sensor
  | .trigger own fired => .trigger own (fired || (active && decide (own = tag)))
  | x => x

/-! ## Conditions and transitions -/

namespace Condition

theorem mapSensorsAll_eq (f : Bool → Sensor → Sensor) (cs : List Condition) :
    mapSensorsAll f cs = cs.map (mapSensors f) := by
  induction cs with
  | nil => rfl
  | cons c rest ih => rw [mapSensorsAll, ih, List.map_cons]

theorem onTrigger_of_resting {c : Condition} (tag : String) (resting : c.isActive = false) :
    c.onTrigger tag = c := by
  cases c with
  | sensor active x =>
    cases resting
    rfl
  | gate active g children =>
    cases resting
    rfl

theorem onTrigger_eq {c : Condition} (tag : String) :
    c.Orderly → c.onTrigger tag = mapSensors (Sensor.hear tag) c := by
  induction c using byChildren with
  | sensor active x =>
    intro _
    cases active with
    | false => cases x <;> simp [onTrigger, mapSensors, Sensor.hear]
    | true => cases x <;> simp [onTrigger, mapSensors, Sensor.hear, Sensor.onTrigger, eq_comm]
  | gate active g children ih =>
    intro orderly
    have below := (orderlyAll_iff active children).mp orderly
    have heard : children.map (mapSensors (Sensor.hear tag)) = children.map (onTrigger tag) :=
      List.map_congr_left fun c member => (ih c member (below c member).2).symm
    rw [mapSensors, mapSensorsAll_eq, heard]
    cases active with
    | true => rw [onTrigger, onTriggerAll_eq]
    | false =>
      have still : children.map (onTrigger tag) = children :=
        map_of_fixed fun c member => onTrigger_of_resting tag (below c member).1
      rw [still]
      exact onTrigger_of_resting tag rfl

end Condition

namespace Transition

theorem onTrigger_of_resting {t : Transition} (tag : String) (resting : t.active = false) :
    t.onTrigger tag = t := by
  rw [onTrigger, if_neg (by simp [resting])]

theorem onTrigger_eq {t : Transition} (tag : String) (orderly : t.Orderly) :
    t.onTrigger tag = mapSensors (Sensor.hear tag) t := by
  have heard := Condition.onTrigger_eq tag orderly.condition
  show _ = { t with condition := t.condition.mapSensors (Sensor.hear tag) }
  rw [← heard]
  unfold onTrigger
  split
  · rfl
  · rename_i resting
    have below : t.condition.isActive = false := by
      rw [orderly.runs]
      exact Bool.eq_false_iff.mpr resting
    rw [Condition.onTrigger_of_resting tag below]

end Transition

/-! ## Trees -/

class Behaves.Alert (β : Type) [Behaves β] [Ordered β] [Sensing β] : Prop where
  onTrigger_of_resting (tag : String) {b : β} (resting : isActive b = false) :
    onTrigger tag b = b
  onTrigger_eq {strict : Bool} (tag : String) {b : β} (orderly : Ordered.Orderly strict b) :
    onTrigger tag b = mapSensors (Sensor.hear tag) b

instance : Behaves.Alert Empty where
  onTrigger_of_resting _ b := nomatch b
  onTrigger_eq _ b := nomatch b

open Behaves.Alert

variable [Behaves β] [Ordered β] [Behaves.Alert β] {strict : Bool} (tag : String)

/-- Nothing changes in a behavior that is not active. -/
theorem Behaves.mapSensors_of_resting {b : β} (orderly : Ordered.Orderly strict b)
    (resting : isActive b = false) : mapSensors (Sensor.hear tag) b = b :=
  (onTrigger_eq tag orderly).symm.trans (onTrigger_of_resting tag resting)

namespace State

omit [Sensing β] [Ordered β] [Behaves.Alert β] in
theorem onTrigger_of_resting {s : State β} (resting : s.active = false) :
    s.onTrigger tag = s := by
  rw [onTrigger, if_neg (by simp [resting])]

theorem onTrigger_eq {s : State β} (orderly : s.Orderly strict) :
    s.onTrigger tag = mapSensors (Sensor.hear tag) s := by
  have behavior : s.behavior.map (mapSensors (Sensor.hear tag)) =
      s.behavior.map (Behaves.onTrigger tag) := by
    refine Option.map_congr fun b member => ?_
    exact (Behaves.Alert.onTrigger_eq tag (orderly.behavior b member).2).symm
  have exit : s.exit.map (mapSensors (Sensor.hear tag)) = s.exit := by
    cases place : s.exit with
    | none => rfl
    | some b =>
      obtain ⟨resting, below⟩ := orderly.exit b place
      exact congrArg some (Behaves.mapSensors_of_resting tag below resting)
  have transitions : s.transitions.map (mapSensors (Sensor.hear tag)) =
      s.transitions.map (Transition.onTrigger tag) :=
    List.map_congr_left fun t member =>
      (Transition.onTrigger_eq tag (orderly.transitions t member).2).symm
  show _ = { s with
    behavior := s.behavior.map (mapSensors (Sensor.hear tag))
    exit := s.exit.map (mapSensors (Sensor.hear tag))
    transitions := s.transitions.map (mapSensors (Sensor.hear tag)) }
  rw [behavior, exit, transitions]
  unfold onTrigger
  split
  · rfl
  · rename_i resting
    have still : s.behavior.map (Behaves.onTrigger tag) = s.behavior := by
      cases place : s.behavior with
      | none => rfl
      | some b =>
        have runs := (orderly.behavior b place).1
        exact congrArg some (Behaves.Alert.onTrigger_of_resting tag
          (runs.trans (Bool.eq_false_iff.mpr resting)))
    have quiet : s.transitions.map (Transition.onTrigger tag) = s.transitions :=
      map_of_fixed fun t member => Transition.onTrigger_of_resting tag
        ((orderly.transitions t member).1.trans (Bool.eq_false_iff.mpr resting))
    rw [still, quiet]

end State

namespace Logic

/-- A node passes a trigger on to those below it that are active. -/
theorem onTrigger_eq {l : Logic β} (orderly : l.Orderly strict true) :
    l.onTrigger tag = mapSensors (Sensor.hear tag) l := by
  cases l with
  | task t => rfl
  | sequence s =>
    have children : s.children.modify s.index (Behaves.onTrigger tag) =
        s.children.map (mapSensors (Sensor.hear tag)) := by
      refine modify_eq_map (fun c member => ?_) (fun i c found other => ?_)
      · obtain ⟨i, found⟩ := List.mem_iff_getElem?.mp member
        exact Behaves.Alert.onTrigger_eq tag (Sequence.Orderly.children orderly i c found).2
      · refine Behaves.Alert.onTrigger_of_resting tag ?_
        rw [(Sequence.Orderly.children orderly i c found).1]
        simp [other]
    exact congrArg (fun children => sequence { s with children := children }) children
  | parallel p =>
    have lanes : (p.lanes.map fun l =>
        if l.finished then l else { l with child := Behaves.onTrigger tag l.child }) =
        p.lanes.map (mapSensors (Sensor.hear tag)) := by
      refine List.map_congr_left fun l member => ?_
      obtain ⟨runs, below⟩ := Parallel.Orderly.lanes orderly l member
      have heard := Behaves.Alert.onTrigger_eq tag below
      show _ = { l with child := mapSensors (Sensor.hear tag) l.child }
      rw [← heard]
      split
      · rename_i through
        rw [Behaves.Alert.onTrigger_of_resting tag (runs.trans (by simp [through]))]
      · rfl
    exact congrArg (fun lanes => parallel { p with lanes := lanes }) lanes
  | machine m =>
    have heard : ∀ s ∈ m.states, s.onTrigger tag = mapSensors (Sensor.hear tag) s := by
      intro s member
      obtain ⟨i, found⟩ := List.mem_iff_getElem?.mp member
      exact State.onTrigger_eq tag (Machine.Orderly.states orderly i s found).2
    have others : ∀ i s, m.states[i]? = some s → m.current ≠ some i → s.onTrigger tag = s := by
      intro i s found other
      refine State.onTrigger_of_resting tag ?_
      rw [(Machine.Orderly.states orderly i s found).1]
      simp [other]
    have states : (m.onTrigger tag).states = m.states.map (mapSensors (Sensor.hear tag)) := by
      unfold Machine.onTrigger
      cases current : m.current with
      | none =>
        refine (map_of_fixed fun s member => ?_).symm
        obtain ⟨i, found⟩ := List.mem_iff_getElem?.mp member
        rw [← heard s member]
        exact others i s found (by simp [current])
      | some i =>
        refine modify_eq_map heard fun j s found other => ?_
        refine others j s found ?_
        rw [current]
        intro same
        exact other (Option.some.inj same).symm
    have rest : m.onTrigger tag = { m with states := (m.onTrigger tag).states } := by
      unfold Machine.onTrigger
      split <;> rfl
    show machine (m.onTrigger tag) = _
    rw [rest, states]
    rfl

/-- Below a node that is not active nothing is active. -/
theorem mapSensors_of_resting {l : Logic β} (orderly : l.Orderly strict false) :
    mapSensors (Sensor.hear tag) l = l := by
  cases l with
  | task t => rfl
  | sequence s =>
    have children : s.children.map (mapSensors (Sensor.hear tag)) = s.children := by
      refine map_of_fixed fun c member => ?_
      obtain ⟨i, found⟩ := List.mem_iff_getElem?.mp member
      exact Behaves.mapSensors_of_resting tag (Sequence.Orderly.children orderly i c found).2
        (Sequence.Orderly.resting orderly found)
    exact congrArg (fun children => sequence { s with children := children }) children
  | parallel p =>
    have lanes : p.lanes.map (mapSensors (Sensor.hear tag)) = p.lanes := by
      refine map_of_fixed fun l member => ?_
      obtain ⟨runs, below⟩ := Parallel.Orderly.lanes orderly l member
      exact congrArg (fun child => { l with child := child })
        (Behaves.mapSensors_of_resting tag below (by simpa using runs))
    exact congrArg (fun lanes => parallel { p with lanes := lanes }) lanes
  | machine m =>
    have states : m.states.map (mapSensors (Sensor.hear tag)) = m.states := by
      refine map_of_fixed fun s member => ?_
      obtain ⟨i, found⟩ := List.mem_iff_getElem?.mp member
      obtain ⟨runs, below⟩ := Machine.Orderly.states orderly i s found
      rw [← State.onTrigger_eq tag below]
      exact State.onTrigger_of_resting tag (by simpa using runs)
    exact congrArg (fun states => machine { m with states := states }) states

end Logic

instance Node.alert : Behaves.Alert (Node β) where
  onTrigger_of_resting tag n resting := by
    have resting : n.active = false := resting
    show n.onTrigger tag = n
    rw [onTrigger, if_neg (by simp [resting])]
  onTrigger_eq {strict} tag n orderly := by
    obtain ⟨active, begun, logic⟩ := n
    cases active with
    | true =>
      have heard := Logic.onTrigger_eq (l := logic) tag orderly
      exact congrArg (fun logic => Node.mk true begun logic) heard
    | false =>
      have still := Logic.mapSensors_of_resting (l := logic) tag orderly
      exact congrArg (fun logic => Node.mk false begun logic) still.symm

instance Behavior.alert : (height : Nat) → Behaves.Alert (Behavior height)
  | 0 => inferInstanceAs (Behaves.Alert Empty)
  | height + 1 =>
    have := alert height
    inferInstanceAs (Behaves.Alert (Node (Behavior height)))

/-! ## What keeps the latches -/

/-- The tag of a sensor for triggers, and whether its latch is set. -/
def Sensor.latch? : Sensor → Option (String × Bool)
  | .trigger own fired => some (own, fired)
  | _ => none

/-- A latch that was set is still set. -/
def Retained (latch latch' : Option (String × Bool)) : Prop :=
  ∀ own, latch = some (own, true) → latch' = some (own, true)

theorem Retained.refl (latch : Option (String × Bool)) : Retained latch latch :=
  fun _ fired => fired

theorem Retained.trans {a b c : Option (String × Bool)} (first : Retained a b)
    (second : Retained b c) : Retained a c :=
  fun own fired => second own (first own fired)

theorem forall₂_retained_trans {a b c : List (Option (String × Bool))}
    (first : List.Forall₂ Retained a b) (second : List.Forall₂ Retained b c) :
    List.Forall₂ Retained a c := by
  induction first generalizing c with
  | nil => exact second
  | cons head _ ih =>
    cases second with
    | cons head' rest => exact .cons (head.trans head') (ih rest)

theorem forall₂_retained_of_eq {l l' : List (Option (String × Bool))} (same : l' = l) :
    List.Forall₂ Retained l l' := by
  subst same
  exact List.forall₂_same.mpr fun latch _ => Retained.refl latch

namespace Condition

def latches (c : Condition) : List (Option (String × Bool)) :=
  c.readings Sensor.latch?

theorem latches_activate (ctx : Context) (c : Condition) :
    (c.activate ctx).1.latches = c.latches := by
  refine readings_activate (fun bus x => ?_) ctx c
  cases x with
  | event name ownerOnly receiver fired => cases receiver <;> rfl
  | _ => rfl

theorem latches_deactivate (ctx : Context) (c : Condition) :
    (c.deactivate ctx).1.latches = c.latches := by
  refine readings_deactivate (fun bus x => ?_) ctx c
  cases x with
  | event name ownerOnly receiver fired => cases receiver <;> rfl
  | _ => rfl

theorem latches_update (step : Float32) (ctx : Context) (c : Condition) :
    (c.update step ctx).1.latches = c.latches := by
  refine readings_update (fun step s x => ?_) step ctx c
  cases x with
  | event name ownerOnly receiver fired => cases receiver <;> rfl
  | _ => rfl

theorem latches_check (s : Scope) (c : Condition) : (c.check s).2.latches = c.latches := by
  refine readings_check (fun x => ?_) c
  cases x with
  | event name ownerOnly receiver fired => cases receiver <;> rfl
  | _ => rfl

/-- A trigger clears no latch. -/
theorem retained_onTrigger (tag : String) (c : Condition) :
    List.Forall₂ Retained c.latches (c.onTrigger tag).latches := by
  induction c using byChildren with
  | sensor active x =>
    have kept : Retained x.latch? (x.onTrigger tag).latch? := by
      cases x with
      | trigger own fired =>
        intro other set
        cases set
        rfl
      | _ => exact Retained.refl _
    cases active with
    | false => exact forall₂_retained_of_eq rfl
    | true => exact .cons kept .nil
  | gate active g children ih =>
    cases active with
    | false => exact forall₂_retained_of_eq rfl
    | true =>
      rw [onTrigger, onTriggerAll_eq, latches, latches, readings_gate, readings_gate, List.map_map]
      refine List.rel_flatten (List.forall₂_map_left_iff.mpr (List.forall₂_map_right_iff.mpr ?_))
      exact List.forall₂_same.mpr ih

end Condition

namespace Transition

def latches (t : Transition) : List (Option (String × Bool)) :=
  t.condition.latches

theorem latches_activate (ctx : Context) (t : Transition) :
    (t.activate ctx).1.latches = t.latches := by
  unfold activate
  split
  · rfl
  · exact t.condition.latches_activate ctx

theorem latches_deactivate (ctx : Context) (t : Transition) :
    (t.deactivate ctx).1.latches = t.latches := by
  unfold deactivate
  split
  · exact t.condition.latches_deactivate ctx
  · rfl

/-- A check clears no latch, whether or not the condition is due. -/
theorem latches_check (step : Float32) (ctx : Context) (t : Transition) :
    (t.check step ctx).2.1.latches = t.latches := by
  have updated := t.condition.latches_update (Number.atLeastZero step) ctx
  rw [check_eq]
  split
  · generalize t.condition.update (Number.atLeastZero step) ctx = p at updated ⊢
    have waited :
        ({ t with condition := p.1 }.wait p.2.settings (Number.atLeastZero step)).2.latches =
          t.latches := by
      rw [latches, condition_wait]
      exact updated
    dsimp only
    split
    · exact (Condition.latches_check p.2.toScope _).trans waited
    · exact waited
  · rfl

theorem latches_checkFirst (step : Float32) (ctx : Context) (ts : List Transition) :
    (checkFirst step ctx ts).2.1.map latches = ts.map latches := by
  induction ts generalizing ctx with
  | nil => rfl
  | cons t rest ih =>
    have checked := t.latches_check step ctx
    simp only [checkFirst]
    split
    · rename_i asked
      rw [asked] at checked
      simp only [List.map_cons, checked]
    · rename_i asked
      rw [asked] at checked
      simp only [List.map_cons, checked, ih]

theorem retained_onTrigger (tag : String) (t : Transition) :
    List.Forall₂ Retained t.latches (t.onTrigger tag).latches := by
  unfold onTrigger
  split
  · exact t.condition.retained_onTrigger tag
  · exact forall₂_retained_of_eq rfl

end Transition

namespace State

variable {s : State β}

def latches {β : Type} (s : State β) : List (Option (String × Bool)) :=
  (s.transitions.map Transition.latches).flatten

omit [Sensing β] [Ordered β] [Behaves.Alert β]

theorem latches_activate (ctx : Context) : (s.activate ctx).1.latches = s.latches := by
  unfold activate
  split
  · rfl
  · exact congrArg List.flatten (map_actAll Transition.latches_activate _ _)

theorem latches_deactivate (ctx : Context) : (s.deactivate ctx).1.latches = s.latches := by
  unfold deactivate
  split
  · exact congrArg List.flatten (map_actAll Transition.latches_deactivate _ _)
  · rfl

theorem latches_update (step : Float32) (ctx : Context) :
    (s.update step ctx).1.latches = s.latches := by
  unfold update
  split
  · dsimp only
    split <;> rfl
  · rfl

omit [Behaves β] in
theorem latches_checkTransitions (step : Float32) (ctx : Context) :
    (s.checkTransitions step ctx).2.1.latches = s.latches := by
  unfold checkTransitions
  split
  · exact congrArg List.flatten (Transition.latches_checkFirst step ctx s.transitions)
  · rfl

theorem retained_onTrigger : List.Forall₂ Retained s.latches (s.onTrigger tag).latches := by
  unfold onTrigger
  split
  · refine List.rel_flatten (List.forall₂_map_left_iff.mpr (List.forall₂_map_right_iff.mpr ?_))
    refine List.forall₂_map_right_iff.mpr (List.forall₂_same.mpr ?_)
    intro t _
    exact t.retained_onTrigger tag
  · exact forall₂_retained_of_eq rfl

end State

namespace Handle

def latches : Handle → List (Option (String × Bool))
  | live _ (.condition c) => c.latches
  | live _ (.transition t) => t.latches
  | live _ (.state s) => s.latches
  | _ => []

/-- Whatever is asked of a node, short of a reset, clears none of its latches. -/
theorem retained_call {c : Call} (h : Handle) (ctx : Context) (continues : c.restarts = false) :
    List.Forall₂ Retained h.latches (h.call ctx c).1.latches := by
  cases h with
  | fresh type =>
    refine forall₂_retained_of_eq ?_
    cases c with
    | check step => cases type <;> rfl
    | _ => rfl
  | gone type remains =>
    refine forall₂_retained_of_eq ?_
    cases c with
    | check step => cases type <;> rfl
    | _ => rfl
  | live height n =>
    cases n with
    | behavior n => cases c <;> exact forall₂_retained_of_eq rfl
    | condition x =>
      cases c with
      | reset => cases continues
      | enter => cases continues
      | leave => exact forall₂_retained_of_eq rfl
      | activate => exact forall₂_retained_of_eq (x.latches_activate ctx)
      | deactivate => exact forall₂_retained_of_eq (x.latches_deactivate ctx)
      | update step => exact forall₂_retained_of_eq (x.latches_update step ctx)
      | check step => exact forall₂_retained_of_eq (x.latches_check ctx.toScope)
      | trigger tag => exact x.retained_onTrigger tag
    | transition t =>
      cases c with
      | reset => cases continues
      | enter => cases continues
      | leave => exact forall₂_retained_of_eq rfl
      | activate => exact forall₂_retained_of_eq (t.latches_activate ctx)
      | deactivate => exact forall₂_retained_of_eq (t.latches_deactivate ctx)
      | update step => exact forall₂_retained_of_eq rfl
      | check step => exact forall₂_retained_of_eq (t.latches_check step ctx)
      | trigger tag => exact t.retained_onTrigger tag
    | state s =>
      cases c with
      | reset => cases continues
      | enter => cases continues
      | leave => exact forall₂_retained_of_eq (s.latches_deactivate ctx)
      | activate => exact forall₂_retained_of_eq (s.latches_activate ctx)
      | deactivate => exact forall₂_retained_of_eq (s.latches_deactivate ctx)
      | update step => exact forall₂_retained_of_eq (s.latches_update step ctx)
      | check step => exact forall₂_retained_of_eq (s.latches_checkTransitions step ctx)
      | trigger tag => exact s.retained_onTrigger tag

theorem retained_run (h : Handle) (calls : List (Context × Call))
    (continues : ∀ p ∈ calls, p.2.restarts = false) :
    List.Forall₂ Retained h.latches (h.run calls).latches := by
  induction calls generalizing h with
  | nil => exact forall₂_retained_of_eq rfl
  | cons p rest ih =>
    obtain ⟨first, later⟩ := List.forall_mem_cons.mp continues
    exact forall₂_retained_trans (h.retained_call p.1 first) (ih (h.call p.1 p.2).1 later)

end Handle

/-- Until it is disposed of, and whatever its history, an agent takes a trigger as follows: the
payload is merged into its variables, where it wins; and of all sensors of its tree, those for
triggers of this tag that are active have their latches set. Nothing else changes. And whatever is
asked of a condition, a transition or a state, a latch that is set stays set until the node is
reset. -/
theorem triggers_reach_active_latches (r : Registry) (script : Script) (owner : EntityId)
    (castTag : CastTag) (vars : Vars) (w w' : World) (a : Agent)
    (calls : List (World × Agent.Call)) (t : Tree) (tag : String) (payload : Vars)
    (started : Agent.init r script owner castTag vars w = (.ok a, w'))
    (alive : (a.run calls).tree = some t) :
    (∃ vars', (∀ name, vars'.find? name = (payload.find? name).or ((a.run calls).vars.find? name)) ∧
      (a.run calls).trigger tag payload =
        { a.run calls with
          vars := vars'
          tree := some ⟨t.height, mapSensors (Sensor.hear tag) t.root⟩ }) ∧
    ∀ (h : Handle) (asked : List (Context × Handle.Call)),
      (∀ p ∈ asked, p.2.restarts = false) →
        List.Forall₂ Retained h.latches (h.run asked).latches := by
  have onPath := (Agent.init_onPath started).run calls
  have heard := Behaves.Alert.onTrigger_eq tag (onPath.below t alive)
  refine ⟨⟨(a.run calls).vars.union payload, ?_, ?_⟩, Handle.retained_run⟩
  · intro name
    exact Table.find?_union _ _ _
  · simp only [Agent.trigger, alive, heard]

def doorScript : Script :=
  ⟨"door", Build.sequence [
    Build.wait 1,
    Build.fsm "shut" [
      { id := "shut"
        transitions := [
          Build.transition { condition := some (Build.trigger "open"), onTrue := some "ajar" }] },
      { id := "ajar"
        behavior := some (Build.wait 2)
        transitions := [
          Build.transition { condition := some (Build.trigger "open"), onTrue := some "wide" }] },
      { id := "wide", behavior := some (Build.setVar "passable" (.bool true)) }]]⟩

def doorCalls : List (World × Agent.Call) :=
  [({}, .trigger "open" ∅), ({}, .update 1.5), ({}, .trigger "open" ∅), ({}, .update 0.5)]

theorem triggers_reach_active_latches_of_door :
    ∃ a w, Agent.init .standard doorScript ⟨0⟩ ⟨0⟩ ∅ {} = (.ok a, w) ∧
      (a.run doorCalls).tree.isSome = true ∧
      (∀ t, (a.run doorCalls).tree = some t →
        ((a.run doorCalls).trigger "open" ∅).tree =
          some ⟨t.height, mapSensors (Sensor.hear "open") t.root⟩) ∧
      let opened := a.run (doorCalls ++
        [(({} : World), .trigger "open" ∅), ({}, .update 2), ({}, .update 2)])
      opened.vars.find? "passable" = some (.bool true) := by
  refine ⟨_, _, rfl, by decide +kernel, ?heard, by decide +kernel⟩
  case heard =>
    intro t alive
    obtain ⟨⟨vars', -, reached⟩, -⟩ := triggers_reach_active_latches .standard doorScript ⟨0⟩ ⟨0⟩ ∅
      {} _ _ doorCalls t "open" ∅ rfl alive
    exact congrArg Agent.tree reached

end SkillScript
