import SkillScript.Proofs.Tree.Conditions
import SkillScript.Proofs.Tree.Holdings
/-!
# Who listens to the bus

Something is attuned if each of its sensors for events has a receiver of the sensor's
own name while it is active and none while it rests. An act heeds the bus if, whatever
other receivers there are, it leaves on the bus those others and one for each sensor
that is active afterwards. Acts on the parts of a node heed the bus because the
receivers of the other parts are among the others.
-/
set_option autoImplicit false
namespace SkillScript

def SameListeners (s s' : Scope) : Prop :=
  s'.bus.listeners = s.bus.listeners

/-- The hooks leave the receivers of nodes alone. They may subscribe for the host. -/
def Hooks.Discreet (h : Hooks) : Prop :=
  h.Obey SameListeners SameListeners

theorem Hooks.Discreet.keep {h : Hooks} (discreet : h.Discreet) (s : Scope) :
    h.Keep (SameListeners s) where
  onInitialize hook present view s' same := (discreet.onInitialize hook present view s').trans same
  onDestroy hook present view s' same := (discreet.onDestroy hook present view s').trans same

class Hearing (α : Type) where
  /-- Every sensor has a receiver of its own name exactly while it is active, and hooks leave it
  that. -/
  Attuned : α → Prop
  /-- How many active sensors listen to a name. -/
  heard : String → α → Nat

export Hearing (Attuned heard)

section Laws

variable {α γ : Type} [Hearing α] [Hearing γ]

instance List.hearing : Hearing (List α) where
  Attuned l := ∀ a ∈ l, Attuned a
  heard name l := l.foldr (fun a n => heard name a + n) 0

instance Option.hearing : Hearing (Option α) where
  Attuned o := ∀ a ∈ o, Attuned a
  heard name o := o.elim 0 (heard name)

@[simp]
theorem heard_nil (name : String) : heard name ([] : List α) = 0 :=
  rfl

@[simp]
theorem heard_cons (name : String) (a : α) (rest : List α) :
    heard name (a :: rest) = heard name a + heard name rest :=
  rfl

theorem heard_append (name : String) (l l' : List α) :
    heard name (l ++ l') = heard name l + heard name l' := by
  induction l with
  | nil => simp
  | cons a rest ih => simp [ih, Nat.add_assoc]

structure Silent (a : α) : Prop where
  attuned : Attuned a
  unheard : ∀ name, heard name a = 0

theorem Silent.list {l : List α} (silent : ∀ a ∈ l, Silent a) : Silent l := by
  refine ⟨fun a member => (silent a member).attuned, fun name => ?_⟩
  induction l with
  | nil => rfl
  | cons a rest ih =>
    obtain ⟨first, later⟩ := List.forall_mem_cons.mp silent
    rw [heard_cons, first.unheard, ih later]

theorem Silent.option {o : Option α} (silent : ∀ a ∈ o, Silent a) : Silent o := by
  refine ⟨fun a member => (silent a member).attuned, fun name => ?_⟩
  cases o with
  | none => rfl
  | some a => exact (silent a rfl).unheard name

structure HearsAlike (a b : α) : Prop where
  attuned : Attuned a → Attuned b
  heard : ∀ name, heard name b = heard name a

namespace HearsAlike

theorem refl (a : α) : HearsAlike a a :=
  ⟨id, fun _ => rfl⟩

theorem cons {a b : α} {l l' : List α} (head : HearsAlike a b) (tail : HearsAlike l l') :
    HearsAlike (a :: l) (b :: l') := by
  refine ⟨fun attuned => ?_, fun name => ?_⟩
  · obtain ⟨first, later⟩ := List.forall_mem_cons.mp attuned
    exact List.forall_mem_cons.mpr ⟨head.attuned first, tail.attuned later⟩
  · rw [heard_cons, heard_cons, head.heard, tail.heard]

theorem map {f : α → α} {l : List α} (alike : ∀ a ∈ l, HearsAlike a (f a)) :
    HearsAlike l (l.map f) := by
  induction l with
  | nil => exact refl []
  | cons a rest ih =>
    obtain ⟨first, later⟩ := List.forall_mem_cons.mp alike
    exact first.cons (ih later)

theorem modify {f : α → α} (n : Nat) {l : List α} (alike : ∀ a ∈ l, HearsAlike a (f a)) :
    HearsAlike l (l.modify n f) := by
  induction l generalizing n with
  | nil =>
    rw [List.modify_nil]
    exact refl []
  | cons a rest ih =>
    obtain ⟨first, later⟩ := List.forall_mem_cons.mp alike
    cases n with
    | zero => exact first.cons (refl rest)
    | succ n => exact (refl a).cons (ih n later)

theorem option {f : α → α} {o : Option α} (alike : ∀ a ∈ o, HearsAlike a (f a)) :
    HearsAlike o (o.map f) := by
  cases o with
  | none => exact refl none
  | some a =>
    refine ⟨fun attuned => ?_, (alike a rfl).heard⟩
    intro b made
    cases made
    exact (alike a rfl).attuned (attuned a rfl)

end HearsAlike

/-- Next to some others, the nodes that listen to the bus are the active sensors. -/
structure Attends (others : String → Nat) (p : α × Context) : Prop where
  attuned : Attuned p.1
  counted : ∀ name, p.2.bus.listeners.count name = others name + heard name p.1

/-- The act accounts for the receivers of what it acts on, and leaves all others alone. -/
def Heeds (act : Context → α → α × Context) (a : α) : Prop :=
  ∀ others ctx, Attends others (a, ctx) → Attends others (act ctx a)

def Clears (release : Context → α → Context) (a : α) : Prop :=
  ∀ others ctx, Attends others (a, ctx) →
    ∀ name, (release ctx a).bus.listeners.count name = others name

variable {act : Context → α → α × Context} {release : Context → α → Context}
  {others : String → Nat} {ctx ctx' : Context} {a b : α} {l l' : List α}

theorem Silent.attends (silent : Silent a) (ctx : Context) :
    Attends ctx.bus.listeners.count (a, ctx) := by
  refine ⟨silent.attuned, fun name => ?_⟩
  rw [silent.unheard name, Nat.add_zero]

namespace Attends

theorem alike (attends : Attends others (a, ctx)) (alike : HearsAlike a b)
    (same : SameListeners ctx.toScope ctx'.toScope) : Attends others (b, ctx') := by
  refine ⟨alike.attuned attends.attuned, fun name => ?_⟩
  have counted := attends.counted name
  rw [alike.heard, same]
  exact counted

theorem option {o : Option α} (attends : Attends others (o, ctx)) (member : a ∈ o) :
    Attends others (a, ctx) := by
  cases member
  exact ⟨attends.attuned a rfl, attends.counted⟩

theorem some (attends : Attends others (a, ctx)) : Attends others (some a, ctx) := by
  refine ⟨?_, attends.counted⟩
  intro b made
  cases made
  exact attends.attuned

end Attends

/-- While one part of a whole is acted on, the receivers of the rest are among the others. -/
theorem attends_part {whole : γ} {rest : String → Nat} {attunedRest : Prop}
    (attuned : Attuned whole ↔ attunedRest ∧ Attuned a)
    (counts : ∀ name, heard name whole = rest name + heard name a) :
    Attends others (whole, ctx) ↔
      attunedRest ∧ Attends (fun name => others name + rest name) (a, ctx) := by
  constructor
  · intro attends
    obtain ⟨others, part⟩ := attuned.mp attends.attuned
    refine ⟨others, part, fun name => ?_⟩
    have counted := attends.counted name
    rw [counts] at counted
    dsimp only at counted ⊢
    omega
  · rintro ⟨others, attends⟩
    refine ⟨attuned.mpr ⟨others, attends.attuned⟩, fun name => ?_⟩
    have counted := attends.counted name
    rw [counts]
    dsimp only at counted ⊢
    omega

/-- A whole that listens with a single part. -/
theorem attends_congr {whole : γ} (attuned : Attuned whole ↔ Attuned a)
    (counts : ∀ name, heard name whole = heard name a) :
    Attends others (whole, ctx) ↔ Attends others (a, ctx) := by
  constructor
  · intro attends
    refine ⟨attuned.mp attends.attuned, fun name => ?_⟩
    rw [← counts]
    exact attends.counted name
  · intro attends
    refine ⟨attuned.mpr attends.attuned, fun name => ?_⟩
    rw [counts]
    exact attends.counted name

theorem attends_head :
    Attends others (a :: l, ctx) ↔
      Attuned l ∧ Attends (fun name => others name + heard name l) (a, ctx) := by
  refine attends_part (List.forall_mem_cons.trans and_comm) fun name => ?_
  rw [heard_cons, Nat.add_comm]

theorem attends_tail :
    Attends others (a :: l, ctx) ↔
      Attuned a ∧ Attends (fun name => others name + heard name a) (l, ctx) :=
  attends_part List.forall_mem_cons fun name => heard_cons name a l

theorem attends_append :
    Attends others (l ++ l', ctx) ↔
      Attuned l ∧ Attends (fun name => others name + heard name l) (l', ctx) :=
  attends_part List.forall_mem_append fun name => heard_append name l l'

namespace Heeds

protected theorem actOn {o : Option α} (heeds : ∀ a ∈ o, Heeds act a) : Heeds (actOn act) o := by
  intro others ctx attends
  cases o with
  | none => exact attends
  | some a => exact (heeds a rfl others ctx (attends.option rfl)).some

/-- Acting on the first of several. -/
theorem first (heeds : Heeds act a) (attends : Attends others (a :: l, ctx)) :
    Attends others ((act ctx a).1 :: l, (act ctx a).2) := by
  obtain ⟨later, first⟩ := attends_head.mp attends
  exact attends_head.mpr ⟨later, heeds _ ctx first⟩

protected theorem actAll (heeds : ∀ a ∈ l, Heeds act a) : Heeds (actAll act) l := by
  intro others ctx attends
  induction l generalizing others ctx with
  | nil => exact attends
  | cons a rest ih =>
    obtain ⟨first, later⟩ := List.forall_mem_cons.mp heeds
    obtain ⟨attuned, attends⟩ := attends_tail.mp (first.first attends)
    exact attends_tail.mpr ⟨attuned, ih later _ _ attends⟩

protected theorem actAt (n : Nat) (heeds : ∀ a ∈ l, Heeds act a) :
    Heeds (fun ctx l => actAt act ctx n l) l := by
  intro others ctx attends
  induction l generalizing n others ctx with
  | nil => cases n <;> exact attends
  | cons a rest ih =>
    obtain ⟨first, later⟩ := List.forall_mem_cons.mp heeds
    cases n with
    | zero => exact first.first attends
    | succ n =>
      obtain ⟨attuned, attends⟩ := attends_tail.mp attends
      exact attends_tail.mpr ⟨attuned, ih n later _ ctx attends⟩

end Heeds

namespace Clears

/-- What is cleared from the first of several leaves the rest attended to. -/
theorem first (clears : Clears release a) (attends : Attends others (a :: l, ctx)) :
    Attends others (l, release ctx a) := by
  obtain ⟨later, first⟩ := attends_head.mp attends
  exact ⟨later, clears _ ctx first⟩

theorem foldl (clears : ∀ a ∈ l, Clears release a) :
    Clears (fun ctx l => l.foldl release ctx) l := by
  intro others ctx attends
  induction l generalizing ctx with
  | nil => exact attends.counted
  | cons a rest ih =>
    obtain ⟨first, later⟩ := List.forall_mem_cons.mp clears
    exact ih later _ (first.first attends)

theorem option {o : Option α} (clears : ∀ a ∈ o, Clears release a) :
    Clears (fun ctx o => o.toList.foldl release ctx) o := by
  intro others ctx attends
  cases o with
  | none => exact attends.counted
  | some a => exact clears a rfl others ctx (attends.option rfl)

end Clears

end Laws

/-! ## Sensors and conditions -/

namespace Sensor

def ear? (x : Sensor) : Option String :=
  match x.probe with
  | .event name _ => some name
  | _ => none

def Attuned (active : Bool) : Sensor → Prop
  | event name _ receiver _ => receiver.map (·.name) = if active then some name else none
  | _ => True

theorem attuned_of_listens {x : Sensor} (listens : x.Listens false) : x.Attuned false := by
  cases x with
  | event name ownerOnly receiver fired =>
    cases receiver with
    | none => rfl
    | some r => cases listens
  | _ => trivial

theorem attuned_drain {active : Bool} (s : Scope) {x : Sensor} (attuned : x.Attuned active) :
    (x.drain s).Attuned active := by
  cases x with
  | event name ownerOnly receiver fired => cases receiver <;> exact attuned
  | _ => trivial

theorem attuned_update {active : Bool} (step : Float32) (s : Scope) {x : Sensor}
    (attuned : x.Attuned active) : (x.update step s).Attuned active := by
  cases x with
  | elapsed seconds t => trivial
  | _ => exact attuned_drain s attuned

theorem attuned_reset {active : Bool} (bus : Bus) {x : Sensor} (attuned : x.Attuned active) :
    (x.reset bus).Attuned active := by
  cases x with
  | event name ownerOnly receiver fired => cases receiver <;> exact attuned
  | _ => trivial

end Sensor

namespace Condition

mutual

def Attuned : Condition → Prop
  | sensor active x => x.Attuned active
  | gate _ _ children => AttunedAll children

def AttunedAll : List Condition → Prop
  | [] => True
  | c :: rest => Attuned c ∧ AttunedAll rest

end

mutual

def heard (name : String) : Condition → Nat
  | sensor active x => if active = true ∧ x.ear? = some name then 1 else 0
  | gate _ _ children => heardAll name children

def heardAll (name : String) : List Condition → Nat
  | [] => 0
  | c :: rest => heard name c + heardAll name rest

end

instance hearing : Hearing Condition where
  Attuned := Attuned
  heard := heard

theorem attunedAll_iff (cs : List Condition) : AttunedAll cs ↔ Hearing.Attuned cs := by
  induction cs with
  | nil => exact iff_of_true trivial (nofun)
  | cons c rest ih => exact (and_congr_right fun _ => ih).trans List.forall_mem_cons.symm

theorem heardAll_eq (name : String) (cs : List Condition) :
    heardAll name cs = Hearing.heard name cs := by
  induction cs with
  | nil => rfl
  | cons c rest ih =>
    rw [heardAll, ih, heard_cons]
    rfl

variable {active : Bool} {g : Gate} {x : Sensor} {children : List Condition}
  {others : String → Nat} {ctx : Context}

/-- A joined condition attends to the bus as its children do. -/
theorem attends_gate :
    Attends others (gate active g children, ctx) ↔ Attends others (children, ctx) :=
  attends_congr (attunedAll_iff children) fun name => heardAll_eq name children

theorem hearsAlike_gate {children' : List Condition} (alike : HearsAlike children children') :
    HearsAlike (gate active g children) (gate active g children') := by
  refine ⟨fun attuned => ?_, fun name => ?_⟩
  · exact (attunedAll_iff _).mpr (alike.attuned ((attunedAll_iff _).mp attuned))
  · exact (heardAll_eq name _).trans ((alike.heard name).trans (heardAll_eq name _).symm)

theorem hearsAlike_sensor {x' : Sensor} (attuned : x.Attuned active → x'.Attuned active)
    (same : x'.probe = x.probe) : HearsAlike (sensor active x) (sensor active x') := by
  refine ⟨attuned, fun name => ?_⟩
  show heard name (sensor active x') = heard name (sensor active x)
  rw [heard, heard, Sensor.ear?, Sensor.ear?, same]

theorem silent {c : Condition} : c.Orderly → c.isActive = false → Silent c := by
  induction c using byChildren with
  | sensor active x =>
    rintro listens rfl
    refine ⟨Sensor.attuned_of_listens listens, fun name => ?_⟩
    show (if false = true ∧ x.ear? = some name then 1 else 0) = 0
    simp
  | gate active g children ih =>
    rintro orderly rfl
    have below : Silent children :=
      Silent.list fun c member =>
        have ⟨resting, order⟩ := (orderlyAll_iff false children).mp orderly c member
        ih c member order resting
    exact ⟨(attunedAll_iff children).mpr below.attuned,
      fun name => (heardAll_eq name children).trans (below.unheard name)⟩

theorem attends_activate_sensor (attends : Attends others (sensor false x, ctx)) :
    Attends others
      (sensor true (x.activate ctx.bus).1, { ctx with bus := (x.activate ctx.bus).2 }) := by
  obtain ⟨attuned, counted⟩ := attends
  cases x with
  | event name ownerOnly receiver fired =>
    cases receiver with
    | some r => cases attuned
    | none =>
      refine ⟨rfl, fun name' => ?_⟩
      have before := counted name'
      simp only [Hearing.heard, heard, Sensor.activate, Bus.subscribe,
        List.count_cons, Sensor.ear?, Sensor.probe] at before ⊢
      by_cases same : name = name' <;> simp_all
  | _ => exact ⟨trivial, counted⟩

theorem attends_deactivate_sensor (attends : Attends others (sensor true x, ctx)) :
    Attends others
      (sensor false (x.deactivate ctx.bus).1, { ctx with bus := (x.deactivate ctx.bus).2 }) := by
  obtain ⟨attuned, counted⟩ := attends
  cases x with
  | event name ownerOnly receiver fired =>
    cases receiver with
    | none => cases attuned
    | some r =>
      cases attuned
      refine ⟨rfl, fun name' => ?_⟩
      have before := counted name'
      simp only [Hearing.heard, heard, Sensor.deactivate, Bus.unsubscribe,
        List.count_erase, Sensor.ear?, Sensor.probe] at before ⊢
      by_cases same : r.name = name' <;> simp_all
  | _ => exact ⟨trivial, counted⟩

theorem heeds_activate (c : Condition) : Heeds activate c := by
  induction c using byChildren with
  | sensor active x =>
    intro others ctx attends
    cases active with
    | true => exact attends
    | false => exact attends_activate_sensor attends
  | gate active g children ih =>
    intro others ctx attends
    cases active with
    | true => exact attends
    | false =>
      have acted := Heeds.actAll ih others ctx (attends_gate.mp attends)
      rw [← activateAll_eq] at acted
      exact attends_gate.mpr acted

theorem heeds_deactivate (c : Condition) : Heeds deactivate c := by
  induction c using byChildren with
  | sensor active x =>
    intro others ctx attends
    cases active with
    | false => exact attends
    | true => exact attends_deactivate_sensor attends
  | gate active g children ih =>
    intro others ctx attends
    cases active with
    | false => exact attends
    | true =>
      have acted := Heeds.actAll ih others ctx (attends_gate.mp attends)
      rw [← deactivateAll_eq] at acted
      exact attends_gate.mpr acted

theorem heeds_update (step : Float32) (c : Condition) : Heeds (update step) c := by
  induction c using byChildren generalizing step with
  | sensor active x =>
    intro others ctx attends
    cases active with
    | false => exact attends.alike (HearsAlike.refl _) rfl
    | true =>
      exact attends.alike
        (hearsAlike_sensor (Sensor.attuned_update _ _) (Sensor.probe_update ..)) rfl
  | gate active g children ih =>
    intro others ctx attends
    cases active with
    | false => exact attends.alike (HearsAlike.refl _) rfl
    | true =>
      have acted := Heeds.actAll (fun c member => ih c member (Number.atLeastZero step)) others ctx
        (attends_gate.mp attends)
      rw [← updateAll_eq] at acted
      exact attends_gate.mpr acted

theorem clears_release (c : Condition) : Clears release c := by
  induction c using byChildren with
  | sensor active x =>
    intro others ctx attends
    cases active with
    | true => exact (attends_deactivate_sensor attends).counted
    | false =>
      cases x with
      | event name ownerOnly receiver fired =>
        cases receiver with
        | none => exact attends.counted
        | some r => cases attends.attuned
      | _ => exact attends.counted
  | gate active g children ih =>
    intro others ctx attends
    have cleared := Clears.foldl ih others ctx (attends_gate.mp attends)
    simp only [← releaseAll_eq] at cleared
    exact cleared

theorem hearsAlike_reset (bus : Bus) (c : Condition) : HearsAlike c (c.reset bus) := by
  induction c using byChildren with
  | sensor active x =>
    exact hearsAlike_sensor (Sensor.attuned_reset bus) (x.probe_reset bus)
  | gate active g children ih =>
    have below := HearsAlike.map ih
    rw [← resetAll_eq] at below
    exact hearsAlike_gate below

theorem hearsAlike_onTrigger (tag : String) (c : Condition) : HearsAlike c (c.onTrigger tag) := by
  induction c using byChildren with
  | sensor active x =>
    cases active with
    | false => exact HearsAlike.refl _
    | true => cases x <;> exact hearsAlike_sensor id rfl
  | gate active g children ih =>
    cases active with
    | false => exact HearsAlike.refl _
    | true =>
      have below := HearsAlike.map ih
      rw [← onTriggerAll_eq] at below
      exact hearsAlike_gate below

theorem hearsAlike_checkAll {s : Scope} {cs : List Condition}
    (alike : ∀ c ∈ cs, HearsAlike c (c.check s).2) : HearsAlike cs (checkAll s cs).2 := by
  induction cs with
  | nil => exact HearsAlike.refl []
  | cons c rest ih =>
    obtain ⟨first, later⟩ := List.forall_mem_cons.mp alike
    simp only [checkAll]
    split
    · rename_i asked
      rw [asked] at first
      exact first.cons (HearsAlike.refl rest)
    · rename_i asked
      rw [asked] at first
      exact first.cons (ih later)

theorem hearsAlike_checkAny {s : Scope} {cs : List Condition}
    (alike : ∀ c ∈ cs, HearsAlike c (c.check s).2) : HearsAlike cs (checkAny s cs).2 := by
  induction cs with
  | nil => exact HearsAlike.refl []
  | cons c rest ih =>
    obtain ⟨first, later⟩ := List.forall_mem_cons.mp alike
    simp only [checkAny]
    split
    · rename_i asked
      rw [asked] at first
      exact first.cons (HearsAlike.refl rest)
    · rename_i asked
      rw [asked] at first
      exact first.cons (ih later)

theorem hearsAlike_check (s : Scope) (c : Condition) : HearsAlike c (c.check s).2 := by
  induction c using byChildren with
  | sensor active x =>
    cases active with
    | false => exact HearsAlike.refl _
    | true =>
      have drained : ((sensor true x).check s).2 = sensor true (x.drain s) :=
        congrArg (sensor true) (x.snd_check s)
      rw [drained]
      exact hearsAlike_sensor (Sensor.attuned_drain s) (Sensor.probe_drain s x)
  | gate active g children ih =>
    cases active with
    | false => cases g <;> exact HearsAlike.refl _
    | true =>
      cases g with
      | not => exact hearsAlike_gate (hearsAlike_checkAll ih)
      | all => exact hearsAlike_gate (hearsAlike_checkAll ih)
      | any => exact hearsAlike_gate (hearsAlike_checkAny ih)

end Condition

/-! ## Transitions -/

namespace Transition

instance hearing : Hearing Transition where
  Attuned t := Attuned t.condition
  heard name t := heard name t.condition

theorem silent {t : Transition} (orderly : t.Orderly) (resting : t.active = false) : Silent t :=
  have below := Condition.silent orderly.condition (orderly.runs.trans resting)
  ⟨below.attuned, below.unheard⟩

/-- A transition listens with its condition and with nothing else. -/
theorem hearsAlike_condition {t t' : Transition} (alike : HearsAlike t.condition t'.condition) :
    HearsAlike t t' :=
  ⟨alike.attuned, alike.heard⟩

theorem attends_condition {t : Transition} {others : String → Nat} {ctx : Context} :
    Attends others (t, ctx) ↔ Attends others (t.condition, ctx) :=
  attends_congr Iff.rfl fun _ => rfl

theorem heeds_activate (t : Transition) : Heeds activate t := by
  intro others ctx attends
  unfold activate
  split
  · exact attends
  · exact attends_condition.mpr
      (t.condition.heeds_activate others ctx (attends_condition.mp attends))

theorem heeds_deactivate (t : Transition) : Heeds deactivate t := by
  intro others ctx attends
  unfold deactivate
  split
  · exact attends_condition.mpr
      (t.condition.heeds_deactivate others ctx (attends_condition.mp attends))
  · exact attends

theorem clears_release (t : Transition) : Clears release t := by
  intro others ctx attends
  exact t.condition.clears_release others ctx (attends_condition.mp attends)

theorem hearsAlike_reset (s : Scope) (t : Transition) : HearsAlike t (t.reset s) :=
  hearsAlike_condition (t.condition.hearsAlike_reset s.bus)

theorem hearsAlike_onTrigger (tag : String) (t : Transition) : HearsAlike t (t.onTrigger tag) := by
  unfold onTrigger
  split
  · exact hearsAlike_condition (t.condition.hearsAlike_onTrigger tag)
  · exact HearsAlike.refl t

theorem heeds_check (step : Float32) (t : Transition) :
    Heeds (fun ctx t => (t.check step ctx).2) t := by
  intro others ctx attends
  dsimp only
  rw [check_eq]
  split
  · have updated := t.condition.heeds_update (Number.atLeastZero step) others ctx
      (attends_condition.mp attends)
    generalize t.condition.update (Number.atLeastZero step) ctx = p at updated ⊢
    have waited : Attends others
        (({ t with condition := p.1 }.wait p.2.settings (Number.atLeastZero step)).2, p.2) := by
      refine attends_condition.mpr ?_
      rw [condition_wait]
      exact updated
    dsimp only
    split
    · exact waited.alike (hearsAlike_condition (Condition.hearsAlike_check ..)) rfl
    · exact waited
  · exact attends.alike (HearsAlike.refl t) rfl

theorem heeds_checkFirst (step : Float32) (ts : List Transition) :
    Heeds (fun ctx ts => (checkFirst step ctx ts).2) ts := by
  intro others ctx attends
  induction ts generalizing others ctx with
  | nil => exact attends
  | cons t rest ih =>
    have checked := (t.heeds_check step).first attends
    dsimp only at checked ⊢
    simp only [checkFirst]
    split
    · rename_i asked
      rw [asked] at checked
      exact checked
    · rename_i asked
      rw [asked] at checked
      obtain ⟨attuned, attends⟩ := attends_tail.mp checked
      exact attends_tail.mpr ⟨attuned, ih _ _ attends⟩

end Transition

end SkillScript
