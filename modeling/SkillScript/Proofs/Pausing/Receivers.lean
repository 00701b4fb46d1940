import SkillScript.Proofs.Events.Triggers
import SkillScript.Proofs.Tree.Holdings
import SkillScript.Proofs.Tree.Outline
/-!
# Resting and waking again

A part of a tree that is put to rest gives its receivers back, and when it is woken it
takes new ones of the same names. Apart from that it is what it was before. Of the
context nothing but the listeners is touched; a part that has no receivers does not
touch these either.
-/
set_option autoImplicit false
namespace SkillScript

namespace Context

def unsubscribeAll (ctx : Context) (rs : List Receiver) : Context :=
  rs.foldl unsubscribe ctx

def subscribe (ctx : Context) (r : Receiver) : Context :=
  { ctx with bus := (ctx.bus.subscribe r.name).2 }

def subscribeAll (ctx : Context) (rs : List Receiver) : Context :=
  rs.foldl subscribe ctx

theorem unsubscribeAll_append (ctx : Context) (rs rs' : List Receiver) :
    ctx.unsubscribeAll (rs ++ rs') = (ctx.unsubscribeAll rs).unsubscribeAll rs' :=
  List.foldl_append

theorem subscribeAll_append (ctx : Context) (rs rs' : List Receiver) :
    ctx.subscribeAll (rs ++ rs') = (ctx.subscribeAll rs).subscribeAll rs' :=
  List.foldl_append

theorem journal_subscribeAll (ctx : Context) (rs : List Receiver) :
    (ctx.subscribeAll rs).bus.journal = ctx.bus.journal := by
  induction rs generalizing ctx with
  | nil => rfl
  | cons r rest ih => exact ih (ctx.subscribe r)

end Context

/-- The sensor with a receiver that has passed everything until some moment, if it has one. -/
def Sensor.renew (moment : Nat) : Sensor → Sensor
  | .event name ownerOnly (some _) fired => .event name ownerOnly (some ⟨name, moment⟩) fired
  | x => x

theorem Sensor.position_renew {moment : Nat} {x : Sensor} {r : Receiver}
    (listens : (x.renew moment).receiver? = some r) : r.position = moment := by
  cases x with
  | event name ownerOnly receiver fired =>
    cases receiver with
    | none => cases listens
    | some r => cases listens; rfl
  | _ => cases listens

theorem Sensor.renew_of_deaf (moment : Nat) {x : Sensor} (deaf : x.receiver? = none) :
    x.renew moment = x := by
  cases x with
  | event name ownerOnly receiver fired =>
    cases receiver with
    | none => rfl
    | some r => cases deaf
  | _ => rfl

def Outline.Eventless (o : Outline Label) : Prop :=
  ∀ l ∈ o.labels, l.type ≠ .condition .event

theorem Outline.Eventless.below {part : Part} {label : Label} {os : List (Outline Label)}
    (eventless : (node part label os).Eventless) {o : Outline Label} (member : o ∈ os) :
    o.Eventless := by
  intro l labelled
  refine eventless l ?_
  rw [labels_node]
  exact List.mem_cons_of_mem _ (List.mem_flatMap.mpr ⟨o, member, labelled⟩)

section Laws

variable {α γ : Type} [Sensing α] [Sensing γ]

instance List.sensing : Sensing (List α) where
  mapSensors f := List.map (mapSensors f)

instance Option.sensing : Sensing (Option α) where
  mapSensors f := Option.map (mapSensors f)

def renewed (moment : Nat) (a : α) : α :=
  mapSensors (fun _ => Sensor.renew moment) a

/-- Put to rest and woken, it is as before, but for its receivers. -/
structure Resumes (rest wake : Context → α → α × Context) (receivers : α → List Receiver) (a : α) :
    Prop where
  rested (now : Context) : (rest now a).2 = now.unsubscribeAll (receivers a)
  woken (now later : Context) :
    wake later (rest now a).1 =
      (renewed later.bus.journal.size a,
        later.subscribeAll (receivers (renewed later.bus.journal.size a)))

def Stays (receivers : α → List Receiver) : Prop :=
  ∀ moment a, receivers a = [] → renewed moment a = a

def CatchesUp (receivers : α → List Receiver) : Prop :=
  ∀ moment a, ∀ r ∈ receivers (renewed moment a), r.position = moment

variable {rest wake : Context → α → α × Context} {receivers : α → List Receiver}
  {rest' wake' : Context → γ → γ × Context} {receivers' : γ → List Receiver} {a : α} {l : List α}

theorem Stays.list (stays : Stays receivers) : Stays fun l : List α => l.flatMap receivers := by
  intro moment l deaf
  exact map_of_fixed fun a member => stays moment a (List.flatMap_eq_nil_iff.mp deaf a member)

theorem Stays.option (stays : Stays receivers) :
    Stays fun o : Option α => o.toList.flatMap receivers := by
  intro moment o deaf
  cases o with
  | none => rfl
  | some a => exact congrArg some (stays moment a (by simpa using deaf))

theorem CatchesUp.list (catchesUp : CatchesUp receivers) :
    CatchesUp fun l : List α => l.flatMap receivers := by
  intro moment l r member
  obtain ⟨b, inside, receives⟩ := List.mem_flatMap.mp member
  obtain ⟨a, -, rfl⟩ := List.mem_map.mp inside
  exact catchesUp moment a r receives

theorem CatchesUp.option (catchesUp : CatchesUp receivers) :
    CatchesUp fun o : Option α => o.toList.flatMap receivers := by
  intro moment o r member
  cases o with
  | none => cases member
  | some a =>
    have only : r ∈ receivers (renewed moment a) ++ [] := member
    rw [List.append_nil] at only
    exact catchesUp moment a r only

namespace Resumes

/-- What is not touched by the calls. -/
theorem untouched (stays : Stays receivers) (rests : ∀ ctx, rest ctx a = (a, ctx))
    (wakes : ∀ ctx, wake ctx a = (a, ctx)) (deaf : receivers a = []) :
    Resumes rest wake receivers a where
  rested now := by
    rw [rests, deaf]
    rfl
  woken now later := by
    rw [rests, wakes, stays _ a deaf, deaf]
    rfl

/-- What does to its only part what is done to it. -/
theorem within (part : Resumes rest wake receivers a) (close wrap : α → γ)
    (rests : ∀ ctx, rest' ctx (wrap a) = (close (rest ctx a).1, (rest ctx a).2))
    (wakes : ∀ ctx a, wake' ctx (close a) = (wrap (wake ctx a).1, (wake ctx a).2))
    (same : ∀ a, receivers' (wrap a) = receivers a)
    (renews : ∀ moment, renewed moment (wrap a) = wrap (renewed moment a)) :
    Resumes rest' wake' receivers' (wrap a) where
  rested now := by rw [rests, same, part.rested]
  woken now later := by rw [rests, wakes, part.woken, renews, same]

protected theorem actOn {o : Option α} (each : ∀ a ∈ o, Resumes rest wake receivers a) :
    Resumes (actOn rest) (actOn wake) (fun o => o.toList.flatMap receivers) o := by
  cases o with
  | none => exact ⟨fun _ => rfl, fun _ _ => rfl⟩
  | some a =>
    exact (each a rfl).within some some (fun _ => rfl) (fun _ _ => rfl)
      (fun a => List.append_nil (receivers a)) fun _ => rfl

/-- What is done to two parts, one after the other. -/
theorem both {a : α} {c : γ} (first : Resumes rest wake receivers a)
    (second : Resumes rest' wake' receivers' c) (now later : Context) :
    (rest' (rest now a).2 c).2 = now.unsubscribeAll (receivers a ++ receivers' c) ∧
    wake later (rest now a).1 =
      (renewed later.bus.journal.size a,
        later.subscribeAll (receivers (renewed later.bus.journal.size a))) ∧
    wake' (wake later (rest now a).1).2 (rest' (rest now a).2 c).1 =
      (renewed later.bus.journal.size c,
        later.subscribeAll (receivers (renewed later.bus.journal.size a) ++
          receivers' (renewed later.bus.journal.size c))) := by
  refine ⟨?_, first.woken now later, ?_⟩
  · rw [second.rested, first.rested, Context.unsubscribeAll_append]
  · rw [second.woken, first.woken, Context.journal_subscribeAll, Context.subscribeAll_append]

protected theorem actAll (each : ∀ a ∈ l, Resumes rest wake receivers a) :
    Resumes (actAll rest) (actAll wake) (fun l => l.flatMap receivers) l := by
  induction l with
  | nil => exact ⟨fun _ => rfl, fun _ _ => rfl⟩
  | cons a tail ih =>
    obtain ⟨first, later⟩ := List.forall_mem_cons.mp each
    refine ⟨fun now => ((first.both (ih later)) now now).1, fun now later' => ?_⟩
    obtain ⟨-, head, rest⟩ := first.both (ih later) now later'
    simp only [actAll, head] at rest ⊢
    rw [rest]
    rfl

/-- Only one of several is acted on, and the others are deaf. -/
protected theorem actAt (stays : Stays receivers) {n : Nat}
    (here : ∀ a, l[n]? = some a → Resumes rest wake receivers a)
    (deaf : ∀ i a, l[i]? = some a → i ≠ n → receivers a = []) :
    Resumes (fun ctx => actAt rest ctx n) (fun ctx => actAt wake ctx n)
      (fun l => l.flatMap receivers) l := by
  induction l generalizing n with
  | nil => cases n <;> exact ⟨fun _ => rfl, fun _ _ => rfl⟩
  | cons a tail ih =>
    cases n with
    | zero =>
      have silent : tail.flatMap receivers = [] := by
        refine List.flatMap_eq_nil_iff.mpr fun b member => ?_
        obtain ⟨i, found⟩ := List.mem_iff_getElem?.mp member
        exact deaf (i + 1) b found (Nat.succ_ne_zero i)
      refine (here a rfl).within (· :: tail) (· :: tail) (fun _ => rfl) (fun _ _ => rfl)
        (fun a => ?_) fun moment => ?_
      · show receivers a ++ tail.flatMap receivers = receivers a
        rw [silent, List.append_nil]
      · exact congrArg _ (stays.list moment tail silent)
    | succ n =>
      have silent : receivers a = [] := deaf 0 a rfl (Nat.succ_ne_zero n).symm
      have later := ih (n := n) here fun i b found other =>
        deaf (i + 1) b found fun same => other (Nat.succ.inj same)
      refine later.within (a :: ·) (a :: ·) (fun _ => rfl) (fun _ _ => rfl)
        (fun l => ?_) fun moment => ?_
      · show receivers a ++ l.flatMap receivers = l.flatMap receivers
        rw [silent, List.nil_append]
      · exact congrArg (· :: _) (stays moment a silent)

end Resumes

end Laws

/-! ## Conditions and transitions -/

namespace Condition

theorem receiversAll_eq (cs : List Condition) : receiversAll cs = cs.flatMap receivers := by
  induction cs with
  | nil => rfl
  | cons c rest ih => rw [receiversAll, ih, List.flatMap_cons]

theorem renewed_gate (moment : Nat) (active : Bool) (g : Gate) (children : List Condition) :
    renewed moment (gate active g children) = gate active g (renewed moment children) :=
  congrArg (gate active g) (mapSensorsAll_eq _ children)

theorem stays : Stays receivers := by
  intro moment c deaf
  induction c using byChildren with
  | sensor active x =>
    exact congrArg (sensor active) (x.renew_of_deaf moment (Option.toList_eq_nil_iff.mp deaf))
  | gate active g children ih =>
    rw [receivers, receiversAll_eq, List.flatMap_eq_nil_iff] at deaf
    rw [renewed_gate]
    exact congrArg (gate active g) (map_of_fixed fun c member => ih c member (deaf c member))

theorem catchesUp : CatchesUp receivers := by
  intro moment c r member
  induction c using byChildren with
  | sensor active x => exact Sensor.position_renew (Option.mem_toList.mp member)
  | gate active g children ih =>
    rw [renewed_gate, receivers, receiversAll_eq] at member
    obtain ⟨b, inside, receives⟩ := List.mem_flatMap.mp member
    obtain ⟨c, below, rfl⟩ := List.mem_map.mp inside
    exact ih c below receives

theorem resumes {c : Condition} (orderly : c.Orderly) (active : c.isActive = true) :
    Resumes deactivate activate receivers c := by
  induction c using byChildren with
  | sensor awake x =>
    cases active
    cases x with
    | event name ownerOnly receiver fired =>
      cases receiver with
      | none => cases orderly
      | some r => exact ⟨fun _ => rfl, fun _ _ => rfl⟩
    | _ => exact ⟨fun _ => rfl, fun _ _ => rfl⟩
  | gate awake g children ih =>
    cases active
    have below := (orderlyAll_iff true children).mp orderly
    have parts : Resumes (actAll deactivate) (actAll activate) (fun cs => cs.flatMap receivers)
        children :=
      .actAll fun c member => ih c member (below c member).2 (below c member).1
    refine parts.within (gate false g) (gate true g) ?_ ?_ receiversAll_eq
      fun moment => renewed_gate moment true g children
    · intro ctx
      rw [deactivate, deactivateAll_eq]
    · intro ctx cs
      rw [activate, activateAll_eq]

/-- A condition without sensors for events is deaf. -/
theorem receivers_of_eventless {part : Part} {c : Condition}
    (eventless : (c.outline part).Eventless) : c.receivers = [] := by
  induction c using byChildren generalizing part with
  | sensor active x =>
    cases x with
    | event name ownerOnly receiver fired => exact absurd rfl (eventless _ (List.mem_cons_self ..))
    | _ => rfl
  | gate active g children ih =>
    rw [receivers, receiversAll_eq, List.flatMap_eq_nil_iff]
    intro c member
    rw [outline, outlineAll_eq] at eventless
    exact ih c member (eventless.below (List.mem_map_of_mem member))

end Condition

namespace Transition

theorem stays : Stays receivers := fun moment t deaf =>
  congrArg (fun c => { t with condition := c }) (Condition.stays moment t.condition deaf)

theorem catchesUp : CatchesUp receivers :=
  fun moment t => Condition.catchesUp moment t.condition

theorem resumes {t : Transition} (orderly : t.Orderly) (active : t.active = true) :
    Resumes deactivate activate receivers t := by
  have part := Condition.resumes orderly.condition (orderly.runs.trans active)
  have same : { t with active := true, condition := t.condition } = t := by rw [← active]
  rw [← same]
  refine part.within (fun c => { t with active := false, condition := c })
    (fun c => { t with active := true, condition := c }) ?_ ?_ ?_ ?_ <;> intros <;> rfl

theorem receivers_of_eventless {part : Part} {t : Transition}
    (eventless : (t.outline part).Eventless) : t.receivers = [] :=
  Condition.receivers_of_eventless (eventless.below (List.mem_singleton_self _))

end Transition

end SkillScript
