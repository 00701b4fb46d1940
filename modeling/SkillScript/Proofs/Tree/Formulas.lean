import SkillScript.Proofs.Events.Delivery
import SkillScript.Proofs.History
import SkillScript.Proofs.Status.Create
import SkillScript.Proofs.Tree.Conditions
import SkillScript.Proofs.Tree.Create
import SkillScript.Proofs.Tree.Pristine
import SkillScript.Proofs.Tree.Rows
import SkillScript.Script.Build
/-!
# Conditions as formulas

A configuration of a condition stands for a Boolean formula over probes: what cannot be
created is left out of a conjunction or a disjunction, and a negation of it is nothing.
The condition that is created has this formula for ever, and while it is awake it
answers as the formula does for the answers of its leaves. Asking may take in events and
stops as soon as the answer is known, but neither shows in the answers.
-/
set_option autoImplicit false
namespace SkillScript

def Gate.join (g : Gate) (answers : List Bool) : Bool :=
  match g with
  | .not => !answers.all id
  | .all => answers.all id
  | .any => answers.any id

inductive Formula (α : Type) where
  | leaf (a : α)
  | gate (g : Gate) (parts : List (Formula α))

namespace Formula

variable {α γ : Type}

mutual

def map (f : α → γ) : Formula α → Formula γ
  | leaf a => leaf (f a)
  | gate g parts => gate g (mapAll f parts)

def mapAll (f : α → γ) : List (Formula α) → List (Formula γ)
  | [] => []
  | p :: rest => map f p :: mapAll f rest

end

mutual

def eval (value : α → Bool) : Formula α → Bool
  | leaf a => value a
  | gate g parts => g.join (evalAll value parts)

def evalAll (value : α → Bool) : List (Formula α) → List Bool
  | [] => []
  | p :: rest => eval value p :: evalAll value rest

end

theorem mapAll_eq (f : α → γ) (parts : List (Formula α)) : mapAll f parts = parts.map (map f) := by
  induction parts with
  | nil => rfl
  | cons p rest ih => rw [mapAll, ih, List.map_cons]

theorem evalAll_eq (value : α → Bool) (parts : List (Formula α)) :
    evalAll value parts = parts.map (eval value) := by
  induction parts with
  | nil => rfl
  | cons p rest ih => rw [evalAll, ih, List.map_cons]

end Formula

/-! ## The formula of a configuration -/

mutual

/-- The formula that a configuration stands for, if it is one of a condition that can be
created. -/
def Config.formula? (r : Registry) : Config → Option (Formula Probe)
  | ⟨typeName, _, body⟩ =>
    match r.find? typeName with
    | none => none
    | some entry => body.formula? r entry.implementation

def Body.formula? (r : Registry) (type : NodeType) : Body → Option (Formula Probe)
  | .probe p => if type = .condition p.type then some (.leaf p) else none
  | .negation condition =>
    if type = .condition .not then
      (optionFormula? r condition).map fun f => .gate .not [f]
    else none
  | .junction conditions =>
    if type = .condition .all then some (.gate .all (listFormulas r conditions))
    else if type = .condition .any then some (.gate .any (listFormulas r conditions))
    else none
  | _ => none

def optionFormula? (r : Registry) : Option Config → Option (Formula Probe)
  | none => none
  | some c => c.formula? r

def listFormulas (r : Registry) : List Config → List (Formula Probe)
  | [] => []
  | c :: rest => (c.formula? r).toList ++ listFormulas r rest

end

/-- What a junction joins are the formulas of exactly those parts that have one, in their order. -/
theorem listFormulas_eq (r : Registry) (cs : List Config) :
    listFormulas r cs = cs.filterMap (Config.formula? r) := by
  induction cs with
  | nil => rfl
  | cons c rest ih =>
    rw [listFormulas, ih, List.filterMap_cons]
    cases c.formula? r <;> rfl

/-! ## The formula of a condition -/

/-- A sensor in a condition, and whether it is awake. -/
structure Leaf where
  active : Bool
  sensor : Sensor

def Leaf.answer (s : Scope) (l : Leaf) : Bool :=
  ((Condition.sensor l.active l.sensor).check s).1

namespace Condition

mutual

def formula : Condition → Formula Leaf
  | sensor active x => .leaf ⟨active, x⟩
  | gate _ g children => .gate g (formulas children)

def formulas : List Condition → List (Formula Leaf)
  | [] => []
  | c :: rest => formula c :: formulas rest

end

theorem formulas_eq (cs : List Condition) : formulas cs = cs.map formula := by
  induction cs with
  | nil => rfl
  | cons c rest ih => rw [formulas, ih, List.map_cons]

/-- What a condition asks, without the state of its sensors. -/
def shape (c : Condition) : Formula Probe :=
  c.formula.map fun l => l.sensor.probe

theorem shape_gate (active : Bool) (g : Gate) (children : List Condition) :
    (gate active g children).shape = .gate g (children.map shape) := by
  show Formula.gate g (Formula.mapAll _ (formulas children)) = _
  rw [Formula.mapAll_eq, formulas_eq, List.map_map]
  rfl

theorem shape_pristine (c : Condition) : c.pristine.shape = c.shape := by
  induction c using byChildren with
  | sensor active x => cases x <;> rfl
  | gate active g children ih =>
    rw [pristine, pristineAll_eq, shape_gate, shape_gate, List.map_map]
    exact congrArg _ (List.map_congr_left ih)

/-- The shape of a condition lasts. -/
theorem shape_congr {c c' : Condition} (same : c.pristine = c'.pristine) : c.shape = c'.shape := by
  rw [← c.shape_pristine, same, shape_pristine]

end Condition

/-! ## Creation -/

section Creation

variable (r : Registry) (height : Nat)

def AnyNode.shape? {β : Type} (n : AnyNode β) : Option (Formula Probe) :=
  n.condition?.map Condition.shape

theorem shape_leaf {β : Type} [Behaves β] (type : NodeType) (typeName : String) (body : Body)
    (ctx : Context) :
    (leaf (β := β) type typeName body ctx).1.toOption.bind AnyNode.shape? =
      match body with
      | .probe p => if type = .condition p.type then some (.leaf p) else none
      | _ => none := by
  unfold leaf
  cases type with
  | behavior t =>
    have other (p : Probe) : NodeType.behavior t ≠ .condition p.type := nofun
    dsimp only
    split
    · cases body with
      | probe p => exact (if_neg (other p)).symm
      | _ => rfl
    · cases body with
      | probe p => exact (if_neg (other p)).symm
      | _ => rfl
  | condition t =>
    cases body with
    | probe p =>
      dsimp only
      by_cases same : p.type = t
      · subst same
        rw [if_pos rfl, if_pos rfl]
        cases p <;> rfl
      · rw [if_neg same, if_neg fun other => same (NodeType.condition.inj other).symm]
        rfl
    | _ => rfl
  | state => cases body <;> rfl
  | transition => cases body <;> rfl

variable {r height}

theorem shape_createFor {c : Config} {formula? : Option (Formula Probe)} {ctx : Context}
    (shaped : (create r height ctx c).1.bind AnyNode.shape? = formula?) :
    (createFor r height AnyNode.condition? ctx c).1.map Condition.shape = formula? := by
  rw [createFor, AnyNode.fst_fit, Option.map_bind]
  exact shaped

theorem shapes_createConditions {cs : List Config}
    (shaped : ∀ c ∈ cs, ∀ ctx, (create r height ctx c).1.bind AnyNode.shape? = c.formula? r)
    (ctx : Context) :
    (createConditions r height ctx cs).1.map Condition.shape = listFormulas r cs := by
  rw [createConditions_eq]
  induction cs generalizing ctx with
  | nil => rfl
  | cons c rest ih =>
    obtain ⟨first, later⟩ := List.forall_mem_cons.mp shaped
    rw [createRow, listFormulas, List.map_append, ih later, ← shape_createFor (first ctx),
      Option.toList_map]

theorem shape_createCondition? {c? : Option Config}
    (shaped : ∀ c ∈ c?.toList, ∀ ctx, (create r height ctx c).1.bind AnyNode.shape? = c.formula? r)
    (ctx : Context) :
    (createCondition? r height ctx c?).1.map Condition.shape = optionFormula? r c? := by
  rw [createCondition?_eq]
  cases c? with
  | none => rfl
  | some c => exact shape_createFor (shaped c (List.mem_singleton_self c) ctx)

theorem shape_instantiate {body : Body}
    (below : ∀ c ∈ body.children, ∀ ctx,
      (create r height ctx c).1.bind AnyNode.shape? = c.formula? r)
    (ctx : Context) (type : NodeType) (typeName : String) :
    (instantiate r height ctx type typeName body).1.toOption.bind AnyNode.shape? =
      body.formula? r type := by
  cases body with
  | composite children =>
    unfold instantiate
    split <;> rfl
  | negation condition =>
    rw [Body.formula?]
    split
    · rename_i same
      subst same
      rw [fst_negation, ← shape_createCondition? below ctx, Option.bind_map, Option.map_map]
      cases (createCondition? r height ctx condition).1 <;> rfl
    · rename_i other
      unfold instantiate
      rw [if_neg other]
      rfl
  | junction conditions =>
    have shapes := shapes_createConditions below ctx
    unfold instantiate
    split
    · refine congrArg some ((Condition.shape_gate _ _ _).trans ?_)
      exact congrArg (Formula.gate .all) shapes
    · refine congrArg some ((Condition.shape_gate _ _ _).trans ?_)
      exact congrArg (Formula.gate .any) shapes
    · rename_i notAll notAny
      rw [Body.formula?, if_neg notAll, if_neg notAny]
      rfl
  | fsm initial states =>
    unfold instantiate
    split
    · dsimp only
      split <;> rfl
    · rfl
  | state id endEvent behavior exit transitions =>
    unfold instantiate
    split <;> rfl
  | transition condition onTrue onFalse interval =>
    unfold instantiate
    split
    · split <;> rfl
    · rfl
  | _ => exact shape_leaf type typeName _ ctx

theorem shape_create (r : Registry) (height : Nat) (ctx : Context) (c : Config) :
    (create r height ctx c).1.bind AnyNode.shape? = c.formula? r := by
  induction c using Config.byChildren generalizing ctx with
  | node typeName category body below =>
    rw [fst_create, Config.formula?]
    cases r.find? typeName with
    | none => rfl
    | some entry => exact shape_instantiate below ctx entry.implementation typeName

end Creation

/-! ## Answers -/

theorem Sensor.drain_drain (s : Scope) (x : Sensor) : (x.drain s).drain s = x.drain s := by
  cases x with
  | event name ownerOnly receiver fired =>
    cases receiver with
    | none => rfl
    | some r =>
      have nothing : s.bus.backlog (s.bus.skip r) = (false, []) := by
        have passed : s.bus.pending (s.bus.skip r) = [] := s.bus.pending_of_atEnd rfl
        simp [Bus.backlog, passed]
      have again : s.bus.skip (s.bus.skip r) = s.bus.skip r := rfl
      simp [drain, nothing, again]
  | _ => rfl

theorem Sensor.check_drain (s : Scope) (x : Sensor) : (x.drain s).check s = x.check s := by
  rw [check, drain_drain, check]

namespace Condition

variable (s : Scope)

theorem fst_checkAll (cs : List Condition) :
    (checkAll s cs).1 = (cs.map fun c => (c.check s).1).all id := by
  induction cs with
  | nil => rfl
  | cons c rest ih =>
    rw [checkAll, List.map_cons, List.all_cons, ← ih]
    split <;> rename_i asked <;> rw [asked] <;> rfl

theorem fst_checkAny (cs : List Condition) :
    (checkAny s cs).1 = (cs.map fun c => (c.check s).1).any id := by
  induction cs with
  | nil => rfl
  | cons c rest ih =>
    rw [checkAny, List.map_cons, List.any_cons, ← ih]
    split <;> rename_i asked <;> rw [asked] <;> rfl

/-- That a gate asks no further than it needs does not show in its answer. -/
theorem fst_check_gate (g : Gate) (children : List Condition) :
    ((gate true g children).check s).1 = g.join (children.map fun c => (c.check s).1) := by
  cases g with
  | not => exact congrArg not (fst_checkAll s children)
  | all => exact fst_checkAll s children
  | any => exact fst_checkAny s children

theorem fst_check_of_resting {c : Condition} (resting : c.isActive = false) :
    (c.check s).1 = false := by
  cases c with
  | sensor active x => cases resting; rfl
  | gate active g children => cases resting; cases g <;> rfl

/-- In an orderly condition that is awake everything below is awake too, so it answers as its
formula does. -/
theorem fst_check {c : Condition} (orderly : c.Orderly) (active : c.isActive = true) :
    (c.check s).1 = c.formula.eval (Leaf.answer s) := by
  induction c using byChildren with
  | sensor active x => rfl
  | gate awake g children ih =>
    cases active
    have below := (orderlyAll_iff true children).mp orderly
    rw [fst_check_gate, formula, Formula.eval, Formula.evalAll_eq, formulas_eq, List.map_map]
    refine congrArg g.join (List.map_congr_left ?_)
    intro c member
    exact ih c member (below c member).2 (below c member).1

theorem checkAll_checkAll {cs : List Condition}
    (same : ∀ c ∈ cs, (c.check s).2.check s = c.check s) :
    checkAll s (checkAll s cs).2 = checkAll s cs := by
  induction cs with
  | nil => rfl
  | cons c rest ih =>
    obtain ⟨first, later⟩ := List.forall_mem_cons.mp same
    cases asked : c.check s with
    | mk answer c' =>
      rw [asked] at first
      cases answer <;> simp [checkAll, asked, first, ih later]

theorem checkAny_checkAny {cs : List Condition}
    (same : ∀ c ∈ cs, (c.check s).2.check s = c.check s) :
    checkAny s (checkAny s cs).2 = checkAny s cs := by
  induction cs with
  | nil => rfl
  | cons c rest ih =>
    obtain ⟨first, later⟩ := List.forall_mem_cons.mp same
    cases asked : c.check s with
    | mk answer c' =>
      rw [asked] at first
      cases answer <;> simp [checkAny, asked, first, ih later]

/-- To ask again changes neither the answer nor the condition. -/
theorem check_check (c : Condition) : (c.check s).2.check s = c.check s := by
  induction c using byChildren with
  | sensor active x =>
    cases active with
    | false => rfl
    | true =>
      have again : ((x.check s).2).check s = x.check s := by
        rw [Sensor.snd_check, Sensor.check_drain]
      simp only [check, again]
  | gate active g children ih =>
    cases active with
    | false => cases g <;> rfl
    | true =>
      cases g with
      | not => simp only [check, checkAll_checkAll s ih]
      | all => simp only [check, checkAll_checkAll s ih]
      | any => simp only [check, checkAny_checkAny s ih]

end Condition

/-! ## Histories -/

namespace Handle

def KeepsShape (shape : Formula Probe) (h : Handle) : Prop :=
  ∃ height c, h = live height (.condition c) ∧ c.Orderly ∧ c.shape = shape

variable {shape : Formula Probe} {h : Handle}

theorem KeepsShape.call (kept : KeepsShape shape h) (ctx : Context) (asked : Call) :
    KeepsShape shape (h.call ctx asked).1 := by
  obtain ⟨height, c, rfl, orderly, rfl⟩ := kept
  cases asked with
  | activate =>
    exact ⟨height, _, rfl, Condition.orderly_activate ctx orderly,
      Condition.shape_congr (Condition.pristine_activate ctx c)⟩
  | deactivate =>
    exact ⟨height, _, rfl, Condition.orderly_deactivate ctx orderly,
      Condition.shape_congr (Condition.pristine_deactivate ctx c)⟩
  | reset =>
    exact ⟨height, _, rfl, Condition.orderly_reset ctx.bus orderly,
      Condition.shape_congr (Condition.pristine_reset ctx.bus c)⟩
  | enter =>
    refine ⟨height, _, rfl,
      Condition.orderly_activate ctx (Condition.orderly_reset ctx.bus orderly),
      Condition.shape_congr ?_⟩
    rw [Condition.pristine_activate, Condition.pristine_reset]
  | leave => exact ⟨height, c, rfl, orderly, rfl⟩
  | update step =>
    exact ⟨height, _, rfl, Condition.orderly_update step ctx orderly,
      Condition.shape_congr (Condition.pristine_update step ctx c)⟩
  | check step =>
    exact ⟨height, _, rfl, Condition.orderly_check ctx.toScope orderly,
      Condition.shape_congr (Condition.pristine_check ctx.toScope c)⟩
  | trigger tag =>
    exact ⟨height, _, rfl, Condition.orderly_onTrigger tag orderly,
      Condition.shape_congr (Condition.pristine_onTrigger tag c)⟩

theorem KeepsShape.run (kept : KeepsShape shape h) (calls : List (Context × Call)) :
    KeepsShape shape (h.run calls) := by
  induction calls generalizing h with
  | nil => exact kept
  | cons c rest ih => exact ih (kept.call c.1 c.2)

/-- What is created for the place of a condition is a condition. -/
theorem fst_create?_condition (r : Registry) (ctx : Context) (c : Config) :
    (create? r ctx (some .condition) c).1 =
      ((SkillScript.create r c.height ctx c).1.bind AnyNode.condition?).map
        fun x => live c.height (.condition x) := by
  rw [create?, AnyNode.fst_fit]
  cases (SkillScript.create r c.height ctx c).1 with
  | none => rfl
  | some n => cases n <;> rfl

/-- A condition is created exactly if its configuration has a formula, and then has its shape. -/
theorem create?_shape (r : Registry) (ctx : Context) (c : Config) :
    match c.formula? r with
    | none => (create? r ctx (some .condition) c).1 = none
    | some f => ∃ h, (create? r ctx (some .condition) c).1 = some h ∧ h.KeepsShape f := by
  have shape := shape_create r c.height ctx c
  have begun := (create_begun false r c.height ctx c).fresh
  rw [fst_create?_condition, ← shape]
  cases made : (SkillScript.create r c.height ctx c).1 with
  | none => rfl
  | some n =>
    cases n with
    | condition x => exact ⟨_, rfl, c.height, x, rfl, (begun _ made).2, rfl⟩
    | _ => rfl

end Handle

/-- A configuration without a formula is not created as a condition. From any other one a condition
with its formula is created. After any history it answers with the value of the formula for what
its leaves answer, and so it does if it is asked again; while it rests, it answers no. -/
theorem conditions_mean_formulas (r : Registry) (c : Config) (born : Context) :
    match c.formula? r with
    | none => (Handle.create? r born (some .condition) c).1 = none
    | some f =>
      ∃ h, (Handle.create? r born (some .condition) c).1 = some h ∧
        ∀ history : List (Context × Handle.Call), ∃ height n,
          h.run history = .live height (.condition n) ∧ n.shape = f ∧
          ∀ (ctx : Context) (step step' : Float32),
            let asked := (h.run history).check step ctx
            asked.1 = some (.answer ((h.run history).status.isActive &&
              n.formula.eval (Leaf.answer ctx.toScope))) ∧
            (asked.2.1.check step' asked.2.2).1 = asked.1 := by
  have created := Handle.create?_shape r born c
  split
  · rename_i none
    rw [none] at created
    exact created
  · rename_i f some
    rw [some] at created
    obtain ⟨h, made, kept⟩ := created
    refine ⟨h, made, fun history => ?_⟩
    obtain ⟨height, n, ran, orderly, shape⟩ := kept.run history
    refine ⟨height, n, ran, shape, fun ctx step step' => ?_⟩
    have again := congrArg Prod.fst (n.check_check ctx.toScope)
    rw [ran]
    refine ⟨congrArg (fun b => Option.some (Handle.Checked.answer b)) ?_,
      congrArg (fun b => Option.some (Handle.Checked.answer b)) again⟩
    cases active : n.isActive with
    | false =>
      simp [Handle.status, AnyNode.isActive, active, Lifecycle.isActive,
        n.fst_check_of_resting ctx.toScope active]
    | true =>
      simp [Handle.status, AnyNode.isActive, active, Lifecycle.isActive,
        n.fst_check ctx.toScope orderly active]

/-- A negation of nothing is left out. -/
example :
    (Build.all [Build.constant true, Build.negation none,
        Build.negation (some (Build.trigger "go"))]).formula? .standard =
      some (.gate .all [.leaf (.const (.literal true)), .gate .not [.leaf (.trigger "go")]]) :=
  rfl

end SkillScript
