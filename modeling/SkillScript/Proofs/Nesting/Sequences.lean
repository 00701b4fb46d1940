import SkillScript.Proofs.History
import SkillScript.Proofs.Nesting.Create
import SkillScript.Proofs.Nesting.Nodes
import SkillScript.Proofs.Status.Create
import SkillScript.Proofs.Tree.Confined
import SkillScript.Proofs.Tree.Create
import SkillScript.Script.Build
/-!
# Nesting sequences makes no difference

Whether some steps of a sequence are gathered in a sequence of their own cannot be
seen from outside. The two trees are created from the same parts: the parts of the
nested one may be higher, and those that come after the inner sequence are created
after one more node.
-/
set_option autoImplicit false
namespace SkillScript

theorem listHeight_append (l l' : List Config) :
    listHeight (l ++ l') = max (listHeight l) (listHeight l') := by
  induction l with
  | nil => simp [listHeight]
  | cons c rest ih => simp [listHeight, ih, Nat.max_assoc]

variable (r : Registry)

theorem createBehaviors_append (height : Nat) (ctx : Context) (l l' : List Config) :
    createBehaviors r height ctx (l ++ l') =
      let first := createBehaviors r height ctx l
      let later := createBehaviors r height first.2 l'
      (first.1 ++ later.1, later.2) := by
  induction l generalizing ctx with
  | nil => simp [createBehaviors]
  | cons c rest ih =>
    cases height with
    | zero =>
      simp only [List.cons_append, createBehaviors]
      cases l' <;> simp [createBehaviors]
    | succ height => simp only [List.cons_append, createBehaviors, ih, List.append_assoc]

/-- A behavior looks like the one of greater height that is created in its place. -/
theorem exists_higher {c : Config} (ctx : Context) {n : Node (Behavior c.height)}
    (made : (create r c.height ctx c).1 = some (.behavior n)) {height : Nat}
    (fits : c.height ≤ height) :
    ∃ n' : Node (Behavior height), (create r height ctx c).1 = some (.behavior n') ∧
      Behaves.LooksLike n n' ∧ (create r height ctx c).2 = (create r c.height ctx c).2 := by
  induction fits with
  | refl => exact ⟨n, made, .refl n, rfl⟩
  | @step height fits ih =>
    obtain ⟨n', made', same, effects⟩ := ih
    have lifted := create_lifted .eq r height (Eq.refl ctx) c fits
    have higher := lifted.made
    rw [made'] at higher
    refine ⟨_, higher, same.trans ?_, lifted.effects.symm.trans effects⟩
    exact .of_respects (Behavior.respects_raise (height + 1)) (Behavior.retraces_raise (height + 1)) n'

/-- A child that can be created somewhere is among the children that are created. -/
theorem createBehaviors_ne_nil {ctx₀ : Context} {c : Config}
    (possible : (Handle.create? r ctx₀ (some .behavior) c).1.isSome = true) {height : Nat}
    (ctx : Context) {l : List Config} (member : c ∈ l) (fits : listHeight l ≤ height) :
    (createBehaviors r height ctx l).1 ≠ [] := by
  obtain ⟨h, created⟩ := Option.isSome_iff_exists.mp possible
  obtain ⟨n, made, -⟩ := Handle.create?_behavior created
  induction l generalizing ctx with
  | nil => cases member
  | cons c' rest ih =>
    rw [listHeight] at fits
    obtain ⟨height, rfl⟩ : ∃ k, height = k + 1 := ⟨height - 1, by omega⟩
    simp only [createBehaviors]
    rcases List.mem_cons.mp member with rfl | later
    · obtain ⟨n', made', -, -⟩ := exists_higher r ctx₀ made (show c.height ≤ height by omega)
      have some : (AnyNode.fit Behavior.ofAny? (create r height ctx c)).1.isSome = true := by
        rw [isSome_fit_behavior r height ctx ctx₀ c, AnyNode.fst_fit, made']
        rfl
      obtain ⟨b, fitted⟩ := Option.isSome_iff_exists.mp some
      rw [fitted]
      exact List.cons_ne_nil b _
    · have others := ih (AnyNode.fit Behavior.ofAny? (create r height ctx c')).2 later (by omega)
      simp [others]

section Sequences

variable {r} (known : (r.find? (NodeType.behavior .sequence).name).map (·.implementation) =
  some (.behavior .sequence)) (height : Nat) (ctx : Context)

include known

theorem create_sequence (cs : List Config) :
    create r height ctx (Build.sequence cs) =
      (some (.behavior (Node.ofSequence false false
        ⟨(createBehaviors r height ctx cs).1, 0, false⟩)),
        (createBehaviors r height ctx cs).2.born) := by
  obtain ⟨entry, found, type⟩ := Option.map_eq_some_iff.mp known
  show create r height ctx ⟨(NodeType.behavior .sequence).name, _, .composite cs⟩ = _
  rw [create, found]
  dsimp only
  rw [type, instantiate]
  rfl

/-- The flat sequence has the parts of the nested one. -/
theorem create_flat (xs ys zs : List Config) :
    let first := createBehaviors r height ctx xs
    let second := createBehaviors r height first.2 ys
    let third := createBehaviors r height second.2 zs
    create r height ctx (Build.sequence (xs ++ ys ++ zs)) =
      (some (.behavior (Node.ofSequence false false (Nest.fresh first.1 second.1 third.1).flat)),
        third.2.born) := by
  rw [create_sequence known, createBehaviors_append, createBehaviors_append]
  dsimp only
  rw [Nest.flat_fresh, List.append_assoc]

theorem create_nested (xs ys zs : List Config)
    (fits : listHeight (xs ++ ys ++ zs) ≤ height) :
    let first := createBehaviors r height ctx xs
    let second := createBehaviors r height first.2 ys
    let third := createBehaviors r height second.2 zs
    let made := create r (height + 1) ctx (Build.sequence (xs ++ [Build.sequence ys] ++ zs))
    made.1 = some (.behavior (Node.ofSequence false false
        ((Nest.fresh first.1 second.1 third.1).outer Behavior.raise))) ∧
      third.2.born.Level made.2 := by
  rw [listHeight_append, listHeight_append] at fits
  dsimp only
  have first := createBehaviors_lifted .eq r height (Eq.refl ctx) xs (by omega)
  have inner : createBehaviors r (height + 1) (createBehaviors r height ctx xs).2
      [Build.sequence ys] = ([Node.ofSequence false false
        ⟨(createBehaviors r height (createBehaviors r height ctx xs).2 ys).1, 0, false⟩],
        (createBehaviors r height (createBehaviors r height ctx xs).2 ys).2.born) := by
    simp only [createBehaviors, create_sequence known]
    rfl
  -- One more node was born before the last steps, which they do not see.
  have level : Context.Level (createBehaviors r height (createBehaviors r height ctx xs).2 ys).2
      (createBehaviors r height (createBehaviors r height ctx xs).2 ys).2.born := ⟨rfl, rfl⟩
  have third := createBehaviors_lifted .level r height level zs (by omega)
  rw [create_sequence known, createBehaviors_append, createBehaviors_append]
  dsimp only
  rw [← first.effects, inner]
  dsimp only
  refine ⟨?_, Steady.level.born third.effects⟩
  rw [first.made, third.made]
  refine congrArg (fun l : List (Node (Behavior height)) =>
    some (AnyNode.behavior (Node.ofSequence false false ⟨l, 0, false⟩))) ?_
  exact List.append_assoc _ _ _

end Sequences

theorem Handle.create?_of_behavior {ctx : Context} {c : Config} {n : Node (Behavior c.height)}
    {after : Context} (made : create r c.height ctx c = (some (.behavior n), after)) :
    Handle.create? r ctx (some .behavior) c = (some (.live c.height (.behavior n)), after) := by
  rw [Handle.create?, made]
  rfl

/-- The nested and the flat sequence that are created go together. -/
theorem Nest.stands_of_created {height : Nat} {ctx : Context} {c c' : Config}
    {s : Nest (Behavior height)} (sound : s.Sound)
    (nested : (create r (height + 1) ctx c).1 =
      some (.behavior (Node.ofSequence false false (s.outer Behavior.raise))))
    (flat : (create r height ctx c').1 =
      some (.behavior (Node.ofSequence false false s.flat)))
    (forward : ∀ hooks ∈ c'.hooks, hooks.Forward) :
    Stands Behavior.raise (Node.ofSequence false false (s.outer Behavior.raise))
      (Node.ofSequence false false s.flat) := by
  have orderly := (create_begun false r (height + 1) ctx c).fresh _ nested
  have own := (create_confined r height ctx c').made
  rw [flat, AnyNode.hooks?_some] at own
  exact .nest false false s sound orderly.2 fun hooks member => forward hooks (own member)

/-- Steps that are gathered in a sequence of their own run like the steps themselves: after any calls
in any contexts, the nested and the flat sequence have the same status and can stop at the same
time, leave over the same of every step, leave the same context after every call, and their updates
do the same to it in the same order. This holds for all steps before, in and after the inner
sequence, if there is one before or in it that can be created, and if no hook that the host runs
on updates leaves over less than nothing. -/
theorem nesting_makes_no_difference (r : Registry) (ctx : Context) (xs ys zs : List Config)
    (known : (r.find? (NodeType.behavior .sequence).name).map (·.implementation) =
      some (.behavior .sequence))
    (forward : ∀ hooks ∈ listHooks (xs ++ ys ++ zs), hooks.Forward)
    (possible : ∃ c ∈ xs ++ ys, (Handle.create? r ctx (some .behavior) c).1.isSome = true) :
    ∃ nested flat after after',
      Handle.create? r ctx (some .behavior) (Build.sequence (xs ++ [Build.sequence ys] ++ zs)) =
        (some nested, after) ∧
      Handle.create? r ctx (some .behavior) (Build.sequence (xs ++ ys ++ zs)) =
        (some flat, after') ∧
      after.toScope = after'.toScope ∧
      ∀ calls, (nested.run calls).LooksLike (flat.run calls) := by
  obtain ⟨c, member, possible⟩ := possible
  let nestedConfig := Build.sequence (xs ++ [Build.sequence ys] ++ zs)
  let flatConfig := Build.sequence (xs ++ ys ++ zs)
  have size : listHeight (xs ++ ys ++ zs) = flatConfig.height := rfl
  have low : nestedConfig.height ≤ flatConfig.height + 1 := by
    show listHeight (xs ++ [Build.sequence ys] ++ zs) ≤ listHeight (xs ++ ys ++ zs) + 1
    simp only [listHeight_append, listHeight]
    show max (max (listHeight xs) (max (listHeight ys + 1) 0)) (listHeight zs) ≤ _
    omega
  have flat := create_flat known flatConfig.height ctx xs ys zs
  have nested := create_nested known flatConfig.height ctx xs ys zs (Nat.le_refl _)
  dsimp only at flat nested
  rw [listHeight_append, listHeight_append] at size
  have filled : (createBehaviors r flatConfig.height ctx xs).1 ++
      (createBehaviors r flatConfig.height (createBehaviors r flatConfig.height ctx xs).2 ys).1 ≠
        [] := by
    rcases List.mem_append.mp member with early | late
    · exact List.append_ne_nil_of_left_ne_nil
        (createBehaviors_ne_nil r possible _ early (by omega)) _
    · exact List.append_ne_nil_of_right_ne_nil _
        (createBehaviors_ne_nil r possible _ late (by omega))
  have stands := Nest.stands_of_created r (.fresh filled _) nested.1 (congrArg Prod.fst flat) forward
  have paired := Nest.Stands.paired (Behavior.respects_raise flatConfig.height)
    (Behavior.retraces_raise flatConfig.height)
  -- The nested sequence may be created with less height than it takes for the comparison.
  have own := create_sequence known nestedConfig.height ctx (xs ++ [Build.sequence ys] ++ zs)
  obtain ⟨higher, made, raised, effects⟩ := exists_higher r ctx (congrArg Prod.fst own) low
  have same := Option.some.inj (made.symm.trans nested.1)
  cases same
  refine ⟨_, _, _, _, Handle.create?_of_behavior r own, Handle.create?_of_behavior r flat, ?_,
    Handle.looksLike_run (raised.trans ⟨_, paired, stands⟩)⟩
  have level := nested.2.scope
  rw [effects, own] at level
  exact level.symm

/-- A strike that hurts its owner, waits in a sequence of its own and publishes that it is over. -/
theorem nesting_makes_no_difference_of_strike :
    ∃ nested flat after after',
      Handle.create? .standard emptyStage (some .behavior)
        (Build.sequence ([Build.modifyHealth (-5)] ++
          [Build.sequence [Build.wait 1, Build.wait 2]] ++ [Build.publishEvent "over"])) =
        (some nested, after) ∧
      Handle.create? .standard emptyStage (some .behavior)
        (Build.sequence ([Build.modifyHealth (-5)] ++ [Build.wait 1, Build.wait 2] ++
          [Build.publishEvent "over"])) =
        (some flat, after') ∧
      after.toScope = after'.toScope ∧
      ∀ calls, (nested.run calls).LooksLike (flat.run calls) := by
  have hookless : listHooks ([Build.modifyHealth (-5)] ++ [Build.wait 1, Build.wait 2] ++
      [Build.publishEvent "over"]) = [] := rfl
  have possible : (Handle.create? .standard emptyStage (some .behavior)
      (Build.modifyHealth (-5))).1.isSome = true := rfl
  exact nesting_makes_no_difference .standard emptyStage [Build.modifyHealth (-5)]
    [Build.wait 1, Build.wait 2] [Build.publishEvent "over"] rfl (by rw [hookless]; nofun)
    ⟨_, List.mem_append_left _ (List.mem_singleton_self _), possible⟩

end SkillScript
