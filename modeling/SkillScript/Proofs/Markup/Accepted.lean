import SkillScript.Proofs.Instantiation.Start
import SkillScript.Proofs.Markup.Mirror
/-!
# Accepted markup

The reader accepts just the markup that is well-formed. For an element alone this is
a matter of its template: the element can be read if it has the shape of its type and
the elements that it places can be read. The elements in places are smaller, so the
rest is an induction. What is read then mirrors the element: nothing that is read of
it is lost, and its order is kept.
-/
set_option autoImplicit false
namespace SkillScript

variable {r : Registry} {e : Element} {t : NodeType}

/-! ## States -/

theorem NodeType.state_of_fits (fits : t.category.satisfies .state = true) : t = .state := by
  have slot := slot_of_state fits
  cases t <;> first | rfl | cases slot

theorem NodeType.template_of_state {template : Body} (takes : NodeType.state.Takes template) :
    ∃ id endEvent behavior exit transitions,
      template = .state id endEvent behavior exit transitions := by
  cases template <;> simp [Takes] at takes ⊢

namespace Registry

/-- What is read in the place of a state has an id. -/
theorem names_id (fit : r.Fit) (known : r.contains e.tag = true) (fills : r.Fills .state e) :
    e.Names "Id" := by
  obtain ⟨fits, read⟩ := fills known
  obtain ⟨entry, found⟩ := contains_iff.mp known
  rw [category_eq fit found] at fits
  have takes := (fit e.tag entry found).2
  rw [NodeType.state_of_fits fits] at takes
  obtain ⟨_, _, _, _, _, template⟩ := NodeType.template_of_state takes
  rw [readElement_eq found, template, succeeds_map, readBody, succeeds_bind] at read
  obtain ⟨parts, first, -⟩ := read
  obtain ⟨text, named, -⟩ := (Element.succeeds_readState.mp ⟨parts, first⟩).1
  exact ⟨text, named, trivial⟩

theorem exists_readStates (fit : r.Fit) {owner : String} {Q : List String → Prop} :
    (∃ states, r.readStates owner [] e.children = .ok states ∧ Q (states.map Prod.fst)) ↔
      (∀ child ∈ e.entries, r.Fills .state child) ∧ (e.stateIds r).Nodup ∧ Q (e.stateIds r) := by
  have reads : (∀ child ∈ r.known e.children, ∃ s : String × Config,
      r.readElement (some ⟨owner, "State", .state⟩) child = .ok (some s.2) ∧
        child.requiredName "Id" = .ok s.1) ↔ ∀ child ∈ e.entries, r.Fills .state child := by
    rw [← forall_known ⟨owner, "State", .state⟩ fit]
    refine forall₂_congr fun child member => ?_
    have known := (mem_known.mp member).2.2
    constructor
    · rintro ⟨s, read, -⟩
      exact ⟨s.2, read⟩
    · rintro ⟨c, read⟩
      have fills := (fills_iff fit known).mp ⟨c, read⟩
      obtain ⟨id, named⟩ := Element.succeeds_requiredName.mpr (names_id fit known fills)
      exact ⟨(id, c), read, named⟩
  rw [← reads, ← exists_forall₂]
  simp only [readStates_eq_ok]
  constructor
  · rintro ⟨states, ⟨pairs, distinct, -⟩, holds⟩
    rw [map_fst_states pairs] at distinct holds
    exact ⟨⟨states, pairs⟩, distinct, holds⟩
  · rintro ⟨⟨states, pairs⟩, distinct, holds⟩
    refine ⟨states, ⟨pairs, ?_, nofun⟩, ?_⟩
    · rwa [map_fst_states pairs]
    · rwa [map_fst_states pairs]

end Registry

/-! ## One element -/

/-- An element that has the shape of its type, and places only elements that can be read. -/
def Element.Readable (r : Registry) (t : NodeType) (e : Element) : Prop :=
  e.Shaped r t ∧ ∀ child expected, t.Places e child expected → r.contains child.tag = true →
    Succeeds (r.readElement none child)

theorem Element.readable_iff : e.Readable r t ↔
    t.Attributes e ∧
    (∀ place ∈ t.roles, e.WrappedOnce place.1 ∧
      ∀ child, e.Holds place.1 child → r.Fills place.2 child) ∧
    (∀ role ∈ t.requiredRoles, ∃ child, e.Holds role child ∧ r.contains child.tag = true) ∧
    (∀ role ∈ t.refusedRoles, e.wrappers role.tag = []) ∧
    (∀ expected, t.lists? = some expected → ∀ child ∈ e.entries, r.Fills expected child) ∧
    (t = .behavior .fsm → (e.stateIds r).Nodup ∧
      e.Has "Initial" fun text => Text.trim text ∈ e.stateIds r) := by
  constructor
  · rintro ⟨shaped, below⟩
    refine ⟨shaped.attributes, fun place reads => ⟨shaped.wrapped place reads, ?_⟩,
      shaped.required, shaped.refused, ?_, shaped.states⟩
    · intro child held known
      have placed := NodeType.Places.role (t := t) place.1 reads held
      exact ⟨shaped.fitting child _ placed known, below child _ placed known⟩
    · intro expected lists child member known
      have placed := NodeType.Places.entry lists member
      exact ⟨shaped.fitting child _ placed known, below child _ placed known⟩
  · rintro ⟨attributes, wrapped, required, refused, listed, states⟩
    have fills : ∀ child expected, t.Places e child expected → r.Fills expected child := by
      intro child expected placed
      cases placed with
      | role role reads held => exact (wrapped _ reads).2 child held
      | entry lists member => exact listed expected lists child member
    exact ⟨⟨attributes, fun place reads => (wrapped place reads).1, required, refused,
      fun child expected placed known => (fills child expected placed known).1, states⟩,
      fun child expected placed known => (fills child expected placed known).2⟩

namespace Registry

/-- A role that has to be filled, and is then used in any way. -/
theorem succeeds_requiredRole {γ : Type} {owner : String} {role : Role} {expected : Category}
    {f : Option Config → Except ScriptError γ} (fit : r.Fit) (filled : ∀ c, Succeeds (f (some c)))
    (empty : ¬Succeeds (f none)) :
    Succeeds (do
      discard (e.inRole? role.tag)
      f (← r.readRole owner role expected e.children)) ↔
        (e.WrappedOnce role ∧ ∀ child, e.Holds role child → r.Fills expected child) ∧
          ∃ child, e.Holds role child ∧ r.contains child.tag = true := by
  have used : Succeeds (r.readRole owner role expected e.children >>= f) ↔
      ∃ c, r.readRole owner role expected e.children = .ok (some c) := by
    rw [succeeds_bind]
    constructor
    · rintro ⟨c?, read, rest⟩
      cases c? with
      | none => exact absurd rest empty
      | some c => exact ⟨c, read⟩
    · rintro ⟨c, read⟩
      exact ⟨some c, read, filled c⟩
  rw [succeeds_bind]
  simp only [used, exists_and_right, exists_eq_ok, succeeds_discard, Element.succeeds_inRole?,
    and_assoc]
  exact and_congr_right fun once => exists_readRole fit once

theorem succeeds_negation (fit : r.Fit) {condition : Option Config} :
    Succeeds (r.readBody e (.negation condition)) ↔ e.Readable r (.condition .not) := by
  rw [Element.readable_iff, readBody]
  refine (succeeds_requiredRole fit ?_ ?_).trans ?_
  · exact fun _ => succeeds_pure _
  · exact not_succeeds_throw _
  · simp

theorem succeeds_transition (fit : r.Fit) {condition : Option Config}
    {onTrue onFalse : Option String} {interval : Param Float32} :
    Succeeds (r.readBody e (.transition condition onTrue onFalse interval)) ↔
      e.Readable r .transition := by
  rw [Element.readable_iff, readBody]
  refine (succeeds_bind_and fun parts => succeeds_requiredRole fit ?_ ?_).trans ?_
  · exact fun _ => succeeds_pure _
  · exact not_succeeds_throw _
  · simp [Element.succeeds_readTransition]

theorem succeeds_state (fit : r.Fit) {id : String} {endEvent : Option String}
    {behavior exit : Option Config} {transitions : List Config} :
    Succeeds (r.readBody e (.state id endEvent behavior exit transitions)) ↔
      e.Readable r .state := by
  have role (role : Role) :
      e.WrappedOnce role ∧ Succeeds (r.readRole e.tag role .behavior e.children) ↔
        e.WrappedOnce role ∧ ∀ child, e.Holds role child → r.Fills .behavior child :=
    and_congr_right fun once => succeeds_readRole e.tag fit once
  simp [Element.readable_iff, readBody, Element.succeeds_readState, succeeds_readEntries fit,
    Place.entry, ← role]
  simp only [and_assoc, and_left_comm]

theorem succeeds_fsm (fit : r.Fit) {initial : String} {states : List (String × Config)} :
    Succeeds (r.readBody e (.fsm initial states)) ↔ e.Readable r (.behavior .fsm) := by
  have declared (name : String) : Succeeds (do
      let states ← r.readStates e.tag [] e.children
      if (states.map Prod.fst).contains name then pure (Body.fsm name states)
      else throw (ScriptError.unknownInitialState e.tag name)) ↔
        (∀ child ∈ e.entries, r.Fills .state child) ∧ (e.stateIds r).Nodup ∧
          name ∈ e.stateIds r := by
    rw [succeeds_bind, ← exists_readStates fit (Q := fun ids => name ∈ ids)]
    refine exists_congr fun states => and_congr_right fun _ => ?_
    rw [← List.contains_iff_mem]
    split <;> simp_all
  rw [Element.readable_iff, readBody, succeeds_bind]
  simp only [declared, Element.requiredName_eq_ok]
  constructor
  · rintro ⟨name, ⟨text, found, rfl⟩, fills, distinct, known⟩
    exact ⟨⟨text, found, trivial⟩, by simp, by simp, by simp, by simpa using fills,
      fun _ => ⟨distinct, text, found, known⟩⟩
  · rintro ⟨-, -, -, -, fills, states⟩
    obtain ⟨distinct, text, found, known⟩ := states trivial
    exact ⟨_, ⟨text, found, rfl⟩, fills _ rfl, distinct, known⟩

theorem succeeds_readBody {template : Body} (fit : r.Fit) (takes : t.Takes template) :
    Succeeds (r.readBody e template) ↔ e.Readable r t := by
  cases template with
  | wait config =>
    cases takes
    rw [Element.readable_iff]
    simpa [readBody] using Element.succeeds_readWait
  | healthOverTime config =>
    cases takes
    rw [Element.readable_iff]
    simpa [readBody] using Element.succeeds_readHealthOverTime
  | deed d =>
    cases takes
    rw [Element.readable_iff, readBody, succeeds_map, Element.succeeds_readDeed]
    cases d <;> simp [Deed.type]
  | probe p =>
    cases takes
    rw [Element.readable_iff, readBody, succeeds_map, Element.succeeds_readProbe]
    cases p <;> simp [Probe.type]
  | composite children =>
    rcases takes with rfl | rfl <;>
      simp [Element.readable_iff, readBody, succeeds_readEntries fit, Place.entry]
  | junction conditions =>
    rcases takes with rfl | rfl <;>
      simp [Element.readable_iff, readBody, succeeds_readEntries fit, Place.entry]
  | waitCheck attrs predicate =>
    cases takes
    simp [Element.readable_iff, readBody]
  | delegate attrs hooks =>
    cases takes
    simp [Element.readable_iff, readBody]
  | negation condition =>
    cases takes
    exact succeeds_negation fit
  | fsm initial states =>
    cases takes
    exact succeeds_fsm fit
  | state id endEvent behavior exit transitions =>
    cases takes
    exact succeeds_state fit
  | transition condition onTrue onFalse interval =>
    cases takes
    exact succeeds_transition fit

theorem succeeds_readElement (fit : r.Fit) {entry : Registration}
    (found : r.find? e.tag = some entry) :
    Succeeds (r.readElement none e) ↔ e.Readable r entry.implementation := by
  rw [readElement_eq found, succeeds_map]
  exact succeeds_readBody fit (fit e.tag entry found).2

end Registry

/-! ## Every element -/

/-- An element in a place is smaller. -/
theorem NodeType.Places.sizeOf_lt {child : Element} {expected : Category}
    (placed : t.Places e child expected) : sizeOf child < sizeOf e := by
  cases placed with
  | role role reads held =>
    obtain ⟨attrs, held⟩ := held
    have wrapped : ⟨role.tag, attrs, [child]⟩ ∈ e.wrappers role.tag := by
      rw [held]
      exact List.mem_cons_self
    have inner : sizeOf child < sizeOf (⟨role.tag, attrs, [child]⟩ : Element) :=
      Element.sizeOf_lt_of_mem (List.mem_singleton_self child)
    exact inner.trans (Element.sizeOf_lt_of_mem (List.mem_filter.mp wrapped).1)
  | entry lists member => exact Element.sizeOf_lt_of_mem (List.mem_filter.mp member).1

namespace Registry

theorem wellFormed_of_read (fit : r.Fit) (e : Element) (known : r.contains e.tag = true)
    (read : Succeeds (r.readElement none e)) : e.WellFormed r := by
  obtain ⟨entry, found⟩ := contains_iff.mp known
  obtain ⟨shaped, below⟩ := (succeeds_readElement fit found).mp read
  refine .intro found shaped fun child expected placed known => ?_
  have smaller := placed.sizeOf_lt
  exact wellFormed_of_read fit child known (below child expected placed known)
termination_by sizeOf e

theorem read_of_wellFormed (fit : r.Fit) (formed : e.WellFormed r) :
    Succeeds (r.readElement none e) := by
  induction formed with
  | intro found shaped _ ih => exact (succeeds_readElement fit found).mpr ⟨shaped, ih⟩

end Registry

theorem Element.WellFormed.contains (formed : e.WellFormed r) : r.contains e.tag = true := by
  cases formed with
  | intro found _ _ => exact Registry.contains_iff.mpr ⟨_, found⟩

/-- The reader skips what is not registered, accepts just what is well-formed and refuses the
rest; what it accepts it reads whole and in order. -/
theorem markup_is_accepted_exactly (r : Registry) (hosted : r.Hosted) (e : Element) :
    (r.read e = .ok none ↔ r.contains e.tag = false) ∧
      ((∃ c, r.read e = .ok (some c)) ↔ e.WellFormed r) ∧
      ((∃ error, r.read e = .error error) ↔ r.contains e.tag = true ∧ ¬e.WellFormed r) ∧
      ∀ c, r.read e = .ok (some c) → ∃ entry, r.find? e.tag = some entry ∧
        c.Mirrors r entry.implementation e := by
  have fit := hosted.fit
  cases known : r.contains e.tag with
  | false =>
    have skipped : r.read e = .ok none := Registry.readElement_of_unknown known
    have unformed : ¬e.WellFormed r := fun formed => by
      rw [formed.contains] at known
      cases known
    rw [skipped]
    exact ⟨iff_of_true rfl rfl, iff_of_false nofun unformed, iff_of_false nofun nofun, nofun⟩
  | true =>
    have accepted : Succeeds (r.read e) ↔ e.WellFormed r :=
      ⟨Registry.wellFormed_of_read fit e known, Registry.read_of_wellFormed fit⟩
    obtain ⟨entry, found⟩ := Registry.contains_iff.mp known
    have mirrored : ∀ c, r.read e = .ok (some c) → ∃ entry, r.find? e.tag = some entry ∧
        c.Mirrors r entry.implementation e :=
      fun c read => ⟨entry, found, Registry.mirrors_of_read fit found read⟩
    cases read : r.read e with
    | error error =>
      have unformed : ¬e.WellFormed r := by
        rw [← accepted, read]
        exact not_succeeds_error error
      exact ⟨iff_of_false nofun nofun, iff_of_false nofun unformed,
        iff_of_true ⟨error, rfl⟩ ⟨rfl, unformed⟩, nofun⟩
    | ok c? =>
      obtain ⟨c, rfl⟩ := Registry.isSome_of_readElement known read
      have formed : e.WellFormed r := accepted.mp ⟨_, read⟩
      rw [read] at mirrored
      exact ⟨iff_of_false nofun nofun, iff_of_true ⟨c, rfl⟩ formed,
        iff_of_false nofun fun refused => refused.2 formed, mirrored⟩

/-- The gate is well-formed; a time that refers to a variable without a name is not. -/
theorem markup_is_accepted_exactly_of_gate :
    gateElement.WellFormed gateRegistry ∧
      ¬Element.WellFormed gateRegistry { tag := "ElapsedCond", attrs := [("Seconds", "BB#")] } := by
  have hosted : gateRegistry.Hosted := .delegate Registry.standard_hosted "Guard" {}
  obtain ⟨-, accepted, -, -⟩ := markup_is_accepted_exactly gateRegistry hosted gateElement
  obtain ⟨-, -, refused, -⟩ := markup_is_accepted_exactly gateRegistry hosted
    { tag := "ElapsedCond", attrs := [("Seconds", "BB#")] }
  exact ⟨accepted.mp ⟨_, rfl⟩, (refused.mp ⟨_, rfl⟩).2⟩

end SkillScript
