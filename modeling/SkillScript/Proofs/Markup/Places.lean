import Mathlib.Data.List.Forall2
import SkillScript.Proofs.Markup.Attributes
/-!
# Places that can be read

What is read of the children of an element: the entries of a list, the states of a
machine and the elements in roles. Each place can be read if the elements in it fit
there and can be read themselves; elements that are not registered are skipped.
-/
set_option autoImplicit false
namespace SkillScript

/-- A child is smaller than its parent. -/
theorem Element.sizeOf_lt_of_mem {c e : Element} (member : c ∈ e.children) :
    sizeOf c < sizeOf e := by
  have smaller := List.sizeOf_lt_of_mem member
  obtain ⟨tag, attrs, children⟩ := e
  simp only [Element.mk.sizeOf_spec] at smaller ⊢
  omega

namespace Registry

variable {r : Registry}

def Fills (r : Registry) (expected : Category) (e : Element) : Prop :=
  r.contains e.tag = true →
    (r.category e.tag).satisfies expected = true ∧ Succeeds (r.readElement none e)

theorem contains_iff {tag : String} : r.contains tag = true ↔ ∃ entry, r.find? tag = some entry :=
  Option.isSome_iff_exists

theorem category_eq {tag : String} {entry : Registration} (fit : r.Fit)
    (found : r.find? tag = some entry) : r.category tag = entry.implementation.category := by
  rw [category, found]
  exact (fit tag entry found).1

theorem category_of_unknown {tag : String} (unknown : r.contains tag = false) :
    r.category tag = .unknown := by
  rw [contains, Option.isSome_eq_false_iff, Option.isNone_iff_eq_none] at unknown
  rw [category, unknown]

/-! ## Elements in places -/

theorem readElement_of_unknown {e : Element} (unknown : r.contains e.tag = false) :
    r.readElement none e = .ok none := by
  obtain ⟨tag, attrs, children⟩ := e
  rw [contains, Option.isSome_eq_false_iff, Option.isNone_iff_eq_none] at unknown
  dsimp only at unknown
  unfold readElement
  rw [unknown]
  rfl

theorem readElement_place_iff {p : Place} {e : Element} {c? : Option Config} :
    r.readElement (some p) e = .ok c? ↔
      p.check r e.tag = .ok () ∧ r.readElement none e = .ok c? := by
  refine ⟨readElement_place, ?_⟩
  rintro ⟨checked, read⟩
  obtain ⟨tag, attrs, children⟩ := e
  unfold readElement at read ⊢
  exact bind_eq_ok.mpr ⟨(), checked, read⟩

theorem check_eq_ok {p : Place} {tag : String} (fit : r.Fit) : p.check r tag = .ok () ↔
    (r.contains tag = true → (r.category tag).satisfies p.expected = true) := by
  unfold Place.check
  cases known : r.contains tag with
  | false => simp [category_of_unknown known]
  | true =>
    obtain ⟨entry, found⟩ := contains_iff.mp known
    have registered : r.category tag ≠ .unknown := by
      rw [category_eq fit found]
      exact entry.implementation.category_ne_unknown
    simp only [registered, decide_false, Bool.false_or, forall_const]
    split <;> simp_all

theorem succeeds_readElement_place {p : Place} {e : Element} (fit : r.Fit) :
    Succeeds (r.readElement (some p) e) ↔ r.Fills p.expected e := by
  simp only [Succeeds, readElement_place_iff, exists_and_left, check_eq_ok fit, Fills]
  constructor
  · rintro ⟨fits, read⟩ known
    exact ⟨fits known, read⟩
  · intro fills
    refine ⟨fun known => (fills known).1, ?_⟩
    cases known : r.contains e.tag with
    | false => exact ⟨none, readElement_of_unknown known⟩
    | true => exact (fills known).2

/-! ## Bodies -/

/-- The body of an element, as the template of its type has it read. -/
def readBody (r : Registry) (e : Element) : Body → Except ScriptError Body
  | .wait _ => e.readWait
  | .healthOverTime _ => e.readHealthOverTime
  | .deed d => .deed <$> e.readDeed d
  | .probe p => .probe <$> e.readProbe p
  | .composite _ => .composite <$> r.readEntries (.entry e.tag .behavior) e.children
  | .junction _ => .junction <$> r.readEntries (.entry e.tag .condition) e.children
  | .negation _ => do
    discard (e.inRole? Role.condition.tag)
    match ← r.readRole e.tag .condition .condition e.children with
    | some c => pure (.negation (some c))
    | none => throw (.missingChild e.tag Role.condition.tag)
  | .fsm _ _ => do
    let initial ← e.requiredName "Initial"
    let states ← r.readStates e.tag [] e.children
    if (states.map Prod.fst).contains initial then pure (.fsm initial states)
    else throw (.unknownInitialState e.tag initial)
  | .state _ _ _ _ _ => do
    let (id, endEvent) ← e.readState
    discard (e.inRole? Role.behavior.tag)
    let behavior ← r.readRole e.tag .behavior .behavior e.children
    discard (e.inRole? Role.exitBehavior.tag)
    let exit ← r.readRole e.tag .exitBehavior .behavior e.children
    let transitions ← r.readEntries (.entry e.tag .stateTransition) e.children
    pure (.state id endEvent behavior exit transitions)
  | .transition _ _ _ _ => do
    let (onTrue, onFalse, interval) ← e.readTransition
    discard (e.inRole? Role.condition.tag)
    match ← r.readRole e.tag .condition .condition e.children with
    | some c => pure (.transition (some c) onTrue onFalse interval)
    | none => throw (.missingChild e.tag Role.condition.tag)
  | .waitCheck _ predicate => pure (.waitCheck e.attrs predicate)
  | .delegate _ hooks => pure (.delegate e.attrs hooks)

theorem readElement_eq {e : Element} {entry : Registration}
    (found : r.find? e.tag = some entry) :
    r.readElement none e =
      (fun body => some ⟨e.tag, entry.category, body⟩) <$> r.readBody e entry.template := by
  obtain ⟨tag, attrs, children⟩ := e
  dsimp only at found
  unfold readElement
  rw [found]
  dsimp only
  cases template : entry.template <;>
    simp only [readBody, map_eq_pure_bind, bind_assoc, pure_bind]
  case negation =>
    refine bind_congr fun _ => bind_congr fun c? => ?_
    cases c? <;> rfl
  case fsm =>
    refine bind_congr fun initial => bind_congr fun states => ?_
    split <;> rfl
  case transition =>
    refine bind_congr fun parts => bind_congr fun _ => bind_congr fun c? => ?_
    cases c? <;> rfl

/-- A registered element is read as a configuration, or not at all. -/
theorem isSome_of_readElement {e : Element} {c? : Option Config} (known : r.contains e.tag = true)
    (read : r.readElement none e = .ok c?) : ∃ c, c? = some c := by
  obtain ⟨entry, found⟩ := contains_iff.mp known
  rw [readElement_eq found] at read
  obtain ⟨body, -, rfl⟩ := map_ok read
  exact ⟨_, rfl⟩

/-! ## Entries -/

theorem known_cons {e : Element} {es : List Element} : r.known (e :: es) =
    if e.isRole = false ∧ r.contains e.tag = true then e :: r.known es else r.known es := by
  unfold known
  cases wrapper : e.isRole <;> cases known : r.contains e.tag <;> simp [wrapper, known]

theorem mem_known {e : Element} {es : List Element} :
    e ∈ r.known es ↔ e ∈ es ∧ e.isRole = false ∧ r.contains e.tag = true := by
  simp [known, and_comm]

/-- In any place, elements that are not registered are skipped. -/
theorem readElement_place_of_unknown {p : Place} {e : Element}
    (unknown : r.contains e.tag = false) : r.readElement (some p) e = .ok none := by
  refine readElement_place_iff.mpr ⟨?_, readElement_of_unknown unknown⟩
  simp [Place.check, category_of_unknown unknown]

/-- The entries are read in order, and none of them is lost. -/
theorem readEntries_eq_ok {place : Place} {es : List Element} {cs : List Config} :
    r.readEntries place es = .ok cs ↔
      List.Forall₂ (fun e c => r.readElement (some place) e = .ok (some c)) (r.known es) cs := by
  induction es generalizing cs with
  | nil =>
    unfold readEntries
    exact ⟨fun | rfl => .nil, fun | .nil => rfl⟩
  | cons e rest ih =>
    unfold readEntries
    rw [known_cons]
    cases wrapper : e.isRole with
    | true => simpa using ih
    | false =>
      cases known : r.contains e.tag with
      | false =>
        rw [readElement_place_of_unknown known]
        exact ih
      | true =>
        simp only [and_self, if_true, Bool.false_eq_true, if_false, List.forall₂_cons_left_iff]
        constructor
        · intro read
          obtain ⟨c?, first, read⟩ := bind_ok read
          obtain ⟨c, rfl⟩ := isSome_of_readElement known (readElement_place first).2
          obtain ⟨later, others, made⟩ := bind_ok read
          cases made
          exact ⟨c, later, first, ih.mp others, rfl⟩
        · rintro ⟨c, later, first, others, rfl⟩
          exact bind_eq_ok.mpr ⟨some c, first, bind_eq_ok.mpr ⟨later, ih.mpr others, rfl⟩⟩

/-- Lists of pairs exist if there is a pair for every member. -/
theorem exists_forall₂ {α γ : Type} {R : α → γ → Prop} {l : List α} :
    (∃ l', List.Forall₂ R l l') ↔ ∀ a ∈ l, ∃ c, R a c := by
  induction l with
  | nil => simp
  | cons a l ih =>
    rw [List.forall_mem_cons, ← ih]
    constructor
    · rintro ⟨_, pairs⟩
      cases pairs with
      | cons first rest => exact ⟨⟨_, first⟩, _, rest⟩
    · rintro ⟨⟨c, first⟩, l', rest⟩
      exact ⟨c :: l', .cons first rest⟩

theorem fills_iff {p : Place} {e : Element} (fit : r.Fit) (known : r.contains e.tag = true) :
    (∃ c, r.readElement (some p) e = .ok (some c)) ↔ r.Fills p.expected e := by
  rw [← succeeds_readElement_place fit]
  constructor
  · rintro ⟨c, read⟩
    exact ⟨_, read⟩
  · rintro ⟨c?, read⟩
    obtain ⟨c, rfl⟩ := isSome_of_readElement known (readElement_place read).2
    exact ⟨c, read⟩

theorem forall_known (place : Place) {e : Element} (fit : r.Fit) :
    (∀ child ∈ r.known e.children, ∃ c, r.readElement (some place) child = .ok (some c)) ↔
      ∀ child ∈ e.entries, r.Fills place.expected child := by
  simp only [mem_known, Element.entries, List.mem_filter, Bool.not_eq_true']
  constructor
  · rintro reads child ⟨member, entry⟩ known
    exact (fills_iff fit known).mp (reads child ⟨member, entry, known⟩) known
  · rintro fills child ⟨member, entry, known⟩
    exact (fills_iff fit known).mpr (fills child ⟨member, entry⟩)

theorem succeeds_readEntries {place : Place} {e : Element} (fit : r.Fit) :
    Succeeds (r.readEntries place e.children) ↔
      ∀ child ∈ e.entries, r.Fills place.expected child := by
  simp only [Succeeds, readEntries_eq_ok, exists_forall₂, forall_known place fit]

/-! ## Roles -/

section Roles

variable {owner : String} {role : Role} {expected : Category} {child : Element}

/-- Children that are no wrappers of the role are passed over. -/
theorem readRole_cons_of_ne {e : Element} {es : List Element} (other : e.tag ≠ role.tag) :
    r.readRole owner role expected (e :: es) = r.readRole owner role expected es := by
  obtain ⟨tag, attrs, children⟩ := e
  rcases children with _ | ⟨c, _ | ⟨c', rest⟩⟩
  · rw [readRole]
    simp
  · rw [readRole, if_neg other]
  · rw [readRole]
    simp

theorem readRole_of_absent {es : List Element}
    (absent : es.filter (fun c => c.tag = role.tag) = []) :
    r.readRole owner role expected es = .ok none := by
  induction es with
  | nil => rw [readRole]; rfl
  | cons e rest ih =>
    have other : e.tag ≠ role.tag := by
      simpa using List.filter_eq_nil_iff.mp absent e List.mem_cons_self
    rw [readRole_cons_of_ne other]
    exact ih (by simpa [other] using absent)

theorem readRole_of_held {attrs : List (String × String)} {es : List Element}
    (held : es.filter (fun c => c.tag = role.tag) = [⟨role.tag, attrs, [child]⟩]) :
    r.readRole owner role expected es =
      r.readElement (some ⟨owner, role.tag, expected⟩) child := by
  induction es with
  | nil => cases held
  | cons e rest ih =>
    by_cases same : e.tag = role.tag
    · simp only [List.filter_cons, same, decide_true, if_true, List.cons.injEq] at held
      rw [held.1, readRole, if_pos rfl]
    · rw [readRole_cons_of_ne same]
      exact ih (by simpa [same] using held)

theorem readRole_of_holds {e : Element} (held : e.Holds role child) :
    r.readRole owner role expected e.children =
      r.readElement (some ⟨owner, role.tag, expected⟩) child := by
  obtain ⟨attrs, held⟩ := held
  exact readRole_of_held held

end Roles

end Registry

theorem Element.Holds.unique {e child child' : Element} {role : Role} (held : e.Holds role child)
    (held' : e.Holds role child') : child = child' := by
  obtain ⟨attrs, held⟩ := held
  obtain ⟨attrs', held'⟩ := held'
  rw [held] at held'
  cases held'
  rfl

namespace Registry

variable {r : Registry} {owner : String} {role : Role} {expected : Category} {e : Element}

/-- A role that may stay empty. -/
theorem succeeds_readRole (owner : String) (fit : r.Fit) (once : e.WrappedOnce role) :
    Succeeds (r.readRole owner role expected e.children) ↔
      ∀ child, e.Holds role child → r.Fills expected child := by
  rcases once with absent | ⟨child, held⟩
  · refine iff_of_true ⟨none, readRole_of_absent absent⟩ ?_
    rintro child ⟨attrs, held⟩
    rw [absent] at held
    cases held
  · rw [readRole_of_holds held, succeeds_readElement_place fit]
    constructor
    · intro fills child' held'
      rwa [← held.unique held']
    · intro fills
      exact fills child held

/-- A role that has to be filled. -/
theorem exists_readRole (fit : r.Fit) (once : e.WrappedOnce role) :
    (∃ c, r.readRole owner role expected e.children = .ok (some c)) ↔
      (∀ child, e.Holds role child → r.Fills expected child) ∧
        ∃ child, e.Holds role child ∧ r.contains child.tag = true := by
  rw [← succeeds_readRole owner fit once]
  rcases once with absent | ⟨child, held⟩
  · rw [readRole_of_absent absent]
    refine iff_of_false nofun ?_
    rintro ⟨-, child, ⟨attrs, held⟩, -⟩
    rw [absent] at held
    cases held
  · rw [readRole_of_holds held]
    constructor
    · rintro ⟨c, read⟩
      refine ⟨⟨_, read⟩, child, held, ?_⟩
      cases known : r.contains child.tag with
      | true => rfl
      | false =>
        rw [readElement_place_of_unknown known] at read
        cases read
    · rintro ⟨⟨c?, read⟩, child', held', known⟩
      rw [← held.unique held'] at known
      obtain ⟨c, rfl⟩ := isSome_of_readElement known (readElement_place read).2
      exact ⟨c, read⟩

/-! ## States -/

/-- A registered entry is read as a state, under an id that was not met before. -/
theorem readStates_cons_eq_ok {seen : List String} {es : List Element}
    {states : List (String × Config)} (entry : e.isRole = false)
    (known : r.contains e.tag = true) :
    r.readStates owner seen (e :: es) = .ok states ↔ ∃ id c later, states = (id, c) :: later ∧
      r.readElement (some ⟨owner, "State", .state⟩) e = .ok (some c) ∧
      e.requiredName "Id" = .ok id ∧ id ∉ seen ∧
      r.readStates owner (id :: seen) es = .ok later := by
  rw [readStates]
  simp only [entry, Bool.false_eq_true, if_false]
  constructor
  · intro read
    obtain ⟨c?, first, read⟩ := bind_ok read
    obtain ⟨c, rfl⟩ := isSome_of_readElement known (readElement_place first).2
    obtain ⟨id, named, read⟩ := bind_ok read
    split at read
    · cases read
    · rename_i fresh
      obtain ⟨later, others, made⟩ := bind_ok read
      cases made
      exact ⟨id, c, later, rfl, first, named, by simpa using fresh, others⟩
  · rintro ⟨id, c, later, rfl, first, named, fresh, others⟩
    refine bind_eq_ok.mpr ⟨some c, first, bind_eq_ok.mpr ⟨id, named, ?_⟩⟩
    rw [if_neg (by simpa using fresh)]
    exact bind_eq_ok.mpr ⟨later, others, rfl⟩

/-- The states are read in order, each under its id, and no id is met twice. -/
theorem readStates_eq_ok {seen : List String} {es : List Element}
    {states : List (String × Config)} :
    r.readStates owner seen es = .ok states ↔
      List.Forall₂ (fun e s => r.readElement (some ⟨owner, "State", .state⟩) e = .ok (some s.2) ∧
        e.requiredName "Id" = .ok s.1) (r.known es) states ∧
        (states.map Prod.fst).Nodup ∧ ∀ id ∈ states.map Prod.fst, id ∉ seen := by
  induction es generalizing seen states with
  | nil =>
    rw [readStates]
    constructor
    · rintro ⟨⟩
      exact ⟨.nil, .nil, by simp⟩
    · rintro ⟨⟨⟩, -⟩
      rfl
  | cons e rest ih =>
    rw [known_cons]
    cases wrapper : e.isRole with
    | true =>
      rw [readStates]
      simpa [wrapper] using ih
    | false =>
      cases known : r.contains e.tag with
      | false =>
        rw [readStates, readElement_place_of_unknown known]
        simp only [wrapper, Bool.false_eq_true, and_false, if_false]
        exact ih
      | true =>
        rw [readStates_cons_eq_ok wrapper known, if_pos ⟨rfl, rfl⟩, List.forall₂_cons_left_iff]
        constructor
        · rintro ⟨id, c, later, rfl, first, named, fresh, others⟩
          obtain ⟨pairs, distinct, unseen⟩ := ih.mp others
          refine ⟨⟨(id, c), later, ⟨first, named⟩, pairs, rfl⟩, ?_, ?_⟩
          · refine List.nodup_cons.mpr ⟨fun again => ?_, distinct⟩
            exact unseen id again List.mem_cons_self
          · refine List.forall_mem_cons.mpr ⟨fresh, fun other member met => ?_⟩
            exact unseen other member (List.mem_cons_of_mem id met)
        · rintro ⟨⟨⟨id, c⟩, later, ⟨first, named⟩, pairs, rfl⟩, distinct, unseen⟩
          obtain ⟨once, distinct⟩ := List.nodup_cons.mp distinct
          obtain ⟨fresh, unseen⟩ := List.forall_mem_cons.mp unseen
          refine ⟨id, c, later, rfl, first, named, fresh, ih.mpr ⟨pairs, distinct, ?_⟩⟩
          intro other member met
          rcases List.mem_cons.mp met with rfl | met
          · exact once member
          · exact unseen other member met

theorem requiredName_id {id : String} (named : e.requiredName "Id" = .ok id) :
    id = Text.trim ((e.attr? "Id").getD "") := by
  obtain ⟨text, found, rfl⟩ := Element.requiredName_eq_ok.mp named
  rw [found, Option.getD_some]

/-- The states are named after the ids of the entries. -/
theorem map_fst_states {owner : String} {es : List Element} {states : List (String × Config)}
    (pairs : List.Forall₂ (fun e s => r.readElement (some ⟨owner, "State", .state⟩) e =
      .ok (some s.2) ∧ e.requiredName "Id" = .ok s.1) es states) :
    states.map Prod.fst = es.map fun c => Text.trim ((c.attr? "Id").getD "") := by
  induction pairs with
  | nil => rfl
  | cons first _ ih => rw [List.map_cons, List.map_cons, ih, requiredName_id first.2]

end Registry

end SkillScript
