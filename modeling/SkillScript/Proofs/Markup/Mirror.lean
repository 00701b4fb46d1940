import SkillScript.Proofs.Markup.Places
/-!
# What is read of an element

A configuration mirrors the element that it was read from: under the name of its tag
it has what was read of the registered entries, in their order, and of the elements in
the roles of its type.
-/
set_option autoImplicit false
namespace SkillScript

namespace Body

def entries : Body → List Config
  | composite children => children
  | junction conditions => conditions
  | fsm _ states => states.map Prod.snd
  | state _ _ _ _ transitions => transitions
  | _ => []

def inRole? : Body → Role → Option Config
  | negation condition, .condition => condition
  | state _ _ behavior _ _, .behavior => behavior
  | state _ _ _ exit _, .exitBehavior => exit
  | transition condition _ _ _, .condition => condition
  | _, _ => none

end Body

/-- What the body of a configuration has of the children of the element. -/
structure Body.Mirrors (r : Registry) (t : NodeType) (e : Element) (b : Body) : Prop where
  entries : t.lists?.isSome = true →
    List.Forall₂ (fun child c => r.read child = .ok (some c)) (e.knownEntries r) b.entries
  roles : ∀ place ∈ t.roles, (e.wrappers place.1.tag = [] → b.inRole? place.1 = none) ∧
    ∀ child, e.Holds place.1 child → r.read child = .ok (b.inRole? place.1)
  machine : ∀ initial states, b = .fsm initial states →
    states.map Prod.fst = e.stateIds r ∧ e.Has "Initial" fun text => Text.trim text = initial

structure Config.Mirrors (r : Registry) (t : NodeType) (e : Element) (c : Config) : Prop where
  typeName : c.typeName = e.tag
  category : c.category = t.category
  takes : t.Takes c.body
  body : c.body.Mirrors r t e

namespace Registry

variable {r : Registry} {e : Element} {owner : String} {c : Config}

theorem mirrors_entries {place : Place} {cs : List Config}
    (read : r.readEntries place e.children = .ok cs) :
    List.Forall₂ (fun child d => r.read child = .ok (some d)) (e.knownEntries r) cs :=
  (readEntries_eq_ok.mp read).imp fun _ _ first => (readElement_place first).2

theorem mirrors_role {role : Role} {expected : Category} {c? : Option Config}
    (read : r.readRole owner role expected e.children = .ok c?) :
    (e.wrappers role.tag = [] → c? = none) ∧
      ∀ child, e.Holds role child → r.read child = .ok c? := by
  constructor
  · intro absent
    rw [readRole_of_absent absent] at read
    cases read
    rfl
  · intro child held
    rw [readRole_of_holds held] at read
    exact (readElement_place read).2

/-- A type without places has nothing to mirror. -/
theorem mirrors_leaf {t : NodeType} {b : Body} (takes : t.Takes b) (lists : t.lists? = none)
    (roles : t.roles = []) : b.Mirrors r t e := by
  refine ⟨?_, ?_, ?_⟩
  · intro listed
    rw [lists] at listed
    cases listed
  · rw [roles]
    nofun
  · rintro initial states rfl
    cases takes
    cases lists

/-- A type that only has a list, and is no machine. -/
theorem mirrors_list {t : NodeType} {b : Body} {place : Place} (roles : t.roles = [])
    (other : ∀ initial states, b ≠ .fsm initial states)
    (read : r.readEntries place e.children = .ok b.entries) : b.Mirrors r t e := by
  refine ⟨fun _ => mirrors_entries read, ?_, ?_⟩
  · rw [roles]
    nofun
  · intro initial states same
    exact absurd same (other initial states)

/-- A type that only has the role of a condition. -/
theorem mirrors_condition {t : NodeType} {b : Body} (roles : t.roles = [(.condition, .condition)])
    (lists : t.lists? = none) (other : ∀ initial states, b ≠ .fsm initial states)
    (read : r.readRole owner .condition .condition e.children = .ok (b.inRole? .condition)) :
    b.Mirrors r t e := by
  refine ⟨?_, ?_, ?_⟩
  · intro listed
    rw [lists] at listed
    cases listed
  · rw [roles]
    exact List.forall_mem_singleton.mpr (mirrors_role read)
  · intro initial states same
    exact absurd same (other initial states)

theorem mirrors_fsm {initial : String} {states : List (String × Config)} {b : Body}
    (read : r.readBody e (.fsm initial states) = .ok b) : b.Mirrors r (.behavior .fsm) e := by
  obtain ⟨name, named, read⟩ := bind_ok read
  obtain ⟨states, done, read⟩ := bind_ok read
  obtain ⟨pairs, -, -⟩ := readStates_eq_ok.mp done
  split at read
  · cases read
    refine ⟨fun _ => ?_, nofun, ?_⟩
    · refine List.forall₂_map_right_iff.mpr (pairs.imp fun _ _ first => ?_)
      exact (readElement_place first.1).2
    · rintro _ _ ⟨⟩
      exact ⟨map_fst_states pairs, Element.requiredName_eq_ok.mp named⟩
  · cases read

theorem mirrors_state {id : String} {endEvent : Option String} {behavior exit : Option Config}
    {transitions : List Config} {b : Body}
    (read : r.readBody e (.state id endEvent behavior exit transitions) = .ok b) :
    b.Mirrors r .state e := by
  obtain ⟨parts, -, read⟩ := bind_ok read
  obtain ⟨_, -, read⟩ := bind_ok read
  obtain ⟨behavior, first, read⟩ := bind_ok read
  obtain ⟨_, -, read⟩ := bind_ok read
  obtain ⟨exit, second, read⟩ := bind_ok read
  obtain ⟨transitions, entries, read⟩ := bind_ok read
  cases read
  refine ⟨fun _ => mirrors_entries entries, ?_, nofun⟩
  exact List.forall_mem_cons.mpr ⟨mirrors_role first,
    List.forall_mem_singleton.mpr (mirrors_role second)⟩

theorem mirrors_readBody {t : NodeType} {template b : Body} (takes : t.Takes template)
    (takes' : t.Takes b) (read : r.readBody e template = .ok b) : b.Mirrors r t e := by
  cases template with
  | wait config => exact mirrors_leaf takes' (by cases takes; rfl) (by cases takes; rfl)
  | healthOverTime config => exact mirrors_leaf takes' (by cases takes; rfl) (by cases takes; rfl)
  | deed d =>
    cases takes
    cases d <;> exact mirrors_leaf takes' rfl rfl
  | probe p =>
    cases takes
    cases p <;> exact mirrors_leaf takes' rfl rfl
  | waitCheck attrs predicate =>
    exact mirrors_leaf takes' (by cases takes; rfl) (by cases takes; rfl)
  | delegate attrs hooks =>
    exact mirrors_leaf takes' (by cases takes; rfl) (by cases takes; rfl)
  | composite children =>
    obtain ⟨cs, done, rfl⟩ := map_ok read
    exact mirrors_list (by rcases takes with rfl | rfl <;> rfl) nofun done
  | junction conditions =>
    obtain ⟨cs, done, rfl⟩ := map_ok read
    exact mirrors_list (by rcases takes with rfl | rfl <;> rfl) nofun done
  | negation condition =>
    cases takes
    obtain ⟨_, -, read⟩ := bind_ok read
    obtain ⟨c?, child, read⟩ := bind_ok read
    cases c? with
    | none => cases read
    | some c =>
      cases read
      exact mirrors_condition rfl rfl nofun child
  | transition condition onTrue onFalse interval =>
    cases takes
    obtain ⟨parts, -, read⟩ := bind_ok read
    obtain ⟨_, -, read⟩ := bind_ok read
    obtain ⟨c?, child, read⟩ := bind_ok read
    cases c? with
    | none => cases read
    | some c =>
      cases read
      exact mirrors_condition rfl rfl nofun child
  | fsm initial states =>
    cases takes
    exact mirrors_fsm read
  | state id endEvent behavior exit transitions =>
    cases takes
    exact mirrors_state read

theorem mirrors_of_read (fit : r.Fit) {entry : Registration} (found : r.find? e.tag = some entry)
    (read : r.readElement none e = .ok (some c)) : c.Mirrors r entry.implementation e := by
  obtain ⟨sound, typeName⟩ := readElement_sound fit e c read
  obtain ⟨name, category, body⟩ := c
  obtain ⟨⟨entry', found', category, takes⟩, -⟩ := sound
  cases typeName
  rw [found] at found'
  cases found'
  rw [readElement_eq found] at read
  obtain ⟨body', read, made⟩ := map_ok read
  cases made
  exact ⟨rfl, category, takes, mirrors_readBody (fit e.tag entry found).2 takes read⟩

end Registry

end SkillScript
