import SkillScript.Proofs.Markup.Places
/-!
# Reading looks up tags and nothing else

While an element is read its tag is looked up, and then the tags of the elements that
fill its places, one after another until there is an error. Two registries that agree
on these tags read the element alike. So later registrations change nothing for an
element all of whose tags are known when they are met.
-/
set_option autoImplicit false
namespace SkillScript

namespace Registry

/-! ## The tags that are met -/

def behind {α : Type} (step : Except ScriptError α) (tags : List String) : List String :=
  match step with
  | .ok _ => tags
  | .error _ => []

mutual

/-- The tags that are looked up while an element is read, for a place if one is given, in order
and up to the first error. -/
def met (r : Registry) (place : Option Place) : Element → List String
  | ⟨tag, attrs, children⟩ =>
    let e : Element := ⟨tag, attrs, children⟩
    tag :: behind (place.elim (.ok ()) fun p => p.check r tag)
      (match r.find? tag with
      | none => []
      | some entry =>
        match entry.template with
        | .composite _ => metEntries r (.entry tag .behavior) children
        | .junction _ => metEntries r (.entry tag .condition) children
        | .negation _ =>
          behind (e.inRole? Role.condition.tag) (metRole r tag .condition .condition children)
        | .fsm _ _ => behind (e.requiredName "Initial") (metStates r tag [] children)
        | .state _ _ _ _ _ =>
          behind e.readState <| behind (e.inRole? Role.behavior.tag) <|
            metRole r tag .behavior .behavior children ++
              (behind (r.readRole tag .behavior .behavior children) <|
                behind (e.inRole? Role.exitBehavior.tag) <|
                  metRole r tag .exitBehavior .behavior children ++
                    behind (r.readRole tag .exitBehavior .behavior children)
                      (metEntries r (.entry tag .stateTransition) children))
        | .transition _ _ _ _ =>
          behind e.readTransition <| behind (e.inRole? Role.condition.tag) <|
            metRole r tag .condition .condition children
        | _ => [])

def metEntries (r : Registry) (place : Place) : List Element → List String
  | [] => []
  | c :: rest =>
    if c.isRole then metEntries r place rest
    else
      met r (some place) c ++ behind (r.readElement (some place) c) (metEntries r place rest)

def metRole (r : Registry) (owner : String) (role : Role) (expected : Category) :
    List Element → List String
  | [] => []
  | ⟨tag, _, [child]⟩ :: rest =>
    if tag = role.tag then met r (some ⟨owner, role.tag, expected⟩) child
    else metRole r owner role expected rest
  | _ :: rest => metRole r owner role expected rest

def metStates (r : Registry) (owner : String) (seen : List String) : List Element → List String
  | [] => []
  | c :: rest =>
    if c.isRole then metStates r owner seen rest
    else
      met r (some ⟨owner, "State", .state⟩) c ++
        match r.readElement (some ⟨owner, "State", .state⟩) c with
        | .error _ => []
        | .ok none => metStates r owner seen rest
        | .ok (some _) =>
          match c.requiredName "Id" with
          | .error _ => []
          | .ok id => if seen.contains id then [] else metStates r owner (id :: seen) rest

end

/-! ## Registries that agree -/

/-- The second registry knows of some tags what the first one knows. -/
def AgreeOn (r r' : Registry) (tags : List String) : Prop :=
  ∀ tag ∈ tags, r'.find? tag = r.find? tag

variable {r r' : Registry} {tags tags' : List String}

namespace AgreeOn

theorem left (agree : r.AgreeOn r' (tags ++ tags')) : r.AgreeOn r' tags :=
  fun tag member => agree tag (List.mem_append_left _ member)

theorem right (agree : r.AgreeOn r' (tags ++ tags')) : r.AgreeOn r' tags' :=
  fun tag member => agree tag (List.mem_append_right _ member)

theorem further {α : Type} {step : Except ScriptError α} {a : α}
    (agree : r.AgreeOn r' (behind step tags)) (done : step = .ok a) : r.AgreeOn r' tags := by
  rwa [done] at agree

end AgreeOn

/-- Computations that begin alike and go on alike. -/
theorem bind_congr_ok {ε α γ : Type} {x : Except ε α} {f g : α → Except ε γ}
    (same : ∀ a, x = .ok a → f a = g a) : (x >>= f) = (x >>= g) := by
  cases x with
  | error e => rfl
  | ok a => exact same a rfl

theorem discard_congr_ok {ε α γ : Type} {x : Except ε α} {f g : Unit → Except ε γ}
    (same : ∀ a, x = .ok a → f () = g ()) : (discard x >>= f) = (discard x >>= g) := by
  cases x with
  | error e => rfl
  | ok a => exact same a rfl

/-- An element that both registries read alike, in any place, if they agree on what is met. -/
def ReadAlike (r r' : Registry) (e : Element) : Prop :=
  ∀ place, r.AgreeOn r' (r.met place e) → r'.readElement place e = r.readElement place e

section Children

variable {es : List Element} (below : ∀ c ∈ es, r.ReadAlike r' c)

include below

theorem readEntries_congr {place : Place} (agree : r.AgreeOn r' (r.metEntries place es)) :
    r'.readEntries place es = r.readEntries place es := by
  induction es with
  | nil =>
    unfold readEntries
    rfl
  | cons c rest ih =>
    obtain ⟨head, tail⟩ := List.forall_mem_cons.mp below
    by_cases wrapper : c.isRole = true
    · rw [metEntries, if_pos wrapper] at agree
      rw [readEntries, readEntries, if_pos wrapper, if_pos wrapper]
      exact ih tail agree
    · rw [metEntries, if_neg wrapper] at agree
      rw [readEntries, readEntries, if_neg wrapper, if_neg wrapper, head _ agree.left]
      refine bind_congr_ok fun c? read => ?_
      rw [ih tail (agree.right.further read)]

theorem readStates_congr {owner : String} {seen : List String}
    (agree : r.AgreeOn r' (r.metStates owner seen es)) :
    r'.readStates owner seen es = r.readStates owner seen es := by
  induction es generalizing seen with
  | nil =>
    unfold readStates
    rfl
  | cons c rest ih =>
    obtain ⟨head, tail⟩ := List.forall_mem_cons.mp below
    by_cases wrapper : c.isRole = true
    · rw [metStates, if_pos wrapper] at agree
      rw [readStates, readStates, if_pos wrapper, if_pos wrapper]
      exact ih tail agree
    · rw [metStates, if_neg wrapper] at agree
      rw [readStates, readStates, if_neg wrapper, if_neg wrapper, head _ agree.left]
      refine bind_congr_ok fun c? read => ?_
      have later := agree.right
      rw [read] at later
      cases c? with
      | none => exact ih tail later
      | some config =>
        refine bind_congr_ok fun id named => ?_
        rw [named] at later
        by_cases again : seen.contains id = true
        · simp only [again]
          rfl
        · dsimp only at later
          rw [if_neg again] at later
          rw [ih tail later]

end Children

section Roles

variable {e : Element} {es : List Element} {owner : String} {role : Role} {expected : Category}

/-- Only a wrapper of a single element is looked into. -/
theorem readRole_cons_of_wide (wide : ¬ ∃ child, e.children = [child]) :
    r.readRole owner role expected (e :: es) = r.readRole owner role expected es := by
  rw [readRole]
  rintro tag attrs child rfl
  exact wide ⟨child, rfl⟩

theorem metRole_cons_of_wide (wide : ¬ ∃ child, e.children = [child]) :
    r.metRole owner role expected (e :: es) = r.metRole owner role expected es := by
  rw [metRole]
  rintro tag attrs child rfl
  exact wide ⟨child, rfl⟩

theorem readRole_congr
    (below : ∀ wrapper ∈ es, ∀ child, wrapper.children = [child] → r.ReadAlike r' child)
    (agree : r.AgreeOn r' (r.metRole owner role expected es)) :
    r'.readRole owner role expected es = r.readRole owner role expected es := by
  induction es with
  | nil =>
    unfold readRole
    rfl
  | cons e rest ih =>
    obtain ⟨head, tail⟩ := List.forall_mem_cons.mp below
    by_cases single : ∃ child, e.children = [child]
    · obtain ⟨tag, attrs, children⟩ := e
      obtain ⟨child, rfl⟩ := single
      by_cases wrapper : tag = role.tag
      · rw [metRole, if_pos wrapper] at agree
        rw [readRole, readRole, if_pos wrapper, if_pos wrapper]
        exact head child rfl _ agree
      · rw [metRole, if_neg wrapper] at agree
        rw [readRole, readRole, if_neg wrapper, if_neg wrapper]
        exact ih tail agree
    · rw [metRole_cons_of_wide single] at agree
      rw [readRole_cons_of_wide single, readRole_cons_of_wide single]
      exact ih tail agree

end Roles

/-! ## Elements -/

theorem category_congr {tag : String} (same : r'.find? tag = r.find? tag) :
    r'.category tag = r.category tag := by
  rw [category, category, same]

theorem readElement_some (r : Registry) (p : Place) (e : Element) :
    r.readElement (some p) e = (do p.check r e.tag; r.readElement none e) := by
  obtain ⟨tag, attrs, children⟩ := e
  unfold readElement
  rfl

theorem met_some (r : Registry) (p : Place) (e : Element) :
    r.met (some p) e = e.tag :: behind (p.check r e.tag) (r.met none e).tail := by
  obtain ⟨tag, attrs, children⟩ := e
  unfold met
  rfl

theorem met_none (r : Registry) (e : Element) :
    r.met none e = e.tag :: (r.met none e).tail := by
  obtain ⟨tag, attrs, children⟩ := e
  unfold met
  rfl

section Alone

variable {e : Element} (below : ∀ c ∈ e.children, r.ReadAlike r' c)
  (within : ∀ wrapper ∈ e.children, ∀ child, wrapper.children = [child] → r.ReadAlike r' child)
  (agree : r.AgreeOn r' (r.met none e))

include below within agree

/-- A body is read step by step, and every step is reached by both registries or by none. -/
theorem readBody_congr {entry : Registration} (found : r.find? e.tag = some entry) :
    r'.readBody e entry.template = r.readBody e entry.template := by
  obtain ⟨tag, attrs, children⟩ := e
  unfold met at agree
  replace agree : r.AgreeOn r' _ := fun tag member => agree tag (List.mem_cons_of_mem _ member)
  simp only [found] at agree
  have agree := agree.further (a := ()) rfl
  cases template : entry.template with
  | composite _ =>
    rw [template] at agree
    exact congrArg (Functor.map Body.composite) (readEntries_congr below agree)
  | junction _ =>
    rw [template] at agree
    exact congrArg (Functor.map Body.junction) (readEntries_congr below agree)
  | negation _ =>
    rw [template] at agree
    refine discard_congr_ok fun _ held => ?_
    rw [readRole_congr within (agree.further held)]
  | fsm _ _ =>
    rw [template] at agree
    refine bind_congr_ok fun _ named => ?_
    rw [readStates_congr below (agree.further named)]
  | state _ _ _ _ _ =>
    rw [template] at agree
    refine bind_congr_ok fun _ named => discard_congr_ok fun _ held => ?_
    have behavior := (agree.further named).further held
    rw [readRole_congr within behavior.left]
    refine bind_congr_ok fun _ read => discard_congr_ok fun _ held => ?_
    have exit := (behavior.right.further read).further held
    rw [readRole_congr within exit.left]
    refine bind_congr_ok fun _ read => ?_
    rw [readEntries_congr below (exit.right.further read)]
  | transition _ _ _ _ =>
    rw [template] at agree
    refine bind_congr_ok fun _ parts => discard_congr_ok fun _ held => ?_
    rw [readRole_congr within ((agree.further parts).further held)]
  | _ => rfl

theorem readElement_none_congr : r'.readElement none e = r.readElement none e := by
  have here : r'.find? e.tag = r.find? e.tag := by
    rw [met_none] at agree
    exact agree e.tag (List.mem_cons_self ..)
  cases found : r.find? e.tag with
  | none =>
    have unknown : r.contains e.tag = false := by simp [contains, found]
    have unknown' : r'.contains e.tag = false := by simp [contains, here, found]
    rw [readElement_of_unknown unknown, readElement_of_unknown unknown']
  | some entry =>
    rw [readElement_eq (here.trans found), readElement_eq found,
      readBody_congr below within agree found]

end Alone

/-- An element is read alike if the elements in its places are. -/
theorem readAlike_of_children {e : Element} (below : ∀ c ∈ e.children, r.ReadAlike r' c)
    (within : ∀ wrapper ∈ e.children, ∀ child, wrapper.children = [child] →
      r.ReadAlike r' child) : r.ReadAlike r' e := by
  intro place agree
  cases place with
  | none => exact readElement_none_congr below within agree
  | some p =>
    rw [met_some] at agree
    have here : r'.find? e.tag = r.find? e.tag := agree e.tag (List.mem_cons_self ..)
    rw [readElement_some, readElement_some, Place.check, category_congr here]
    refine bind_congr_ok fun _ fits => readElement_none_congr below within fun tag member => ?_
    rw [met_none] at member
    rcases List.mem_cons.mp member with rfl | later
    · exact here
    · refine agree tag (List.mem_cons_of_mem _ ?_)
      rw [show p.check r e.tag = .ok () from fits]
      exact later

/-- Reading depends on nothing but what the registry knows of the tags that are met. -/
theorem readElement_congr (e : Element) : r.ReadAlike r' e := by
  refine readAlike_of_children (fun c member => ?_) fun wrapper member child single => ?_
  · have smaller := Element.sizeOf_lt_of_mem member
    exact readElement_congr c
  · have outer := Element.sizeOf_lt_of_mem member
    have inner := Element.sizeOf_lt_of_mem (single ▸ List.mem_singleton_self child)
    exact readElement_congr child
termination_by sizeOf e

/-- What is registered is the same for ever. -/
theorem agreeOn_run (known : ∀ tag ∈ tags, r.contains tag = true) (more : List Call) :
    r.AgreeOn (r.run more) tags := by
  intro tag member
  obtain ⟨entry, found⟩ := Option.isSome_iff_exists.mp
    (Option.isSome_map.symm.trans (known tag member))
  rw [find?, find?, lookup?_run_of_some found more, found]

end Registry

/-- A registry is built by any calls. A name that none of them names is free. Any other name has
for ever the entry of the first call that names it: a call that names it again succeeds if
identity and category are those of the first one, is an error otherwise, and changes nothing.
There are as many entries as there are names. And an element is read alike, in any place, whatever
else is registered later, if reading it meets no tag that is not registered. -/
theorem first_registration_wins (calls more : List Registry.Call) :
    let r := Registry.empty.run calls
    (∀ name, match calls.find? fun c => name = c.name with
      | none => r.lookup? name = none ∧ ∀ c, c.name = name → (r.call c).1 = .ok ()
      | some first => (r.run more).lookup? name = some first.entry ∧
        ∀ c, c.name = name →
          r.call c = (if c.SameAs first then .ok () else .error ⟨name⟩, r)) ∧
    r.size = (calls.map Registry.Call.name).dedup.length ∧
    ∀ place e, (∀ tag ∈ r.met place e, r.contains tag = true) →
      (r.run more).readElement place e = r.readElement place e := by
  intro r
  refine ⟨fun name => ?_, Registry.size_run calls, fun place e known =>
    Registry.readElement_congr e place (Registry.agreeOn_run known more)⟩
  have looked : r.lookup? name = (calls.find? fun c => name = c.name).map Registry.Call.entry :=
    Registry.lookup?_run .empty calls name
  split
  · rename_i absent
    rw [absent] at looked
    refine ⟨looked, ?_⟩
    rintro c rfl
    rw [Registry.call_eq, Registry.registerAs_of_new looked]
  · rename_i first found
    rw [found] at looked
    refine ⟨Registry.lookup?_run_of_some looked more, ?_⟩
    rintro c rfl
    rw [Registry.call_eq, Registry.registerAs_of_taken looked]
    rfl

def stageCalls : List Registry.Call :=
  [.type (.behavior .sequence), .type (.behavior .publishEvent)]

def rival : Registry.Call :=
  .explicit "SequenceBhv" (.foreign 0)
    ⟨.condition, .condition .const, .probe (.const (.literal true))⟩

def fanfare : Element :=
  ⟨"SequenceBhv", [], [⟨"PublishEventBhv", [("Event", "fanfare")], []⟩]⟩

theorem first_registration_wins_of_rival :
    let r := Registry.empty.run stageCalls
    r.call rival = (.error ⟨"SequenceBhv"⟩, r) ∧ r.size = 2 ∧
      (∀ tag ∈ r.met none fanfare, r.contains tag = true) ∧
      (r.run [rival]).readElement none fanfare = r.readElement none fanfare := by
  obtain ⟨entries, size, reading⟩ := first_registration_wins stageCalls [rival]
  have known : ∀ tag ∈ (Registry.empty.run stageCalls).met none fanfare,
      (Registry.empty.run stageCalls).contains tag = true := by decide +kernel
  obtain ⟨-, refused⟩ := entries "SequenceBhv"
  exact ⟨refused rival rfl, size, known, reading none fanfare known⟩

end SkillScript
