import SkillScript.Node.Sensor
import SkillScript.Proofs.Registering.Calls
import SkillScript.Script.Reader
/-!
# Sound configurations

A configuration is sound if its type is registered and takes bodies of the shape
that it has, if every child is sound and of a category that fits its place, and if
no required child is missing. What is read from markup with the registry of a host
is sound: the templates of a registry decide what is read, and each has the shape
that its type takes.
-/
set_option autoImplicit false
namespace SkillScript

/-- Whether nodes of this type are initialized from bodies of the given shape. -/
def NodeType.Takes (t : NodeType) : Body → Prop
  | .wait _ => t = .behavior .finiteTime
  | .healthOverTime _ => t = .behavior .healthOverTime
  | .deed d => t = .behavior d.type
  | .probe p => t = .condition p.type
  | .composite _ => t = .behavior .sequence ∨ t = .behavior .parallel
  | .negation _ => t = .condition .not
  | .junction _ => t = .condition .all ∨ t = .condition .any
  | .fsm _ _ => t = .behavior .fsm
  | .state _ _ _ _ _ => t = .state
  | .transition _ _ _ _ => t = .transition
  | .waitCheck _ _ => t = .behavior .waitCheck
  | .delegate _ _ => t = .behavior .delegate

mutual

def Config.Sound (r : Registry) : Config → Prop
  | ⟨typeName, category, body⟩ =>
    (∃ entry, r.find? typeName = some entry ∧ category = entry.implementation.category ∧
      entry.implementation.Takes body) ∧ Body.Sound r body

def Body.Sound (r : Registry) : Body → Prop
  | .composite children => listSound r .behavior children
  | .negation condition => condition.isSome = true ∧ optionSound r .condition condition
  | .junction conditions => listSound r .condition conditions
  | .fsm initial states => initial ∈ states.map Prod.fst ∧ statesSound r states
  | .state _ _ behavior exit transitions =>
    optionSound r .behavior behavior ∧ optionSound r .behavior exit ∧
      listSound r .stateTransition transitions
  | .transition condition _ _ _ => condition.isSome = true ∧ optionSound r .condition condition
  | _ => True

def listSound (r : Registry) (expected : Category) : List Config → Prop
  | [] => True
  | c :: rest =>
    (c.category.satisfies expected = true ∧ Config.Sound r c) ∧ listSound r expected rest

def optionSound (r : Registry) (expected : Category) : Option Config → Prop
  | none => True
  | some c => c.category.satisfies expected = true ∧ Config.Sound r c

def statesSound (r : Registry) : List (String × Config) → Prop
  | [] => True
  | (_, c) :: rest => (c.category.satisfies .state = true ∧ Config.Sound r c) ∧ statesSound r rest

end

/-! ## Registries -/

/-- Every name is registered under the category of its type, with a template that the type
takes. -/
def Registry.Fit (r : Registry) : Prop :=
  ∀ name entry, r.find? name = some entry →
    entry.category = entry.implementation.category ∧ entry.implementation.Takes entry.template

/-- The registries that a host can build: some of the built-in types, waits and behaviors of its
own, registered in any order. -/
inductive Registry.Hosted : Registry → Prop where
  | empty : Hosted .empty
  | type {r : Registry} (hosted : Hosted r) (t : NodeType) (builtin : t ∈ NodeType.builtins) :
    Hosted (r.registerType t).2
  | waitCheck {r : Registry} (hosted : Hosted r) (name : String) (predicate : WaitPredicate) :
    Hosted (r.registerWaitCheck name predicate).2
  | delegate {r : Registry} (hosted : Hosted r) (name : String) (hooks : Hooks) :
    Hosted (r.registerDelegate name hooks).2

/-- Every type takes the body that its configurations start from. -/
theorem NodeType.takes_emptyBody (t : NodeType) : t.Takes t.emptyBody := by
  cases t with
  | behavior b => cases b <;> simp [emptyBody, Takes, Deed.type]
  | condition c => cases c <;> simp [emptyBody, Takes, Probe.type]
  | state => rfl
  | transition => rfl

namespace Registry

theorem Fit.register {r : Registry} (fit : r.Fit) (name : String) {entry : Registration}
    (category : entry.category = entry.implementation.category)
    (takes : entry.implementation.Takes entry.template) : (r.register name entry).2.Fit := by
  intro other found same
  rcases eq_of_find?_registerAs same with old | ⟨-, rfl⟩
  · exact fit other found old
  · exact ⟨category, takes⟩

theorem Hosted.fit {r : Registry} (hosted : r.Hosted) : r.Fit := by
  induction hosted with
  | empty =>
    intro name entry found
    cases found
  | type _ t _ ih => exact ih.register t.name rfl t.takes_emptyBody
  | waitCheck _ name predicate ih => exact ih.register name rfl rfl
  | delegate _ name hooks ih => exact ih.register name rfl rfl

end Registry

/-! ## Reading -/

theorem NodeType.category_ne_unknown (t : NodeType) : t.category ≠ .unknown := by
  cases t with
  | behavior b => cases b <;> nofun
  | condition c => cases c <;> nofun
  | state => nofun
  | transition => nofun

/-- A computation succeeds if both of its parts do. -/
theorem bind_ok {ε α γ : Type} {x : Except ε α} {f : α → Except ε γ} {c : γ}
    (done : (x >>= f) = .ok c) : ∃ a, x = .ok a ∧ f a = .ok c := by
  cases x with
  | error e => cases done
  | ok a => exact ⟨a, rfl, done⟩

theorem map_ok {ε α γ : Type} {x : Except ε α} {f : α → γ} {c : γ}
    (done : (f <$> x) = .ok c) : ∃ a, x = .ok a ∧ f a = c := by
  cases x with
  | error e => cases done
  | ok a => exact ⟨a, rfl, Except.ok.inj done⟩

theorem Element.type_readDeed {e : Element} {d d' : Deed} (read : e.readDeed d = .ok d') :
    d'.type = d.type := by
  cases d with
  | setVar name value =>
    have setVar : ∃ name value, d' = .setVar name value := by
      unfold readDeed readSetVar at read
      obtain ⟨name, -, read⟩ := bind_ok read
      dsimp only at read
      split at read
      · cases read
      · obtain ⟨kind, -, read⟩ := bind_ok read
        obtain ⟨text, -, read⟩ := bind_ok read
        split at read
        · cases read
          exact ⟨_, _, rfl⟩
        · cases read
    obtain ⟨_, _, rfl⟩ := setVar
    rfl
  | modifyHealth target amount =>
    obtain ⟨_, -, read⟩ := bind_ok read
    obtain ⟨_, -, read⟩ := bind_ok read
    cases read
    rfl
  | publishEvent event names =>
    obtain ⟨_, -, read⟩ := bind_ok read
    cases read
    rfl
  | spawnOwned kind storeAs =>
    obtain ⟨_, -, read⟩ := bind_ok read
    cases read
    rfl

theorem Element.type_readProbe {e : Element} {p p' : Probe} (read : e.readProbe p = .ok p') :
    p'.type = p.type := by
  cases p with
  | const value =>
    obtain ⟨_, -, read⟩ := bind_ok read
    cases read
    rfl
  | compareVar name op value =>
    obtain ⟨_, -, read⟩ := bind_ok read
    obtain ⟨_, -, read⟩ := bind_ok read
    obtain ⟨_, -, read⟩ := bind_ok read
    cases read
    rfl
  | healthBelow target threshold =>
    obtain ⟨_, -, read⟩ := bind_ok read
    obtain ⟨_, -, read⟩ := bind_ok read
    cases read
    rfl
  | elapsed seconds =>
    obtain ⟨_, -, read⟩ := bind_ok read
    cases read
    rfl
  | event name ownerOnly =>
    obtain ⟨_, -, read⟩ := bind_ok read
    obtain ⟨_, -, read⟩ := bind_ok read
    cases read
    rfl
  | trigger tag =>
    obtain ⟨_, -, read⟩ := bind_ok read
    cases read
    rfl

namespace Registry

variable {r : Registry}

/-- A place is checked first; then the element is read like any other. -/
theorem readElement_place {p : Place} {e : Element} {c? : Option Config}
    (read : r.readElement (some p) e = .ok c?) :
    p.check r e.tag = .ok () ∧ r.readElement none e = .ok c? := by
  obtain ⟨tag, attrs, children⟩ := e
  unfold readElement at read
  obtain ⟨_, checked, read⟩ := bind_ok read
  refine ⟨checked, ?_⟩
  unfold readElement
  exact read

/-- What is sound and passes the check of a place fits the place. -/
theorem fits_of_check {p : Place} {c : Config} {tag : String} (fit : r.Fit)
    (sound : c.Sound r) (name : c.typeName = tag) (checked : p.check r tag = .ok ()) :
    c.category.satisfies p.expected = true := by
  obtain ⟨typeName, category, body⟩ := c
  obtain ⟨⟨entry, found, same, takes⟩, -⟩ := sound
  subst name
  have registered : r.category typeName = category := by
    rw [Registry.category, found, same]
    exact (fit typeName entry found).1
  have known : category ≠ .unknown := by
    rw [same]
    exact entry.implementation.category_ne_unknown
  simp only [Place.check, registered] at checked
  split at checked
  · rename_i fits
    simpa [known] using fits
  · cases checked

theorem sound_of_body {tag : String} {entry : Registration} {body : Body} (fit : r.Fit)
    (found : r.find? tag = some entry) (takes : entry.implementation.Takes body)
    (sound : Body.Sound r body) : Config.Sound r ⟨tag, entry.category, body⟩ :=
  ⟨⟨entry, found, (fit tag entry found).1, takes⟩, sound⟩

/-! What is read is sound and named after the tag. -/

mutual

theorem readElement_sound (fit : r.Fit) : ∀ (e : Element) (c : Config),
    r.readElement none e = .ok (some c) → c.Sound r ∧ c.typeName = e.tag
  | ⟨tag, attrs, children⟩, c, read => by
    unfold readElement at read
    dsimp only at read
    cases found : r.find? tag with
    | none =>
      rw [found] at read
      cases read
    | some entry =>
      have takes := (fit tag entry found).2
      rw [found] at read
      dsimp only at read
      cases template : entry.template <;> rw [template] at read takes
      case some.wait =>
        obtain ⟨body, parsed, made⟩ := bind_ok read
        obtain ⟨_, -, parsed⟩ := bind_ok parsed
        cases parsed
        cases made
        exact ⟨sound_of_body fit found takes trivial, rfl⟩
      case some.healthOverTime =>
        obtain ⟨body, parsed, made⟩ := bind_ok read
        obtain ⟨_, -, parsed⟩ := bind_ok parsed
        obtain ⟨_, -, parsed⟩ := bind_ok parsed
        obtain ⟨_, -, parsed⟩ := bind_ok parsed
        cases parsed
        cases made
        exact ⟨sound_of_body fit found takes trivial, rfl⟩
      case some.deed =>
        obtain ⟨body, parsed, made⟩ := bind_ok read
        obtain ⟨d, done, rfl⟩ := map_ok parsed
        cases made
        rw [NodeType.Takes, ← Element.type_readDeed done] at takes
        exact ⟨sound_of_body fit found takes trivial, rfl⟩
      case some.probe =>
        obtain ⟨body, parsed, made⟩ := bind_ok read
        obtain ⟨p, done, rfl⟩ := map_ok parsed
        cases made
        rw [NodeType.Takes, ← Element.type_readProbe done] at takes
        exact ⟨sound_of_body fit found takes trivial, rfl⟩
      case some.composite =>
        obtain ⟨body, parsed, made⟩ := bind_ok read
        obtain ⟨cs, done, rfl⟩ := map_ok parsed
        cases made
        exact ⟨sound_of_body fit found takes (readEntries_sound fit _ children cs done), rfl⟩
      case some.junction =>
        obtain ⟨body, parsed, made⟩ := bind_ok read
        obtain ⟨cs, done, rfl⟩ := map_ok parsed
        cases made
        exact ⟨sound_of_body fit found takes (readEntries_sound fit _ children cs done), rfl⟩
      case some.negation =>
        obtain ⟨_, -, read⟩ := bind_ok read
        obtain ⟨c?, child, read⟩ := bind_ok read
        have sound := readRole_sound fit tag _ _ children c? child
        cases c? with
        | none => cases read
        | some condition =>
          cases read
          exact ⟨sound_of_body fit found takes ⟨rfl, sound⟩, rfl⟩
      case some.fsm =>
        obtain ⟨initial, -, read⟩ := bind_ok read
        obtain ⟨states, entries, read⟩ := bind_ok read
        have sound := readStates_sound fit tag [] children states entries
        split at read
        · rename_i declared
          cases read
          exact ⟨sound_of_body fit found takes ⟨by simpa using declared, sound⟩, rfl⟩
        · cases read
      case some.state =>
        obtain ⟨parts, -, read⟩ := bind_ok read
        obtain ⟨_, -, read⟩ := bind_ok read
        obtain ⟨behavior, first, read⟩ := bind_ok read
        obtain ⟨_, -, read⟩ := bind_ok read
        obtain ⟨exit, second, read⟩ := bind_ok read
        obtain ⟨transitions, entries, read⟩ := bind_ok read
        cases read
        exact ⟨sound_of_body fit found takes
          ⟨readRole_sound fit tag _ _ children behavior first,
            readRole_sound fit tag _ _ children exit second,
            readEntries_sound fit _ children transitions entries⟩, rfl⟩
      case some.transition =>
        obtain ⟨parts, -, read⟩ := bind_ok read
        obtain ⟨_, -, read⟩ := bind_ok read
        obtain ⟨c?, child, read⟩ := bind_ok read
        have sound := readRole_sound fit tag _ _ children c? child
        cases c? with
        | none => cases read
        | some condition =>
          cases read
          exact ⟨sound_of_body fit found takes ⟨rfl, sound⟩, rfl⟩
      case some.waitCheck =>
        cases read
        exact ⟨sound_of_body fit found takes trivial, rfl⟩
      case some.delegate =>
        cases read
        exact ⟨sound_of_body fit found takes trivial, rfl⟩

theorem readEntries_sound (fit : r.Fit) (place : Place) : ∀ (es : List Element)
    (cs : List Config), r.readEntries place es = .ok cs → listSound r place.expected cs
  | [], cs, read => by
    cases read
    trivial
  | e :: rest, cs, read => by
    unfold readEntries at read
    split at read
    · exact readEntries_sound fit place rest cs read
    · obtain ⟨c?, found, read⟩ := bind_ok read
      cases c? with
      | none => exact readEntries_sound fit place rest cs read
      | some c =>
        obtain ⟨later, others, read⟩ := bind_ok read
        cases read
        obtain ⟨checked, found⟩ := readElement_place found
        obtain ⟨sound, name⟩ := readElement_sound fit e c found
        exact ⟨⟨fits_of_check fit sound name checked, sound⟩,
          readEntries_sound fit place rest later others⟩

theorem readRole_sound (fit : r.Fit) (owner : String) (role : Role) (expected : Category) :
    ∀ (es : List Element) (c? : Option Config),
      r.readRole owner role expected es = .ok c? → optionSound r expected c?
  | [], c?, read => by
    cases read
    trivial
  | ⟨tag, _, [child]⟩ :: rest, c?, read => by
    unfold readRole at read
    split at read
    · cases c? with
      | none => trivial
      | some c =>
        obtain ⟨checked, found⟩ := readElement_place read
        obtain ⟨sound, name⟩ := readElement_sound fit child c found
        exact ⟨fits_of_check fit sound name checked, sound⟩
    · exact readRole_sound fit owner role expected rest c? read
  | ⟨_, _, []⟩ :: rest, c?, read => by
    unfold readRole at read
    exact readRole_sound fit owner role expected rest c? read
  | ⟨_, _, _ :: _ :: _⟩ :: rest, c?, read => by
    unfold readRole at read
    exact readRole_sound fit owner role expected rest c? read

theorem readStates_sound (fit : r.Fit) (owner : String) (seen : List String) :
    ∀ (es : List Element) (states : List (String × Config)),
      r.readStates owner seen es = .ok states → statesSound r states
  | [], states, read => by
    cases read
    trivial
  | e :: rest, states, read => by
    unfold readStates at read
    split at read
    · exact readStates_sound fit owner seen rest states read
    · obtain ⟨c?, found, read⟩ := bind_ok read
      cases c? with
      | none => exact readStates_sound fit owner seen rest states read
      | some c =>
        obtain ⟨id, -, read⟩ := bind_ok read
        dsimp only at read
        split at read
        · cases read
        · obtain ⟨later, others, read⟩ := bind_ok read
          cases read
          obtain ⟨checked, found⟩ := readElement_place found
          obtain ⟨sound, name⟩ := readElement_sound fit e c found
          exact ⟨⟨fits_of_check fit sound name checked, sound⟩,
            readStates_sound fit owner (id :: seen) rest later others⟩

end

end Registry

end SkillScript
