import SkillScript.Proofs.Markup.WellFormed
/-!
# Attributes that can be read

Each of the readers of attributes succeeds on just the elements that a type asks for.
Which of several errors a reader gives plays no part, so a chain of readings succeeds
if every one of them does, in whatever order they are made.
-/
set_option autoImplicit false
namespace SkillScript

section Success

variable {ε α γ : Type} {x : Except ε α} {f : α → Except ε γ} {Q : Prop}

def Succeeds (x : Except ε α) : Prop :=
  ∃ a, x = .ok a

@[simp] theorem succeeds_ok (a : α) : Succeeds (.ok a : Except ε α) :=
  ⟨a, rfl⟩

@[simp] theorem succeeds_pure (a : α) : Succeeds (pure a : Except ε α) :=
  ⟨a, rfl⟩

@[simp] theorem not_succeeds_error (error : ε) : ¬Succeeds (.error error : Except ε α) :=
  nofun

@[simp] theorem not_succeeds_throw (error : ε) : ¬Succeeds (throw error : Except ε α) :=
  nofun

theorem bind_eq_ok {c : γ} : (x >>= f) = .ok c ↔ ∃ a, x = .ok a ∧ f a = .ok c := by
  refine ⟨bind_ok, ?_⟩
  rintro ⟨a, rfl, done⟩
  exact done

@[simp] theorem succeeds_bind : Succeeds (x >>= f) ↔ ∃ a, x = .ok a ∧ Succeeds (f a) := by
  constructor
  · rintro ⟨c, done⟩
    obtain ⟨a, first, second⟩ := bind_ok done
    exact ⟨a, first, c, second⟩
  · rintro ⟨a, rfl, second⟩
    exact second

@[simp] theorem exists_eq_ok : (∃ a, x = .ok a) ↔ Succeeds x :=
  Iff.rfl

/-- Two readings, the second of which succeeds or fails whatever the first has read. -/
theorem succeeds_bind_and (second : ∀ a, Succeeds (f a) ↔ Q) :
    Succeeds (x >>= f) ↔ Succeeds x ∧ Q := by
  simp only [succeeds_bind, second, exists_and_right, exists_eq_ok]

@[simp] theorem succeeds_map (g : α → γ) : Succeeds (g <$> x) ↔ Succeeds x := by
  cases x <;> simp [Functor.map, Except.map]

@[simp] theorem succeeds_discard : Succeeds (discard x) ↔ Succeeds x := by
  cases x <;> simp [Functor.discard, Functor.mapConst, Except.map]

/-- A test that refuses in between. -/
@[simp] theorem succeeds_unless {c : Prop} [Decidable c] {error : ε} {rest : Except ε α} :
    Succeeds (if c then (do throw error; rest) else rest) ↔ ¬c ∧ Succeeds rest := by
  split
  · rename_i refused
    exact iff_of_false nofun fun passed => passed.1 refused
  · rename_i passed
    exact (and_iff_right passed).symm

end Success

/-! ## Texts -/

namespace Markup

/-- The mark of a reference alone is no literal: only strings are taken as they stand. -/
theorem not_isLiteral_of_mark {kind : Kind} {text : String} (other : kind ≠ .str)
    (mark : Text.trimChars text.toList = ['B', 'B', '#']) : ¬IsLiteral kind text := by
  cases kind <;> simp only [IsLiteral, Kind.read?, readBool?, readEntity?, Text.trim, mark]
  case str => exact absurd rfl other
  all_goals decide

theorem reference?_eq_some {text : String} {name : List Char} :
    Param.reference? text = some name ↔ Text.trim text = "BB#" ++ String.ofList name := by
  have marked : ("BB#" ++ String.ofList name).toList = 'B' :: 'B' :: '#' :: name := by
    simp
  rw [← String.toList_inj, marked, Text.trim, String.toList_ofList, Param.reference?]
  split
  · rename_i other shape
    rw [shape]
    simp
  · rename_i none
    exact ⟨nofun, fun shape => absurd shape (none name)⟩

theorem isReference_iff {text : String} :
    IsReference text ↔ ∃ name, name ≠ [] ∧ Param.reference? text = some name := by
  constructor
  · rintro ⟨id, filled, shape⟩
    refine ⟨id.toList, fun empty => filled (String.toList_eq_nil_iff.mp empty), ?_⟩
    rw [reference?_eq_some, String.ofList_toList]
    exact shape
  · rintro ⟨name, filled, shape⟩
    refine ⟨String.ofList name, fun empty => filled ?_, reference?_eq_some.mp shape⟩
    simpa using congrArg String.toList empty

end Markup

theorem Kind.kind_read? {kind : Kind} {text : String} {value : Value}
    (read : kind.read? text = some value) : value.kind = kind := by
  cases kind <;> simp only [read?, Option.map_eq_some_iff, Option.some.injEq] at read
  case str =>
    subst read
    rfl
  all_goals
    obtain ⟨_, -, rfl⟩ := read
    rfl

/-- The types whose literals are not the text itself, and have all values of their kind. -/
class Scalar.Plain (α : Type) [Scalar α] : Prop where
  kind_ne : Scalar.kind α ≠ .str
  isSome_ofValue? : ∀ value : Value, value.kind = Scalar.kind α →
    (Scalar.ofValue? value : Option α).isSome = true

namespace Scalar

instance : Plain Bool where
  kind_ne := nofun
  isSome_ofValue? value same := by
    cases value <;> first | rfl | cases same

instance : Plain Int32 where
  kind_ne := nofun
  isSome_ofValue? value same := by
    cases value <;> first | rfl | cases same

instance : Plain Float32 where
  kind_ne := nofun
  isSome_ofValue? value same := by
    cases value <;> first | rfl | cases same

instance : Plain EntityId where
  kind_ne := nofun
  isSome_ofValue? value same := by
    cases value <;> first | rfl | cases same

variable {α : Type} [Scalar α] [Plain α]

theorem isSome_read? {text : String} :
    (read? α text).isSome = true ↔ Markup.IsLiteral (kind α) text := by
  unfold read? Markup.IsLiteral
  cases read : (kind α).read? text with
  | none => simp
  | some value => simp [Plain.isSome_ofValue? value (Kind.kind_read? read)]

theorem read?_mark {text : String} (mark : Text.trimChars text.toList = ['B', 'B', '#']) :
    read? α text = none := by
  have other := Markup.not_isLiteral_of_mark (Plain.kind_ne : kind α ≠ .str) mark
  rwa [← isSome_read?, Option.not_isSome_iff_eq_none] at other

theorem read?_float {text : String} {x : Float32} :
    read? Float32 text = some x ↔ Kind.float.read? text = some (.float x) := by
  simp only [read?, kind, Kind.read?, Option.bind_map, Option.map_eq_some_iff,
    Option.bind_eq_some_iff, Function.comp_apply, ofValue?, Option.some.injEq, Value.float.injEq]

end Scalar

namespace Param

variable {α : Type} [Scalar α] [Scalar.Plain α]

/-- A parameter is a reference with a name, or a literal of its kind. -/
theorem exists_read? (text : String) (default : α) (accepted : α → Prop) :
    (∃ p, read? text default = some p ∧ (p.isBound = true ∨ accepted p.default)) ↔
      Markup.IsReference text ∨ ∃ a, Scalar.read? α text = some a ∧ accepted a := by
  rw [Markup.isReference_iff, read?]
  split
  · rename_i mark
    have shape : Text.trimChars text.toList = ['B', 'B', '#'] := by
      unfold reference? at mark
      split at mark <;> simp_all
    simp [mark, Scalar.read?_mark shape]
  · rename_i name filled mark
    exact iff_of_true ⟨_, rfl, .inl rfl⟩ (.inl ⟨name, filled, mark⟩)
  · rename_i unmarked
    simp only [unmarked, reduceCtorEq, and_false, exists_false, false_or, Option.map_eq_some_iff]
    constructor
    · rintro ⟨_, ⟨a, read, rfl⟩, passes⟩
      exact ⟨a, read, passes.resolve_left nofun⟩
    · rintro ⟨a, read, passes⟩
      exact ⟨_, ⟨a, read, rfl⟩, .inr passes⟩

theorem isSome_read? (text : String) (default : α) :
    (read? text default).isSome = true ↔ Markup.IsParam (Scalar.kind α) text := by
  have reads := exists_read? text default fun _ => True
  simp only [or_true, and_true] at reads
  rw [Option.isSome_iff_exists, reads, ← Option.isSome_iff_exists, Scalar.isSome_read?,
    Markup.IsParam]

end Param

/-! ## Single attributes -/

namespace Element

variable {e : Element} {name : String}

theorem exists_has {α : Type} {accepted : α → String → Prop} :
    (∃ a, e.Has name (accepted a)) ↔ e.Has name fun text => ∃ a, accepted a text := by
  constructor
  · rintro ⟨a, text, found, accepts⟩
    exact ⟨text, found, a, accepts⟩
  · rintro ⟨text, found, a, accepts⟩
    exact ⟨a, text, found, accepts⟩

theorem required_eq_ok {text : String} :
    e.required name = .ok text ↔ e.attr? name = some text := by
  unfold required
  split <;> simp_all

@[simp] theorem succeeds_required : Succeeds (e.required name) ↔ e.Names name := by
  simp [Succeeds, Names, Has, required_eq_ok]

theorem requiredName_eq_ok {word : String} :
    e.requiredName name = .ok word ↔ e.Has name fun text => Text.trim text = word := by
  unfold requiredName required Has
  split <;> simp_all [Except.map]

@[simp] theorem succeeds_requiredName : Succeeds (e.requiredName name) ↔ e.Names name := by
  simp only [Succeeds, requiredName_eq_ok, exists_has, exists_eq', Names]

section Words

variable {α : Type} {expected : String} {read : String → Option α}

@[simp] theorem succeeds_word? : Succeeds (e.word? name expected read) ↔
    e.Allows name fun text => (read (Text.trim text)).isSome = true := by
  unfold word? Allows
  split
  · simp_all
  · split <;> simp_all

theorem requiredWord_eq_ok {a : α} : e.requiredWord name expected read = .ok a ↔
    e.Has name fun text => read (Text.trim text) = some a := by
  unfold requiredWord word? Has
  cases e.attr? name with
  | none => exact ⟨nofun, nofun⟩
  | some text =>
    simp only [Option.some.injEq, exists_eq_left']
    cases read (Text.trim text) with
    | none => exact ⟨nofun, nofun⟩
    | some b => exact ⟨fun | rfl => rfl, fun | rfl => rfl⟩

@[simp] theorem succeeds_requiredWord : Succeeds (e.requiredWord name expected read) ↔
    e.Has name fun text => (read (Text.trim text)).isSome = true := by
  simp only [Succeeds, requiredWord_eq_ok, exists_has, Option.isSome_iff_exists]

end Words

section Parameters

variable {α : Type} [Scalar α] [Scalar.Plain α]

@[simp] theorem succeeds_readParam {text : String} {default : α} :
    Succeeds (e.readParam name text default) ↔ Markup.IsParam (Scalar.kind α) text := by
  rw [← Param.isSome_read? text default, readParam]
  split <;> simp_all

@[simp] theorem succeeds_requiredParam :
    Succeeds (e.requiredParam name : Except ScriptError (Param α)) ↔
      e.Has name (Markup.IsParam (Scalar.kind α)) := by
  simp [requiredParam, succeeds_bind, required_eq_ok, succeeds_readParam, Has]

/-- A parameter that need not be there; a literal has to pass a test. -/
theorem exists_param (name : String) (default : α) (accepted : α → Prop)
    (passes : accepted default) :
    (∃ p, e.param name default = .ok p ∧ (p.isBound = true ∨ accepted p.default)) ↔
      e.Allows name fun text =>
        Markup.IsReference text ∨ ∃ a, Scalar.read? α text = some a ∧ accepted a := by
  unfold param Allows
  cases e.attr? name with
  | none => simpa [Param.literal] using Or.inr passes
  | some text =>
    simp only [Option.some.injEq, forall_eq', ← Param.exists_read? text default, readParam]
    split <;> simp_all

end Parameters

@[simp] theorem succeeds_target : Succeeds (e.target name) ↔ e.Allows name Markup.IsTarget := by
  unfold target Allows Markup.IsTarget
  cases e.attr? name with
  | none => simp
  | some text =>
    simp only [Option.map_some, Option.some.injEq, forall_eq', Bool.or_eq_true, decide_eq_true_eq]
    split
    · rename_i word
      simp only [succeeds_ok, true_iff]
      exact word.imp id .inl
    · rename_i other
      obtain ⟨notOwner, notSelf⟩ := not_or.mp other
      simp only [notOwner, notSelf, false_or]
      exact (succeeds_map _).trans succeeds_readParam

/-! ## Roles -/

theorem tag_of_mem_wrappers {tag : String} {wrapper : Element} (found : wrapper ∈ e.wrappers tag) :
    wrapper.tag = tag := by
  simpa using (List.mem_filter.mp found).2

@[simp] theorem succeeds_inRole? {role : Role} :
    Succeeds (e.inRole? role.tag) ↔ e.WrappedOnce role := by
  have tagged : ∀ wrapper ∈ e.wrappers role.tag, wrapper.tag = role.tag :=
    fun _ found => tag_of_mem_wrappers found
  unfold inRole? WrappedOnce Holds
  split
  · rename_i none
    simp [none]
  · rename_i tag attrs child one
    rw [one] at tagged
    simpa [one] using tagged _ List.mem_cons_self
  · rename_i wrapper other one
    refine iff_of_false (not_succeeds_error _) ?_
    rintro (none | ⟨child, attrs, held⟩)
    · simp [none] at one
    · rw [one] at held
      cases held
      exact other _ _ _ rfl
  · rename_i none one several
    refine iff_of_false (not_succeeds_error _) ?_
    rintro (absent | ⟨child, attrs, held⟩)
    · exact none absent
    · exact several _ held

/-! ## The attributes of a type -/

theorem isSome_flag? {text : String} :
    (flag? (Text.trim text)).isSome = true ↔ Markup.IsFlag text := by
  unfold flag? Markup.IsFlag
  split
  · simp_all
  · split <;> simp_all

theorem isSome_ofText? {text : String} :
    (Comparison.ofText? (Text.trim text)).isSome = true ↔ Markup.IsOperator text :=
  Iff.rfl

theorem succeeds_readWait :
    Succeeds e.readWait ↔ NodeType.Attributes e (.behavior .finiteTime) := by
  simp [readWait, NodeType.Attributes, Scalar.kind]

theorem succeeds_readHealthOverTime :
    Succeeds e.readHealthOverTime ↔ NodeType.Attributes e (.behavior .healthOverTime) := by
  simp [readHealthOverTime, NodeType.Attributes, Scalar.kind]

theorem exists_filled {Q : Prop} :
    (∃ word, e.requiredName name = .ok word ∧ ¬word = "" ∧ Q) ↔ e.Has name Markup.Filled ∧ Q := by
  simp only [requiredName_eq_ok, Has, Markup.Filled]
  constructor
  · rintro ⟨word, ⟨text, found, rfl⟩, filled, rest⟩
    exact ⟨⟨text, found, filled⟩, rest⟩
  · rintro ⟨⟨text, found, filled⟩, rest⟩
    exact ⟨_, ⟨text, found, rfl⟩, filled, rest⟩

theorem succeeds_readSetVar :
    Succeeds e.readSetVar ↔ NodeType.Attributes e (.behavior .setVar) := by
  simp only [readSetVar, NodeType.Attributes, succeeds_bind, succeeds_unless, requiredWord_eq_ok]
  rw [← exists_filled]
  refine exists_congr fun word => and_congr_right fun _ => and_congr_right fun _ =>
    exists_congr fun kind => and_congr_right fun _ => exists_congr fun text =>
      and_congr required_eq_ok ?_
  unfold Markup.IsLiteral
  split <;> simp_all

theorem succeeds_readDeed (d : Deed) :
    Succeeds (e.readDeed d) ↔ NodeType.Attributes e (.behavior d.type) := by
  cases d with
  | setVar name value => exact succeeds_readSetVar
  | modifyHealth target amount => simp [readDeed, Deed.type, NodeType.Attributes, Scalar.kind]
  | publishEvent event names => simp [readDeed, Deed.type, NodeType.Attributes]
  | spawnOwned kind storeAs => simp [readDeed, Deed.type, NodeType.Attributes]

theorem succeeds_readProbe (p : Probe) :
    Succeeds (e.readProbe p) ↔ NodeType.Attributes e (.condition p.type) := by
  cases p with
  | const value => simp [readProbe, Probe.type, NodeType.Attributes, Scalar.kind]
  | compareVar name op value =>
    simp [readProbe, Probe.type, NodeType.Attributes, Scalar.kind, isSome_ofText?]
  | healthBelow target threshold =>
    simp [readProbe, Probe.type, NodeType.Attributes, Scalar.kind]
  | elapsed seconds => simp [readProbe, Probe.type, NodeType.Attributes, Scalar.kind]
  | event name ownerOnly => simp [readProbe, Probe.type, NodeType.Attributes, isSome_flag?]
  | trigger tag => simp [readProbe, Probe.type, NodeType.Attributes]

theorem stateName?_eq_none : e.stateName? name = none ↔ ¬e.Has name Markup.Filled := by
  unfold stateName? Has Markup.Filled
  cases e.attr? name <;> simp

theorem succeeds_readTransition :
    Succeeds e.readTransition ↔ NodeType.Attributes e .transition := by
  have interval := exists_param (e := e) "CheckOnTick" (0 : Float32) (fun x => ¬x < 0) (by decide)
  simp only [Scalar.read?_float] at interval
  simp only [readTransition, NodeType.Attributes, succeeds_bind, succeeds_unless, succeeds_pure]
  refine and_congr ?_ (Iff.trans (exists_congr fun p => and_congr_right fun _ => ?_) interval)
  · simp only [Bool.and_eq_true, Option.isNone_iff_eq_none, stateName?_eq_none]
    simp only [Classical.not_and_iff_not_or_not, Classical.not_not]
  · cases p.isBound <;> simp

theorem isRole_iff {c : Element} : c.isRole = true ↔ ∃ role : Role, c.tag = role.tag := by
  simp only [isRole, Role.ofTag?, List.find?_isSome, decide_eq_true_eq]
  constructor
  · rintro ⟨role, -, same⟩
    exact ⟨role, same.symm⟩
  · rintro ⟨role, same⟩
    exact ⟨role, by cases role <;> decide, same.symm⟩

/-- Of the three roles, that of conditions is the one that a state refuses. -/
theorem succeeds_onlyRoles : Succeeds (e.onlyRoles [Role.behavior.tag, Role.exitBehavior.tag]) ↔
    e.wrappers Role.condition.tag = [] := by
  have refused (c : Element) :
      (c.isRole && !([Role.behavior.tag, Role.exitBehavior.tag]).contains c.tag) = true ↔
        c.tag = Role.condition.tag := by
    simp only [Bool.and_eq_true, isRole_iff]
    constructor
    · rintro ⟨⟨role, same⟩, stray⟩
      cases role <;> simp_all
    · intro same
      exact ⟨⟨.condition, same⟩, by rw [same]; decide⟩
  unfold onlyRoles wrappers
  rw [List.filter_eq_nil_iff]
  split
  · rename_i stray found
    refine iff_of_false (not_succeeds_error _) fun none => ?_
    have strays := List.find?_some found
    exact none stray (List.mem_of_find?_eq_some found) (by simpa using (refused stray).mp strays)
  · rename_i none
    refine iff_of_true (succeeds_ok _) fun c member same => ?_
    exact List.find?_eq_none.mp none c member ((refused c).mpr (by simpa using same))

theorem succeeds_readState :
    Succeeds e.readState ↔ NodeType.Attributes e .state ∧ e.wrappers Role.condition.tag = [] := by
  simp [readState, NodeType.Attributes, exists_filled, succeeds_onlyRoles]

end Element

end SkillScript
