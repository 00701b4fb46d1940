import Mathlib.Data.Finset.Card
import SkillScript.Script.Registry
/-!
# The first registration of a name wins

Every call that registers a name does the same for values of its own: the name is
bound if it is new, and nothing happens otherwise. So after some calls a name has the
entry of the first call that names it, and there are as many entries as there are
names in the calls.
-/
set_option autoImplicit false
namespace SkillScript

namespace Registry

inductive Call where
  | type (type : NodeType)
  /-- Of a node type of the host's own there is only the identity: what it makes of a configuration,
  and the configuration itself, are left out. -/
  | explicit (name : String) (identity : Identity) (entry : Registration)
  | waitCheck (name : String) (predicate : WaitPredicate)
  | delegate (name : String) (hooks : Hooks)

namespace Call

def name : Call → String
  | type t => t.name
  | explicit name _ _ => name
  | waitCheck name _ => name
  | delegate name _ => name

def entry : Call → Entry
  | type t => ⟨⟨t.category, t, t.emptyBody⟩, .type t⟩
  | explicit _ identity entry => ⟨entry, identity⟩
  | waitCheck _ predicate =>
    ⟨⟨.behavior, .behavior .waitCheck, .waitCheck [] (some predicate)⟩,
      .type (.behavior .waitCheck)⟩
  | delegate _ hooks =>
    ⟨⟨.behavior, .behavior .delegate, .delegate [] hooks⟩, .type (.behavior .delegate)⟩

/-- Whether another call for the same name would register the same: constructors are not
compared. -/
def SameAs (c first : Call) : Prop :=
  c.entry.identity = first.entry.identity ∧
    c.entry.registration.category = first.entry.registration.category

instance (c first : Call) : Decidable (c.SameAs first) :=
  inferInstanceAs (Decidable (_ ∧ _))

end Call

def call (r : Registry) : Call → Except RegistryError Unit × Registry
  | .type t => r.registerType t
  | .explicit name identity entry => r.registerAs name identity entry
  | .waitCheck name predicate => r.registerWaitCheck name predicate
  | .delegate name hooks => r.registerDelegate name hooks

def run (r : Registry) : List Call → Registry
  | [] => r
  | c :: rest => (r.call c).2.run rest

variable {r : Registry}

/-! ## One call -/

theorem call_eq (r : Registry) (c : Call) :
    r.call c = r.registerAs c.name c.entry.identity c.entry.registration := by
  cases c <;> rfl

/-- A name that is new is bound. -/
theorem registerAs_of_new {name : String} (new : r.lookup? name = none) (identity : Identity)
    (entry : Registration) :
    r.registerAs name identity entry = (.ok (), ⟨r.table.insert name ⟨entry, identity⟩⟩) := by
  rw [registerAs, new]

/-- A name that is taken is left alone, and so is every other one. -/
theorem registerAs_of_taken {name : String} {existing : Entry}
    (taken : r.lookup? name = some existing) (identity : Identity) (entry : Registration) :
    r.registerAs name identity entry =
      (if identity = existing.identity ∧ entry.category = existing.registration.category
        then .ok () else .error ⟨name⟩, r) := by
  have same : (existing.identity = identity &&
      existing.registration.category = entry.category) = true ↔
      identity = existing.identity ∧ entry.category = existing.registration.category := by
    rw [Bool.and_eq_true, decide_eq_true_eq, decide_eq_true_eq, eq_comm, and_congr_right_iff]
    exact fun _ => eq_comm
  simp only [registerAs, taken, same]
  split <;> rfl

theorem lookup?_registerAs (r : Registry) (name : String) (identity : Identity)
    (entry : Registration) (other : String) :
    (r.registerAs name identity entry).2.lookup? other =
      (r.lookup? other).or (if other = name then some ⟨entry, identity⟩ else none) := by
  cases before : r.lookup? name with
  | none =>
    rw [registerAs_of_new before]
    show (r.table.insert name ⟨entry, identity⟩).find? other = _
    rw [Table.find?_insert]
    split
    · rename_i same
      rw [same, before]
      rfl
    · simp [lookup?]
  | some existing =>
    rw [registerAs_of_taken before]
    by_cases here : other = name
    · rw [here, before]
      rfl
    · simp [here]

theorem find?_registerAs (r : Registry) (name : String) (identity : Identity)
    (entry : Registration) (other : String) :
    (r.registerAs name identity entry).2.find? other =
      (r.find? other).or (if other = name then some entry else none) := by
  rw [find?, lookup?_registerAs, find?]
  cases r.lookup? other with
  | none => split <;> rfl
  | some existing => rfl

/-- What is found was there before, or is new. -/
theorem eq_of_find?_registerAs {name other : String} {identity : Identity}
    {entry found : Registration}
    (same : (r.registerAs name identity entry).2.find? other = some found) :
    r.find? other = some found ∨ other = name ∧ found = entry := by
  rw [find?_registerAs, Option.or_eq_some_iff] at same
  rcases same with old | ⟨-, new⟩
  · exact .inl old
  · split at new
    · rename_i here
      exact .inr ⟨here, (Option.some.inj new).symm⟩
    · cases new

/-- A registry grows by the names that are new. -/
theorem size_registerAs (r : Registry) (name : String) (identity : Identity)
    (entry : Registration) :
    (r.registerAs name identity entry).2.size =
      r.size + if (r.lookup? name).isSome then 0 else 1 := by
  cases before : r.lookup? name with
  | none =>
    rw [registerAs_of_new before]
    have absent : r.table.contains name = false := by
      rw [Table.contains, Option.isSome_eq_false_iff, Option.isNone_iff_eq_none]
      exact before
    show (r.table.insert name ⟨entry, identity⟩).size = _
    rw [Table.size_insert, absent]
    rfl
  | some existing =>
    rw [registerAs_of_taken before]
    rfl

/-! ## Runs -/

theorem lookup?_run (r : Registry) (calls : List Call) (name : String) :
    (r.run calls).lookup? name =
      (r.lookup? name).or ((calls.find? fun c => name = c.name).map Call.entry) := by
  induction calls generalizing r with
  | nil => simp [run]
  | cons c rest ih =>
    rw [run, ih, call_eq, lookup?_registerAs, Option.or_assoc, List.find?_cons]
    by_cases here : name = c.name
    · simp [here]
    · simp [here]

/-- An entry stays what it is. -/
theorem lookup?_run_of_some {name : String} {entry : Entry} (found : r.lookup? name = some entry)
    (calls : List Call) : (r.run calls).lookup? name = some entry := by
  rw [lookup?_run, found]
  rfl

theorem run_append (r : Registry) (calls later : List Call) :
    r.run (calls ++ later) = (r.run calls).run later := by
  induction calls generalizing r with
  | nil => rfl
  | cons c rest ih => exact ih _

/-- What is registered is what the calls name. -/
theorem isSome_lookup?_run (calls : List Call) (name : String) :
    ((empty.run calls).lookup? name).isSome = decide (name ∈ calls.map Call.name) := by
  have nothing : empty.lookup? name = none := rfl
  rw [lookup?_run, nothing, Option.none_or, Option.isSome_map, Bool.eq_iff_iff, List.find?_isSome,
    decide_eq_true_iff, List.mem_map]
  exact exists_congr fun c => and_congr_right fun _ => decide_eq_true_iff.trans eq_comm

theorem size_run (calls : List Call) :
    (empty.run calls).size = (calls.map Call.name).dedup.length := by
  rw [← List.card_toFinset]
  induction calls using List.reverseRecOn with
  | nil => rfl
  | append_singleton calls c ih =>
    rw [run_append, run, run, call_eq, size_registerAs, isSome_lookup?_run, ih, List.map_append,
      List.toFinset_append]
    by_cases met : c.name ∈ calls.map Call.name
    · simp [met]
    · simp [met]

end Registry

end SkillScript
