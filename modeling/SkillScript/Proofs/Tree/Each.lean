import SkillScript.Node.Machine
/-!
# Acting on the elements of a list

Acting at a position is setting the element there; acting on all of them reaches
every element once. What no single act changes, in the context or in the elements,
is not changed by acting on many of them.
-/
set_option autoImplicit false
namespace SkillScript

variable {α γ : Type} {act : Context → α → α × Context}

theorem actAt_eq (act : Context → α → α × Context) (ctx : Context) (n : Nat) (l : List α) :
    actAt act ctx n l =
      match l[n]? with
      | none => (l, ctx)
      | some a => (l.set n (act ctx a).1, (act ctx a).2) := by
  induction l generalizing n with
  | nil => simp [actAt]
  | cons a rest ih =>
    cases n with
    | zero => rfl
    | succ n =>
      simp only [actAt, ih, List.getElem?_cons_succ]
      cases rest[n]? with
      | none => rfl
      | some b => rfl

theorem actAt_set (act : Context → α → α × Context) (ctx : Context) {n : Nat} {l : List α}
    (bound : n < l.length) (a : α) :
    actAt act ctx n (l.set n a) = (l.set n (act ctx a).1, (act ctx a).2) := by
  rw [actAt_eq, List.getElem?_set_self bound]
  exact congrArg (·, (act ctx a).2) (List.set_set ..)

/-- Two acts that correspond do so in a list. -/
theorem actAt_map {f : α → γ} {act' : Context → γ → γ × Context}
    (same : ∀ ctx a, act' ctx (f a) = (f (act ctx a).1, (act ctx a).2)) (ctx : Context) (n : Nat)
    (l : List α) :
    actAt act' ctx n (l.map f) = ((actAt act ctx n l).1.map f, (actAt act ctx n l).2) := by
  rw [actAt_eq, actAt_eq, List.getElem?_map]
  cases l[n]? with
  | none => rfl
  | some a =>
    rw [Option.map_some]
    simp only [same, List.map_set]

theorem actAll_map {f : α → γ} {act' : Context → γ → γ × Context}
    (same : ∀ ctx a, act' ctx (f a) = (f (act ctx a).1, (act ctx a).2)) (ctx : Context)
    (l : List α) :
    actAll act' ctx (l.map f) = ((actAll act ctx l).1.map f, (actAll act ctx l).2) := by
  induction l generalizing ctx with
  | nil => rfl
  | cons a rest ih => simp only [List.map_cons, actAll, same, ih]

theorem actOn_map {f : α → γ} {act' : Context → γ → γ × Context}
    (same : ∀ ctx a, act' ctx (f a) = (f (act ctx a).1, (act ctx a).2)) (ctx : Context)
    (o : Option α) :
    actOn act' ctx (o.map f) = ((actOn act ctx o).1.map f, (actOn act ctx o).2) := by
  cases o with
  | none => rfl
  | some a => simp only [Option.map_some, actOn, same]

theorem modify_map {f : α → γ} {g : α → α} {g' : γ → γ} (same : ∀ a, g' (f a) = f (g a)) (n : Nat)
    (l : List α) : (l.map f).modify n g' = (l.modify n g).map f := by
  refine List.ext_getElem? fun i => ?_
  simp only [List.getElem?_modify, List.getElem?_map]
  cases l[i]? with
  | none => rfl
  | some a =>
    by_cases here : n = i
    · simp [here, same]
    · simp [here]

/-- An act on one of two lists leaves the other one alone. -/
theorem actAt_append_left (act : Context → α → α × Context) (ctx : Context) {n : Nat} {l : List α}
    (bound : n < l.length) (l' : List α) :
    actAt act ctx n (l ++ l') = ((actAt act ctx n l).1 ++ l', (actAt act ctx n l).2) := by
  induction l generalizing n with
  | nil => cases bound
  | cons a rest ih =>
    cases n with
    | zero => rfl
    | succ n =>
      simp only [List.cons_append, actAt, ih (Nat.lt_of_succ_lt_succ bound)]

theorem actAt_append_right (act : Context → α → α × Context) (ctx : Context) (n : Nat)
    (l l' : List α) :
    actAt act ctx (l.length + n) (l ++ l') =
      (l ++ (actAt act ctx n l').1, (actAt act ctx n l').2) := by
  induction l with
  | nil => simp
  | cons a rest ih =>
    rw [List.length_cons, Nat.add_right_comm]
    simp only [List.cons_append, actAt, ih]

/-- An act that changes no element changes no list. -/
theorem actAt_of_fixed {ctx : Context} {l : List α} (fixed : ∀ a ∈ l, act ctx a = (a, ctx))
    (n : Nat) : actAt act ctx n l = (l, ctx) := by
  rw [actAt_eq]
  cases found : l[n]? with
  | none => rfl
  | some a =>
    obtain ⟨bound, rfl⟩ := List.getElem?_eq_some_iff.mp found
    simp only [fixed _ (List.getElem_mem bound), List.set_getElem_self]

theorem actAll_of_fixed {ctx : Context} {l : List α} (fixed : ∀ a ∈ l, act ctx a = (a, ctx)) :
    actAll act ctx l = (l, ctx) := by
  induction l with
  | nil => rfl
  | cons a rest ih =>
    obtain ⟨first, others⟩ := List.forall_mem_cons.mp fixed
    simp only [actAll, first, ih others]

/-- What is done again changes nothing, if this is so for every element. -/
theorem actOn_actOn (again : ∀ ctx a, act (act ctx a).2 (act ctx a).1 = act ctx a)
    (ctx : Context) (o : Option α) : actOn act (actOn act ctx o).2 (actOn act ctx o).1 =
      actOn act ctx o := by
  cases o with
  | none => rfl
  | some a => simp only [actOn, again]

/-- An act that leaves the context alone is a change at one place. -/
theorem actAt_eq_modify (f : α → α) (ctx : Context) (n : Nat) (l : List α) :
    actAt (fun ctx a => (f a, ctx)) ctx n l = (l.modify n f, ctx) := by
  induction l generalizing n with
  | nil => simp [actAt]
  | cons a rest ih =>
    cases n with
    | zero => rfl
    | succ n => simp [actAt, ih]

theorem getElem?_actAt (ctx : Context) (n i : Nat) (l : List α) :
    (actAt act ctx n l).1[i]? = if i = n then l[n]?.map fun a => (act ctx a).1 else l[i]? := by
  rw [actAt_eq]
  by_cases hi : i = n
  · subst hi
    cases found : l[i]? with
    | none => simp [found]
    | some a => simp [(List.getElem?_eq_some_iff.mp found).1]
  · cases l[n]? with
    | none => simp [hi]
    | some a => simp [hi, Ne.symm hi]

theorem getElem?_actAt_eq_some {ctx : Context} {n i : Nat} {l : List α} {b : α}
    (found : (actAt act ctx n l).1[i]? = some b) :
    (i = n ∧ ∃ a, l[i]? = some a ∧ b = (act ctx a).1) ∨ (i ≠ n ∧ l[i]? = some b) := by
  rw [getElem?_actAt] at found
  by_cases hi : i = n
  · subst hi
    rw [if_pos rfl] at found
    obtain ⟨a, inside, rfl⟩ := Option.map_eq_some_iff.mp found
    exact Or.inl ⟨rfl, a, inside, rfl⟩
  · rw [if_neg hi] at found
    exact Or.inr ⟨hi, found⟩

theorem length_actAt (ctx : Context) (n : Nat) (l : List α) :
    (actAt act ctx n l).1.length = l.length := by
  rw [actAt_eq]
  cases l[n]? with
  | none => rfl
  | some a => simp

theorem snd_actAt {g : Context → γ} (h : ∀ ctx a, g (act ctx a).2 = g ctx) (ctx : Context)
    (n : Nat) (l : List α) : g (actAt act ctx n l).2 = g ctx := by
  rw [actAt_eq]
  cases l[n]? with
  | none => rfl
  | some a => exact h ctx a

theorem map_actAt {g : α → γ} (h : ∀ ctx a, g (act ctx a).1 = g a) (ctx : Context) (n : Nat)
    (l : List α) : (actAt act ctx n l).1.map g = l.map g := by
  induction l generalizing n with
  | nil => simp [actAt]
  | cons a rest ih =>
    cases n with
    | zero => simp [actAt, h]
    | succ n => simp [actAt, ih]

theorem snd_actAll {g : Context → γ} (h : ∀ ctx a, g (act ctx a).2 = g ctx) (ctx : Context)
    (l : List α) : g (actAll act ctx l).2 = g ctx := by
  induction l generalizing ctx with
  | nil => rfl
  | cons a rest ih => simp [actAll, ih, h]

theorem map_actAll_of_mem {g : α → γ} {l : List α} (h : ∀ a ∈ l, ∀ ctx, g (act ctx a).1 = g a)
    (ctx : Context) : (actAll act ctx l).1.map g = l.map g := by
  induction l generalizing ctx with
  | nil => rfl
  | cons a rest ih =>
    obtain ⟨first, later⟩ := List.forall_mem_cons.mp h
    simp only [actAll, List.map_cons, first, ih later]

theorem map_actAll {g : α → γ} (h : ∀ ctx a, g (act ctx a).1 = g a) (ctx : Context)
    (l : List α) : (actAll act ctx l).1.map g = l.map g :=
  map_actAll_of_mem (fun a _ ctx => h ctx a) ctx

theorem mem_actAll {ctx : Context} {l : List α} {b : α} (member : b ∈ (actAll act ctx l).1) :
    ∃ a ∈ l, ∃ ctx', b = (act ctx' a).1 := by
  induction l generalizing ctx with
  | nil => simp [actAll] at member
  | cons a rest ih =>
    simp only [actAll, List.mem_cons] at member
    rcases member with rfl | member
    · exact ⟨a, by simp, ctx, rfl⟩
    · obtain ⟨a', inside, ctx', rfl⟩ := ih member
      exact ⟨a', by simp [inside], ctx', rfl⟩

theorem snd_actOn {g : Context → γ} (h : ∀ ctx a, g (act ctx a).2 = g ctx) (ctx : Context)
    (o : Option α) : g (actOn act ctx o).2 = g ctx := by
  cases o with
  | none => rfl
  | some a => exact h ctx a

theorem map_actOn {g : α → γ} (h : ∀ ctx a, g (act ctx a).1 = g a) (ctx : Context)
    (o : Option α) : (actOn act ctx o).1.map g = o.map g := by
  cases o with
  | none => rfl
  | some a => simp [actOn, h]

theorem fst_actOn (ctx : Context) (o : Option α) :
    (actOn act ctx o).1 = o.map fun a => (act ctx a).1 := by
  cases o <;> rfl

theorem mem_actOn {ctx : Context} {o : Option α} {b : α} (member : b ∈ (actOn act ctx o).1) :
    ∃ a ∈ o, b = (act ctx a).1 := by
  rw [fst_actOn] at member
  obtain ⟨a, inside, rfl⟩ := Option.map_eq_some_iff.mp member
  exact ⟨a, inside, rfl⟩

theorem map_modify {f : α → α} {g : α → γ} (h : ∀ a, g (f a) = g a) (n : Nat) (l : List α) :
    (l.modify n f).map g = l.map g := by
  refine List.ext_getElem? fun i => ?_
  simp only [List.getElem?_map, List.getElem?_modify]
  cases l[i]? with
  | none => rfl
  | some a =>
    by_cases same : n = i
    · simp [same, h]
    · simp [same]

theorem map_of_fixed {f : α → α} {l : List α} (fixed : ∀ a ∈ l, f a = a) : l.map f = l :=
  (List.map_congr_left fixed).trans (List.map_id l)

/-- To change the element at one position is to change all of them in a way that leaves those at the
other positions as they are. -/
theorem modify_eq_map {f g : α → α} {n : Nat} {l : List α} (same : ∀ a ∈ l, f a = g a)
    (fixed : ∀ i a, l[i]? = some a → i ≠ n → f a = a) : l.modify n f = l.map g := by
  refine List.ext_getElem? fun i => ?_
  rw [List.getElem?_modify, List.getElem?_map]
  cases found : l[i]? with
  | none => rfl
  | some a =>
    have changed := same a (List.mem_of_getElem? found)
    by_cases here : n = i
    · simp [here, changed]
    · simp [here, ← changed, fixed i a found (Ne.symm here)]

theorem map_set_of_eq {g : α → γ} {n : Nat} {l : List α} {a a' : α} (found : l[n]? = some a)
    (same : g a' = g a) : (l.set n a').map g = l.map g := by
  obtain ⟨bound, rfl⟩ := List.getElem?_eq_some_iff.mp found
  refine List.ext_getElem? fun i => ?_
  simp only [List.getElem?_map, List.getElem?_set]
  split
  · rename_i here
    subst here
    simp [bound, same]
  · rfl

/-! What every act keeps of the elements, acting on some of them keeps of all. -/

theorem forall_mem_actAt {P : α → Prop} (keeps : ∀ ctx a, P a → P (act ctx a).1) (ctx : Context)
    (n : Nat) {l : List α} (holds : ∀ a ∈ l, P a) : ∀ a ∈ (actAt act ctx n l).1, P a := by
  intro b member
  obtain ⟨i, found⟩ := List.mem_iff_getElem?.mp member
  rcases getElem?_actAt_eq_some found with ⟨_, a, inside, rfl⟩ | ⟨_, inside⟩
  · exact keeps ctx a (holds a (List.mem_of_getElem? inside))
  · exact holds b (List.mem_of_getElem? inside)

theorem forall_mem_actAll {P : α → Prop} (keeps : ∀ ctx a, P a → P (act ctx a).1) (ctx : Context)
    {l : List α} (holds : ∀ a ∈ l, P a) : ∀ a ∈ (actAll act ctx l).1, P a := by
  intro b member
  obtain ⟨a, inside, ctx', rfl⟩ := mem_actAll member
  exact keeps ctx' a (holds a inside)

theorem forall_mem_actOn {P : α → Prop} (keeps : ∀ ctx a, P a → P (act ctx a).1) (ctx : Context)
    {o : Option α} (holds : ∀ a ∈ o, P a) : ∀ a ∈ (actOn act ctx o).1, P a := by
  intro b member
  obtain ⟨a, inside, rfl⟩ := mem_actOn member
  exact keeps ctx a (holds a inside)

theorem forall_mem_modify {P : α → Prop} {f : α → α} (keeps : ∀ a, P a → P (f a)) (n : Nat)
    {l : List α} (holds : ∀ a ∈ l, P a) : ∀ a ∈ l.modify n f, P a := by
  intro b member
  obtain ⟨i, found⟩ := List.mem_iff_getElem?.mp member
  rw [List.getElem?_modify] at found
  obtain ⟨a, inside, rfl⟩ := Option.map_eq_some_iff.mp found
  have held := holds a (List.mem_of_getElem? inside)
  split
  · exact keeps a held
  · exact held

/-! The exit behavior of a state is reached only when the state is left. -/

namespace State

variable {β : Type} [Behaves β]

theorem exit_activate (ctx : Context) (s : State β) : (s.activate ctx).1.exit = s.exit := by
  unfold activate
  split <;> rfl

theorem exit_deactivate (ctx : Context) (s : State β) : (s.deactivate ctx).1.exit = s.exit := by
  unfold deactivate
  split <;> rfl

theorem exit_enter (ctx : Context) (s : State β) : (s.enter ctx).1.exit = s.exit :=
  exit_activate ..

theorem exit_tick (step : Float32) (ctx : Context) (s : State β) :
    (Machine.tick step ctx s).2.1.exit = s.exit := by
  have updated : (s.update step ctx).1.exit = s.exit := by
    unfold update
    split
    · dsimp only
      split <;> rfl
    · rfl
  have checked : ((s.update step ctx).1.checkTransitions step (s.update step ctx).2).2.1.exit =
      (s.update step ctx).1.exit := by
    unfold checkTransitions
    split <;> rfl
  exact checked.trans updated

theorem exit_onTrigger (tag : String) (s : State β) : (s.onTrigger tag).exit = s.exit := by
  unfold onTrigger
  split <;> rfl

end State

namespace Machine

variable {β : Type} {f : Context → State β → State β × Context}

theorem currentState?_actOnCurrent (f : Context → State β → State β × Context) (ctx : Context)
    (m : Machine β) :
    (m.actOnCurrent f ctx).1.currentState? = m.currentState?.map fun s => (f ctx s).1 := by
  unfold actOnCurrent currentState?
  cases current : m.current with
  | none => simp [current]
  | some i => simp [getElem?_actAt]

theorem forall_mem_actOnCurrent {P : State β → Prop} (keeps : ∀ ctx s, P s → P (f ctx s).1)
    (ctx : Context) {m : Machine β} (holds : ∀ s ∈ m.states, P s) :
    ∀ s ∈ (m.actOnCurrent f ctx).1.states, P s := by
  unfold actOnCurrent
  split
  · exact holds
  · exact forall_mem_actAt keeps ctx _ holds

end Machine

end SkillScript
