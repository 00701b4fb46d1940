import SkillScript.Proofs.Events.Triggers
import SkillScript.Proofs.Nesting.Runs
/-!
# Flat sequences

The children of a sequence that stands among the children of another one can take its
place there. Wherever the two sequences are, there is a place where the flat one is,
and from there it does the same.
-/
set_option autoImplicit false
namespace SkillScript

def Behaves.heed {β : Type} [Behaves β] (tag : String) (ctx : Context) (b : β) : β × Context :=
  (onTrigger tag b, ctx)

/-- A sequence with another one among its children. -/
structure Nest (β : Type) where
  before : List β
  /-- Whether the node of the inner sequence is active and has begun. -/
  active : Bool
  begun : Bool
  inner : Sequence β
  after : List β
  index : Nat
  started : Bool

namespace Nest

variable {β : Type}

/-- The outer sequence. Its other children are of the height of the inner sequence. -/
def outer (e : β → Node β) (s : Nest β) : Sequence (Node β) where
  children := s.before.map e ++ Node.ofSequence s.active s.begun s.inner :: s.after.map e
  index := s.index
  started := s.started

def inside (s : Nest β) : Bool :=
  s.started && s.index == s.before.length

def flat (s : Nest β) : Sequence β where
  children := s.before ++ (s.inner.children ++ s.after)
  index :=
    if s.index ≤ s.before.length then s.index + s.inner.resume s.inside
    else s.index - 1 + s.inner.children.length
  started := s.started

structure Sound (s : Nest β) : Prop where
  first : s.started = false → s.index = 0
  running : s.inside = true → s.inner.started = true
  within : s.inside = true → s.inner.index < s.inner.children.length
  /-- The first step is not an empty sequence. -/
  filled : s.before ++ s.inner.children ≠ []

theorem Sound.of_started {s : Nest β} (started : s.started = true)
    (running : s.inside = true → s.inner.started = true)
    (within : s.inside = true → s.inner.index < s.inner.children.length)
    (filled : s.before ++ s.inner.children ≠ []) : s.Sound where
  first fresh := by
    rw [started] at fresh
    cases fresh
  running := running
  within := within
  filled := filled

/-- Nothing is asked of the inner sequence while it does not have its turn. -/
theorem Sound.of_outside {s : Nest β} (started : s.started = true) (outside : s.inside = false)
    (filled : s.before ++ s.inner.children ≠ []) : s.Sound :=
  .of_started started (fun here => absurd (outside.symm.trans here) Bool.false_ne_true)
    (fun here => absurd (outside.symm.trans here) Bool.false_ne_true) filled

def fresh (before inner after : List β) : Nest β where
  before := before
  active := false
  begun := false
  inner := ⟨inner, 0, false⟩
  after := after
  index := 0
  started := false

theorem flat_fresh (before inner after : List β) :
    (fresh before inner after).flat = ⟨before ++ (inner ++ after), 0, false⟩ :=
  rfl

theorem Sound.fresh {before inner : List β} (filled : before ++ inner ≠ []) (after : List β) :
    (fresh before inner after).Sound where
  first _ := rfl
  running := nofun
  within := nofun
  filled := filled

def rewound (s : Nest β) : Nest β :=
  { s with index := 0, started := false }

theorem Sound.rewound {s : Nest β} (sound : s.Sound) : s.rewound.Sound where
  first _ := rfl
  running := nofun
  within := nofun
  filled := sound.filled

theorem flat_rewound (s : Nest β) : (⟨s.flat.children, 0, false⟩ : Sequence β) = s.rewound.flat := by
  simp [flat, Nest.rewound, inside, Sequence.resume]

variable [Behaves β] [Ordered β] {e : β → Node β} {strict active : Bool} {s : Nest β}

omit [Behaves β] [Ordered β] in
theorem getElem?_shell (s : Nest β) :
    (s.outer e).children[s.before.length]? =
      some (Node.ofSequence s.active s.begun s.inner) := by
  rw [outer, List.getElem?_append_right (by simp)]
  simp

/-- In an orderly tree the inner sequence is active exactly when it has its turn. -/
theorem active_eq (orderly : (s.outer e).Orderly strict active) :
    s.active = (active && s.inside) := by
  have status := (orderly.children _ _ (s.getElem?_shell)).1
  rw [inside, ← Bool.and_assoc, Bool.beq_comm]
  exact status

theorem resting (orderly : (s.outer e).Orderly strict active) (rests : s.active = false) :
    ∀ c ∈ s.inner.children, Behaves.isActive c = false := by
  have order := (orderly.children _ _ (s.getElem?_shell)).2
  intro c member
  obtain ⟨i, found⟩ := List.mem_iff_getElem?.mp member
  have status := (Sequence.Orderly.children order i c found).1
  rw [status]
  simp [Node.ofSequence, rests]

/-- An inner sequence in an active one has its turn, or will be entered. -/
theorem due (sound : s.Sound) (orderly : (s.outer e).Orderly strict true) :
    s.inner.Due s.inside s.active where
  status := by rw [active_eq orderly, Bool.true_and]
  running := sound.running
  within here := (sound.within here).le
  resting away := resting orderly (by rw [active_eq orderly, away]; rfl)

/-! ## Acts at one place -/

structure Kept (s s' : Nest β) : Prop where
  before : s'.before.length = s.before.length
  inner : s'.inner.children.length = s.inner.children.length
  place : s'.inner.index = s.inner.index
  running : s'.inner.started = s.inner.started
  index : s'.index = s.index
  started : s'.started = s.started

section Acts

omit [Behaves β] [Ordered β]

variable {s' : Nest β} {act : Context → β → β × Context}
  {act' : Context → Node β → Node β × Context}

theorem Kept.inside (kept : s.Kept s') : s'.inside = s.inside := by
  simp only [Nest.inside, kept.started, kept.index, kept.before]

theorem Kept.index_flat (kept : s.Kept s') : s'.flat.index = s.flat.index := by
  simp only [flat, Sequence.resume, kept.inside, kept.index, kept.before, kept.inner, kept.place]

theorem Kept.outer_eq (kept : s.Kept s') :
    (⟨(s'.outer e).children, s.index, s.started⟩ : Sequence (Node β)) = s'.outer e := by
  rw [← kept.index, ← kept.started]
  rfl

theorem Kept.flat_eq (kept : s.Kept s') :
    (⟨s'.flat.children, s.flat.index, s.started⟩ : Sequence β) = s'.flat := by
  rw [← kept.index_flat, ← kept.started]
  rfl

theorem Sound.filled_of_length (sound : s.Sound) {l l' : List β}
    (before : l.length = s.before.length) (inner : l'.length = s.inner.children.length) :
    l ++ l' ≠ [] := by
  have filled := List.length_pos_of_ne_nil sound.filled
  refine List.ne_nil_of_length_pos ?_
  rw [List.length_append] at filled ⊢
  rw [before, inner]
  exact filled

theorem Kept.sound (kept : s.Kept s') (sound : s.Sound) : s'.Sound where
  first fresh := by
    rw [kept.started] at fresh
    rw [kept.index, sound.first fresh]
  running here := by
    rw [kept.inside] at here
    rw [kept.running, sound.running here]
  within here := by
    rw [kept.inside] at here
    rw [kept.place, kept.inner]
    exact sound.within here
  filled := sound.filled_of_length kept.before kept.inner

theorem index_flat_of_gt {m : Nat} (late : s.index = s.before.length + (m + 1)) :
    s.flat.index = s.before.length + (s.inner.children.length + m) := by
  have behind : ¬ s.index ≤ s.before.length := by omega
  simp only [flat, if_neg behind]
  omega

theorem index_flat_of_le (early : s.index ≤ s.before.length) :
    s.flat.index = s.index + s.inner.resume s.inside :=
  if_pos early

theorem resume_of_lt (early : s.index < s.before.length) : s.inner.resume s.inside = 0 := by
  have away : s.inside = false := by simp [inside, early.ne]
  rw [away]
  rfl

theorem flat_eq {l : List β} {k : Nat} (children : l = s.before ++ (s.inner.children ++ s.after))
    (place : s.flat.index = k) (started : s.started = true) :
    (⟨l, k, true⟩ : Sequence β) = s.flat := by
  rw [← place, children, ← started]
  rfl

/-- There is always a child to act on where the inner sequence stands. -/
theorem Sound.resume_lt (sound : s.Sound) (here : s.index = s.before.length) :
    s.inner.resume s.inside < s.inner.children.length := by
  cases inside : s.inside with
  | true => exact sound.within inside
  | false =>
    have fresh : s.started = false := by simpa [Nest.inside, here] using inside
    have none : s.before = [] := List.length_eq_zero_iff.mp (here.symm.trans (sound.first fresh))
    have filled := sound.filled
    rw [none] at filled
    exact List.length_pos_of_ne_nil filled

/-- An act on a child of the outer sequence is one on a child of the flat one. -/
theorem exists_actAt {active begun : Bool} (sound : s.Sound)
    (same : ∀ ctx b, act' ctx (e b) = (e (act ctx b).1, (act ctx b).2)) (ctx : Context)
    (acted : s.index = s.before.length →
      let ran := actAt act ctx (s.inner.resume s.inside) s.inner.children
      act' ctx (Node.ofSequence s.active s.begun s.inner) =
        (Node.ofSequence active begun { s.inner with children := ran.1 }, ran.2)) :
    ∃ s' ctx', s.Kept s' ∧
      actAt act' ctx s.index (s.outer e).children = ((s'.outer e).children, ctx') ∧
      actAt act ctx s.flat.index s.flat.children = (s'.flat.children, ctx') := by
  have outside (n : Nat) := actAt_append_right act' ctx n (s.before.map e)
    (Node.ofSequence s.active s.begun s.inner :: s.after.map e)
  rw [List.length_map] at outside
  rcases Nat.lt_trichotomy s.index s.before.length with early | here | late
  · refine ⟨{ s with before := (actAt act ctx s.index s.before).1 },
      (actAt act ctx s.index s.before).2,
      ⟨length_actAt ctx s.index s.before, rfl, rfl, rfl, rfl, rfl⟩, ?_, ?_⟩
    · rw [outer, actAt_append_left act' ctx (by simpa using early), actAt_map same]
      rfl
    · rw [index_flat_of_le early.le, resume_of_lt early, flat]
      exact actAt_append_left act ctx early _
  · have within := sound.resume_lt here
    have size : (actAt act ctx (s.inner.resume s.inside) s.inner.children).1.length =
        s.inner.children.length := length_actAt ctx _ s.inner.children
    have first := outside 0
    refine ⟨{ s with
        active := active
        begun := begun
        inner := { s.inner with
          children := (actAt act ctx (s.inner.resume s.inside) s.inner.children).1 } },
      (actAt act ctx (s.inner.resume s.inside) s.inner.children).2,
      ⟨rfl, size, rfl, rfl, rfl, rfl⟩, ?_, ?_⟩
    · rw [actAt, acted here, Nat.add_zero] at first
      rw [here, outer, first]
      rfl
    · rw [index_flat_of_le here.le, here, flat, actAt_append_right,
        actAt_append_left act ctx within]
      rfl
  · obtain ⟨m, position⟩ : ∃ m, s.index = s.before.length + (m + 1) :=
      ⟨s.index - s.before.length - 1, by omega⟩
    refine ⟨{ s with after := (actAt act ctx m s.after).1 }, (actAt act ctx m s.after).2,
      ⟨rfl, rfl, rfl, rfl, rfl, rfl⟩, ?_, ?_⟩
    · rw [position, outer, outside (m + 1), actAt, actAt_map same]
      rfl
    · rw [index_flat_of_gt position, flat, actAt_append_right, actAt_append_right]
      rfl

end Acts

/-! ## Calls -/

/-- Two answers are those of the two sequences of one nest, in the same context. -/
structure Agree (e : β → Node β) (p : Sequence (Node β) × Context) (q : Sequence β × Context) :
    Prop where
  made : ∃ s : Nest β, s.Sound ∧ p.1 = s.outer e ∧ q.1 = s.flat
  effects : p.2 = q.2

omit [Behaves β] [Ordered β] in
theorem Sound.agree (sound : s.Sound) (ctx : Context) : Agree e (s.outer e, ctx) (s.flat, ctx) :=
  ⟨⟨s, sound, rfl, rfl⟩, rfl⟩

omit [Behaves β] [Ordered β] in
theorem Agree.rewound {p : Sequence (Node β) × Context} {q : Sequence β × Context}
    (agree : Agree e p q) : Agree e (⟨p.1.children, 0, false⟩, p.2) (⟨q.1.children, 0, false⟩, q.2) := by
  obtain ⟨⟨s, sound, nested, flattened⟩, effects⟩ := agree
  refine ⟨⟨s.rewound, sound.rewound, ?_, ?_⟩, effects⟩
  · rw [nested]
    rfl
  · rw [flattened]
    exact s.flat_rewound

section Calls

variable (sound : s.Sound) (respects : Behaves.Respects e) (ctx : Context)

omit [Behaves β] [Ordered β] in
include sound in
theorem act_agree {act : Context → β → β × Context} {act' : Context → Node β → Node β × Context}
    {active begun : Bool} (same : ∀ ctx b, act' ctx (e b) = (e (act ctx b).1, (act ctx b).2))
    (acted : s.index = s.before.length →
      let ran := actAt act ctx (s.inner.resume s.inside) s.inner.children
      act' ctx (Node.ofSequence s.active s.begun s.inner) =
        (Node.ofSequence active begun { s.inner with children := ran.1 }, ran.2)) :
    let ran := actAt act' ctx s.index (s.outer e).children
    let ran' := actAt act ctx s.flat.index s.flat.children
    Agree e ({ s.outer e with children := ran.1 }, ran.2)
      ({ s.flat with children := ran'.1 }, ran'.2) := by
  obtain ⟨s', ctx', kept, nested, flattened⟩ := exists_actAt sound same ctx acted
  rw [nested, flattened]
  exact ⟨⟨s', kept.sound sound, kept.outer_eq, kept.flat_eq⟩, rfl⟩

variable [Behaves.Reserved β]

omit [Behaves.Reserved β] in
/-- Waking the inner sequence is waking its child. -/
theorem activate_shell (sound : s.Sound) (orderly : (s.outer e).Orderly strict false)
    (started : s.started = true) (here : s.index = s.before.length) :
    let ran := actAt Behaves.activate ctx (s.inner.resume s.inside) s.inner.children
    Behaves.activate ctx (Node.ofSequence s.active s.begun s.inner) =
      (Node.ofSequence true s.begun { s.inner with children := ran.1 }, ran.2) := by
  have inside : s.inside = true := by simp [inside, started, here]
  rw [active_eq orderly, inside]
  exact Sequence.activate_ofSequence (sound.running inside) ctx

/-- Putting the inner sequence to rest is putting its child to rest. -/
theorem deactivate_shell {active : Bool} (orderly : (s.outer e).Orderly strict active) :
    let ran := actAt Behaves.deactivate ctx (s.inner.resume s.inside) s.inner.children
    Behaves.deactivate ctx (Node.ofSequence s.active s.begun s.inner) =
      (Node.ofSequence false s.begun { s.inner with children := ran.1 }, ran.2) := by
  have awake := active_eq orderly
  cases running : s.active with
  | true =>
    have inside : s.inside = true := by
      rw [running, eq_comm, Bool.and_eq_true] at awake
      exact awake.2
    rw [inside]
    exact Sequence.deactivate_ofSequence ctx s.inner
  | false =>
    have still := Sequence.actAt_deactivate_of_resting ctx (s.inner.resume s.inside)
      (resting orderly running)
    rw [still]
    rfl

include sound respects

theorem start_agree (fresh : s.started = false) (orderly : (s.outer e).Orderly strict false) :
    Agree e ((s.outer e).start ctx) (s.flat.start ctx) := by
  have first : s.index = 0 := sound.first fresh
  have away : s.inside = false := by simp [inside, fresh]
  have origin : s.flat.index = 0 := by simp [flat, first, away, Sequence.resume]
  rw [Sequence.start, Sequence.start, origin, show (s.outer e).index = 0 from first]
  cases placed : s.before with
  | cons b rest =>
    have nested : (s.outer e).children = e b :: (rest.map e ++
        Node.ofSequence s.active s.begun s.inner :: s.after.map e) := by
      rw [outer, placed]
      rfl
    have flattened : s.flat.children = b :: (rest ++ (s.inner.children ++ s.after)) := by
      rw [flat, placed]
      rfl
    rw [nested, flattened, actAt, actAt, respects.enter]
    refine ⟨⟨{ s with before := (Behaves.enter ctx b).1 :: rest, started := true }, ?_, ?_, ?_⟩, rfl⟩
    · exact .of_outside rfl (by simp [inside, first]) (List.cons_ne_nil _ _)
    · rw [outer, first]
      rfl
    · simp [flat, first, inside, Sequence.resume]
  | nil =>
    -- The inner sequence comes first, and it has a child that is entered with it.
    have filled : 0 < s.inner.children.length := by
      have filled := sound.filled
      rw [placed] at filled
      exact List.length_pos_of_ne_nil filled
    have rests : s.active = false := active_eq orderly
    have entered : Behaves.enter ctx (Node.ofSequence false s.begun s.inner) = _ :=
      Sequence.enter_ofSequence ctx (resting orderly rests)
    have nested : (s.outer e).children =
        Node.ofSequence false s.begun s.inner :: s.after.map e := by
      rw [outer, placed, rests]
      rfl
    have flattened : s.flat.children = s.inner.children ++ s.after := by
      rw [flat, placed]
      rfl
    rw [nested, flattened, actAt, entered, actAt_append_left _ ctx filled]
    have size : (actAt Behaves.enter ctx 0 s.inner.children).1.length = s.inner.children.length :=
      length_actAt ctx 0 s.inner.children
    refine ⟨⟨{ s with
      active := true
      begun := false
      inner := ⟨(actAt Behaves.enter ctx 0 s.inner.children).1, 0, true⟩
      started := true }, ?_, ?_, ?_⟩, rfl⟩
    · refine .of_started rfl (fun _ => rfl) (fun _ => ?_) ?_
      · exact size.symm ▸ filled
      · rw [placed]
        exact List.ne_nil_of_length_pos (size.symm ▸ filled)
    · rw [outer, first, placed]
      rfl
    · simp [flat, first, inside, placed, Sequence.resume]

theorem onActivate_agree (orderly : (s.outer e).Orderly strict false) :
    Agree e ((s.outer e).onActivate ctx) (s.flat.onActivate ctx) := by
  cases started : s.started with
  | true =>
    have nested : (s.outer e).started = true := started
    have flattened : s.flat.started = true := started
    rw [Sequence.onActivate, Sequence.onActivate, if_pos nested, if_pos flattened]
    exact act_agree sound ctx respects.activate (activate_shell ctx sound orderly started)
  | false =>
    have nested : ¬ (s.outer e).started = true := by simp [outer, started]
    have flattened : ¬ s.flat.started = true := by simp [flat, started]
    rw [Sequence.onActivate, Sequence.onActivate, if_neg nested, if_neg flattened]
    exact start_agree sound respects ctx started orderly

theorem onDeactivate_agree {active : Bool} (orderly : (s.outer e).Orderly strict active) :
    Agree e ((s.outer e).onDeactivate ctx) (s.flat.onDeactivate ctx) :=
  act_agree sound ctx respects.deactivate fun _ => deactivate_shell ctx orderly

theorem onReset_agree {active : Bool} (orderly : (s.outer e).Orderly strict active) :
    Agree e ((s.outer e).onReset ctx) (s.flat.onReset ctx) := by
  cases started : s.started with
  | true =>
    have nested : (s.outer e).started = true := started
    have flattened : s.flat.started = true := started
    rw [Sequence.onReset, Sequence.onReset, if_pos nested, if_pos flattened]
    exact (onDeactivate_agree sound respects ctx orderly).rewound
  | false =>
    have nested : ¬ (s.outer e).started = true := by simp [outer, started]
    have flattened : ¬ s.flat.started = true := by simp [flat, started]
    rw [Sequence.onReset, Sequence.onReset, if_neg nested, if_neg flattened]
    exact (sound.agree ctx).rewound

omit sound respects [Behaves.Reserved β] in
/-- A trigger for the inner sequence is one for its child. -/
theorem heed_shell [Sensing β] [Behaves.Alert β] (tag : String)
    (orderly : (s.outer e).Orderly strict true) :
    let ran := actAt (Behaves.heed tag) ctx (s.inner.resume s.inside) s.inner.children
    Behaves.heed tag ctx (Node.ofSequence s.active s.begun s.inner) =
      (Node.ofSequence s.active s.begun { s.inner with children := ran.1 }, ran.2) := by
  have status := active_eq orderly
  cases awake : s.active with
  | true =>
    have inside : s.inside = true := by simpa [awake] using status.symm
    rw [inside]
    exact congrArg (fun l => (Node.ofSequence true s.begun { s.inner with children := l.1 }, l.2))
      (actAt_eq_modify (Behaves.onTrigger tag) ctx s.inner.index s.inner.children).symm
  | false =>
    have still : actAt (Behaves.heed tag) ctx (s.inner.resume s.inside) s.inner.children =
        (s.inner.children, ctx) := by
      refine actAt_of_fixed (fun c member => ?_) _
      rw [Behaves.heed, Behaves.Alert.onTrigger_of_resting tag (resting orderly awake c member)]
    rw [still]
    rfl

omit [Behaves.Reserved β] in
theorem onTrigger_agree [Sensing β] [Behaves.Alert β] (tag : String)
    (orderly : (s.outer e).Orderly strict true) :
    Agree e ((s.outer e).onTrigger tag, ctx) (s.flat.onTrigger tag, ctx) := by
  have same (ctx : Context) (b : β) :
      Behaves.heed tag ctx (e b) = (e (Behaves.heed tag ctx b).1, (Behaves.heed tag ctx b).2) :=
    congrArg (·, ctx) (respects.onTrigger tag b)
  obtain ⟨made, -⟩ := act_agree sound ctx same fun _ => heed_shell ctx tag orderly
  have heard {γ : Type} [Behaves γ] (s : Sequence γ) :
      s.onTrigger tag = { s with children := (actAt (Behaves.heed tag) ctx s.index s.children).1 } :=
    congrArg (fun l => { s with children := l.1 })
      (actAt_eq_modify (Behaves.onTrigger tag) ctx s.index s.children).symm
  refine ⟨?_, rfl⟩
  rw [heard, heard]
  exact made

end Calls

end Nest

end SkillScript
