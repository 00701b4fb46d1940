import SkillScript.Proofs.Nesting.Flat
/-!
# Updates of flat sequences

An update of a sequence goes from the rest of the children before the inner sequence to
what is left of the inner one, and on to the children behind it. The flat sequence is
updated like that from its place on, and the two are found at one place again when the
update stops: before the inner sequence, in it, or behind it.
-/
set_option autoImplicit false
namespace SkillScript
namespace Nest

variable {β : Type} [Behaves β] [Ordered β] {e : β → Node β} {strict : Bool} {s : Nest β}

section Late

variable {m : Nat} (late : s.index = s.before.length + (m + 1))

include late

omit [Behaves β] [Ordered β] in
theorem drop_outer_late : (s.outer e).children.drop s.index = (s.after.drop m).map e := by
  have place : s.index = (s.before.map e).length + (m + 1) := by rw [late, List.length_map]
  rw [place, outer, List.drop_length_add_append, List.drop_succ_cons, List.map_drop]

omit [Behaves β] [Ordered β] in
theorem take_outer_late : (s.outer e).children.take s.index =
    s.before.map e ++ Node.ofSequence s.active s.begun s.inner :: (s.after.take m).map e := by
  have place : s.index = (s.before.map e).length + (m + 1) := by rw [late, List.length_map]
  rw [place, outer, List.take_length_add_append, List.take_succ_cons, List.map_take]

omit [Behaves β] [Ordered β] in
theorem drop_flat_late : s.flat.children.drop s.flat.index = s.after.drop m := by
  rw [index_flat_of_gt late, flat, List.drop_length_add_append, List.drop_length_add_append]

omit [Behaves β] [Ordered β] in
theorem take_flat_late : s.flat.children.take s.flat.index =
    s.before ++ (s.inner.children ++ s.after.take m) := by
  rw [index_flat_of_gt late, flat, List.take_length_add_append, List.take_length_add_append]

omit [Ordered β] in
/-- Behind the inner sequence both sequences run the same children. -/
theorem onUpdate_late (sound : s.Sound) (respects : Behaves.Respects e) (step : Float32)
    (ctx : Context) :
    ((s.outer e).onUpdate step ctx).1 = (s.flat.onUpdate step ctx).1 ∧
      Agree e ((s.outer e).onUpdate step ctx).2 (s.flat.onUpdate step ctx).2 := by
  have nested : Sequence.run s.started step ctx ((s.outer e).children.drop s.index) = _ :=
    (congrArg _ (drop_outer_late late)).trans (Sequence.run_map respects ctx s.started step _)
  have flattened : Sequence.run s.started step ctx (s.flat.children.drop s.flat.index) = _ :=
    congrArg _ (drop_flat_late late)
  rw [Sequence.onUpdate_of_run nested, Sequence.onUpdate_of_run flattened, take_flat_late late,
    show (s.outer e).index = s.index from rfl, take_outer_late late]
  let ran := Sequence.run s.started step ctx (s.after.drop m)
  let s' : Nest β := { s with
    after := s.after.take m ++ ran.2.2.1
    index := s.index + ran.2.1
    started := true }
  have late' : s'.index = s'.before.length + (m + ran.2.1 + 1) := by
    show s.index + ran.2.1 = s.before.length + _
    omega
  have outside : s'.inside = false := by
    simp [inside, late']
  refine ⟨rfl, ⟨s', .of_outside rfl outside sound.filled, ?_, flat_eq ?_ ?_ rfl⟩, rfl⟩
  · simp [outer, s', ran]
  · simp [s', ran]
  · rw [index_flat_of_gt late', index_flat_of_gt late]
    show s.before.length + (s.inner.children.length + (m + ran.2.1)) = _ + ran.2.1
    omega

end Late

section Places

omit [Behaves β] [Ordered β]

variable (early : s.index ≤ s.before.length) (sound : s.Sound)

include early

theorem drop_outer : (s.outer e).children.drop s.index =
    (s.before.drop s.index).map e ++
      Node.ofSequence s.active s.begun s.inner :: s.after.map e := by
  rw [outer, List.drop_append_of_le_length (by simpa using early), List.map_drop]

theorem take_outer : (s.outer e).children.take s.index = (s.before.take s.index).map e := by
  rw [outer, List.take_append_of_le_length (by simpa using early), List.map_take]

theorem inside_eq : (s.started && (s.before.drop s.index).isEmpty) = s.inside := by
  have reached : (s.before.drop s.index).isEmpty = (s.index == s.before.length) := by
    rw [Bool.eq_iff_iff, List.isEmpty_iff, List.drop_eq_nil_iff, beq_iff_eq]
    omega
  rw [reached, inside]

include sound

/-- The flat sequence is as far as the two sequences together. -/
theorem place_flat :
    s.before.drop s.flat.index = s.before.drop s.index ∧
      s.before.take s.flat.index = s.before.take s.index ∧
      s.flat.index - s.before.length = s.inner.resume s.inside ∧
      s.inner.resume s.inside ≤ s.inner.children.length := by
  rw [index_flat_of_le early]
  rcases early.lt_or_eq with away | here
  · rw [resume_of_lt away, Nat.add_zero]
    exact ⟨rfl, rfl, by omega, Nat.zero_le _⟩
  · have size := sound.resume_lt here
    refine ⟨?_, ?_, by omega, size.le⟩
    · rw [List.drop_of_length_le here.ge, List.drop_of_length_le (by omega)]
    · rw [List.take_of_length_le here.ge, List.take_of_length_le (by omega)]

theorem drop_flat : s.flat.children.drop s.flat.index =
    s.before.drop s.index ++ (s.inner.children.drop (s.inner.resume s.inside) ++ s.after) := by
  obtain ⟨dropped, -, rest, within⟩ := place_flat early sound
  have children : s.flat.children = s.before ++ (s.inner.children ++ s.after) := rfl
  rw [children, List.drop_append, dropped, rest, List.drop_append_of_le_length within]

theorem take_flat : s.flat.children.take s.flat.index =
    s.before.take s.index ++ s.inner.children.take (s.inner.resume s.inside) := by
  obtain ⟨-, taken, rest, within⟩ := place_flat early sound
  have children : s.flat.children = s.before ++ (s.inner.children ++ s.after) := rfl
  rw [children, List.take_append, taken, rest, List.take_append_of_le_length within]

omit early in
/-- The inner sequence still has something to run when it has its turn. -/
theorem running_eq :
    (s.inside && (s.inner.children.drop (s.inner.resume s.inside)).isEmpty) = false := by
  cases inside : s.inside with
  | false => rfl
  | true =>
    have within := sound.within inside
    rw [Bool.true_and, List.isEmpty_eq_false_iff, Ne, List.drop_eq_nil_iff]
    exact Nat.not_le.mpr within

end Places

omit [Behaves β] [Ordered β] in
/-- The inner sequence is either still at its start, or no child is left before it. -/
theorem take_swap (early : s.index ≤ s.before.length) {l : List β}
    (size : l.length = (s.before.drop s.index).length) (l' : List β) :
    s.inner.children.take (s.inner.resume s.inside) ++ (l ++ l') =
      l ++ (s.inner.children.take (s.inner.resume s.inside) ++ l') := by
  rw [List.length_drop] at size
  rcases early.lt_or_eq with away | here
  · rw [resume_of_lt away]
    rfl
  · have none : l = [] := List.length_eq_zero_iff.mp (by omega)
    rw [none]
    rfl

theorem length_take_append {α : Type} {l l' : List α} {k : Nat} (within : k ≤ l.length)
    (size : l'.length = (l.drop k).length) : (l.take k ++ l').length = l.length := by
  rw [List.length_drop] at size
  rw [List.length_append, List.length_take]
  omega

/-- How far an update gets: it stops before the inner sequence, in it, or behind it. -/
inductive Reach (e : β → Node β) (s : Nest β) :
    Float32 × Nat × List (Node β) × Context → Float32 × Nat × List β × Context → Prop where
  | before {l : List β} {through : Nat} {ctx : Context}
      (size : l.length = (s.before.drop s.index).length)
      (short : through < (s.before.drop s.index).length) :
      Reach e s
        (0, through, l.map e ++ Node.ofSequence s.active s.begun s.inner :: s.after.map e, ctx)
        (0, through, l ++ (s.inner.children.drop (s.inner.resume s.inside) ++ s.after), ctx)
  | inside {l l' : List β} {through : Nat} {ctx : Context}
      (size : l.length = (s.before.drop s.index).length)
      (size' : l'.length = (s.inner.children.drop (s.inner.resume s.inside)).length)
      (short : through < (s.inner.children.drop (s.inner.resume s.inside)).length) :
      Reach e s
        (0, (s.before.drop s.index).length,
          l.map e ++ Node.ofSequence true true
            ⟨s.inner.children.take (s.inner.resume s.inside) ++ l',
              s.inner.resume s.inside + through, true⟩ :: s.after.map e, ctx)
        (0, (s.before.drop s.index).length + through, l ++ (l' ++ s.after), ctx)
  | behind {l l' l'' : List β} {left : Float32} {through : Nat} {ctx : Context}
      (size : l.length = (s.before.drop s.index).length)
      (size' : l'.length = (s.inner.children.drop (s.inner.resume s.inside)).length) :
      Reach e s
        (left, (s.before.drop s.index).length + (through + 1),
          l.map e ++ Node.ofSequence false true
            ⟨s.inner.children.take (s.inner.resume s.inside) ++ l', s.inner.children.length, true⟩ ::
              l''.map e, ctx)
        (left, (s.before.drop s.index).length +
          ((s.inner.children.drop (s.inner.resume s.inside)).length + through),
          l ++ (l' ++ l''), ctx)

section Updates

variable [Lasting β] [Holding β] [Behaves.Forward β] [Behaves.Reserved β]
  {step : Float32} (sound : s.Sound) (respects : Behaves.Respects e) (ctx : Context)
  (forward : ¬ step < 0) (hooks : ∀ c ∈ s.before, ∀ h ∈ Holding.hooks c, h.Forward)
  (orderly : (s.outer e).Orderly strict true) (early : s.index ≤ s.before.length)

include sound respects forward hooks orderly early

theorem reach_run :
    Reach e s (Sequence.run s.started step ctx ((s.outer e).children.drop s.index))
      (Sequence.run s.started step ctx (s.flat.children.drop s.flat.index)) := by
  have due := due sound orderly
  have later : ¬ (Sequence.run s.started step ctx (s.before.drop s.index)).1 < 0 :=
    Sequence.not_run_lt s.started ctx (fun c member => hooks c (List.mem_of_mem_drop member)) forward
  have size := Sequence.length_run s.started step ctx (s.before.drop s.index)
  have bound := Sequence.through_run_le s.started step ctx (s.before.drop s.index)
  rw [drop_outer early, drop_flat early sound, Sequence.run_append, Sequence.run_append,
    Sequence.run_map respects, List.isEmpty_map, List.length_map, inside_eq early]
  dsimp only
  generalize Sequence.run s.started step ctx (s.before.drop s.index) = first at later size bound ⊢
  obtain ⟨step, through, l, ctx⟩ := first
  dsimp only at later size bound ⊢
  by_cases all : through = (s.before.drop s.index).length
  · have size' := Sequence.length_run s.inside step ctx
      (s.inner.children.drop (s.inner.resume s.inside))
    have bound' := Sequence.through_run_le s.inside step ctx
      (s.inner.children.drop (s.inner.resume s.inside))
    rw [if_pos all, if_pos all, due.run_ofSequence later, Sequence.run_append,
      running_eq sound]
    simp only [Sequence.turned, Sequence.passed, Sequence.run_map respects]
    generalize Sequence.run s.inside step ctx
      (s.inner.children.drop (s.inner.resume s.inside)) = second at size' bound' ⊢
    obtain ⟨step, through', l', ctx⟩ := second
    dsimp only at size' bound' ⊢
    by_cases all' : through' = (s.inner.children.drop (s.inner.resume s.inside)).length
    · rw [if_pos all', if_pos all']
      exact .behind size size'
    · rw [if_neg all', if_neg all']
      exact .inside size size' (by omega)
  · rw [if_neg all, if_neg all]
    exact .before size (by omega)

omit respects forward hooks orderly ctx [Behaves β] [Ordered β] [Lasting β] [Holding β] [Behaves.Forward β] [Behaves.Reserved β] in
theorem Reach.agree {p : Float32 × Nat × List (Node β) × Context}
    {q : Float32 × Nat × List β × Context} (reach : Reach e s p q) :
    p.1 = q.1 ∧
      Agree e (⟨(s.before.take s.index).map e ++ p.2.2.1, s.index + p.2.1, true⟩, p.2.2.2)
        (⟨s.before.take s.index ++ s.inner.children.take (s.inner.resume s.inside) ++ q.2.2.1,
          s.flat.index + q.2.1, true⟩, q.2.2.2) := by
  obtain ⟨-, -, -, within⟩ := place_flat early sound
  have place := index_flat_of_le early
  cases reach with
  | @before l through ctx size short =>
    have total := length_take_append early size
    rw [List.length_drop] at size short
    have away : s.index < s.before.length := by omega
    -- It goes on before the inner sequence.
    let s' : Nest β := { s with
      before := s.before.take s.index ++ l
      index := s.index + through
      started := true }
    have early' : s'.index < s'.before.length := by
      show s.index + through < (s.before.take s.index ++ l).length
      omega
    have outside : s'.inside = false := by
      simp [Nest.inside, early'.ne]
    refine ⟨rfl, ⟨s', .of_outside rfl outside (sound.filled_of_length total rfl), ?_,
      flat_eq ?_ ?_ rfl⟩, rfl⟩
    · simp [outer, s']
    · rw [resume_of_lt away]
      simp [s']
    · rw [index_flat_of_le early'.le, resume_of_lt early', place, resume_of_lt away]
      rfl
  | @inside l l' through ctx size size' short =>
    have swap := take_swap early size
    have total := length_take_append early size
    have total' := length_take_append within size'
    rw [List.length_drop] at size size' short
    -- It goes on in the inner sequence.
    let s' : Nest β := { s with
      before := s.before.take s.index ++ l
      active := true
      begun := true
      inner := ⟨s.inner.children.take (s.inner.resume s.inside) ++ l',
        s.inner.resume s.inside + through, true⟩
      index := s.index + (s.before.drop s.index).length
      started := true }
    have here : s'.index = s'.before.length := by
      show s.index + (s.before.drop s.index).length = (s.before.take s.index ++ l).length
      rw [List.length_drop]
      omega
    have inside : s'.inside = true :=
      (Bool.true_and _).trans (beq_iff_eq.mpr here)
    refine ⟨rfl, ⟨s', ?_, ?_, flat_eq ?_ ?_ rfl⟩, rfl⟩
    · refine .of_started rfl (fun _ => rfl) (fun _ => ?_) (sound.filled_of_length total total')
      show s.inner.resume s.inside + through <
        (s.inner.children.take (s.inner.resume s.inside) ++ l').length
      omega
    · simp [outer, s']
    · simp [s', swap]
    · rw [index_flat_of_le here.le, inside, place]
      show s.index + (s.before.drop s.index).length + (s.inner.resume s.inside + through) =
        s.index + s.inner.resume s.inside + ((s.before.drop s.index).length + through)
      omega
  | @behind l l' l'' left through ctx size size' =>
    have swap := take_swap early size
    have total := length_take_append early size
    have total' := length_take_append within size'
    rw [List.length_drop] at size size'
    -- It goes on behind the inner sequence.
    let s' : Nest β :=
      { before := s.before.take s.index ++ l
        active := false
        begun := true
        inner := ⟨s.inner.children.take (s.inner.resume s.inside) ++ l',
          s.inner.children.length, true⟩
        after := l''
        index := s.index + ((s.before.drop s.index).length + (through + 1))
        started := true }
    have late : s'.index = s'.before.length + (through + 1) := by
      show s.index + ((s.before.drop s.index).length + (through + 1)) =
        (s.before.take s.index ++ l).length + (through + 1)
      rw [List.length_drop]
      omega
    have outside : s'.inside = false := by
      simp [Nest.inside, late]
    refine ⟨rfl, ⟨s', .of_outside rfl outside (sound.filled_of_length total total'), ?_,
      flat_eq ?_ ?_ rfl⟩, rfl⟩
    · simp [outer, s']
    · simp [s', swap]
    · rw [index_flat_of_gt late, place]
      show (s.before.take s.index ++ l).length +
        ((s.inner.children.take (s.inner.resume s.inside) ++ l').length + through) =
        s.index + s.inner.resume s.inside + ((s.before.drop s.index).length +
          ((s.inner.children.drop (s.inner.resume s.inside)).length + through))
      rw [List.length_drop, List.length_drop]
      omega

theorem onUpdate_early :
    ((s.outer e).onUpdate step ctx).1 = (s.flat.onUpdate step ctx).1 ∧
      Agree e ((s.outer e).onUpdate step ctx).2 (s.flat.onUpdate step ctx).2 := by
  have reach := reach_run sound respects ctx forward hooks orderly early
  have agree := reach.agree sound early
  rw [← take_outer early, ← take_flat early sound] at agree
  exact agree

omit early

theorem onUpdate_agree :
    ((s.outer e).onUpdate step ctx).1 = (s.flat.onUpdate step ctx).1 ∧
      Agree e ((s.outer e).onUpdate step ctx).2 (s.flat.onUpdate step ctx).2 := by
  by_cases early : s.index ≤ s.before.length
  · exact onUpdate_early sound respects ctx forward hooks orderly early
  · have late : s.index = s.before.length + (s.index - s.before.length - 1 + 1) := by omega
    exact onUpdate_late late sound respects step ctx

theorem traceRun_agree [Tracing β] (retraces : Retraces e) :
    Sequence.traceRun s.started step ctx ((s.outer e).children.drop s.index) =
      Sequence.traceRun s.started step ctx (s.flat.children.drop s.flat.index) := by
  by_cases early : s.index ≤ s.before.length
  · have due := due sound orderly
    have later : ¬ (Sequence.run s.started step ctx (s.before.drop s.index)).1 < 0 :=
      Sequence.not_run_lt s.started ctx (fun c member => hooks c (List.mem_of_mem_drop member))
        forward
    rw [drop_outer early, drop_flat early sound, Sequence.traceRun_append,
      Sequence.traceRun_append, Sequence.traceRun_map respects retraces,
      Sequence.run_map respects, List.isEmpty_map, List.length_map, inside_eq early]
    dsimp only
    rw [due.traceRun_ofSequence later, Sequence.traceRun_append, running_eq sound]
    dsimp only
    rw [Sequence.traceRun_map respects retraces]
  · have late : s.index = s.before.length + (s.index - s.before.length - 1 + 1) := by omega
    rw [drop_outer_late late, drop_flat_late late, Sequence.traceRun_map respects retraces]

end Updates

end Nest

end SkillScript
