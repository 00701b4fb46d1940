import SkillScript.Proofs.Number.Quanta
import SkillScript.Proofs.Tree.Pristine
/-!
# The schedule of a tree of waits

A plain tree is made of waits with a literal duration, of deeds done at once, of
sequences and of parallels. What it does takes a length of time that can be read off:
a sequence takes the sum of what its children take, a parallel the longest. So every
wait in the tree has its span of time from the moment the tree is entered, and these
spans tell which differences of times the timers form. Lengths and spans are counted in
the quanta of singles; a wait may be without end.
-/
set_option autoImplicit false
namespace SkillScript

open Number

/-- The time that a wait runs for, in a tree that is entered at a known time. -/
structure Span where
  start : ℕ∞
  duration : ℕ∞

def Span.finish (s : Span) : ℕ∞ :=
  s.start + s.duration

def Settings.Tells (σ : Settings) (n : ℕ∞) : Prop :=
  ∀ x, quanta? x = some n → σ.isZero x = false

/-- The timers of some spans are exact in a step from one time to another: what a wait that goes on
has left after the step is a single that is told from zero, and what a wait that ends within the
step leaves over of it is a single as well. -/
structure Exact (σ : Settings) (spans : List Span) (a b : ℕ∞) : Prop where
  remaining : ∀ s ∈ spans, s.start ≤ b → b < s.finish →
    IsSingle (s.finish - b) ∧ σ.Tells (s.finish - b)
  surplus : ∀ s ∈ spans, a ≤ s.finish → s.finish ≤ b → IsSingle (b - s.finish)

namespace Exact

variable {σ : Settings} {spans spans' : List Span} {a a' b : ℕ∞}

theorem mono (exact : Exact σ spans a b) (fewer : spans' ⊆ spans) (later : a ≤ a') :
    Exact σ spans' a' b where
  remaining s member := exact.remaining s (fewer member)
  surplus s member since := exact.surplus s (fewer member) (later.trans since)

end Exact

/-- How long a tree has run since it was entered, if it was updated at all. -/
inductive Phase where
  | entered
  | after (elapsed : Nat)

namespace Phase

def elapsed : Phase → Nat
  | entered => 0
  | after e => e

def Going (length : ℕ∞) : Phase → Prop
  | entered => True
  | after e => e < length

theorem Going.elapsed_le {length : ℕ∞} {p : Phase} (going : p.Going length) :
    (p.elapsed : ℕ∞) ≤ length := by
  cases p with
  | entered => exact zero_le
  | after e => exact le_of_lt going

end Phase

class Timed (β : Type) [Behaves β] [Lasting β] where
  Plain : β → Prop
  length : β → ℕ∞
  /-- The spans of the waits in a tree that is entered at the given time. -/
  spans : ℕ∞ → β → List Span
  /-- The tree is where its schedule says. -/
  At : Phase → β → Prop
  plain_pristine (b : β) : Plain (pristine b) ↔ Plain b
  length_pristine (b : β) : length (pristine b) = length b
  spans_pristine (start : ℕ∞) (b : β) : spans start (pristine b) = spans start b

instance : Timed Empty where
  Plain b := nomatch b
  length b := nomatch b
  spans _ b := nomatch b
  At _ b := nomatch b
  plain_pristine b := nomatch b
  length_pristine b := nomatch b
  spans_pristine _ b := nomatch b

namespace Timed

variable {β : Type} [Behaves β] [Lasting β] [Timed β] {b b' : β}

theorem Plain.congr (same : pristine b' = pristine b) (plain : Plain b) : Plain b' := by
  rw [← plain_pristine, same]
  exact (plain_pristine b).mpr plain

theorem length_congr (same : pristine b' = pristine b) : length b' = length b := by
  rw [← length_pristine, same, length_pristine]

theorem spans_congr (same : pristine b' = pristine b) (start : ℕ∞) :
    spans start b' = spans start b := by
  rw [← spans_pristine, same, spans_pristine]

end Timed

/-! ## Tasks -/

def WaitConfig.length (c : WaitConfig) : ℕ∞ :=
  (quanta? c.duration.default).getD 0

namespace Task

def Plain : Task → Prop
  | wait c _ => c.duration.variableName = none ∧ 0 ≤ c.duration.default
  | deed _ => True
  | _ => False

def length : Task → ℕ∞
  | wait c _ => c.length
  | _ => 0

def spans (start : ℕ∞) : Task → List Span
  | wait c _ => [⟨start, c.length⟩]
  | _ => []

def At : Phase → Task → Prop
  | .after e, wait c timer =>
    (timer.done = true ↔ c.length ≤ e) ∧
      (e < c.length → quanta? timer.remaining = some (c.length - e))
  | _, _ => True

theorem plain_pristine (t : Task) : t.pristine.Plain ↔ t.Plain := by
  cases t <;> rfl

theorem length_pristine (t : Task) : t.pristine.length = t.length := by
  cases t <;> rfl

theorem spans_pristine (start : ℕ∞) (t : Task) : t.pristine.spans start = t.spans start := by
  cases t <;> rfl

end Task

/-! ## Sequences and parallels -/

variable {β : Type} [Behaves β] [Lasting β] [Timed β]

namespace Sequence

def total (l : List β) : ℕ∞ :=
  (l.map Timed.length).sum

def spans (start : ℕ∞) : List β → List Span
  | [] => []
  | c :: rest => Timed.spans start c ++ spans (start + Timed.length c) rest

/-- After some time the children before an index are through, and the one there goes on. -/
def Reached : Nat → Nat → List β → Prop
  | _, 0, [] => True
  | e, 0, c :: _ => e < Timed.length c ∧ Timed.At (.after e) c
  | _, _ + 1, [] => False
  | e, i + 1, c :: rest => ∃ n : Nat, Timed.length c = n ∧ n ≤ e ∧ Reached (e - n) i rest

def At : Phase → Sequence β → Prop
  | .entered, s => s.index = 0 ∧ (s.started = true → ∀ c ∈ s.children.head?, Timed.At .entered c)
  | .after e, s => s.started = true ∧ Reached e s.index s.children

theorem total_cons (c : β) (rest : List β) : total (c :: rest) = Timed.length c + total rest := by
  simp [total]

theorem total_pristine (l : List β) : total (l.map Lasting.pristine) = total l := by
  simp [total, Timed.length_pristine, Function.comp_def]

theorem spans_pristine (start : ℕ∞) (l : List β) :
    spans start (l.map Lasting.pristine) = spans start l := by
  induction l generalizing start with
  | nil => rfl
  | cons c rest ih =>
    simp only [List.map_cons, spans, Timed.spans_pristine, Timed.length_pristine, ih]

end Sequence

def Lane.At : Phase → Lane β → Prop
  | .entered, l => l.finished = false ∧ Timed.At .entered l.child
  | .after e, l =>
    (l.finished = true ↔ Timed.length l.child ≤ e) ∧
      (l.finished = false → Timed.At (.after e) l.child)

namespace Parallel

noncomputable def longest (l : List (Lane β)) : ℕ∞ :=
  (l.map fun lane => Timed.length lane.child).foldr max 0

def spans (start : ℕ∞) (l : List (Lane β)) : List Span :=
  l.flatMap fun lane => Timed.spans start lane.child

def At : Phase → Parallel β → Prop
  | .entered, p => p.started = true → ∀ l ∈ p.lanes, l.At .entered
  | .after e, p => p.started = true ∧ ∀ l ∈ p.lanes, l.At (.after e)

theorem longest_pristine (l : List (Lane β)) : longest (l.map Lane.pristine) = longest l := by
  simp [longest, Lane.pristine, Timed.length_pristine, Function.comp_def]

theorem spans_pristine (start : ℕ∞) (l : List (Lane β)) :
    spans start (l.map Lane.pristine) = spans start l := by
  simp [spans, Lane.pristine, Timed.spans_pristine, List.flatMap_map]

theorem longest_le_iff (l : List (Lane β)) (n : ℕ∞) :
    longest l ≤ n ↔ ∀ lane ∈ l, Timed.length lane.child ≤ n := by
  induction l with
  | nil => simp [longest]
  | cons lane rest ih =>
    rw [List.forall_mem_cons, ← ih]
    exact max_le_iff

end Parallel

/-! ## Nodes -/

namespace Logic

def Plain : Logic β → Prop
  | task t => t.Plain
  | sequence s => ∀ c ∈ s.children, Timed.Plain c
  | parallel p => ∀ l ∈ p.lanes, Timed.Plain l.child
  | machine _ => False

noncomputable def length : Logic β → ℕ∞
  | task t => t.length
  | sequence s => Sequence.total s.children
  | parallel p => Parallel.longest p.lanes
  | machine _ => 0

def spans (start : ℕ∞) : Logic β → List Span
  | task t => t.spans start
  | sequence s => Sequence.spans start s.children
  | parallel p => Parallel.spans start p.lanes
  | machine _ => []

def At (phase : Phase) : Logic β → Prop
  | task t => t.At phase
  | sequence s => s.At phase
  | parallel p => p.At phase
  | machine _ => False

theorem plain_pristine (l : Logic β) : l.pristine.Plain ↔ l.Plain := by
  cases l with
  | task t => exact t.plain_pristine
  | sequence s => simp [pristine, Plain, Sequence.pristine, Timed.plain_pristine]
  | parallel p => simp [pristine, Plain, Parallel.pristine, Lane.pristine, Timed.plain_pristine]
  | machine m => rfl

theorem length_pristine (l : Logic β) : l.pristine.length = l.length := by
  cases l with
  | task t => exact t.length_pristine
  | sequence s => exact Sequence.total_pristine s.children
  | parallel p => exact Parallel.longest_pristine p.lanes
  | machine m => rfl

theorem spans_pristine (start : ℕ∞) (l : Logic β) : l.pristine.spans start = l.spans start := by
  cases l with
  | task t => exact t.spans_pristine start
  | sequence s => exact Sequence.spans_pristine start s.children
  | parallel p => exact Parallel.spans_pristine start p.lanes
  | machine m => rfl

variable {l l' : Logic β}

theorem Plain.congr (same : l'.pristine = l.pristine) (plain : l.Plain) : l'.Plain := by
  rw [← plain_pristine, same]
  exact l.plain_pristine.mpr plain

theorem length_congr (same : l'.pristine = l.pristine) : l'.length = l.length := by
  rw [← length_pristine, same, length_pristine]

theorem spans_congr (same : l'.pristine = l.pristine) (start : ℕ∞) :
    l'.spans start = l.spans start := by
  rw [← spans_pristine, same, spans_pristine]

end Logic

noncomputable instance Node.timed : Timed (Node β) where
  Plain n := n.logic.Plain
  length n := n.logic.length
  spans start n := n.logic.spans start
  At phase n :=
    n.active = true ∧ (n.begun = false ↔ phase = .entered) ∧ n.logic.At phase
  plain_pristine n := n.logic.plain_pristine
  length_pristine n := n.logic.length_pristine
  spans_pristine start n := n.logic.spans_pristine start

noncomputable instance Behavior.timed : (height : Nat) → Timed (Behavior height)
  | 0 => inferInstanceAs (Timed Empty)
  | height + 1 =>
    let _ := timed height
    inferInstanceAs (Timed (Node (Behavior height)))

/-! ## What schedules are like -/

/-- Trees whose spans follow from the durations of their waits and lie within their length. -/
class Scheduled (β : Type) [Behaves β] [Lasting β] [Timed β] : Prop where
  finish_le {start : ℕ∞} {b : β} {s : Span} (member : s ∈ Timed.spans start b) :
    s.finish ≤ start + Timed.length b
  isWhole_length {start : ℕ∞} {b : β} (whole : ∀ s ∈ Timed.spans start b, IsWhole s.duration) :
    IsWhole (Timed.length b)
  isWhole_start {start : ℕ∞} {b : β} (whole : ∀ s ∈ Timed.spans start b, IsWhole s.duration)
    (since : IsWhole start) : ∀ s ∈ Timed.spans start b, IsWhole s.start

instance : Scheduled Empty where
  finish_le {_ b} := nomatch b
  isWhole_length {_ b} := nomatch b
  isWhole_start {_ b} := nomatch b

variable [Scheduled β]

namespace Sequence

theorem finish_le {start : ℕ∞} {l : List β} {s : Span} (member : s ∈ spans start l) :
    s.finish ≤ start + total l := by
  induction l generalizing start with
  | nil => exact absurd member List.not_mem_nil
  | cons c rest ih =>
    rw [total_cons, ← add_assoc]
    rcases List.mem_append.mp member with member | member
    · exact (Scheduled.finish_le member).trans le_self_add
    · exact ih member

theorem isWhole_total {start : ℕ∞} {l : List β}
    (whole : ∀ s ∈ spans start l, IsWhole s.duration) : IsWhole (total l) := by
  induction l generalizing start with
  | nil => exact IsWhole.zero
  | cons c rest ih =>
    obtain ⟨head, tail⟩ := List.forall_mem_append.mp whole
    rw [total_cons]
    exact (Scheduled.isWhole_length head).add (ih tail)

theorem isWhole_start {start : ℕ∞} {l : List β}
    (whole : ∀ s ∈ spans start l, IsWhole s.duration) (since : IsWhole start) :
    ∀ s ∈ spans start l, IsWhole s.start := by
  induction l generalizing start with
  | nil => exact fun s member => absurd member List.not_mem_nil
  | cons c rest ih =>
    obtain ⟨head, tail⟩ := List.forall_mem_append.mp whole
    have later := since.add (Scheduled.isWhole_length head)
    exact List.forall_mem_append.mpr ⟨Scheduled.isWhole_start head since, ih tail later⟩

end Sequence

namespace Parallel

theorem finish_le {start : ℕ∞} {l : List (Lane β)} {s : Span} (member : s ∈ spans start l) :
    s.finish ≤ start + longest l := by
  obtain ⟨lane, inside, member⟩ := List.mem_flatMap.mp member
  have shorter := (longest_le_iff l _).mp le_rfl lane inside
  exact (Scheduled.finish_le member).trans (add_le_add_right shorter start)

theorem isWhole_longest {start : ℕ∞} {l : List (Lane β)}
    (whole : ∀ s ∈ spans start l, IsWhole s.duration) : IsWhole (longest l) := by
  induction l with
  | nil => exact IsWhole.zero
  | cons lane rest ih =>
    obtain ⟨head, tail⟩ := List.forall_mem_append.mp whole
    have first := Scheduled.isWhole_length head
    have others := ih tail
    show IsWhole (max (Timed.length lane.child) (longest rest))
    rcases max_choice (Timed.length lane.child) (longest rest) with same | same
    · rwa [same]
    · rwa [same]

theorem isWhole_start {start : ℕ∞} {l : List (Lane β)}
    (whole : ∀ s ∈ spans start l, IsWhole s.duration) (since : IsWhole start) :
    ∀ s ∈ spans start l, IsWhole s.start := by
  intro s member
  obtain ⟨lane, inside, here⟩ := List.mem_flatMap.mp member
  exact Scheduled.isWhole_start
    (fun s' also => whole s' (List.mem_flatMap.mpr ⟨lane, inside, also⟩)) since s here

end Parallel

namespace Logic

theorem finish_le {start : ℕ∞} {l : Logic β} {s : Span} (member : s ∈ l.spans start) :
    s.finish ≤ start + l.length := by
  cases l with
  | task t =>
    cases t with
    | wait c timer =>
      obtain rfl := List.mem_singleton.mp member
      exact le_rfl
    | _ => exact absurd member List.not_mem_nil
  | sequence q => exact Sequence.finish_le member
  | parallel q => exact Parallel.finish_le member
  | machine m => exact absurd member List.not_mem_nil

theorem isWhole_length {start : ℕ∞} {l : Logic β}
    (whole : ∀ s ∈ l.spans start, IsWhole s.duration) : IsWhole l.length := by
  cases l with
  | task t =>
    cases t with
    | wait c timer => exact whole _ (List.mem_singleton_self _)
    | _ => exact IsWhole.zero
  | sequence q => exact Sequence.isWhole_total whole
  | parallel q => exact Parallel.isWhole_longest whole
  | machine m => exact IsWhole.zero

theorem isWhole_start {start : ℕ∞} {l : Logic β}
    (whole : ∀ s ∈ l.spans start, IsWhole s.duration) (since : IsWhole start) :
    ∀ s ∈ l.spans start, IsWhole s.start := by
  cases l with
  | task t =>
    cases t with
    | wait c timer => exact List.forall_mem_singleton.mpr since
    | _ => exact fun s member => absurd member List.not_mem_nil
  | sequence q => exact Sequence.isWhole_start whole since
  | parallel q => exact Parallel.isWhole_start whole since
  | machine m => exact fun s member => absurd member List.not_mem_nil

end Logic

instance Node.scheduled : Scheduled (Node β) where
  finish_le member := Logic.finish_le member
  isWhole_length whole := Logic.isWhole_length whole
  isWhole_start whole since := Logic.isWhole_start whole since

instance Behavior.scheduled : (height : Nat) → Scheduled (Behavior height)
  | 0 => inferInstanceAs (Scheduled Empty)
  | height + 1 =>
    have := scheduled height
    inferInstanceAs (Scheduled (Node (Behavior height)))

/-! ## Whole numbers -/

/-- Whole numbers of at most 24 bits are exact, if the tolerance is below one. -/
theorem Exact.of_isWhole {σ : Settings} {spans : List Span} {a b : ℕ∞}
    (tolerance : σ.timeEpsilon < 1) (starts : ∀ s ∈ spans, IsWhole s.start)
    (durations : ∀ s ∈ spans, IsWhole s.duration) (small : ∀ s ∈ spans, s.finish < wholes)
    (whole : IsWhole b) (early : b < wholes) : Exact σ spans a b where
  remaining s member _ less := by
    have left := ((starts s member).add (durations s member)).sub whole
    refine ⟨left.isSingle (tsub_le_self.trans_lt (small s member)), fun x known => ?_⟩
    exact isZero_eq_false tolerance known (left.one_le (tsub_pos_of_lt less))
  surplus s member _ _ := by
    have left := whole.sub ((starts s member).add (durations s member))
    exact left.isSingle (tsub_le_self.trans_lt early)

end SkillScript
