import Mathlib.Data.List.DropRight
import SkillScript.Node.Create
import SkillScript.Proofs.Events.Delivery
import SkillScript.Proofs.Status.Condition
/-!
# What an event sensor has heard

A sensor for events is reset, activated and then stays active. Events are published
all the while; now and then the sensor is updated, asked or reset again. It answers
yes exactly if an event that it accepts was published since it was activated or
last reset, or, where only events of the owner count, if in that time more events of
its name than the bus keeps were published in one go, with no update or question
between them.
-/
set_option autoImplicit false
namespace SkillScript

def Context.withCapacity (ctx : Context) (capacity : Nat) : Context :=
  { ctx with bus := { ctx.bus with capacity := capacity } }

namespace Latch

inductive Act where
  | publish (event : Event)
  /-- The rest of the host turns the context into another one. -/
  | elsewhere (ctx : Context)
  | activate
  | deactivate
  | reset
  | update (step : Float32)
  | check
  | trigger (tag : String)

namespace Act

def event? : Act → Option Event
  | publish e => some e
  | _ => none

/-- Updates and questions take in the events that are waiting. -/
def takesIn : Act → Bool
  | update _ => true
  | check => true
  | _ => false

def isReset : Act → Bool
  | reset => true
  | _ => false

end Act

/-- Nothing but a publication changes the journal, and the owner and the capacity stay. -/
def step : Condition × Context → Act → Condition × Context
  | (c, ctx), .publish e => (c, { ctx with bus := ctx.bus.publish e })
  | (c, ctx), .elsewhere other =>
    (c,
      { other with
        owner := ctx.owner
        bus :=
          { ctx.bus with
            listeners := other.bus.listeners
            guests := other.bus.guests } })
  | (c, ctx), .activate => c.activate ctx
  | (c, ctx), .deactivate => c.deactivate ctx
  | (c, ctx), .reset => (c.reset ctx.bus, ctx)
  | (c, ctx), .update dt => c.update dt ctx
  | (c, ctx), .check => ((c.check ctx.toScope).2, ctx)
  | (c, ctx), .trigger tag => (c.onTrigger tag, ctx)

def run (s : Condition × Context) (acts : List Act) : Condition × Context :=
  acts.foldl step s

def answer (s : Condition × Context) : Bool :=
  (s.1.check s.2.toScope).1

def created (name : String) (ownerOnly : Bool) : Condition :=
  .sensor false (.ofProbe (.event name ownerOnly))

theorem leaf_event {β : Type} (typeName name : String) (ownerOnly : Bool) (ctx : Context) :
    leaf (β := β) (.condition .event) typeName (.probe (.event name ownerOnly)) ctx =
      (.ok (.condition (created name ownerOnly)), ctx) :=
  rfl

/-- No act takes in events while the sensor is active. -/
def Dormant : Condition × Context → List Act → Prop
  | _, [] => True
  | s, act :: rest => (act.takesIn = true → s.1.isActive = false) ∧ Dormant (step s act) rest

/-! ## What there was to hear -/

def published (name : String) (acts : List Act) : List Event :=
  (acts.filterMap Act.event?).filter fun e => e.name = name

/-- What happened since the last reset, or everything if there was none. -/
def sinceReset (acts : List Act) : List Act :=
  acts.rtakeWhile fun act => !act.isReset

/-- What happened since events were last taken in. -/
def untaken (acts : List Act) : List Act :=
  acts.rtakeWhile fun act => !act.takesIn

def Accepts (ownerOnly : Bool) (owner : EntityId) (e : Event) : Prop :=
  ownerOnly = true → e.source = owner

def Heard (name : String) (ownerOnly : Bool) (owner : EntityId) (acts : List Act) : Prop :=
  ∃ e ∈ published name acts, Accepts ownerOnly owner e

/-- Somewhere more than `depth` events of the name were published in one go. -/
def Overrun (depth : Nat) (name : String) (acts : List Act) : Prop :=
  ∃ stretch, stretch <:+: acts ∧ (∀ act ∈ stretch, act.takesIn = false) ∧
    depth < (published name stretch).length

theorem published_append (name : String) (acts later : List Act) :
    published name (acts ++ later) = published name acts ++ published name later := by
  simp [published]

theorem published_of_silent (name : String) {act : Act} (silent : act.event? = none) :
    published name [act] = [] := by
  simp [published, silent]

theorem published_sublist (name : String) {acts acts' : List Act} (sub : acts.Sublist acts') :
    (published name acts).Sublist (published name acts') :=
  (sub.filterMap Act.event?).filter _

theorem event?_of_takesIn {act : Act} (takes : act.takesIn = true) : act.event? = none := by
  cases act <;> first | rfl | cases takes

theorem sinceReset_concat (acts : List Act) (act : Act) :
    sinceReset (acts ++ [act]) = if act.isReset then [] else sinceReset acts ++ [act] := by
  rw [sinceReset, List.rtakeWhile_concat]
  cases act.isReset <;> rfl

theorem untaken_concat_of_takesIn (acts : List Act) {act : Act} (takes : act.takesIn = true) :
    untaken (acts ++ [act]) = [] := by
  rw [untaken, List.rtakeWhile_concat, takes]
  rfl

theorem untaken_concat (acts : List Act) {act : Act} (leaves : act.takesIn = false) :
    untaken (acts ++ [act]) = untaken acts ++ [act] := by
  rw [untaken, List.rtakeWhile_concat, leaves]
  rfl

/-- Among all stretches at the end in which nothing is taken in, this is the longest. -/
theorem suffix_untaken {stretch acts : List Act} (last : stretch <:+ acts)
    (kept : ∀ act ∈ stretch, act.takesIn = false) : stretch <:+ untaken acts := by
  obtain ⟨before, rfl⟩ := last
  have all : ∀ act ∈ stretch.reverse, (!act.takesIn) = true := by
    intro act mem
    rw [kept act (List.mem_reverse.mp mem)]
    rfl
  rw [untaken, List.rtakeWhile, List.reverse_append, List.takeWhile_append_of_pos all,
    List.reverse_append, List.reverse_reverse]
  exact List.suffix_append _ _

theorem Heard.concat_iff {name : String} {ownerOnly : Bool} {owner : EntityId}
    (acts : List Act) (act : Act) :
    Heard name ownerOnly owner (acts ++ [act]) ↔
      Heard name ownerOnly owner acts ∨ Heard name ownerOnly owner [act] := by
  simp only [Heard, published_append, List.mem_append, or_and_right, exists_or]

theorem Heard.not_of_silent {name : String} {ownerOnly : Bool} {owner : EntityId} {act : Act}
    (silent : act.event? = none) : ¬ Heard name ownerOnly owner [act] := by
  rintro ⟨e, mem, -⟩
  rw [published_of_silent name silent] at mem
  cases mem

theorem Overrun.of_untaken {depth : Nat} {name : String} {acts : List Act}
    (long : depth < (published name (untaken acts)).length) : Overrun depth name acts := by
  refine ⟨untaken acts, (List.rtakeWhile_suffix _ _).isInfix, ?_, long⟩
  intro act mem
  simpa using List.mem_rtakeWhile_imp mem

/-- A new stretch that is too long is at the end. -/
theorem Overrun.concat_iff {depth : Nat} {name : String} (acts : List Act) (act : Act) :
    Overrun depth name (acts ++ [act]) ↔
      Overrun depth name acts ∨ depth < (published name (untaken (acts ++ [act]))).length := by
  constructor
  · rintro ⟨stretch, inside, kept, long⟩
    rcases List.infix_concat_iff.mp inside with last | earlier
    · have sub := (suffix_untaken last kept).sublist
      exact .inr (Nat.lt_of_lt_of_le long (published_sublist name sub).length_le)
    · exact .inl ⟨stretch, earlier, kept, long⟩
  · rintro (⟨stretch, inside, kept, long⟩ | long)
    · exact ⟨stretch, List.infix_append_of_infix_left inside, kept, long⟩
    · exact .of_untaken long

theorem Overrun.not_nil {depth : Nat} {name : String} : ¬ Overrun depth name [] := by
  rintro ⟨stretch, inside, -, long⟩
  rw [List.infix_nil.mp inside] at long
  exact Nat.not_lt_zero _ long

/-- What the sensor is to answer. -/
def Told (name : String) (ownerOnly : Bool) (owner : EntityId) (depth : Nat)
    (acts : List Act) : Prop :=
  Heard name ownerOnly owner acts ∨ ownerOnly = true ∧ Overrun depth name acts

theorem Told.not_nil {name : String} {ownerOnly : Bool} {owner : EntityId} {depth : Nat} :
    ¬ Told name ownerOnly owner depth [] := by
  rintro (⟨e, mem, -⟩ | ⟨-, lost⟩)
  · cases mem
  · exact Overrun.not_nil lost

/-- What is published adds to what is to be told. -/
theorem Told.concat_iff {name : String} {ownerOnly : Bool} {owner : EntityId} {depth : Nat}
    (acts : List Act) (act : Act) :
    Told name ownerOnly owner depth (acts ++ [act]) ↔
      Told name ownerOnly owner depth acts ∨ Heard name ownerOnly owner [act] ∨
        ownerOnly = true ∧ depth < (published name (untaken (acts ++ [act]))).length := by
  rw [Told, Told, Heard.concat_iff, Overrun.concat_iff, and_or_left, or_or_or_comm]

theorem Told.concat_of_silent {name : String} {ownerOnly : Bool} {owner : EntityId} {depth : Nat}
    (acts : List Act) {act : Act} (silent : act.event? = none) :
    Told name ownerOnly owner depth (acts ++ [act]) ↔ Told name ownerOnly owner depth acts := by
  rw [Told.concat_iff]
  refine ⟨?_, .inl⟩
  rintro (told | heard | ⟨strict, long⟩)
  · exact told
  · exact absurd heard (Heard.not_of_silent silent)
  · refine .inr ⟨strict, ?_⟩
    cases takes : act.takesIn with
    | true =>
      rw [untaken_concat_of_takesIn acts takes] at long
      exact absurd long (Nat.not_lt_zero _)
    | false =>
      rw [untaken_concat acts takes, published_append, published_of_silent name silent,
        List.append_nil] at long
      exact .of_untaken long

/-! ## What the sensor takes in -/

section

variable {name : String} {ownerOnly : Bool} {fired : Bool} {receiver : Receiver} {ctx : Context}

/-- A sensor would answer yes if it has fired, if it has lost events, or if an event that it accepts
is waiting, whether that one is lost or kept. -/
theorem answer_eq (ctx : Context) :
    answer (.sensor true (.event name ownerOnly (some receiver) fired), ctx) = true ↔
      fired = true ∨ ctx.bus.depth < (ctx.bus.pending receiver).length ∨
        ∃ e ∈ ctx.bus.pending receiver, Accepts ownerOnly ctx.owner e := by
  have accepts (e : Event) :
      (!ownerOnly || decide (e.source = ctx.owner)) = true ↔ Accepts ownerOnly ctx.owner e := by
    cases ownerOnly <;> simp [Accepts]
  simp only [answer, Condition.check, Sensor.check, Sensor.drain, Bus.backlog, Bool.or_eq_true,
    decide_eq_true_eq, List.any_eq_true, or_assoc]
  refine or_congr_right ?_
  by_cases behind : ctx.bus.depth < (ctx.bus.pending receiver).length
  · simp only [behind, true_or]
  · have met : (ctx.bus.pending receiver).length - ctx.bus.depth = 0 := by omega
    rw [met, List.drop_zero]
    refine or_congr_right (exists_congr fun e => and_congr_right fun _ => ?_)
    rw [← accepts e, Bool.or_eq_true, decide_eq_true_eq]

/-- With more events waiting there is more to answer yes to. Losing events only matters where not
all of them are accepted. -/
theorem latches_more (depth : Nat) (owner : EntityId) (old new : List Event) :
    (fired = true ∨ depth < (old ++ new).length ∨ ∃ e ∈ old ++ new, Accepts ownerOnly owner e) ↔
      (fired = true ∨ depth < old.length ∨ ∃ e ∈ old, Accepts ownerOnly owner e) ∨
        (∃ e ∈ new, Accepts ownerOnly owner e) ∨
          ownerOnly = true ∧ depth < (old ++ new).length := by
  constructor
  · rintro (latched | behind | ⟨e, mem, accepted⟩)
    · exact .inl (.inl latched)
    · cases strict : ownerOnly with
      | true => exact .inr (.inr ⟨rfl, behind⟩)
      | false =>
        obtain ⟨e, mem⟩ := List.exists_mem_of_length_pos (Nat.zero_lt_of_lt behind)
        rcases List.mem_append.mp mem with early | late
        · exact .inl (.inr (.inr ⟨e, early, nofun⟩))
        · exact .inr (.inl ⟨e, late, nofun⟩)
    · rcases List.mem_append.mp mem with early | late
      · exact .inl (.inr (.inr ⟨e, early, accepted⟩))
      · exact .inr (.inl ⟨e, late, accepted⟩)
  · rintro ((latched | behind | ⟨e, early, accepted⟩) | ⟨e, late, accepted⟩ | ⟨-, behind⟩)
    · exact .inl latched
    · refine .inr (.inl (Nat.lt_of_lt_of_le behind ?_))
      rw [List.length_append]
      exact Nat.le_add_right _ _
    · exact .inr (.inr ⟨e, List.mem_append_left new early, accepted⟩)
    · exact .inr (.inr ⟨e, List.mem_append_right old late, accepted⟩)
    · exact .inr (.inl behind)

end

/-! ## While the sensor is active -/

structure Attentive (name : String) (ownerOnly : Bool) (owner : EntityId) (depth : Nat)
    (since : List Act) (s : Condition × Context) : Prop where
  owned : s.2.owner = owner
  keeps : s.2.bus.depth = depth
  listens : ∃ receiver fired,
    s.1 = .sensor true (.event name ownerOnly (some receiver) fired) ∧ receiver.name = name ∧
      receiver.position ≤ s.2.bus.journal.size ∧
      s.2.bus.pending receiver = published name (untaken since)
  answers : answer s = true ↔ Told name ownerOnly owner depth since

namespace Attentive

variable {name : String} {ownerOnly : Bool} {owner : EntityId} {depth : Nat}
  {since : List Act} {s : Condition × Context}

/-- A sensor that has just begun to listen has nothing to tell. -/
theorem begin {receiver : Receiver} {ctx : Context} (owned : ctx.owner = owner)
    (keeps : ctx.bus.depth = depth) (named : receiver.name = name)
    (atEnd : receiver.position = ctx.bus.journal.size) :
    Attentive name ownerOnly owner depth []
      (.sensor true (.event name ownerOnly (some receiver) false), ctx) where
  owned := owned
  keeps := keeps
  listens := ⟨receiver, false, rfl, named, Nat.le_of_eq atEnd, ctx.bus.pending_of_atEnd atEnd⟩
  answers := by
    refine iff_of_false ?_ Told.not_nil
    rw [answer_eq, ctx.bus.pending_of_atEnd atEnd]
    rintro (fired | behind | ⟨e, mem, -⟩)
    · cases fired
    · exact Nat.not_lt_zero _ behind
    · cases mem

theorem publish (attentive : Attentive name ownerOnly owner depth since s) (e : Event) :
    Attentive name ownerOnly owner depth (since ++ [.publish e]) (step s (.publish e)) := by
  obtain ⟨c, ctx⟩ := s
  obtain ⟨owned, keeps, ⟨receiver, fired, rfl, named, within, waiting⟩, answers⟩ := attentive
  have waiting' : (ctx.bus.publish e).pending receiver =
      published name (untaken since) ++ published name [.publish e] := by
    rw [ctx.bus.pending_publish within e, waiting, named]
    rfl
  have untaken' : untaken (since ++ [.publish e]) = untaken since ++ [.publish e] :=
    untaken_concat since rfl
  refine ⟨owned, keeps, ⟨receiver, fired, rfl, named, ?_, ?_⟩, ?_⟩
  · refine Nat.le_trans within ?_
    simp [step, Bus.publish]
  · rw [untaken', published_append]
    exact waiting'
  · rw [answer_eq, waiting, keeps, owned] at answers
    rw [Told.concat_iff, ← answers, untaken', published_append]
    refine (answer_eq _).trans ?_
    show _ ∨ (ctx.bus.publish e).depth < ((ctx.bus.publish e).pending receiver).length ∨
      (∃ e' ∈ (ctx.bus.publish e).pending receiver, Accepts ownerOnly ctx.owner e') ↔ _
    rw [waiting', owned, show (ctx.bus.publish e).depth = depth from keeps]
    exact latches_more depth owner _ _

/-- What publishes nothing and takes in nothing changes nothing, as long as it leaves the sensor and
the journal alone. -/
theorem silent {act : Act} {ctx : Context}
    (attentive : Attentive name ownerOnly owner depth since s) (silent : act.event? = none)
    (leaves : act.takesIn = false) (owned : ctx.owner = s.2.owner)
    (capacity : ctx.bus.capacity = s.2.bus.capacity) (journal : ctx.bus.journal = s.2.bus.journal) :
    Attentive name ownerOnly owner depth (since ++ [act]) (s.1, ctx) := by
  obtain ⟨c, before⟩ := s
  obtain ⟨owned', keeps, ⟨receiver, fired, rfl, named, within, waiting⟩, answers⟩ := attentive
  have same : ctx.bus.pending receiver = before.bus.pending receiver := by
    rw [Bus.pending, Bus.pending, Bus.unread_eq, Bus.unread_eq, journal]
  have depth' : ctx.bus.depth = before.bus.depth := by
    rw [Bus.depth, Bus.depth, capacity]
  refine ⟨owned.trans owned', depth'.trans keeps, ⟨receiver, fired, rfl, named, ?_, ?_⟩, ?_⟩
  · rw [journal]
    exact within
  · rw [same, waiting, untaken_concat since leaves, published_append,
      published_of_silent name silent, List.append_nil]
  · rw [Told.concat_of_silent since silent, ← answers, answer_eq, answer_eq, same, depth', owned]

/-- Once the waiting events are taken in, the answer is kept by the sensor itself. -/
theorem taken {act : Act} {ctx : Context} {receiver last : Receiver} {fired : Bool}
    (attentive : Attentive name ownerOnly owner depth since
      (.sensor true (.event name ownerOnly (some receiver) fired), ctx))
    (takes : act.takesIn = true) (named : last.name = name)
    (atEnd : last.position = ctx.bus.journal.size) :
    Attentive name ownerOnly owner depth (since ++ [act])
      (.sensor true (.event name ownerOnly (some last)
        (answer (.sensor true (.event name ownerOnly (some receiver) fired), ctx))), ctx) := by
  obtain ⟨owned, keeps, -, answers⟩ := attentive
  have nothing := ctx.bus.pending_of_atEnd atEnd
  refine ⟨owned, keeps, ⟨last, _, rfl, named, Nat.le_of_eq atEnd, ?_⟩, ?_⟩
  · rw [nothing, untaken_concat_of_takesIn since takes]
    rfl
  · rw [Told.concat_of_silent since (event?_of_takesIn takes), ← answers]
    refine (answer_eq ctx).trans ?_
    rw [nothing]
    simp

/-- Whatever happens to an active sensor short of a deactivation, its answer is right for what has
happened since it was last reset. -/
theorem step (attentive : Attentive name ownerOnly owner depth since s) {act : Act}
    (stays : act ≠ .deactivate) :
    Attentive name ownerOnly owner depth (if act.isReset then [] else since ++ [act])
      (step s act) := by
  obtain ⟨c, ctx⟩ := s
  cases act with
  | publish e => exact attentive.publish e
  | elsewhere other => exact attentive.silent rfl rfl rfl rfl rfl
  | deactivate => exact absurd rfl stays
  | activate =>
    obtain ⟨receiver, fired, rfl, -⟩ := attentive.listens
    exact attentive.silent rfl rfl rfl rfl rfl
  | trigger tag =>
    obtain ⟨receiver, fired, rfl, -⟩ := attentive.listens
    exact attentive.silent rfl rfl rfl rfl rfl
  | reset =>
    obtain ⟨owned, keeps, ⟨receiver, fired, rfl, named, -⟩, -⟩ := attentive
    exact begin owned keeps named rfl
  | update dt =>
    obtain ⟨receiver, fired, rfl, named, -⟩ := attentive.listens
    exact attentive.taken rfl named rfl
  | check =>
    obtain ⟨receiver, fired, rfl, named, -⟩ := attentive.listens
    exact attentive.taken rfl named rfl

theorem run {during : List Act} (attentive : Attentive name ownerOnly owner depth [] s)
    (stays : .deactivate ∉ during) :
    Attentive name ownerOnly owner depth (sinceReset during) (run s during) := by
  induction during using List.reverseRecOn with
  | nil => exact attentive
  | append_singleton acts act ih =>
    have earlier : .deactivate ∉ acts := fun mem => stays (List.mem_append_left _ mem)
    have other : act ≠ .deactivate := by
      rintro rfl
      exact stays (List.mem_append_right _ (List.mem_singleton_self _))
    rw [sinceReset_concat, Latch.run, List.foldl_concat]
    exact (ih earlier).step other

end Attentive

/-! ## Before the sensor is activated -/

def Fitting (name : String) (ownerOnly : Bool) (c : Condition) : Prop :=
  ∃ active receiver fired, c = .sensor active (.event name ownerOnly receiver fired) ∧
    receiver.isSome = active

/-- The sensor when it has been reset and has taken in nothing since. -/
def Cleared (name : String) (ownerOnly : Bool) (c : Condition) : Prop :=
  ∃ active receiver, c = .sensor active (.event name ownerOnly receiver false) ∧
    receiver.isSome = active

section

variable {name : String} {ownerOnly : Bool} {s : Condition × Context}

theorem fitting_created (name : String) (ownerOnly : Bool) :
    Fitting name ownerOnly (created name ownerOnly) :=
  ⟨false, none, false, rfl, rfl⟩

theorem Fitting.step (fitting : Fitting name ownerOnly s.1) (act : Act) :
    Fitting name ownerOnly (step s act).1 := by
  obtain ⟨c, ctx⟩ := s
  obtain ⟨active, receiver, fired, rfl, listens⟩ := fitting
  subst listens
  cases receiver with
  | none => cases act <;> exact ⟨_, _, _, rfl, rfl⟩
  | some r => cases act <;> exact ⟨_, _, _, rfl, rfl⟩

theorem Fitting.run (fitting : Fitting name ownerOnly s.1) (acts : List Act) :
    Fitting name ownerOnly (run s acts).1 := by
  induction acts generalizing s with
  | nil => exact fitting
  | cons act rest ih => exact ih (fitting.step act)

theorem Fitting.cleared (fitting : Fitting name ownerOnly s.1) :
    Cleared name ownerOnly (Latch.step s .reset).1 := by
  obtain ⟨c, ctx⟩ := s
  obtain ⟨active, receiver, fired, rfl, listens⟩ := fitting
  exact ⟨active, receiver.map ctx.bus.skip, rfl, by rw [Option.isSome_map]; exact listens⟩

theorem Cleared.step (cleared : Cleared name ownerOnly s.1) {act : Act}
    (dormant : act.takesIn = true → s.1.isActive = false) :
    Cleared name ownerOnly (Latch.step s act).1 := by
  obtain ⟨c, ctx⟩ := s
  obtain ⟨active, receiver, rfl, listens⟩ := cleared
  subst listens
  cases receiver with
  | none => cases act <;> exact ⟨_, _, rfl, rfl⟩
  | some r =>
    cases act with
    | update dt => cases dormant rfl
    | check => cases dormant rfl
    | _ => exact ⟨_, _, rfl, rfl⟩

theorem Cleared.run {acts : List Act} (cleared : Cleared name ownerOnly s.1)
    (dormant : Dormant s acts) : Cleared name ownerOnly (Latch.run s acts).1 := by
  induction acts generalizing s with
  | nil => exact cleared
  | cons act rest ih => exact ih (cleared.step dormant.1) dormant.2

/-- A sensor at rest that is cleared begins to listen when it is activated. -/
theorem Cleared.attentive (cleared : Cleared name ownerOnly s.1) (resting : s.1.isActive = false) :
    Attentive name ownerOnly s.2.owner s.2.bus.depth [] (Latch.step s .activate) := by
  obtain ⟨c, ctx⟩ := s
  obtain ⟨active, receiver, rfl, listens⟩ := cleared
  obtain rfl : active = false := resting
  cases receiver with
  | none => exact .begin rfl rfl rfl rfl
  | some r => cases listens

end

/-! ## Along a history -/

def Act.wakes : Act → Bool → Bool
  | .activate, _ => true
  | .deactivate, _ => false
  | _, active => active

section

variable {s s' : Condition × Context}

theorem run_append (s : Condition × Context) (acts later : List Act) :
    run s (acts ++ later) = run (run s acts) later :=
  List.foldl_append

theorem isActive_step (s : Condition × Context) (act : Act) :
    (step s act).1.isActive = act.wakes s.1.isActive := by
  obtain ⟨c, ctx⟩ := s
  cases act with
  | activate => exact c.isActive_activate ctx
  | deactivate => exact c.isActive_deactivate ctx
  | reset => exact c.isActive_reset ctx.bus
  | update dt => exact c.isActive_update dt ctx
  | check => exact c.isActive_check ctx.toScope
  | trigger tag => exact c.isActive_onTrigger tag
  | _ => rfl

theorem isActive_step_congr (same : s.1.isActive = s'.1.isActive) (act : Act) :
    (step s act).1.isActive = (step s' act).1.isActive := by
  rw [isActive_step, isActive_step, same]

theorem isActive_run_congr (same : s.1.isActive = s'.1.isActive) (acts : List Act) :
    (run s acts).1.isActive = (run s' acts).1.isActive := by
  induction acts generalizing s s' with
  | nil => exact same
  | cons act rest ih => exact ih (isActive_step_congr same act)

theorem Dormant.congr (same : s.1.isActive = s'.1.isActive) {acts : List Act}
    (dormant : Dormant s acts) : Dormant s' acts := by
  induction acts generalizing s s' with
  | nil => trivial
  | cons act rest ih =>
    refine ⟨?_, ih (isActive_step_congr same act) dormant.2⟩
    rw [← same]
    exact dormant.1

variable {name : String} {ownerOnly : Bool}

/-- The owner and the size of the bus stay what they are. -/
theorem Fitting.settled (fitting : Fitting name ownerOnly s.1) (act : Act) :
    (Latch.step s act).2.owner = s.2.owner ∧ (Latch.step s act).2.bus.depth = s.2.bus.depth := by
  obtain ⟨c, ctx⟩ := s
  obtain ⟨active, receiver, fired, rfl, listens⟩ := fitting
  subst listens
  cases receiver with
  | none => cases act <;> exact ⟨rfl, rfl⟩
  | some r => cases act <;> exact ⟨rfl, rfl⟩

theorem Fitting.run_settled (fitting : Fitting name ownerOnly s.1) (acts : List Act) :
    (Latch.run s acts).2.owner = s.2.owner ∧ (Latch.run s acts).2.bus.depth = s.2.bus.depth := by
  induction acts generalizing s with
  | nil => exact ⟨rfl, rfl⟩
  | cons act rest ih =>
    obtain ⟨owner, depth⟩ := ih (fitting.step act)
    obtain ⟨owner', depth'⟩ := fitting.settled act
    exact ⟨owner.trans owner', depth.trans depth'⟩

/-- A sensor that is reset and then activated, and stays active, has told what there was to tell. -/
theorem attentive_after (name : String) (ownerOnly : Bool) (ctx : Context)
    {before between during : List Act}
    (dormant : Dormant (run (created name ownerOnly, ctx) (before ++ [.reset])) between)
    (resting : (run (created name ownerOnly, ctx) (before ++ .reset :: between)).1.isActive = false)
    (stays : .deactivate ∉ during) :
    Attentive name ownerOnly ctx.owner ctx.bus.depth (sinceReset during)
      (run (created name ownerOnly, ctx) (before ++ .reset :: between ++ .activate :: during)) := by
  have begun := fitting_created name ownerOnly
  have fitting : Fitting name ownerOnly (run (created name ownerOnly, ctx) before).1 :=
    begun.run before
  have settled : (run (created name ownerOnly, ctx) (before ++ .reset :: between)).2.owner =
        ctx.owner ∧
      (run (created name ownerOnly, ctx) (before ++ .reset :: between)).2.bus.depth =
        ctx.bus.depth :=
    begun.run_settled _
  have cleared : Cleared name ownerOnly
      (run (created name ownerOnly, ctx) (before ++ .reset :: between)).1 := by
    rw [run_append]
    rw [run_append] at dormant
    exact fitting.cleared.run dormant
  have awake := cleared.attentive resting
  rw [settled.1, settled.2] at awake
  rw [run_append]
  exact awake.run stays

end

end Latch

open Latch in
/-- A sensor for events is reset and then activated, and stays active. Whatever else happens, it
answers yes exactly if, since the activation or its last reset, an event of its name that it
accepts was published, or, where only events of the owner count, more events of its name than the
bus keeps were published with no update and no question between them. Where all events count,
the capacity of the bus makes no difference. -/
theorem latches_tell_what_was_heard (name : String) (ownerOnly : Bool) (ctx : Context)
    (before between during : List Act)
    (dormant : Dormant (run (created name ownerOnly, ctx) (before ++ [.reset])) between)
    (resting : (run (created name ownerOnly, ctx) (before ++ .reset :: between)).1.isActive = false)
    (stays : .deactivate ∉ during) :
    (answer (run (created name ownerOnly, ctx)
        (before ++ .reset :: between ++ .activate :: during)) = true ↔
      Heard name ownerOnly ctx.owner (sinceReset during) ∨
        ownerOnly = true ∧ Overrun ctx.bus.depth name (sinceReset during)) ∧
    (ownerOnly = false → ∀ capacity,
      answer (run (created name ownerOnly, ctx.withCapacity capacity)
          (before ++ .reset :: between ++ .activate :: during)) =
        answer (run (created name ownerOnly, ctx)
          (before ++ .reset :: between ++ .activate :: during))) := by
  have told := (attentive_after name ownerOnly ctx dormant resting stays).answers
  refine ⟨told, ?_⟩
  rintro rfl capacity
  have same (acts : List Act) : (run (created name false, ctx) acts).1.isActive =
      (run (created name false, ctx.withCapacity capacity) acts).1.isActive := by
    refine isActive_run_congr ?_ acts
    rfl
  have dormant' := dormant.congr (same (before ++ [.reset]))
  have resting' := (same (before ++ .reset :: between)).symm.trans resting
  have told' := (attentive_after name false (ctx.withCapacity capacity) dormant' resting'
    stays).answers
  have anyhow (depth : Nat) : Told name false ctx.owner depth (sinceReset during) ↔
      Heard name false ctx.owner (sinceReset during) :=
    or_iff_left fun lost => Bool.false_ne_true lost.1
  rw [Bool.eq_iff_iff]
  exact (told'.trans (anyhow _)).trans (told.trans (anyhow _)).symm

def hearsay : Context where
  bus := .ofCapacity 1
  owner := ⟨1⟩
  tag := ⟨0⟩
  vars := ∅

/-- Two events of a stranger in a row are one too many, although none of them counts. -/
theorem latches_tell_what_was_heard_of_strangers :
    Latch.answer (Latch.run (Latch.created "hit" true, hearsay)
      [.reset, .activate, .publish { name := "hit", source := ⟨2⟩ },
        .publish { name := "hit", source := ⟨2⟩ }]) = true := by
  have told := latches_tell_what_was_heard "hit" true hearsay [] []
    [.publish { name := "hit", source := ⟨2⟩ }, .publish { name := "hit", source := ⟨2⟩ }]
    trivial rfl (by simp)
  have depth : hearsay.bus.depth = 1 := by decide +kernel
  refine told.1.mpr (.inr ⟨rfl, _, List.infix_rfl, ?_, ?_⟩)
  · simp [Latch.sinceReset, Latch.Act.isReset, List.rtakeWhile, Latch.Act.takesIn]
  · rw [depth]
    decide

end SkillScript
