import SkillScript.Node.Sensor
import SkillScript.Proofs.Reentry.Scope
/-!
# Deliveries

A receiver takes one delivery after the other until nothing is left: the news that
events were lost, if more are waiting than the bus keeps, and then the events that
are kept, oldest first. A sensor takes in all of them at once, which is the same.
-/
set_option autoImplicit false
namespace SkillScript

namespace Bus

variable (bus : Bus)

/-- The deliveries that a receiver takes until nothing is left, and the receiver after them. -/
inductive Emptied : Receiver → List Delivery → Receiver → Prop where
  | done {r r' : Receiver} (received : bus.receive r = (.empty, r')) : Emptied r [] r'
  | more {r r' last : Receiver} {d : Delivery} {rest : List Delivery}
      (received : bus.receive r = (d, r')) (some : d ≠ .empty) (later : Emptied r' rest last) :
      Emptied r (d :: rest) last

theorem passing_suffix (name : String) (n : Nat) (events : List Event) :
    passing name n events <:+ events := by
  induction events generalizing n with
  | nil => cases n <;> exact List.suffix_rfl
  | cons e rest ih =>
    cases n with
    | zero => exact List.suffix_rfl
    | succ n =>
      simp only [passing]
      split
      · exact (ih n).trans (List.suffix_cons e rest)
      · exact (ih (n + 1)).trans (List.suffix_cons e rest)

theorem filter_passing (name : String) (n : Nat) (events : List Event) :
    (passing name n events).filter (fun e => e.name = name) =
      (events.filter fun e => e.name = name).drop n := by
  induction events generalizing n with
  | nil => cases n <;> rfl
  | cons e rest ih =>
    cases n with
    | zero => rfl
    | succ n =>
      simp only [passing]
      split
      · rename_i named
        rw [ih, List.filter_cons_of_pos (by simpa using named), List.drop_succ_cons]
      · rename_i other
        rw [ih, List.filter_cons_of_neg (by simpa using other)]

theorem unread_advance (r : Receiver) (n : Nat) :
    bus.unread (bus.advance r n) = passing r.name n (bus.unread r) := by
  have left : passing r.name n (bus.unread r) <:+ bus.journal.toList := by
    refine (passing_suffix r.name n _).trans ?_
    rw [unread_eq]
    exact List.drop_suffix _ _
  rw [unread_eq]
  have cut := List.suffix_iff_eq_drop.mp left
  rw [Array.length_toList] at cut
  exact cut.symm

theorem pending_advance (r : Receiver) (n : Nat) :
    bus.pending (bus.advance r n) = (bus.pending r).drop n := by
  rw [pending, unread_advance]
  exact filter_passing r.name n _

theorem pending_publish {r : Receiver} (within : r.position ≤ bus.journal.size) (e : Event) :
    (bus.publish e).pending r = bus.pending r ++ [e].filter fun e => e.name = r.name := by
  rw [pending, pending, unread_eq, unread_eq, ← List.filter_append, publish, Array.toList_push,
    List.drop_append_of_le_length (by simpa using within)]

theorem pending_of_atEnd {r : Receiver} (atEnd : r.position = bus.journal.size) :
    bus.pending r = [] := by
  rw [pending, unread_eq, atEnd, ← Array.length_toList, List.drop_length]
  rfl

/-- A receiver that has lost nothing takes the events one by one. -/
theorem emptied_kept (r : Receiver) (kept : (bus.pending r).length ≤ bus.depth) :
    bus.Emptied r ((bus.pending r).map .event) (bus.skip r) := by
  have met := Nat.sub_eq_zero_of_le kept
  generalize waiting : bus.pending r = events at *
  induction events generalizing r with
  | nil =>
    refine .done ?_
    simp only [receive, waiting, met, if_true]
  | cons e rest ih =>
    have received : bus.receive r = (.event e, bus.advance r 1) := by
      simp only [receive, waiting, met, if_true]
    have left : bus.pending (bus.advance r 1) = rest := by
      rw [pending_advance, waiting]
      rfl
    have fewer : rest.length ≤ bus.depth := Nat.le_of_succ_le kept
    exact .more received nofun (ih (bus.advance r 1) left fewer (Nat.sub_eq_zero_of_le fewer))

/-- All deliveries of a receiver: first the news of what was lost, if anything was, and then what
is kept. -/
def deliveries (r : Receiver) : List Delivery :=
  let waiting := bus.pending r
  let missed := waiting.length - bus.depth
  (if missed = 0 then [] else [.lagged missed]) ++ (waiting.drop missed).map .event

theorem emptied (r : Receiver) : bus.Emptied r (bus.deliveries r) (bus.skip r) := by
  simp only [deliveries]
  split
  · rename_i met
    rw [met]
    exact bus.emptied_kept r (Nat.le_of_sub_eq_zero met)
  · rename_i behind
    generalize missed : (bus.pending r).length - bus.depth = n at *
    have received : bus.receive r = (.lagged n, bus.advance r n) := by
      simp only [receive, missed, if_neg behind]
    have rest := bus.pending_advance r n
    have kept : (bus.pending (bus.advance r n)).length ≤ bus.depth := by
      rw [rest, List.length_drop]
      omega
    have later := bus.emptied_kept (bus.advance r n) kept
    rw [rest] at later
    exact .more received nofun later

variable {bus}

theorem Emptied.eq {r last : Receiver} {ds : List Delivery} (taken : bus.Emptied r ds last) :
    ∀ {ds' : List Delivery} {last' : Receiver}, bus.Emptied r ds' last' →
      ds = ds' ∧ last = last' := by
  induction taken with
  | done received =>
    intro ds' last' other
    cases other with
    | done received' =>
      rw [received] at received'
      exact ⟨rfl, (Prod.mk.inj received').2⟩
    | more received' some _ =>
      rw [received] at received'
      exact absurd (Prod.mk.inj received').1.symm some
  | more received some _ ih =>
    intro ds' last' other
    cases other with
    | done received' =>
      rw [received] at received'
      exact absurd (Prod.mk.inj received').1 some
    | more received' _ later' =>
      rw [received] at received'
      obtain ⟨rfl, rfl⟩ := Prod.mk.inj received'
      obtain ⟨rfl, rfl⟩ := ih later'
      exact ⟨rfl, rfl⟩

end Bus

/-- Whether a delivery makes a sensor fire. Events that were lost count as seen. -/
def Bus.Delivery.fires (ownerOnly : Bool) (owner : EntityId) : Bus.Delivery → Bool
  | empty => false
  | lagged _ => true
  | event e => !ownerOnly || e.source = owner

/-- A sensor takes in what its receiver is delivered until nothing is left. -/
theorem Sensor.drain_of_emptied (s : Scope) (name : String) (ownerOnly fired : Bool)
    {r last : Receiver} {ds : List Bus.Delivery} (taken : s.bus.Emptied r ds last) :
    (event name ownerOnly (some r) fired).drain s =
      event name ownerOnly (some last)
        (fired || ds.any (Bus.Delivery.fires ownerOnly s.owner)) := by
  obtain ⟨rfl, rfl⟩ := taken.eq (s.bus.emptied r)
  have seen (events : List Event) :
      (events.map Bus.Delivery.event).any (Bus.Delivery.fires ownerOnly s.owner) =
        events.any fun e => !ownerOnly || e.source = s.owner := by
    rw [List.any_map]
    rfl
  simp only [drain, Bus.backlog, Bus.deliveries, List.any_append, seen]
  by_cases behind : s.bus.depth < (s.bus.pending r).length
  · have missed : (s.bus.pending r).length - s.bus.depth ≠ 0 := by omega
    simp [behind, missed, Bus.Delivery.fires]
  · have met : (s.bus.pending r).length - s.bus.depth = 0 := by omega
    simp [behind, met]

end SkillScript
