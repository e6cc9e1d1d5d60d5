import Mathlib.Data.List.Basic

/-!
# Conveyors

What becomes of the items that one producer sends to one consumer over a belt that they share with
others.  A gate passes an item into the consumer's queue while that is attached, or gives it up.
As long as nothing is passed behind that one, what leaves is a prefix of what has entered.
-/

universe u

/-- A conveyor.  `fed` says that the producer goes on, `opened` that the consumer
was attached at some time, `running` that it still lets items out. -/
structure Conveyor (Item : Type u) where
  entered : List Item
  hand : List Item
  belt : List Item
  gate : List Item
  queue : List Item
  grip : List Item
  left : List Item
  fed : Bool
  opened : Bool
  attached : Bool
  lost : Bool
  running : Bool

namespace Conveyor

variable {Item : Type u}

inductive Move (conveyor : Conveyor Item) : Conveyor Item → Prop where
  | keep : Move conveyor conveyor
  | enter (item : Item) : conveyor.opened = true → conveyor.fed = true → conveyor.hand = [] →
      Move conveyor { conveyor with entered := conveyor.entered ++ [item], hand := [item] }
  | place : Move conveyor { conveyor with belt := conveyor.belt ++ conveyor.hand, hand := [] }
  | halt : Move conveyor { conveyor with fed := false, hand := [] }
  | attach (attached : Bool) : conveyor.opened = false →
      Move conveyor { conveyor with opened := true, attached }
  | detach : Move conveyor { conveyor with attached := false }
  | arrive (items rest : List Item) : conveyor.belt = items ++ rest → conveyor.attached = true →
      conveyor.gate = [] → Move conveyor { conveyor with belt := rest, gate := items }
  | drop (items rest : List Item) : conveyor.belt = items ++ rest → conveyor.attached = false →
      Move conveyor { conveyor with belt := rest }
  | pass : conveyor.lost = false →
      Move conveyor { conveyor with
        queue := if conveyor.running then conveyor.queue ++ conveyor.gate else conveyor.queue
        gate := [] }
  | giveUp : Move conveyor { conveyor with gate := [], lost := true }
  | take (items rest : List Item) : conveyor.queue = items ++ rest → conveyor.grip = [] →
      Move conveyor { conveyor with queue := rest, grip := items }
  | letOut : conveyor.running = true →
      Move conveyor { conveyor with left := conveyor.left ++ conveyor.grip, grip := [] }
  | stop : Move conveyor { conveyor with running := false, queue := [], grip := [] }

def Empty (conveyor : Conveyor Item) : Prop :=
  conveyor.entered = [] ∧ conveyor.hand = [] ∧ conveyor.belt = [] ∧ conveyor.gate = [] ∧
    conveyor.queue = [] ∧ conveyor.grip = [] ∧ conveyor.left = []

/-- What has entered is, from its beginning and without a gap, what has left, what
the consumer holds and what is still on its way to it. -/
structure Sound (conveyor : Conveyor Item) : Prop where
  left : conveyor.left <+: conveyor.entered
  held : conveyor.running = true →
    conveyor.left ++ (conveyor.grip ++ conveyor.queue) <+: conveyor.entered
  gated : conveyor.running = true → conveyor.lost = false →
    conveyor.left ++ (conveyor.grip ++ (conveyor.queue ++ conveyor.gate)) <+: conveyor.entered
  whole : conveyor.running = true → conveyor.lost = false → conveyor.attached = true →
    ∃ rest, conveyor.left ++ (conveyor.grip ++ (conveyor.queue ++ (conveyor.gate ++
        (conveyor.belt ++ (conveyor.hand ++ rest))))) = conveyor.entered ∧
      (conveyor.fed = true → rest = [])
  closed : conveyor.opened = false → conveyor.Empty
  opened : conveyor.attached = true → conveyor.opened = true

variable {conveyor : Conveyor Item}

theorem Sound.enter {item : Item} (sound : conveyor.Sound) (isOpened : conveyor.opened)
    (fed : conveyor.fed) (empty : conveyor.hand = []) :
    Sound { conveyor with entered := conveyor.entered ++ [item], hand := [item] } := by
  obtain ⟨left, held, gated, whole, _, opened⟩ := sound
  have further := List.prefix_append conveyor.entered [item]
  refine ⟨left.trans further, fun running => (held running).trans further,
    fun running kept => (gated running kept).trans further, ?_, ?_, opened⟩
  · intro running kept attached
    obtain ⟨_, same, all⟩ := whole running kept attached
    cases all fed
    refine ⟨[], ?_, fun _ => rfl⟩
    simp only [empty, List.append_nil] at same
    simp [← same]
  · intro unopened
    rw [isOpened] at unopened
    cases unopened

theorem Sound.arrive {items rest : List Item} (sound : conveyor.Sound)
    (belt : conveyor.belt = items ++ rest) (attached : conveyor.attached)
    (empty : conveyor.gate = []) :
    Sound { conveyor with belt := rest, gate := items } := by
  obtain ⟨left, held, _, whole, _, opened⟩ := sound
  refine ⟨left, held, ?_, ?_, ?_, opened⟩
  · intro running kept
    obtain ⟨others, same, _⟩ := whole running kept attached
    rw [empty, belt] at same
    refine ⟨rest ++ (conveyor.hand ++ others), ?_⟩
    simpa only [List.append_assoc, List.nil_append] using same
  · intro running kept _
    obtain ⟨others, same, all⟩ := whole running kept attached
    rw [empty, belt] at same
    exact ⟨others, by simpa only [List.append_assoc, List.nil_append] using same, all⟩
  · intro unopened
    rw [opened attached] at unopened
    cases unopened

theorem Sound.pass (sound : conveyor.Sound) (kept : conveyor.lost = false) :
    Sound { conveyor with
      queue := if conveyor.running then conveyor.queue ++ conveyor.gate else conveyor.queue
      gate := [] } := by
  obtain ⟨left, _, gated, whole, closed, opened⟩ := sound
  have passed : conveyor.running = true → (if conveyor.running then
      conveyor.queue ++ conveyor.gate else conveyor.queue) = conveyor.queue ++ conveyor.gate :=
    fun running => if_pos running
  refine ⟨left, ?_, ?_, ?_, ?_, opened⟩
  · intro running
    dsimp only
    rw [passed running]
    exact gated running kept
  · intro running _
    dsimp only
    rw [passed running, List.append_nil]
    exact gated running kept
  · intro running _ attached
    obtain ⟨rest, same, all⟩ := whole running kept attached
    refine ⟨rest, ?_, all⟩
    dsimp only
    rw [passed running, List.append_assoc]
    exact same
  · intro unopened
    obtain ⟨entered, hand, belt, gate, queue, others⟩ := closed unopened
    refine ⟨entered, hand, belt, rfl, ?_, others⟩
    simp [queue, gate]

theorem Sound.take {items rest : List Item} (sound : conveyor.Sound)
    (queue : conveyor.queue = items ++ rest) (empty : conveyor.grip = []) :
    Sound { conveyor with queue := rest, grip := items } := by
  obtain ⟨left, held, gated, whole, closed, opened⟩ := sound
  rw [queue, empty] at held gated whole
  simp only [List.append_assoc, List.nil_append] at held gated whole
  refine ⟨left, held, gated, whole, ?_, opened⟩
  intro unopened
  obtain ⟨entered, hand, belt, gate, nothing, _, out⟩ := closed unopened
  rw [queue, List.append_eq_nil_iff] at nothing
  exact ⟨entered, hand, belt, gate, nothing.2, nothing.1, out⟩

theorem Sound.move {next : Conveyor Item} (sound : conveyor.Sound)
    (moved : conveyor.Move next) : next.Sound := by
  have ⟨left, held, gated, whole, closed, opened⟩ := sound
  cases moved with
  | keep => exact sound
  | enter _ isOpened fed empty => exact sound.enter isOpened fed empty
  | place =>
    refine ⟨left, held, gated, ?_, ?_, opened⟩
    · intro running kept attached
      obtain ⟨rest, same, all⟩ := whole running kept attached
      exact ⟨rest, by simpa only [List.append_assoc, List.nil_append] using same, all⟩
    · intro unopened
      obtain ⟨entered, hand, belt, others⟩ := closed unopened
      exact ⟨entered, rfl, by rw [belt, hand]; rfl, others⟩
  | halt =>
    refine ⟨left, held, gated, ?_, ?_, opened⟩
    · intro running kept attached
      obtain ⟨rest, same, _⟩ := whole running kept attached
      exact ⟨conveyor.hand ++ rest, same, by rintro ⟨⟩⟩
    · intro unopened
      obtain ⟨entered, _, others⟩ := closed unopened
      exact ⟨entered, rfl, others⟩
  | attach _ unopened =>
    obtain ⟨entered, hand, belt, gate, queue, grip, out⟩ := closed unopened
    refine ⟨left, held, gated, ?_, fun isClosed => (by cases isClosed), fun _ => rfl⟩
    intro _ _ _
    refine ⟨[], ?_, fun _ => rfl⟩
    simp [entered, hand, belt, gate, queue, grip, out]
  | detach =>
    exact ⟨left, held, gated, fun _ _ attached => (by cases attached), closed,
      fun attached => (by cases attached)⟩
  | arrive _ _ belt attached empty => exact sound.arrive belt attached empty
  | drop _ _ belt detached =>
    refine ⟨left, held, gated, fun _ _ attached => ?_, ?_, opened⟩
    · rw [detached] at attached
      cases attached
    · intro unopened
      obtain ⟨entered, hand, nothing, others⟩ := closed unopened
      rw [belt, List.append_eq_nil_iff] at nothing
      exact ⟨entered, hand, nothing.2, others⟩
  | pass kept => exact sound.pass kept
  | giveUp =>
    refine ⟨left, held, fun _ kept => (by cases kept), fun _ kept => (by cases kept), ?_, opened⟩
    intro unopened
    obtain ⟨entered, hand, belt, _, others⟩ := closed unopened
    exact ⟨entered, hand, belt, rfl, others⟩
  | take _ _ queue empty => exact sound.take queue empty
  | letOut running =>
    refine ⟨?_, ?_, ?_, ?_, ?_, opened⟩
    · have all := held running
      rw [← List.append_assoc] at all
      exact (List.prefix_append _ _).trans all
    · simpa only [List.append_assoc, List.nil_append] using held
    · simpa only [List.append_assoc, List.nil_append] using gated
    · simpa only [List.append_assoc, List.nil_append] using whole
    · intro unopened
      obtain ⟨entered, hand, belt, gate, queue, grip, out⟩ := closed unopened
      exact ⟨entered, hand, belt, gate, queue, rfl, by rw [out, grip]; rfl⟩
  | stop =>
    refine ⟨left, fun running => (by cases running), fun running => (by cases running),
      fun running => (by cases running), ?_, opened⟩
    intro unopened
    obtain ⟨entered, hand, belt, gate, _, _, out⟩ := closed unopened
    exact ⟨entered, hand, belt, gate, rfl, rfl, out⟩

end Conveyor
