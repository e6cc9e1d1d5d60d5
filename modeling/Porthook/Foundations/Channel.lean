import Mathlib.Data.List.Basic

/-!
# Bounded channels

A buffered channel: a first-in first-out queue that never holds more than its capacity.  A send on
a full channel and a receive on an empty one block, so both operations are partial.
-/

universe u

structure Channel (Item : Type u) where
  capacity : Nat
  items : List Item
  bounded : items.length ≤ capacity

namespace Channel

variable {Item : Type u}

def make (capacity : Nat) : Channel Item := ⟨capacity, [], by simp⟩

def Full (channel : Channel Item) : Prop := channel.items.length = channel.capacity

instance (channel : Channel Item) : Decidable channel.Full :=
  inferInstanceAs (Decidable (channel.items.length = channel.capacity))

def send? (channel : Channel Item) (item : Item) : Option (Channel Item) :=
  if room : channel.items.length < channel.capacity then
    some ⟨channel.capacity, channel.items ++ [item], by rw [List.length_append]; exact room⟩
  else
    none

def receive? (channel : Channel Item) : Option (Item × Channel Item) :=
  match channel with
  | ⟨_, [], _⟩ => none
  | ⟨capacity, item :: rest, bounded⟩ =>
    some (item, ⟨capacity, rest, Nat.le_of_succ_le bounded⟩)

@[simp]
theorem make_items (capacity : Nat) : (make capacity : Channel Item).items = [] := rfl

theorem send?_eq_none_iff (channel : Channel Item) (item : Item) :
    channel.send? item = none ↔ channel.Full := by
  have bounded := channel.bounded
  unfold send? Full
  split
  next room => simp only [reduceCtorEq, false_iff]; omega
  next noRoom => simp only [true_iff]; omega

variable {channel next : Channel Item} {item : Item}

theorem send?_eq_some (sent : channel.send? item = some next) :
    ¬ channel.Full ∧ next.items = channel.items ++ [item] ∧
      next.capacity = channel.capacity := by
  unfold send? at sent
  split at sent
  next room =>
    cases sent
    exact ⟨fun full => by unfold Full at full; omega, rfl, rfl⟩
  next noRoom => simp at sent

theorem receive?_eq_none_iff (channel : Channel Item) :
    channel.receive? = none ↔ channel.items = [] := by
  rcases channel with ⟨_, items, _⟩
  cases items <;> simp [receive?]

theorem Full.ne_nil (full : channel.Full)
    (positive : 0 < channel.capacity) : channel.items ≠ [] := by
  intro empty
  unfold Full at full
  rw [empty, List.length_nil] at full
  omega

theorem receive?_eq_some (received : channel.receive? = some (item, next)) :
    channel.items = item :: next.items ∧ next.capacity = channel.capacity := by
  rcases channel with ⟨_, items, _⟩
  cases items with
  | nil => simp [receive?] at received
  | cons =>
    simp only [receive?, Option.some.injEq, Prod.mk.injEq] at received
    rcases received with ⟨rfl, rfl⟩
    exact ⟨rfl, rfl⟩

theorem not_full_of_receive? (received : channel.receive? = some (item, next)) : ¬ next.Full := by
  rcases receive?_eq_some received with ⟨items, _⟩
  have bounded := channel.bounded
  rw [items, List.length_cons] at bounded
  unfold Full
  omega

end Channel
