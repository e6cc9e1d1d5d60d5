import Mathlib.Logic.Function.Basic

/-!
# Stores with two indexes

A set of items that can be looked up by either of two keys.  Each key names at
most one item, and the two indexes hold the same items: both facts are fields,
so that a store whose indexes disagree cannot be built.
-/

universe u v w

structure TwoIndex {Item : Type u} {First : Type v} {Second : Type w} (first : Item → First)
    (second : Item → Second) where
  byFirst : First → Option Item
  bySecond : Second → Option Item
  first_sound : ∀ key item, byFirst key = some item →
    first item = key ∧ bySecond (second item) = some item
  second_sound : ∀ key item, bySecond key = some item →
    second item = key ∧ byFirst (first item) = some item

namespace TwoIndex

variable {Item : Type u} {First : Type v} {Second : Type w} {first : Item → First}
  {second : Item → Second}

def empty : TwoIndex first second where
  byFirst _ := none
  bySecond _ := none
  first_sound _ _ found := absurd found (Option.some_ne_none _).symm
  second_sound _ _ found := absurd found (Option.some_ne_none _).symm

@[ext]
theorem ext {left right : TwoIndex first second} (firsts : left.byFirst = right.byFirst)
    (seconds : left.bySecond = right.bySecond) : left = right := by
  cases left
  cases right
  cases firsts
  cases seconds
  rfl

section Update

variable {index : First → Option Item} {other : Second → Option Item} [DecidableEq First]
  [DecidableEq Second]

theorem sound_insert (sound : ∀ key item, index key = some item →
      first item = key ∧ other (second item) = some item)
    {item : Item} (free : other (second item) = none) (key : First) (found : Item)
    (lookup : Function.update index (first item) (some item) key = some found) :
    first found = key ∧
      Function.update other (second item) (some item) (second found) = some found := by
  by_cases mine : key = first item
  · subst mine
    rw [Function.update_self] at lookup
    cases lookup
    exact ⟨rfl, Function.update_self ..⟩
  · rw [Function.update_of_ne mine] at lookup
    obtain ⟨keyed, there⟩ := sound key found lookup
    refine ⟨keyed, ?_⟩
    rw [Function.update_of_ne, there]
    intro same
    rw [same, free] at there
    cases there

theorem sound_erase (sound : ∀ key item, index key = some item →
      first item = key ∧ other (second item) = some item)
    {item : Item} (present : other (second item) = some item) (key : First) (found : Item)
    (lookup : Function.update index (first item) none key = some found) :
    first found = key ∧ Function.update other (second item) none (second found) = some found := by
  by_cases mine : key = first item
  · rw [mine, Function.update_self] at lookup
    cases lookup
  · rw [Function.update_of_ne mine] at lookup
    obtain ⟨keyed, there⟩ := sound key found lookup
    refine ⟨keyed, ?_⟩
    rw [Function.update_of_ne, there]
    intro same
    rw [same, present] at there
    cases there
    exact mine keyed.symm

end Update

variable [DecidableEq First] [DecidableEq Second]

def insert (store : TwoIndex first second) (item : Item)
    (firstFree : store.byFirst (first item) = none)
    (secondFree : store.bySecond (second item) = none) : TwoIndex first second where
  byFirst := Function.update store.byFirst (first item) (some item)
  bySecond := Function.update store.bySecond (second item) (some item)
  first_sound := sound_insert store.first_sound secondFree
  second_sound := sound_insert store.second_sound firstFree

def erase (store : TwoIndex first second) (item : Item)
    (present : store.byFirst (first item) = some item) : TwoIndex first second where
  byFirst := Function.update store.byFirst (first item) none
  bySecond := Function.update store.bySecond (second item) none
  first_sound := sound_erase store.first_sound (store.first_sound _ _ present).2
  second_sound := sound_erase store.second_sound present

variable {store : TwoIndex first second} {item : Item}

theorem byFirst_insert {firstFree : store.byFirst (first item) = none}
    {secondFree : store.bySecond (second item) = none} (key : First) :
    (store.insert item firstFree secondFree).byFirst key =
      if key = first item then some item else store.byFirst key :=
  Function.update_apply ..

theorem byFirst_erase {present : store.byFirst (first item) = some item} (key : First) :
    (store.erase item present).byFirst key =
      if key = first item then none else store.byFirst key :=
  Function.update_apply ..

theorem erase_insert {firstFree : store.byFirst (first item) = none}
    {secondFree : store.bySecond (second item) = none}
    (present : (store.insert item firstFree secondFree).byFirst (first item) = some item) :
    (store.insert item firstFree secondFree).erase item present = store := by
  apply ext
  · funext key
    rw [byFirst_erase, byFirst_insert]
    split
    next same => rw [same, firstFree]
    · rfl
  · funext key
    by_cases same : key = second item
    · rw [same, secondFree]
      exact Function.update_self ..
    · exact (Function.update_of_ne same ..).trans (Function.update_of_ne same ..)

end TwoIndex
