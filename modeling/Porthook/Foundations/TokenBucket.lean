import Mathlib.Algebra.Order.Field.Basic
import Mathlib.Data.List.Count
import Mathlib.Tactic.Linarith

/-!
# How often a token bucket is used

A bucket holds at most `capacity` tokens and gains `rate` tokens per unit of time; a use takes
one.  `Covers`: the uses since any of them and the tokens that are left fit into the capacity and
what was gained since.  `Supports` is the other direction.
-/

namespace TokenBucket

variable {K : Type*} [Field K] [LinearOrder K] [IsStrictOrderedRing K]

structure Use (K : Type*) where
  asked : K
  served : K

/-- The uses, newest first: from each of them to each later one there are no more than the
capacity and the gain between them. -/
def Spread (capacity rate : K) : List (Use K) → Prop
  | [] => True
  | use :: older =>
    (∀ newer past rest, older = newer ++ past :: rest →
      (newer.length : K) + 2 ≤ capacity + rate * (use.served - past.asked)) ∧
    Spread capacity rate older

/-- The uses since each of them, and the tokens left at the time of the last refill. -/
def Covers (capacity rate tokens last : K) (uses : List (Use K)) : Prop :=
  ∀ newer past rest, uses = newer ++ past :: rest →
    (newer.length : K) + 1 + tokens ≤ capacity + rate * (last - past.asked)

section Take

variable {capacity rate tokens refilled last now : K} {use : Use K} {uses : List (Use K)}

omit [IsStrictOrderedRing K] in
theorem covers_nil : Covers capacity rate tokens last [] := by
  intro newer past rest same
  simp at same

theorem Covers.take (covers : Covers capacity rate tokens last uses) (gains : 0 ≤ rate)
    (gained : refilled ≤ tokens + rate * (now - last)) (capped : refilled ≤ capacity)
    (asked : use.asked ≤ now) : Covers capacity rate (refilled - 1) now (use :: uses) := by
  intro newer past rest same
  cases newer with
  | nil =>
    obtain ⟨rfl, rfl⟩ := List.cons.inj same
    have positive : 0 ≤ rate * (now - use.asked) := mul_nonneg gains (sub_nonneg.mpr asked)
    simp only [List.length_nil, Nat.cast_zero]
    linarith
  | cons _ newer =>
    obtain ⟨rfl, rfl⟩ := List.cons.inj same
    have before := covers newer past rest rfl
    simp only [List.length_cons, Nat.cast_add, Nat.cast_one]
    rw [mul_sub] at before gained ⊢
    linarith

theorem Covers.spread (covers : Covers capacity rate tokens last uses) (gains : 0 ≤ rate)
    (gained : refilled ≤ tokens + rate * (now - last)) (enough : 1 ≤ refilled)
    (served : now ≤ use.served) (spread : Spread capacity rate uses) :
    Spread capacity rate (use :: uses) := by
  refine ⟨fun newer past rest same => ?_, spread⟩
  have before := covers newer past rest same
  have later : rate * now ≤ rate * use.served := mul_le_mul_of_nonneg_left served gains
  rw [mul_sub] at before gained ⊢
  linarith

end Take

theorem exists_last_hit {α : Type*} (hit : α → Bool) (uses : List α) (hits : uses.countP hit ≠ 0) :
    ∃ newer past rest, uses = newer ++ past :: rest ∧ hit past = true ∧
      uses.countP hit ≤ newer.length + 1 := by
  induction uses with
  | nil => simp at hits
  | cons use older ih =>
    by_cases later : older.countP hit = 0
    · have isHit : hit use = true := by
        by_contra missed
        rw [List.countP_cons_of_neg missed] at hits
        exact hits later
      refine ⟨[], use, older, rfl, isHit, ?_⟩
      rw [List.countP_cons_of_pos isHit, later]
      simp
    · obtain ⟨newer, past, rest, same, isHit, _⟩ := ih later
      refine ⟨use :: newer, past, rest, by rw [same]; rfl, isHit, ?_⟩
      rw [List.countP_cons, List.length_cons]
      split <;> omega

/-- The uses whose asking and serving fall between two times are no more than the capacity
and the gain between those. -/
theorem Spread.countP_le {capacity rate first last : K} {uses : List (Use K)}
    (spread : Spread capacity rate uses) (room : 1 ≤ capacity) (gains : 0 ≤ rate)
    (ordered : first ≤ last) (hit : Use K → Bool)
    (within : ∀ use ∈ uses, hit use = true → first ≤ use.asked ∧ use.served ≤ last) :
    (uses.countP hit : K) ≤ capacity + rate * (last - first) := by
  have positive : 0 ≤ rate * (last - first) := mul_nonneg gains (sub_nonneg.mpr ordered)
  induction uses with
  | nil =>
    simp only [List.countP_nil, Nat.cast_zero]
    linarith
  | cons use older ih =>
    have later := ih spread.2 fun past member => within past (List.mem_cons_of_mem use member)
    by_cases isHit : hit use = true
    · rw [List.countP_cons_of_pos isHit]
      by_cases only : older.countP hit = 0
      · rw [only]
        simp only [Nat.zero_add, Nat.cast_one]
        linarith
      · obtain ⟨newer, past, rest, same, pastHit, most⟩ := exists_last_hit hit older only
        have member : past ∈ use :: older := by simp [same]
        have served := (within use List.mem_cons_self isHit).2
        have asked := (within past member pastHit).1
        have gap := spread.1 newer past rest same
        have gain : rate * (use.served - past.asked) ≤ rate * (last - first) :=
          mul_le_mul_of_nonneg_left (sub_le_sub served asked) gains
        have counted : ((older.countP hit + 1 : Nat) : K) ≤ newer.length + 2 := by
          exact_mod_cast Nat.add_le_add_right most 1
        linarith
    · rw [List.countP_cons_of_neg isHit]
      exact later

/-- Since each time, what was gained and not lost to the capacity is still there or was
taken by a use. -/
def Supports (capacity rate tokens last : K) (uses : List K) : Prop :=
  ∀ since ≤ last, min capacity (rate * (last - since)) ≤
    tokens + uses.countP fun time => since < time

section Supports

variable {capacity rate tokens last now : K} {uses : List K}

theorem Supports.more (supports : Supports capacity rate tokens last uses) (extra : List K) :
    Supports capacity rate tokens last (extra ++ uses) := by
  intro since early
  refine (supports since early).trans (add_le_add_right ?_ tokens)
  rw [List.countP_append]
  exact Nat.mono_cast (Nat.le_add_left _ _)

theorem supports_of_full (uses : List K) : Supports capacity rate capacity last uses := by
  intro since _
  exact (min_le_left _ _).trans (le_add_of_nonneg_right (Nat.cast_nonneg _))

theorem Supports.refill (supports : Supports capacity rate tokens last uses) (gains : 0 ≤ rate)
    (positive : 0 ≤ tokens) (later : last ≤ now) :
    Supports capacity rate (min capacity (tokens + rate * (now - last))) now uses := by
  intro since early
  have counted : (0 : K) ≤ uses.countP fun time => decide (since < time) := Nat.cast_nonneg _
  rw [min_add]
  refine le_min ((min_le_left _ _).trans (le_add_of_nonneg_right counted)) ?_
  rcases le_total since last with before | after
  · -- the gain since then is the one at the last refill and the one after it
    have gain : 0 ≤ rate * (now - last) := mul_nonneg gains (sub_nonneg.mpr later)
    have split : rate * (now - since) = rate * (last - since) + rate * (now - last) := by
      rw [← mul_add, add_comm, sub_add_sub_cancel]
    have known := supports since before
    rw [split]
    rcases min_le_iff.mp known with _ | _
    · exact (min_le_left _ _).trans (by linarith)
    · exact (min_le_right _ _).trans (by linarith)
  · have gain : rate * (now - since) ≤ rate * (now - last) :=
      mul_le_mul_of_nonneg_left (sub_le_sub_left after now) gains
    exact (min_le_right _ _).trans (by linarith)

theorem Supports.take (supports : Supports capacity rate tokens last uses) (enough : 1 ≤ tokens) :
    Supports capacity rate (tokens - 1) last (last :: uses) := by
  intro since early
  rcases early.lt_or_eq with before | rfl
  · have known := supports since before.le
    rw [List.countP_cons_of_pos (by simpa using before)]
    push_cast
    linarith
  · have counted : (0 : K) ≤ (since :: uses).countP fun time => decide (since < time) :=
      Nat.cast_nonneg _
    rw [sub_self, mul_zero]
    exact (min_le_right _ _).trans (by linarith)

/-- A bucket without a whole token was used as often as it could fill up since. -/
theorem Supports.le_countP {bound : Nat} (supports : Supports (bound : K) rate tokens last uses)
    (short : tokens < 1) {since : K} (early : since ≤ last)
    (filled : (bound : K) ≤ rate * (last - since)) :
    bound ≤ uses.countP fun time => since < time := by
  have known := supports since early
  rw [min_eq_left filled] at known
  have fewer : (bound : K) < (uses.countP fun time => decide (since < time)) + 1 := by linarith
  exact Nat.lt_succ_iff.mp (by exact_mod_cast fewer)

end Supports

end TokenBucket
