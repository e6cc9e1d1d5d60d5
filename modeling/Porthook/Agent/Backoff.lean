import Mathlib.Algebra.Order.Ring.Int
import Mathlib.Logic.Function.Iterate
import Mathlib.Tactic.GCongr
import Mathlib.Tactic.Linarith
import Mathlib.Tactic.Positivity

/-!
# The delay before the next connection

`reconnectDelay` doubles a delay up to a maximum and adds some jitter, in 64-bit
arithmetic.  A delay is compared with the maximum only after it was doubled, so a
maximum near the end of the range lets it wrap before it is ever above.
-/

namespace Porthook.Agent

def defaultReconnectInitialDelay : Int64 := 500 * 1000000

/-- The loop, for as many rounds as there were attempts. -/
def doubleDelay (max : Int64) : Nat → Int64 → Int64
  | 0, delay => delay
  | attempts + 1, delay =>
    if delay < max then
      let delay := delay * 2
      doubleDelay max attempts (if delay > max then max else delay)
    else delay

def effectiveInitial (initial : Int64) : Int64 :=
  if initial ≤ 0 then defaultReconnectInitialDelay else initial

def effectiveMax (initial max : Int64) : Int64 :=
  let initial := effectiveInitial initial
  let max := if max ≤ 0 then initial else max
  if max < initial then initial else max

/-- A function that is not there is `none`. -/
def reconnectDelay (attempt initial max jitter : Int64) (jitterFunc : Option (Int64 → Int64)) :
    Int64 :=
  let max := effectiveMax initial max
  let attempt := if attempt < 0 then 0 else attempt
  let delay := doubleDelay max attempt.toInt.toNat (effectiveInitial initial)
  match jitterFunc with
  | none => delay
  | some jitterFunc =>
    if jitter ≤ 0 then delay
    else
      let jitter := if jitter > delay then delay else jitter
      let delay := delay + jitterFunc jitter
      if delay > max then max else delay

theorem toInt_clamp (most delay : Int64) :
    (if delay > most then most else delay).toInt = min delay.toInt most.toInt := by
  simp only [gt_iff_lt, Int64.lt_iff_toInt_lt]
  split <;> omega

def doubleOnce (most delay : Int64) : Int64 :=
  if delay < most then (if delay * 2 > most then most else delay * 2) else delay

theorem doubleDelay_eq_iterate (most : Int64) (attempts : Nat) (delay : Int64) :
    doubleDelay most attempts delay = (doubleOnce most)^[attempts] delay := by
  induction attempts generalizing delay with
  | zero => rfl
  | succ _ ih =>
    rw [doubleDelay]
    split
    next below => rw [ih, Function.iterate_succ_apply, doubleOnce, if_pos below]
    next reached =>
      have fixed : doubleOnce most delay = delay := if_neg reached
      rw [Function.iterate_fixed fixed]

theorem doubleDelay_succ (most : Int64) (attempts : Nat) (delay : Int64) :
    doubleDelay most (attempts + 1) delay = doubleOnce most (doubleDelay most attempts delay) := by
  rw [doubleDelay_eq_iterate, doubleDelay_eq_iterate, Function.iterate_succ_apply']

/-- A double that stays in range is the one in integers; any other is negative. -/
theorem toInt_doubleOnce (most : Int64) {delay : Int64} (positive : 0 < delay.toInt) :
    (doubleOnce most delay).toInt =
      if delay.toInt < most.toInt then
        if delay.toInt * 2 < 2 ^ 63 then min (delay.toInt * 2) most.toInt
        else delay.toInt * 2 - 2 ^ 64
      else delay.toInt := by
  have bound := delay.toInt_lt
  have double : (delay * 2).toInt = if delay.toInt * 2 < 2 ^ 63 then delay.toInt * 2
      else delay.toInt * 2 - 2 ^ 64 := by
    rw [Int64.toInt_mul, show (2 : Int64).toInt = 2 by decide, Int.bmod_def]
    split <;> split <;> omega
  unfold doubleOnce
  by_cases below : delay < most
  · have less := Int64.lt_iff_toInt_lt.mp below
    rw [if_pos below, if_pos less, toInt_clamp, double]
    split <;> omega
  · rw [if_neg below, if_neg (Int64.lt_iff_toInt_lt.not.mp below)]

section Doubling

variable {first most : Int64} (positive : 0 < first.toInt) (ordered : first.toInt ≤ most.toInt)

include positive ordered

theorem toInt_doubleDelay {attempts : Nat}
    (room : ∀ count < attempts, first.toInt * 2 ^ count < most.toInt →
      first.toInt * 2 ^ (count + 1) < 2 ^ 63) :
    (doubleDelay most attempts first).toInt = min (first.toInt * 2 ^ attempts) most.toInt := by
  induction attempts with
  | zero => simpa [doubleDelay] using ordered
  | succ attempts ih =>
    have before := ih fun count less => room count (by omega)
    have fits := room attempts (by omega)
    have grown : 0 < first.toInt * 2 ^ attempts := by positivity
    rw [pow_succ, ← mul_assoc] at fits ⊢
    rw [doubleDelay_succ, toInt_doubleOnce most (by omega), before]
    split
    · rw [if_pos (by omega)]
      omega
    · omega

/-- The first double that leaves the range is a delay below zero. -/
theorem doubleDelay_wraps {count : Nat} (below : first.toInt * 2 ^ count < most.toInt)
    (wraps : 2 ^ 63 ≤ first.toInt * 2 ^ (count + 1)) :
    (doubleDelay most (count + 1) first).toInt < 0 := by
  have bound := most.toInt_lt
  have before : (doubleDelay most count first).toInt = first.toInt * 2 ^ count := by
    rw [toInt_doubleDelay positive ordered, min_eq_left below.le]
    intro earlier less _
    calc first.toInt * 2 ^ (earlier + 1) ≤ first.toInt * 2 ^ count := by gcongr <;> omega
      _ < 2 ^ 63 := below.trans bound
  have grown : 0 < first.toInt * 2 ^ count := by positivity
  rw [pow_succ _ count, ← mul_assoc] at wraps
  rw [doubleDelay_succ, toInt_doubleOnce most (by omega), before, if_pos below,
    if_neg (not_lt.mpr wraps)]
  omega

end Doubling

theorem effectiveInitial_pos (initial : Int64) : 0 < (effectiveInitial initial).toInt := by
  unfold effectiveInitial
  split
  · decide
  next positive => exact not_le.mp (Int64.le_iff_toInt_le.not.mp positive)

theorem effectiveInitial_le (initial max : Int64) :
    (effectiveInitial initial).toInt ≤ (effectiveMax initial max).toInt := by
  unfold effectiveMax
  dsimp only
  generalize (if max ≤ 0 then effectiveInitial initial else max) = max
  split
  · exact le_rfl
  next ordered => exact not_lt.mp (Int64.lt_iff_toInt_lt.not.mp ordered)

def Draws (jitterFunc : Option (Int64 → Int64)) : Prop :=
  ∀ draw, jitterFunc = some draw → ∀ limit, 0 ≤ limit → 0 ≤ draw limit ∧ draw limit ≤ limit

/-- What the delays of a configuration should be. -/
structure BackoffSpec (initial max jitter : Int64) : Prop where
  within : ∀ attempt jitterFunc, Draws jitterFunc →
    effectiveInitial initial ≤ reconnectDelay attempt initial max jitter jitterFunc ∧
      reconnectDelay attempt initial max jitter jitterFunc ≤ effectiveMax initial max
  exact : ∀ attempt jitterFunc, jitter ≤ 0 ∨ jitterFunc = none →
    (reconnectDelay attempt initial max jitter jitterFunc).toInt =
      min ((effectiveInitial initial).toInt * 2 ^ attempt.toInt.toNat)
        (effectiveMax initial max).toInt
  monotone : ∀ attempt later jitterFunc, jitter ≤ 0 ∨ jitterFunc = none → attempt ≤ later →
    reconnectDelay attempt initial max jitter jitterFunc ≤
      reconnectDelay later initial max jitter jitterFunc

/-- No delay below the maximum doubles out of the range, and the jitter fits above it. -/
structure BackoffFits (initial max jitter : Int64) : Prop where
  doubles : ∀ count,
    (effectiveInitial initial).toInt * 2 ^ count < (effectiveMax initial max).toInt →
      (effectiveInitial initial).toInt * 2 ^ (count + 1) < 2 ^ 63
  jitter : (effectiveMax initial max).toInt +
    min jitter.toInt (effectiveMax initial max).toInt < 2 ^ 63

section Configuration

variable {initial max jitter : Int64}

theorem delayAfter_eq (attempt : Int64) (initial max : Int64) :
    doubleDelay max (if attempt < 0 then 0 else attempt).toInt.toNat initial =
      doubleDelay max attempt.toInt.toNat initial := by
  split
  next negative =>
    have below : attempt.toInt < 0 := Int64.lt_iff_toInt_lt.mp negative
    rw [Int.toNat_of_nonpos below.le]
    rfl
  · rfl

theorem reconnectDelay_plain (attempt : Int64) {jitterFunc : Option (Int64 → Int64)}
    (without : jitter ≤ 0 ∨ jitterFunc = none) :
    reconnectDelay attempt initial max jitter jitterFunc =
      doubleDelay (effectiveMax initial max) attempt.toInt.toNat (effectiveInitial initial) := by
  unfold reconnectDelay
  dsimp only
  rw [delayAfter_eq]
  cases jitterFunc with
  | none => rfl
  | some => exact if_pos (without.resolve_right (by simp))

theorem reconnectDelay_jitter (attempt : Int64) {draw : Int64 → Int64} {delay : Int64}
    (positive : 0 < jitter.toInt)
    (reached : doubleDelay (effectiveMax initial max) attempt.toInt.toNat
      (effectiveInitial initial) = delay) :
    (reconnectDelay attempt initial max jitter (some draw)).toInt =
      min (delay + draw (if jitter > delay then delay else jitter)).toInt
        (effectiveMax initial max).toInt := by
  have present : ¬ jitter ≤ 0 := fun none => absurd (Int64.le_iff_toInt_le.mp none)
    (not_le.mpr positive)
  unfold reconnectDelay
  dsimp only
  rw [delayAfter_eq, reached, if_neg present, toInt_clamp]

theorem BackoffSpec.fits (spec : BackoffSpec initial max jitter) :
    BackoffFits initial max jitter := by
  have positive := effectiveInitial_pos initial
  have ordered := effectiveInitial_le initial max
  have bound := (effectiveMax initial max).toInt_lt
  have counted {count : Nat} (small : count < 2 ^ 63) :
      (Int64.ofNat count).toInt.toNat = count := by
    rw [Int64.toInt_ofNat_of_lt small, Int.toNat_natCast]
  have doubles : ∀ count,
      (effectiveInitial initial).toInt * 2 ^ count < (effectiveMax initial max).toInt →
        (effectiveInitial initial).toInt * 2 ^ (count + 1) < 2 ^ 63 := by
    intro count below
    by_contra wraps
    have early : count < 63 := by
      by_contra late
      have power : (2 : Int) ^ 63 ≤ 2 ^ count := pow_le_pow_right₀ (by norm_num) (by omega)
      nlinarith
    have delay := spec.exact (Int64.ofNat (count + 1)) none (.inr rfl)
    rw [reconnectDelay_plain _ (.inr rfl), counted (by omega)] at delay
    have negative := doubleDelay_wraps positive ordered below (not_lt.mp wraps)
    rw [delay] at negative
    have grown : 0 < (effectiveInitial initial).toInt * 2 ^ (count + 1) := by positivity
    omega
  refine ⟨doubles, ?_⟩
  by_contra wraps
  -- after so many attempts the delay is at the maximum, whatever it was at first
  have reached : doubleDelay (effectiveMax initial max) (63 : Int64).toInt.toNat
      (effectiveInitial initial) = effectiveMax initial max := by
    rw [show (63 : Int64).toInt.toNat = 63 by decide, ← Int64.toInt_inj,
      toInt_doubleDelay positive ordered fun count _ => doubles count]
    omega
  have draws : Draws (some id) := by
    rintro _ ⟨⟩ _ least
    exact ⟨least, Int64.le_iff_toInt_le.mpr le_rfl⟩
  have least := Int64.le_iff_toInt_le.mp (spec.within 63 (some id) draws).1
  rw [reconnectDelay_jitter 63 (by omega) reached, id, Int64.toInt_add, toInt_clamp,
    Int.bmod_def] at least
  split at least <;> omega

theorem BackoffFits.spec (fits : BackoffFits initial max jitter) :
    BackoffSpec initial max jitter := by
  have positive := effectiveInitial_pos initial
  have ordered := effectiveInitial_le initial max
  have doubled (attempts : Nat) :
      (doubleDelay (effectiveMax initial max) attempts (effectiveInitial initial)).toInt = _ :=
    toInt_doubleDelay positive ordered fun count _ => fits.doubles count
  have exact (attempt : Int64) (jitterFunc : Option (Int64 → Int64))
      (without : jitter ≤ 0 ∨ jitterFunc = none) := (congrArg Int64.toInt
    (reconnectDelay_plain attempt without)).trans (doubled attempt.toInt.toNat)
  have grown (attempts : Nat) : (effectiveInitial initial).toInt ≤
      (effectiveInitial initial).toInt * 2 ^ attempts :=
    le_mul_of_one_le_right positive.le (one_le_pow₀ (by norm_num))
  refine ⟨fun attempt jitterFunc draws => ?_, exact,
    fun attempt later jitterFunc without less => ?_⟩
  · rw [Int64.le_iff_toInt_le, Int64.le_iff_toInt_le]
    have most := grown attempt.toInt.toNat
    by_cases without : jitter ≤ 0 ∨ jitterFunc = none
    · rw [exact attempt jitterFunc without]
      omega
    obtain ⟨some, present⟩ := not_or.mp without
    obtain ⟨draw, rfl⟩ := Option.ne_none_iff_exists'.mp present
    have above : 0 < jitter.toInt := not_le.mp (Int64.le_iff_toInt_le.not.mp some)
    have delay := doubled attempt.toInt.toNat
    rw [reconnectDelay_jitter attempt above rfl]
    generalize doubleDelay (effectiveMax initial max) attempt.toInt.toNat
      (effectiveInitial initial) = reached at delay ⊢
    have limit := toInt_clamp reached jitter
    generalize (if jitter > reached then reached else jitter) = limited at limit ⊢
    have room := fits.jitter
    have zero : (0 : Int64).toInt = 0 := rfl
    obtain ⟨least, small⟩ := draws draw rfl limited (Int64.le_iff_toInt_le.mpr (by omega))
    rw [Int64.le_iff_toInt_le] at least small
    have sum : (reached + draw limited).toInt = reached.toInt + (draw limited).toInt := by
      rw [Int64.toInt_add]
      exact Int.bmod_eq_of_le_mul_two (by omega) (by omega)
    rw [sum]
    omega
  · rw [Int64.le_iff_toInt_le] at less ⊢
    rw [exact attempt jitterFunc without, exact later jitterFunc without]
    have power : (2 : Int) ^ attempt.toInt.toNat ≤ 2 ^ later.toInt.toNat :=
      pow_le_pow_right₀ (by norm_num) (Int.toNat_le_toNat less)
    exact min_le_min_right _ (mul_le_mul_of_nonneg_left power positive.le)

end Configuration

/-- The delays are as they should be just where nothing leaves the range: a delay is doubled, and
the jitter added, before the comparison with the maximum. -/
theorem backoff_bounded_iff (initial max jitter : Int64) :
    BackoffSpec initial max jitter ↔ BackoffFits initial max jitter :=
  ⟨BackoffSpec.fits, BackoffFits.spec⟩

/-- With the longest maximum there is, the default delay is negative after 35 attempts. -/
theorem backoff_negative :
    reconnectDelay 35 0 Int64.maxValue 0 none < 0 ∧ ¬ BackoffSpec 0 Int64.maxValue 0 := by
  have negative : reconnectDelay 35 0 Int64.maxValue 0 none < 0 := by decide +kernel
  refine ⟨negative, fun spec => ?_⟩
  have least := Int64.le_iff_toInt_le.mp (spec.within 35 none (by rintro _ ⟨⟩)).1
  have positive := effectiveInitial_pos 0
  exact absurd (Int64.lt_iff_toInt_lt.mp negative) (not_lt.mpr (positive.le.trans least))

end Porthook.Agent
