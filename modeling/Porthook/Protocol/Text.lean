import Porthook.Foundations.Base64
import Porthook.Protocol.Header

/-!
# Texts

The functions of `strings` that the control plane and the gateway normalise
names and credentials with.
-/

namespace Porthook.Protocol

open Base64

/-- `strings.ToLower`.  Beyond ASCII only the Kelvin sign and the dotted capital i turn into an
ASCII letter; other runes are left as they are, since every caller refuses them. -/
def toLower : Bytes → Bytes
  | 0xE2 :: 0x84 :: 0xAA :: rest => 107 :: toLower rest
  | 0xC4 :: 0xB0 :: rest => 105 :: toLower rest
  | byte :: rest => (if 65 ≤ byte ∧ byte ≤ 90 then byte + 32 else byte) :: toLower rest
  | [] => []

def trimSuffix (text suffix : Bytes) : Bytes :=
  if suffix.isSuffixOf text then text.take (text.length - suffix.length) else text

/-- `strings.CutPrefix`; `none` is its `false`. -/
def cutPrefix? (text head : Bytes) : Option Bytes :=
  if head.isPrefixOf text then some (text.drop head.length) else none

def trimPrefix (text head : Bytes) : Bytes := (cutPrefix? text head).getD text

example : toLower (ascii "Demo") = ascii "demo" := by decide

variable {byte : UInt8} {drop? : Bytes → Option Bytes} {text : Bytes}

theorem not_space_of_graphic (graphic : Graphic byte) : ¬ (byte = 32 ∨ (9 ≤ byte ∧ byte ≤ 13)) := by
  rintro (rfl | ⟨-, small⟩)
  · exact absurd graphic.1 (by decide)
  · exact absurd (UInt8.le_trans graphic.1 small) (by decide)

theorem dropSpace?_graphic (graphic : Graphic byte) (rest : Bytes) :
    dropSpace? (byte :: rest) = none := by
  have below := graphic.2
  unfold dropSpace?
  -- every longer space starts with a byte beyond ASCII
  split
  case h_7 same =>
    cases same
    exact if_neg (not_space_of_graphic graphic)
  case h_8 same => cases same
  all_goals
    next same =>
      cases same
      exact absurd below (by decide)

theorem dropSpaceReversed?_graphic (graphic : Graphic byte) (rest : Bytes) :
    dropSpaceReversed? (byte :: rest) = none := by
  have below := graphic.2
  unfold dropSpaceReversed?
  split
  case h_6 same =>
    cases same
    rw [if_neg, if_neg (not_space_of_graphic graphic)]
    rintro (⟨high, -⟩ | rfl | rfl | rfl)
    · exact absurd (UInt8.le_trans high below) (by decide)
    · exact absurd below (by decide)
    · exact absurd below (by decide)
    · exact absurd below (by decide)
  case h_7 same =>
    cases same
    exact if_neg (not_space_of_graphic graphic)
  case h_8 same => cases same
  all_goals
    next same =>
      cases same
      exact absurd below (by decide)

theorem dropWhileSome_of_none (stuck : drop? text = none)
    (fuel : Nat) : dropWhileSome drop? fuel text = text := by
  cases fuel with
  | zero => rfl
  | succ => simp [dropWhileSome, stuck]

theorem trimSpace_of_none (front : dropSpace? text = none)
    (back : dropSpaceReversed? text.reverse = none) : trimSpace text = text := by
  unfold trimSpace
  dsimp only
  rw [dropWhileSome_of_none front, dropWhileSome_of_none back, List.reverse_reverse]

theorem trimSpace_graphic (graphic : ∀ byte ∈ text, Graphic byte) : trimSpace text = text := by
  refine trimSpace_of_none ?_ ?_
  · cases text with
    | nil => rfl
    | cons byte rest => exact dropSpace?_graphic (graphic byte (by simp)) rest
  · cases reversed : text.reverse with
    | nil => rfl
    | cons byte rest =>
      refine dropSpaceReversed?_graphic (graphic byte ?_) rest
      rw [← List.mem_reverse, reversed]
      simp

/-- What is dropped is at the front and is dropped whatever follows.  It is not empty,
and no byte of it is graphic. -/
def Drops (drop? : Bytes → Option Bytes) : Prop :=
  ∀ text rest, drop? text = some rest → ∃ dropped, dropped ≠ [] ∧ text = dropped ++ rest ∧
    (∀ byte ∈ dropped, ¬ Graphic byte) ∧ ∀ more, drop? (dropped ++ more) = some more

theorem not_graphic_of_space (space : byte = 32 ∨ (9 ≤ byte ∧ byte ≤ 13)) :
    ¬ Graphic byte := fun graphic => not_space_of_graphic graphic space

theorem not_graphic_of_high (high : 0x80 ≤ byte) : ¬ Graphic byte := fun graphic =>
  absurd (UInt8.le_trans high graphic.2) (by decide)

theorem high_of_space
    (space : (0x80 ≤ byte ∧ byte ≤ 0x8A) ∨ byte = 0xA8 ∨ byte = 0xA9 ∨ byte = 0xAF) :
    0x80 ≤ byte := by
  rcases space with ⟨high, -⟩ | rfl | rfl | rfl
  · exact high
  · decide
  · decide
  · decide

theorem low_of_space (space : byte = 32 ∨ (9 ≤ byte ∧ byte ≤ 13)) : byte < 0x80 := by
  rcases space with rfl | ⟨-, high⟩
  · decide
  · exact UInt8.lt_of_le_of_lt high (by decide)

theorem dropSpace?_drops : Drops dropSpace? := by
  intro text rest dropped
  unfold dropSpace? at dropped
  split at dropped
  case h_4 byte _ =>
    split at dropped
    next space =>
      cases dropped
      refine ⟨[_, _, byte], by simp, rfl, ?_, fun more => by simp [dropSpace?, space]⟩
      simp only [List.forall_mem_cons]
      exact ⟨by decide, by decide, not_graphic_of_high (high_of_space space), by simp⟩
    · cases dropped
  case h_7 byte _ _ _ _ _ _ _ =>
    split at dropped
    next space =>
      cases dropped
      refine ⟨[byte], by simp, rfl, by simpa using not_graphic_of_space space, fun more => ?_⟩
      have low := low_of_space space
      unfold dropSpace?
      split
      case h_7 same =>
        cases same
        exact if_pos space
      case h_8 same => cases same
      all_goals
        next same =>
          cases (List.cons.inj same).1
          exact absurd low (by decide)
    · cases dropped
  case h_8 => cases dropped
  case h_1 | h_2 => cases dropped; exact ⟨[_, _], by simp, rfl, by decide +kernel, fun _ => rfl⟩
  all_goals
    cases dropped
    exact ⟨[_, _, _], by simp, rfl, by decide +kernel, fun _ => rfl⟩

theorem dropSpaceReversed?_space (space : byte = 32 ∨ (9 ≤ byte ∧ byte ≤ 13))
    (more : Bytes) : dropSpaceReversed? (byte :: more) = some more := by
  have low := low_of_space space
  unfold dropSpaceReversed?
  split
  case h_6 same =>
    cases same
    rw [if_neg fun high => absurd low (UInt8.not_lt.mpr (high_of_space high)), if_pos space]
  case h_7 same =>
    cases same
    exact if_pos space
  case h_8 same => cases same
  all_goals
    next same =>
      cases (List.cons.inj same).1
      exact absurd low (by decide)

theorem dropSpaceReversed?_drops : Drops dropSpaceReversed? := by
  intro text rest dropped
  have single {byte : UInt8} (space : byte = 32 ∨ (9 ≤ byte ∧ byte ≤ 13)) (rest : Bytes) :
      ∃ dropped, dropped ≠ [] ∧ byte :: rest = dropped ++ rest ∧
        (∀ byte ∈ dropped, ¬ Graphic byte) ∧
        ∀ more, dropSpaceReversed? (dropped ++ more) = some more :=
    ⟨[byte], by simp, rfl, by simpa using not_graphic_of_space space,
      dropSpaceReversed?_space space⟩
  unfold dropSpaceReversed? at dropped
  split at dropped
  case h_6 =>
    split at dropped
    next space =>
      cases dropped
      refine ⟨[_, 0x80, 0xE2], by simp, rfl, ?_, fun more => by simp [dropSpaceReversed?, space]⟩
      simp only [List.forall_mem_cons]
      exact ⟨not_graphic_of_high (high_of_space space), by decide, by decide, by simp⟩
    · split at dropped
      next space =>
        cases dropped
        exact single space _
      · cases dropped
  case h_7 =>
    split at dropped
    next space =>
      cases dropped
      exact single space _
    · cases dropped
  case h_8 => cases dropped
  case h_1 | h_2 => cases dropped; exact ⟨[_, _], by simp, rfl, by decide +kernel, fun _ => rfl⟩
  all_goals
    cases dropped
    exact ⟨[_, _, _], by simp, rfl, by decide +kernel, fun _ => rfl⟩

theorem dropWhileSome_suffix (drops : Drops drop?) (fuel : Nat)
    (text : Bytes) : ∃ dropped, text = dropped ++ dropWhileSome drop? fuel text ∧
      ∀ byte ∈ dropped, ¬ Graphic byte := by
  induction fuel generalizing text with
  | zero => exact ⟨[], rfl, by simp⟩
  | succ _ ih =>
    unfold dropWhileSome
    split
    next rest found =>
      obtain ⟨first, -, rfl, blank, -⟩ := drops text rest found
      obtain ⟨second, split, others⟩ := ih rest
      refine ⟨first ++ second, ?_, List.forall_mem_append.mpr ⟨blank, others⟩⟩
      rw [List.append_assoc, ← split]
    · exact ⟨[], rfl, by simp⟩

theorem dropWhileSome_stuck (drops : Drops drop?) {fuel : Nat} (enough : text.length ≤ fuel) :
    drop? (dropWhileSome drop? fuel text) = none := by
  induction fuel generalizing text with
  | zero =>
    cases List.eq_nil_of_length_eq_zero (Nat.le_zero.mp enough)
    cases found : drop? [] with
    | none => exact found
    | some rest =>
      obtain ⟨_, nonempty, split, -⟩ := drops [] rest found
      exact absurd (List.append_eq_nil_iff.mp split.symm).1 nonempty
  | succ _ ih =>
    unfold dropWhileSome
    split
    next rest found =>
      refine ih ?_
      obtain ⟨_, nonempty, rfl, -⟩ := drops text rest found
      have := List.length_pos_iff.mpr nonempty
      rw [List.length_append] at enough
      omega
    next stuck => exact stuck

theorem trimSpace_trimSpace (text : Bytes) : trimSpace (trimSpace text) = trimSpace text := by
  generalize found : dropWhileSome dropSpace? text.length text = front
  have trimmed : trimSpace text =
      (dropWhileSome dropSpaceReversed? front.length front.reverse).reverse := by
    simp only [trimSpace, found]
  have stuck : dropSpace? front = none := by
    rw [← found]
    exact dropWhileSome_stuck dropSpace?_drops le_rfl
  obtain ⟨dropped, split, -⟩ := dropWhileSome_suffix dropSpaceReversed?_drops front.length
    front.reverse
  have kept : front = trimSpace text ++ dropped.reverse := by
    rw [trimmed, ← List.reverse_append, ← split, List.reverse_reverse]
  refine trimSpace_of_none ?_ ?_
  · cases space : dropSpace? (trimSpace text) with
    | none => rfl
    | some =>
      obtain ⟨_, -, leading, -, again⟩ := dropSpace?_drops _ _ space
      rw [kept, leading, List.append_assoc, again] at stuck
      cases stuck
  · rw [trimmed, List.reverse_reverse]
    exact dropWhileSome_stuck dropSpaceReversed?_drops (by simp)

theorem exists_trimSpace (text : Bytes) : ∃ front back, text = front ++ trimSpace text ++ back ∧
    ∀ byte ∈ front ++ back, ¬ Graphic byte := by
  obtain ⟨front, leading, before⟩ := dropWhileSome_suffix dropSpace?_drops text.length text
  obtain ⟨back, trailing, behind⟩ := dropWhileSome_suffix dropSpaceReversed?_drops
    (dropWhileSome dropSpace? text.length text).length
    (dropWhileSome dropSpace? text.length text).reverse
  refine ⟨front, back.reverse, ?_, ?_⟩
  · rw [trimSpace, List.append_assoc, ← List.reverse_append, ← trailing, List.reverse_reverse]
    exact leading
  · rw [List.forall_mem_append]
    exact ⟨before, fun byte member => behind byte (List.mem_reverse.mp member)⟩

theorem mem_trimSpace (graphic : Graphic byte) : byte ∈ trimSpace text ↔ byte ∈ text := by
  obtain ⟨_, _, split, blank⟩ := exists_trimSpace text
  constructor
  · intro member
    rw [split]
    simp [member]
  · intro member
    rw [split, List.mem_append, List.mem_append] at member
    rcases member with (leading | kept) | trailing
    · exact absurd graphic (blank byte (List.mem_append_left _ leading))
    · exact kept
    · exact absurd graphic (blank byte (List.mem_append_right _ trailing))

def trimSpaceRight (text : Bytes) : Bytes :=
  (dropWhileSome dropSpaceReversed? text.length text.reverse).reverse

theorem trimSpaceRight_space (text : Bytes) :
    trimSpaceRight (text ++ [32]) = trimSpaceRight text := by
  simp [trimSpaceRight, dropWhileSome, dropSpaceReversed?_space (.inl rfl)]

theorem trimSpaceRight_of_trimSpace (trimmed : trimSpace text = text) :
    trimSpaceRight text = text := by
  obtain ⟨dropped, leading, -⟩ := dropWhileSome_suffix dropSpace?_drops text.length text
  obtain ⟨_, trailing, -⟩ := dropWhileSome_suffix dropSpaceReversed?_drops
    (dropWhileSome dropSpace? text.length text).length
    (dropWhileSome dropSpace? text.length text).reverse
  have lengths := congrArg List.length leading
  have others := congrArg List.length trailing
  have same := congrArg List.length trimmed
  simp only [trimSpace, List.length_append, List.length_reverse] at lengths others same
  have none : dropped = [] := List.eq_nil_of_length_eq_zero (by omega)
  rw [none, List.nil_append] at leading
  rwa [trimSpace, ← leading] at trimmed

section Mark

variable {mark : UInt8} (graphic : Graphic mark)
include graphic

theorem dropSpaceReversed?_mark {text : Bytes} (stuck : dropSpaceReversed? text = none)
    (rest : Bytes) : dropSpaceReversed? (text ++ mark :: rest) = none := by
  cases found : dropSpaceReversed? (text ++ mark :: rest) with
  | none => rfl
  | some =>
    obtain ⟨dropped, -, split, blank, again⟩ := dropSpaceReversed?_drops _ _ found
    rcases List.append_eq_append_iff.mp split with ⟨middle, rfl, behind⟩ | ⟨middle, rfl, -⟩
    · -- the mark is not dropped, so all that is dropped stands before it
      cases middle with
      | nil =>
        have alone := again []
        rw [List.append_nil, List.append_nil, stuck] at alone
        cases alone
      | cons =>
        cases behind
        exact absurd graphic (blank mark (by simp))
    · rw [again] at stuck
      cases stuck

theorem dropWhileSome_mark (rest : Bytes) {text : Bytes} {most fuel : Nat}
    (enough : text.length ≤ most) (shorter : text.length ≤ fuel) :
    dropWhileSome dropSpaceReversed? most (text ++ mark :: rest) =
      dropWhileSome dropSpaceReversed? fuel text ++ mark :: rest := by
  induction fuel generalizing most text with
  | zero =>
    cases List.eq_nil_of_length_eq_zero (Nat.le_zero.mp shorter)
    exact dropWhileSome_of_none (dropSpaceReversed?_graphic graphic rest) most
  | succ _ ih =>
    cases found : dropSpaceReversed? text with
    | none =>
      rw [dropWhileSome_of_none found,
        dropWhileSome_of_none (dropSpaceReversed?_mark graphic found rest)]
    | some =>
      obtain ⟨_, present, rfl, -, again⟩ := dropSpaceReversed?_drops _ _ found
      have positive := List.length_pos_iff.mpr present
      rw [List.length_append] at enough shorter
      obtain ⟨most, rfl⟩ : ∃ rounds, most = rounds + 1 := ⟨most - 1, by omega⟩
      rw [List.append_assoc]
      simp only [dropWhileSome, again]
      exact ih (by omega) (by omega)

theorem trimSpaceRight_mark (front rest : Bytes) :
    trimSpaceRight (front ++ mark :: rest) = front ++ mark :: trimSpaceRight rest := by
  have kept : dropWhileSome dropSpaceReversed? (front ++ mark :: rest).length
      (rest.reverse ++ mark :: front.reverse) =
      dropWhileSome dropSpaceReversed? rest.length rest.reverse ++ mark :: front.reverse := by
    refine dropWhileSome_mark graphic _ ?_ ?_
    · simp only [List.length_reverse, List.length_append, List.length_cons]
      omega
    · simp
  simp only [trimSpaceRight, List.reverse_append, List.reverse_cons, List.append_assoc,
    List.cons_append, List.nil_append, kept]
  simp

theorem trimSpace_mark {front : Bytes} (plain : ∀ byte ∈ front, Graphic byte) (rest : Bytes) :
    trimSpace (front ++ mark :: rest) = front ++ mark :: trimSpaceRight rest := by
  have start : dropSpace? (front ++ mark :: rest) = none := by
    cases front with
    | nil => exact dropSpace?_graphic graphic rest
    | cons first => exact dropSpace?_graphic (plain first (by simp)) _
  rw [← trimSpaceRight_mark graphic]
  simp only [trimSpace, dropWhileSome_of_none start, trimSpaceRight]

/-- In a text that was trimmed nothing behind a graphic byte is left to trim. -/
theorem trimSpaceRight_of_trimmed {front rest : Bytes}
    (trimmed : trimSpace (front ++ mark :: rest) = front ++ mark :: rest) :
    trimSpaceRight rest = rest := by
  have whole := trimSpaceRight_of_trimSpace trimmed
  rw [trimSpaceRight_mark graphic] at whole
  exact List.cons.inj (List.append_cancel_left whole) |>.2

end Mark

end Porthook.Protocol
