import Mathlib.Algebra.Ring.Nat
import Porthook.Foundations.Netip

/-!
# The texts of addresses and prefixes

`ParsePrefix` and `Prefix.String`, and that both parsers read back what the
printers write: every address and every valid prefix without a zone is the value
of its own text, the compressed forms of IPv6 included.
-/

namespace Netip

/-- The length behind the slash; signs and leading zeros are refused. -/
def parseBits? (text : List UInt8) : Option Nat :=
  if 1 < text.length ∧ (text.head?.all fun first => first < 49 || 57 < first) then none
  else parseDecimal? text

def parsePrefix? (text : List UInt8) : Option Prefix :=
  (cutLast? 47 text).bind fun (host, behind) =>
    (parseAddr? host).bind fun addr =>
      if addr.hasZone then none
      else (parseBits? behind).bind fun bits =>
        if addr.bitLen < bits then none else some ⟨addr, bits⟩

def Prefix.string (net : Prefix) : List UInt8 := net.addr.string ++ 47 :: digitsText 10 net.bits

/-- What `ParsePrefix` accepts: no zone, and no more bits than the address has. -/
def Prefix.Valid (net : Prefix) : Prop := net.addr.hasZone = false ∧ net.bits ≤ net.addr.bitLen

theorem parsePrefix?_eq_some {text : List UInt8} {net : Prefix}
    (parsed : parsePrefix? text = some net) :
    net.Valid ∧ ∃ host behind, cutLast? 47 text = some (host, behind) ∧
      parseAddr? host = some net.addr := by
  unfold parsePrefix? at parsed
  obtain ⟨⟨host, behind⟩, cut, parsed⟩ := Option.bind_eq_some_iff.mp parsed
  obtain ⟨_, found, parsed⟩ := Option.bind_eq_some_iff.mp parsed
  split at parsed
  · cases parsed
  next zoneless =>
    obtain ⟨_, -, parsed⟩ := Option.bind_eq_some_iff.mp parsed
    split at parsed
    · cases parsed
    next inside =>
      cases parsed
      exact ⟨⟨by simpa using zoneless, Nat.le_of_not_lt inside⟩, host, behind, cut, found⟩

def digitByte (digit : Nat) : UInt8 := (Nat.digitChar digit).toNat.toUInt8

/-- A digit is none of the marks that divide an address. -/
def Mark (byte : UInt8) : Prop := byte = 46 ∨ byte = 58 ∨ byte = 37 ∨ byte = 47

instance (byte : UInt8) : Decidable (Mark byte) := inferInstanceAs (Decidable (_ ∨ _ ∨ _ ∨ _))

theorem hexDigit?_digitByte {digit : Nat} (small : digit < 16) :
    hexDigit? (digitByte digit) = some digit := by
  have checked : ∀ digit : Fin 16, hexDigit? (digitByte digit) = some digit.val := by decide
  exact checked ⟨digit, small⟩

theorem not_mark_digitByte {digit : Nat} (small : digit < 16) : ¬ Mark (digitByte digit) := by
  have checked : ∀ digit : Fin 16, ¬ Mark (digitByte digit) := by decide
  exact checked ⟨digit, small⟩

theorem exists_digits {base : Nat} (one : 1 < base) (count : Nat) (n : Nat)
    (small : n < base ^ (count + 1)) :
    ∃ digits : List Nat, digitsText base n = digits.map digitByte ∧ digits ≠ [] ∧
      digits.length ≤ count + 1 ∧ (∀ digit ∈ digits, digit < base) ∧
      digits.foldl (base * · + ·) 0 = n := by
  induction count generalizing n with
  | zero =>
    have single : n < base := by simpa using small
    refine ⟨[n], ?_, by simp, by simp, by simpa using single, by simp⟩
    simp [digitsText, Nat.toDigits_of_lt_base single, digitByte]
  | succ count ih =>
    by_cases single : n < base
    · refine ⟨[n], ?_, by simp, by simp, by simpa using single, by simp⟩
      simp [digitsText, Nat.toDigits_of_lt_base single, digitByte]
    · have quotient : n / base < base ^ (count + 1) := by
        rw [Nat.div_lt_iff_lt_mul (by omega), ← Nat.pow_succ]
        exact small
      obtain ⟨digits, text, -, short, inside, value⟩ := ih (n / base) quotient
      refine ⟨digits ++ [n % base], ?_, by simp, by simpa using short, ?_, ?_⟩
      · have step := Nat.toDigits_of_base_le one (Nat.le_of_not_lt single)
        simp only [digitsText] at text
        simp [digitsText, step, text, digitByte]
      · intro digit member
        rcases List.mem_append.mp member with old | last
        · exact inside digit old
        · rw [List.mem_singleton.mp last]
          exact Nat.mod_lt n (by omega)
      · rw [List.foldl_append, value]
        exact Nat.div_add_mod n base

theorem digitsText_all {p : UInt8 → Prop} (checked : ∀ digit : Fin 16, p (digitByte digit))
    {base n : Nat} (one : 1 < base) (hex : base ≤ 16) : ∀ byte ∈ digitsText base n, p byte := by
  have small : n < base ^ (n + 1) := Nat.lt_of_lt_of_le (Nat.lt_pow_self one)
    (Nat.pow_le_pow_right (by omega) (by omega))
  obtain ⟨_, text, -, -, inside, -⟩ := exists_digits one n n small
  intro byte member
  rw [text] at member
  obtain ⟨digit, there, rfl⟩ := List.mem_map.mp member
  exact checked ⟨digit, Nat.lt_of_lt_of_le (inside digit there) hex⟩

theorem not_mark_digitsText {base n : Nat} (one : 1 < base) (hex : base ≤ 16) :
    ∀ byte ∈ digitsText base n, ¬ Mark byte :=
  digitsText_all (by decide) one hex

theorem hexGroup?_digits {digits : List Nat} (hex : ∀ digit ∈ digits, digit < 16)
    (count value : Nat)
    (rest : List UInt8) (short : count + digits.length ≤ 4)
    (stop : ∀ byte ∈ rest.head?, hexDigit? byte = none) :
    hexGroup? count value (digits.map digitByte ++ rest) =
      some (count + digits.length, digits.foldl (16 * · + ·) value, rest) := by
  induction digits generalizing count value with
  | nil =>
    cases rest with
    | nil => rfl
    | cons byte =>
      have none := stop byte (by simp)
      simp [hexGroup?, none]
  | cons digit _ ih =>
    have room : ¬ 3 < count := by simp only [List.length_cons] at short; omega
    have later := ih (fun held member => hex held (by simp [member])) (count + 1)
      (16 * value + digit) (by simp only [List.length_cons] at short; omega)
    simp only [List.map_cons, List.cons_append, hexGroup?,
      hexDigit?_digitByte (hex digit (by simp)),
      if_neg room, later, List.length_cons, List.foldl_cons]
    rw [Nat.add_right_comm, Nat.add_assoc]

theorem hexGroup?_digitsText {group : Nat} (small : group < 65536) {rest : List UInt8}
    (stop : ∀ byte ∈ rest.head?, hexDigit? byte = none) :
    ∃ count, count ≠ 0 ∧
      hexGroup? 0 0 (digitsText 16 group ++ rest) = some (count, group, rest) := by
  obtain ⟨digits, text, present, _, inside, value⟩ :=
    exists_digits (by decide : 1 < 16) 3 group small
  refine ⟨digits.length, by simpa using present, ?_⟩
  rw [text, hexGroup?_digits inside 0 0 rest (by omega) stop, value, Nat.zero_add]

theorem parseOctet?_digitsText {octet : Nat} (small : octet < 256) :
    parseOctet? (digitsText 10 octet) = some octet := by
  have checked : ∀ octet : Fin 256, parseOctet? (digitsText 10 octet) = some octet.val := by
    decide +kernel
  exact checked ⟨octet, small⟩

theorem dottedText_eq (bits : BitVec 32) :
    dottedText bits = List.intercalate [46] ([24, 16, 8, 0].map fun shift =>
      digitsText 10 ((bits >>> shift).setWidth 8).toNat) := by
  simp [dottedText, List.intercalate, List.intersperse]

theorem parseIPv4Fields?_dottedText (bits : BitVec 32) :
    parseIPv4Fields? (dottedText bits) = some bits.toNat := by
  have fields : (dottedText bits).splitOn 46 = [24, 16, 8, 0].map fun shift =>
      digitsText 10 ((bits >>> shift).setWidth 8).toNat := by
    rw [dottedText_eq]
    apply List.splitOn_intercalate
    · intro field member dotted
      obtain ⟨_, -, rfl⟩ := List.mem_map.mp member
      exact not_mark_digitsText (by decide) (by decide) 46 dotted (.inl rfl)
    · simp
  have octet (shift : Nat) : parseOctet? (digitsText 10 ((bits >>> shift).setWidth 8).toNat) =
        some (bits.toNat / 2 ^ shift % 256) := by
    rw [parseOctet?_digitsText (BitVec.isLt _)]
    simp [Nat.shiftRight_eq_div_pow]
  have bound := bits.isLt
  simp only [parseIPv4Fields?, fields, List.map_cons, List.map_nil, List.length_cons,
    List.length_nil, if_true, List.mapM_cons, List.mapM_nil, octet, Option.pure_def,
    Option.bind_eq_bind, Option.bind_some, Option.map_some, List.foldl_cons, List.foldl_nil]
  congr 1
  omega

theorem find?_marked {front : List UInt8} {mark : UInt8} {rest : List UInt8}
    (unmarked : ∀ byte ∈ front, ¬ Mark byte) (marked : mark = 46 ∨ mark = 58 ∨ mark = 37) :
    (front ++ mark :: rest).find? (fun byte => byte = 46 ∨ byte = 58 ∨ byte = 37) = some mark := by
  have skipped : front.find? (fun byte => byte = 46 ∨ byte = 58 ∨ byte = 37) = none := by
    rw [List.find?_eq_none]
    intro byte member found
    simp only [decide_eq_true_eq] at found
    refine unmarked byte member ?_
    rcases found with dot | colon | percent
    · exact .inl dot
    · exact .inr (.inl colon)
    · exact .inr (.inr (.inl percent))
  rw [List.find?_append, skipped, Option.none_or]
  simp [marked]

theorem parseAddr?_dottedText (bits : BitVec 32) :
    parseAddr? (dottedText bits) = some (.v4 bits) := by
  have first : (dottedText bits).find? (fun byte => byte = 46 ∨ byte = 58 ∨ byte = 37) =
      some 46 := by
    simp only [dottedText, List.append_assoc, List.cons_append]
    exact find?_marked (not_mark_digitsText (by decide) (by decide)) (.inl rfl)
  simp only [parseAddr?, first, parseIPv4Fields?_dottedText, Option.map_some]
  rw [BitVec.ofNat_toNat, BitVec.setWidth_eq]

theorem groupsText_cons_cons (first second : Nat) (rest : List Nat) :
    groupsText (first :: second :: rest) =
      digitsText 16 first ++ 58 :: groupsText (second :: rest) := by
  simp [groupsText, List.intercalate]

theorem groupsText_singleton (group : Nat) : groupsText [group] = digitsText 16 group := by
  simp [groupsText, List.intercalate]

theorem groupsText_cons (group : Nat) (rest : List Nat) :
    ∃ byte more, groupsText (group :: rest) = byte :: more ∧ ¬ Mark byte := by
  have digits : ∃ byte more, digitsText 16 group = byte :: more := by
    cases text : digitsText 16 group with
    | nil => simp [digitsText] at text
    | cons byte more => exact ⟨byte, more, rfl⟩
  obtain ⟨byte, more, text⟩ := digits
  have unmarked : ¬ Mark byte :=
    not_mark_digitsText (by decide : 1 < 16) (by decide) byte (by rw [text]; simp)
  cases rest with
  | nil => exact ⟨byte, more, by rw [groupsText_singleton, text], unmarked⟩
  | cons second rest =>
    exact ⟨byte, more ++ 58 :: groupsText (second :: rest), by
      rw [groupsText_cons_cons, text, List.cons_append], unmarked⟩

section Groups

variable {group room : Nat} {groups before : List Nat} {ellipsis : Option Nat} {rest : List UInt8}

theorem ipv6Groups?_last (small : group < 65536) :
    ipv6Groups? (room + 1) before ellipsis (digitsText 16 group) =
      some (before ++ [group], ellipsis) := by
  obtain ⟨_, positive, found⟩ := hexGroup?_digitsText small (by simp : ∀ byte ∈
    ([] : List UInt8).head?, hexDigit? byte = none)
  rw [List.append_nil] at found
  simp [ipv6Groups?, found, positive]

theorem ipv6Groups?_next (small : group < 65536)
    (digit : ∃ byte more, rest = byte :: more ∧ ¬ Mark byte) :
    ipv6Groups? (room + 1) before ellipsis (digitsText 16 group ++ 58 :: rest) =
      ipv6Groups? room (before ++ [group]) ellipsis rest := by
  obtain ⟨byte, more, rfl, unmarked⟩ := digit
  obtain ⟨_, positive, found⟩ := hexGroup?_digitsText small (by simp; decide : ∀ first ∈
    (58 :: byte :: more).head?, hexDigit? first = none)
  have different : byte ≠ 58 := fun colon => unmarked (.inr (.inl colon))
  have colon : ((58 : UInt8) = 46) = False := by decide
  simp only [ipv6Groups?, found, positive, List.head?_cons, Option.some.injEq, colon, if_false]
  split
  next same => cases same
  next same => cases same
  next same =>
    cases same
    exact absurd rfl different
  next same =>
    cases same
    rfl
  next unmatched => exact absurd rfl (unmatched _)

theorem ipv6Groups?_ellipsis (small : group < 65536) :
    ipv6Groups? (room + 1) before none (digitsText 16 group ++ 58 :: 58 :: rest) =
      if rest = [] then some (before ++ [group], some (before ++ [group]).length)
      else ipv6Groups? room (before ++ [group]) (some (before ++ [group]).length) rest := by
  obtain ⟨_, positive, found⟩ := hexGroup?_digitsText small (by simp; decide : ∀ first ∈
    (58 :: 58 :: rest).head?, hexDigit? first = none)
  simp [ipv6Groups?, found, positive]

theorem ipv6Groups?_groupsText (present : groups ≠ []) (small : ∀ group ∈ groups, group < 65536)
    (fits : groups.length ≤ room) :
    ipv6Groups? room before ellipsis (groupsText groups) = some (before ++ groups, ellipsis) := by
  induction groups generalizing room before with
  | nil => exact absurd rfl present
  | cons group rest ih =>
    obtain ⟨room, rfl⟩ : ∃ smaller, room = smaller + 1 :=
      ⟨room - 1, by simp only [List.length_cons] at fits; omega⟩
    cases rest with
    | nil =>
      rw [groupsText_singleton]
      exact ipv6Groups?_last (small group (by simp))
    | cons =>
      rw [groupsText_cons_cons, ipv6Groups?_next (small group (by simp)) (groupsText_cons _ _),
        ih (by simp) (fun held member => small held (by simp [member]))
          (by simp only [List.length_cons] at fits ⊢; omega)]
      simp

theorem ipv6Groups?_groupsText_ellipsis (present : groups ≠ [])
    (small : ∀ group ∈ groups, group < 65536) (fits : groups.length ≤ room) :
    ipv6Groups? room before none (groupsText groups ++ 58 :: 58 :: rest) =
      if rest = [] then some (before ++ groups, some (before ++ groups).length)
      else ipv6Groups? (room - groups.length) (before ++ groups)
        (some (before ++ groups).length) rest := by
  induction groups generalizing room before with
  | nil => exact absurd rfl present
  | cons group more ih =>
    obtain ⟨room, rfl⟩ : ∃ smaller, room = smaller + 1 :=
      ⟨room - 1, by simp only [List.length_cons] at fits; omega⟩
    cases more with
    | nil =>
      rw [groupsText_singleton]
      exact ipv6Groups?_ellipsis (small group (by simp))
    | cons second more =>
      have digit : ∃ byte tail, groupsText (second :: more) ++ 58 :: 58 :: rest = byte :: tail ∧
          ¬ Mark byte := by
        obtain ⟨byte, tail, text, unmarked⟩ := groupsText_cons second more
        exact ⟨byte, tail ++ 58 :: 58 :: rest, by rw [text, List.cons_append], unmarked⟩
      rw [groupsText_cons_cons, List.append_assoc, List.cons_append,
        ipv6Groups?_next (small group (by simp)) digit,
        ih (by simp) (fun held member => small held (by simp [member]))
          (by simp only [List.length_cons] at fits ⊢; omega)]
      simp

end Groups

theorem length_groupsOf (bits : BitVec 128) : (groupsOf bits).length = 8 := by simp [groupsOf]

theorem groupsOf_lt (bits : BitVec 128) : ∀ group ∈ groupsOf bits, group < 65536 := by
  intro group member
  obtain ⟨_, -, rfl⟩ := List.mem_map.mp member
  exact BitVec.isLt _

theorem ofNat_groupsOf (bits : BitVec 128) :
    BitVec.ofNat 128 ((groupsOf bits).foldl (65536 * · + ·) 0) = bits := by
  have bound := bits.isLt
  apply BitVec.eq_of_toNat_eq
  simp [groupsOf, List.range_succ, Nat.shiftRight_eq_div_pow]
  omega

theorem mem_of_longest {runs : List (Nat × Nat)} {best : Option (Nat × Nat)} {run : Nat × Nat}
    (chosen : runs.foldl (fun best run =>
      if 2 ≤ run.2 ∧ (best.map Prod.snd).getD 0 < run.2 then some run else best) best = some run) :
    best = some run ∨ run ∈ runs ∧ 2 ≤ run.2 := by
  induction runs generalizing best with
  | nil => exact .inl chosen
  | cons _ _ ih =>
    rcases ih chosen with kept | ⟨member, long⟩
    · dsimp only at kept
      split at kept
      next better =>
        cases kept
        exact .inr ⟨by simp, better.1⟩
      · exact .inl kept
    · exact .inr ⟨by simp [member], long⟩

variable {start count : Nat}

theorem zeroRun?_eq_some {groups : List Nat} (found : zeroRun? groups = some (start, count)) :
    2 ≤ count ∧ groups = groups.take start ++ List.replicate count 0 ++
      groups.drop (start + count) := by
  rcases mem_of_longest found with none | ⟨member, long⟩
  · cases none
  obtain ⟨_, -, same⟩ := List.mem_map.mp member
  cases same
  refine ⟨long, ?_⟩
  have zeros : (groups.drop start).takeWhile (· = 0) =
      List.replicate ((groups.drop start).takeWhile (· = 0)).length 0 := by
    rw [List.eq_replicate_iff]
    refine ⟨rfl, fun group there => ?_⟩
    simpa using List.all_eq_true.mp List.all_takeWhile group there
  have behind : (groups.drop start).dropWhile (· = 0) =
      groups.drop (start + ((groups.drop start).takeWhile (· = 0)).length) := by
    rw [← List.drop_drop]
    conv_rhs => rw [← List.takeWhile_append_dropWhile (p := (· = 0)) (l := groups.drop start)]
    rw [List.drop_left']
    simp
  rw [← zeros, ← behind, List.append_assoc, List.takeWhile_append_dropWhile, List.take_append_drop]

theorem expandGroups?_zeroRun {groups : List Nat} (eight : groups.length = 8)
    (found : zeroRun? groups = some (start, count)) :
    expandGroups? (groups.take start ++ groups.drop (start + count)) (some start) =
      some groups := by
  obtain ⟨_, whole⟩ := zeroRun?_eq_some found
  have lengths := congrArg List.length whole
  simp only [List.length_append, List.length_replicate, List.length_take,
    List.length_drop] at lengths
  have starts : (groups.take start).length = start := by
    rw [List.length_take]
    omega
  have gap : 8 - (groups.take start ++ groups.drop (start + count)).length = count := by
    simp only [List.length_append, List.length_take, List.length_drop]
    omega
  have short : (groups.take start ++ groups.drop (start + count)).length < 8 := by omega
  simp only [expandGroups?, if_pos short, Option.map_some, gap]
  rw [List.take_left' starts, List.drop_left' starts, ← whole]

def hostText (bits : BitVec 128) : List UInt8 :=
  if bits >>> 32 = 0xffff#128 then
    [58, 58, 102, 102, 102, 102, 58] ++ dottedText (bits.setWidth 32)
  else
    match zeroRun? (groupsOf bits) with
    | none => groupsText (groupsOf bits)
    | some (start, count) => groupsText ((groupsOf bits).take start) ++ [58, 58] ++
        groupsText ((groupsOf bits).drop (start + count))

theorem string_v6 (bits : BitVec 128) (zone : List UInt8) :
    (Addr.v6 bits zone).string = if zone = [] then hostText bits else hostText bits ++ 37 :: zone :=
  rfl

/-- The part of `parseIPv6?` that reads the groups. -/
def hostGroups? (host : List UInt8) : Option (List Nat) :=
  (match host with
    | [58, 58] => some ([], some 0)
    | 58 :: 58 :: rest => ipv6Groups? 8 [] (some 0) rest
    | _ => ipv6Groups? 8 [] none host).bind fun found => expandGroups? found.1 found.2

theorem hostGroups?_ellipsis {rest : List UInt8} (present : rest ≠ []) :
    hostGroups? (58 :: 58 :: rest) =
      (ipv6Groups? 8 [] (some 0) rest).bind fun found => expandGroups? found.1 found.2 := by
  cases rest with
  | nil => exact absurd rfl present
  | cons => rfl

theorem hostGroups?_digit {host : List UInt8}
    (digit : ∃ byte more, host = byte :: more ∧ ¬ Mark byte) :
    hostGroups? host =
      (ipv6Groups? 8 [] none host).bind fun found => expandGroups? found.1 found.2 := by
  obtain ⟨_, _, rfl, unmarked⟩ := digit
  unfold hostGroups?
  split
  next same =>
    cases same
    exact absurd (.inr (.inl rfl)) unmarked
  next same =>
    cases same
    exact absurd (.inr (.inl rfl)) unmarked
  · rfl

theorem hostGroups?_compressed {groups : List Nat} (eight : groups.length = 8)
    (small : ∀ group ∈ groups, group < 65536) (found : zeroRun? groups = some (start, count)) :
    hostGroups? (groupsText (groups.take start) ++ [58, 58] ++
      groupsText (groups.drop (start + count))) = some groups := by
  have expanded := expandGroups?_zeroRun eight found
  obtain ⟨_, whole⟩ := zeroRun?_eq_some found
  have smallBehind : ∀ group ∈ groups.drop (start + count), group < 65536 :=
    fun group member => small group (List.mem_of_mem_drop member)
  have smallFront : ∀ group ∈ groups.take start, group < 65536 :=
    fun group member => small group (List.mem_of_mem_take member)
  simp only [List.append_assoc, List.cons_append, List.nil_append]
  cases front : groups.take start with
  | nil =>
    have zero : start = 0 := by
      have lengths := congrArg List.length front
      simp only [List.length_take, List.length_nil, eight] at lengths
      omega
    subst zero
    rw [front] at expanded
    have empty : groupsText [] = [] := rfl
    rw [empty, List.nil_append]
    cases behind : groups.drop (0 + count) with
    | nil =>
      rwa [behind] at expanded
    | cons group rest =>
      rw [hostGroups?_ellipsis, ← behind, ipv6Groups?_groupsText _ smallBehind]
      · exact expanded
      · rw [List.length_drop]
        omega
      · rw [behind]
        simp
      · obtain ⟨_, _, text, -⟩ := groupsText_cons group rest
        simp [text]
  | cons group rest =>
    have starts : (groups.take start).length = start := by
      have lengths := congrArg List.length whole
      simp only [List.length_append, List.length_replicate, List.length_take,
        List.length_drop] at lengths
      rw [List.length_take]
      omega
    have digit : ∃ byte more, groupsText (group :: rest) ++ 58 :: 58 ::
        groupsText (groups.drop (start + count)) = byte :: more ∧ ¬ Mark byte := by
      obtain ⟨byte, _, text, unmarked⟩ := groupsText_cons group rest
      exact ⟨byte, _, by rw [text, List.cons_append], unmarked⟩
    rw [hostGroups?_digit digit, ← front, ipv6Groups?_groupsText_ellipsis (by simp [front])
      smallFront (by rw [List.length_take]; omega), List.nil_append, starts]
    cases behind : groups.drop (start + count) with
    | nil =>
      rwa [behind, List.append_nil] at expanded
    | cons second more =>
      have present : groupsText (second :: more) ≠ [] := by
        obtain ⟨_, _, text, -⟩ := groupsText_cons second more
        simp [text]
      rw [if_neg present, ← behind, ipv6Groups?_groupsText (by simp [behind]) smallBehind]
      · exact expanded
      · rw [List.length_drop]
        omega

theorem dottedText_split (bits : BitVec 32) : ∃ (digits : List Nat) (rest : List UInt8),
      dottedText bits = digits.map digitByte ++ 46 :: rest ∧ digits ≠ [] ∧
      digits.length ≤ 3 ∧ ∀ digit ∈ digits, digit < 16 := by
  have small : ((bits >>> 24).setWidth 8).toNat < 10 ^ (2 + 1) := by
    have := ((bits >>> 24).setWidth 8).isLt
    omega
  obtain ⟨digits, text, present, short, inside, -⟩ := exists_digits (by decide : 1 < 10) 2 _ small
  refine ⟨digits, digitsText 10 ((bits >>> 16).setWidth 8).toNat ++ (46 : UInt8) ::
    (digitsText 10 ((bits >>> 8).setWidth 8).toNat ++ (46 : UInt8) ::
      digitsText 10 ((bits >>> 0).setWidth 8).toNat), ?_, present, short, ?_⟩
  · simp only [dottedText, text, List.append_assoc, List.cons_append]
  · intro digit member
    have := inside digit member
    omega

theorem dottedText_cons (bits : BitVec 32) :
    ∃ byte more, dottedText bits = byte :: more ∧ ¬ Mark byte := by
  obtain ⟨digits, rest, text, present, -, inside⟩ := dottedText_split bits
  cases digits with
  | nil => exact absurd rfl present
  | cons digit more =>
    exact ⟨digitByte digit, more.map digitByte ++ 46 :: rest, text,
      not_mark_digitByte (inside digit (by simp))⟩

theorem ipv6Groups?_dottedText (bits : BitVec 32) (room : Nat) (before : List Nat) (place : Nat)
    (fits : before.length + 2 ≤ 8) :
    ipv6Groups? (room + 1) before (some place) (dottedText bits) =
      some (before ++ [bits.toNat / 65536, bits.toNat % 65536], some place) := by
  obtain ⟨digits, rest, text, present, _, inside⟩ := dottedText_split bits
  have found : hexGroup? 0 0 (dottedText bits) =
      some (digits.length, digits.foldl (16 * · + ·) 0, 46 :: rest) := by
    rw [text, hexGroup?_digits inside 0 0 _ (by omega) (by simp; decide), Nat.zero_add]
  have positive : digits.length ≠ 0 := by simpa using present
  have room : ¬ 8 < before.length + 2 := by omega
  simp [ipv6Groups?, found, positive, room, parseIPv4Fields?_dottedText]

theorem hostGroups?_mapped (bits : BitVec 32) :
    hostGroups? ([58, 58, 102, 102, 102, 102, 58] ++ dottedText bits) =
      some [0, 0, 0, 0, 0, 65535, bits.toNat / 65536, bits.toNat % 65536] := by
  have ones : [102, 102, 102, 102] = digitsText 16 65535 := by decide
  have text : [58, 58, 102, 102, 102, 102, 58] ++ dottedText bits =
      58 :: 58 :: (digitsText 16 65535 ++ 58 :: dottedText bits) := by
    rw [← ones]
    rfl
  rw [text, hostGroups?_ellipsis (by simp), ipv6Groups?_next (by decide) (dottedText_cons bits),
    ipv6Groups?_dottedText bits 6 _ 0 (by simp)]
  rfl

theorem hostGroups?_hostText (bits : BitVec 128) :
    (hostGroups? (hostText bits)).map (fun groups =>
      BitVec.ofNat 128 (groups.foldl (65536 * · + ·) 0)) = some bits := by
  have eight := length_groupsOf bits
  have small := groupsOf_lt bits
  unfold hostText
  split
  next mapped =>
    rw [hostGroups?_mapped, Option.map_some]
    congr 1
    have high := congrArg BitVec.toNat mapped
    have bound := bits.isLt
    apply BitVec.eq_of_toNat_eq
    simp [Nat.shiftRight_eq_div_pow] at high ⊢
    omega
  · split
    · have first : ∃ group rest, groupsOf bits = group :: rest := ⟨_, _, rfl⟩
      obtain ⟨group, rest, groups⟩ := first
      have digit := groupsText_cons group rest
      rw [← groups] at digit
      rw [hostGroups?_digit digit, ipv6Groups?_groupsText (by simp [groups]) small (by omega),
        List.nil_append, Option.bind_some]
      simp [expandGroups?, eight, ofNat_groupsOf]
    next start count found =>
      rw [hostGroups?_compressed eight small found, Option.map_some, ofNat_groupsOf]

/-- What holds of every byte that an address without a zone is written with. -/
def Throughout (p : UInt8 → Prop) : Prop := (∀ digit : Fin 16, p (digitByte digit)) ∧ p 58 ∧ p 46

instance (p : UInt8 → Prop) [DecidablePred p] : Decidable (Throughout p) :=
  inferInstanceAs (Decidable (_ ∧ _ ∧ _))

section Bytes

variable {p : UInt8 → Prop} (throughout : Throughout p)
include throughout

theorem groupsText_all (groups : List Nat) : ∀ byte ∈ groupsText groups, p byte := by
  induction groups with
  | nil => simp [groupsText, List.intercalate]
  | cons group rest ih =>
    have digits := digitsText_all throughout.1 (n := group) (by decide : 1 < 16) (by decide)
    cases rest with
    | nil => rwa [groupsText_singleton]
    | cons =>
      rw [groupsText_cons_cons, List.forall_mem_append, List.forall_mem_cons]
      exact ⟨digits, throughout.2.1, ih⟩

theorem dottedText_all (bits : BitVec 32) : ∀ byte ∈ dottedText bits, p byte := by
  have digits (octet : Nat) : ∀ byte ∈ digitsText 10 octet, p byte :=
    digitsText_all throughout.1 (by decide) (by decide)
  simp only [dottedText, List.forall_mem_append, List.forall_mem_cons]
  exact ⟨⟨⟨digits _, throughout.2.2, digits _⟩, throughout.2.2, digits _⟩, throughout.2.2, digits _⟩

theorem hostText_all (bits : BitVec 128) : ∀ byte ∈ hostText bits, p byte := by
  have groups := groupsText_all throughout
  have colon := throughout.2.1
  have letter : p 102 := throughout.1 15
  unfold hostText
  split
  · rw [List.forall_mem_append]
    exact ⟨by simp [colon, letter], dottedText_all throughout _⟩
  · split
    · exact groups _
    · simp only [List.forall_mem_append]
      exact ⟨⟨groups _, by simp [colon]⟩, groups _⟩

theorem Addr.string_all {addr : Addr} (zoneless : addr.hasZone = false) :
    ∀ byte ∈ addr.string, p byte := by
  cases addr with
  | v4 bits => exact dottedText_all throughout bits
  | v6 bits zone =>
    have plain : zone = [] := by simpa [hasZone] using zoneless
    rw [string_v6, if_pos plain]
    exact hostText_all throughout bits

theorem Prefix.string_all {net : Prefix} (zoneless : net.addr.hasZone = false) (slash : p 47) :
    ∀ byte ∈ net.string, p byte := by
  rw [string, List.forall_mem_append, List.forall_mem_cons]
  exact ⟨Addr.string_all throughout zoneless, slash,
    digitsText_all throughout.1 (by decide) (by decide)⟩

end Bytes

theorem mem_hostText {bits : BitVec 128} {byte : UInt8} (member : byte ∈ hostText bits) :
    byte ≠ 37 ∧ byte ≠ 47 :=
  hostText_all (p := fun byte => byte ≠ 37 ∧ byte ≠ 47) (by decide) bits byte member

theorem groupsText_colon (groups : List Nat) (rest : List UInt8) :
    ∃ front behind, groupsText groups ++ 58 :: rest = front ++ 58 :: behind ∧
      ∀ byte ∈ front, ¬ Mark byte := by
  cases groups with
  | nil => exact ⟨[], rest, rfl, by simp⟩
  | cons group more =>
    refine ⟨digitsText 16 group, ?_⟩
    cases more with
    | nil => exact ⟨rest, by rw [groupsText_singleton], not_mark_digitsText (by decide) (by decide)⟩
    | cons second more => exact ⟨groupsText (second :: more) ++ 58 :: rest, by
        rw [groupsText_cons_cons, List.append_assoc, List.cons_append],
        not_mark_digitsText (by decide) (by decide)⟩

theorem hostText_colon (bits : BitVec 128) :
    ∃ front rest, hostText bits = front ++ 58 :: rest ∧ ∀ byte ∈ front, ¬ Mark byte := by
  unfold hostText
  split
  · exact ⟨[], _, rfl, by simp⟩
  split
  · have two : ∃ first second rest, groupsOf bits = first :: second :: rest := ⟨_, _, _, rfl⟩
    obtain ⟨_, _, _, groups⟩ := two
    rw [groups, groupsText_cons_cons]
    exact ⟨_, _, rfl, not_mark_digitsText (by decide) (by decide)⟩
  · rw [List.append_assoc, List.cons_append]
    exact groupsText_colon _ _

theorem takeWhile_host (bits : BitVec 128) (zone : List UInt8) :
    (hostText bits ++ zone).takeWhile (· ≠ 37) = hostText bits ++ zone.takeWhile (· ≠ 37) := by
  apply List.takeWhile_append_of_pos
  intro byte member
  simpa using (mem_hostText member).1

theorem parseIPv6?_eq (text : List UInt8) : parseIPv6? text =
      if (text.takeWhile (· ≠ 37)).length < text.length ∧
          (text.drop (text.takeWhile (· ≠ 37)).length).drop 1 = [] then none
      else (hostGroups? (text.takeWhile (· ≠ 37))).map fun groups =>
        .v6 (BitVec.ofNat 128 (groups.foldl (65536 * · + ·) 0))
          ((text.drop (text.takeWhile (· ≠ 37)).length).drop 1) :=
  rfl

theorem parseAddr?_host (bits : BitVec 128) (tail : List UInt8) :
    parseAddr? (hostText bits ++ tail) = parseIPv6? (hostText bits ++ tail) := by
  obtain ⟨_, _, text, unmarked⟩ := hostText_colon bits
  have family : (hostText bits ++ tail).find? (fun byte => byte = 46 ∨ byte = 58 ∨ byte = 37) =
      some 58 := by
    rw [text, List.append_assoc, List.cons_append]
    exact find?_marked unmarked (.inr (.inl rfl))
  simp only [parseAddr?, family]

theorem parseAddr?_zoned (bits : BitVec 128) (zone : List UInt8) :
    parseAddr? (hostText bits ++ 37 :: zone) =
      if zone = [] then none else some (.v6 bits zone) := by
  obtain ⟨_, read, value⟩ := Option.map_eq_some_iff.mp (hostGroups?_hostText bits)
  have whole := takeWhile_host bits (37 :: zone)
  have percent : (37 :: zone).takeWhile (· ≠ 37) = [] := by simp
  have shorter : (hostText bits).length < (hostText bits ++ 37 :: zone).length := by simp
  rw [percent, List.append_nil] at whole
  simp only [parseAddr?_host, parseIPv6?_eq, whole, List.drop_left, List.drop_succ_cons,
    List.drop_zero, shorter, true_and, read, Option.map_some, value]

theorem parseAddr?_string (addr : Addr) : parseAddr? addr.string = some addr := by
  cases addr with
  | v4 bits => exact parseAddr?_dottedText bits
  | v6 bits =>
    rw [string_v6]
    split
    next zoneless =>
      obtain ⟨_, read, value⟩ := Option.map_eq_some_iff.mp (hostGroups?_hostText bits)
      have plain := parseAddr?_host bits []
      have whole := takeWhile_host bits []
      simp only [List.takeWhile_nil, List.append_nil] at plain whole
      simp only [plain, parseIPv6?_eq, whole, Nat.lt_irrefl, false_and, if_false,
        read, Option.map_some, value, List.drop_length, List.drop_nil, zoneless]
    next zoned => rw [parseAddr?_zoned, if_neg zoned]

theorem parseAddr?_zone {text zone : List UInt8} {bits : BitVec 128}
    (parsed : parseAddr? text = some (.v6 bits zone)) (zoned : zone ≠ []) :
    ∃ host, text = host ++ 37 :: zone := by
  unfold parseAddr? at parsed
  split at parsed
  · obtain ⟨_, -, same⟩ := Option.map_eq_some_iff.mp parsed
    cases same
  · rw [parseIPv6?_eq] at parsed
    split at parsed
    · cases parsed
    obtain ⟨_, -, same⟩ := Option.map_eq_some_iff.mp parsed
    cases same
    have cut := List.takeWhile_append_dropWhile (p := fun byte => decide (byte ≠ 37)) (l := text)
    have behind : text.drop (text.takeWhile (· ≠ 37)).length = text.dropWhile (· ≠ 37) := by
      generalize text.takeWhile (· ≠ 37) = host, text.dropWhile (· ≠ 37) = rest at cut ⊢
      rw [← cut]
      exact List.drop_left
    have first := List.head?_dropWhile_not (fun byte => decide (byte ≠ 37)) text
    rw [behind] at zoned ⊢
    cases tail : text.dropWhile (· ≠ 37) with
    | nil => exact absurd (by rw [tail]; rfl) zoned
    | cons byte =>
      rw [tail] at first cut
      have percent : byte = 37 := by simpa using first
      rw [percent] at cut
      exact ⟨_, cut.symm⟩
  · cases parsed

theorem cutLast?_eq_some {byte : UInt8} {text front behind : List UInt8}
    (cut : cutLast? byte text = some (front, behind)) : text = front ++ byte :: behind := by
  by_cases member : byte ∈ text
  · -- the last occurrence is the first one from the other end
    obtain ⟨after, before, split, absent⟩ :=
      List.eq_append_cons_of_mem (List.mem_reverse.mpr member)
    have whole : text = before.reverse ++ byte :: after.reverse := by
      rw [← List.reverse_reverse text, split]
      simp
    rw [whole, cutLast?_append _ (by simpa using absent)] at cut
    cases cut
    exact whole
  · simp [cutLast?, member] at cut

theorem parseBits?_digitsText {bits : Nat} (small : bits ≤ 128) :
    parseBits? (digitsText 10 bits) = some bits := by
  have checked : ∀ bits : Fin 129, parseBits? (digitsText 10 bits) = some bits.val := by
    decide +kernel
  exact checked ⟨bits, by omega⟩

theorem Addr.bitLen_le (addr : Addr) : addr.bitLen ≤ 128 := by
  cases addr with
  | v4 => exact (by decide : 32 ≤ 128)
  | v6 => exact Nat.le_refl 128

theorem parsePrefix?_string {net : Prefix} (valid : net.Valid) :
    parsePrefix? net.string = some net := by
  obtain ⟨zoneless, inside⟩ := valid
  have slash : (47 : UInt8) ∉ digitsText 10 net.bits := fun member =>
    not_mark_digitsText (by decide) (by decide) 47 member (.inr (.inr (.inr rfl)))
  have small : net.bits ≤ 128 := Nat.le_trans inside net.addr.bitLen_le
  simp only [parsePrefix?, Prefix.string, cutLast?_append _ slash, Option.bind_some,
    parseAddr?_string, zoneless, parseBits?_digitsText small, if_neg (Nat.not_lt.mpr inside)]
  rfl

theorem Prefix.masked_valid {net : Prefix} (valid : net.Valid) : net.masked.Valid := by
  obtain ⟨addr, _⟩ := net
  cases addr with
  | v4 | v6 => exact ⟨rfl, valid.2⟩

theorem shiftRight_xor_cleared {width : Nat} (bits start : BitVec width) (shift : Nat) :
    (bits ^^^ (start >>> shift <<< shift)) >>> shift = (bits ^^^ start) >>> shift := by
  apply BitVec.eq_of_getLsbD_eq
  intro index inside
  simp only [BitVec.getLsbD_ushiftRight, BitVec.getLsbD_xor, BitVec.getLsbD_shiftLeft]
  by_cases held : shift + index < width
  · simp [held]
  · simp [BitVec.getLsbD_of_ge _ _ (Nat.le_of_not_lt held)]

theorem Prefix.contains_masked (net : Prefix) (addr : Addr) :
    net.masked.contains addr = net.contains addr := by
  obtain ⟨start, _⟩ := net
  cases start with
  | v4 =>
    cases addr with
    | v4 =>
      simp only [masked, contains, shiftRight_xor_cleared]
      rfl
    | v6 => rfl
  | v6 _ zone =>
    cases addr with
    | v4 => rfl
    | v6 =>
      simp only [masked, contains, shiftRight_xor_cleared]
      rfl

theorem shiftLeft_cleared {width : Nat} (start : BitVec width) (shift : Nat) :
    start >>> shift <<< shift >>> shift <<< shift = start >>> shift <<< shift := by
  apply BitVec.eq_of_getLsbD_eq
  intro index inside
  simp only [BitVec.getLsbD_ushiftRight, BitVec.getLsbD_shiftLeft]
  by_cases low : index < shift
  · simp [low]
  · simp [low, Nat.add_sub_cancel' (Nat.le_of_not_lt low), inside]

theorem Prefix.masked_masked (net : Prefix) : net.masked.masked = net.masked := by
  obtain ⟨addr, _⟩ := net
  cases addr with
  | v4 start | v6 start =>
    simp only [masked, Prefix.mk.injEq, Addr.v4.injEq, Addr.v6.injEq, and_true]
    exact shiftLeft_cleared start _

theorem parsePrefix?_addr_string (addr : Addr) : parsePrefix? addr.string = none := by
  have slashless {text : List UInt8} (absent : 47 ∉ text) : parsePrefix? text = none := by
    simp [parsePrefix?, cutLast?, absent]
  cases addr with
  | v4 bits =>
    exact slashless fun slash => dottedText_all (p := (· ≠ 47)) (by decide) bits 47 slash rfl
  | v6 bits zone =>
    rw [string_v6]
    split
    · exact slashless fun slash => (mem_hostText slash).2 rfl
    cases parsed : parsePrefix? (hostText bits ++ 37 :: zone) with
    | none => rfl
    | some =>
      -- the slash stands in the zone, and a prefix has none
      obtain ⟨valid, host, behind, cut, found⟩ := parsePrefix?_eq_some parsed
      have slash : (47 : UInt8) ∉ hostText bits ++ [37] := by
        intro member
        rcases List.mem_append.mp member with inHost | percent
        · exact (mem_hostText inHost).2 rfl
        · cases List.mem_singleton.mp percent
      have split : (hostText bits ++ [37]) ++ zone = host ++ 47 :: behind := by
        rw [← cutLast?_eq_some cut]
        simp
      obtain ⟨inner, rfl⟩ : ∃ inner, host = (hostText bits ++ [37]) ++ inner := by
        rcases List.append_eq_append_iff.mp split with
          ⟨middle, shifted, -⟩ | ⟨middle, shifted, rest⟩
        · exact ⟨middle, shifted⟩
        cases middle with
        | nil => exact ⟨[], by rw [shifted]; simp⟩
        | cons =>
          cases rest
          exact absurd (by rw [shifted]; simp) slash
      rw [List.append_assoc, List.cons_append, List.nil_append, parseAddr?_zoned] at found
      split at found
      · cases found
      next present =>
        have zoneless := valid.1
        rw [← Option.some.inj found] at zoneless
        exact absurd zoneless (by simp [Addr.hasZone, present])

end Netip
