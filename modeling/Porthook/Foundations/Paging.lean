import Mathlib.Data.List.Pairwise
import Mathlib.Order.Lattice
import Porthook.Foundations.Transition

/-!
# Reading a changing store page by page

A page has the wanted entries with the greatest keys below a cursor, in falling order, and its
last key is the cursor of the next page.  `Exact` holds at every point of a walk over such pages:
each page keeps it, and so does each change that brings back nothing that was there before.
-/

namespace Paging

universe u v

variable {Entry : Type u} {Key : Type v} [LinearOrder Key] (key : Entry → Key)

/-- One page of what is stored, and the cursor of the next if there is one. -/
structure IsPage (stored wanted : Entry → Prop) (cursor : Option Key) (page : List Entry)
    (next : Option Key) : Prop where
  falling : page.Pairwise fun first second => key second < key first
  sound : ∀ entry ∈ page, wanted entry
  below : ∀ entry ∈ page, ∀ bound ∈ cursor, key entry < bound
  cut : ∀ bound ∈ next, ∀ entry ∈ page, bound ≤ key entry
  advances : ∀ bound ∈ next, ∀ before ∈ cursor, bound < before
  complete : ∀ entry, stored entry → wanted entry → (∀ bound ∈ cursor, key entry < bound) →
    entry ∈ page ∨ ∃ bound ∈ next, key entry < bound

/-- The key of the last entry of a page that leaves something out. -/
def nextKey (found : List Entry) (limit : Nat) : Option Key :=
  if limit < found.length then ((found.take limit).getLast?).map key else none

variable {key} {stored wanted : Entry → Prop}

omit [LinearOrder Key] in
theorem nextKey_eq_some {found : List Entry} {limit : Nat} {bound : Key}
    (last : nextKey key found limit = some bound) :
    ∃ front final, found.take limit = front ++ [final] ∧ key final = bound := by
  unfold nextKey at last
  split at last
  · obtain ⟨final, isLast, same⟩ := Option.map_eq_some_iff.mp last
    obtain ⟨front, shape⟩ := List.getLast?_eq_some_iff.mp isLast
    exact ⟨front, final, shape, same⟩
  · cases last

theorem isPage_take {found : List Entry} {cursor : Option Key} {limit : Nat}
    (positive : 0 < limit) (falling : found.Pairwise fun first second => key second < key first)
    (sound : ∀ entry ∈ found, wanted entry ∧ ∀ bound ∈ cursor, key entry < bound)
    (complete : ∀ entry, stored entry → wanted entry → (∀ bound ∈ cursor, key entry < bound) →
      entry ∈ found) :
    IsPage key stored wanted cursor (found.take limit) (nextKey key found limit) where
  falling := falling.sublist (List.take_sublist _ _)
  sound entry member := (sound entry (List.mem_of_mem_take member)).1
  below entry member := (sound entry (List.mem_of_mem_take member)).2
  cut bound last entry member := by
    obtain ⟨_, final, shape, rfl⟩ := nextKey_eq_some last
    have page := falling.sublist (List.take_sublist limit _)
    rw [shape] at member page
    rcases List.mem_append.mp member with earlier | same
    · exact le_of_lt ((List.pairwise_append.mp page).2.2 entry earlier final (by simp))
    · rw [List.mem_singleton.mp same]
  advances bound last before set := by
    obtain ⟨_, final, shape, rfl⟩ := nextKey_eq_some last
    have member : final ∈ found.take limit := by simp [shape]
    exact (sound final (List.mem_of_mem_take member)).2 before set
  complete entry isStored isWanted ahead := by
    have member := complete entry isStored isWanted ahead
    rw [← List.take_append_drop limit found] at member falling
    rcases List.mem_append.mp member with here | later
    · exact .inl here
    have more : limit < found.length := by
      have := List.length_pos_of_mem later
      rw [List.length_drop] at this
      omega
    have nonempty : found.take limit ≠ [] := by
      rw [ne_eq, List.take_eq_nil_iff, not_or]
      exact ⟨by omega, List.ne_nil_of_length_pos (by omega)⟩
    refine .inr ⟨key ((found.take limit).getLast nonempty), ?_, ?_⟩
    · rw [nextKey, if_pos more, List.getLast?_eq_some_getLast nonempty]
      rfl
    · exact (List.pairwise_append.mp falling).2.2 _ (List.getLast_mem nonempty) entry later

/-- Where the next page begins, what was returned so far, and whether that was all. -/
structure Walk (Entry : Type u) (Key : Type v) where
  cursor : Option Key
  returned : List Entry
  finished : Bool

variable (key) in
/-- What was returned falls, was wanted, and leaves nothing out: what was stored at the
first read and still is has been returned, or is still ahead. -/
structure Exact (first stored wanted : Entry → Prop) (walk : Walk Entry Key) : Prop where
  falling : walk.returned.Pairwise fun first second => key second < key first
  sound : ∀ entry ∈ walk.returned, wanted entry
  behind : ∀ bound ∈ walk.cursor, ∀ entry ∈ walk.returned, bound ≤ key entry
  begun : walk.cursor = none → walk.finished = false → walk.returned = []
  complete : ∀ entry, first entry → stored entry → wanted entry →
    entry ∈ walk.returned ∨ walk.finished = false ∧ ∀ bound ∈ walk.cursor, key entry < bound

variable {first : Entry → Prop} {walk : Walk Entry Key}

theorem exact_initial : Exact key first stored wanted (⟨none, [], false⟩ : Walk Entry Key) where
  falling := List.Pairwise.nil
  sound _ member := by cases member
  behind _ set := by cases set
  begun _ _ := rfl
  complete _ _ _ _ := .inr ⟨rfl, by rintro _ ⟨⟩⟩

theorem Exact.turn (before : Exact key first stored wanted walk)
    (unfinished : walk.finished = false) {page : List Entry} {next : Option Key}
    (read : IsPage key stored wanted walk.cursor page next) :
    Exact key first stored wanted ⟨next, walk.returned ++ page, next.isNone⟩ where
  falling := by
    refine List.pairwise_append.mpr ⟨before.falling, read.falling, fun old earlier new later => ?_⟩
    cases cursor : walk.cursor with
    | none =>
      rw [before.begun cursor unfinished] at earlier
      cases earlier
    | some bound =>
      exact lt_of_lt_of_le (read.below new later bound cursor)
        (before.behind bound cursor old earlier)
  sound entry member := by
    rcases List.mem_append.mp member with earlier | later
    · exact before.sound entry earlier
    · exact read.sound entry later
  behind bound set entry member := by
    rcases List.mem_append.mp member with earlier | later
    · cases cursor : walk.cursor with
      | none =>
        rw [before.begun cursor unfinished] at earlier
        cases earlier
      | some limit =>
        exact le_of_lt (lt_of_lt_of_le (read.advances bound set limit cursor)
          (before.behind limit cursor entry earlier))
    · exact read.cut bound set entry later
  begun last unfinished := by
    simp only at last unfinished
    rw [last] at unfinished
    cases unfinished
  complete entry was is isWanted := by
    rcases before.complete entry was is isWanted with earlier | ⟨-, ahead⟩
    · exact .inl (List.mem_append_left _ earlier)
    rcases read.complete entry is isWanted ahead with here | ⟨bound, set, later⟩
    · exact .inl (List.mem_append_right _ here)
    refine .inr ⟨?_, fun other same => ?_⟩
    · rw [show next = some bound from set]
      rfl
    · rw [show other = bound from Option.mem_unique same set]
      exact later

theorem Exact.mono (before : Exact key first stored wanted walk) {first' stored' : Entry → Prop}
    (nothingBack : ∀ entry, first' entry → stored' entry → first entry ∧ stored entry) :
    Exact key first' stored' wanted walk :=
  { before with
    complete := fun entry was is isWanted =>
      before.complete entry (nothingBack entry was is).1 (nothingBack entry was is).2 isWanted }

/-- A store that changes, and that is read with a text which says where to begin.  A read gives a
page and the text for the next; the empty text is the first page's, and the last one's answer. -/
structure Source (Store Change Read Entry Symbol : Type) where
  stored : Store → List Entry
  change : Store → Change → Option Store
  read : Store → Read → List Symbol → Option (List Entry × List Symbol)

structure Reading (Store Entry Symbol : Type) where
  store : Store
  first : Option (List Entry) := none
  cursor : List Symbol := []
  returned : List Entry := []
  finished : Bool := false
  refused : Bool := false

inductive Move (Change Read : Type) where
  | change (change : Change)
  | read (read : Read)

section Reading

variable {Store Change Read Entry Symbol : Type}

def Source.step (source : Source Store Change Read Entry Symbol)
    (state : Reading Store Entry Symbol) :
    Move Change Read → Option (Reading Store Entry Symbol)
  | .change change =>
    (source.change state.store change).map fun store => { state with store }
  | .read read =>
    if state.finished ∨ state.refused then none
    else
      match source.read state.store read state.cursor with
      | none => some { state with refused := true }
      | some (page, next) =>
        some { state with
          first := some (state.first.getD (source.stored state.store))
          cursor := next
          returned := state.returned ++ page
          finished := next.isEmpty }

variable {Key : Type} [LinearOrder Key]

/-- What was returned falls strictly and is wanted; a walk that has ended has returned all that was
wanted and stored at its beginning and is stored still; and only what has a reason to be refused is.
-/
structure Source.Exactly (source : Source Store Change Read Entry Symbol) (key : Entry → Key)
    (wanted : Entry → Prop) (refuses : Prop) (state : Reading Store Entry Symbol) : Prop where
  falling : state.returned.Pairwise fun first second => key second < key first
  sound : ∀ entry ∈ state.returned, wanted entry
  complete : state.finished = true → ∀ first ∈ state.first, ∀ entry ∈ first,
    entry ∈ source.stored state.store → wanted entry → entry ∈ state.returned
  answered : state.refused = true → refuses

def OpensAt (opens : List Symbol → Key → Prop) (text : List Symbol) : Option Key → Prop
  | none => text = []
  | some bound => text ≠ [] ∧ opens text bound

/-- Cut what was found to so many entries.  One more shows that there is another page, which
begins after the last entry of this one. -/
def cut (encode : Entry → List Symbol) (limit : Nat) (found : List Entry) :
    List Entry × List Symbol :=
  if found.length ≤ limit then (found, [])
  else (found.take limit, (((found.take limit).getLast?).map encode).getD [])

theorem cut_fst (encode : Entry → List Symbol) (limit : Nat) (found : List Entry) :
    (cut encode limit found).1 = found.take limit := by
  unfold cut
  split
  next short => exact (List.take_of_length_le short).symm
  · rfl

theorem cut_take (encode : Entry → List Symbol) (limit : Nat) (found : List Entry) :
    cut encode limit (found.take (limit + 1)) = cut encode limit found := by
  unfold cut
  rw [List.length_take, List.take_take, Nat.min_eq_left (Nat.le_succ limit)]
  by_cases short : found.length ≤ limit
  · rw [if_pos (by omega), if_pos short, List.take_of_length_le (by omega)]
  · rw [if_neg (by omega), if_neg short]

/-- A page cut from all the entries below the cursor, each of which the text made from it
opens at. -/
theorem isPage_cut {encode : Entry → List Symbol} {opens : List Symbol → Key → Prop}
    {key : Entry → Key} {stored wanted : Entry → Prop} {found : List Entry}
    {cursor : Option Key} {limit : Nat} (positive : 0 < limit)
    (falling : found.Pairwise fun first second => key second < key first)
    (sound : ∀ entry ∈ found, wanted entry ∧ ∀ bound ∈ cursor, key entry < bound)
    (complete : ∀ entry, stored entry → wanted entry → (∀ bound ∈ cursor, key entry < bound) →
      entry ∈ found)
    (encoded : ∀ entry ∈ found, encode entry ≠ [] ∧ opens (encode entry) (key entry)) :
    ∃ page next bound, cut encode limit found = (page, next) ∧ OpensAt opens next bound ∧
      IsPage key stored wanted cursor page bound := by
  refine ⟨found.take limit, (cut encode limit found).2, nextKey key found limit, ?_, ?_,
    isPage_take positive falling sound complete⟩
  · unfold cut
    split
    next short => rw [List.take_of_length_le short]
    · rfl
  · unfold cut nextKey
    by_cases short : found.length ≤ limit
    · rw [if_pos short, if_neg (by omega)]
      rfl
    · rw [if_neg short, if_pos (by omega)]
      cases last : (found.take limit).getLast? with
      | none => rfl
      | some final => exact encoded final (List.mem_of_mem_take (List.mem_of_getLast? last))

/-- What one change and one read have to do.  `spent` is what the store has held so far or
will not give out again. -/
structure Source.Pages (source : Source Store Change Read Entry Symbol) (key : Entry → Key)
    (wanted : Entry → Prop) (refuses : Prop) (guard : Store → Move Change Read → Prop)
    (kept : Store → Prop) (spent : Store → Entry → Prop)
    (opens : List Symbol → Key → Prop) : Prop where
  changed : ∀ store change next, kept store → guard store (.change change) →
    source.change store change = some next →
    kept next ∧ (∀ entry, spent store entry → spent next entry) ∧
      ∀ entry ∈ source.stored next, entry ∈ source.stored store ∨ ¬ spent store entry
  held : ∀ store, kept store → ∀ entry ∈ source.stored store, spent store entry
  paged : ∀ store read text cursor, kept store → guard store (.read read) →
    OpensAt opens text cursor →
    (source.read store read text = none ∧ refuses) ∨
    ∃ page next bound, source.read store read text = some (page, next) ∧ OpensAt opens next bound ∧
      IsPage key (· ∈ source.stored store) wanted cursor page bound

variable {source : Source Store Change Read Entry Symbol} {key : Entry → Key}
  {wanted : Entry → Prop} {refuses : Prop} {guard : Store → Move Change Read → Prop}
  {kept : Store → Prop} {spent : Store → Entry → Prop} {opens : List Symbol → Key → Prop}

/-- What every move keeps: the texts stand for the cursors of a walk that is exact. -/
structure Reading.Follows (source : Source Store Change Read Entry Symbol) (key : Entry → Key)
    (wanted : Entry → Prop) (refuses : Prop) (kept : Store → Prop)
    (spent : Store → Entry → Prop) (opens : List Symbol → Key → Prop)
    (state : Reading Store Entry Symbol) : Prop where
  kept : kept state.store
  unread : state.first = none → state.cursor = [] ∧ state.returned = [] ∧ state.finished = false
  spent : ∀ first ∈ state.first, ∀ entry ∈ first, spent state.store entry
  walk : ∃ cursor : Option Key, (state.finished = false → OpensAt opens state.cursor cursor) ∧
    Exact key (fun entry => ∀ first ∈ state.first, entry ∈ first)
      (· ∈ source.stored state.store) wanted ⟨cursor, state.returned, state.finished⟩
  answered : state.refused = true → refuses

theorem Reading.follows_initial {store : Store} (initial : kept store) :
    Reading.Follows source key wanted refuses kept spent opens { store := store } where
  kept := initial
  unread _ := ⟨rfl, rfl, rfl⟩
  spent _ set := by cases set
  walk := ⟨none, fun _ => rfl, exact_initial⟩
  answered refused := by cases refused

variable {state : Reading Store Entry Symbol}

theorem Reading.Follows.change (pages : source.Pages key wanted refuses guard kept spent opens)
    {change : Change} {next : Store}
    (follows : state.Follows source key wanted refuses kept spent opens)
    (permitted : guard state.store (.change change))
    (changed : source.change state.store change = some next) :
    Reading.Follows source key wanted refuses kept spent opens { state with store := next } := by
  obtain ⟨stillKept, stillSpent, fresh⟩ :=
    pages.changed state.store change next follows.kept permitted changed
  refine ⟨stillKept, follows.unread, fun first set entry member =>
    stillSpent entry (follows.spent first set entry member), ?_, follows.answered⟩
  obtain ⟨cursor, opened, walked⟩ := follows.walk
  cases read : state.first with
  | none =>
    -- nothing was read yet, so everything is still ahead
    obtain ⟨unopened, nothing, unfinished⟩ := follows.unread read
    refine ⟨none, fun _ => unopened, ?_⟩
    simp only [nothing, unfinished]
    exact exact_initial
  | some first =>
    refine ⟨cursor, opened, walked.mono fun entry was is => ?_⟩
    have among : entry ∈ first := was first rfl
    refine ⟨fun other same => ?_, ?_⟩
    · rw [Option.mem_unique same read]
      exact among
    · rcases fresh entry is with before | unspent
      · exact before
      · exact absurd (follows.spent first read entry among) unspent

theorem Reading.Follows.read (pages : source.Pages key wanted refuses guard kept spent opens)
    {page : List Entry} {text : List Symbol} {cursor bound : Option Key}
    (follows : state.Follows source key wanted refuses kept spent opens)
    (unfinished : state.finished = false)
    (walked : Exact key (fun entry => ∀ first ∈ state.first, entry ∈ first)
      (· ∈ source.stored state.store) wanted ⟨cursor, state.returned, state.finished⟩)
    (opened : OpensAt opens text bound)
    (isPage : IsPage key (· ∈ source.stored state.store) wanted cursor page bound) :
    Reading.Follows source key wanted refuses kept spent opens
      { state with
        first := some (state.first.getD (source.stored state.store))
        cursor := text
        returned := state.returned ++ page
        finished := text.isEmpty } := by
  have ended : bound.isNone = text.isEmpty := by
    cases bound with
    | none => rw [show text = [] from opened]; rfl
    | some => simp [opened.1]
  refine ⟨follows.kept, fun none => (by cases none), fun first set entry member => ?_,
    ⟨bound, fun _ => opened, ?_⟩, follows.answered⟩
  · cases read : state.first with
    | none =>
      simp only [read, Option.getD_none, Option.mem_def, Option.some.injEq] at set
      exact pages.held state.store follows.kept entry (set ▸ member)
    | some before =>
      simp only [read, Option.getD_some, Option.mem_def, Option.some.injEq] at set
      exact follows.spent before read entry (set ▸ member)
  · rw [← ended]
    refine (walked.turn unfinished isPage).mono fun entry was is => ⟨fun first read => ?_, is⟩
    have among := was _ rfl
    rwa [show state.first = some first from read] at among

theorem Reading.Follows.step (pages : source.Pages key wanted refuses guard kept spent opens)
    (state : Reading Store Entry Symbol) (move : Move Change Read)
    (next : Reading Store Entry Symbol)
    (follows : state.Follows source key wanted refuses kept spent opens)
    (permitted : guard state.store move) (stepped : source.step state move = some next) :
    next.Follows source key wanted refuses kept spent opens := by
  cases move with
  | change =>
    obtain ⟨_, changed, rfl⟩ := Option.map_eq_some_iff.mp stepped
    exact follows.change pages permitted changed
  | read read =>
    obtain ⟨cursor, opened, walked⟩ := follows.walk
    simp only [Source.step] at stepped
    split at stepped
    · cases stepped
    next going =>
      have unfinished : state.finished = false := by simp_all
      rcases pages.paged state.store read state.cursor cursor follows.kept permitted
        (opened unfinished) with ⟨refused, reason⟩ | ⟨page, text, bound, answer, further, isPage⟩
      · rw [refused] at stepped
        cases stepped
        exact { follows with answered := fun _ => reason }
      · rw [answer] at stepped
        cases stepped
        exact follows.read pages unfinished walked further isPage

theorem Reading.Follows.exactly
    (follows : state.Follows source key wanted refuses kept spent opens) :
    source.Exactly key wanted refuses state := by
  obtain ⟨_, -, walked⟩ := follows.walk
  refine ⟨walked.falling, walked.sound, fun ended first read entry member is isWanted => ?_,
    follows.answered⟩
  have was : ∀ list ∈ state.first, entry ∈ list := fun list same => by
    rw [Option.mem_unique same read]
    exact member
  rcases walked.complete entry was is isWanted with returned | ⟨unfinished, -⟩
  · exact returned
  · simp only [ended, Bool.true_eq_false] at unfinished

/-- In every run whose moves meet the guard, whatever the changes between the reads. -/
theorem always_exactly (pages : source.Pages key wanted refuses guard kept spent opens)
    {store : Store} (initial : kept store) {moves : List (Move Change Read)}
    (guarded : Transition.Guarded source.step (fun state move => guard state.store move)
      { store := store } moves) :
    Transition.Always source.step (source.Exactly key wanted refuses) { store := store } moves :=
  Transition.Always.mono (fun _ follows => Reading.Follows.exactly follows)
    (Transition.always_of_guarded (Reading.Follows.step pages)
      (Reading.follows_initial initial) guarded)

end Reading

section Still

variable {Entry Symbol : Type}

def follow (read : List Symbol → Option (List Entry × List Symbol)) :
    Nat → List Symbol → Option (List (List Entry))
  | 0, _ => some []
  | pages + 1, text =>
    (read text).bind fun (page, next) =>
      if next = [] then some [page] else (follow read pages next).map (page :: ·)

def chunks (limit : Nat) : Nat → List Entry → List (List Entry)
  | 0, _ => []
  | pages + 1, found =>
    if found.length ≤ limit then [found]
    else found.take limit :: chunks limit pages (found.drop limit)

theorem chunks_map {Other : Type} (f : Entry → Other) (limit pages : Nat) (found : List Entry) :
    chunks limit pages (found.map f) = (chunks limit pages found).map (List.map f) := by
  induction pages generalizing found with
  | zero => rfl
  | succ _ ih =>
    simp only [chunks, List.length_map, ← List.map_take, ← List.map_drop, ih]
    split <;> rfl

theorem filter_below {Key : Type} [LinearOrder Key] (key : Entry → Key)
    {front rest : List Entry} {last : Entry}
    (falling : (front ++ last :: rest).Pairwise fun first second => key second < key first) :
    (front ++ last :: rest).filter (fun entry => key entry < key last) = rest := by
  obtain ⟨-, behind, before⟩ := List.pairwise_append.mp falling
  have above : front.filter (fun entry => key entry < key last) = [] := by
    refine List.filter_eq_nil_iff.mpr fun entry member => ?_
    have := before entry member last List.mem_cons_self
    simpa using le_of_lt this
  have below : rest.filter (fun entry => key entry < key last) = rest := by
    refine List.filter_eq_self.mpr fun entry member => ?_
    simpa using (List.pairwise_cons.mp behind).1 entry member
  rw [List.filter_append, above, List.filter_cons_of_neg (by simp), below, List.nil_append]

/-- Where each read goes on behind the entry that its text was made from, the pages are the
pieces of what there is to find. -/
theorem follow_eq_chunks {read : List Symbol → Option (List Entry × List Symbol)}
    (encode : Entry → List Symbol) {found : List Entry} {limit : Nat} (positive : 0 < limit)
    (opening : read [] = some (cut encode limit found))
    (further : ∀ front last rest, found = front ++ last :: rest →
      encode last ≠ [] ∧ read (encode last) = some (cut encode limit rest)) (pages : Nat) :
    follow read pages [] = some (chunks limit pages found) := by
  -- what is left to find, behind what was returned already
  suffices general : ∀ pages front rest text, found = front ++ rest →
      read text = some (cut encode limit rest) →
      follow read pages text = some (chunks limit pages rest) from
    general pages [] found [] rfl opening
  intro pages
  induction pages with
  | zero => intros; rfl
  | succ _ ih =>
    intro front rest text whole answer
    rw [follow, answer, Option.bind_some, chunks]
    by_cases short : rest.length ≤ limit
    · rw [cut, if_pos short, if_pos short]
      rfl
    · have nonempty : rest.take limit ≠ [] := by
        rw [ne_eq, List.take_eq_nil_iff, not_or]
        exact ⟨by omega, List.ne_nil_of_length_pos (by omega)⟩
      obtain ⟨before, last, shape⟩ :=
        (List.eq_nil_or_concat (rest.take limit)).resolve_left nonempty
      have behind : found = (front ++ before) ++ last :: rest.drop limit :=
        calc found = front ++ rest := whole
          _ = front ++ (before.concat last ++ rest.drop limit) := by
            rw [← shape, List.take_append_drop]
          _ = (front ++ before) ++ last :: rest.drop limit := by simp
      obtain ⟨encoded, next⟩ := further _ _ _ behind
      have cutAs : cut encode limit rest = (rest.take limit, encode last) := by
        rw [cut, if_neg short, shape]
        simp
      rw [cutAs, if_neg short]
      simp only [if_neg encoded]
      rw [ih (front ++ rest.take limit) (rest.drop limit) (encode last)
        (by rw [whole, List.append_assoc, List.take_append_drop]) next]
      rfl

end Still

end Paging
