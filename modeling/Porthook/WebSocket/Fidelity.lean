import Porthook.WebSocket.Conveyance

/-!
# What arrives at the other leg

Every step of the tunnel moves the conveyors of a stream, so what is written to a leg is a prefix
of what the other one has read.  The loops may give up a message when their session is over, and go
on with the next one.  That is where the prefix is lost.
-/

namespace Porthook.WebSocket

open Protocol Gateway Transition

variable {Stream : Type} [DecidableEq Stream]

theorem other_ne (side : Side) : side.other ≠ side := by
  cases side <;> simp [Side.other]

theorem other_other (side : Side) : side.other.other = side := by
  cases side <;> rfl

theorem side_cases (actor side : Side) : actor = side ∨ actor = side.other := by
  cases actor <;> cases side <;> simp [Side.other]

section Views

variable {cfg : TunnelConfig Stream} {tunnel next : Tunnel Stream} {action : TunnelAction Stream}
  {side : Side} {stream : Stream}

theorem view_setEnd_sink (state : End) : (tunnel.setEnd side stream state).view cfg side stream =
    tunnel.between cfg side stream (tunnel.ends side.other stream) state := by
  unfold Tunnel.view
  rw [ends_setEnd, ends_setEnd, if_neg (fun same => other_ne side same.1), if_pos ⟨rfl, rfl⟩]
  rfl

theorem view_setEnd_source (state : End) :
    (tunnel.setEnd side.other stream state).view cfg side stream =
      tunnel.between cfg side stream state (tunnel.ends side stream) := by
  unfold Tunnel.view
  rw [ends_setEnd, ends_setEnd, if_pos ⟨rfl, rfl⟩, if_neg (fun same => other_ne side same.1.symm)]
  rfl

variable {own target : Stream} {actor : Side} {frame : Frame} {loop : Loop Stream}
    {rest : List (Stream × Frame)} {msg : Message}

theorem view_setEnd_other (other : stream ≠ own) (actor : Side) (state : End) :
    (tunnel.setEnd actor own state).view cfg side stream = tunnel.view cfg side stream := by
  unfold Tunnel.view
  rw [ends_setEnd, ends_setEnd, if_neg (fun same => other same.2),
    if_neg (fun same => other same.2)]
  rfl

theorem move_setEnd {state : End} (source : SourceMove (tunnel.ends actor own) state)
    (sink : SinkMove (tunnel.ends actor own) state)
    (isOpen : state.phase.isOpen = (tunnel.ends actor own).phase.isOpen)
    (opened : ∀ relay, (tunnel.ends actor own).phase = .relaying relay →
      (tunnel.ends actor.other own).phase.isOpen = true) :
    (tunnel.view cfg side stream).Move ((tunnel.setEnd actor own state).view cfg side stream) := by
  by_cases same : stream = own
  · subst same
    rcases side_cases actor side with rfl | rfl
    · rw [view_setEnd_sink]
      exact move_sink sink isOpen
    · rw [view_setEnd_source]
      rw [other_other] at opened
      exact move_source source opened
  · rw [view_setEnd_other same]
    exact .keep

theorem beltOf_append (link : List (Stream × Frame)) (own : Stream) (frame : Frame) :
    beltOf stream (link ++ [(own, frame)]) =
      beltOf stream link ++ if own = stream then (frameItem frame).toList else [] := by
  unfold beltOf
  rw [List.filterMap_append]
  by_cases same : own = stream
  · cases item : frameItem frame <;> simp [same, item]
  · simp [same]

theorem beltOf_cons (link : List (Stream × Frame)) (own : Stream) (frame : Frame) :
    beltOf stream ((own, frame) :: link) =
      (if own = stream then (frameItem frame).toList else []) ++ beltOf stream link := by
  unfold beltOf
  by_cases same : own = stream
  · cases item : frameItem frame <;> simp [same, item]
  · simp [same]

theorem view_setLink_other (link : List (Stream × Frame)) :
    (tunnel.setLink side link).view cfg side stream = tunnel.view cfg side stream := by
  unfold Tunnel.view Tunnel.between
  rw [link_setLink, if_neg (other_ne side)]
  rfl

theorem view_setLink (link : List (Stream × Frame)) :
    (tunnel.setLink side.other link).view cfg side stream =
      { tunnel.view cfg side stream with belt := beltOf stream link } := by
  unfold Tunnel.view Tunnel.between
  rw [link_setLink, if_pos rfl]
  rfl

theorem move_written
    (wellFormed : ∀ stream, receivedFrom 0 (cfg.stream stream).id = (cfg.stream stream).id)
    (outgoing : (tunnel.ends actor own).outgoing (cfg.stream own) = some (.ok frame))
    (sent : List Frame) :
    (tunnel.view cfg side stream).Move
      (((tunnel.setEnd actor own { (tunnel.ends actor own).afterWrite none with sent }).setLink
        actor (tunnel.link actor ++ [(own, frame)])).view cfg side stream) := by
  rcases side_cases actor side with rfl | rfl
  · rw [view_setLink_other]
    by_cases same : stream = own
    · subst same
      rw [view_setEnd_sink]
      have moved := (afterWrite_sink (tunnel.ends actor stream) none).sent sent
      refine move_sink moved ?_
      obtain ⟨before, after, _⟩ := outgoing_live outgoing none
      exact (isOpen_of_isLive after).trans (isOpen_of_isLive before).symm
    · rw [view_setEnd_other same]
      exact .keep
  · rw [view_setLink, beltOf_append]
    by_cases same : own = stream
    · subst same
      obtain ⟨msg, read, _, _, item, _⟩ := outgoing_read (wellFormed own) outgoing
      obtain ⟨legRead, hand, feeds⟩ := written_source outgoing
      have placed : frameItem frame = itemOf msg := by simp only [frameItem, read]
      rw [view_setEnd_source, if_pos rfl, placed, item]
      have after : ({ tunnel.between cfg side own
            { (tunnel.ends side.other own).afterWrite none with sent } (tunnel.ends side own) with
            belt := beltOf own (tunnel.link side.other) ++
              (tunnel.ends side.other own).phase.hand } : Conveyor Item) =
          { tunnel.view cfg side own with
            belt := beltOf own (tunnel.link side.other) ++ (tunnel.ends side.other own).phase.hand
            hand := [] } := by
        simp only [Tunnel.view, Tunnel.between, carry, legRead, hand, feeds]
      rw [after]
      exact .place
    · rw [view_setEnd_other (Ne.symm same), if_neg same, List.append_nil]
      exact .keep

theorem view_setTable (actor : Side) (id : StreamID) (entry : Option Stream) :
    (tunnel.setTable actor id entry).view cfg side stream =
      { tunnel.view cfg side stream with
        attached := (tunnel.setTable actor id entry).table side (cfg.stream stream).id =
          some stream } := rfl

theorem view_setTable_other (other : stream ≠ own)
    (free : ∀ side live, tunnel.table side (cfg.stream own).id = some live → live = own)
    (actor : Side) :
    (tunnel.setTable actor (cfg.stream own).id (some own)).view cfg side stream =
      tunnel.view cfg side stream := by
  have kept : ((tunnel.setTable actor (cfg.stream own).id (some own)).table side
      (cfg.stream stream).id = some stream) ↔
        tunnel.table side (cfg.stream stream).id = some stream := by
    rw [table_setTable]
    split
    next same =>
      constructor
      · intro entered
        cases entered
        exact absurd rfl other
      · intro tabled
        rw [same.2] at tabled
        exact absurd (free side stream tabled) other
    · exact Iff.rfl
  rw [view_setTable]
  simp only [kept]
  rfl

theorem move_opened {phase : Phase} (empty : tunnel.ends actor own = {})
    (opening : phase = .opening ∨ phase = .dialling)
    (free : ∀ side live, tunnel.table side (cfg.stream own).id = some live → live = own)
    {opened : Tunnel Stream}
    (named : opened = tunnel ∨ opened = tunnel.setTable actor (cfg.stream own).id (some own)) :
    (tunnel.view cfg side stream).Move
      ((opened.setEnd actor own { phase, queue := .make 64 }).view cfg side stream) := by
  have ends : opened.ends = tunnel.ends := by rcases named with rfl | rfl <;> rfl
  by_cases same : stream = own
  · subst same
    rcases side_cases actor side with rfl | rfl
    · have attached :
          (opened.setEnd actor stream { phase, queue := .make 64 }).view cfg actor stream =
          { tunnel.view cfg actor stream with
            opened := true
            attached := opened.table actor (cfg.stream stream).id = some stream } := by
        rw [view_setEnd_sink, ends]
        unfold Tunnel.view
        rw [empty]
        rcases opening with rfl | rfl <;> rcases named with rfl | rfl <;> rfl
      rw [attached]
      refine .attach _ ?_
      show (tunnel.ends actor stream).phase.isOpen = false
      rw [empty]
      rfl
    · have table : opened.table side (cfg.stream stream).id =
          tunnel.table side (cfg.stream stream).id := by
        rcases named with rfl | rfl
        · rfl
        · rw [table_setTable, if_neg (fun same => other_ne side same.1.symm)]
      have same : (opened.setEnd side.other stream { phase, queue := .make 64 }).view cfg side
          stream = tunnel.view cfg side stream := by
        rw [view_setEnd_source, ends]
        unfold Tunnel.view Tunnel.between
        rw [empty, table]
        rcases opening with rfl | rfl <;> rcases named with rfl | rfl <;> rfl
      rw [same]
      exact .keep
  · rw [view_setEnd_other same]
    rcases named with rfl | rfl
    · exact .keep
    · rw [view_setTable_other same free]
      exact .keep

theorem move_unnamed (actor : Side) (id : StreamID) : (tunnel.view cfg side stream).Move
      ((tunnel.setTable actor id none).view cfg side stream) := by
  rw [view_setTable, table_setTable]
  split
  · exact .detach
  · exact .keep

theorem view_closed (actor : Side) (own : Stream) (done : Bool) :
    (tunnel.setEnd actor own { tunnel.ends actor own with done }).view cfg side stream =
      tunnel.view cfg side stream := by
  by_cases same : stream = own
  · subst same
    rcases side_cases actor side with rfl | rfl
    · rw [view_setEnd_sink]
      rfl
    · rw [view_setEnd_source]
      rfl
  · exact view_setEnd_other same actor _

theorem view_ended {ending : Ending} (leaving : (tunnel.ends actor own).phase = .leaving ending) :
    (tunnel.setEnd actor own { tunnel.ends actor own with phase := .ended ending }).view cfg side
      stream = tunnel.view cfg side stream := by
  by_cases same : stream = own
  · subst same
    rcases side_cases actor side with rfl | rfl
    · rw [view_setEnd_sink]
      simp [Tunnel.view, Tunnel.between, carry, End.pending, leaving, Phase.drains, Phase.grip,
        Phase.isOpen]
    · rw [view_setEnd_source]
      simp only [Tunnel.view, Tunnel.between, carry, leaving, Phase.hand, Phase.feeds]
  · exact view_setEnd_other same actor _

theorem move_cleanUp {ending : Ending} (leaving : (tunnel.ends actor own).phase = .leaving ending) :
    (tunnel.view cfg side stream).Move
      (((tunnel.setEnd actor own { tunnel.ends actor own with phase := .ended ending }).remove cfg
        actor own).view cfg side stream) := by
  rw [← view_ended leaving]
  generalize tunnel.setEnd actor own { tunnel.ends actor own with phase := .ended ending } = ended
  unfold Tunnel.remove
  cases actor with
  | gateway => exact move_unnamed .gateway _
  | agent =>
    dsimp only
    split
    · exact .keep
    split
    · exact .keep
    next found isFound =>
      rw [← view_closed .agent found true]
      exact move_unnamed .agent _

theorem view_setLoop (loop : Loop Stream) : (tunnel.setLoop side loop).view cfg side stream =
    { tunnel.view cfg side stream with gate := gateOf stream loop } := by
  unfold Tunnel.view Tunnel.between
  rw [loop_setLoop, if_pos rfl]
  rfl

theorem view_setLoop_other (loop : Loop Stream) :
    (tunnel.setLoop side.other loop).view cfg side stream = tunnel.view cfg side stream := by
  unfold Tunnel.view Tunnel.between
  rw [loop_setLoop, if_neg (fun same => other_ne side same.symm)]
  rfl

theorem gateOf_idle (idle : ∀ target msg, loop ≠ .delivering target msg) :
    gateOf stream loop = [] := by
  cases loop with
  | delivering target msg => exact absurd rfl (idle target msg)
  | _ => rfl

theorem view_idle_loop (before : ∀ target msg, tunnel.loop actor ≠ .delivering target msg)
    (after : ∀ target msg, loop ≠ .delivering target msg) :
    (tunnel.setLoop actor loop).view cfg side stream = tunnel.view cfg side stream := by
  rcases side_cases actor side with rfl | rfl
  · rw [view_setLoop, gateOf_idle after, ← gateOf_idle before]
    rfl
  · exact view_setLoop_other loop

theorem view_stop (actor : Side) : (tunnel.stop actor).view cfg side stream =
    (tunnel.setLoop actor .stopped).view cfg side stream := by
  cases actor <;> rfl

theorem view_unlinked (link : tunnel.link actor.other = (own, frame) :: rest)
    (nothing : frameItem frame = none) :
    (tunnel.setLink actor.other rest).view cfg side stream = tunnel.view cfg side stream := by
  rcases side_cases actor side with rfl | rfl
  · have belt : beltOf stream (tunnel.link actor.other) = beltOf stream rest := by
      rw [link, beltOf_cons, nothing]
      simp
    rw [view_setLink, ← belt]
    rfl
  · rw [other_other, view_setLink_other]

theorem view_linked (nothing : frameItem frame = none) :
    (tunnel.setLink actor (tunnel.link actor ++ [(own, frame)])).view cfg side stream =
      tunnel.view cfg side stream := by
  rcases side_cases actor side with rfl | rfl
  · exact view_setLink_other _
  · rw [view_setLink, beltOf_append, nothing]
    simp only [Option.toList_none, ite_self, List.append_nil]
    rfl

theorem frameItem_other {own : StreamConfig}
    (isOther : isOtherFrame own frame) : frameItem frame = none := by
  unfold isOtherFrame at isOther
  unfold frameItem
  split
  · rfl
  next msg read =>
    rw [read] at isOther
    simp only [Bool.and_eq_true, Bool.not_eq_true'] at isOther
    apply itemOf_eq_none
    · intro isText
      rw [isText] at isOther
      exact absurd isOther.2 (by decide)
    · intro isBinary
      rw [isBinary] at isOther
      exact absurd isOther.2 (by decide)

theorem free_of_unique (inv : TunnelInv cfg tunnel)
    (unique : ∀ live, tunnel.Live live → (cfg.stream live).id = (cfg.stream own).id → live = own)
    (side : Side) (live : Stream)
    (tabled : tunnel.table side (cfg.stream own).id = some live) : live = own := by
  obtain ⟨id, isLive⟩ := inv.tabled side _ live tabled
  exact unique live (.inl ⟨side, isLive⟩) id

theorem belt_other {link : List (Stream × Frame)} (other : own ≠ stream)
    (isLink : link = (own, frame) :: rest) :
    beltOf stream rest = beltOf stream link := by
  rw [isLink, beltOf_cons, if_neg other]
  rfl

theorem move_found (inv : TunnelInv cfg tunnel) (reading : tunnel.loop actor = .reading)
    (link : tunnel.link actor.other = (own, frame) :: rest) (read : frame.read = .ok msg)
    (found : tunnel.table actor msg.envelope.streamID = some target) :
    (tunnel.view cfg side stream).Move
      (((tunnel.setLink actor.other rest).setLoop actor (.delivering target msg)).view cfg side
        stream) := by
  cases found_own inv link read found
  have isItem : frameItem frame = itemOf msg := by simp only [frameItem, read]
  rcases side_cases actor side with rfl | rfl
  · rw [view_setLoop, view_setLink]
    by_cases same : own = stream
    · subst same
      have belt : beltOf own (tunnel.link actor.other) =
          (itemOf msg).toList ++ beltOf own rest := by
        rw [link, beltOf_cons, if_pos rfl, isItem]
      have id := inv.framed actor.other own frame msg (by simp [link]) read
      rw [id] at found
      have gate : gateOf own (.delivering own msg) = (itemOf msg).toList := if_pos rfl
      rw [gate]
      exact .arrive _ _ belt (decide_eq_true found) (by
        show gateOf own (tunnel.loop actor) = []
        rw [reading]
        rfl)
    · have gate : gateOf stream (.delivering own msg) = gateOf stream (tunnel.loop actor) := by
        rw [reading]
        exact if_neg same
      rw [gate, belt_other same link]
      exact .keep
  · rw [view_setLoop_other, other_other, view_setLink_other]
    exact .keep

theorem move_dropped (inv : TunnelInv cfg tunnel) (reading : tunnel.loop actor = .reading)
    (link : tunnel.link actor.other = (own, frame) :: rest) (read : frame.read = .ok msg)
    (dropped : itemOf msg = none ∨ tunnel.table actor msg.envelope.streamID = none)
    (isLoop : loop = .reading ∨ loop = .busy) :
    (tunnel.view cfg side stream).Move
      (((tunnel.setLink actor.other rest).setLoop actor loop).view cfg side stream) := by
  have isItem : frameItem frame = itemOf msg := by simp only [frameItem, read]
  have idle : ∀ target msg,
      (tunnel.setLink actor.other rest).loop actor ≠ .delivering target msg := by
    simp [Tunnel.setLink, reading]
  rw [view_idle_loop idle (by rcases isLoop with rfl | rfl <;> simp)]
  rcases dropped with noItem | missing
  · rw [view_unlinked link (by rw [isItem, noItem])]
    exact .keep
  rcases side_cases actor side with rfl | rfl
  · rw [view_setLink]
    by_cases same : own = stream
    · subst same
      have id := inv.framed actor.other own frame msg (by simp [link]) read
      rw [id] at missing
      refine .drop (itemOf msg).toList _ ?_ (decide_eq_false (by simp [missing]))
      show beltOf own (tunnel.link actor.other) = _
      rw [link, beltOf_cons, if_pos rfl, isItem]
    · rw [belt_other same link]
      exact .keep
  · rw [other_other, view_setLink_other]
    exact .keep

theorem move_deliver {queue : Channel Message}
    (delivering : tunnel.loop actor = .delivering target msg)
    (sent : (tunnel.ends actor target).queue.send? msg = some queue)
    (kept : tunnel.lost actor target = false) :
    (tunnel.view cfg side stream).Move
      (((tunnel.setEnd actor target { tunnel.ends actor target with queue }).setLoop actor
        .reading).view cfg side stream) := by
  rcases side_cases actor side with rfl | rfl
  · rw [view_setLoop]
    by_cases same : target = stream
    · subst same
      have items := (Channel.send?_eq_some sent).2.1
      have gate : gateOf target (tunnel.loop actor) = (itemOf msg).toList := by
        rw [delivering]
        exact if_pos rfl
      have pending : End.pending { tunnel.ends actor target with queue } =
          if (tunnel.ends actor target).phase.drains then
            (tunnel.ends actor target).pending ++ gateOf target (tunnel.loop actor)
          else (tunnel.ends actor target).pending := by
        unfold End.pending
        split
        · rw [gate, items, List.filterMap_append]
          cases isItem : itemOf msg <;> simp [isItem]
        · rfl
      have passed : ({ tunnel.between cfg actor target (tunnel.ends actor.other target)
            { tunnel.ends actor target with queue } with gate := [] } : Conveyor Item) =
          { tunnel.view cfg actor target with
            queue := if (tunnel.ends actor target).phase.drains then
                (tunnel.ends actor target).pending ++ gateOf target (tunnel.loop actor)
              else (tunnel.ends actor target).pending
            gate := [] } := by
        simp only [Tunnel.view, Tunnel.between, carry, pending]
      rw [view_setEnd_sink]
      show Conveyor.Move _ { tunnel.between cfg actor target (tunnel.ends actor.other target)
        { tunnel.ends actor target with queue } with gate := [] }
      rw [passed]
      exact .pass kept
    · have gate : gateOf stream .reading = gateOf stream (tunnel.loop actor) := by
        rw [delivering]
        exact (if_neg same).symm
      rw [view_setEnd_other (Ne.symm same), gate]
      exact .keep
  · rw [view_setLoop_other]
    by_cases same : stream = target
    · subst same
      rw [view_setEnd_source]
      exact .keep
    · rw [view_setEnd_other same]
      exact .keep

theorem move_abandon (delivering : tunnel.loop actor = .delivering target msg) :
    (tunnel.view cfg side stream).Move
      (Tunnel.view cfg { tunnel.setLoop actor .reading with
        lost := Function.update tunnel.lost actor
          (Function.update (tunnel.lost actor) target true) } side stream) := by
  have abandoned : Tunnel.view cfg { tunnel.setLoop actor .reading with
        lost := Function.update tunnel.lost actor
          (Function.update (tunnel.lost actor) target true) } side stream =
      { (tunnel.setLoop actor .reading).view cfg side stream with
        lost := Function.update tunnel.lost actor
          (Function.update (tunnel.lost actor) target true) side stream } := rfl
  rw [abandoned]
  rcases side_cases actor side with rfl | rfl
  · rw [view_setLoop, Function.update_self]
    by_cases same : stream = target
    · subst same
      rw [Function.update_self]
      exact .giveUp
    · have gate : gateOf stream .reading = gateOf stream (tunnel.loop actor) := by
        rw [delivering]
        exact (if_neg (Ne.symm same)).symm
      rw [Function.update_of_ne same, gate]
      exact .keep
  · rw [view_setLoop_other, Function.update_of_ne (Ne.symm (other_ne side))]
    exact .keep

theorem sink_opened (inv : TunnelInv cfg tunnel) (origins : Origins tunnel) {relay : Relay}
    (relaying : (tunnel.ends actor stream).phase = .relaying relay) :
    (tunnel.ends actor.other stream).phase.isOpen = true := by
  rw [isOpen_iff]
  cases actor with
  | gateway => exact origins.answered stream (by rw [relaying]; rfl)
  | agent =>
    intro (idle : (tunnel.ends .gateway stream).phase = .idle)
    have unopened := (inv.early stream (by rw [idle]; rfl)).2
    rw [relaying] at unopened
    cases unopened

def Loop.target? : Loop Stream → Option Stream
  | .delivering target _ => some target
  | _ => none

/-- The condition on a delivery: no message of the stream was given up before. -/
def Tunnel.InSequence (tunnel : Tunnel Stream) : TunnelAction Stream → Prop
  | .deliver side => ∀ target ∈ (tunnel.loop side).target?, tunnel.lost side target = false
  | _ => True

theorem view_step
    (wellFormed : ∀ stream, receivedFrom 0 (cfg.stream stream).id = (cfg.stream stream).id)
    (inv : TunnelInv cfg tunnel) (origins : Origins tunnel) (distinct : tunnel.Distinct cfg action)
    (inSequence : tunnel.InSequence action) (stepped : TunnelStep cfg tunnel action next)
    (side : Side) (stream : Stream) :
    (tunnel.view cfg side stream).Move (next.view cfg side stream) := by
  have opened : ∀ {actor : Side} {own : Stream} (relay : Relay),
      (tunnel.ends actor own).phase = .relaying relay →
      (tunnel.ends actor.other own).phase.isOpen = true :=
    fun _ relaying => sink_opened inv origins relaying
  have unwritten : ∀ {actor : Side} {own : Stream} {built} (cause),
      (tunnel.ends actor own).outgoing (cfg.stream own) = some built →
      (tunnel.view cfg side stream).Move ((tunnel.setEnd actor own
        ((tunnel.ends actor own).afterWrite (some cause))).view cfg side stream) := by
    intro actor own built cause outgoing
    obtain ⟨before, after, _⟩ := outgoing_live outgoing (some cause)
    exact move_setEnd (unwritten_source _ cause) (afterWrite_sink _ _)
      ((isOpen_of_isLive after).trans (isOpen_of_isLive before).symm) opened
  cases stepped with
  | advance _ _ _ _ moved =>
    obtain ⟨before, after, _⟩ := endStep_live moved
    exact move_setEnd (endStep_source moved) (endStep_sink moved)
      ((isOpen_of_isLive after).trans (isOpen_of_isLive before).symm) opened
  | register own _ idle =>
    exact move_opened (inv.idle .gateway own idle) (.inl rfl) (free_of_unique inv distinct)
      (.inr rfl)
  | unbuilt _ _ _ outgoing => exact unwritten none outgoing
  | written _ _ _ outgoing => exact move_written wellFormed outgoing _
  | writeFailed _ _ cause _ outgoing => exact unwritten cause outgoing
  | cleanUp _ _ _ leaving => exact move_cleanUp leaving
  | broken actor _ _ rest _ reading link broken =>
    have idle : ∀ target msg,
        (tunnel.setLink actor.other rest).loop actor ≠ .delivering target msg := by
      simp [Tunnel.setLink, reading]
    rw [view_stop, view_idle_loop idle (by simp), view_unlinked link (by simp [frameItem, broken])]
    exact .keep
  | found _ _ _ _ _ _ reading link read found =>
    exact move_found inv reading link read found
  | dropped _ _ _ _ _ _ reading link read dropped isLoop =>
    exact move_dropped inv reading link read dropped isLoop
  | started own frame rest msg _ link read isOpen =>
    have member : (own, frame) ∈ tunnel.link .gateway := by simp [link]
    have free := free_of_unique inv fun live isLive same =>
      inv.unique live own isLive (.inr ⟨.gateway, frame, member⟩) same
    have empty : (tunnel.setLink .gateway rest).ends .agent own = {} :=
      inv.idle .agent own (idle_of_opening inv link read isOpen)
    have same : (tunnel.setLink Side.agent.other rest).view cfg side stream =
        tunnel.view cfg side stream :=
      view_unlinked link (by simp [frameItem, read, itemOf, isOpen])
    rw [inv.framed .gateway own frame msg member read, ← same]
    unfold Tunnel.start
    dsimp only
    split
    · exact move_opened empty (.inr rfl) free (.inl rfl)
    · exact move_opened empty (.inr rfl) free (.inr rfl)
  | readFailed _ reading =>
    rw [view_stop, view_idle_loop (by simp [reading]) (by simp)]
    exact .keep
  | deliver _ target _ _ delivering sent =>
    exact move_deliver delivering sent (inSequence target (by rw [delivering]; rfl))
  | abandon _ _ _ delivering => exact move_abandon delivering
  | resume _ busy =>
    rw [view_idle_loop (by simp [busy]) (by simp)]
    exact .keep
  | other _ _ _ _ isOther =>
    rw [view_linked (frameItem_other isOther)]
    exact .keep
  | connectionLost | closeDone | cancelContext => exact .keep

end Views

/-- What is written to a leg of a stream is a prefix of what its other leg has
read. -/
def Tunnel.Faithful (tunnel : Tunnel Stream) : Prop :=
  ∀ side stream, (tunnel.ends side stream).legWritten <+: (tunnel.ends side.other stream).legRead

theorem sound_initial (cfg : TunnelConfig Stream) (side : Side) (stream : Stream) :
    (Tunnel.view cfg {} side stream).Sound := by
  have detached : ∀ {goal : Prop}, (Tunnel.view cfg {} side stream).attached = true → goal := by
    intro goal attached
    have tabled : (none : Option Stream) = some stream := of_decide_eq_true attached
    cases tabled
  exact ⟨List.prefix_rfl, fun _ => List.prefix_rfl, fun _ _ => List.prefix_rfl,
    fun _ _ attached => detached attached, fun _ => ⟨rfl, rfl, rfl, rfl, rfl, rfl, rfl⟩, detached⟩

/-- In every run of streams with distinct live ids, both legs of every stream are faithful, as long
as nothing is delivered to a stream behind a message that its loop gave up. -/
theorem messages_faithful (cfg : TunnelConfig Stream)
    (wellFormed : ∀ stream, receivedFrom 0 (cfg.stream stream).id = (cfg.stream stream).id)
    (actions : List (TunnelAction Stream))
    (distinct : Guarded (Tunnel.step cfg) (Tunnel.Distinct cfg) {} actions)
    (inSequence : Guarded (Tunnel.step cfg) Tunnel.InSequence {} actions) :
    Always (Tunnel.step cfg) Tunnel.Faithful {} actions := by
  have kept : Always (Tunnel.step cfg) (fun tunnel => TunnelInv cfg tunnel ∧ Origins tunnel ∧
      ∀ side stream, (tunnel.view cfg side stream).Sound) {} actions := by
    refine always_of_guarded ?_ ⟨tunnelInv_initial cfg, origins_initial, sound_initial cfg⟩
      (distinct.and inSequence)
    rintro _ _ _ ⟨inv, origins, sound⟩ ⟨distinct, inSequence⟩ stepped
    have moved := tunnel_step_inv stepped
    exact ⟨tunnelInv_step wellFormed inv distinct moved, origins_step wellFormed inv origins moved,
      fun side stream => (sound side stream).move
        (view_step wellFormed inv origins distinct inSequence moved side stream)⟩
  exact kept.mono fun _ invs side stream => (invs.2.2 side stream).left

instance (tunnel : Tunnel Stream) (action : TunnelAction Stream) :
    Decidable (tunnel.InSequence action) :=
  match action with
  | .deliver side =>
    inferInstanceAs (Decidable (∀ target ∈ (tunnel.loop side).target?, _ = false))
  | .advance _ _ _ | .register _ | .write _ _ | .writeFailed _ _ _ | .cleanUp _ _ | .read _
  | .readFailed _ | .abandon _ | .resume _ | .other _ _ _ | .connectionLost | .closeDone
  | .cancelContext _ => isTrue trivial

def acceptChat (stream : Bool) : List (TunnelAction Bool) :=
  [.register stream, .write .gateway stream, .read .agent, .advance .agent stream (.dialled []),
    .write .agent stream]

def sendItem (side : Side) (stream : Bool) (item : Item) : List (TunnelAction Bool) :=
  [.advance side stream (.relay (.read item)), .write side stream]

def handleItem (side : Side) (stream : Bool) : List (TunnelAction Bool) :=
  [.advance side stream (.relay .take), .advance side stream (.relay .handle)]

/-- The local service sends two messages.  The session ends while the gateway
delivers the first one, which is given up; the second one gets through. -/
def gapRun : List (TunnelAction Bool) :=
  acceptChat true ++ [.read .gateway, .deliver .gateway, .advance .gateway true .answer,
      .advance .gateway true .upgraded] ++
    sendItem .agent true ⟨.text, ascii "one"⟩ ++ sendItem .agent true ⟨.text, ascii "two"⟩ ++
    [.read .gateway, .closeDone, .abandon .gateway, .read .gateway, .deliver .gateway] ++
    handleItem .gateway true

theorem messages_with_gap : ∃ tunnel, exec (Tunnel.step chatConfig) {} gapRun = some tunnel ∧
      (tunnel.ends .agent true).legRead = [⟨.text, ascii "one"⟩, ⟨.text, ascii "two"⟩] ∧
      (tunnel.ends .gateway true).legWritten = [⟨.text, ascii "two"⟩] ∧ ¬ tunnel.Faithful := by
  refine ⟨_, rfl, rfl, rfl, fun faithful => ?_⟩
  exact absurd (faithful .gateway true) (by decide +kernel)

/-- Two streams at a time; on the first one the local service greets before the
public handshake is over, and is answered. -/
def greetingRun : List (TunnelAction Bool) :=
  acceptChat true ++ acceptChat false ++ sendItem .agent true ⟨.text, ascii "hello"⟩ ++
    [.read .gateway, .deliver .gateway, .advance .gateway true .answer, .read .gateway,
      .deliver .gateway, .read .gateway, .deliver .gateway, .advance .gateway true .upgraded] ++
    handleItem .gateway true ++ sendItem .gateway true ⟨.binary, [1, 2]⟩ ++
    [.read .agent, .deliver .agent] ++ handleItem .agent true

theorem messages_faithful_greeting :
    (∃ tunnel, exec (Tunnel.step chatConfig) {} greetingRun = some tunnel ∧
      (tunnel.ends .gateway true).legWritten = [⟨.text, ascii "hello"⟩] ∧
      (tunnel.ends .agent true).legWritten = [⟨.binary, [1, 2]⟩]) ∧
    Always (Tunnel.step chatConfig) Tunnel.Faithful {} greetingRun :=
  ⟨⟨_, rfl, rfl, rfl⟩, messages_faithful chatConfig (by decide +kernel) greetingRun
    (guarded_distinct (by decide +kernel) {} greetingRun) (by decide +kernel)⟩

end Porthook.WebSocket
