import Porthook.Foundations.Conveyor
import Porthook.WebSocket.Origins

/-!
# The ends of a direction

The messages that one leg of a stream reads are carried to the other one as on a conveyor: by the
hand of the pump onto the connection, through the loop that reads it, into the queue of the stream,
and by the grip of the other pump to its leg.  Here is what the two ends do to their conveyors.
-/

namespace Porthook.WebSocket

open Protocol Gateway Transition

variable {Stream : Type} [DecidableEq Stream]

def Phase.isOpen : Phase → Bool
  | .idle => false
  | _ => true

def Reader.feeds : Reader → Bool
  | .reading | .sending _ => true
  | _ => false

def Phase.feeds : Phase → Bool
  | .refusing | .failing _ _ | .leaving _ | .ended _ => false
  | .relaying relay => relay.reader.feeds
  | _ => true

def Writer.drains : Writer → Bool
  | .returned => false
  | _ => true

def Phase.drains : Phase → Bool
  | .refusing | .failing _ _ | .leaving _ | .ended _ => false
  | .relaying relay => relay.writer.drains
  | _ => true

def Writer.grip : Writer → List Item
  | .handling msg => (itemOf msg).toList
  | _ => []

def Phase.grip : Phase → List Item
  | .relaying relay => relay.writer.grip
  | _ => []

def End.pending (state : End) : List Item :=
  if state.phase.drains then state.queue.items.filterMap itemOf else []

def carry (source sink : End) (belt gate : List Item) (attached lost : Bool) : Conveyor Item where
  entered := source.legRead
  hand := source.phase.hand
  belt := belt
  gate := gate
  queue := sink.pending
  grip := sink.phase.grip
  left := sink.legWritten
  fed := source.phase.feeds
  opened := sink.phase.isOpen
  attached := attached
  lost := lost
  running := sink.phase.drains

def frameItem (frame : Frame) : Option Item :=
  match frame.read with
  | .error _ => none
  | .ok msg => itemOf msg

def beltOf (stream : Stream) (link : List (Stream × Frame)) : List Item :=
  link.filterMap fun entry => if entry.1 = stream then frameItem entry.2 else none

def gateOf (stream : Stream) : Loop Stream → List Item
  | .delivering target msg => if target = stream then (itemOf msg).toList else []
  | _ => []

def Tunnel.between (cfg : TunnelConfig Stream) (tunnel : Tunnel Stream) (side : Side)
    (stream : Stream) (source sink : End) : Conveyor Item :=
  carry source sink (beltOf stream (tunnel.link side.other)) (gateOf stream (tunnel.loop side))
    (tunnel.table side (cfg.stream stream).id = some stream) (tunnel.lost side stream)

def Tunnel.view (cfg : TunnelConfig Stream) (tunnel : Tunnel Stream) (side : Side)
    (stream : Stream) : Conveyor Item :=
  tunnel.between cfg side stream (tunnel.ends side.other stream) (tunnel.ends side stream)

inductive SourceMove (before after : End) : Prop where
  | keep : after.legRead = before.legRead → after.phase.hand = before.phase.hand →
      after.phase.feeds = before.phase.feeds → SourceMove before after
  | enter (relay : Relay) (item : Item) : before.phase = .relaying relay →
      relay.reader = .reading → after.legRead = before.legRead ++ [item] →
      after.phase.hand = [item] → after.phase.feeds = true → SourceMove before after
  | halt : after.legRead = before.legRead → after.phase.hand = [] →
      after.phase.feeds = false → SourceMove before after

inductive SinkMove (before after : End) : Prop where
  | keep : after.pending = before.pending → after.phase.grip = before.phase.grip →
      after.legWritten = before.legWritten → after.phase.drains = before.phase.drains →
      SinkMove before after
  | take (items rest : List Item) : before.pending = items ++ rest →
      before.phase.grip = [] → after.pending = rest → after.phase.grip = items →
      after.legWritten = before.legWritten → after.phase.drains = before.phase.drains →
      SinkMove before after
  | letOut : before.phase.drains = true → after.pending = before.pending →
      after.phase.grip = [] → after.legWritten = before.legWritten ++ before.phase.grip →
      after.phase.drains = before.phase.drains → SinkMove before after
  | stop : after.pending = [] → after.phase.grip = [] → after.legWritten = before.legWritten →
      after.phase.drains = false → SinkMove before after

theorem SinkMove.sent {before after : End} (moved : SinkMove before after) (sent : List Frame) :
    SinkMove before { after with sent } := by
  cases moved with
  | keep pending grip legWritten drains => exact .keep pending grip legWritten drains
  | take items rest pendingBefore gripBefore pending grip legWritten drains =>
    exact .take items rest pendingBefore gripBefore pending grip legWritten drains
  | letOut running pending grip legWritten drains =>
    exact .letOut running pending grip legWritten drains
  | stop pending grip legWritten drains => exact .stop pending grip legWritten drains

section Ends

variable {belt gate : List Item} {attached lost : Bool} {source sink before after : End}

theorem move_source (moved : SourceMove before after)
    (opened : ∀ relay, before.phase = .relaying relay → sink.phase.isOpen = true) :
    (carry before sink belt gate attached lost).Move
      (carry after sink belt gate attached lost) := by
  cases moved with
  | keep legRead hand feeds =>
    have same : carry after sink belt gate attached lost =
        carry before sink belt gate attached lost := by
      simp only [carry, legRead, hand, feeds]
    rw [same]
    exact .keep
  | enter relay item relaying reading legRead hand feeds =>
    have empty : before.phase.hand = [] := by simp [relaying, Phase.hand, reading, Reader.hand]
    have fed : before.phase.feeds = true := by
      simp [relaying, Phase.feeds, reading, Reader.feeds]
    have entered : carry after sink belt gate attached lost =
        { carry before sink belt gate attached lost with
          entered := before.legRead ++ [item], hand := [item] } := by
      simp only [carry, legRead, hand, feeds, fed]
    rw [entered]
    exact .enter item (opened relay relaying) fed empty
  | halt legRead hand feeds =>
    have halted : carry after sink belt gate attached lost =
        { carry before sink belt gate attached lost with fed := false, hand := [] } := by
      simp only [carry, legRead, hand, feeds]
    rw [halted]
    exact .halt

theorem move_sink (moved : SinkMove before after)
    (isOpen : after.phase.isOpen = before.phase.isOpen) :
    (carry source before belt gate attached lost).Move
      (carry source after belt gate attached lost) := by
  cases moved with
  | keep pending grip legWritten drains =>
    have same : carry source after belt gate attached lost =
        carry source before belt gate attached lost := by
      simp only [carry, pending, grip, legWritten, drains, isOpen]
    rw [same]
    exact .keep
  | take items rest pendingBefore gripBefore pending grip legWritten drains =>
    have taken : carry source after belt gate attached lost =
        { carry source before belt gate attached lost with queue := rest, grip := items } := by
      simp only [carry, pending, grip, legWritten, drains, isOpen]
    rw [taken]
    exact .take items rest pendingBefore gripBefore
  | letOut running pending grip legWritten drains =>
    have out : carry source after belt gate attached lost =
        { carry source before belt gate attached lost with
          left := before.legWritten ++ before.phase.grip, grip := [] } := by
      simp only [carry, pending, grip, legWritten, drains, isOpen]
    rw [out]
    exact .letOut running
  | stop pending grip legWritten drains =>
    have stopped : carry source after belt gate attached lost =
        { carry source before belt gate attached lost with
          running := false, queue := [], grip := [] } := by
      simp only [carry, pending, grip, legWritten, drains, isOpen]
    rw [stopped]
    exact .stop

end Ends

variable {relay : Relay} {next : End}

theorem source_of_reader {before after : End} {next : Relay}
    (relaying : before.phase = .relaying relay) (relayed : after.phase = .relaying next)
    (reader : next.reader = relay.reader) (legRead : after.legRead = before.legRead) :
    SourceMove before after := by
  refine .keep legRead ?_ ?_
  · simp only [relaying, relayed, Phase.hand, reader]
  · simp only [relaying, relayed, Phase.feeds, reader]

theorem pending_of_drains {state : End} (drains : state.phase.drains) :
    state.pending = state.queue.items.filterMap itemOf := if_pos drains

theorem pending_congr {before after : End} (draining : after.phase.drains)
    (drained : before.phase.drains) (queue : after.queue = before.queue) :
    after.pending = before.pending := by
  rw [pending_of_drains draining, pending_of_drains drained, queue]

theorem sink_of_writer {before after : End} {next : Relay}
    (relaying : before.phase = .relaying relay) (relayed : after.phase = .relaying next)
    (writer : next.writer = relay.writer) (queue : after.queue = before.queue)
    (legWritten : after.legWritten = before.legWritten) : SinkMove before after := by
  refine .keep ?_ ?_ legWritten ?_
  · simp only [End.pending, relaying, relayed, Phase.drains, writer, queue]
  · simp only [relaying, relayed, Phase.grip, writer]
  · simp only [relaying, relayed, Phase.drains, writer]

theorem sink_stopped {before after : End} (drains : after.phase.drains = false)
    (grip : after.phase.grip = []) (legWritten : after.legWritten = before.legWritten) :
    SinkMove before after :=
  .stop (by simp [End.pending, drains]) grip legWritten drains

theorem handleMessage_pump (state : End) (relay : Relay) (msg : Message) :
    ∃ next, (state.handleMessage relay msg).phase = .relaying next ∧
      next.reader = relay.reader ∧
      (next.writer = .selecting ∧
          (state.handleMessage relay msg).legWritten = state.legWritten ++ (itemOf msg).toList ∨
        next.writer = .returned ∧
          (state.handleMessage relay msg).legWritten = state.legWritten) := by
  unfold End.handleMessage
  split
  next item isItem => exact ⟨_, rfl, rfl, .inl ⟨rfl, by simp [isItem]⟩⟩
  · split
    · split <;> exact ⟨_, rfl, rfl, .inr ⟨rfl, rfl⟩⟩
    · split <;> exact ⟨_, rfl, rfl, .inr ⟨rfl, rfl⟩⟩
    · exact ⟨_, rfl, rfl, .inr ⟨rfl, rfl⟩⟩

theorem relayStep_source {leg : Leg} {state : End} {event : RelayEvent}
    (relaying : state.phase = .relaying relay) (stepped : RelayStep leg state relay event next) :
    SourceMove state next := by
  cases stepped with
  | read item reading => exact .enter relay item relaying reading rfl rfl rfl
  | readFailed =>
    unfold Relay.readFailed
    split <;> exact .halt rfl rfl rfl
  | handle msg =>
    obtain ⟨_, relayed, reader, _⟩ := handleMessage_pump state relay msg
    obtain ⟨_, _, _, same⟩ := handleMessage_eq state relay msg
    exact source_of_reader relaying relayed reader (by rw [same])
  | contextDone | take | contextEnded | legWriteFailed | receiveFirst | receiveSecond =>
    exact source_of_reader relaying rfl rfl rfl

theorem relayStep_sink {leg : Leg} {state : End} {event : RelayEvent}
    (relaying : state.phase = .relaying relay) (stepped : RelayStep leg state relay event next) :
    SinkMove state next := by
  cases stepped with
  | take msg rest selecting received =>
    obtain ⟨items, _⟩ := Channel.receive?_eq_some received
    have drains : state.phase.drains = true := by
      simp [relaying, Phase.drains, selecting, Writer.drains]
    have grip : state.phase.grip = [] := by simp [relaying, Phase.grip, selecting, Writer.grip]
    have pending : state.pending = (itemOf msg).toList ++ rest.items.filterMap itemOf := by
      rw [pending_of_drains drains, items]
      cases isItem : itemOf msg <;> simp [isItem]
    exact .take _ _ pending grip (pending_of_drains rfl) rfl rfl drains.symm
  | contextEnded | legWriteFailed => exact sink_stopped rfl rfl rfl
  | handle msg handling =>
    have drains : state.phase.drains = true := by
      simp [relaying, Phase.drains, handling, Writer.drains]
    have grip : state.phase.grip = (itemOf msg).toList := by
      simp [relaying, Phase.grip, handling, Writer.grip]
    obtain ⟨_, relayed, _, writer⟩ := handleMessage_pump state relay msg
    obtain ⟨_, _, _, same⟩ := handleMessage_eq state relay msg
    rcases writer with ⟨selecting, written⟩ | ⟨returned, written⟩
    · have running : (state.handleMessage relay msg).phase.drains = true := by
        simp [relayed, Phase.drains, selecting, Writer.drains]
      refine .letOut drains (pending_congr running drains (by rw [same])) ?_
        (by rw [written, grip]) (running.trans drains.symm)
      simp [relayed, Phase.grip, selecting, Writer.grip]
    · refine sink_stopped ?_ ?_ written
      · simp [relayed, Phase.drains, returned, Writer.drains]
      · simp [relayed, Phase.grip, returned, Writer.grip]
  | readFailed =>
    refine sink_of_writer relaying rfl ?_ rfl rfl
    unfold Relay.readFailed
    split <;> rfl
  | contextDone | read | receiveFirst | receiveSecond =>
    exact sink_of_writer relaying rfl rfl rfl rfl

theorem endStep_source {side : Side} {done : Bool} {state : End} {event : Event}
    (stepped : EndStep side done state event next) : SourceMove state next := by
  cases stepped with
  | answer msg _ waiting =>
    cases wsOpenAnswer msg with
    | ok => exact .keep rfl (by rw [waiting]; rfl) (by rw [waiting]; rfl)
    | error => exact .halt rfl rfl rfl
  | upgraded _ phase | dialled _ phase =>
    exact .keep rfl (by rw [phase]; rfl) (by rw [phase]; rfl)
  | openContextDone | openSessionDone | upgradeFailed | undialled | relayReturned =>
    exact .halt rfl rfl rfl
  | relay _ _ _ relaying moved => exact relayStep_source relaying moved

theorem endStep_sink {side : Side} {done : Bool} {state : End} {event : Event}
    (stepped : EndStep side done state event next) : SinkMove state next := by
  cases stepped with
  | answer msg _ waiting received =>
    cases answered : wsOpenAnswer msg with
    | ok =>
      -- the message that is taken is `ws.accept` and none for the leg
      have noItem : itemOf msg = none := by simp [itemOf, accept_of_answer answered]
      refine .keep ?_ (by rw [waiting]; rfl) rfl (by rw [waiting]; rfl)
      rw [pending_of_drains rfl, pending_of_drains (by rw [waiting]; rfl),
        (Channel.receive?_eq_some received).1, List.filterMap_cons_none noItem]
    | error => exact sink_stopped rfl rfl rfl
  | upgraded _ phase | dialled _ phase =>
    exact .keep (pending_congr rfl (by rw [phase]; rfl) rfl) (by rw [phase]; rfl) rfl
      (by rw [phase]; rfl)
  | openContextDone | openSessionDone | upgradeFailed | undialled | relayReturned =>
    exact sink_stopped rfl rfl rfl
  | relay _ _ _ relaying moved => exact relayStep_sink relaying moved

theorem isOpen_of_isLive {phase : Phase} (isLive : phase.isLive) : phase.isOpen = true := by
  cases phase with
  | idle => cases isLive
  | _ => rfl

theorem isOpen_iff {phase : Phase} : phase.isOpen = true ↔ phase ≠ .idle := by
  cases phase <;> simp [Phase.isOpen]

section Writes

variable {cfg : StreamConfig} {state : End} {built : Except FrameError Frame}

theorem relay_written {relay : Relay} (outgoing : relay.outgoing cfg = some built) :
    (relay.afterWrite none).reader.hand = [] ∧
      (relay.afterWrite none).reader.feeds = relay.reader.feeds := by
  rcases relay with ⟨reader, _, waiter, _, _⟩
  cases reader with
  | sending | notifying => exact ⟨rfl, rfl⟩
  | reading | returned =>
    cases waiter with
    | notifying => exact ⟨rfl, rfl⟩
    | _ => simp [Relay.outgoing] at outgoing

theorem relay_writer (relay : Relay) (err : Option (Option ContextCause)) :
    (relay.afterWrite err).writer = relay.writer := by
  unfold Relay.afterWrite
  split
  · split <;> rfl
  all_goals rfl

theorem written_source (outgoing : state.outgoing cfg = some built) :
    (state.afterWrite none).legRead = state.legRead ∧ (state.afterWrite none).phase.hand = [] ∧
      (state.afterWrite none).phase.feeds = state.phase.feeds := by
  unfold End.outgoing at outgoing
  unfold End.afterWrite
  split at outgoing
  next phase => simp [phase, Phase.hand, Phase.feeds]
  next phase => simp [phase, Phase.hand, Phase.feeds]
  next phase => simp [phase, Phase.hand, Phase.feeds]
  next phase => simp [phase, Phase.hand, Phase.feeds, End.setRelay, Reader.hand, Reader.feeds]
  next phase =>
    obtain ⟨hand, feeds⟩ := relay_written outgoing
    simp [phase, Phase.hand, Phase.feeds, End.setRelay, hand, feeds]
  · cases outgoing

theorem unwritten_source (state : End) (cause : Option ContextCause) :
    SourceMove state (state.afterWrite (some cause)) := by
  cases phase : state.phase with
  | opening | refusing | failing | accepting =>
    simp only [End.afterWrite, phase]
    exact .halt rfl rfl rfl
  | relaying relay =>
    simp only [End.afterWrite, phase]
    rcases relay with ⟨reader, _, waiter, _, _⟩
    cases reader with
    | sending | notifying => exact .halt rfl rfl rfl
    | reading | returned => cases waiter <;> exact source_of_reader phase rfl rfl rfl
  | _ =>
    simp only [End.afterWrite, phase]
    exact .keep rfl rfl rfl

theorem afterWrite_sink (state : End) (err : Option (Option ContextCause)) :
    SinkMove state (state.afterWrite err) := by
  cases phase : state.phase with
  | opening | accepting =>
    cases err with
    | none =>
      simp only [End.afterWrite, phase]
      exact .keep (pending_congr rfl (by rw [phase]; rfl) rfl) (by rw [phase]; rfl) rfl
        (by rw [phase]; rfl)
    | some =>
      simp only [End.afterWrite, phase]
      exact sink_stopped rfl rfl rfl
  | refusing | failing =>
    simp only [End.afterWrite, phase]
    exact sink_stopped rfl rfl rfl
  | relaying relay =>
    simp only [End.afterWrite, phase]
    exact sink_of_writer phase rfl (relay_writer relay err) rfl rfl
  | _ =>
    simp only [End.afterWrite, phase]
    exact .keep rfl rfl rfl rfl

end Writes

end Porthook.WebSocket
