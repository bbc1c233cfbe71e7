import Mvfst.Stream.ReliableReset

/-!
# What a run of send events tells the connection

The send handlers report to the connection through `stream.conn`: a closed
stream goes to the stream manager's closed set, and a reset goes to the
pending resets.  Over any run of events:

* `run_reports_closed` — the closed set gains this stream, and nothing else,
  exactly when the run takes the send side into `Closed` while the receive
  side is already `Closed` or `Invalid`: a stream whose halves are both
  finished is always reported, and never before;
* `run_resets_errorCode` — every reset the run enqueues is for this stream
  and carries the error code the stream holds as sent to the peer when the
  run ends;
* `run_ackedAtLeast` — no acknowledgement is forgotten, across resets too:
  every acknowledged interval stays, the smallest acknowledged reset size
  never grows, and the final offset stays, so both closing conditions, once
  true, stay true;
* `run_dropsOnlyAcked` — a chunk leaves the retransmission buffers only with
  its bytes recorded as acknowledged, unless the run enqueued a reset, and no
  chunk is added to them.

## Main Definitions

* `SendEvent.ClosesFinished` — a step that closes the send side of a stream
  whose receive side is finished.

## Design Notes

`handle_reports` says in one case analysis what one event does to everything
these results follow; each result is then an induction over the run.  The
buffer relation `QuicStreamState.DropsOnlyAcked` comes from the reliable-reset
module, where it also carries the acks' `CHECK_EQ`s along a run.
-/

namespace Quic

open QuicStreamState

namespace QuicStreamState

variable (s : QuicStreamState)

@[simp] theorem closeSend_recvState : s.closeSend.recvState = s.recvState := by
  simp only [closeSend]; split <;> rfl

/-- Closing the send side reports the stream as closed when its receive side
is finished. -/
theorem closeSend_closed :
    s.closeSend.conn.closed = if s.recvState = .Closed ∨ s.recvState = .Invalid then
      s.conn.closed.insert s.id else s.conn.closed := by
  by_cases finished : s.recvState = .Closed ∨ s.recvState = .Invalid <;>
    simp [closeSend, inTerminalStates, addClosed, finished]

/-- A step that keeps the acknowledgement fields forgets nothing. -/
theorem AckedAtLeast.of_eq {t : QuicStreamState} (intervals : t.ackedIntervals = s.ackedIntervals)
    (minSize : t.minReliableSizeAcked = s.minReliableSizeAcked)
    (final : t.finalWriteOffset = s.finalWriteOffset) : AckedAtLeast s t :=
  ⟨fun _ mem => intervals ▸ mem, fun k known => ⟨k, le_rfl, minSize ▸ known⟩, final⟩

theorem AckedAtLeast.trans {t u v : QuicStreamState} (first : AckedAtLeast t u)
    (second : AckedAtLeast u v) : AckedAtLeast t v :=
  ⟨fun iv mem => second.intervals iv (first.intervals iv mem), fun k known => by
    obtain ⟨k₁, le₁, known₁⟩ := first.minSize k known
    obtain ⟨k₂, le₂, known₂⟩ := second.minSize k₁ known₁
    exact ⟨k₂, le₂.trans le₁, known₂⟩, second.final.trans first.final⟩

/-- Closing the send side keeps every acknowledgement. -/
theorem AckedAtLeast.closeSend {t : QuicStreamState} (more : AckedAtLeast s t) :
    AckedAtLeast s t.closeSend := by
  simp only [QuicStreamState.closeSend]
  split <;> exact ⟨more.1, more.2, more.3⟩

end QuicStreamState

namespace SendEvent

variable (resetQuicStream : ResetQuicStream) {s s' : QuicStreamState} {r : Except QuicError Unit}

/-- Whether a step from `s` to `s'` closes the send side of a stream whose
receive side is finished: the condition for reporting it closed. -/
def ClosesFinished (s s' : QuicStreamState) : Prop :=
  s.sendState ≠ .Closed ∧ s'.sendState = .Closed ∧ (s.recvState = .Closed ∨ s.recvState = .Invalid)

instance (s s' : QuicStreamState) : Decidable (ClosesFinished s s') :=
  inferInstanceAs (Decidable (_ ∧ _ ∧ _))

/-! ### One event -/

/-- A step that keeps the send state and the closed set reports nothing. -/
theorem keeps_closed (same : s'.sendState = s.sendState) (closed : s'.conn.closed = s.conn.closed) :
    s'.conn.closed = if ClosesFinished s s' then s.conn.closed.insert s.id else s.conn.closed := by
  rw [if_neg fun closes => closes.1 (same ▸ closes.2.1)]
  exact closed

/-- **What one event reports.**  It keeps the receive side and every
acknowledgement, reports the stream closed exactly when it closes a stream
whose receive side is finished, and drops from the retransmission buffers only
chunks it records as acknowledged, unless it enqueues a reset (a reset from
`Open` hands the buffers to `resetQuicStream`). -/
theorem handle_reports {e : SendEvent} (handled : e.handle resetQuicStream s = some (r, s')) :
    s'.recvState = s.recvState ∧ AckedAtLeast s s' ∧
      s'.conn.closed = (if ClosesFinished s s' then s.conn.closed.insert s.id
        else s.conn.closed) ∧
      (DropsOnlyAcked s s' ∨ s.conn.pendingResets.length < s'.conn.pendingResets.length) := by
  cases e with
  | stopSending frame =>
    simp only [handle, sendStopSendingSMHandler] at handled
    cases state : s.sendState <;> simp only [state] at handled
    case Open =>
      obtain ⟨-, -, handled⟩ := Option.bind_eq_some.mp handled
      cases handled
      exact ⟨rfl, .of_eq _ rfl rfl rfl, keeps_closed rfl rfl, .inl (.of_buffers rfl)⟩
    all_goals cases handled; exact ⟨rfl, .of_eq _ rfl rfl rfl, keeps_closed rfl rfl,
      .inl (.of_buffers rfl)⟩
  | rst errorCode reliableSize =>
    simp only [handle, sendRstSMHandler] at handled
    cases state : s.sendState <;> simp only [state] at handled
    case Open =>
      obtain ⟨-, -, handled⟩ := Option.bind_eq_some.mp handled
      split at handled <;> cases handled
      · exact ⟨rfl, .of_eq _ rfl rfl rfl, keeps_closed state.symm rfl, .inl (.of_buffers rfl)⟩
      · exact ⟨rfl, .of_eq _ rfl rfl rfl, by simp [appendPendingStreamReset, ClosesFinished, state],
          .inr (by simp [appendPendingStreamReset])⟩
    all_goals cases handled; exact ⟨rfl, .of_eq _ rfl rfl rfl, keeps_closed rfl rfl,
      .inl (.of_buffers rfl)⟩
  | ack ackedFrame =>
    simp only [handle, sendAckSMHandler] at handled
    cases state : s.sendState <;> simp only [state] at handled
    case Closed | Invalid =>
      cases handled; exact ⟨rfl, .of_eq _ rfl rfl rfl, keeps_closed rfl rfl, .inl (.of_buffers rfl)⟩
    all_goals
      obtain ⟨acked, ackedIn, handled⟩ := Option.bind_eq_some.mp handled
      have drops := ackRetransmission_dropsOnlyAcked ackedIn
      have frame := (ackRetransmission_resetSent ackedIn).1
      have more : AckedAtLeast s acked :=
        ⟨fun iv mem => by rw [frame]; exact List.mem_append_left _ mem,
          fun k known => ⟨k, le_rfl, by rw [frame]; exact known⟩, by rw [frame]⟩
      split at handled <;> cases handled <;> rw [frame] at more drops ⊢
      · exact ⟨by simp [addDeliverable], .closeSend _ ⟨more.1, more.2, more.3⟩,
          by simp [closeSend_closed, addDeliverable, ClosesFinished, state],
          .inl (DropsOnlyAcked.closeSend drops)⟩
      · exact ⟨rfl, ⟨more.1, more.2, more.3⟩, keeps_closed rfl rfl, .inl drops⟩
  | rstAck reliableSize =>
    simp only [handle, sendRstAckSMHandler] at handled
    cases state : s.sendState <;> simp only [state] at handled
    case ResetSent =>
      have more : AckedAtLeast s { s with minReliableSizeAcked := some <|
          match s.minReliableSizeAcked with
          | none => reliableSize.getD 0
          | some m => min m (reliableSize.getD 0) } :=
        ⟨fun _ mem => mem, fun k known =>
          ⟨min k (reliableSize.getD 0), Nat.min_le_left _ _, by simp [known]⟩, rfl⟩
      split at handled <;> cases handled
      · exact ⟨by simp, .closeSend _ ⟨more.1, more.2, more.3⟩,
          by simp [closeSend_closed, ClosesFinished, state],
          .inl (DropsOnlyAcked.closeSend (.of_buffers rfl))⟩
      · exact ⟨rfl, ⟨more.1, more.2, more.3⟩, keeps_closed state.symm rfl, .inl (.of_buffers rfl)⟩
    all_goals cases handled; exact ⟨rfl, .of_eq _ rfl rfl rfl, keeps_closed rfl rfl,
      .inl (.of_buffers rfl)⟩

/-- **The closed stream is reported, and only then.**  Over any run of send
events, the connection's closed set gains this stream, and nothing else,
exactly when the run takes the send side into `Closed` while the receive side
is `Closed` or `Invalid`. -/
theorem run_reports_closed {es : List SendEvent} {rs : List (Except QuicError Unit)}
    (ran : runSendEvents resetQuicStream s es = some (rs, s')) :
    s'.conn.closed = if ClosesFinished s s' then s.conn.closed.insert s.id else s.conn.closed := by
  induction es generalizing s rs with
  | nil =>
    cases ran
    exact (if_neg fun closes => closes.1 closes.2.1).symm
  | cons e es ih =>
    simp only [runSendEvents, Option.bind_eq_bind, Option.bind_eq_some] at ran
    obtain ⟨⟨r, s₁⟩, handled, ⟨rs', s₂⟩, rest, result⟩ := ran
    dsimp only at rest result
    cases result
    obtain ⟨recv, -, closed, -⟩ := handle_reports resetQuicStream handled
    have sameId := (handle_resets resetQuicStream handled).1
    by_cases shut : s₁.sendState = .Closed
    · obtain rfl := run_closed shut rest
      exact closed
    · have stays : s.sendState ≠ .Closed := fun start =>
        shut (((handle_moves resetQuicStream handled).of_final (.inr start)).trans start)
      rw [if_neg (fun closes => shut closes.2.1)] at closed
      rw [ih rest, closed]
      simp only [ClosesFinished, ne_eq, recv, sameId, stays, shut, not_false_eq_true, true_and]

theorem run_reports_closed_rstAcked :
    ∃ s rs s', s = (⟨0, ⟨.Client, [], [], [], []⟩, .Open, .Closed, none, none, none, [],
        ⟨[], fun _ => none, fun _ => none, none⟩⟩ : QuicStreamState) ∧
      runSendEvents (fun buffers _ _ => .ok buffers) s [.rst 7 none, .rstAck none] = some (rs, s') ∧
      ClosesFinished s s' ∧
      s'.conn.closed = if ClosesFinished s s' then s.conn.closed.insert s.id else s.conn.closed :=
  ⟨_, _, _, rfl, rfl, by decide, @run_reports_closed (fun buffers _ _ => .ok buffers) _ _
    [.rst 7 none, .rstAck none] _ rfl⟩

/-! ### The resets -/

/-- One event enqueues a reset only with the error code it leaves the stream
holding as sent to the peer. -/
theorem handle_resets_errorCode {e : SendEvent}
    (handled : e.handle resetQuicStream s = some (r, s')) :
    ∃ added, s'.conn.pendingResets = s.conn.pendingResets ++ added ∧
      ∀ p ∈ added, s'.appErrorCodeToPeer = some p.errorCode := by
  cases e with
  | stopSending frame =>
    obtain ⟨-, -, -, resets, -⟩ := sendStopSendingSMHandler_spec handled
    exact ⟨[], by simp [resets], by simp⟩
  | rst errorCode reliableSize =>
    obtain ⟨-, opened, other⟩ := sendRstSMHandler_spec handled
    by_cases state : s.sendState = .Open
    · obtain ⟨-, app, ⟨-, -, resets⟩ | ⟨-, -, -, resets⟩⟩ := opened state
      · exact ⟨_, resets, by simp [app]⟩
      · exact ⟨[], by simp [resets], by simp⟩
    · obtain ⟨rfl, -⟩ := other state
      exact ⟨[], by simp, by simp⟩
  | ack ackedFrame =>
    obtain ⟨-, -, resets, -⟩ := sendAckSMHandler_spec handled
    exact ⟨[], by simp [resets], by simp⟩
  | rstAck reliableSize =>
    obtain ⟨-, -, resets, -⟩ := sendRstAckSMHandler_spec handled
    exact ⟨[], by simp [resets], by simp⟩

/-- **A reset carries the stream's error code.**  Every reset a run of send
events enqueues carries the error code the stream holds as sent to the peer
when the run ends. -/
theorem run_resets_errorCode {es : List SendEvent} {rs : List (Except QuicError Unit)}
    (ran : runSendEvents resetQuicStream s es = some (rs, s')) :
    ∃ added, s'.conn.pendingResets = s.conn.pendingResets ++ added ∧
      ∀ p ∈ added, s'.appErrorCodeToPeer = some p.errorCode := by
  induction es generalizing s rs with
  | nil =>
    cases ran
    exact ⟨[], by simp, by simp⟩
  | cons e es ih =>
    simp only [runSendEvents, Option.bind_eq_bind, Option.bind_eq_some] at ran
    obtain ⟨⟨r, s₁⟩, handled, ⟨rs', s₂⟩, rest, result⟩ := ran
    dsimp only at rest result
    cases result
    obtain ⟨added₁, resets₁, codes₁⟩ := handle_resets_errorCode resetQuicStream handled
    obtain ⟨added₂, resets₂, codes₂⟩ := ih rest
    have kept := (run_resets resetQuicStream rest).2.1
    refine ⟨added₁ ++ added₂, by rw [resets₂, resets₁, List.append_assoc], fun p mem => ?_⟩
    rcases List.mem_append.mp mem with first | later
    · exact kept _ (codes₁ p first)
    · exact codes₂ p later

theorem run_resets_errorCode_rst :
    ∃ s rs s', s = (⟨0, ⟨.Client, [], [], [], []⟩, .Open, .Closed, none, none, none, [],
        ⟨[], fun _ => none, fun _ => none, none⟩⟩ : QuicStreamState) ∧
      runSendEvents (fun buffers _ _ => .ok buffers) s [.rst 7 none, .rstAck none] = some (rs, s') ∧
      s'.conn.pendingResets = [⟨0, 7, none⟩] ∧
      ∃ added, s'.conn.pendingResets = s.conn.pendingResets ++ added ∧
        ∀ p ∈ added, s'.appErrorCodeToPeer = some p.errorCode :=
  ⟨_, _, _, rfl, rfl, rfl, @run_resets_errorCode (fun buffers _ _ => .ok buffers) _ _
    [.rst 7 none, .rstAck none] _ rfl⟩

/-! ### The acknowledgements -/

theorem ackedAtLeast_of_run {es : List SendEvent} {rs : List (Except QuicError Unit)}
    (ran : runSendEvents resetQuicStream s es = some (rs, s')) : AckedAtLeast s s' := by
  induction es generalizing s rs with
  | nil =>
    cases ran
    exact .of_eq _ rfl rfl rfl
  | cons e es ih =>
    simp only [runSendEvents, Option.bind_eq_bind, Option.bind_eq_some] at ran
    obtain ⟨⟨r, s₁⟩, handled, ⟨rs', s₂⟩, rest, result⟩ := ran
    dsimp only at rest result
    cases result
    exact (handle_reports resetQuicStream handled).2.1.trans (ih rest)

/-- **No acknowledgement is forgotten.**  Over any run of send events, resets
included, every acknowledged interval stays acknowledged, the smallest
acknowledged reset size never grows and the final offset stays; so every byte
through the FIN, once acknowledged, stays so, and so does all the reliable
data of an acknowledged reset. -/
theorem run_ackedAtLeast {es : List SendEvent} {rs : List (Except QuicError Unit)}
    (ran : runSendEvents resetQuicStream s es = some (rs, s')) :
    AckedAtLeast s s' ∧ (s.allBytesTillFinAcked → s'.allBytesTillFinAcked) ∧
      (s.allReliableDataDelivered → s'.allReliableDataDelivered) :=
  have more := ackedAtLeast_of_run resetQuicStream ran
  ⟨more, more.allBytesTillFinAcked, more.allReliableDataDelivered⟩

theorem run_ackedAtLeast_rstAcked :
    ∃ s rs s', s = (⟨0, ⟨.Client, [], [], [], []⟩, .Open, .Closed, none, none, none, [],
        ⟨[], fun _ => none, fun _ => none, none⟩⟩ : QuicStreamState) ∧
      runSendEvents (fun buffers _ _ => .ok buffers) s [.rst 7 none, .rstAck none] = some (rs, s') ∧
      s'.minReliableSizeAcked = some 0 ∧
      AckedAtLeast s s' ∧ (s.allBytesTillFinAcked → s'.allBytesTillFinAcked) ∧
        (s.allReliableDataDelivered → s'.allReliableDataDelivered) :=
  ⟨_, _, _, rfl, rfl, rfl, @run_ackedAtLeast (fun buffers _ _ => .ok buffers) _ _
    [.rst 7 none, .rstAck none] _ rfl⟩

/-! ### The retransmission buffers -/

/-- **A chunk leaves the retransmission buffers only acknowledged.**  Over any
run of send events, both retransmission buffers only lose chunks, and only
chunks whose bytes the stream then records as acknowledged; or the run has
enqueued a reset, whose `resetQuicStream` rewrote the buffers. -/
theorem run_dropsOnlyAcked {es : List SendEvent} {rs : List (Except QuicError Unit)}
    (ran : runSendEvents resetQuicStream s es = some (rs, s')) :
    DropsOnlyAcked s s' ∨ s.conn.pendingResets.length < s'.conn.pendingResets.length := by
  induction es generalizing s rs with
  | nil =>
    cases ran
    exact .inl (.of_buffers rfl)
  | cons e es ih =>
    simp only [runSendEvents, Option.bind_eq_bind, Option.bind_eq_some] at ran
    obtain ⟨⟨r, s₁⟩, handled, ⟨rs', s₂⟩, rest, result⟩ := ran
    dsimp only at rest result
    cases result
    have grows : s.conn.pendingResets.length ≤ s₁.conn.pendingResets.length ∧
        s₁.conn.pendingResets.length ≤ s'.conn.pendingResets.length := by
      obtain ⟨added, resets, -⟩ := (handle_resets resetQuicStream handled).2.2
      obtain ⟨added', resets', -⟩ := (run_resets resetQuicStream rest).2.2
      simp [resets, resets']
    rcases (handle_reports resetQuicStream handled).2.2.2 with drops | reset
    · rcases ih rest with drops' | reset'
      · exact .inl (drops.trans drops' (ackedAtLeast_of_run resetQuicStream rest))
      · exact .inr (by omega)
    · exact .inr (by omega)

theorem run_dropsOnlyAcked_ack :
    ∃ s rs s', s = (⟨0, ⟨.Client, [], [], [], []⟩, .Open, .Open, some 5, none, none, [],
        ⟨[], fun o => if o = 0 then some ⟨0, 5, true⟩ else none, fun _ => none, none⟩⟩ :
          QuicStreamState) ∧
      runSendEvents (fun buffers _ _ => .ok buffers) s [.ack ⟨0, 5, true, false⟩] = some (rs, s') ∧
      s'.buffers.retransmissionBuffer 0 = none ∧ s'.ackedIntervals = [(0, 5)] ∧
      (DropsOnlyAcked s s' ∨ s.conn.pendingResets.length < s'.conn.pendingResets.length) :=
  ⟨_, _, _, rfl, rfl, rfl, rfl, @run_dropsOnlyAcked (fun buffers _ _ => .ok buffers) _ _
    [.ack ⟨0, 5, true, false⟩] _ rfl⟩

end SendEvent

end Quic
