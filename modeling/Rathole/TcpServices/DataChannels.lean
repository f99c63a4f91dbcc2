import Rathole.TcpServices.State

/-!
# What a Data Channel Carries

A data channel in the hands of a server: it is sound whatever its client does,
its near ends are moved by nobody but the visitor, and it has a visitor at
them from the moment the pool starts it. As long as neither end is gone, the
end of each direction stays behind the bytes.

## Main definitions

* `DataChannel.Sound`: It carries what it should.
* `DataChannel.Untouched`: It has had no visitor.
* `DataChannel.Serves`: A visitor is at the near ends.

## Theorems

* `DataChannel.sound_of_step`, `DataChannel.sound_attach`: What keeps it sound.
* `DataChannel.sameEnds_of_step`: What does not move the near ends.
* `DataChannel.visited`: The visitor and its data channel move together.
-/

namespace Rathole

open ByteStream

/-! ### The near ends of a tunnel -/

namespace TcpTunnel

variable {β : Type} {S : Setting β} {t t' : TcpTunnel β}

/-- The visitor has done nothing, and the server still copies if it did. -/
structure SameEnds (t t' : TcpTunnel β) : Prop where
  copying : t.server = .copying → t'.server = .copying
  sent : t'.forth.sent = t.forth.sent
  closed : t'.forth.entry.closed = t.forth.entry.closed
  got : t'.back.got = t.back.got

theorem sameEnds_drop (t : TcpTunnel β) (side : Side) : SameEnds t (t.drop side) := by
  cases side with
  | server =>
      refine ⟨fun hs => hs, rfl, rfl, ?_⟩
      by_cases hs : t.server = .copying
      · simp only [drop, if_pos hs]
      · simp only [drop, if_neg hs]
  | client =>
      by_cases hc : t.client = .copying
      · simp only [drop, if_pos hc]
        exact ⟨fun hs => hs, rfl, rfl, rfl⟩
      · simp only [drop, if_neg hc]
        exact ⟨fun hs => hs, rfl, rfl, rfl⟩

/-- A copier does not shut down what it reads. -/
theorem sameEnds_copyFirst [DecidableEq β] {l l' : Lane β} {a : CopyAction}
    (h : l.copyFirst copyBufferSize a = some l') :
    l'.sent = l.sent ∧ l'.entry.closed = l.entry.closed ∧ l'.got = l.got := by
  rcases Option.map_eq_some_iff.mp h with ⟨x, hx, rfl⟩
  cases a with
  | read n | write n | eof | shutdown =>
      simp only [Transfer.step, Option.ite_none_right_eq_some, Option.some.injEq] at hx
      rw [← hx.2]
      exact ⟨rfl, rfl, rfl⟩

theorem sameEnds_copySecond [DecidableEq β] {l l' : Lane β} {a : CopyAction}
    (h : l.copySecond copyBufferSize a = some l') :
    l'.sent = l.sent ∧ l'.entry.closed = l.entry.closed ∧ l'.got = l.got := by
  rcases Option.map_eq_some_iff.mp h with ⟨x, _, rfl⟩
  exact ⟨rfl, rfl, rfl⟩

theorem sameEnds_copy [DecidableEq β] {side : Side} {d : Direction} {a : CopyAction}
    (h : t.copy S side d a = some t') : SameEnds t t' := by
  cases side with
  | server =>
      cases d with
      | forth =>
          rcases Option.map_eq_some_iff.mp h with ⟨l, hl, rfl⟩
          rcases sameEnds_copyFirst hl with ⟨hsent, hclosed, _⟩
          exact ⟨fun hs => hs, hsent, hclosed, rfl⟩
      | back =>
          unfold copy at h
          by_cases hws : S.transport = .websocket ∧ a = .eof
          · simp only [if_pos hws, Option.ite_none_right_eq_some, Option.some.injEq] at h
            exact h.2 ▸ sameEnds_drop t .server
          · simp only [if_neg hws] at h
            rcases Option.map_eq_some_iff.mp h with ⟨l, hl, rfl⟩
            exact ⟨fun hs => hs, rfl, rfl, (sameEnds_copySecond hl).2.2⟩
  | client =>
      cases d with
      | back =>
          rcases Option.map_eq_some_iff.mp h with ⟨l, hl, rfl⟩
          exact ⟨fun hs => hs, rfl, rfl, (sameEnds_copyFirst hl).2.2⟩
      | forth =>
          unfold copy at h
          by_cases hws : S.transport = .websocket ∧ a = .eof
          · simp only [if_pos hws, Option.ite_none_right_eq_some, Option.some.injEq] at h
            exact h.2 ▸ sameEnds_drop t .client
          · simp only [if_neg hws] at h
            rcases Option.map_eq_some_iff.mp h with ⟨l, hl, rfl⟩
            rcases sameEnds_copySecond hl with ⟨hsent, hclosed, _⟩
            exact ⟨fun hs => hs, hsent, hclosed, rfl⟩

/-- What the visitor does not do leaves its ends alone. -/
theorem sameEnds_of_step [DecidableEq β] {a : Action β} (hi : t.Sound S)
    (ha : ∀ v : TcpServices.VisitorAction β, a ≠ v.inTunnel) (h : t.step S a = some t') :
    SameEnds t t' := by
  cases a with
  | visitorSends bs => exact absurd rfl (ha (.sends bs))
  | visitorCloses => exact absurd rfl (ha .closes)
  | visitorReads n => exact absurd rfl (ha (.reads n))
  | serviceSends bs =>
      simp only [step, Option.ite_none_right_eq_some] at h
      rcases Option.map_eq_some_iff.mp h.2 with ⟨l, hl, rfl⟩
      simp only [Lane.send, Option.ite_none_right_eq_some, Option.some.injEq] at hl
      rw [← hl.2]
      exact ⟨fun hs => hs, rfl, rfl, rfl⟩
  | serviceReads n =>
      rcases Option.map_eq_some_iff.mp h with ⟨l, hl, rfl⟩
      simp only [Lane.receive, Option.ite_none_right_eq_some, Option.some.injEq] at hl
      rw [← hl.2]
      exact ⟨fun hs => hs, rfl, rfl, rfl⟩
  | readHello =>
      simp only [step, Option.ite_none_right_eq_some] at h
      rcases receiveHello_cases hi h.1.1 h.2 with ⟨_, rfl | ⟨_, rfl⟩⟩
      · refine ⟨fun hs => ?_, rfl, rfl, rfl⟩
        simp only [h.1.1, reduceCtorEq] at hs
      · exact sameEnds_drop t .server
  | readCmd =>
      simp only [step, Option.ite_none_right_eq_some] at h
      rcases receiveCmd_cases hi h.1.1 h.2 with ⟨_, rfl | ⟨_, rfl⟩⟩
      · exact ⟨fun hs => hs, rfl, rfl, rfl⟩
      · exact sameEnds_drop t .client
  | copy side d a =>
      simp only [step, Option.ite_none_right_eq_some] at h
      exact sameEnds_copy h.2
  | fail side =>
      rw [step, Option.some.injEq] at h
      exact h ▸ sameEnds_drop t side
  | serviceCloses | sayHello | connect =>
      simp only [step, Option.ite_none_right_eq_some, Option.some.injEq] at h
      exact h.2 ▸ ⟨fun hs => hs, rfl, rfl, rfl⟩
  | start =>
      simp only [step, Option.ite_none_right_eq_some, Option.some.injEq] at h
      exact h.2 ▸ ⟨fun _ => rfl, rfl, rfl, rfl⟩
  | startFails n =>
      simp only [step, Option.ite_none_right_eq_some, Option.some.injEq] at h
      rcases h with ⟨⟨hs, _⟩, rfl⟩
      exact ⟨fun hno => by simp only [hs, reduceCtorEq] at hno, rfl, rfl, rfl⟩

end TcpTunnel

namespace TcpServices

variable {β : Type}

theorem ne_inTunnel_of_inner {a : TcpTunnel.Action β} (ha : inner a = true)
    (v : VisitorAction β) : a ≠ v.inTunnel := by
  rintro rfl
  cases v with
  | sends | closes | reads => exact absurd ha Bool.false_ne_true

theorem start_ne_inTunnel (v : VisitorAction β) : TcpTunnel.Action.start ≠ v.inTunnel := by
  cases v with
  | sends | closes | reads =>
      simp only [VisitorAction.inTunnel, ne_eq, reduceCtorEq, not_false_eq_true]

theorem readHello_ne_inTunnel (v : VisitorAction β) :
    TcpTunnel.Action.readHello ≠ v.inTunnel := by
  cases v with
  | sends | closes | reads =>
      simp only [VisitorAction.inTunnel, ne_eq, reduceCtorEq, not_false_eq_true]

namespace DataChannel

/-- Whoever its client is, it carries what it should, and unless it is a
    websocket, the end comes last as long as both ends are there. -/
structure Sound (S : Setting β) (c : DataChannel β) : Prop where
  tunnel : c.tunnel.Sound (c.setting S (fun _ => false))
  whole : S.transport ≠ .websocket → c.tunnel.serverUp = true ∧ c.tunnel.clientUp = true →
    c.tunnel.Whole (c.setting S (fun _ => false))

/-- Nothing of a visitor has gone in, and no visitor has read from it. -/
def Untouched (c : DataChannel β) : Prop := c.tunnel.forth.sent = [] ∧ c.tunnel.back.got = []

/-- The server copies for this visitor. -/
structure Serves (c : DataChannel β) (w : Visitor β) : Prop where
  copying : c.tunnel.server = .copying
  sent : c.tunnel.forth.sent = w.sent
  closed : c.tunnel.forth.entry.closed = w.closed
  got : c.tunnel.back.got = w.got

variable {S : Setting β} {c c' : DataChannel β} {w w' : Visitor β}

theorem sound_fresh (sessionKey : Digest β) (serviceType : ServiceType) :
    (fresh sessionKey serviceType).Sound S :=
  ⟨TcpTunnel.sound_initial, fun _ _ => TcpTunnel.whole_initial⟩

theorem untouched_fresh (sessionKey : Digest β) (serviceType : ServiceType) :
    (fresh sessionKey serviceType).Untouched := ⟨rfl, rfl⟩

/-- What a server knows does not matter for the lanes. -/
theorem tunnel_sound_iff (known known' : Digest β → Bool) {t : TcpTunnel β} :
    t.Sound (c.setting S known) ↔ t.Sound (c.setting S known') :=
  ⟨fun h => ⟨h.forth, h.back, h.starting, h.told, h.idle, h.broken⟩,
    fun h => ⟨h.forth, h.back, h.starting, h.told, h.idle, h.broken⟩⟩

theorem tunnel_whole_iff (known known' : Digest β → Bool) {t : TcpTunnel β} :
    t.Whole (c.setting S known) ↔ t.Whole (c.setting S known') :=
  ⟨fun h => ⟨(tunnel_sound_iff known known').mp h.sound, h.serverUp, h.clientUp, h.forth, h.back⟩,
    fun h => ⟨(tunnel_sound_iff known known').mpr h.sound, h.serverUp, h.clientUp, h.forth,
      h.back⟩⟩

theorem sound_of_step [DecidableEq β] {known : Digest β → Bool} {a : TcpTunnel.Action β}
    (hi : c.Sound S) (h : c.step S known a = some c') :
    c'.Sound S ∧ c'.sessionKey = c.sessionKey := by
  have hsound := (tunnel_sound_iff (fun _ => false) known).mp hi.tunnel
  rcases Option.map_eq_some_iff.mp h with ⟨t, ht, rfl⟩
  refine ⟨⟨?_, fun hS hup => ?_⟩, rfl⟩
  · exact (tunnel_sound_iff known (fun _ => false)).mp (TcpTunnel.sound_of_step hsound ht)
  · -- An end that is there after the step was there before it.
    have hgone := TcpTunnel.gone_of_step hsound ht
    have hserver : c.tunnel.serverUp = true := by
      by_contra hno
      exact absurd ((hgone.server (eq_false_of_ne_true hno)).1.symm.trans hup.1) Bool.false_ne_true
    have hclient : c.tunnel.clientUp = true := by
      by_contra hno
      exact absurd ((hgone.client (eq_false_of_ne_true hno)).1.symm.trans hup.2) Bool.false_ne_true
    have hwhole := (tunnel_whole_iff (fun _ => false) known).mp (hi.whole hS ⟨hserver, hclient⟩)
    have hS' : (c.setting S known).transport ≠ .websocket := hS
    exact (tunnel_whole_iff known (fun _ => false)).mp
      (TcpTunnel.whole_of_step hS' hwhole ht hup)


/-- A visitor is attached where there was none before. -/
theorem sound_attach (hi : c.Sound S) (hs : c.tunnel.server ≠ .copying) (hu : c.Untouched)
    (w : Visitor β) : (c.attach w).Sound S := by
  have hsound : (c.attach w).tunnel.Sound (c.setting S (fun _ => false)) :=
    TcpTunnel.Sound.lanes hi.tunnel
      (Lane.carries_enter hi.tunnel.forth hu.1 { bytes := w.sent, closed := w.closed })
      hi.tunnel.back (fun _ => ⟨rfl, rfl⟩) (fun _ => ⟨rfl, rfl⟩)
  refine ⟨hsound, fun hS hup => ?_⟩
  have hwhole := hi.whole hS hup
  -- The server has not read from the visitor before there was one.
  have hfirst : c.tunnel.forth.first = Copier.fresh := (hi.tunnel.idle hs).2
  have heof : c.tunnel.forth.first.eof = true → False := by
    rw [hfirst]
    exact Bool.false_ne_true
  have hforth : (c.attach w).tunnel.forth.Ordered :=
    { front :=
        { eof := fun he => absurd he heof
          shut := fun hshut => absurd (hwhole.forth.front.shut hshut).1 heof
          closed := hwhole.forth.front.closed }
      rear := hwhole.forth.rear }
  exact ⟨hsound, hwhole.serverUp, hwhole.clientUp, hforth, hwhole.back⟩

theorem sameEnds_of_step [DecidableEq β] {known : Digest β → Bool} {a : TcpTunnel.Action β}
    (hi : c.Sound S) (ha : ∀ v : VisitorAction β, a ≠ v.inTunnel)
    (h : c.step S known a = some c') : TcpTunnel.SameEnds c.tunnel c'.tunnel := by
  have hsound := (tunnel_sound_iff (fun _ => false) known).mp hi.tunnel
  rcases Option.map_eq_some_iff.mp h with ⟨t, ht, rfl⟩
  exact TcpTunnel.sameEnds_of_step hsound ha ht

theorem startFails_ne_inTunnel (n : Nat) (v : VisitorAction β) :
    TcpTunnel.Action.startFails n ≠ v.inTunnel := by
  cases v with
  | sends | closes | reads =>
      simp only [VisitorAction.inTunnel, ne_eq, reduceCtorEq, not_false_eq_true]

/-- A command that fails leaves a data channel as sound as it was, and its near
    ends alone. -/
theorem breakOff_cases [DecidableEq β] (hi : c.Sound S) (n : Nat) : (c.breakOff S n).Sound S ∧
    (c.breakOff S n).sessionKey = c.sessionKey ∧
    TcpTunnel.SameEnds c.tunnel (c.breakOff S n).tunnel := by
  unfold breakOff
  rcases hstep : c.step S (fun _ => false) (.startFails n) with _ | c'
  · rw [Option.getD_none]
    exact ⟨⟨TcpTunnel.sound_drop hi.tunnel .server,
      fun _ hup => TcpTunnel.down_of_drop .server hup⟩, rfl,
      TcpTunnel.sameEnds_drop c.tunnel .server⟩
  · rw [Option.getD_some]
    rcases sound_of_step hi hstep with ⟨hsound, hkey⟩
    exact ⟨hsound, hkey, sameEnds_of_step hi (startFails_ne_inTunnel n) hstep⟩

theorem Untouched.sameEnds (hu : c.Untouched) (h : TcpTunnel.SameEnds c.tunnel c'.tunnel) :
    c'.Untouched :=
  ⟨h.sent.trans hu.1, h.got.trans hu.2⟩

theorem Serves.sameEnds (hs : c.Serves w) (h : TcpTunnel.SameEnds c.tunnel c'.tunnel) :
    c'.Serves w where
  copying := h.copying hs.copying
  sent := h.sent.trans hs.sent
  closed := h.closed.trans hs.closed
  got := h.got.trans hs.got

/-- The pool starts a data channel that is waiting in the queue. -/
theorem queued_of_start [DecidableEq β] {known : Digest β → Bool}
    (h : (c.attach w).step S known .start = some c') : c.tunnel.server ≠ .copying := by
  rcases Option.map_eq_some_iff.mp h with ⟨t, ht, _⟩
  simp only [TcpTunnel.step, Option.ite_none_right_eq_some] at ht
  have hqueued : c.tunnel.server = .queued := ht.1.1
  rw [hqueued]
  simp only [ne_eq, reduceCtorEq, not_false_eq_true]

/-- Once it is started, a data channel serves the visitor it was started for. -/
theorem serves_of_start [DecidableEq β] {known : Digest β → Bool} (hi : (c.attach w).Sound S)
    (hu : c.Untouched) (hgot : w.got = []) (h : (c.attach w).step S known .start = some c') :
    c'.Serves w := by
  have hends := sameEnds_of_step hi start_ne_inTunnel h
  refine ⟨?_, hends.sent, hends.closed, ?_⟩
  · rcases Option.map_eq_some_iff.mp h with ⟨t, ht, rfl⟩
    simp only [TcpTunnel.step, Option.ite_none_right_eq_some, Option.some.injEq] at ht
    rw [← ht.2]
  · rw [hends.got, hgot]
    exact hu.2

/-- What a visitor does on its connection, it does at the ends of its data
    channel. -/
theorem visited [DecidableEq β] {known : Digest β → Bool} {a : VisitorAction β}
    (hs : c.Serves w) (hw : w.step c.tunnel.back.exit.bytes a = some w')
    (h : c.step S known a.inTunnel = some c') : c'.Serves w' := by
  rcases Option.map_eq_some_iff.mp h with ⟨t, ht, rfl⟩
  cases a with
  | sends bs =>
      rcases Option.map_eq_some_iff.mp ht with ⟨l, hl, rfl⟩
      simp only [Lane.send, Option.ite_none_right_eq_some, Option.some.injEq] at hl
      simp only [Visitor.step, Option.ite_none_right_eq_some, Option.some.injEq] at hw
      rw [← hl.2, ← hw.2]
      exact ⟨hs.copying, congrArg (fun x => x ++ bs) hs.sent, hs.closed, hs.got⟩
  | closes =>
      simp only [VisitorAction.inTunnel, TcpTunnel.step, Option.some.injEq] at ht
      simp only [Visitor.step, Option.some.injEq] at hw
      rw [← ht, ← hw]
      exact ⟨hs.copying, hs.sent, rfl, hs.got⟩
  | reads n =>
      rcases Option.map_eq_some_iff.mp ht with ⟨l, hl, rfl⟩
      simp only [Lane.receive, Option.ite_none_right_eq_some, Option.some.injEq] at hl
      simp only [Visitor.step, Option.ite_none_right_eq_some, Option.some.injEq] at hw
      rw [← hl.2, ← hw.2]
      exact ⟨hs.copying, hs.sent, hs.closed, congrArg (fun x => x ++ _) hs.got⟩

/-- The nonce that is read is the session key of the client. -/
theorem said_of_readHello [DecidableEq β] {known : Digest β → Bool} (hi : c.Sound S)
    (h : c.step S known .readHello = some c') : c.said S = some c.sessionKey := by
  have hsound := (tunnel_sound_iff (fun _ => false) known).mp hi.tunnel
  rcases Option.map_eq_some_iff.mp h with ⟨t, ht, _⟩
  simp only [TcpTunnel.step, Option.ite_none_right_eq_some] at ht
  have hc := (TcpTunnel.receiveHello_cases hsound ht.1.1 ht.2).1
  have hread := TcpTunnel.readHello_of_sound hsound ht.1.1 hc
  simp only [setting] at hread
  simp only [said, hread]

end DataChannel

end TcpServices

end Rathole
