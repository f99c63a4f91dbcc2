import Rathole.Lib.Chunks
import Rathole.Lib.Copying
import Rathole.Lib.Transition

/-!
# Bytes Over a Websocket

`WebsocketTunnel`, which makes a stream of bytes of a websocket. What is
written goes out as one binary message, and shutting down sends a close
message. At the other end a `StreamReader` reads the messages one after the
other, and `StreamWrapper` takes every message that is not binary for an error:
a text, which `send_text` sends on a control channel, a ping of a peer of
another make, and also the close message. After that one the stream of
`tungstenite` has ended, and so it has once the connection is broken.

One direction is modelled, with the writer at one end and the reader at the
other. They move in any order, and the connection can break at any time.

With `WebSocketConfig::default` a reader refuses frames of more than 16 MiB,
and messages of more than 64 MiB. These limits are left out, for nobody here
writes as much at once: a buffer of `copy_bidirectional` and a datagram are the
most.

The ends of a data channel send nothing but bytes and the close message. What
their reader makes of it is a channel like that of any other transport, with
the end of the stream as its only error.

## Main definitions

* `Frame`, `pollNext`: The messages, and what they are to a reader.
* `WebsocketTunnel`: One direction of a connection.
* `WebsocketTunnel.step`: One action of the writer, of the reader, or of the
  network.
* `WebsocketTunnel.Transparent`: What was read is what was written.
* `Channel`: A wire that is read, with an error at its end.

## Theorems

* `sound_of_step`: A step keeps the account of the reader.
* `transparent`: Every state of a run is transparent.
* `channel_of_step`: On a data channel every step is one of the channel, or
  nothing to it.
* `refines_channel`: A data channel over a websocket is a channel.
-/

namespace Rathole

open ByteStream Transition

/-- A message of a websocket. -/
inductive Frame (β : Type)
  | binary (data : List β)
  | text (s : String)
  | ping (data : List β)
  | pong (data : List β)
  | close
deriving DecidableEq, Repr

/-- `StreamWrapper::poll_next` on a message. -/
def Frame.pollNext {β : Type} : Frame β → Chunk β
  | .binary data => .bytes data
  -- An `unexpected frame` like the others, but `tungstenite` has nothing after it.
  | .close => .error true
  | _ => .error false

/-- A close frame. -/
def Frame.isClose {β : Type} : Frame β → Bool
  | .close => true
  | _ => false

theorem Frame.pollNext_eq_final_iff {β : Type} {f : Frame β} :
    f.pollNext = .error true ↔ f.isClose = true := by
  cases f with
  | binary data => simp only [pollNext, isClose, reduceCtorEq, Bool.false_eq_true]
  | close => simp only [pollNext, isClose]
  | text | ping | pong =>
      simp only [pollNext, isClose, Chunk.error.injEq, Bool.false_eq_true]

/-- One direction of a websocket: what was sent, whether the writer has closed
    it, and the `StreamReader` of the other end. -/
structure WebsocketTunnel (β : Type) where
  sent : List (Frame β)
  closing : Bool
  reader : ChunkReader β
deriving DecidableEq, Repr

namespace WebsocketTunnel

variable {β : Type}

/-- What the writer, the reader and the network can do. A `peer` of another
    make sends messages of its own choice. -/
inductive Action (β : Type)
  | pollWrite (buf : List β)
  | pollShutdown
  | sendText (text : String)
  | peer (f : Frame β)
  | pollRead (room : Nat)
  | pollFillBuf
  | consume (amt : Nat)
  | breakOff (n : Nat)
deriving DecidableEq

/-- A stream that nothing has been sent on. -/
def initial : WebsocketTunnel β where
  sent := []
  closing := false
  reader := ChunkReader.fresh

/-- A message is sent, unless a close message was; that is an error then. -/
def send (p : WebsocketTunnel β) (f : Frame β) : WebsocketTunnel β :=
  if p.closing then p else {
    sent := p.sent ++ [f]
    closing := f.isClose
    reader := p.reader.put f.pollNext }

/-- One action; `none` if it cannot be taken. -/
def step (p : WebsocketTunnel β) : Action β → Option (WebsocketTunnel β)
  | .pollWrite buf => some (p.send (.binary buf))
  | .pollShutdown => some (p.send .close)
  | .sendText text => some (p.send (.text text))
  | .peer f => some (p.send f)
  | .pollRead room => some { p with reader := (p.reader.read room).2 }
  | .pollFillBuf => some { p with reader := p.reader.fillBuf.2 }
  -- Nobody consumes more than `poll_fill_buf` has shown.
  | .consume amt =>
      if amt ≤ p.reader.buf.length then some { p with reader := p.reader.consume amt } else none
  | .breakOff n => some { p with reader := p.reader.cut n }

/-- What was sent, as a reader should see it. -/
def symbols (p : WebsocketTunnel β) : List (Symbol β) :=
  p.sent.flatMap (fun f => f.pollNext.symbols)

/-- The account of the reader is what was sent, or the beginning of it where
    the connection broke. A close message is the last one, and after it, or
    after the break, nothing comes. -/
structure Sound (p : WebsocketTunnel β) : Prop where
  order : p.reader.account <+: p.symbols
  whole : p.reader.broken = false → p.reader.account = p.symbols
  last : p.reader.coming.Pairwise (fun c _ => c ≠ .error true)
  unclosed : p.closing = false → .error true ∉ p.reader.coming
  ended : p.reader.ended = true → p.reader.buf = [] ∧ p.reader.coming = [] ∧
    (p.closing = true ∨ p.reader.broken = true) ∧
    (p.reader.broken = true ∨ p.reader.given.getLast? = some .error)

/-- What was read is what was written, byte for byte, with an error in the
    place of every message that is not binary; if the connection broke, it is
    the beginning of that. A read goes by what is still to come, and there is
    an end only behind an error. -/
structure Transparent (p : WebsocketTunnel β) : Prop where
  order : p.reader.given ++ p.reader.rest <+: p.symbols
  whole : p.reader.broken = false → p.reader.given ++ p.reader.rest = p.symbols
  next : ∀ room, 0 < room → p.reader.Expected room (p.reader.read room).1
  ending : p.reader.ended = true → p.reader.rest = [] ∧
    (p.reader.broken = true ∨ p.reader.given.getLast? = some .error)

variable {p p' : WebsocketTunnel β}

theorem sound_initial : (initial : WebsocketTunnel β).Sound where
  order := List.nil_prefix
  whole := fun _ => rfl
  last := List.Pairwise.nil
  unclosed := fun _ => List.not_mem_nil
  ended := fun he => absurd he Bool.false_ne_true

theorem symbols_send (hc : p.closing = false) (f : Frame β) :
    (p.send f).symbols = p.symbols ++ f.pollNext.symbols := by
  simp only [send, hc, symbols, Bool.false_eq_true, if_false, List.flatMap_append,
    List.flatMap_singleton]

theorem sound_send (hi : p.Sound) (f : Frame β) : (p.send f).Sound := by
  cases hc : p.closing with
  | true =>
      have hsend : p.send f = p := by
        simp only [send, hc, if_true]
      rw [hsend]
      exact hi
  | false =>
      have hsymbols := symbols_send hc f
      have hsend : p.send f = {
          sent := p.sent ++ [f], closing := f.isClose, reader := p.reader.put f.pollNext } := by
        simp only [send, hc, Bool.false_eq_true, if_false]
      cases hb : p.reader.broken with
      | true =>
          have hput : p.reader.put f.pollNext = p.reader := by
            simp only [ChunkReader.put, hb, if_true]
          rw [hput] at hsend
          have hbroken : (p.send f).reader.broken = true := by
            rw [hsend]
            exact hb
          refine ⟨?_, fun hno => ?_, ?_, fun _ => ?_, fun he => ?_⟩
          · rw [hsymbols, hsend]
            exact hi.order.trans (List.prefix_append _ _)
          · exact absurd (hno.symm.trans hbroken) Bool.false_ne_true
          · rw [hsend]
            exact hi.last
          · rw [hsend]
            exact hi.unclosed hc
          · rw [hsend] at he ⊢
            rcases hi.ended he with ⟨hbuf, hnone, _, htold⟩
            exact ⟨hbuf, hnone, Or.inr hb, htold⟩
      | false =>
          have hput : p.reader.put f.pollNext =
              { p.reader with coming := p.reader.coming ++ [f.pollNext] } := by
            simp only [ChunkReader.put, hb, Bool.false_eq_true, if_false]
          rw [hput] at hsend
          have haccount : (p.send f).reader.account = (p.send f).symbols := by
            rw [hsymbols, ← hi.whole hb, hsend]
            simp only [ChunkReader.account, ChunkReader.rest, List.flatMap_append,
              List.flatMap_singleton, List.append_assoc]
          refine ⟨?_, fun _ => haccount, ?_, fun hno => ?_, fun he => ?_⟩
          · exact ⟨[], by rw [List.append_nil, haccount]⟩
          · rw [hsend, List.pairwise_append]
            refine ⟨hi.last, List.pairwise_singleton _ _, fun c hcm _ _ heq => ?_⟩
            exact hi.unclosed hc (heq ▸ hcm)
          · rw [hsend] at hno ⊢
            rw [List.mem_append, List.mem_singleton, not_or]
            refine ⟨hi.unclosed hc, fun heq => ?_⟩
            exact absurd (hno.symm.trans (Frame.pollNext_eq_final_iff.mp heq.symm))
              Bool.false_ne_true
          · -- Only a close or a break ends the stream, and there was neither.
            rw [hsend] at he
            rcases (hi.ended he).2.2.1 with hclose | hbreak
            · exact absurd (hc.symm.trans hclose) Bool.false_ne_true
            · exact absurd (hb.symm.trans hbreak) Bool.false_ne_true

/-- A reader that keeps its account, takes chunks from the front, and is told
    of the end as it should. -/
theorem sound_of_reader (hi : p.Sound) {r : ChunkReader β}
    (haccount : r.account = p.reader.account) (hbroken : r.broken = p.reader.broken)
    (hsuffix : r.coming <:+ p.reader.coming)
    (hended : r.ended = true → r.buf = [] ∧ r.coming = [] ∧
      (p.closing = true ∨ r.broken = true) ∧
      (r.broken = true ∨ r.given.getLast? = some .error)) :
    ({ p with reader := r } : WebsocketTunnel β).Sound where
  order := by
    rw [haccount]
    exact hi.order
  whole := by
    rw [hbroken, haccount]
    exact hi.whole
  last := hi.last.sublist hsuffix.sublist
  unclosed := fun hc hmem => hi.unclosed hc (hsuffix.subset hmem)
  ended := hended

theorem sound_fill (hi : p.Sound) {o : Polled β} {r : ChunkReader β}
    (h : ChunkReader.Fill p.reader o r) : ({ p with reader := r } : WebsocketTunnel β).Sound := by
  have haccount := h.account
  cases h with
  | buffered | ended => exact hi
  | waiting _ he =>
      exact sound_of_reader hi haccount rfl List.nil_suffix
        (fun he' => absurd (he.symm.trans he') Bool.false_ne_true)
  | lost hbuf _ hb =>
      exact sound_of_reader hi haccount rfl List.nil_suffix
        (fun _ => ⟨hbuf, rfl, Or.inr hb, Or.inl hb⟩)
  | bytes _ he _ hsuffix =>
      exact sound_of_reader hi haccount rfl ((List.suffix_cons _ _).trans hsuffix)
        (fun he' => absurd (he.symm.trans he') Bool.false_ne_true)
  | @error hbuf _ final coming hsuffix =>
      refine sound_of_reader hi haccount rfl ((List.suffix_cons _ _).trans hsuffix)
        (fun hfinal => ?_)
      simp only at hfinal
      rw [hfinal] at hsuffix
      have hclosing : p.closing = true := by
        by_contra hc
        exact hi.unclosed (eq_false_of_ne_true hc) (hsuffix.subset List.mem_cons_self)
      have hnone : coming = [] := by
        have hlast := hi.last.sublist hsuffix.sublist
        rw [List.pairwise_cons] at hlast
        rw [List.eq_nil_iff_forall_not_mem]
        intro c hcm
        exact hlast.1 c hcm rfl
      refine ⟨hbuf, hnone, Or.inl hclosing, Or.inr ?_⟩
      rw [List.getLast?_concat]

theorem sound_consume (hi : p.Sound) (amt : Nat) :
    ({ p with reader := p.reader.consume amt } : WebsocketTunnel β).Sound := by
  refine sound_of_reader hi (ChunkReader.account_consume _ _) rfl (List.suffix_refl _)
    (fun he => ?_)
  rcases hi.ended he with ⟨hbuf, hnone, hwhy, htold⟩
  simp only [ChunkReader.consume, hbuf, List.drop_nil, List.take_nil, List.map_nil,
    List.append_nil, true_and]
  exact ⟨hnone, hwhy, htold⟩

theorem sound_read (hi : p.Sound) (room : Nat) :
    ({ p with reader := (p.reader.read room).2 } : WebsocketTunnel β).Sound := by
  by_cases hroom : room = 0
  · simp only [ChunkReader.read, if_pos hroom]
    exact hi
  · have hfill := ChunkReader.fill_fillBuf p.reader
    rcases hf : p.reader.fillBuf with ⟨o, r⟩
    rw [hf] at hfill
    have hr := sound_fill hi hfill
    cases o with
    | ready bs =>
        simp only [ChunkReader.read, if_neg hroom, hf]
        exact sound_consume hr _
    | pending | error =>
        simp only [ChunkReader.read, if_neg hroom, hf]
        exact hr

theorem sound_cut (hi : p.Sound) (n : Nat) :
    ({ p with reader := p.reader.cut n } : WebsocketTunnel β).Sound where
  order := by
    refine List.IsPrefix.trans ?_ hi.order
    have htake : (p.reader.coming.take n).flatMap Chunk.symbols <+:
        p.reader.coming.flatMap Chunk.symbols := by
      refine ⟨(p.reader.coming.drop n).flatMap Chunk.symbols, ?_⟩
      rw [← List.flatMap_append, List.take_append_drop]
    simp only [ChunkReader.account, ChunkReader.rest, ChunkReader.cut, List.prefix_append_right_inj]
    exact htake
  whole := fun hb => absurd hb (by
    simp only [ChunkReader.cut, Bool.true_eq_false, not_false_eq_true])
  last := hi.last.sublist (List.take_sublist _ _)
  unclosed := fun hc hmem => hi.unclosed hc (List.take_subset _ _ hmem)
  ended := by
    intro he
    rcases hi.ended he with ⟨hbuf, hnone, _, _⟩
    refine ⟨hbuf, ?_, Or.inr rfl, Or.inl rfl⟩
    simp only [ChunkReader.cut, hnone, List.take_nil]

theorem sound_of_step {a : Action β} (hi : p.Sound) (h : step p a = some p') : p'.Sound := by
  cases a with
  | pollWrite buf => rw [← Option.some.inj h]; exact sound_send hi _
  | pollShutdown => rw [← Option.some.inj h]; exact sound_send hi _
  | sendText text => rw [← Option.some.inj h]; exact sound_send hi _
  | peer f => rw [← Option.some.inj h]; exact sound_send hi f
  | pollRead room => rw [← Option.some.inj h]; exact sound_read hi room
  | pollFillBuf =>
      rw [← Option.some.inj h]
      exact sound_fill hi (ChunkReader.fill_fillBuf p.reader)
  | consume amt =>
      simp only [step, Option.ite_none_right_eq_some, Option.some.injEq] at h
      rw [← h.2]
      exact sound_consume hi amt
  | breakOff n => rw [← Option.some.inj h]; exact sound_cut hi n

theorem sound_of_run {ok : WebsocketTunnel β → Action β → Prop}
    (h : Reaches step ok initial p) : p.Sound :=
  h.invariant (fun _ _ _ hi _ hstep => sound_of_step hi hstep) sound_initial

/-- Whatever is written, sent and read in whatever order, and whenever the
    connection breaks. -/
theorem transparent (h : Reaches step (fun _ _ => True) initial p) : p.Transparent := by
  have hi := sound_of_run h
  refine ⟨hi.order, hi.whole, fun room hroom => ?_, fun he => ?_⟩
  · exact ChunkReader.expected_read hroom (fun he => (hi.ended he).1)
  · rcases hi.ended he with ⟨hbuf, hnone, _, htold⟩
    refine ⟨?_, htold⟩
    simp only [ChunkReader.rest, hbuf, hnone, List.map_nil, List.flatMap_nil, List.append_nil]

/-- A peer's text between two writes, read in small pieces, and then the end. -/
def mixed : List (Action Nat) :=
  [.pollWrite [1, 2], .pollWrite [], .sendText "health", .pollWrite [3], .pollRead 1, .pollFillBuf,
    .consume 1, .pollRead 8, .pollRead 8, .pollShutdown, .pollRead 8]

theorem transparent_mixed : ∃ p, exec step initial mixed = some p ∧ p.Transparent ∧
    p.reader.given = [.byte 1, .byte 2, .error, .byte 3, .error] ∧ p.reader.ended = true := by
  rcases hrun : exec step initial mixed with _ | p
  · exact absurd hrun (by decide +kernel)
  · have hfacts : (exec step initial mixed).map (fun p => (p.reader.given, p.reader.ended)) =
        some ([.byte 1, .byte 2, .error, .byte 3, .error], true) := by
      decide +kernel
    rw [hrun] at hfacts
    simp only [Option.map_some, Option.some.injEq, Prod.mk.injEq] at hfacts
    exact ⟨p, rfl, transparent (reaches_of_exec _ _ _ hrun), hfacts⟩

end WebsocketTunnel

/-! ### Data channels -/

/-- A wire that is read, and whether its reader was told of the end. -/
structure Channel (β : Type) where
  wire : Wire β
  got : List β
  failed : Bool
deriving DecidableEq, Repr

namespace Channel

variable {β : Type}

/-- What can happen next to a channel. -/
inductive Action (β : Type)
  | write (bs : List β)
  | close
  | read (n : Nat)
  | fail
deriving DecidableEq

/-- A channel that nothing has been written to. -/
def initial : Channel β where
  wire := Wire.fresh
  got := []
  failed := false

/-- One action of the channel. -/
def step [DecidableEq β] (c : Channel β) : Action β → Option (Channel β)
  | .write bs =>
      if c.wire.closed = false then some { c with wire := c.wire.write bs } else none
  | .close => some { c with wire := c.wire.close }
  | .read n =>
      if 0 < n ∧ n ≤ c.wire.bytes.length then some { c with
        wire := c.wire.drop n, got := c.got ++ c.wire.bytes.take n }
      else none
  | .fail =>
      if c.failed = false ∧ c.wire.AtEnd then some { c with failed := true } else none

end Channel

namespace WebsocketTunnel

variable {β : Type} {p p' : WebsocketTunnel β}

/-- What the ends of a data channel do, as long as the connection holds. -/
def Own (_ : WebsocketTunnel β) : Action β → Prop
  | .pollWrite _ | .pollShutdown | .pollRead _ | .pollFillBuf | .consume _ => True
  | _ => False

instance (p : WebsocketTunnel β) (a : Action β) : Decidable (p.Own a) := by
  unfold Own
  split <;> infer_instance

/-- The channel that a websocket is. -/
def channel (p : WebsocketTunnel β) : Channel β where
  wire := { bytes := bytesOf p.reader.rest, closed := p.closing }
  got := bytesOf p.reader.given
  failed := p.reader.ended

/-- The connection holds, and the only error to come is the close message. -/
structure Plain (p : WebsocketTunnel β) : Prop where
  sound : p.Sound
  broken : p.reader.broken = false
  coming : .error false ∉ p.reader.coming

theorem plain_initial : (initial : WebsocketTunnel β).Plain where
  sound := sound_initial
  broken := rfl
  coming := List.not_mem_nil

/-- A reader that takes chunks from the front. -/
theorem plain_of_reader (hi : p.Plain) {r : ChunkReader β}
    (hsound : ({ p with reader := r } : WebsocketTunnel β).Sound)
    (hbroken : r.broken = p.reader.broken) (hsuffix : r.coming <:+ p.reader.coming) :
    ({ p with reader := r } : WebsocketTunnel β).Plain where
  sound := hsound
  broken := hbroken.trans hi.broken
  coming := fun hmem => hi.coming (hsuffix.subset hmem)

theorem plain_send (hi : p.Plain) {f : Frame β} (hf : f.pollNext ≠ .error false) :
    (p.send f).Plain := by
  refine ⟨sound_send hi.sound f, ?_, ?_⟩
  · by_cases hc : p.closing = true
    · simp only [send, hc, if_true, hi.broken]
    · simp only [send, hc, Bool.false_eq_true, if_false, ChunkReader.put, hi.broken]
  · by_cases hc : p.closing = true
    · simp only [send, hc, if_true]
      exact hi.coming
    · simp only [send, hc, Bool.false_eq_true, if_false, ChunkReader.put, hi.broken,
        List.mem_append, List.mem_singleton, not_or]
      exact ⟨hi.coming, fun heq => hf heq.symm⟩

/-- What is sent is written to the wire, and the close message closes it. -/
theorem channel_send (hi : p.Plain) (hc : p.closing = false) (f : Frame β) :
    (p.send f).channel = { p.channel with wire := {
      bytes := p.channel.wire.bytes ++ bytesOf f.pollNext.symbols, closed := f.isClose } } := by
  simp only [channel, send, hc, Bool.false_eq_true, if_false, ChunkReader.put, hi.broken,
    ChunkReader.rest, List.flatMap_append, List.flatMap_singleton, bytesOf_append,
    List.append_assoc]

variable [DecidableEq β]

/-- Some actions on the channel. -/
abbrev Steps (c d : Channel β) : Prop := Reaches Channel.step (fun _ _ => True) c d

theorem steps_pollWrite (hi : p.Plain) (buf : List β) :
    Steps p.channel (p.send (.binary buf)).channel := by
  cases hc : p.closing with
  | true =>
      simp only [send, hc, if_true]
      exact Reaches.refl
  | false =>
      refine Reaches.refl.tail (a := .write buf) trivial ?_
      have hopen : p.channel.wire.closed = false := hc
      rw [channel_send hi hc, Channel.step, if_pos hopen]
      simp only [Frame.pollNext, Frame.isClose, Chunk.symbols, bytesOf_map_byte, Wire.write, hopen]

theorem steps_pollShutdown (hi : p.Plain) : Steps p.channel (p.send .close).channel := by
  cases hc : p.closing with
  | true =>
      simp only [send, hc, if_true]
      exact Reaches.refl
  | false =>
      refine Reaches.refl.tail (a := .close) trivial ?_
      rw [channel_send hi hc, Channel.step]
      simp only [Frame.pollNext, Frame.isClose, Chunk.symbols, bytesOf_error, List.append_nil,
        Wire.close]

/-- A look at the stream finds bytes, or nothing, or the close message behind
    everything else. -/
theorem steps_fill (hi : p.Plain) {o : Polled β} {r : ChunkReader β}
    (h : ChunkReader.Fill p.reader o r) :
    ({ p with reader := r } : WebsocketTunnel β).Plain ∧
      Steps p.channel ({ p with reader := r } : WebsocketTunnel β).channel := by
  have hsound := sound_fill hi.sound h
  have hrest : bytesOf r.given ++ bytesOf r.rest =
      bytesOf p.reader.given ++ bytesOf p.reader.rest := by
    rw [← bytesOf_append, ← bytesOf_append]
    exact congrArg bytesOf h.account
  cases h with
  | buffered | ended => exact ⟨hi, Reaches.refl⟩
  | waiting =>
      refine ⟨plain_of_reader hi hsound rfl List.nil_suffix, ?_⟩
      rw [List.append_cancel_left_eq] at hrest
      simp only [channel, hrest]
      exact Reaches.refl
  | lost _ _ hb => exact absurd (hi.broken.symm.trans hb) Bool.false_ne_true
  | bytes _ _ _ hsuffix =>
      refine ⟨plain_of_reader hi hsound rfl ((List.suffix_cons _ _).trans hsuffix), ?_⟩
      rw [List.append_cancel_left_eq] at hrest
      simp only [channel, hrest]
      exact Reaches.refl
  | @error hbuf he final coming hsuffix hskip =>
      have hfinal : final = true := by
        by_contra hf
        rw [eq_false_of_ne_true hf] at hsuffix
        exact hi.coming (hsuffix.subset List.mem_cons_self)
      rw [hfinal] at hsuffix hsound ⊢
      refine ⟨plain_of_reader hi hsound rfl ((List.suffix_cons _ _).trans hsuffix), ?_⟩
      have hnone : coming = [] := (hsound.ended rfl).2.1
      have hclosing : p.closing = true := by
        by_contra hc
        exact hi.sound.unclosed (eq_false_of_ne_true hc) (hsuffix.subset List.mem_cons_self)
      have hbytes : bytesOf p.reader.rest = [] := by
        rw [ChunkReader.rest, hbuf, hskip, hnone]
        rfl
      refine Reaches.refl.tail (a := .fail) trivial ?_
      have hcan : p.channel.failed = false ∧ p.channel.wire.AtEnd := ⟨he, hclosing, hbytes⟩
      rw [Channel.step, if_pos hcan]
      simp only [channel, ChunkReader.rest, hbuf, hskip, hnone, List.map_nil, List.nil_append,
        List.flatMap_nil, bytesOf_append, bytesOf_error, List.append_nil]
      rfl

theorem steps_consume (hi : p.Plain) {amt : Nat} (hle : amt ≤ p.reader.buf.length) :
    ({ p with reader := p.reader.consume amt } : WebsocketTunnel β).Plain ∧
      Steps p.channel ({ p with reader := p.reader.consume amt } : WebsocketTunnel β).channel := by
  refine ⟨plain_of_reader hi (sound_consume hi.sound amt) rfl (List.suffix_refl _), ?_⟩
  by_cases hzero : amt = 0
  · simp only [channel, ChunkReader.consume, ChunkReader.rest, hzero, List.drop_zero,
      List.take_zero, List.map_nil, List.append_nil]
    exact Reaches.refl
  · refine Reaches.refl.tail (a := .read amt) trivial ?_
    have hbytes : p.channel.wire.bytes =
        p.reader.buf ++ bytesOf (p.reader.coming.flatMap Chunk.symbols) := by
      simp only [channel, ChunkReader.rest, bytesOf_append, bytesOf_map_byte]
    have hcan : 0 < amt ∧ amt ≤ p.channel.wire.bytes.length := by
      rw [hbytes, List.length_append]
      omega
    rw [Channel.step, if_pos hcan]
    simp only [Wire.drop, hbytes, List.take_append_of_le_length hle,
      List.drop_append_of_le_length hle]
    simp only [channel, ChunkReader.consume, ChunkReader.rest, bytesOf_append, bytesOf_map_byte]

theorem steps_read (hi : p.Plain) (room : Nat) :
    ({ p with reader := (p.reader.read room).2 } : WebsocketTunnel β).Plain ∧
      Steps p.channel
        ({ p with reader := (p.reader.read room).2 } : WebsocketTunnel β).channel := by
  by_cases hroom : room = 0
  · simp only [ChunkReader.read, if_pos hroom]
    exact ⟨hi, Reaches.refl⟩
  · have hfill := ChunkReader.fill_fillBuf p.reader
    rcases hf : p.reader.fillBuf with ⟨o, r⟩
    rw [hf] at hfill
    have hr := steps_fill hi hfill
    cases o with
    | ready bs =>
        have hbs : r.buf = bs := by
          cases hfill with
          | buffered | bytes => rfl
          | ended hbuf => exact hbuf
        have hle : min bs.length room ≤ r.buf.length := by
          rw [hbs]
          exact Nat.min_le_left _ _
        have hc := steps_consume hr.1 hle
        simp only [ChunkReader.read, if_neg hroom, hf]
        exact ⟨hc.1, hr.2.trans hc.2⟩
    | pending | error =>
        simp only [ChunkReader.read, if_neg hroom, hf]
        exact hr

/-- On a data channel every step is one of the channel, or nothing to it. -/
theorem channel_of_step {a : Action β} (hi : p.Plain) (hown : p.Own a)
    (h : step p a = some p') : p'.Plain ∧ Steps p.channel p'.channel := by
  cases a with
  | pollWrite buf =>
      rw [← Option.some.inj h]
      refine ⟨plain_send hi ?_, steps_pollWrite hi buf⟩
      simp only [Frame.pollNext, ne_eq, reduceCtorEq, not_false_eq_true]
  | pollShutdown =>
      rw [← Option.some.inj h]
      refine ⟨plain_send hi ?_, steps_pollShutdown hi⟩
      simp only [Frame.pollNext, ne_eq, Chunk.error.injEq, Bool.true_eq_false, not_false_eq_true]
  | pollRead room => rw [← Option.some.inj h]; exact steps_read hi room
  | pollFillBuf =>
      rw [← Option.some.inj h]
      exact steps_fill hi (ChunkReader.fill_fillBuf p.reader)
  | consume amt =>
      simp only [step, Option.ite_none_right_eq_some, Option.some.injEq] at h
      rw [← h.2]
      exact steps_consume hi h.1
  | sendText text => exact absurd hown id
  | peer f => exact absurd hown id
  | breakOff n => exact absurd hown id

/-- A data channel over a websocket is a channel, in every run: each byte once
    and in order, and an error behind the last one. -/
theorem refines_channel (h : Reaches step Own initial p) :
    Reaches Channel.step (fun _ _ => True) Channel.initial p.channel := by
  have hkeep : ∀ (p : WebsocketTunnel β) (a : Action β) (p' : WebsocketTunnel β),
      p.Plain ∧ Steps Channel.initial p.channel → p.Own a → step p a = some p' →
      p'.Plain ∧ Steps Channel.initial p'.channel := fun _ _ _ hi hown hstep =>
    have hs := channel_of_step hi.1 hown hstep
    ⟨hs.1, hi.2.trans hs.2⟩
  have hsteps := h.invariant hkeep ⟨plain_initial, Reaches.refl⟩
  exact hsteps.2

/-- Two writes, read in other pieces than they were written in. -/
def resized : List (Action Nat) :=
  [.pollWrite [1, 2], .pollRead 1, .pollWrite [3], .pollShutdown, .pollRead 8, .pollRead 8,
    .pollRead 8]

theorem refines_channel_resized : ∃ p, exec step initial resized = some p ∧
    Reaches Channel.step (fun _ _ => True) Channel.initial p.channel ∧
    p.channel = { wire := { bytes := [], closed := true }, got := [1, 2, 3], failed := true } := by
  rcases hrun : exec step initial resized with _ | p
  · exact absurd hrun (by decide +kernel)
  · have hlegal : Legal step Own initial resized := by
      decide +kernel
    have hfacts : (exec step initial resized).map channel = some {
        wire := { bytes := [], closed := true }, got := [1, 2, 3], failed := true } := by
      decide +kernel
    rw [hrun, Option.map_some, Option.some.injEq] at hfacts
    exact ⟨p, rfl, refines_channel (reaches_of_legal _ _ _ hlegal hrun), hfacts⟩

end WebsocketTunnel

end Rathole
