import Mathlib.Data.List.Basic
import Mathlib.Tactic.Common

/-!
# Copying Bytes From Stream to Stream

One direction of a connection is a wire: the bytes that were written and have
yet to be read, and whether the writer has shut it down. A copier reads off
one wire into a buffer and writes from there to another, in pieces of any
size, and shuts the second wire down when the first has come to its end.

A lane is two copiers in a row, with the wire between them, and a record of
what went in at one end and has come out at the other. The wire in the middle
may begin with a header that is not of the lane: its two ends exchange it
before they copy. Until it is taken off, the second copier must not read.

## Main definitions

* `Wire`, `Copier`: A stream and what copies it.
* `Transfer`, `Transfer.step`: A copier between its two wires.
* `Transfer.Ordered`: The end comes after all bytes.
* `Lane`: Two copiers in a row.
* `Lane.Carries`: What went in is what came out and what is on its way.

## Theorems

* `Transfer.content_of_step`: Copying neither loses nor reorders anything.
* `Transfer.ordered_of_step`: It keeps the end behind the bytes.
* `Transfer.idle_of_stuck`: A copier that cannot go on has nothing left to do.
* `Lane.carries_first`, `Lane.carries_second`: A lane keeps what it carries.
* `Lane.whole_of_closed`: When its end has come out, so has everything else.
* `Lane.stuck_of_closed`: It has nothing left to do then.
* `Lane.whole_of_stuck`: A lane that cannot go on has passed everything on.
* `Lane.prefix_of_frozen`: Without its first copier a lane runs dry.
-/

namespace ByteStream

variable {β : Type}

/-- One direction of a connection. -/
structure Wire (β : Type) where
  bytes : List β
  closed : Bool
deriving DecidableEq, Repr

namespace Wire

/-- An open wire with nothing on it. -/
def fresh : Wire β where
  bytes := []
  closed := false

/-- Bytes get on the wire, behind those that are on it. -/
def write (w : Wire β) (bs : List β) : Wire β := { w with bytes := w.bytes ++ bs }

/-- The end is put behind the bytes. -/
def close (w : Wire β) : Wire β := { w with closed := true }

/-- Bytes are taken off the wire. -/
def drop (w : Wire β) (n : Nat) : Wire β := { w with bytes := w.bytes.drop n }

/-- All was read, and nothing more will come. -/
def AtEnd (w : Wire β) : Prop := w.closed = true ∧ w.bytes = []

instance (w : Wire β) [DecidableEq β] : Decidable w.AtEnd := by
  unfold AtEnd
  infer_instance

@[simp] theorem bytes_write (w : Wire β) (bs : List β) : (w.write bs).bytes = w.bytes ++ bs := rfl

@[simp] theorem closed_write (w : Wire β) (bs : List β) : (w.write bs).closed = w.closed := rfl

@[simp] theorem bytes_close (w : Wire β) : w.close.bytes = w.bytes := rfl

@[simp] theorem closed_close (w : Wire β) : w.close.closed = true := rfl

@[simp] theorem bytes_drop (w : Wire β) (n : Nat) : (w.drop n).bytes = w.bytes.drop n := rfl

@[simp] theorem closed_drop (w : Wire β) (n : Nat) : (w.drop n).closed = w.closed := rfl

end Wire

/-- What was read and not written yet, whether the end was read, and whether
    it was passed on. -/
structure Copier (β : Type) where
  buf : List β
  eof : Bool
  shut : Bool
deriving DecidableEq, Repr

/-- A copier that has read nothing. -/
def Copier.fresh : Copier β where
  buf := []
  eof := false
  shut := false

/-- What a copier does next. -/
inductive CopyAction
  | read (n : Nat)
  | eof
  | write (n : Nat)
  | shutdown
deriving DecidableEq, Repr

/-- A copier between the wire it reads and the wire it writes. -/
structure Transfer (β : Type) where
  src : Wire β
  copier : Copier β
  dst : Wire β
deriving DecidableEq, Repr

namespace Transfer

/-- One action of a copier whose buffer has room for `capacity` bytes. -/
def step [DecidableEq β] (capacity : Nat) (t : Transfer β) : CopyAction → Option (Transfer β)
  | .read n =>
      if t.copier.eof = false ∧ 0 < n ∧ n ≤ t.src.bytes.length ∧
          t.copier.buf.length + n ≤ capacity then some { t with
        src := t.src.drop n
        copier := { t.copier with buf := t.copier.buf ++ t.src.bytes.take n } }
      else none
  | .eof =>
      if t.copier.eof = false ∧ t.src.AtEnd then
        some { t with copier := { t.copier with eof := true } }
      else none
  | .write n =>
      if 0 < n ∧ n ≤ t.copier.buf.length then some { t with
        copier := { t.copier with buf := t.copier.buf.drop n }
        dst := t.dst.write (t.copier.buf.take n) }
      else none
  | .shutdown =>
      if t.copier.eof = true ∧ t.copier.buf = [] ∧ t.copier.shut = false then some { t with
        copier := { t.copier with shut := true }
        dst := t.dst.close }
      else none

/-- Everything there is, the bytes that came first at the front. -/
def content (t : Transfer β) : List β := t.dst.bytes ++ (t.copier.buf ++ t.src.bytes)

/-- The end was read after all bytes, it is passed on after them, and nobody
    but the copier shuts its wire down. -/
structure Ordered (t : Transfer β) : Prop where
  eof : t.copier.eof = true → t.src.AtEnd
  shut : t.copier.shut = true →
    t.copier.eof = true ∧ t.copier.buf = [] ∧ t.dst.closed = true
  closed : t.dst.closed = true → t.copier.shut = true

variable [DecidableEq β] {capacity : Nat} {t t' : Transfer β} {a : CopyAction}

/-- Copying neither loses nor reorders anything. -/
theorem content_of_step (h : t.step capacity a = some t') : t'.content = t.content := by
  cases a with
  | read n =>
      simp only [step, Option.ite_none_right_eq_some, Option.some.injEq] at h
      rw [← h.2]
      simp only [content, Wire.bytes_drop, List.append_assoc, List.take_append_drop]
  | eof =>
      simp only [step, Option.ite_none_right_eq_some, Option.some.injEq] at h
      rw [← h.2]
      rfl
  | write n =>
      simp only [step, Option.ite_none_right_eq_some, Option.some.injEq] at h
      rw [← h.2]
      simp only [content, Wire.bytes_write, List.append_assoc]
      rw [← List.append_assoc (t.copier.buf.take n), List.take_append_drop]
  | shutdown =>
      simp only [step, Option.ite_none_right_eq_some, Option.some.injEq] at h
      rw [← h.2]
      rfl

theorem ordered_of_step (hi : t.Ordered) (h : t.step capacity a = some t') : t'.Ordered := by
  cases a with
  | read n =>
      simp only [step, Option.ite_none_right_eq_some, Option.some.injEq] at h
      rcases h with ⟨⟨hrun, _⟩, rfl⟩
      refine ⟨fun he => ?_, fun hs => ?_, hi.closed⟩
      · exact absurd (hrun.symm.trans he) Bool.false_ne_true
      · exact absurd (hrun.symm.trans (hi.shut hs).1) Bool.false_ne_true
  | eof =>
      simp only [step, Option.ite_none_right_eq_some, Option.some.injEq] at h
      rcases h with ⟨⟨_, hend⟩, rfl⟩
      exact ⟨fun _ => hend, fun hs => ⟨rfl, (hi.shut hs).2⟩, hi.closed⟩
  | write n =>
      simp only [step, Option.ite_none_right_eq_some, Option.some.injEq] at h
      rcases h with ⟨_, rfl⟩
      refine ⟨hi.eof, fun hs => ⟨(hi.shut hs).1, ?_, (hi.shut hs).2.2⟩, hi.closed⟩
      simp only [(hi.shut hs).2.1, List.drop_nil]
  | shutdown =>
      simp only [step, Option.ite_none_right_eq_some, Option.some.injEq] at h
      rcases h with ⟨⟨he, hbuf, _⟩, rfl⟩
      exact ⟨hi.eof, fun _ => ⟨he, hbuf, rfl⟩, fun _ => rfl⟩

/-- Once the end was passed on there is nothing left to do. -/
theorem stuck_of_shut (hi : t.Ordered) (hs : t.copier.shut = true) (a : CopyAction) :
    t.step capacity a = none := by
  rcases hi.shut hs with ⟨he, hbuf, _⟩
  cases a with
  | read n => simp only [step, he, Bool.true_eq_false, false_and, if_false]
  | eof => simp only [step, he, Bool.true_eq_false, false_and, if_false]
  | write n =>
      rw [step, hbuf, if_neg]
      simp only [List.length_nil]
      omega
  | shutdown => simp only [step, hs, Bool.true_eq_false, and_false, if_false]

/-- A copier that cannot go on has passed on what there was, also the end. -/
theorem idle_of_stuck (hcap : 0 < capacity) (h : ∀ a, t.step capacity a = none) :
    t.copier.buf = [] ∧ (t.copier.eof = false → t.src.bytes = [] ∧ t.src.closed = false) ∧
      (t.copier.eof = true → t.copier.shut = true) := by
  have hbuf : t.copier.buf = [] := by
    by_contra hne
    have hpos : 0 < t.copier.buf.length := List.length_pos_iff.mpr hne
    have hwrite := h (.write t.copier.buf.length)
    simp only [step, hpos, Nat.le_refl, and_self, if_true, reduceCtorEq] at hwrite
  have hbytes : t.copier.eof = false → t.src.bytes = [] := by
    intro he
    by_contra hne
    have hpos : 0 < t.src.bytes.length := List.length_pos_iff.mpr hne
    have hread := h (.read 1)
    have hone : 1 ≤ t.src.bytes.length := hpos
    have hroom : t.copier.buf.length + 1 ≤ capacity := by
      rw [hbuf, List.length_nil]
      omega
    simp only [step, he, Nat.zero_lt_one, hone, hroom, and_self, if_true, reduceCtorEq] at hread
  refine ⟨hbuf, fun he => ⟨hbytes he, ?_⟩, fun he => ?_⟩
  · have heof := h .eof
    rw [step, ite_eq_right_iff] at heof
    by_contra hc
    have := heof ⟨he, eq_true_of_ne_false hc, hbytes he⟩
    simp only [reduceCtorEq] at this
  · have hshut := h .shutdown
    rw [step, ite_eq_right_iff] at hshut
    by_contra hs
    have := hshut ⟨he, hbuf, eq_false_of_ne_true hs⟩
    simp only [reduceCtorEq] at this

end Transfer

/-- Two copiers in a row, and what went in at one end and has come out at the
    other. -/
structure Lane (β : Type) where
  entry : Wire β
  first : Copier β
  middle : Wire β
  second : Copier β
  exit : Wire β
  sent : List β
  got : List β
deriving DecidableEq, Repr

namespace Lane

/-- A lane that nothing has entered. -/
def fresh : Lane β where
  entry := Wire.fresh
  first := Copier.fresh
  middle := Wire.fresh
  second := Copier.fresh
  exit := Wire.fresh
  sent := []
  got := []

/-- The first copier between its wires. -/
def front (l : Lane β) : Transfer β where
  src := l.entry
  copier := l.first
  dst := l.middle

/-- The second copier between its wires. -/
def rear (l : Lane β) : Transfer β where
  src := l.middle
  copier := l.second
  dst := l.exit

/-- The sender writes. -/
def send (l : Lane β) (bs : List β) : Option (Lane β) :=
  if l.entry.closed = false then
    some { l with entry := l.entry.write bs, sent := l.sent ++ bs }
  else none

/-- The sender shuts its end down. -/
def finish (l : Lane β) : Lane β := { l with entry := l.entry.close }

/-- The receiver reads. -/
def receive (l : Lane β) (n : Nat) : Option (Lane β) :=
  if 0 < n ∧ n ≤ l.exit.bytes.length then
    some { l with exit := l.exit.drop n, got := l.got ++ l.exit.bytes.take n }
  else none

/-- An action of the first copier. -/
def copyFirst [DecidableEq β] (capacity : Nat) (l : Lane β) (a : CopyAction) : Option (Lane β) :=
  (l.front.step capacity a).map (fun t =>
    { l with entry := t.src, first := t.copier, middle := t.dst })

/-- An action of the second copier. -/
def copySecond [DecidableEq β] (capacity : Nat) (l : Lane β) (a : CopyAction) : Option (Lane β) :=
  (l.rear.step capacity a).map (fun t =>
    { l with middle := t.src, second := t.copier, exit := t.dst })

/-- What went in is what came out and what is on its way, in this order,
    behind the header that is on the wire in the middle. -/
def Carries (header : List β) (l : Lane β) : Prop :=
  ∃ payload, l.middle.bytes = header ++ payload ∧
    l.sent = l.got ++ (l.exit.bytes ++ (l.second.buf ++ (payload ++ (l.first.buf ++
      l.entry.bytes))))

/-- The end stays behind the bytes in both copiers. -/
structure Ordered (l : Lane β) : Prop where
  front : l.front.Ordered
  rear : l.rear.Ordered

variable {capacity : Nat} {header bs : List β} {l l' : Lane β} {a : CopyAction} {n : Nat}

theorem carries_fresh : (Lane.fresh : Lane β).Carries [] := ⟨[], rfl, rfl⟩

theorem carries_send (hi : l.Carries header) (h : l.send bs = some l') : l'.Carries header := by
  simp only [send, Option.ite_none_right_eq_some, Option.some.injEq] at h
  rcases hi with ⟨payload, hmiddle, hsent⟩
  rw [← h.2]
  refine ⟨payload, hmiddle, ?_⟩
  simp only [hsent, Wire.bytes_write, List.append_assoc]

/-- The sender only comes now, with what it has written by then. -/
theorem carries_enter (hi : l.Carries header) (hsent : l.sent = []) (w : Wire β) :
    { l with entry := w, sent := w.bytes }.Carries header := by
  rcases hi with ⟨payload, hmiddle, hall⟩
  rw [hsent] at hall
  simp only [List.nil_eq, List.append_eq_nil_iff] at hall
  rcases hall with ⟨hgot, hexit, hsecond, hpayload, hfirst, _⟩
  refine ⟨payload, hmiddle, ?_⟩
  simp only [hgot, hexit, hsecond, hpayload, hfirst, List.nil_append]

theorem carries_finish (hi : l.Carries header) : l.finish.Carries header := hi

theorem carries_receive (hi : l.Carries header) (h : l.receive n = some l') :
    l'.Carries header := by
  simp only [receive, Option.ite_none_right_eq_some, Option.some.injEq] at h
  rcases hi with ⟨payload, hmiddle, hsent⟩
  rw [← h.2]
  refine ⟨payload, hmiddle, ?_⟩
  rw [hsent]
  simp only [Wire.bytes_drop, List.append_assoc]
  rw [← List.append_assoc (l.exit.bytes.take n), List.take_append_drop]

/-- A header is written before anything else is. -/
theorem carries_header (hi : l.Carries []) (hnew : l.middle.bytes = []) :
    { l with middle := l.middle.write bs }.Carries bs := by
  rcases hi with ⟨payload, hmiddle, hsent⟩
  rw [hnew, List.nil_append] at hmiddle
  refine ⟨[], by simp only [Wire.bytes_write, hnew, List.nil_append, List.append_nil], ?_⟩
  rw [hsent, ← hmiddle]

/-- The header is taken off. -/
theorem carries_rest (hi : l.Carries header) :
    { l with middle := l.middle.drop header.length }.Carries [] := by
  rcases hi with ⟨payload, hmiddle, hsent⟩
  refine ⟨payload, ?_, hsent⟩
  simp only [Wire.bytes_drop, hmiddle, List.drop_left, List.nil_append]

/-- Nothing comes out that did not go in, nor in another order. -/
theorem Carries.isPrefix (hi : l.Carries header) : l.got <+: l.sent := by
  rcases hi with ⟨payload, _, hsent⟩
  rw [hsent]
  exact List.prefix_append _ _

/-! ### The end of a lane -/

theorem ordered_fresh : (Lane.fresh : Lane β).Ordered := by
  have hno : ∀ {P : Prop}, false = true → P := fun h => absurd h Bool.false_ne_true
  exact ⟨⟨hno, hno, hno⟩, ⟨hno, hno, hno⟩⟩

theorem ordered_send (hi : l.Ordered) (h : l.send bs = some l') : l'.Ordered := by
  simp only [send, Option.ite_none_right_eq_some, Option.some.injEq] at h
  rcases h with ⟨hopen, rfl⟩
  refine ⟨⟨fun he => ?_, hi.front.shut, hi.front.closed⟩, hi.rear⟩
  exact absurd (hopen.symm.trans (hi.front.eof he).1) Bool.false_ne_true

theorem ordered_finish (hi : l.Ordered) : l.finish.Ordered :=
  ⟨⟨fun he => ⟨rfl, (hi.front.eof he).2⟩, hi.front.shut, hi.front.closed⟩, hi.rear⟩

theorem ordered_receive (hi : l.Ordered) (h : l.receive n = some l') : l'.Ordered := by
  simp only [receive, Option.ite_none_right_eq_some, Option.some.injEq] at h
  rcases h with ⟨_, rfl⟩
  exact ⟨hi.front, ⟨hi.rear.eof, hi.rear.shut, hi.rear.closed⟩⟩

/-- A header is written before the first copier starts. -/
theorem ordered_header (hi : l.Ordered) (hnew : l.first = Copier.fresh) :
    { l with middle := l.middle.write bs }.Ordered := by
  refine ⟨⟨hi.front.eof, hi.front.shut, hi.front.closed⟩,
    ⟨fun he => ?_, hi.rear.shut, hi.rear.closed⟩⟩
  have hshut := hi.front.closed (hi.rear.eof he).1
  simp only [front, hnew, Copier.fresh, Bool.false_eq_true] at hshut

theorem ordered_rest (hi : l.Ordered) (k : Nat) :
    { l with middle := l.middle.drop k }.Ordered := by
  refine ⟨⟨hi.front.eof, hi.front.shut, hi.front.closed⟩,
    ⟨fun he => ⟨(hi.rear.eof he).1, ?_⟩, hi.rear.shut, hi.rear.closed⟩⟩
  have hempty := (hi.rear.eof he).2
  simp only [rear] at hempty
  simp only [rear, Wire.bytes_drop, hempty, List.drop_nil]

/-- When the end has come out at the far end of a lane, its sender had shut
    it down, and everything is there. -/
theorem whole_of_closed (hi : l.Ordered) (hc : l.Carries header) (hexit : l.exit.closed = true) :
    l.entry.closed = true ∧ l.sent = l.got ++ l.exit.bytes := by
  rcases hi.rear.shut (hi.rear.closed hexit) with ⟨heof, hbuf, _⟩
  rcases hi.rear.eof heof with ⟨hmid, hmidBytes⟩
  rcases hi.front.shut (hi.front.closed hmid) with ⟨heof', hbuf', _⟩
  rcases hi.front.eof heof' with ⟨hentry, hentryBytes⟩
  rcases hc with ⟨payload, hmiddle, hsent⟩
  refine ⟨hentry, ?_⟩
  simp only [front, rear] at hbuf hbuf' hmidBytes hentryBytes
  rw [hmidBytes] at hmiddle
  rw [hsent, hbuf, hbuf', hentryBytes, (List.append_eq_nil_iff.mp hmiddle.symm).2]
  simp only [List.append_nil]

/-! ### A lane whose first copier has stopped -/

/-- What the first copier has written. -/
def copied (l : Lane β) : List β :=
  l.sent.take (l.sent.length - (l.first.buf.length + l.entry.bytes.length))

/-- The first copier has written nothing since. -/
structure Frozen (l l' : Lane β) : Prop where
  buf : l'.first.buf = l.first.buf
  entry : ∃ more, l'.entry.bytes = l.entry.bytes ++ more ∧ l'.sent = l.sent ++ more

theorem Frozen.refl (l : Lane β) : l.Frozen l where
  buf := rfl
  entry := ⟨[], (List.append_nil _).symm, (List.append_nil _).symm⟩

theorem Frozen.trans {l'' : Lane β} (h : l.Frozen l') (h' : l'.Frozen l'') : l.Frozen l'' := by
  rcases h.entry with ⟨more, hentry, hsent⟩
  rcases h'.entry with ⟨more', hentry', hsent'⟩
  refine ⟨h'.buf.trans h.buf, more ++ more', ?_, ?_⟩
  · rw [hentry', hentry, List.append_assoc]
  · rw [hsent', hsent, List.append_assoc]

theorem prefix_copied (hc : l.Carries header) : l.got <+: l.copied := by
  rcases hc with ⟨payload, _, hsent⟩
  have hcopied : l.copied = l.got ++ (l.exit.bytes ++ (l.second.buf ++ payload)) := by
    have hsplit : l.sent = (l.got ++ (l.exit.bytes ++ (l.second.buf ++ payload))) ++
        (l.first.buf ++ l.entry.bytes) := by
      rw [hsent]
      simp only [List.append_assoc]
    have hlen : l.sent.length - (l.first.buf.length + l.entry.bytes.length) =
        (l.got ++ (l.exit.bytes ++ (l.second.buf ++ payload))).length := by
      rw [hsplit]
      simp only [List.length_append]
      omega
    rw [copied, hlen]
    nth_rewrite 1 [hsplit]
    exact List.take_left
  rw [hcopied]
  exact List.prefix_append _ _

/-- Nothing more comes out than what was copied. -/
theorem prefix_of_frozen (hf : l.Frozen l') (hc : l'.Carries header) : l'.got <+: l.copied := by
  rcases hf.entry with ⟨more, hentry, hsent⟩
  have hle : l.sent.length - (l.first.buf.length + l.entry.bytes.length) ≤ l.sent.length :=
    Nat.sub_le _ _
  have hsame : l'.copied = l.copied := by
    have hlen : l.sent.length + more.length - (l.first.buf.length +
        (l.entry.bytes.length + more.length)) =
        l.sent.length - (l.first.buf.length + l.entry.bytes.length) := by
      omega
    rw [copied, copied, hf.buf, hentry, hsent, List.length_append, List.length_append, hlen,
      List.take_append_of_le_length hle]
  rw [← hsame]
  exact prefix_copied hc

/-! ### What the copiers do -/

variable [DecidableEq β]

/-- The first copier puts what it has behind the header and what is there. -/
theorem carries_first (hi : l.Carries header) (h : l.copyFirst capacity a = some l') :
    l'.Carries header := by
  rcases Option.map_eq_some_iff.mp h with ⟨t, ht, rfl⟩
  rcases hi with ⟨payload, hmiddle, hsent⟩
  have hcontent := Transfer.content_of_step ht
  -- The copier only appends to the wire in the middle.
  have hgrown : ∃ more, t.dst.bytes = l.middle.bytes ++ more := by
    cases a with
    | write n =>
        simp only [Transfer.step, Option.ite_none_right_eq_some, Option.some.injEq] at ht
        rw [← ht.2]
        exact ⟨_, rfl⟩
    | read n | eof | shutdown =>
        simp only [Transfer.step, Option.ite_none_right_eq_some, Option.some.injEq] at ht
        rw [← ht.2]
        exact ⟨[], (List.append_nil _).symm⟩
  rcases hgrown with ⟨more, hmore⟩
  simp only [Transfer.content, front, hmore, List.append_assoc, List.append_cancel_left_eq]
    at hcontent
  refine ⟨payload ++ more, ?_, ?_⟩
  · simp only [hmore, hmiddle, List.append_assoc]
  · simp only [hsent, ← hcontent, List.append_assoc]

/-- The second copier takes from the front, once the header is off. -/
theorem carries_second (hi : l.Carries []) (h : l.copySecond capacity a = some l') :
    l'.Carries [] := by
  rcases Option.map_eq_some_iff.mp h with ⟨t, ht, rfl⟩
  rcases hi with ⟨payload, hmiddle, hsent⟩
  have hcontent := Transfer.content_of_step ht
  rw [List.nil_append] at hmiddle
  simp only [Transfer.content, rear] at hcontent
  refine ⟨t.src.bytes, rfl, ?_⟩
  rw [hsent, ← hmiddle]
  simp only [List.append_cancel_left_eq]
  have hassoc := congrArg (fun x => x ++ (l.first.buf ++ l.entry.bytes)) hcontent
  simp only [List.append_assoc] at hassoc
  exact hassoc.symm

theorem ordered_first (hi : l.Ordered) (h : l.copyFirst capacity a = some l') : l'.Ordered := by
  rcases Option.map_eq_some_iff.mp h with ⟨t, ht, rfl⟩
  refine ⟨Transfer.ordered_of_step hi.front ht, ⟨fun he => ?_, hi.rear.shut, hi.rear.closed⟩⟩
  -- If the end was read, the first copier had nothing left to do.
  have hshut := hi.front.closed (hi.rear.eof he).1
  rw [Transfer.stuck_of_shut hi.front hshut] at ht
  simp only [reduceCtorEq] at ht

theorem ordered_second (hi : l.Ordered) (h : l.copySecond capacity a = some l') : l'.Ordered := by
  rcases Option.map_eq_some_iff.mp h with ⟨t, ht, rfl⟩
  have hclosed : t.src.closed = l.middle.closed := by
    cases a with
    | read n | eof | write n | shutdown =>
        simp only [Transfer.step, Option.ite_none_right_eq_some, Option.some.injEq] at ht
        rw [← ht.2]
        rfl
  refine ⟨⟨hi.front.eof, fun hs => ?_, fun hc => ?_⟩, Transfer.ordered_of_step hi.rear ht⟩
  · rcases hi.front.shut hs with ⟨he, hbuf, hc⟩
    exact ⟨he, hbuf, hclosed.trans hc⟩
  · exact hi.front.closed (hclosed.symm.trans hc)

/-- A lane whose copiers cannot go on has passed on all there was. -/
theorem whole_of_stuck (hcap : 0 < capacity) (hi : l.Ordered) (hc : l.Carries header)
    (hfirst : ∀ a, l.copyFirst capacity a = none)
    (hsecond : ∀ a, l.copySecond capacity a = none) :
    l.sent = l.got ++ l.exit.bytes ∧ (l.entry.closed = true → l.exit.closed = true) := by
  rcases Transfer.idle_of_stuck hcap (fun a => Option.map_eq_none_iff.mp (hfirst a)) with
    ⟨hbuf, hrun, hend⟩
  rcases Transfer.idle_of_stuck hcap (fun a => Option.map_eq_none_iff.mp (hsecond a)) with
    ⟨hbuf', hrun', hend'⟩
  simp only [front, rear] at hbuf hbuf' hrun hrun' hend hend'
  have hentry : l.entry.bytes = [] := by
    cases he : l.first.eof with
    | false => exact (hrun he).1
    | true => exact (hi.front.eof he).2
  have hmid : l.middle.bytes = [] := by
    cases he : l.second.eof with
    | false => exact (hrun' he).1
    | true => exact (hi.rear.eof he).2
  rcases hc with ⟨payload, hmiddle, hsent⟩
  rw [hmid] at hmiddle
  refine ⟨?_, fun hclosed => ?_⟩
  · rw [hsent, hbuf, hbuf', hentry, (List.append_eq_nil_iff.mp hmiddle.symm).2]
    simp only [List.append_nil]
  · -- The end is passed on by one copier after the other.
    have heof : l.first.eof = true := by
      by_contra he
      exact absurd ((hrun (eq_false_of_ne_true he)).2.symm.trans hclosed) Bool.false_ne_true
    have hmidClosed := (hi.front.shut (hend heof)).2.2
    have heof' : l.second.eof = true := by
      by_contra he
      exact absurd ((hrun' (eq_false_of_ne_true he)).2.symm.trans hmidClosed) Bool.false_ne_true
    exact (hi.rear.shut (hend' heof')).2.2

end Lane

end ByteStream
