import Mathlib.Data.List.Basic
import Mathlib.Tactic.Common

/-!
# Fixed-Length Messages on a Byte Stream

A stream transport hands bytes over in chunks of its own choosing. A reader
that knows the length of the next message waits until that many bytes are
there and takes exactly those. What it returns then does not depend on how
the bytes were cut, and the rest of the stream is left for the next reader.

`FixedCodec` is an encoding of that kind: all encodings of a type have one
length, and decoding inverts encoding. Because the length is fixed,
encodings laid end to end can be told apart again, message by message.

## Main definitions

* `readExact`: The first bytes of a stream, if there are enough.
* `FixedCodec`: An encoding of one fixed length.
* `FixedCodec.read`: Taking one message off a stream.
* `FixedCodec.encodeAll`: A sequence of messages back to back.
* `FixedCodec.Exact`: Nothing but encodings is decoded.

## Theorems

* `readExact_append`: More bytes at the end change nothing but the rest.
* `take_of_isPrefix`: The beginning of a stream is that of every longer one.
* `FixedCodec.read_encode`: A message is read back, with the rest left over.
* `FixedCodec.read_append`: Reading does not depend on what comes later.
* `FixedCodec.le_of_read`: A message is read only when all of it has come.
* `FixedCodec.read_eq_some_iff`: What is read, if only encodings are decoded.
* `FixedCodec.read_of_isPrefix`: What is read of a stream whose first message is
  known.
* `FixedCodec.encode_injective`: Different messages are encoded differently.
* `FixedCodec.next_encode`: What follows the beginning of an encoded sequence
  is its next message.
-/

namespace ByteStream

variable {β γ : Type}

/-- The first `n` bytes and the rest, or `none` while bytes are missing. -/
def readExact (n : Nat) (bs : List β) : Option (List β × List β) :=
  if n ≤ bs.length then some (bs.take n, bs.drop n) else none

theorem readExact_eq_some_iff {n : Nat} {bs buf rest : List β} :
    readExact n bs = some (buf, rest) ↔ bs = buf ++ rest ∧ buf.length = n := by
  unfold readExact
  constructor
  · intro h
    rw [Option.ite_none_right_eq_some, Option.some.injEq, Prod.mk.injEq] at h
    rcases h with ⟨hle, hbuf, hrest⟩
    rw [← hbuf, ← hrest, List.take_append_drop, List.length_take]
    exact ⟨rfl, by omega⟩
  · intro h
    rcases h with ⟨hbs, hlen⟩
    have hle : n ≤ bs.length := by
      rw [hbs, List.length_append]
      omega
    rw [if_pos hle, hbs, ← hlen, List.take_left, List.drop_left]

/-- More bytes at the end change nothing but the rest. -/
theorem readExact_append {n : Nat} {bs buf rest : List β} (h : readExact n bs = some (buf, rest))
    (more : List β) : readExact n (bs ++ more) = some (buf, rest ++ more) := by
  rw [readExact_eq_some_iff] at h ⊢
  rw [h.1, List.append_assoc]
  exact ⟨rfl, h.2⟩

/-- The beginning of a stream is that of every longer one. -/
theorem take_of_isPrefix {l m : List β} {n : Nat} (h : l <+: m) (hn : n ≤ l.length) :
    m.take n = l.take n := by
  rcases h with ⟨rest, hrest⟩
  rw [← hrest, List.take_append_of_le_length hn]

/-- An encoding whose messages all have one length. -/
structure FixedCodec (γ β : Type) where
  width : Nat
  encode : γ → List β
  decode : List β → Option γ
  length_encode : ∀ x, (encode x).length = width
  decode_encode : ∀ x, decode (encode x) = some x

namespace FixedCodec

variable (c : FixedCodec γ β)

/-- Take one message off the stream: `none` while bytes are missing, then what
    the bytes decode to and the bytes after them. -/
def read (bs : List β) : Option (Option γ × List β) :=
  (readExact c.width bs).map (fun p => (c.decode p.1, p.2))

/-- Messages back to back. -/
def encodeAll (xs : List γ) : List β := xs.flatMap c.encode

theorem read_encode (x : γ) (rest : List β) :
    c.read (c.encode x ++ rest) = some (some x, rest) := by
  have h : readExact c.width (c.encode x ++ rest) = some (c.encode x, rest) :=
    readExact_eq_some_iff.mpr ⟨rfl, c.length_encode x⟩
  rw [read, h, Option.map_some, c.decode_encode]

/-- What is read does not depend on what comes later. -/
theorem read_append {bs rest : List β} {r : Option γ} (h : c.read bs = some (r, rest))
    (more : List β) : c.read (bs ++ more) = some (r, rest ++ more) := by
  rw [read, Option.map_eq_some_iff] at h
  rcases h with ⟨⟨buf, rest'⟩, hread, heq⟩
  simp only [Prod.mk.injEq] at heq
  rw [read, readExact_append hread more, Option.map_some, ← heq.1, ← heq.2]

/-- Nothing is read before the whole message is there. -/
theorem le_of_read {bs : List β} {p : Option γ × List β} (h : c.read bs = some p) :
    c.width ≤ bs.length := by
  rw [read, Option.map_eq_some_iff] at h
  rcases h with ⟨⟨buf, rest⟩, hread, _⟩
  rw [readExact_eq_some_iff] at hread
  rw [hread.1, List.length_append]
  omega

/-- Of the byte strings of the right length, only encodings are decoded. -/
def Exact : Prop := ∀ bs x, bs.length = c.width → c.decode bs = some x → bs = c.encode x

/-- If only encodings are decoded, the bytes that are read are those of what
    they are read as. -/
theorem read_eq_some_iff (h : c.Exact) {bs rest : List β} {x : γ} :
    c.read bs = some (some x, rest) ↔ bs = c.encode x ++ rest := by
  constructor
  · intro hread
    rw [read, Option.map_eq_some_iff] at hread
    rcases hread with ⟨⟨buf, rest'⟩, hbuf, heq⟩
    simp only [Prod.mk.injEq] at heq
    rcases readExact_eq_some_iff.mp hbuf with ⟨hbs, hlen⟩
    rw [hbs, heq.2, ← h buf x hlen heq.1]
  · intro hbs
    rw [hbs]
    exact c.read_encode x rest

/-- From the beginning of a stream whose first message is known, no other
    message is read. -/
theorem read_of_isPrefix {x : γ} {bs tail : List β} {p : Option γ × List β}
    (hpre : bs <+: c.encode x ++ tail) (h : c.read bs = some p) :
    p.1 = some x ∧ bs = c.encode x ++ p.2 := by
  have hlen : (c.encode x).length ≤ bs.length := by
    rw [c.length_encode]
    exact c.le_of_read h
  rcases List.prefix_of_prefix_length_le (List.prefix_append _ tail) hpre hlen with ⟨rest, hrest⟩
  rw [← hrest, c.read_encode, Option.some.injEq] at h
  rw [← h]
  exact ⟨rfl, hrest.symm⟩

theorem encode_injective : Function.Injective c.encode := by
  intro x y h
  have hx := c.decode_encode x
  rw [h, c.decode_encode, Option.some.injEq] at hx
  exact hx.symm

theorem encodeAll_nil : c.encodeAll [] = [] := rfl

theorem encodeAll_cons (x : γ) (xs : List γ) :
    c.encodeAll (x :: xs) = c.encode x ++ c.encodeAll xs := List.flatMap_cons

theorem encodeAll_append (xs ys : List γ) :
    c.encodeAll (xs ++ ys) = c.encodeAll xs ++ c.encodeAll ys :=
  List.flatMap_append

/-- What follows the beginning of an encoded sequence is the next message, as
    soon as there are enough bytes of it. -/
theorem next_encode (hw : 0 < c.width) {xs ys : List γ} {buf rest : List β}
    (h : c.encodeAll xs ++ (buf ++ rest) <+: c.encodeAll ys) (hlen : buf.length = c.width) :
    ∃ y, buf = c.encode y ∧ xs ++ [y] <+: ys := by
  induction xs generalizing ys with
  | nil =>
      rw [encodeAll_nil, List.nil_append] at h
      cases ys with
      | nil =>
          have hle := h.length_le
          rw [encodeAll_nil, List.length_nil, List.length_append] at hle
          omega
      | cons y ys =>
          rw [encodeAll_cons] at h
          rcases h with ⟨t, ht⟩
          rw [List.append_assoc] at ht
          have hbuf := (List.append_inj ht (by rw [hlen, c.length_encode])).1
          exact ⟨y, hbuf, List.prefix_append [y] ys⟩
  | cons x xs ih =>
      rw [encodeAll_cons, List.append_assoc] at h
      cases ys with
      | nil =>
          have hle := h.length_le
          rw [encodeAll_nil, List.length_nil, List.length_append, c.length_encode] at hle
          omega
      | cons y ys =>
          rw [encodeAll_cons] at h
          rcases h with ⟨t, ht⟩
          rw [List.append_assoc] at ht
          have hsplit := List.append_inj ht (by rw [c.length_encode, c.length_encode])
          rcases ih ⟨t, hsplit.2⟩ with ⟨z, hz, hpre⟩
          rw [c.encode_injective hsplit.1]
          exact ⟨z, hz, (List.prefix_cons_inj y).mpr hpre⟩

end FixedCodec

end ByteStream
