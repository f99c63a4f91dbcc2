import Rathole.Lib.Stream

/-!
# Frames on a Byte Stream

Messages of different lengths on one stream, each saying how long it is. A
reader waits for one whole frame, takes it off, and either decodes it or fails
for good.

The two ends of a stream see different things. The writer knows which frames
it has written; the reader has the bytes that have not been taken off yet. A
connection can break while a frame is on its way out, and then what came
through is some beginning of it. `Carries` relates the two ends: the bytes
are a beginning of the frames still to be read, and all of them as long as
the writer is alive. Nothing is written after the first failure, so a partial
frame is always the last. `Carries.write` and `Carries.read` are the only ways
a stream moves, and a reader on such a stream never sees anything but the next
frame.

## Main definitions

* `FrameCodec`: An encoding whose messages tell their own length.
* `FrameCodec.encodeAll`: Frames back to back.
* `delivered`: What comes through of the bytes of one write.
* `FrameCodec.Carries`: What the stream holds for its reader.

## Theorems

* `FrameCodec.encodeAll_append`: Frames laid end to end.
* `FrameCodec.read_beginning`: Reading a beginning of some frames reads the
  first.
* `FrameCodec.carries_nil`: A new stream carries nothing.
* `FrameCodec.Carries.write`: A write adds its frame at the end.
* `FrameCodec.Carries.read`: A read takes the frame at the front.
* `FrameCodec.Carries.stop`: The writer may stop at any time.
-/

namespace ByteStream

variable {β γ ε : Type}

/-- An encoding whose messages tell their own length. Not every message need
    survive it; those that do are `Valid`. -/
structure FrameCodec (γ β ε : Type) where
  encode : γ → List β
  read : List β → Option (Except ε γ × List β)
  Valid : γ → Prop
  read_nil : read [] = none
  read_append : ∀ {bs r rest}, read bs = some (r, rest) →
    ∀ more, read (bs ++ more) = some (r, rest ++ more)
  read_encode : ∀ {x}, Valid x → ∀ rest, read (encode x ++ rest) = some (.ok x, rest)

/-- What comes through of the bytes of one write: all of them, or as many as
    there were when the connection failed. -/
def delivered (bytes : List β) : Option Nat → List β
  | none => bytes
  | some n => bytes.take n

theorem delivered_prefix (bytes : List β) (cut : Option Nat) : delivered bytes cut <+: bytes := by
  cases cut with
  | none => exact List.prefix_rfl
  | some n => exact List.take_prefix n bytes

namespace FrameCodec

variable (c : FrameCodec γ β ε)

/-- Frames back to back. -/
def encodeAll (xs : List γ) : List β := xs.flatMap c.encode

theorem encodeAll_nil : c.encodeAll [] = [] := rfl

theorem encodeAll_cons (x : γ) (xs : List γ) :
    c.encodeAll (x :: xs) = c.encode x ++ c.encodeAll xs := List.flatMap_cons

theorem encodeAll_append (xs ys : List γ) :
    c.encodeAll (xs ++ ys) = c.encodeAll xs ++ c.encodeAll ys :=
  List.flatMap_append

/-- Whoever reads from a beginning of some frames reads the first of them, and
    is left with a beginning of the others that lacks the same bytes. -/
theorem read_beginning {bs more rest : List β} {xs : List γ} {r : Except ε γ}
    (hvalid : ∀ x ∈ xs, c.Valid x) (hbs : bs ++ more = c.encodeAll xs)
    (hread : c.read bs = some (r, rest)) :
    ∃ y ys, xs = y :: ys ∧ r = .ok y ∧ rest ++ more = c.encodeAll ys := by
  cases xs with
  | nil =>
      rw [encodeAll_nil, List.append_eq_nil_iff] at hbs
      rw [hbs.1, c.read_nil] at hread
      exact absurd hread (by simp only [reduceCtorEq, not_false_eq_true])
  | cons y ys =>
      -- The missing bytes change nothing but the rest.
      have hwhole := c.read_append hread more
      rw [hbs, encodeAll_cons, c.read_encode (hvalid y List.mem_cons_self), Option.some.injEq,
        Prod.mk.injEq] at hwhole
      exact ⟨y, ys, rfl, hwhole.1.symm, hwhole.2.symm⟩

/-- The bytes on the stream are a beginning of the frames still to be read,
    and all of them while the writer is alive. -/
structure Carries (alive : Bool) (bs : List β) (xs : List γ) : Prop where
  valid : ∀ x ∈ xs, c.Valid x
  bytes : bs <+: c.encodeAll xs
  whole : alive = true → bs = c.encodeAll xs

theorem carries_nil (alive : Bool) : c.Carries alive [] [] where
  valid := fun _ h => absurd h List.not_mem_nil
  bytes := List.prefix_rfl
  whole := fun _ => rfl

namespace Carries

variable {c} {alive : Bool} {bs rest : List β} {xs : List γ} {x : γ} {r : Except ε γ}

/-- A write by a writer still alive adds its frame at the end, also where it
    fails and not all bytes of the frame get through. -/
theorem write (h : c.Carries true bs xs) (hx : c.Valid x) (cut : Option Nat) :
    c.Carries cut.isNone (bs ++ delivered (c.encode x) cut) (xs ++ [x]) where
  valid := by
    intro y hy
    rcases List.mem_append.mp hy with hy | hy
    · exact h.valid y hy
    · rw [List.mem_singleton.mp hy]
      exact hx
  bytes := by
    rw [h.whole rfl, encodeAll_append, encodeAll_cons, encodeAll_nil, List.append_nil,
      List.prefix_append_right_inj]
    exact delivered_prefix _ cut
  whole := by
    intro hcut
    rw [Option.isNone_iff_eq_none] at hcut
    rw [h.whole rfl, hcut, encodeAll_append, encodeAll_cons, encodeAll_nil, List.append_nil]
    rfl

/-- A read takes the frame at the front, and never fails to decode it. -/
theorem read (h : c.Carries alive bs xs) (hread : c.read bs = some (r, rest)) :
    ∃ y ys, xs = y :: ys ∧ r = .ok y ∧ c.Carries alive rest ys := by
  rcases h.bytes with ⟨more, hmore⟩
  rcases c.read_beginning h.valid hmore hread with ⟨y, ys, hxs, hr, hrest⟩
  refine ⟨y, ys, hxs, hr, ?_, ⟨more, hrest⟩, ?_⟩
  · intro z hz
    refine h.valid z ?_
    rw [hxs]
    exact List.mem_cons_of_mem y hz
  · intro ha
    have hnil : more = [] := by
      rw [h.whole ha] at hmore
      exact List.append_right_eq_self.mp hmore
    rw [hnil, List.append_nil] at hrest
    exact hrest

/-- The writer may stop at any time. -/
theorem stop (h : c.Carries alive bs xs) : c.Carries false bs xs where
  valid := h.valid
  bytes := h.bytes
  whole := fun hf => absurd hf Bool.false_ne_true

end Carries

end FrameCodec

end ByteStream
