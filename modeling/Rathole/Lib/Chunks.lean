import Mathlib.Data.List.Basic
import Mathlib.Tactic.Common

/-!
# Bytes From a Stream of Chunks

A stream of chunks read as a stream of bytes. The reader keeps what is unread
of a chunk and asks for the next one when that is used up; a chunk without
bytes is passed over. A chunk can also be an error, which is handed on where
it stands, and may be the last there is. If the connection breaks, what is
under way is lost, and one error of its own comes in its place.

What the reader has been given, bytes and errors in their order, and what is
still to come are together what was put on the stream: no reading changes it.

## Main definitions

* `Symbol`, `Chunk`: What a reader is given, and in what portions it comes.
* `ChunkReader`: The reader, and the chunks that are under way.
* `ChunkReader.fillBuf`, `ChunkReader.consume`, `ChunkReader.read`: Reading.
* `ChunkReader.rest`, `ChunkReader.account`: What is still to come, and all
  there is.

## Theorems

* `ChunkReader.fill_fillBuf`: What a look at the stream does.
* `ChunkReader.Fill.account`, `ChunkReader.account_consume`: Reading keeps the
  account.
* `ChunkReader.expected_read`: Reading goes by what is still to come.
-/

namespace ByteStream

variable {β : Type}

/-- What a reader is given. -/
inductive Symbol (β : Type)
  | byte (b : β)
  | error
deriving DecidableEq, Repr

/-- The bytes of what a reader is given. -/
def bytesOf (l : List (Symbol β)) : List β :=
  l.filterMap (fun x => match x with
    | .byte b => some b
    | .error => none)

@[simp] theorem bytesOf_append (l m : List (Symbol β)) :
    bytesOf (l ++ m) = bytesOf l ++ bytesOf m :=
  List.filterMap_append

@[simp] theorem bytesOf_map_byte (bs : List β) : bytesOf (bs.map .byte) = bs := by
  rw [bytesOf, List.filterMap_map]
  exact List.filterMap_some

@[simp] theorem bytesOf_error : bytesOf ([.error] : List (Symbol β)) = [] := rfl

/-- A portion of a stream: some bytes, or an error that may be the last of
    all. -/
inductive Chunk (β : Type)
  | bytes (bs : List β)
  | error (final : Bool)
deriving DecidableEq, Repr

/-- What a reader gets of a chunk. -/
def Chunk.symbols : Chunk β → List (Symbol β)
  | .bytes bs => bs.map .byte
  | .error _ => [.error]

/-- A chunk without a byte. -/
def Chunk.isEmpty : Chunk β → Bool
  | .bytes [] => true
  | _ => false

theorem Chunk.symbols_of_isEmpty {c : Chunk β} (h : c.isEmpty = true) : c.symbols = [] := by
  cases c with
  | bytes bs =>
      cases bs with
      | nil => rfl
      | cons b bs => simp only [isEmpty, Bool.false_eq_true] at h
  | error final => simp only [isEmpty, Bool.false_eq_true] at h

theorem flatMap_dropWhile_isEmpty (cs : List (Chunk β)) :
    (cs.dropWhile Chunk.isEmpty).flatMap Chunk.symbols = cs.flatMap Chunk.symbols := by
  induction cs with
  | nil => rfl
  | cons c cs ih =>
      by_cases h : c.isEmpty = true
      · rw [List.dropWhile_cons_of_pos h, List.flatMap_cons, Chunk.symbols_of_isEmpty h,
          List.nil_append, ih]
      · rw [List.dropWhile_cons_of_neg h]

/-- What reading comes back with; no bytes are the end of the stream. -/
inductive Polled (β : Type)
  | pending
  | ready (bs : List β)
  | error
deriving DecidableEq, Repr

/-- A reader with what it has of the last chunk. `given` has the bytes that
    were taken and the errors among the chunks, not that of a connection that
    broke; after the last error the stream has `ended`. -/
structure ChunkReader (β : Type) where
  coming : List (Chunk β)
  broken : Bool
  buf : List β
  ended : Bool
  given : List (Symbol β)
deriving DecidableEq, Repr

namespace ChunkReader

/-- A reader to which nothing has come. -/
def fresh : ChunkReader β where
  coming := []
  broken := false
  buf := []
  ended := false
  given := []

/-- A chunk is put on the stream, for nothing if the connection is broken. -/
def put (r : ChunkReader β) (c : Chunk β) : ChunkReader β :=
  if r.broken then r else { r with coming := r.coming ++ [c] }

/-- The connection breaks when `n` of the chunks have got through. -/
def cut (r : ChunkReader β) (n : Nat) : ChunkReader β :=
  { r with coming := r.coming.take n, broken := true }

/-- Fill the buffer with a chunk that has bytes, if there are none in it. -/
def fillBuf (r : ChunkReader β) : Polled β × ChunkReader β :=
  match r.buf with
  | b :: bs => (.ready (b :: bs), r)
  | [] =>
      if r.ended then (.ready [], r)
      else match r.coming.dropWhile Chunk.isEmpty with
        | [] =>
            if r.broken then (.error, { r with coming := [], ended := true })
            else (.pending, { r with coming := [] })
        | .bytes bs :: coming => (.ready bs, { r with coming := coming, buf := bs })
        | .error final :: coming => (.error, { r with
            coming := coming
            ended := final
            given := r.given ++ [.error] })

/-- Take bytes out of the buffer. -/
def consume (r : ChunkReader β) (n : Nat) : ChunkReader β :=
  { r with buf := r.buf.drop n, given := r.given ++ (r.buf.take n).map .byte }

/-- Read into a buffer with room for so many bytes. -/
def read (r : ChunkReader β) (room : Nat) : Polled β × ChunkReader β :=
  if room = 0 then (.ready [], r)
  else match r.fillBuf with
    | (.ready bs, r') => (.ready (bs.take room), r'.consume (min bs.length room))
    | p => p

/-- What is still to come. -/
def rest (r : ChunkReader β) : List (Symbol β) :=
  r.buf.map .byte ++ r.coming.flatMap Chunk.symbols

/-- All there is, what was given at the front. -/
def account (r : ChunkReader β) : List (Symbol β) := r.given ++ r.rest

/-- What a read must come back with, going by what is still to come. -/
def Expected (r : ChunkReader β) (room : Nat) (p : Polled β) : Prop :=
  if r.ended then p = .ready []
  else match r.rest with
    | [] => p = if r.broken then .error else .pending
    | .error :: _ => p = .error
    | .byte _ :: _ => ∃ bs, p = .ready bs ∧ bs ≠ [] ∧ bs.length ≤ room ∧ bs.map .byte <+: r.rest

variable {r r' : ChunkReader β} {p : Polled β} {n room : Nat}

/-! ### What a look at the stream does -/

/-- The cases of `fillBuf`. -/
inductive Fill (r : ChunkReader β) : Polled β → ChunkReader β → Prop
  | buffered (hbuf : r.buf ≠ []) : Fill r (.ready r.buf) r
  | ended (hbuf : r.buf = []) (he : r.ended = true) : Fill r (.ready []) r
  | waiting (hbuf : r.buf = []) (he : r.ended = false) (hb : r.broken = false)
      (hnone : r.coming.flatMap Chunk.symbols = []) : Fill r .pending { r with coming := [] }
  | lost (hbuf : r.buf = []) (he : r.ended = false) (hb : r.broken = true)
      (hnone : r.coming.flatMap Chunk.symbols = []) :
      Fill r .error { r with coming := [], ended := true }
  | bytes (hbuf : r.buf = []) (he : r.ended = false) {bs : List β} {coming : List (Chunk β)}
      (hne : bs ≠ []) (hsuffix : .bytes bs :: coming <:+ r.coming)
      (hskip : r.coming.flatMap Chunk.symbols = bs.map .byte ++ coming.flatMap Chunk.symbols) :
      Fill r (.ready bs) { r with coming := coming, buf := bs }
  | error (hbuf : r.buf = []) (he : r.ended = false) {final : Bool} {coming : List (Chunk β)}
      (hsuffix : .error final :: coming <:+ r.coming)
      (hskip : r.coming.flatMap Chunk.symbols = .error :: coming.flatMap Chunk.symbols) :
      Fill r .error { r with coming := coming, ended := final, given := r.given ++ [.error] }

theorem fill_fillBuf (r : ChunkReader β) : Fill r r.fillBuf.1 r.fillBuf.2 := by
  rcases hbuf : r.buf with _ | ⟨b, bs⟩
  · cases he : r.ended with
    | true =>
        have hf : r.fillBuf = (.ready [], r) := by
          simp only [fillBuf, hbuf, he, if_true]
        rw [hf]
        exact .ended hbuf he
    | false =>
        have hskip := flatMap_dropWhile_isEmpty r.coming
        have hsuffix : r.coming.dropWhile Chunk.isEmpty <:+ r.coming := List.dropWhile_suffix _
        have hfirst := List.head?_dropWhile_not Chunk.isEmpty r.coming
        rcases hc : r.coming.dropWhile Chunk.isEmpty with _ | ⟨c, coming⟩
        · rw [hc] at hskip
          cases hb : r.broken with
          | true =>
              have hf : r.fillBuf = (.error, { r with coming := [], ended := true }) := by
                simp only [fillBuf, hbuf, he, hc, hb, Bool.false_eq_true, if_false, if_true]
              rw [hf]
              exact .lost hbuf he hb hskip.symm
          | false =>
              have hf : r.fillBuf = (.pending, { r with coming := [] }) := by
                simp only [fillBuf, hbuf, he, hc, hb, Bool.false_eq_true, if_false]
              rw [hf]
              exact .waiting hbuf he hb hskip.symm
        · rw [hc] at hskip hsuffix hfirst
          cases c with
          | bytes bs =>
              have hne : bs ≠ [] := by
                intro hnil
                rw [hnil] at hfirst
                simp only [List.head?_cons, Chunk.isEmpty, Bool.true_eq_false] at hfirst
              have hf : r.fillBuf = (.ready bs, { r with coming := coming, buf := bs }) := by
                simp only [fillBuf, hbuf, he, hc, Bool.false_eq_true, if_false]
              rw [hf]
              exact .bytes hbuf he hne hsuffix hskip.symm
          | error final =>
              have hf : r.fillBuf = (.error, { r with
                  coming := coming, ended := final, given := r.given ++ [.error] }) := by
                simp only [fillBuf, hbuf, he, hc, Bool.false_eq_true, if_false]
              rw [hf]
              exact .error hbuf he hsuffix hskip.symm
  · have hf : r.fillBuf = (.ready r.buf, r) := by
      simp only [fillBuf, hbuf]
    rw [hf]
    refine .buffered ?_
    rw [hbuf]
    exact List.cons_ne_nil b bs

/-! ### The account -/

theorem account_consume (r : ChunkReader β) (n : Nat) : (r.consume n).account = r.account := by
  simp only [account, rest, consume, List.append_assoc]
  rw [← List.append_assoc ((r.buf.take n).map _), ← List.map_append, List.take_append_drop]

theorem Fill.account (h : Fill r p r') : r'.account = r.account := by
  cases h with
  | buffered | ended => rfl
  | waiting _ _ _ hnone | lost _ _ _ hnone =>
      simp only [ChunkReader.account, rest, hnone, List.flatMap_nil]
  | bytes hbuf _ _ _ hskip =>
      simp only [ChunkReader.account, rest, hskip, hbuf, List.map_nil, List.nil_append]
  | error hbuf _ _ hskip =>
      simp only [ChunkReader.account, rest, hskip, hbuf, List.map_nil, List.nil_append,
        List.append_assoc, List.cons_append]

/-! ### What reading comes back with -/

/-- What is in the buffer, or gets there, comes first. -/
theorem Fill.ready_rest {bs : List β} (h : Fill r (.ready bs) r') (he : r.ended = false) :
    bs ≠ [] ∧ bs.map .byte <+: r.rest := by
  cases h with
  | buffered hbuf => exact ⟨hbuf, List.prefix_append _ _⟩
  | ended _ he' => exact absurd (he.symm.trans he') Bool.false_ne_true
  | bytes hbuf _ hne _ hskip =>
      rw [rest, hbuf, hskip, List.map_nil, List.nil_append]
      exact ⟨hne, List.prefix_append _ _⟩

/-- The first bytes of a buffer are what is expected where the buffer is. -/
theorem expected_take {bs : List β} (he : r.ended = false) (hroom : 0 < room) (hne : bs ≠ [])
    (hrest : bs.map .byte <+: r.rest) : Expected r room (.ready (bs.take room)) := by
  rcases hrest with ⟨more, hrest⟩
  have htake : bs.take room ≠ [] := by
    rw [ne_eq, List.take_eq_nil_iff]
    rintro (h | h)
    · omega
    · exact hne h
  have hprefix : (bs.take room).map .byte <+: r.rest := by
    rw [← hrest]
    exact ((List.take_prefix room bs).map Symbol.byte).trans (List.prefix_append _ _)
  rcases bs with _ | ⟨b, bs⟩
  · exact absurd rfl hne
  · rw [List.map_cons, List.cons_append] at hrest
    rw [Expected, he, ← hrest]
    rw [← hrest] at hprefix
    exact ⟨_, rfl, htake, by rw [List.length_take]; exact Nat.min_le_left _ _, hprefix⟩

/-- Reading goes by what is still to come. -/
theorem expected_read (hroom : 0 < room) (hended : r.ended = true → r.buf = []) :
    Expected r room (r.read room).1 := by
  have hne : room ≠ 0 := Nat.pos_iff_ne_zero.mp hroom
  have hfill := fill_fillBuf r
  rcases hf : r.fillBuf with ⟨p, r'⟩
  rw [hf] at hfill
  cases he : r.ended with
  | true =>
      have hr : r.fillBuf = (.ready [], r) := by
        simp only [fillBuf, hended he, he, if_true]
      simp only [Expected, he, read, if_neg hne, hr, List.take_nil, if_true]
  | false =>
      cases p with
      | ready bs =>
          have hbs := hfill.ready_rest he
          have hread : (r.read room).1 = .ready (bs.take room) := by
            simp only [read, if_neg hne, hf]
          rw [hread]
          exact expected_take he hroom hbs.1 hbs.2
      | pending =>
          have hread : (r.read room).1 = .pending := by
            simp only [read, if_neg hne, hf]
          cases hfill with
          | waiting hbuf _ hb hnone =>
              simp only [Expected, he, hread, rest, hbuf, hnone, hb, List.map_nil,
                List.append_nil, Bool.false_eq_true, if_false]
      | error =>
          have hread : (r.read room).1 = .error := by
            simp only [read, if_neg hne, hf]
          cases hfill with
          | lost hbuf _ hb hnone =>
              simp only [Expected, he, hread, rest, hbuf, hnone, hb, List.map_nil,
                List.append_nil, Bool.false_eq_true, if_false, if_true]
          | error hbuf _ _ hskip =>
              simp only [Expected, he, hread, rest, hbuf, hskip, List.map_nil, List.nil_append,
                Bool.false_eq_true, if_false]

end ChunkReader

end ByteStream
