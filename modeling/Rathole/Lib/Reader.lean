import Rathole.Lib.Stream

/-!
# Readers on a Chunked Stream

A reader asks for its next byte, or for an exact number of bytes, and goes on
from what they are. The transport hands the bytes over in chunks, and a request
is filled from one chunk after the other; what is left of the last one stays
for the next request.

Where the chunks are cut makes no difference. `Reader.run` is the reader on the
bytes as a whole, `Reader.runChunks` the one on chunks, and
`Reader.runChunks_flatten` says that they agree on what is read and on what is
left. Readers one after another are one reader (`Reader.seq`), so all that is
shown on whole bytes of a sequence of messages holds on chunks of them.

## Main definitions

* `Reader`: A reader of bytes.
* `Reader.run`: What it reads off some bytes.
* `fillByte`, `fill`: Filling a request from chunks.
* `Reader.runChunks`: What it reads off some chunks.
* `Reader.bind`, `Reader.seq`: Readers one after another.

## Theorems

* `fill_flatten`: A request gets the same from chunks as from whole bytes.
* `Reader.runChunks_flatten`: So does a reader.
* `Reader.run_seq`: Messages end to end are read one by one.
* `Reader.runChunks_seq`: Also when they come in chunks.
-/

namespace ByteStream

variable {β γ ε ι ρ σ : Type}

/-- A reader: it has its result, or waits for one byte, or for as many as it
    says. -/
inductive Reader (β ρ : Type)
  | done (r : ρ)
  | byte (next : β → Reader β ρ)
  | exact (n : Nat) (next : List β → Reader β ρ)

/-- The next byte, from the first chunk that has one. -/
def fillByte : List (List β) → Option (β × List (List β))
  | [] => none
  | [] :: cs => fillByte cs
  | (b :: c) :: cs => some (b, c :: cs)

/-- A buffer of `n` bytes, filled from one chunk after the other. -/
def fill : Nat → List (List β) → Option (List β × List (List β))
  | n, [] => if n = 0 then some ([], []) else none
  | n, c :: cs =>
      if n ≤ c.length then some (c.take n, c.drop n :: cs)
      else (fill (n - c.length) cs).map (fun p => (c ++ p.1, p.2))

namespace Reader

/-- On the bytes as a whole; `none` while bytes are missing. -/
def run : Reader β ρ → List β → Option (ρ × List β)
  | done r, bs => some (r, bs)
  | byte _, [] => none
  | byte next, b :: bs => (next b).run bs
  | exact n next, bs => (readExact n bs).bind (fun p => (next p.1).run p.2)

/-- On the bytes in chunks. -/
def runChunks : Reader β ρ → List (List β) → Option (ρ × List (List β))
  | done r, cs => some (r, cs)
  | byte next, cs => (fillByte cs).bind (fun p => (next p.1).runChunks p.2)
  | exact n next, cs => (fill n cs).bind (fun p => (next p.1).runChunks p.2)

/-- A reader, and another that depends on what it read. -/
def bind : Reader β ρ → (ρ → Reader β σ) → Reader β σ
  | done r, f => f r
  | byte next, f => byte (fun b => (next b).bind f)
  | exact n next, f => exact n (fun buf => (next buf).bind f)

/-- Readers one after another, until one fails. -/
def seq : List (Reader β (Except ε γ)) → Reader β (Except ε (List γ))
  | [] => done (.ok [])
  | r :: rs => r.bind (fun x => match x with
    | .error e => done (.error e)
    | .ok x => (seq rs).bind (fun xs => done (xs.map (fun xs => x :: xs))))

end Reader

/-! ### Chunks -/

theorem fillByte_flatten (cs : List (List β)) :
    (fillByte cs).map (fun p => (p.1, p.2.flatten)) =
      match cs.flatten with
      | [] => none
      | b :: bs => some (b, bs) := by
  induction cs with
  | nil => rfl
  | cons c cs ih =>
      cases c with
      | nil => exact ih
      | cons b c => rfl

/-- A request gets the same from chunks as from the bytes as a whole. -/
theorem fill_flatten (n : Nat) (cs : List (List β)) :
    (fill n cs).map (fun p => (p.1, p.2.flatten)) = readExact n cs.flatten := by
  induction cs generalizing n with
  | nil =>
      by_cases hn : n = 0
      · rw [hn]
        rfl
      · have hle : ¬ n ≤ ([] : List β).length := by
          rw [List.length_nil]
          omega
        simp only [fill, if_neg hn, Option.map_none, List.flatten_nil, readExact, if_neg hle]
  | cons c cs ih =>
      rw [List.flatten_cons, fill]
      by_cases hn : n ≤ c.length
      · have hle : n ≤ (c ++ cs.flatten).length := by
          rw [List.length_append]
          omega
        rw [if_pos hn, readExact, if_pos hle, List.take_append_of_le_length hn,
          List.drop_append_of_le_length hn]
        rfl
      · -- The chunk is used up, and the rest of the request goes to the others.
        have hrest := ih (n - c.length)
        rw [if_neg hn, Option.map_map]
        rcases hfill : fill (n - c.length) cs with _ | ⟨buf, cs'⟩
        · rw [hfill, Option.map_none] at hrest
          have hshort : ¬ n ≤ (c ++ cs.flatten).length := by
            intro hle
            rw [List.length_append] at hle
            rw [readExact, if_pos (by omega)] at hrest
            exact absurd hrest (by simp only [reduceCtorEq, not_false_eq_true])
          rw [Option.map_none, readExact, if_neg hshort]
        · rw [hfill, Option.map_some] at hrest
          rcases readExact_eq_some_iff.mp hrest.symm with ⟨hflat, hlen⟩
          rw [Option.map_some, eq_comm]
          refine readExact_eq_some_iff.mpr ⟨?_, ?_⟩
          · rw [hflat, List.append_assoc]
          · rw [List.length_append]
            omega

namespace Reader

/-- Where the chunks are cut makes no difference. -/
theorem runChunks_flatten (r : Reader β ρ) (cs : List (List β)) :
    (r.runChunks cs).map (fun p => (p.1, p.2.flatten)) = r.run cs.flatten := by
  induction r generalizing cs with
  | done r => rfl
  | byte next ih =>
      have hfill := fillByte_flatten cs
      rw [runChunks]
      rcases hb : fillByte cs with _ | ⟨b, cs'⟩
      · rw [hb] at hfill
        rcases hflat : cs.flatten with _ | ⟨b, bs⟩
        · rfl
        · simp only [hflat, Option.map_none, reduceCtorEq] at hfill
      · rw [hb] at hfill
        rcases hflat : cs.flatten with _ | ⟨b', bs⟩
        · simp only [hflat, Option.map_some, reduceCtorEq] at hfill
        · simp only [hflat, Option.map_some, Option.some.injEq, Prod.mk.injEq] at hfill
          rw [Option.bind_some, run, ← hfill.1, ← hfill.2]
          exact ih b cs'
  | exact n next ih =>
      rw [runChunks, run, ← fill_flatten]
      rcases fill n cs with _ | ⟨buf, cs'⟩
      · rfl
      · exact ih buf cs'

/-! ### Readers one after another -/

theorem run_bind (r : Reader β ρ) (f : ρ → Reader β σ) (bs : List β) :
    (r.bind f).run bs = (r.run bs).bind (fun p => (f p.1).run p.2) := by
  induction r generalizing bs with
  | done r => rfl
  | byte next ih =>
      cases bs with
      | nil => rfl
      | cons b bs => exact ih b bs
  | exact n next ih =>
      rw [bind, run, run, Option.bind_assoc]
      exact Option.bind_congr (fun p _ => ih p.1 p.2)

/-- Messages end to end, each of which its own reader reads back whatever comes
    after it, are read one by one, and what comes after the last is left. -/
theorem run_seq {encode : ι → List β} {reader : ι → Reader β (Except ε γ)} {value : ι → γ}
    {xs : List ι} (h : ∀ x ∈ xs, ∀ rest,
      (reader x).run (encode x ++ rest) = some (.ok (value x), rest)) (more : List β) :
    (seq (xs.map reader)).run (xs.flatMap encode ++ more) = some (.ok (xs.map value), more) := by
  induction xs with
  | nil => rfl
  | cons x xs ih =>
      have hrest := ih (fun y hy => h y (List.mem_cons_of_mem x hy))
      rw [List.map_cons, seq, run_bind, List.flatMap_cons, List.append_assoc,
        h x List.mem_cons_self, Option.bind_some, run_bind, hrest]
      rfl

/-- The same for any chunks of them. -/
theorem runChunks_seq {encode : ι → List β} {reader : ι → Reader β (Except ε γ)}
    {value : ι → γ} {xs : List ι} (h : ∀ x ∈ xs, ∀ rest,
      (reader x).run (encode x ++ rest) = some (.ok (value x), rest)) {more : List β}
    {chunks : List (List β)} (hchunks : chunks.flatten = xs.flatMap encode ++ more) :
    ∃ rest, (seq (xs.map reader)).runChunks chunks = some (.ok (xs.map value), rest) ∧
      rest.flatten = more := by
  have hrun := runChunks_flatten (seq (xs.map reader)) chunks
  rw [hchunks, run_seq h, Option.map_eq_some_iff] at hrun
  rcases hrun with ⟨⟨r, rest⟩, hread, heq⟩
  simp only [Prod.mk.injEq] at heq
  refine ⟨rest, ?_, heq.2⟩
  rw [hread, heq.1]

end Reader

end ByteStream
