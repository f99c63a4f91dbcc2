import Rathole.Lib.Completion
import Rathole.Protocol.Message
import Rathole.Proxy.Cookies

/-!
# Building HTTP Messages

The parts of the `http` crate that the programs here build their messages
with. Names and values of headers come as strings and are tried one after the
other; `insert` on a header map panics once the map is full. A response
builder remembers its first error, and has no headers to give out from then
on.

What the crate accepts and when a map is full are its own affair. A caller
says how it takes a name or a value that is refused: by returning an error, or
by a panic of its own.

## Main definitions

* `Response`: A response of the crate.
* `Http.Crate`: What the crate accepts.
* `Http.Refusal`: How a caller takes what is refused.
* `Http.insertAll`: Headers into a map, one by one.
* `Http.Fits`: There is room for all headers that get as far as the map.
* `Http.Builder`: A response on its way.

## Theorems

* `insertAll_eq_ok`: When all headers get into the map.
* `panics_insertAll`: When a caller that returns its errors panics.
-/

namespace Rathole

open Completion Overwrite Proxy

/-- A response, with its headers in a map. -/
structure Response where
  status : UInt16
  headers : HeaderMap
  body : List UInt8
deriving DecidableEq, Repr

/-- A header of an `HttpResponse` as the header map has it. -/
def headerEntry (h : String × String) : String × List UInt8 := (lowercase h.1, utf8 h.2)

/-- All headers of an `HttpResponse`. -/
def HttpResponse.entries (res : HttpResponse) : HeaderMap := res.headers.map headerEntry

namespace Http

/-- The crate has no other status codes. -/
def statusValid (status : UInt16) : Bool := 100 ≤ status && status ≤ 999

/-- The names and the values of headers that can be made, and the maps that
    have room for another `insert`. -/
structure Crate where
  headerName : String → Bool
  headerValue : String → Bool
  room : HeaderMap → Bool

/-- The name and the value can be made. -/
def Crate.valid (C : Crate) (h : String × String) : Bool := C.headerName h.1 && C.headerValue h.2

variable {π : Type}

/-- How a caller takes a refused name and a refused value, and where it panics
    over a full map. -/
structure Refusal (π : Type) where
  name : Fault π
  value : Fault π
  full : π

/-- `headers.insert(HeaderName::from_bytes(k), HeaderValue::from_str(&v))` for
    each of them. -/
def insertAll (C : Crate) (r : Refusal π) :
    HeaderMap → List (String × String) → Completion π HeaderMap
  | m, [] => .ok m
  | m, (k, v) :: rest => do
      demand (C.headerName k) r.name
      demand (C.headerValue v) r.value
      demand (C.room m) (.panic r.full)
      insertAll C r (m.insert (lowercase k) (utf8 v)) rest

/-- Every header that is valid and comes after valid ones only finds room in
    the map of those before it. -/
def Fits (C : Crate) (m : HeaderMap) (l : List (String × String)) : Prop :=
  ∀ before h after, l = before ++ h :: after → (before ++ [h]).all C.valid = true →
    C.room (overwriteAll m (before.map headerEntry)) = true

/-- The parts of a response. -/
structure Parts where
  status : UInt16
  headers : HeaderMap
deriving DecidableEq, Repr

/-- `response::Builder`, which has no parts after an error. -/
abbrev Builder := Option Parts

/-- `Response::builder()` -/
def Builder.new : Builder := some { status := 200, headers := [] }

/-- `Builder::status` on a `u16`. -/
def Builder.status (b : Builder) (code : UInt16) : Builder :=
  b.bind (fun parts => if statusValid code then some { parts with status := code } else none)

/-- `Builder::headers_mut` -/
def Builder.headersMut (b : Builder) : Option HeaderMap := b.map Parts.headers

/-- What was done to the map of `headers_mut`. -/
def Builder.setHeaders (b : Builder) (m : HeaderMap) : Builder :=
  b.map (fun parts => { parts with headers := m })

/-- `Builder::header`, which comes after those of its name. -/
def Builder.header (C : Crate) (b : Builder) (h : String × String) : Builder :=
  b.bind (fun parts =>
    if C.valid h && C.room parts.headers then
      some { parts with headers := parts.headers ++ [headerEntry h] }
    else none)

/-- `Builder::body` -/
def Builder.body (b : Builder) (body : List UInt8) : Option Response :=
  b.map (fun parts => { status := parts.status, headers := parts.headers, body := body })

variable {C : Crate} {r : Refusal π} {m m' : HeaderMap} {l : List (String × String)}

theorem fits_nil : Fits C m [] := by
  intro before h after heq
  simp only [List.nil_eq, List.append_eq_nil_iff, reduceCtorEq, and_false] at heq

/-- The first header, and those after it. -/
theorem fits_cons {h : String × String} :
    Fits C m (h :: l) ↔ C.valid h = true →
      C.room m = true ∧ Fits C (m.insert (lowercase h.1) (utf8 h.2)) l := by
  constructor
  · intro hf hv
    refine ⟨hf [] h l rfl (by simp only [List.nil_append, List.all_cons, hv, List.all_nil,
      Bool.and_self]), fun before h' after heq hall => ?_⟩
    refine hf (h :: before) h' after (by rw [heq, List.cons_append]) ?_
    rw [List.cons_append, List.all_cons, hv, Bool.true_and]
    exact hall
  · intro hf before h' after heq hall
    cases before with
    | nil =>
        rw [List.nil_append, List.cons.injEq] at heq
        rw [List.nil_append, List.all_cons, List.all_nil, Bool.and_true, ← heq.1] at hall
        exact (hf hall).1
    | cons b before =>
        rw [List.cons_append, List.cons.injEq] at heq
        rw [List.cons_append, List.all_cons, Bool.and_eq_true, ← heq.1] at hall
        -- The map of the headers before it starts with the first one.
        have hroom := (hf hall.1).2 before h' after heq.2 hall.2
        rw [← heq.1]
        exact hroom

/-- All headers get into the map exactly if they are valid and fit; each is
    then in place of those of its name before it. -/
theorem insertAll_eq_ok : insertAll C r m l = .ok m' ↔
    l.all C.valid = true ∧ Fits C m l ∧ overwriteAll m (l.map headerEntry) = m' := by
  induction l generalizing m with
  | nil =>
      simp only [insertAll, Except.ok.injEq, List.all_nil, true_and, fits_nil, List.map_nil]
      rfl
  | cons h l ih =>
      rcases h with ⟨k, v⟩
      have hrest : overwriteAll m (((k, v) :: l).map headerEntry) =
          overwriteAll (m.insert (lowercase k) (utf8 v)) (l.map headerEntry) := rfl
      rw [insertAll, hrest, List.all_cons, fits_cons]
      simp only [bind_eq_ok, demand_eq_ok, exists_const, ih, Crate.valid, Bool.and_eq_true]
      constructor
      · rintro ⟨hk, hv, hroom, hall, hfits, heq⟩
        exact ⟨⟨⟨hk, hv⟩, hall⟩, fun _ => ⟨hroom, hfits⟩, heq⟩
      · rintro ⟨⟨⟨hk, hv⟩, hall⟩, hfits, heq⟩
        exact ⟨hk, hv, (hfits ⟨hk, hv⟩).1, hall, (hfits ⟨hk, hv⟩).2, heq⟩

/-- A caller that returns an error for what is refused panics exactly if the
    headers do not fit. -/
theorem panics_insertAll (hname : r.name = .error) (hvalue : r.value = .error) :
    Panics (fun _ => True) (insertAll C r m l) ↔ ¬ Fits C m l := by
  induction l generalizing m with
  | nil => simp only [insertAll, not_panics_ok, fits_nil, not_true_eq_false]
  | cons h l ih =>
      rcases h with ⟨k, v⟩
      rw [insertAll, hname, hvalue, fits_cons]
      simp only [panics_bind, not_panics_demand, panics_demand, demand_eq_ok, exists_const,
        false_or, and_true, ih, Crate.valid, Bool.and_eq_true]
      cases C.headerName k <;> cases C.headerValue v <;> cases C.room m <;>
        simp only [Bool.false_eq_true, false_and, and_false, true_and, and_self, true_implies,
          false_implies, not_true_eq_false, not_false_eq_true, or_false, false_or,
          Bool.true_eq_false]

end Http

end Rathole
