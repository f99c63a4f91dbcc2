import Mathlib.Data.List.Find
import Rathole.Prototype.Rules

/-!
# The Registry of the Prototype

What `tunnels` says about an id should be the latest registered socket under
it that is still in its loop. Between leaving its loop and removing its id a
socket makes the table lag behind, so this is asked only while no socket is on
that way.

Two things spoil it. A socket removes its id whoever's sender is there by
then, be it that of a newer socket, and even if an older one is still in its
loop. And a socket whose task panics over a response it cannot build does not
remove its id at all.

## Main definitions

* `Relay.Quiet`: No socket is on its way out.
* `Relay.Tracks`: The table has the latest socket of every id.
* `Relay.Orderly`: Nobody is removed but the last socket of an id, and no
  registered socket panics.
* `Relay.Tracked`: The invariant of the orderly runs.

## Theorems

* `tracked_of_step`: What an orderly step preserves.
* `registry_tracks`: Orderly runs keep track, and a step that is not orderly
  loses it.
* `newer_socket_forgotten`: A run that loses track.
-/

namespace Rathole

namespace Prototype

open FairLock Numbered Transition

namespace Relay

/-- No socket is between leaving its loop and removing its id. -/
def Quiet (s : Relay) : Prop :=
  ∀ (n : Nat) (x : Socket), s.sockets[n]? = some x → x.pc ≠ .leaving

/-- The socket is one of the id. -/
def ofId (s : Relay) (id : String) (n : Nat) : Bool :=
  (s.sockets[n]?).any (fun x => x.id = id)

/-- The socket is one of the id, and in its loop. -/
def live (s : Relay) (id : String) (n : Nat) : Bool :=
  (s.sockets[n]?).any (fun x => x.id = id ∧ x.pc.InLoop)

/-- The most recently registered socket of an id. -/
def newest (s : Relay) (id : String) : Option Nat := s.registrations.find? (s.ofId id)

/-- The most recently registered one that is in its loop. -/
def latest (s : Relay) (id : String) : Option Nat := s.registrations.find? (s.live id)

/-- The table has an id exactly if a socket of the id is in its loop, and then
    it has the latest of them. -/
def Tracks (s : Relay) : Prop :=
  ∀ id, ((∃ tx, s.tunnels.lookup id = some tx) ↔ ∃ n, s.live id n = true) ∧
    ∀ tx, s.tunnels.lookup id = some tx → s.latest id = some tx

/-- When a socket removes its id, no socket of that id is in its loop. A
    response that cannot be built is not one of the socket that `tunnels` has
    under its id. -/
def Orderly (E : Env) (s : Relay) : Action → Prop
  | .remove n => ∀ x, s.sockets[n]? = some x → ∀ m, s.live x.id m = false
  | .receive n (.text t) => ∀ x requestId status headers body, s.sockets[n]? = some x →
      E.fromStr t = some (.response requestId status headers body) →
      s.pendingRequests.lookup requestId ≠ none →
      buildResponse E.crate status headers body = none → s.tunnels.lookup x.id ≠ some n
  | _ => True

/-- The table has the newest socket of an id, which is in its loop or on its
    way out, and it has one while any is in its loop. -/
structure Tracked (s : Relay) : Prop where
  owner : ∀ (id : String) (n : Nat), s.tunnels.lookup id = some n → s.newest id = some n ∧
    ∃ x, s.sockets[n]? = some x ∧ x.id = id ∧ (x.pc.InLoop ∨ x.pc = .leaving)
  kept : ∀ (id : String) (n : Nat), s.live id n = true → ∃ m, s.tunnels.lookup id = some m
  known : ∀ n ∈ s.registrations, n < s.sockets.length

variable {E : Env} {s t : Relay} {a : Action} {n : Nat} {x : Socket} {id : String}

theorem ofId_iff : s.ofId id n = true ↔ ∃ x, s.sockets[n]? = some x ∧ x.id = id := by
  simp only [ofId, Option.any_eq_true, decide_eq_true_eq]

theorem live_iff : s.live id n = true ↔
    ∃ x, s.sockets[n]? = some x ∧ x.id = id ∧ x.pc.InLoop := by
  simp only [live, Option.any_eq_true, decide_eq_true_eq]

/-- The first member with a property, if it has a stronger one as well. -/
theorem find?_of_stronger {α : Type} {p q : α → Bool} {a : α} :
    ∀ {l : List α}, l.find? p = some a → q a = true → (∀ b, q b = true → p b = true) →
      l.find? q = some a := by
  intro l
  induction l with
  | nil => intro h _ _; simp only [List.find?_nil, reduceCtorEq] at h
  | cons b l ih =>
      intro h hq hle
      by_cases hp : p b = true
      · rw [List.find?_cons_of_pos hp, Option.some.injEq] at h
        subst h
        exact List.find?_cons_of_pos hq
      · have hqb : ¬ q b = true := fun hqb => hp (hle b hqb)
        rw [List.find?_cons_of_neg hp] at h
        rw [List.find?_cons_of_neg hqb]
        exact ih h hq hle

/-- What the invariant says where no socket is on its way out. -/
theorem Tracked.tracks (h : Tracked s) (hquiet : s.Quiet) : s.Tracks := by
  have hlive : ∀ id n, s.tunnels.lookup id = some n → s.live id n = true := by
    intro id n hn
    rcases (h.owner id n hn).2 with ⟨x, hx, hid, hin | hout⟩
    · exact live_iff.mpr ⟨x, hx, hid, hin⟩
    · exact absurd hout (hquiet n x hx)
  intro id
  refine ⟨⟨fun ⟨n, hn⟩ => ⟨n, hlive id n hn⟩, fun ⟨n, hn⟩ => h.kept id n hn⟩, fun n hn => ?_⟩
  refine find?_of_stronger (h.owner id n hn).1 (hlive id n hn) (fun m hm => ?_)
  rcases live_iff.mp hm with ⟨x, hx, hid, _⟩
  exact ofId_iff.mpr ⟨x, hx, hid⟩

/-! ### Steps -/

theorem tracked_initial : Tracked initial where
  owner := fun id n h => by simp only [initial, AList.lookup_empty, reduceCtorEq] at h
  kept := fun id n h => by simp only [live, initial, List.getElem?_nil, Option.any_none,
    Bool.false_eq_true] at h
  known := fun n h => by simp only [initial, List.not_mem_nil] at h

/-- Sockets keep their ids. None gets into its loop, and one that the table
    has stays in its loop or goes on its way out. -/
structure SocketsKept (s t : Relay) : Prop where
  forward : ∀ (n : Nat) (x : Socket), s.sockets[n]? = some x → ∃ x', t.sockets[n]? = some x' ∧
    x'.id = x.id ∧ (s.tunnels.lookup x.id = some n → x.pc.InLoop ∨ x.pc = .leaving →
      x'.pc.InLoop ∨ x'.pc = .leaving)
  backward : ∀ (n : Nat) (x' : Socket), t.sockets[n]? = some x' → x'.pc.InLoop →
    ∃ x, s.sockets[n]? = some x ∧ x.id = x'.id ∧ x.pc.InLoop

/-- Sockets keep their ids. -/
def IdsKept (s t : Relay) : Prop :=
  ∀ (n : Nat) (x : Socket), s.sockets[n]? = some x → ∃ x', t.sockets[n]? = some x' ∧ x'.id = x.id

theorem SocketsKept.ids (hk : SocketsKept s t) : IdsKept s t := by
  intro n x hx
  rcases hk.forward n x hx with ⟨x', hx', hid, _⟩
  exact ⟨x', hx', hid⟩

theorem idsKept_of_set {x' : Socket} (hx : s.sockets[n]? = some x)
    (hset : t.sockets = s.sockets.set n x') (hid : x'.id = x.id) : IdsKept s t := by
  intro m y hy
  rw [hset]
  exact set_survives Socket.id x' hx hid hy

/-- A registered socket is looked up by its id as before. -/
theorem find?_of_ids (h : Tracked s) (hk : IdsKept s t) (id : String) :
    s.registrations.find? (t.ofId id) = s.newest id := by
  refine List.find?_congr (fun n hn => ?_)
  have hx := List.getElem?_eq_getElem (h.known n hn)
  rcases hk n _ hx with ⟨x', hx', hid⟩
  simp only [ofId, hx, hx', Option.any_some, hid]

theorem live_of_kept (hk : SocketsKept s t) (h : t.live id n = true) : s.live id n = true := by
  rcases live_iff.mp h with ⟨x', hx', hid, hin⟩
  rcases hk.backward n x' hx' hin with ⟨x, hx, hid', hin'⟩
  exact live_iff.mpr ⟨x, hx, hid'.trans hid, hin'⟩

theorem known_of_ids (h : Tracked s) (hk : IdsKept s t) (hn : n ∈ s.registrations) :
    n < t.sockets.length := by
  rcases hk n _ (List.getElem?_eq_getElem (h.known n hn)) with ⟨x', hx', _⟩
  exact (List.getElem?_eq_some_iff.mp hx').fst

/-- Nobody registers, and nobody is removed. -/
theorem Tracked.of_kept (h : Tracked s) (hk : SocketsKept s t) (htunnels : t.tunnels = s.tunnels)
    (hreg : t.registrations = s.registrations) : Tracked t where
  owner := by
    intro id n hn
    rw [htunnels] at hn
    rcases h.owner id n hn with ⟨hnewest, x, hx, hid, hpc⟩
    rcases hk.forward n x hx with ⟨x', hx', hid', hstay⟩
    rw [newest, hreg, find?_of_ids h hk.ids]
    exact ⟨hnewest, x', hx', hid'.trans hid, hstay (by rw [hid]; exact hn) hpc⟩
  kept := by
    intro id n hn
    rw [htunnels]
    exact h.kept id n (live_of_kept hk hn)
  known := by
    intro n hn
    rw [hreg] at hn
    exact known_of_ids h hk.ids hn

theorem socketsKept_of_eq (h : t.sockets = s.sockets) : SocketsKept s t where
  forward := fun n x hx => ⟨x, by rw [h]; exact hx, rfl, fun _ hpc => hpc⟩
  backward := fun n x' hx' hin => ⟨x', by rw [← h]; exact hx', rfl, hin⟩

/-- One socket moves, and stays in its loop if it was there, unless it goes on
    its way out or the table does not have it. -/
theorem socketsKept_of_set {x' : Socket} (hx : s.sockets[n]? = some x)
    (hset : t.sockets = s.sockets.set n x') (hid : x'.id = x.id)
    (hstay : s.tunnels.lookup x.id = some n → x.pc.InLoop ∨ x.pc = .leaving →
      x'.pc.InLoop ∨ x'.pc = .leaving)
    (hin : x'.pc.InLoop → x.pc.InLoop) : SocketsKept s t where
  forward := by
    intro m y hy
    rw [hset]
    by_cases hm : n = m
    · subst hm
      rw [hx, Option.some.injEq] at hy
      subst hy
      exact ⟨x', getElem?_updated hx, hid, hstay⟩
    · exact ⟨y, (List.getElem?_set_ne hm).trans hy, rfl, fun _ hpc => hpc⟩
  backward := by
    intro m y hy hloop
    rw [hset] at hy
    rcases getElem?_set_cases hy with ⟨rfl, rfl⟩ | ⟨_, hold⟩
    · exact ⟨x, hx, hid.symm, hin hloop⟩
    · exact ⟨y, hold, rfl, hloop⟩

/-- A socket connects; it is not registered yet. -/
theorem socketsKept_of_append (hset : t.sockets = s.sockets ++ [x]) (hpc : ¬ x.pc.InLoop) :
    SocketsKept s t where
  forward := by
    intro m y hy
    rw [hset]
    exact ⟨y, getElem?_kept hy, rfl, fun _ hpc => hpc⟩
  backward := by
    intro m y hy hloop
    rw [hset] at hy
    rcases getElem?_append_cases hy with hold | ⟨_, rfl⟩
    · exact ⟨y, hold, rfl, hloop⟩
    · exact absurd hloop hpc

/-- A socket registers: it is the newest of its id. -/
theorem Tracked.enlisted (h : Tracked s) (hx : s.sockets[n]? = some x)
    (hsockets : t.sockets = s.sockets.set n { x with pc := .looping })
    (htunnels : t.tunnels = s.tunnels.insert x.id n)
    (hreg : t.registrations = n :: s.registrations) : Tracked t := by
  have hids : IdsKept s t := idsKept_of_set hx hsockets rfl
  have hn : t.sockets[n]? = some { x with pc := .looping } := by
    rw [hsockets, getElem?_updated hx]
  have hown : t.ofId x.id n = true := ofId_iff.mpr ⟨_, hn, rfl⟩
  constructor
  · intro id m hm
    rw [htunnels] at hm
    rcases HashMap.lookup_insert_cases hm with ⟨rfl, rfl⟩ | ⟨hne, hold⟩
    · refine ⟨?_, _, hn, rfl, Or.inl trivial⟩
      rw [newest, hreg, List.find?_cons_of_pos hown]
    · rcases h.owner id m hold with ⟨hnewest, y, hy, hid, hpc⟩
      have hother : ¬ t.ofId id n = true := by
        rw [ofId_iff]
        rintro ⟨z, hz, hzid⟩
        rw [hn, Option.some.injEq] at hz
        rw [← hz] at hzid
        exact hne hzid.symm
      have hmn : n ≠ m := by
        rintro rfl
        rw [hx, Option.some.injEq] at hy
        exact hne (by rw [← hid, hy])
      rw [newest, hreg, List.find?_cons_of_neg hother, find?_of_ids h hids]
      exact ⟨hnewest, y, by rw [hsockets, List.getElem?_set_ne hmn]; exact hy, hid, hpc⟩
  · intro id m hm
    rw [htunnels]
    by_cases hid : id = x.id
    · exact ⟨n, by rw [hid, AList.lookup_insert]⟩
    · rcases live_iff.mp hm with ⟨y, hy, hyid, hloop⟩
      rw [hsockets] at hy
      rcases getElem?_set_cases hy with ⟨_, rfl⟩ | ⟨_, hold⟩
      · exact absurd hyid.symm hid
      · rcases h.kept id m (live_iff.mpr ⟨y, hold, hyid, hloop⟩) with ⟨k, hk⟩
        exact ⟨k, by rw [AList.lookup_insert_ne hid]; exact hk⟩
  · intro m hm
    rw [hreg, List.mem_cons] at hm
    rcases hm with rfl | hm
    · exact (List.getElem?_eq_some_iff.mp hn).fst
    · exact known_of_ids h hids hm

/-- A socket removes its id, and no socket of the id is left in its loop. -/
theorem Tracked.removed (h : Tracked s) (hx : s.sockets[n]? = some x)
    (halone : ∀ m, s.live x.id m = false)
    (hsockets : t.sockets = s.sockets.set n { x with pc := .closed, queue := [] })
    (htunnels : t.tunnels = s.tunnels.erase x.id) (hreg : t.registrations = s.registrations) :
    Tracked t := by
  have hids : IdsKept s t := idsKept_of_set hx hsockets rfl
  constructor
  · intro id m hm
    rw [htunnels] at hm
    rcases HashMap.lookup_erase_cases hm with ⟨hne, hold⟩
    rcases h.owner id m hold with ⟨hnewest, y, hy, hid, hpc⟩
    have hmn : n ≠ m := by
      rintro rfl
      rw [hx, Option.some.injEq] at hy
      exact hne (by rw [← hid, hy])
    rw [newest, hreg, find?_of_ids h hids]
    exact ⟨hnewest, y, by rw [hsockets, List.getElem?_set_ne hmn]; exact hy, hid, hpc⟩
  · intro id m hm
    rcases live_iff.mp hm with ⟨y, hy, hyid, hloop⟩
    rw [hsockets] at hy
    rcases getElem?_set_cases hy with ⟨_, rfl⟩ | ⟨_, hold⟩
    · exact absurd hloop not_false
    · have hlive : s.live id m = true := live_iff.mpr ⟨y, hold, hyid, hloop⟩
      have hne : id ≠ x.id := by
        rintro rfl
        rw [halone m] at hlive
        simp only [Bool.false_eq_true] at hlive
      rcases h.kept id m hlive with ⟨k, hk⟩
      exact ⟨k, by rw [htunnels, AList.lookup_erase_ne hne]; exact hk⟩
  · intro m hm
    rw [hreg] at hm
    exact known_of_ids h hids hm

/-- A socket that the table does not have panics. -/
theorem Tracked.crashed (h : Tracked s) (hx : s.sockets[n]? = some x)
    (hnot : s.tunnels.lookup x.id ≠ some n) : Tracked (s.crash n x) :=
  h.of_kept (socketsKept_of_set hx rfl rfl (fun htx => absurd htx hnot) (fun hin => absurd hin id))
    rfl rfl

/-- Nothing is done but to response channels and their senders. -/
theorem Tracked.of_fills (h : Tracked s) (hf : Fills s t) : Tracked t :=
  h.of_kept (socketsKept_of_eq hf.sockets) hf.tunnels hf.registrations

/-- The step lemma. -/
theorem tracked_of_step (h : Tracked s) (hok : Orderly E s a) (hst : step E s a = some t) :
    Tracked t := by
  cases rule_of_step hst with
  | connected => exact h.of_kept (socketsKept_of_append rfl id) rfl rfl
  | enlisted hx hpc => exact h.enlisted hx rfl rfl rfl
  | skipped => exact h
  | delivered => exact h.of_fills (fills_answerTaken _ _ _ _)
  | @crashed n r x _ requestId status headers body hx _ hm hr hbuild =>
      have hf := fills_dropTaken s (s.pendingRequests.erase requestId) r
      have hnot := hok x requestId status headers body hx hm
        (by rw [hr]; simp only [ne_eq, reduceCtorEq, not_false_eq_true]) hbuild
      refine (h.of_fills hf).crashed ?_ ?_
      · rw [hf.sockets]
        exact hx
      · rw [hf.tunnels]
        exact hnot
  -- A socket moves within its loop, or goes on its way out.
  | taken hx hpc | pushed hx hpc =>
      refine h.of_kept (socketsKept_of_set hx rfl rfl (fun _ _ => Or.inl ?_) (fun _ => ?_)) rfl rfl
      · trivial
      · rw [hpc]
        trivial
  | pushFailed hx hpc | hungUp hx hpc =>
      exact h.of_kept (socketsKept_of_set hx rfl rfl (fun _ _ => Or.inr rfl)
        (fun hin => absurd hin id)) rfl rfl
  | removed hx hpc => exact h.removed hx (hok _ hx) rfl rfl rfl
  -- A handler may lengthen a queue, and does nothing else to a socket.
  | deafened hx hpc | sent hq hpc hx halive =>
      exact h.of_kept (socketsKept_of_set hx rfl rfl (fun _ hpc => hpc) (fun hin => hin)) rfl rfl
  | @enrolled r c q =>
      have hmoved : Tracked (s.setRequest r { q with pc := .reading c }) :=
        h.of_kept (socketsKept_of_eq rfl) rfl rfl
      exact hmoved.of_fills (fills_insertPending _ _ _)
  | @discarded r c q =>
      have hmoved : Tracked (s.setRequest r { q with pc := .falling (some c) q.req.emptied }) :=
        h.of_kept (socketsKept_of_eq rfl) rfl rfl
      exact hmoved.of_fills (fills_removePending _ _)
  | _ => exact h.of_kept (socketsKept_of_eq rfl) rfl rfl

/-! ### What a step does that is not orderly -/

/-- A socket is removed while another of its id is in its loop: the table has
    nothing under the id. -/
theorem not_tracks_of_removed {m : Nat} (hx : s.sockets[n]? = some x)
    (hm : s.live x.id m = true) (hst : step E s (.remove n) = some t) : ¬ t.Tracks := by
  intro htracks
  cases rule_of_step hst with
  | @removed _ y hy hpc =>
      rw [hx, Option.some.injEq] at hy
      subst hy
      rcases live_iff.mp hm with ⟨y, hy, hid, hloop⟩
      have hmn : n ≠ m := by
        rintro rfl
        rw [hx, Option.some.injEq] at hy
        rw [← hy, hpc] at hloop
        exact hloop
      rcases (htracks x.id).1.mpr ⟨m, live_iff.mpr ⟨y, (List.getElem?_set_ne hmn).trans hy, hid,
        hloop⟩⟩ with ⟨tx, htx⟩
      simp only [AList.lookup_erase, reduceCtorEq] at htx

/-- A response that cannot be built ends the task of its socket. -/
theorem crash_of_receive {r : Nat} {text requestId : String} {status : UInt16}
    {headers : List (String × String)} {body : List UInt8} (hx : s.sockets[n]? = some x)
    (hm : E.fromStr text = some (.response requestId status headers body))
    (hr : s.pendingRequests.lookup requestId = some r)
    (hbuild : buildResponse E.crate status headers body = none)
    (hst : step E s (.receive n (.text text)) = some t) :
    ∃ u, Fills s u ∧ t = u.crash n x := by
  have hfills := fills_dropTaken s (s.pendingRequests.erase requestId) r
  simp only [step, receive, hx, hm, hr, deliver, hbuild, Option.ite_none_right_eq_some,
    Option.some.injEq] at hst
  exact ⟨_, hfills, hst.2.symm⟩

/-- If that socket is the one that the table has under its id, the table still
    has it. -/
theorem not_tracks_of_crashed {u : Relay} (hf : Fills s u) (hx : s.sockets[n]? = some x)
    (htx : s.tunnels.lookup x.id = some n) : ¬ (u.crash n x).Tracks := by
  intro htracks
  have hlookup : (u.crash n x).tunnels.lookup x.id = some n := by
    rw [← htx, ← hf.tunnels]
    rfl
  rcases live_iff.mp (List.find?_some ((htracks x.id).2 n hlookup)) with ⟨y, hy, _, hloop⟩
  have hcrashed : (u.crash n x).sockets[n]? = some { x with pc := .crashed, queue := [] } := by
    refine List.getElem?_set_self ?_
    rw [hf.sockets]
    exact (List.getElem?_eq_some_iff.mp hx).fst
  rw [hcrashed, Option.some.injEq] at hy
  rw [← hy] at hloop
  exact hloop

/-- In every state of every orderly run in which no socket is on its way out,
    the table has an id exactly if a socket registered under it is in its loop,
    and then the sender of the latest of them. Any step that is not orderly
    makes the table wrong. -/
theorem registry_tracks (E : Env) (s : Relay) (hr : Reaches (step E) (Orderly E) initial s) :
    (s.Quiet → s.Tracks) ∧
      ∀ (a : Action) (t : Relay), step E s a = some t → ¬ Orderly E s a → ¬ t.Tracks := by
  have h : Tracked s :=
    hr.invariant (fun _ _ _ hi hok hst => tracked_of_step hi hok hst) tracked_initial
  refine ⟨h.tracks, fun a t hst hnot => ?_⟩
  cases a with
  | remove n =>
      simp only [Orderly, not_forall] at hnot
      rcases hnot with ⟨x, hx, m, hm⟩
      rw [Bool.not_eq_false] at hm
      exact not_tracks_of_removed hx hm hst
  | receive n m =>
      cases m with
      | text text =>
          simp only [Orderly, not_forall, not_not] at hnot
          rcases hnot with ⟨x, requestId, status, headers, body, hx, hm, hp, hbuild, htx⟩
          rcases Option.ne_none_iff_exists'.mp hp with ⟨r, hr⟩
          rcases crash_of_receive hx hm hr hbuild hst with ⟨u, hf, rfl⟩
          exact not_tracks_of_crashed hf hx htx
      | _ => exact absurd trivial hnot
  | _ => exact absurd trivial hnot

/-! ### Two runs -/

/-- Libraries that read no message. -/
def silent : Env where
  fromStr := fun _ => none
  crate := {
    headerName := fun _ => true
    headerValue := fun _ => true
    room := fun m => m.length < 24576 }

/-- A tunnel connects, and again under the same id; the older socket loses its
    connection. -/
def reconnected : List Action :=
  [.connect "app", .enlist 0, .connect "app", .enlist 1, .fail 0, .hangUp 0]

/-- After the second registration the table has the newer socket. -/
theorem registry_tracks_enlisted :
    ∃ s, Reaches (step silent) (Orderly silent) initial s ∧ s.tunnels.lookup "app" = some 1 ∧
      (s.Quiet → s.Tracks) ∧ ∀ (a : Action) (t : Relay), step silent s a = some t →
        ¬ Orderly silent s a → ¬ t.Tracks := by
  rcases hrun : exec (step silent) initial (reconnected.take 4) with _ | s
  · exact absurd hrun (by decide)
  · have hlookup : (exec (step silent) initial (reconnected.take 4)).bind
        (fun s => s.tunnels.lookup "app") = some 1 := by decide
    rw [hrun, Option.bind_some] at hlookup
    have hr : Reaches (step silent) (Orderly silent) initial s := by
      refine reaches_of_forall _ _ _ (fun a ha s => ?_) hrun
      -- None of these actions is one the condition speaks of.
      simp only [reconnected, List.take_succ_cons, List.take_zero, List.mem_cons,
        List.not_mem_nil, or_false] at ha
      rcases ha with rfl | rfl | rfl | rfl <;> trivial
    exact ⟨s, hr, hlookup, registry_tracks silent s hr⟩

/-- The older socket takes the entry of the newer one out. -/
theorem newer_socket_forgotten :
    ¬ ∀ (E : Env) (s : Relay), Reaches (step E) (fun _ _ => True) initial s → s.Quiet →
      s.Tracks := by
  intro h
  rcases hrun : exec (step silent) initial (reconnected ++ [.remove 0]) with _ | s
  · exact absurd hrun (by decide)
  · have hobs : (exec (step silent) initial (reconnected ++ [.remove 0])).map
        (fun s => (s.sockets.map Socket.pc, s.live "app" 1, s.tunnels.lookup "app")) =
          some ([.closed, .looping], true, none) := by decide
    rw [hrun, Option.map_some, Option.some.injEq, Prod.mk.injEq, Prod.mk.injEq] at hobs
    have hquiet : s.Quiet := by
      intro n x hx hpc
      have hmem : SocketPc.leaving ∈ s.sockets.map Socket.pc :=
        hpc ▸ List.mem_map_of_mem (List.mem_of_getElem? hx)
      rw [hobs.1] at hmem
      exact absurd hmem (by decide)
    rcases ((h silent s (reaches_of_exec _ _ _ hrun) hquiet) "app").1.mpr ⟨1, hobs.2.1⟩ with
      ⟨tx, htx⟩
    rw [hobs.2.2] at htx
    simp only [reduceCtorEq] at htx

end Relay

end Prototype

end Rathole
