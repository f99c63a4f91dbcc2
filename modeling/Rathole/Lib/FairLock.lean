import Mathlib.Data.List.Basic
import Mathlib.Tactic.Common

/-!
# A First-In First-Out Readers-Writer Lock

The lock of an asynchronous runtime whose waiters are served strictly in the
order they asked. A request is granted on the spot only when nobody waits
and the guards already out admit it; otherwise it joins the end of the
queue, and a guard given back lets in as many waiters from the front as the
remaining guards admit.

Two consequences matter to a program that uses such a lock. A waiting writer
holds up every later reader, also a reader that already has a guard of the
same lock. And a waiter gets in only when something ahead of it leaves. The
lock itself is bookkeeping: which guards are out, and who waits, in order.

`entries` is what makes the bookkeeping easy to reason about. Granting moves
a waiter from the front of the queue to the end of the guards, so the two
lists end to end do not change: a request appends one entry and a release
erases one, whatever was granted on the way.

## Main definitions

* `Mode`: What a guard allows.
* `RwLock`: The guards that are out and the queue.
* `admits`: Whether the guards that are out admit one more.
* `settle`: Letting in waiters from the front of the queue.
* `RwLock.request`: Asking for a guard.
* `RwLock.release`: Giving a guard back.
* `RwLock.abandon`: Dropping a task with all it has and wants.
* `RwLock.owned`: The guards and requests of one task.
* `RwLock.Sound`: A writer is alone, and the first waiter has to wait.
* `RwLock.Acts`: All that one task can do to the lock.

## Theorems

* `settle_entries`: Granting moves entries, and neither adds nor drops any.
* `entries_request`: A request appends one entry.
* `sound_request`: A request keeps the lock sound.
* `sound_release`: A release keeps the lock sound.
* `request_read_shared`: With nobody waiting, a reader that already has a
  guard gets another.
* `owned_request_self`: A request adds itself to what its task owns.
* `owned_release_self`: A release takes the guard from what its task owns.
* `two_le_owned`: A task that waits with a guard in hand owns two entries.
* `Acts.sound`: Nothing a task does makes the lock unsound.
* `Acts.mem_entries`: Nothing a task does loses another task's entry.
* `Acts.holds`: Nothing a task does takes another task's guard.
* `no_writer_of_reader`: While a reader is in, no writer is.
-/

namespace FairLock

/-- What a guard allows: shared reading or exclusive writing. -/
inductive Mode
  | read
  | write
deriving DecidableEq, Repr

/-- The guards that are out and the requests that wait, oldest first. -/
structure RwLock (τ : Type) where
  holders : List (τ × Mode)
  waiting : List (τ × Mode)
deriving DecidableEq, Repr

variable {τ : Type}

/-- Whether the guards that are out admit one more of the given mode. -/
def admits (hs : List (τ × Mode)) : Mode → Bool
  | .read => hs.all (fun h => h.2 == .read)
  | .write => hs.isEmpty

/-- Let in waiters from the front of the queue as far as the guards admit. -/
def settle : List (τ × Mode) → List (τ × Mode) → RwLock τ
  | hs, [] => { holders := hs, waiting := [] }
  | hs, w :: ws =>
      -- The first that has to wait keeps all behind it waiting.
      if admits hs w.2 then settle (hs ++ [w]) ws else { holders := hs, waiting := w :: ws }

namespace RwLock

/-- A lock nobody has and nobody wants. -/
def free : RwLock τ := { holders := [], waiting := [] }

/-- Every guard that is out and every request that waits. -/
def entries (l : RwLock τ) : List (τ × Mode) := l.holders ++ l.waiting

/-- Ask for a guard: granted at once if nobody waits and the guards that are
    out admit it, queued otherwise. -/
def request (l : RwLock τ) (t : τ) (m : Mode) : RwLock τ :=
  if l.waiting.isEmpty && admits l.holders m then { l with holders := l.holders ++ [(t, m)] }
  else { l with waiting := l.waiting ++ [(t, m)] }

/-- Give one guard back. -/
def release [DecidableEq τ] (l : RwLock τ) (t : τ) (m : Mode) : RwLock τ :=
  settle (l.holders.erase (t, m)) l.waiting

/-- Take back everything a task has and wants, as when the task is dropped. -/
def abandon [DecidableEq τ] (l : RwLock τ) (t : τ) : RwLock τ :=
  settle (l.holders.filter (fun x => x.1 ≠ t)) (l.waiting.filter (fun x => x.1 ≠ t))

/-- The task has a request in the queue. -/
def Waits (l : RwLock τ) (t : τ) : Prop := ∃ m, (t, m) ∈ l.waiting

/-- The task has a guard. -/
def Holds (l : RwLock τ) (t : τ) (m : Mode) : Prop := (t, m) ∈ l.holders

instance [DecidableEq τ] (l : RwLock τ) (t : τ) : Decidable (l.Waits t) :=
  decidable_of_iff ((t, Mode.read) ∈ l.waiting ∨ (t, Mode.write) ∈ l.waiting)
    ⟨fun h => h.elim (fun h => ⟨_, h⟩) (fun h => ⟨_, h⟩),
      fun ⟨m, h⟩ => by cases m with
        | read => exact Or.inl h
        | write => exact Or.inr h⟩

instance [DecidableEq τ] (l : RwLock τ) (t : τ) (m : Mode) : Decidable (l.Holds t m) :=
  inferInstanceAs (Decidable ((t, m) ∈ l.holders))

/-- The guards a task has and the requests it made, in the order of asking. -/
def owned [DecidableEq τ] (l : RwLock τ) (t : τ) : List (τ × Mode) :=
  l.entries.filter (fun x => x.1 = t)

/-- A writer is alone, and whoever is first in the queue has to wait. -/
structure Sound (l : RwLock τ) : Prop where
  exclusive : ∀ t, (t, Mode.write) ∈ l.holders → l.holders = [(t, Mode.write)]
  settled : ∀ w ws, l.waiting = w :: ws → admits l.holders w.2 = false

end RwLock

open RwLock

theorem admits_read_iff (hs : List (τ × Mode)) :
    admits hs .read = true ↔ ∀ h ∈ hs, h.2 = .read := by
  simp only [admits, List.all_eq_true, beq_iff_eq]

theorem admits_write_iff (hs : List (τ × Mode)) : admits hs .write = true ↔ hs = [] := by
  simp only [admits, List.isEmpty_iff]

/-- Granting moves entries from the queue to the guards and nothing else. -/
theorem settle_entries (hs ws : List (τ × Mode)) : (settle hs ws).entries = hs ++ ws := by
  induction ws generalizing hs with
  | nil => simp only [settle, entries]
  | cons w ws ih =>
      unfold settle
      by_cases ha : admits hs w.2
      · rw [if_pos ha, ih, List.append_assoc, List.singleton_append]
      · rw [if_neg ha]
        rfl

/-- A guard that is out stays out when others are let in. -/
theorem mem_holders_settle {hs ws : List (τ × Mode)} {x : τ × Mode} (h : x ∈ hs) :
    x ∈ (settle hs ws).holders := by
  induction ws generalizing hs with
  | nil => exact h
  | cons w ws ih =>
      unfold settle
      by_cases ha : admits hs w.2
      · rw [if_pos ha]
        -- Letting one in only adds to the guards.
        exact ih (List.mem_append_left _ h)
      · rw [if_neg ha]
        exact h

/-- Whoever still waits was waiting before. -/
theorem mem_of_waiting_settle {hs ws : List (τ × Mode)} {x : τ × Mode}
    (h : x ∈ (settle hs ws).waiting) : x ∈ ws := by
  induction ws generalizing hs with
  | nil => exact h
  | cons w ws ih =>
      unfold settle at h
      by_cases ha : admits hs w.2
      · rw [if_pos ha] at h
        exact List.mem_cons_of_mem _ (ih h)
      · rwa [if_neg ha] at h

/-- Letting in one admitted guard leaves a writer alone. -/
theorem exclusive_append {hs : List (τ × Mode)} {w : τ × Mode}
    (hx : ∀ t, (t, Mode.write) ∈ hs → hs = [(t, Mode.write)]) (ha : admits hs w.2 = true) :
    ∀ t, (t, Mode.write) ∈ hs ++ [w] → hs ++ [w] = [(t, Mode.write)] := by
  intro t ht
  rcases w with ⟨r, m⟩
  cases m with
  | read =>
      -- A reader was let in, so no writer is among the guards.
      exfalso
      rw [admits_read_iff] at ha
      rcases List.mem_append.mp ht with hin | hin
      · exact absurd (ha _ hin) (by simp only [reduceCtorEq, not_false_eq_true])
      · simp only [List.mem_singleton, Prod.mk.injEq, reduceCtorEq, and_false] at hin
  | write =>
      rw [admits_write_iff] at ha
      subst ha
      simp only [List.nil_append, List.mem_singleton, Prod.mk.injEq, and_true] at ht
      rw [ht, List.nil_append]

theorem sound_settle {hs : List (τ × Mode)} (ws : List (τ × Mode))
    (hx : ∀ t, (t, Mode.write) ∈ hs → hs = [(t, Mode.write)]) : (settle hs ws).Sound := by
  induction ws generalizing hs with
  | nil => exact ⟨hx, fun w ws h => by simp only [settle, reduceCtorEq] at h⟩
  | cons w ws ih =>
      unfold settle
      by_cases ha : admits hs w.2
      · rw [if_pos ha]
        -- The guards stay exclusive with each one that is let in.
        exact ih (exclusive_append hx ha)
      · rw [if_neg ha]
        -- It stops at the first waiter that is refused.
        refine ⟨hx, fun w' ws' h => ?_⟩
        simp only [List.cons.injEq] at h
        rw [← h.1]
        simpa only [Bool.not_eq_true] using ha

namespace RwLock

theorem sound_free : (free : RwLock τ).Sound :=
  ⟨fun t h => by simp only [free, List.not_mem_nil] at h,
    fun w ws h => by simp only [free, reduceCtorEq] at h⟩

/-- A request appends one entry, granted or not. -/
theorem entries_request (l : RwLock τ) (t : τ) (m : Mode) :
    (l.request t m).entries = l.entries ++ [(t, m)] := by
  unfold request entries
  by_cases h : l.waiting.isEmpty && admits l.holders m
  · rw [if_pos h]
    simp only [Bool.and_eq_true, List.isEmpty_iff] at h
    simp only [h.1, List.append_nil]
  · rw [if_neg h]
    simp only [List.append_assoc]

theorem sound_request {l : RwLock τ} (h : l.Sound) (t : τ) (m : Mode) :
    (l.request t m).Sound := by
  unfold request
  by_cases hg : l.waiting.isEmpty && admits l.holders m
  · rw [if_pos hg]
    simp only [Bool.and_eq_true, List.isEmpty_iff] at hg
    refine ⟨exclusive_append (w := (t, m)) h.exclusive hg.2, fun w ws hw => ?_⟩
    simp only [hg.1, reduceCtorEq] at hw
  · rw [if_neg hg]
    refine ⟨h.exclusive, fun w ws hw => ?_⟩
    rcases hq : l.waiting with _ | ⟨w', ws'⟩
    · -- Nobody waited, so the guards that are out refused the request.
      simp only [hq, List.nil_append, List.cons.injEq] at hw
      simp only [hq, List.isEmpty_nil, Bool.true_and, Bool.not_eq_true] at hg
      rw [← hw.1]
      exact hg
    · -- Whoever was first in the queue still is.
      simp only [hq, List.cons_append, List.cons.injEq] at hw
      rw [← hw.1]
      exact h.settled w' ws' hq

theorem mem_waiting_request {l : RwLock τ} {t : τ} {m : Mode} {x : τ × Mode}
    (h : x ∈ (l.request t m).waiting) : x ∈ l.waiting ∨ x = (t, m) := by
  unfold request at h
  by_cases hg : l.waiting.isEmpty && admits l.holders m
  · rw [if_pos hg] at h
    exact Or.inl h
  · rw [if_neg hg] at h
    simpa only [List.mem_append, List.mem_singleton] using h

theorem holders_subset_request (l : RwLock τ) (t : τ) (m : Mode) {x : τ × Mode}
    (h : x ∈ l.holders) : x ∈ (l.request t m).holders := by
  unfold request
  by_cases hg : l.waiting.isEmpty && admits l.holders m
  · rw [if_pos hg]
    exact List.mem_append_left _ h
  · rw [if_neg hg]
    exact h

/-- With nobody waiting, a task that already has a read guard gets another:
    its own guard shows that no writer is in. -/
theorem request_read_shared {l : RwLock τ} (h : l.Sound) (hq : l.waiting = []) {t : τ}
    (ht : l.Holds t .read) : (l.request t .read).waiting = [] := by
  have ha : admits l.holders .read = true := by
    rw [admits_read_iff]
    intro x hx
    rcases x with ⟨r, m⟩
    cases m with
    | read => rfl
    | write =>
        -- A writer among the guards would be the only one.
        have hone := h.exclusive r hx
        rw [Holds, hone, List.mem_singleton] at ht
        simp only [Prod.mk.injEq, reduceCtorEq, and_false] at ht
  unfold request
  rw [if_pos (by simp only [hq, ha, List.isEmpty_nil, Bool.and_self])]
  exact hq

/-- While a reader is in, no writer is. -/
theorem no_writer_of_reader {l : RwLock τ} (h : l.Sound) {r w : τ} (hr : l.Holds r .read) :
    ¬ l.Holds w .write := by
  intro hw
  have hone := h.exclusive w hw
  rw [Holds, hone, List.mem_singleton] at hr
  simp only [Prod.mk.injEq, reduceCtorEq, and_false] at hr

/-- An entry of a task that does not wait is a guard. -/
theorem holds_of_entry {l : RwLock τ} {t : τ} {m : Mode} (he : (t, m) ∈ l.entries)
    (hw : ¬ l.Waits t) : l.Holds t m := by
  rcases List.mem_append.mp he with hin | hin
  · exact hin
  · exact absurd ⟨m, hin⟩ hw

section Release

variable [DecidableEq τ]

/-- What is left after a release: the other guards and the queue. -/
theorem entries_release (l : RwLock τ) (t : τ) (m : Mode) :
    (l.release t m).entries = l.holders.erase (t, m) ++ l.waiting :=
  settle_entries _ _

/-- The only guard is given back. -/
theorem release_only (t : τ) (m : Mode) :
    ({ holders := [(t, m)], waiting := [] } : RwLock τ).release t m = free := by
  rw [release, List.erase_cons_head]
  rfl

theorem mem_waiting_release {l : RwLock τ} {t : τ} {m : Mode} {x : τ × Mode}
    (h : x ∈ (l.release t m).waiting) : x ∈ l.waiting :=
  mem_of_waiting_settle h

theorem mem_waiting_abandon {l : RwLock τ} {t : τ} {x : τ × Mode}
    (h : x ∈ (l.abandon t).waiting) : x ∈ l.waiting :=
  List.mem_of_mem_filter (mem_of_waiting_settle h)

theorem sound_release {l : RwLock τ} (h : l.Sound) (t : τ) (m : Mode) :
    (l.release t m).Sound := by
  refine sound_settle _ (fun r hr => ?_)
  -- A writer that is still in was alone, so nothing was taken from it.
  have hone := h.exclusive r (List.mem_of_mem_erase hr)
  rw [hone] at hr ⊢
  by_cases he : (r, Mode.write) = (t, m)
  · rw [he, List.erase_cons_head] at hr
    exact absurd hr List.not_mem_nil
  · rw [List.erase_cons_tail (by simpa only [beq_iff_eq] using he), List.erase_nil]

/-! ### What one task owns -/

theorem owned_request_self (l : RwLock τ) (t : τ) (m : Mode) :
    (l.request t m).owned t = l.owned t ++ [(t, m)] := by
  simp only [owned, entries_request, List.filter_append, decide_true, List.filter_cons_of_pos,
    List.filter_nil]

theorem owned_request_ne (l : RwLock τ) {t r : τ} (m : Mode) (h : r ≠ t) :
    (l.request r m).owned t = l.owned t := by
  simp only [owned, entries_request, List.filter_append, h, decide_false, Bool.false_eq_true,
    not_false_eq_true, List.filter_cons_of_neg, List.filter_nil, List.append_nil]

theorem owned_release_self {l : RwLock τ} {t : τ} {m : Mode} (h : l.Holds t m) :
    (l.release t m).owned t = (l.owned t).erase (t, m) := by
  rw [owned, owned, entries_release, entries, List.erase_filter, List.erase_append_left _ h]

theorem owned_release_ne (l : RwLock τ) {t r : τ} (m : Mode) (h : r ≠ t) :
    (l.release r m).owned t = l.owned t := by
  -- The guard that is given back is not among them.
  have hkeep : (l.holders.erase (r, m)).filter (fun x => x.1 = t)
      = l.holders.filter (fun x => x.1 = t) := by
    rw [← List.erase_filter]
    refine List.erase_of_not_mem (fun hin => ?_)
    simp only [List.mem_filter, h, decide_false, Bool.false_eq_true, and_false] at hin
  rw [owned, owned, entries_release, entries, List.filter_append, List.filter_append, hkeep]

/-- A task that owns an entry and does not wait has the guard. -/
theorem holds_of_owned {l : RwLock τ} {t : τ} {m : Mode} (ho : (t, m) ∈ l.owned t)
    (hw : ¬ l.Waits t) : l.Holds t m := by
  exact holds_of_entry (List.mem_filter.mp ho).1 hw

/-- A task that has a guard and waits for another owns at least two entries. -/
theorem two_le_owned {l : RwLock τ} {t : τ} {m : Mode} (hh : l.Holds t m) (hw : l.Waits t) :
    2 ≤ (l.owned t).length := by
  rcases hw with ⟨m', hw⟩
  -- One entry is a guard, the other in the queue.
  have h1 : (t, m) ∈ l.holders.filter (fun x => x.1 = t) :=
    List.mem_filter.mpr ⟨hh, by simp only [decide_true]⟩
  have h2 : (t, m') ∈ l.waiting.filter (fun x => x.1 = t) :=
    List.mem_filter.mpr ⟨hw, by simp only [decide_true]⟩
  have hp1 := List.length_pos_of_mem h1
  have hp2 := List.length_pos_of_mem h2
  simp only [owned, entries, List.filter_append, List.length_append]
  omega

/-! ### All that one task can do -/

/-- What the lock can become by requests, releases and the end of one task. -/
inductive Acts (t : τ) : RwLock τ → RwLock τ → Prop
  | refl (l : RwLock τ) : Acts t l l
  | request (l : RwLock τ) (m : Mode) : Acts t l (l.request t m)
  | release (l : RwLock τ) (m : Mode) : Acts t l (l.release t m)
  | abandon (l : RwLock τ) : Acts t l (l.abandon t)
  | trans {l l' l'' : RwLock τ} (h1 : Acts t l l') (h2 : Acts t l' l'') : Acts t l l''

theorem sound_abandon {l : RwLock τ} (h : l.Sound) (t : τ) : (l.abandon t).Sound := by
  refine sound_settle _ (fun r hr => ?_)
  -- Nothing else was held beside a writer that is still in.
  have hone := h.exclusive r (List.mem_filter.mp hr).1
  rw [hone] at hr ⊢
  rw [List.filter_eq_self]
  intro x hx
  have hkeep := (List.mem_filter.mp hr).2
  rw [List.mem_singleton] at hx
  rw [hx]
  exact hkeep

theorem Acts.sound {t : τ} {l l' : RwLock τ} (h : Acts t l l') (hs : l.Sound) : l'.Sound := by
  induction h with
  | refl => exact hs
  | request l m => exact sound_request hs t m
  | release l m => exact sound_release hs t m
  | abandon l => exact sound_abandon hs t
  | trans _ _ ih1 ih2 => exact ih2 (ih1 hs)

theorem Acts.mem_entries {t : τ} {l l' : RwLock τ} (h : Acts t l l') {x : τ × Mode}
    (hne : x.1 ≠ t) (hx : x ∈ l.entries) : x ∈ l'.entries := by
  induction h with
  | refl => exact hx
  | request l m =>
      rw [entries_request]
      exact List.mem_append_left _ hx
  | release l m =>
      rw [entries_release]
      rcases List.mem_append.mp hx with hin | hin
      · -- Releasing erases an entry of `t` only.
        have hx' : x ≠ (t, m) := fun he => hne (by rw [he])
        exact List.mem_append_left _ ((List.mem_erase_of_ne hx').mpr hin)
      · exact List.mem_append_right _ hin
  | abandon l =>
      have he : (l.abandon t).entries = l.entries.filter (fun y => y.1 ≠ t) := by
        unfold RwLock.abandon
        rw [settle_entries, entries, List.filter_append]
      rw [he]
      exact List.mem_filter.mpr ⟨hx, by simpa only [ne_eq, decide_not, Bool.not_eq_true',
        decide_eq_false_iff_not] using hne⟩
  | trans _ _ ih1 ih2 => exact ih2 (ih1 hx)

theorem Acts.holds {t : τ} {l l' : RwLock τ} (h : Acts t l l') {r : τ} {m : Mode}
    (hne : r ≠ t) (hr : l.Holds r m) : l'.Holds r m := by
  induction h with
  | refl => exact hr
  | request l m' => exact holders_subset_request l t m' hr
  | release l m' =>
      have hx : (r, m) ≠ (t, m') := fun he => hne (Prod.mk.inj he).1
      exact mem_holders_settle ((List.mem_erase_of_ne hx).mpr hr)
  | abandon l =>
      refine mem_holders_settle (List.mem_filter.mpr ⟨hr, ?_⟩)
      simpa only [ne_eq, decide_not, Bool.not_eq_true', decide_eq_false_iff_not] using hne
  | trans _ _ ih1 ih2 => exact ih2 (ih1 hr)

end Release

end RwLock

end FairLock
