import Rathole.Server.Inversion

/-!
# Hot Reload

Whether a control channel outlives the configuration its client was
authenticated against. A change of the configuration drops the control channel
of its service, so a channel that is installed stays current. But a handshake
clones the configuration of its service before it waits for the client's auth,
and installs its channel much later: a change that falls in between finds no
channel to drop.

Control channels are current as long as every handshake installs its channel
with a clone that is.

## Main definitions

* `Server.Consistent`: Every control channel has the configuration that is in
  `services`.
* `Server.InstallsCurrent`: A handshake that is completed does so with a
  configuration that is in `services`, or that the reload at work will drop.

## Theorems

* `currentInv_of_step`: What one step preserves.
* `channels_current`: What a run preserves.
* `deleted_service_connected`: A control channel of a service that was
  deleted.
-/

namespace Rathole

open FairLock Transition

namespace Server


variable {β : Type}

/-- A change of the configuration has been made in `services` but not yet in
    `control_channels`, where it will drop the channel of the service. -/
def Dropping (s : Server β) (d : Digest β) : Prop :=
  s.main = .dropping d true ∨ s.main = .dropping d false

instance [DecidableEq β] (s : Server β) (d : Digest β) : Decidable (s.Dropping d) :=
  inferInstanceAs (Decidable (_ ∨ _))

/-- If no change is half applied, every control channel has the configuration
    that `services` has under its digest. -/
def Consistent [DecidableEq β] (s : Server β) : Prop :=
  (∀ d, ¬ s.Dropping d) → ∀ y ∈ s.channels.items, ∃ x, s.handles[y.2.2]? = some x ∧
    s.services.lookup y.1 = some x.service

/-- A handshake that is completed has a clone of the present configuration, or
    a change of its service is half applied. -/
def InstallsCurrent [DecidableEq β] (s : Server β) (a : Action β) : Prop :=
  match a with
  | .write i => match s.conns[i]? with
    | some { phase := .sendingAck d _ cfg, inbox := _, sent := _ } =>
        s.services.lookup d = some cfg ∨ s.Dropping d
    | _ => True
  | _ => True

instance [DecidableEq β] (s : Server β) (a : Action β) : Decidable (s.InstallsCurrent a) := by
  unfold InstallsCurrent
  split
  · split <;> infer_instance
  · infer_instance

/-- Every control channel has a handle, with the present configuration of its
    service unless a change of it is half applied. -/
def CurrentInv [DecidableEq β] (s : Server β) : Prop :=
  ∀ y ∈ s.channels.items, ∃ x, s.handles[y.2.2]? = some x ∧
    (s.services.lookup y.1 = some x.service ∨ s.Dropping y.1)

variable {E : Env β} {s t : Server β} {a : Action β}

theorem not_dropping {pc : MainPc β} {d : Digest β} (hm : s.main = pc)
    (hpc : ∀ d held, pc ≠ .dropping d held) : ¬ s.Dropping d := by
  intro h
  rcases h with h | h
  · exact hpc d true (hm.symm.trans h)
  · exact hpc d false (hm.symm.trans h)

theorem dropping_of_main {d : Digest β} {held : Bool} (h : s.main = .dropping d held) :
    s.Dropping d := by
  cases held with
  | true => exact Or.inl h
  | false => exact Or.inr h

theorem dropping_iff {d d' : Digest β} {held : Bool} (h : s.main = .dropping d held) :
    s.Dropping d' ↔ d' = d := by
  constructor
  · intro hd
    rcases hd with hd | hd
    · rw [h, MainPc.dropping.injEq] at hd
      exact hd.1.symm
    · rw [h, MainPc.dropping.injEq] at hd
      exact hd.1.symm
  · intro hd
    rw [hd]
    exact dropping_of_main h

variable [DecidableEq β]

theorem currentInv_initial (services : HashMap (Digest β) (ServerServiceConfig (List β))) :
    CurrentInv (initial services) :=
  fun _ hy => absurd hy List.not_mem_nil

/-- A change concerns no service but its own. -/
theorem lookup_apply_ne {e : ServerServiceChange β} {d : Digest β} (hd : d ≠ e.digest E)
    (services : HashMap (Digest β) (ServerServiceConfig (List β))) :
    (e.apply E services).lookup d = services.lookup d := by
  cases e with
  | add cfg => exact AList.lookup_insert_ne hd
  | delete name => exact AList.lookup_erase_ne hd

/-- What a step leaves of the channels that are there: they are as current as
    they were. -/
theorem current_of_change (hi : CurrentInv s) (hch : Change E s t a)
    {y : Digest β × Digest β × Nat} (hy : y ∈ s.channels.items) (hy' : y ∈ t.channels.items) :
    ∃ x, s.handles[y.2.2]? = some x ∧
      (t.services.lookup y.1 = some x.service ∨ t.Dropping y.1) := by
  rcases hi y hy with ⟨x, hx, hcur⟩
  refine ⟨x, hx, ?_⟩
  -- Outside of a reload nothing is dropped, so the configuration is current.
  have hlookup : ∀ pc : MainPc β, s.main = pc → (∀ d held, pc ≠ .dropping d held) →
      s.services.lookup y.1 = some x.service := by
    intro pc hm hpc
    rcases hcur with hcur | hdrop
    · exact hcur
    · exact absurd hdrop (not_dropping hm hpc)
  have hkeep : t.services = s.services → t.main = s.main →
      t.services.lookup y.1 = some x.service ∨ t.Dropping y.1 := by
    intro hs hm
    rw [hs, Dropping, hm]
    exact hcur
  cases hch with
  | still h => exact hkeep h.services h.main
  | requeued h _ => exact hkeep h.services h.main
  | locked _ _ _ hs _ hm => exact hkeep hs hm
  | inserted _ _ h => exact hkeep h.services h.main
  | main hm _ _ hs _ _ =>
      rw [hs]
      exact Or.inl (hlookup _ hm (fun _ _ => by simp only [ne_eq, reduceCtorEq, not_false_eq_true]))
  | @applied e held hm hdrop hs _ _ =>
      by_cases hd : y.1 = e.digest E
      · exact Or.inr ((dropping_iff hdrop).mpr hd)
      · rw [hs, lookup_apply_ne hd]
        exact Or.inl
          (hlookup _ hm (fun _ _ => by simp only [ne_eq, reduceCtorEq, not_false_eq_true]))
  | @dropped d held hm _ hchannels hs _ =>
      -- The channel that is left belongs to another service.
      rw [hchannels, MultiMap.mem_remove1_iff] at hy'
      rw [hs]
      rcases hcur with hcur | hdrop
      · exact Or.inl hcur
      · exact absurd ((dropping_iff hm).mp hdrop) hy'.2
  | cleared _ _ hchannels _ _ =>
      rw [hchannels] at hy'
      exact absurd hy' List.not_mem_nil

/-- The step lemma: handshakes that install current channels keep all of them
    current. -/
theorem currentInv_of_step (hi : CurrentInv s) (hok : s.InstallsCurrent a)
    (h : s.step E a = some t) : CurrentInv t := by
  intro y hy
  rcases channel_of_step h hy with hold | ⟨i, c, cfg, ha, hc, hp, hn, hins⟩
  · rcases current_of_change hi (act_of_step h).1 hold hy with ⟨x, hx, hcur⟩
    rcases handle_survives h hx with ⟨x', hx', hsame⟩
    rw [Prod.mk.injEq] at hsame
    rw [← hsame.2] at hcur
    exact ⟨x', hx', hcur⟩
  · -- The channel is new, and so is its handle.
    refine ⟨{ owner := y.1, service := cfg, queue := [], pooling := true }, ?_, ?_⟩
    · rw [hins.handles, hn, List.getElem?_concat_length]
    · rcases c with ⟨phase, inbox, sent⟩
      simp only at hp
      rw [hp] at hc
      simp only [InstallsCurrent, ha, hc] at hok
      rw [hins.services, Dropping, hins.main]
      exact hok

/-- In every state of a run in which handshakes install current channels, and
    in which no change is half applied, the configuration of every control
    channel is that in `services`. -/
theorem channels_current (E : Env β)
    (services : HashMap (Digest β) (ServerServiceConfig (List β))) (s : Server β)
    (h : Reaches (step E) InstallsCurrent (initial services) s) : Consistent s := by
  have hinv : CurrentInv s :=
    h.invariant (fun _ _ _ hi hok hst => currentInv_of_step hi hok hst)
      (currentInv_initial services)
  intro hidle y hy
  rcases hinv y hy with ⟨x, hx, hcur⟩
  rcases hcur with hcur | hdrop
  · exact ⟨x, hx, hcur⟩
  · exact absurd hdrop (hidle y.1)

/-! ### Two runs -/

/-- A service as validation leaves it. -/
def sshService : ServerServiceConfig (List UInt8) where
  serviceType := .tcp
  name := sampleName
  bindAddr := "0.0.0.0:2222"
  token := some sampleToken
  nodelay := none

/-- One service alone. -/
def sshServices : HashMap (Digest UInt8) (ServerServiceConfig (List UInt8)) :=
  (∅ : HashMap (Digest UInt8) (ServerServiceConfig (List UInt8))).insert sampleServiceDigest
    sshService

/-- Plain bytes, and one nonce for all connections. -/
def sampleEnv : Env UInt8 where
  alphabet := plainBytes
  nonce := fun _ => sampleNonce

/-- A client says hello, and the server clones the configuration. -/
def greeted : List (Action UInt8) :=
  [.accept,
    .arrive 0 ((Hello.controlChannelHello currentProtoVersion sampleServiceDigest).serialize
      plainBytes),
    .read 0, .write 0, .lookup 0]

/-- The client proves that it knows the token, and is let in. -/
def letIn : List (Action UInt8) :=
  [.arrive 0 (Auth.mk sampleSessionKey).serialize, .read 0, .lock 0, .write 0]

/-- The service is deleted from the configuration. -/
def deleted : List (Action UInt8) :=
  [.reload (.delete sampleName), .reloadServices, .reloadChannels]

/-- A service is deleted while its client is being let in: the channel is
    installed, and the service is gone. -/
theorem deleted_service_connected :
    ¬ ∀ (E : Env UInt8) (services : HashMap (Digest UInt8) (ServerServiceConfig (List UInt8)))
      (s : Server UInt8), Reaches (step E) (fun _ _ => True) (initial services) s →
        Consistent s := by
  intro h
  rcases hrun : exec (step sampleEnv) (initial sshServices) (greeted ++ deleted ++ letIn) with _ | s
  · exact absurd hrun (by decide)
  · have hmain : (exec (step sampleEnv) (initial sshServices) (greeted ++ deleted ++ letIn)).map
        (fun s => s.main) = some .serving := by decide
    have hchannels : (exec (step sampleEnv) (initial sshServices)
        (greeted ++ deleted ++ letIn)).map (fun s => s.channels.items) =
        some [(sampleServiceDigest, sampleSessionKey, 0)] := by decide
    have hservices : (exec (step sampleEnv) (initial sshServices)
        (greeted ++ deleted ++ letIn)).map (fun s => s.services.lookup sampleServiceDigest) =
        some none := by decide
    rw [hrun, Option.map_some, Option.some.injEq] at hmain hchannels hservices
    have hidle : ∀ d, ¬ s.Dropping d := fun d =>
      not_dropping hmain (fun _ _ => by simp only [ne_eq, reduceCtorEq, not_false_eq_true])
    have hin : (sampleServiceDigest, sampleSessionKey, 0) ∈ s.channels.items := by
      rw [hchannels]
      exact List.mem_singleton.mpr rfl
    rcases h sampleEnv sshServices s (reaches_of_exec _ _ _ hrun) hidle _ hin with ⟨x, _, hx⟩
    rw [hservices] at hx
    simp only [reduceCtorEq] at hx

/-- A client that was let in before, and is there when the run ends. -/
theorem channels_current_let_in :
    ∃ s, Reaches (step sampleEnv) InstallsCurrent (initial sshServices) s ∧
      s.channels.items = [(sampleServiceDigest, sampleSessionKey, 0)] ∧ Consistent s := by
  rcases hrun : exec (step sampleEnv) (initial sshServices) (greeted ++ letIn) with _ | s
  · exact absurd hrun (by decide)
  · have hr : Reaches (step sampleEnv) InstallsCurrent (initial sshServices) s :=
      reaches_of_legal (greeted ++ letIn) _ _ (by decide) hrun
    have hchannels : (exec (step sampleEnv) (initial sshServices) (greeted ++ letIn)).map
        (fun s => s.channels.items) = some [(sampleServiceDigest, sampleSessionKey, 0)] := by
      decide
    rw [hrun, Option.map_some, Option.some.injEq] at hchannels
    exact ⟨s, hr, hchannels, channels_current sampleEnv sshServices s hr⟩

end Server

end Rathole
