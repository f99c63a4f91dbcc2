import Rathole.Relay.Inversion

/-!
# Who Can Take a Tunnel Out of the Table

The table is written on behalf of a websocket twice: when it registers, and
when the cleanup task processes the id it left behind. A registration needs
an accepted token; the cleanup does not ask. A socket whose first message was
refused also falls through to the end of `handle_socket` and sends its id,
and the cleanup task removes whatever is registered under that id.

`accredit` is the table as the registered sockets alone write it, a shadow
that runs beside the relay. The relay keeps to it exactly as long as every
id of a refused socket finds no tunnel when it is processed. The one kind of
refusal that is always harmless is text that does not parse, after which
`handle_socket` returns early.

## Main definitions

* `Relay.isRegistered`: The socket's first message was accepted.
* `Relay.accredit`: What an action does to the table for registered sockets.
* `Relay.Vacant`: A refused socket's id finds no tunnel.

## Theorems

* `registered_of_step`: A socket past its first message is a registered one.
* `accredit_iff_vacant`: One step keeps to the shadow exactly if it is vacant.
* `follows_accredited_iff`: So does a run.
* `refused_socket_unregisters`: A run that does not.
-/

namespace Rathole

open FairLock Transition

namespace Relay

/-- The socket's first message was a `Register` with an accepted token. -/
def isRegistered (s : Relay) (n : Nat) : Bool :=
  match s.sockets[n]? with
  | some x => x.registered
  | none => false

/-- What an action does to the table on behalf of registered sockets. -/
def accredit (s : Relay) (a : Action) (m : HashMap String Nat) : HashMap String Nat :=
  match a with
  | .enlist n => match s.sockets[n]? with
    | some x => if x.registered then m.insert x.id n else m
    | none => m
  | .cleanupRemove => match s.cleanup with
    | .removing n id => if s.isRegistered n then m.erase id else m
    | _ => m
  | _ => m

/-- When the cleanup task removes the id of a socket that is not registered,
    no tunnel is under it. -/
def Vacant (s : Relay) (a : Action) : Prop :=
  match a with
  | .cleanupRemove => match s.cleanup with
    | .removing n id => s.isRegistered n = true ∨ s.tunnels.lookup id = none
    | _ => True
  | _ => True

instance (s : Relay) (a : Action) : Decidable (Vacant s a) := by
  unfold Vacant
  split
  · split <;> infer_instance
  · infer_instance

/-- A socket is between its first message and the end of its loop. -/
def Admitted (x : Socket) : Prop :=
  match x.pc with
  | .onlining | .enlisting | .looping | .pushing _ => True
  | _ => False

/-- Whoever was let past the first message is registered. -/
def RegistrationInv (s : Relay) : Prop :=
  ∀ (n : Nat) (x : Socket), s.sockets[n]? = some x → Admitted x → x.registered = true

variable {env : Env} {s t : Relay} {a : Action}

theorem registrationInv_initial : RegistrationInv initial := by
  intro n x hx
  simp only [initial, List.getElem?_nil, reduceCtorEq] at hx

/-- The first message decides, and nothing later changes it. -/
theorem registered_of_step (hi : RegistrationInv s) (h : step env s a = some t) :
    RegistrationInv t := by
  intro n z hz hadm
  rcases socket_of_step h hz with hsame | ⟨w, hw, hmove⟩ | ⟨_, hnew⟩
  · exact hi n z hsame hadm
  · have hold : Admitted w → w.registered = true := hi n w hw
    cases hmove with
    | queued msg hl => exact hold hadm
    | @first m hpc =>
        -- Of what the first message can lead to only `onlining` goes on.
        rcases firstPc_cases env m with hf | hf | hf
        · simp only [Admitted, hf] at hadm
        · simp only [hf, decide_true]
        · simp only [Admitted, hf] at hadm
    | online hpc => exact hold (by simp only [Admitted, hpc])
    | enlist hpc => exact hold (by simp only [Admitted, hpc])
    | forward hpc _ => exact hold (by simp only [Admitted, hpc])
    | pushed hpc => exact hold (by simp only [Admitted, hpc])
    | message hpc => exact hold (by simp only [Admitted, hpc])
    | pushFailed hpc => exact absurd hadm id
    | receiveFailed hpc => exact absurd hadm id
    | disconnected hpc => exact absurd hadm id
    | idle hpc _ => exact absurd hadm id
    | report hpc => exact absurd hadm id
  · rw [hnew] at hadm
    exact absurd hadm id

/-- One step keeps the table to what the registered sockets make of it
    exactly if it removes nothing for another socket. -/
theorem accredit_iff_vacant (hi : RegistrationInv s) (h : step env s a = some t) :
    t.tunnels = accredit s a s.tunnels ↔ Vacant s a := by
  by_cases hen : ∃ n, a = .enlist n
  · rcases hen with ⟨n, ha⟩
    subst ha
    rcases enlist_cases (act_of_step h) with ⟨x, hx, hpc, _, ht⟩
    -- Who gets this far has registered.
    have hreg := hi n x hx (by simp only [Admitted, hpc])
    simp only [accredit, Vacant, hx, hreg, if_true, iff_true]
    rw [ht]
  · by_cases hcl : a = .cleanupRemove
    · subst hcl
      rcases cleanupRemove_cases (act_of_step h) with ⟨n, id, hc, _, ht⟩
      have htun : t.tunnels = s.tunnels.erase id := by rw [ht]
      simp only [accredit, Vacant, hc, htun]
      -- A registered socket may remove its id; another may not find one.
      cases hreg : s.isRegistered n with
      | true => simp only [if_true, true_or]
      | false =>
          simp only [Bool.false_eq_true, if_false, false_or]
          exact HashMap.erase_eq_self_iff _ _
    · have heq := tunnels_of_step h (fun n hn => hen ⟨n, hn⟩) hcl
      -- Neither side of the equation moves.
      have hacc : accredit s a s.tunnels = s.tunnels := by
        cases a with
        | enlist n => exact absurd ⟨n, rfl⟩ hen
        | cleanupRemove => exact absurd rfl hcl
        | _ => rfl
      have hvac : Vacant s a := by
        cases a with
        | cleanupRemove => exact absurd rfl hcl
        | _ => trivial
      rw [heq, hacc]
      simp only [hvac]

/-- Along a run the table is what the registered sockets make of it, in every
    state, exactly if no id of a refused socket ever finds a tunnel. -/
theorem follows_accredited_iff (env : Env) (as : List Action) :
    Follows (step env) accredit tunnels initial ∅ as ↔ Legal (step env) Vacant initial as :=
  follows_iff_legal (fun _ _ _ hi h => registered_of_step hi h)
    (fun _ _ _ hi h => accredit_iff_vacant hi h) as initial registrationInv_initial

/-- Tunnel `a` registers; a second socket opens `/register/a` and closes; its
    id goes to the cleanup task. -/
def refusedRun : List Action :=
  [.upgrade "a", .first 0 (.message (.text "reg")), .online 0 true, .enlist 0,
    .upgrade "a", .first 1 .closed, .report 1, .cleanupTake, .cleanupOffline true,
    .cleanupRemove]

/-- A socket that sent nothing has the tunnel of another one removed. -/
theorem refused_socket_unregisters :
    ¬ ∀ (env : Env) (as : List Action), (exec (step env) initial as).isSome →
      Follows (step env) accredit tunnels initial ∅ as := by
  intro h
  have hf := h .oneToken refusedRun (by decide)
  rw [follows_accredited_iff] at hf
  exact absurd hf (by decide)

end Relay

end Rathole
