import Rathole.Process.Services

/-!
# Sound Configurations

No run of a program from a sound configuration ends in a panic that is the
configuration's doing. The invariant says of a server that it can do its
handshakes, and of its services that they have tokens and are not HTTP; of a
client, that a connect does not panic once the address has been resolved.

## Main definitions

* `ServerServiceConfig.Fit`, `ClientServiceConfig.Fit`: A service that can be
  run.
* `Process.Safe`: The invariant.

## Theorems

* `Process.safe_startServer`, `Process.safe_startClient`: The start.
* `Process.safe_of_step`: Every step keeps it.
-/


namespace Rathole

open FairLock Completion Transition

variable {β : Type} [DecidableEq β]

/-! ### A sound configuration -/

section Safe

variable (E : Server.Env β) (P : Parsers) (b : Build) (later : List (Config (List β)))

/-- A server with this transport can do without the branches that panic over
    the service. -/
def ServerServiceConfig.Fit (c : TransportConfig) (cfg : ServerServiceConfig (List β)) : Prop :=
  cfg.token.isSome = true ∧ (Transport.Answers P c → cfg.serviceType ≠ .http)

/-- A client can run the service, and connects for it without a panic. -/
def ClientServiceConfig.Fit (c : ClientConfig (List β)) (cfg : ClientServiceConfig (List β)) :
    Prop :=
  cfg.token.isSome = true ∧ cfg.retryInterval.isSome = true ∧ (HasPort c.remoteAddr →
    Transport.Opens P c.transport c.remoteAddr ∧ c.transport.tcp.ProxyComplete)

/-- What a sound configuration leads to. -/
def Process.Safe : Process β → Prop
  | .starting p config => config.Sound E P b later p ∧ config.Checked
  | .serving t s => ∃ c, t.Of c ∧ c.IdentitySet ∧ (s.conns ≠ [] → Transport.Answers P c) ∧
      (∀ cfg, ServerAdds later cfg → cfg.Fit P c) ∧
      s.Carries (fun cfg => cfg.Fit P c)
  | .connecting t client tasks => t.Of client.transport ∧ client.transport.tcp.ProxyKnown ∧
      (∀ cfg, ClientAdds later cfg → cfg.Fit P client) ∧
      ∀ k ∈ tasks, k.service.Fit P client ∧ k.task.stage ≠ .aborted ∧
        (k.Resolved → HasPort client.remoteAddr)
  | .panicked p => ¬ p.OfConfig
  | _ => True

end Safe

namespace Process

variable {E : Server.Env β} {P : Parsers} {b : Build} {later : List (Config (List β))}

theorem not_configPanic_of_safe {s : Process β} (h : s.Safe E P b later) : ¬ s.ConfigPanic := by
  cases s with
  | panicked p => exact h
  | _ => exact id

/-- A computation that does not panic over the configuration leads on to what
    is safe. -/
theorem safe_ofCompletion {x : Completion Panic (Process β)} (hp : ¬ Panics Panic.OfConfig x)
    (hok : ∀ s, x = .ok s → s.Safe E P b later) : (ofCompletion x).Safe E P b later := by
  cases hx : x with
  | ok s => exact hok s hx
  | error f =>
      cases f with
      | error => exact trivial
      | panic p =>
          intro hof
          exact hp ⟨p, hx, hof⟩

theorem token_of_serverAdds (hlater : ∀ c ∈ later, c.Checked)
    {cfg : ServerServiceConfig (List β)} (h : ServerAdds later cfg) : cfg.token.isSome = true := by
  rcases h with ⟨c, hc, server, hserver, name, hname⟩
  rcases (hlater c hc).1 server hserver with ⟨raw, hraw⟩
  exact (lookup_validateServerConfig hraw hname).2

theorem checked_of_clientAdds (hlater : ∀ c ∈ later, c.Checked)
    {cfg : ClientServiceConfig (List β)} (h : ClientAdds later cfg) :
    cfg.token.isSome = true ∧ cfg.retryInterval.isSome = true := by
  rcases h with ⟨c, hc, client, hclient, name, hname⟩
  rcases (hlater c hc).2 client hclient with ⟨raw, hraw⟩
  exact (service_of_validateClientConfig hraw hname).2

/-! #### The start -/

theorem safe_startRelay {w : World} {config : Config (List β)}
    (h : config.Sound E P b later .relay) :
    (ofCompletion (startRelay w config)).Safe E P b later := by
  refine safe_ofCompletion ?_ (fun s hs => ?_)
  · have hserver : config.server ≠ none := Option.isSome_iff_ne_none.mp h
    simp only [startRelay, panics_bind, panics_unwrap, hserver, not_panics_ensure,
      not_panics_pure, false_and, and_false, exists_false, or_self, not_false_eq_true]
  · simp only [startRelay, bind_eq_ok, pure_eq_ok] at hs
    rcases hs with ⟨_, _, _, _, hs⟩
    rw [← hs]
    exact trivial

theorem safe_startServer {w : World} {config : Config (List β)}
    (h : config.Sound E P b later .server) (hc : config.Checked)
    (hlater : ∀ c ∈ later, c.Checked) :
    (ofCompletion (startServer E P b w config)).Safe E P b later := by
  refine safe_ofCompletion ?_ (fun s hs => ?_)
  · rintro hp
    simp only [startServer, panics_bind, not_panics_okOr, not_panics_ensure, not_panics_pure,
      not_panics_toSocketAddr, and_false, exists_false, or_false, false_or, okOr_eq_ok] at hp
    rcases hp with ⟨server, hserver, hp⟩
    have hs := h server hserver
    exact Transport.exists_panics_new.mp ⟨w, hp⟩ ⟨hs.compiled, hs.password⟩
  · simp only [startServer, bind_eq_ok, okOr_eq_ok, ensure_eq_ok, pure_eq_ok] at hs
    rcases hs with ⟨server, hserver, t, ht, _, haddr, _, _, hs⟩
    have hsound := h server hserver
    have hport := (toSocketAddr_eq_ok.mp haddr).1
    rcases Transport.of_new ht with ⟨hof, hcreatable⟩
    rcases hc.1 server hserver with ⟨raw, hraw⟩
    rw [← hs]
    have hadds : ∀ cfg, ServerAdds later cfg → cfg.Fit P server.transport := by
      intro cfg hcfg
      exact ⟨token_of_serverAdds hlater hcfg, fun ha =>
        hsound.service ⟨hport, hcreatable, ha⟩ cfg (Or.inr hcfg)⟩
    refine ⟨server.transport, hof, hsound.identity hport, fun hne => absurd rfl hne, hadds, ?_⟩
    constructor
    · intro d cfg hcfg
      rcases Server.exists_of_lookup_generateServiceHashmap hcfg with ⟨name, hname, _⟩
      exact ⟨(lookup_validateServerConfig hraw hname).2, fun ha =>
        hsound.service ⟨hport, hcreatable, ha⟩ cfg (Or.inl ⟨d, hcfg⟩)⟩
    · intro i c cfg hi
      simp only [Server.initial, List.getElem?_nil, reduceCtorEq] at hi
    · intro cfg hmain
      simp only [Server.initial, reduceCtorEq] at hmain

omit [DecidableEq β] in
theorem spawn_eq_ok {cfg : ClientServiceConfig (List β)} {k : ControlTask β} :
    spawn cfg = .ok k ↔ cfg.retryInterval.isSome = true ∧ k = ControlTask.new cfg := by
  simp only [spawn, bind_eq_ok, unwrap_eq_ok, pure_eq_ok, exists_and_right,
    Option.isSome_iff_exists]
  exact and_congr_right (fun _ => eq_comm)

omit [DecidableEq β] in
/-- With all retry intervals set, each service gets its task. -/
theorem mapM_spawn : ∀ (l : List ((_ : List β) × ClientServiceConfig (List β))),
    (∀ u ∈ l, u.2.retryInterval.isSome = true) →
    l.mapM (fun u => spawn u.2) = .ok (l.map (fun u => ControlTask.new u.2)) := by
  intro l
  induction l with
  | nil => intro _; rfl
  | cons u l ih =>
      intro h
      have hu : spawn u.2 = .ok (ControlTask.new u.2) :=
        spawn_eq_ok.mpr ⟨h u List.mem_cons_self, rfl⟩
      rw [List.mapM_cons, hu, ih (fun v hv => h v (List.mem_cons_of_mem u hv))]
      rfl

/-- The tasks a checked client starts with. -/
theorem mapM_spawn_services {raw client : ClientConfig (List β)}
    (hraw : validateClientConfig raw = .ok client) :
    client.services.entries.mapM (fun u => spawn u.2) =
      .ok (client.services.entries.map (fun u => ControlTask.new u.2)) :=
  mapM_spawn _ (fun _ hu =>
    (service_of_validateClientConfig hraw (AList.mem_lookup_iff.mpr hu)).2.2)

theorem not_resolved_new (cfg : ClientServiceConfig (List β)) :
    ¬ (ControlTask.new cfg).Resolved := by
  rintro (hres | hest)
  · cases hres
  · cases hest

theorem safe_startClient {w : World} {config : Config (List β)}
    (h : config.Sound E P b later .client) (hc : config.Checked)
    (hlater : ∀ c ∈ later, c.Checked) :
    (ofCompletion (startClient P b w config)).Safe E P b later := by
  refine safe_ofCompletion ?_ (fun s hs => ?_)
  · rintro hp
    simp only [startClient, panics_bind, not_panics_okOr, false_or, okOr_eq_ok,
      not_panics_pure, and_false, exists_false, or_false] at hp
    rcases hp with ⟨client, hclient, hp⟩
    have hs := h client hclient
    rcases hc.2 client hclient with ⟨raw, hraw⟩
    rcases hp with hnew | ⟨_, _, hspawn⟩
    · exact Transport.exists_panics_new.mp ⟨w, hnew⟩ ⟨hs.compiled, hs.password⟩
    · rw [mapM_spawn_services hraw] at hspawn
      exact not_panics_ok _ hspawn
  · simp only [startClient, bind_eq_ok, okOr_eq_ok, pure_eq_ok] at hs
    rcases hs with ⟨client, hclient, t, ht, tasks, htasks, hs⟩
    have hsound := h client hclient
    rcases Transport.of_new ht with ⟨hof, hcreatable⟩
    rcases hc.2 client hclient with ⟨raw, hraw⟩
    rcases validateClientConfig_ok hraw with ⟨_, _, htransport, _⟩
    rw [mapM_spawn_services hraw, Except.ok.injEq] at htasks
    rw [← hs, ← htasks]
    refine ⟨hof, fun url hurl => proxy_of_validateTransportConfig htransport hurl, ?_, ?_⟩
    · intro cfg hcfg
      rcases checked_of_clientAdds hlater hcfg with ⟨htoken, hretry⟩
      exact ⟨htoken, hretry, fun hport =>
        hsound.connect ⟨hport, hcreatable, Or.inr ⟨cfg, hcfg⟩⟩⟩
    · intro k hk
      rcases List.mem_map.mp hk with ⟨u, hu, hnew⟩
      rcases service_of_validateClientConfig hraw (AList.mem_lookup_iff.mpr hu) with
        ⟨_, htoken, hretry⟩
      rw [← hnew]
      refine ⟨⟨htoken, hretry, fun hport => hsound.connect ⟨hport, hcreatable, Or.inl ?_⟩⟩,
        ?_, fun hres => absurd hres (not_resolved_new u.2)⟩
      · exact List.ne_nil_of_mem hu
      · simp only [ControlTask.new, Client.Task.new, ne_eq, reduceCtorEq, not_false_eq_true]

/-! #### A server -/

theorem safe_of_accept {w : World} {t : Transport} {s : Server β} {u : Process β}
    (hs : (Process.serving t s).Safe E P b later) (h : accept E P w t s = some u) :
    u.Safe E P b later := by
  rcases hs with ⟨c, hof, hidentity, hanswers, hadds, hcarries⟩
  unfold accept at h
  cases hm : s.main with
  | serving =>
      rcases hx : t.handshake P w with f | _
      · cases f with
        | error =>
            simp only [hm, hx, Option.some.injEq] at h
            rw [← h]
            exact ⟨c, hof, hidentity, hanswers, hadds, hcarries⟩
        | panic p =>
            simp only [hm, hx, Option.some.injEq] at h
            rw [← h]
            intro hp
            exact (Transport.panics_handshake hof).mp ⟨p, hx, hp⟩ hidentity
      · simp only [hm, hx, Option.map_eq_some_iff] at h
        rcases h with ⟨s', hstep, hu⟩
        rw [← hu]
        refine ⟨c, hof, hidentity, fun _ => ?_, hadds,
          Server.carries_of_step hcarries hstep (fun cfg ha => by cases ha)⟩
        exact Transport.answers_of_handshake hof hx
  | _ => simp only [hm, reduceCtorEq] at h

theorem safe_of_serve {t : Transport} {s : Server β} {a : Server.Action β} {u : Process β}
    (hs : (Process.serving t s).Safe E P b later)
    (hok : ∀ cfg, a = .reload (.add cfg) → ServerAdds later cfg)
    (h : serve E t s a = some u) : u.Safe E P b later := by
  rcases hs with ⟨c, hof, hidentity, hanswers, hadds, hcarries⟩
  unfold serve at h
  by_cases ha : a = .accept
  · simp only [if_pos ha, reduceCtorEq] at h
  · simp only [if_neg ha, Option.map_eq_some_iff] at h
    rcases h with ⟨s', hstep, hu⟩
    by_cases hab : s'.aborted = true
    · -- A connection that got as far has a token, and no HTTP service.
      rcases Server.service_of_aborted hcarries hstep hab with ⟨hne, cfg, hfit, htoken | hhttp⟩
      · have hsome := hfit.1
        simp only [htoken, Option.isSome_none, Bool.false_eq_true] at hsome
      · exact absurd hhttp (hfit.2 (hanswers hne))
    · rw [if_neg hab] at hu
      rw [← hu]
      refine ⟨c, hof, hidentity, fun hne => hanswers (fun hnil => hne ?_), hadds,
        Server.carries_of_step hcarries hstep (fun cfg hadd => hadds cfg (hok cfg hadd))⟩
      exact Server.conns_eq_nil_of_step hstep ha hnil

/-! #### A client -/

section Clients

variable {w : World} {t : Transport} {client : ClientConfig (List β)}
  {tasks : List (ControlTask β)} {i : Nat} {k : ControlTask β} {u : Process β}

/-- A task that acts does not panic, as long as the transport completes its
    connects, and resolves addresses that have a port. -/
theorem safe_of_act {a : Client.TaskAction β}
    (hs : (Process.connecting t client tasks).Safe E P b later) (hk : tasks[i]? = some k)
    (hport : ∀ hs, k.task.stage = .running (.handshake hs) → hs.pc = .resolving →
      a = .run .advance → HasPort client.remoteAddr)
    (hpanic : ∀ hs, k.task.stage = .running (.handshake hs) → a = .run .panic →
      hs.pc ≠ .connecting)
    (h : (k.act E.alphabet client.heartbeatTimeout a).map (acted client t tasks i) = some u) :
    u.Safe E P b later := by
  rcases hs with ⟨hof, hknown, hadds, htasks⟩
  rcases htasks k (List.mem_of_getElem? hk) with ⟨hfit, hrun, hres⟩
  simp only [Option.map_eq_some_iff] at h
  rcases h with ⟨k', hact, hu⟩
  have hab : k'.task.stage ≠ .aborted := by
    intro hab
    rcases ControlTask.aborted_of_act hact hab with hold | ⟨hs, hstage, ha, hpc | htoken⟩
    · exact hrun hold
    · exact hpanic hs hstage ha hpc
    · have hsome := hfit.1
      simp only [htoken, Option.isSome_none, Bool.false_eq_true] at hsome
  have hres' : k'.Resolved → HasPort client.remoteAddr := by
    intro hr
    rcases ControlTask.resolved_of_act hact hr with hold | ⟨hs, hstage, hpc, ha⟩
    · exact hres hold
    · exact hport hs hstage hpc ha
  have hu' : u = .connecting t client (tasks.set i k') := by
    rw [← hu]
    unfold acted
    cases hstage : k'.task.stage with
    | aborted => exact absurd hstage hab
    | _ => rfl
  rw [hu']
  refine ⟨hof, hknown, hadds, fun x hx => ?_⟩
  rcases List.mem_or_eq_of_mem_set hx with hold | hnew
  · exact htasks x hold
  · rw [hnew, ControlTask.service_of_act hact]
    exact ⟨hfit, hab, hres'⟩

/-- A connect to a resolved address does not panic over the configuration. -/
theorem not_panics_connect (hs : (Process.connecting t client tasks).Safe E P b later)
    (hk : tasks[i]? = some k) (hres : k.Resolved) :
    ¬ Panics Panic.OfConfig (t.connect P w (remote client)) := by
  rcases hs with ⟨hof, hknown, _, htasks⟩
  rcases htasks k (List.mem_of_getElem? hk) with ⟨hfit, _, hport⟩
  intro hp
  exact (Transport.panics_connect (remote client) hof (hport hres) hknown).mp hp
    (hfit.2.2 (hport hres))

theorem safe_of_dial (hs : (Process.connecting t client tasks).Safe E P b later)
    (hk : tasks[i]? = some k) (h : dial E P client w t tasks i k = some u) :
    u.Safe E P b later := by
  unfold dial at h
  cases hstage : k.task.stage with
  | running r =>
      cases r with
      | looping key l => simp only [hstage, reduceCtorEq] at h
      | handshake hs' =>
          simp only [hstage] at h
          cases hpc : hs'.pc with
          | resolving =>
              simp only [hpc] at h
              rcases hx : toSocketAddr w client.remoteAddr with f | _
              · cases f with
                | error =>
                    simp only [hx] at h
                    exact safe_of_act hs hk (fun _ _ _ ha => by cases ha)
                      (fun _ _ ha => by cases ha) h
                | panic p =>
                    exact absurd ⟨p, hx, trivial⟩
                      (not_panics_toSocketAddr (Q := fun _ => True) w client.remoteAddr)
              · simp only [hx] at h
                exact safe_of_act hs hk (fun _ _ _ _ => (toSocketAddr_eq_ok.mp hx).1)
                  (fun _ _ ha => by cases ha) h
          | connecting =>
              have hres : k.Resolved := Or.inl (by rw [hstage]; exact decide_eq_true (by
                simp only [hpc, ne_eq, reduceCtorEq, not_false_eq_true]))
              have hresolving : ∀ hs, k.task.stage = .running (.handshake hs) →
                  hs.pc = .resolving → False := by
                intro hs hstage' hpc'
                rw [hstage, Client.Stage.running.injEq, Client.Run.handshake.injEq] at hstage'
                rw [← hstage', hpc] at hpc'
                cases hpc'
              simp only [hpc] at h
              rcases hx : t.connect P w (remote client) with f | _
              · cases f with
                | error =>
                    simp only [hx] at h
                    exact safe_of_act hs hk (fun x hx hp _ => (hresolving x hx hp).elim)
                      (fun _ _ ha => by cases ha) h
                | panic p =>
                    simp only [hx, Option.some.injEq] at h
                    rw [← h]
                    intro hof
                    exact not_panics_connect hs hk hres ⟨p, hx, hof⟩
              · simp only [hx] at h
                exact safe_of_act hs hk (fun x hx hp _ => (hresolving x hx hp).elim)
                  (fun _ _ ha => by cases ha) h
          | _ => simp only [hpc, reduceCtorEq] at h
  | _ => simp only [hstage, reduceCtorEq] at h

/-- What is dropped has no more panics than before. -/
theorem mem_dropHandle {name : List β} (hs : (Process.connecting t client tasks).Safe E P b later)
    {x : ControlTask β} (hx : x ∈ dropHandle E client name tasks) :
    x.service.Fit P client ∧ x.task.stage ≠ .aborted ∧
      (x.Resolved → HasPort client.remoteAddr) := by
  rcases hs with ⟨_, _, _, htasks⟩
  rcases List.mem_map.mp hx with ⟨k, hk, hkx⟩
  rcases htasks k hk with ⟨hfit, hrun, hres⟩
  by_cases hname : k.service.name = name
  · rw [if_pos hname] at hkx
    rcases hact : k.act E.alphabet client.heartbeatTimeout .drop with _ | k'
    · rw [hact, Option.getD_none] at hkx
      rw [← hkx]
      exact ⟨hfit, hrun, hres⟩
    · rw [hact, Option.getD_some] at hkx
      rw [← hkx, ControlTask.service_of_act hact]
      refine ⟨hfit, fun hab => ?_, fun hr => ?_⟩
      · rcases ControlTask.aborted_of_act hact hab with hold | ⟨_, _, ha, _⟩
        · exact hrun hold
        · cases ha
      · rcases ControlTask.resolved_of_act hact hr with hold | ⟨_, _, _, ha⟩
        · exact hres hold
        · cases ha
  · rw [if_neg hname] at hkx
    rw [← hkx]
    exact ⟨hfit, hrun, hres⟩

theorem safe_reload {e : ClientServiceChange β}
    (hs : (Process.connecting t client tasks).Safe E P b later)
    (hok : ∀ cfg, e = .add cfg → ClientAdds later cfg) :
    (reload E client t tasks e).Safe E P b later := by
  have hdropped := fun name x (hx : x ∈ dropHandle E client name tasks) => mem_dropHandle hs hx
  rcases hs with ⟨hof, hknown, hadds, _⟩
  cases e with
  | delete name => exact ⟨hof, hknown, hadds, hdropped name⟩
  | add cfg =>
      have hfit := hadds cfg (hok cfg rfl)
      have hspawn : spawn cfg = .ok (ControlTask.new cfg) := spawn_eq_ok.mpr ⟨hfit.2.1, rfl⟩
      simp only [reload, hspawn]
      refine ⟨hof, hknown, hadds, fun x hx => ?_⟩
      rcases List.mem_append.mp hx with hold | hnew
      · exact hdropped cfg.name x hold
      · rw [List.mem_singleton.mp hnew]
        refine ⟨hfit, ?_, fun hres => absurd hres (not_resolved_new cfg)⟩
        simp only [ControlTask.new, Client.Task.new, ne_eq, reduceCtorEq, not_false_eq_true]

/-- A task that is not at an await `dial` completes. -/
theorem safe_of_task {a : Client.TaskAction β}
    (hs : (Process.connecting t client tasks).Safe E P b later)
    (h : step E P b (.connecting t client tasks) (.task i a) = some u) :
    u.Safe E P b later := by
  rcases hk : tasks[i]? with _ | k
  · simp only [step, hk, reduceCtorEq] at h
  · by_cases hd : k.dialling = true ∧ ControlTask.dials a = true
    · simp only [step, hk, if_pos hd, reduceCtorEq] at h
    · simp only [step, hk, if_neg hd] at h
      refine safe_of_act hs hk (fun x hx hpc ha => ?_) (fun x hx ha hpc => ?_) h
      · exact absurd ⟨by simp only [ControlTask.dialling, hx, hpc, decide_true,
          Bool.true_or], by rw [ha]; rfl⟩ hd
      · exact hd ⟨by simp only [ControlTask.dialling, hx, hpc, decide_true,
          Bool.or_true], by rw [ha]; rfl⟩

/-- A data channel is opened with the transport of a task that is through its
    handshake. -/
theorem safe_of_dataChannel (hs : (Process.connecting t client tasks).Safe E P b later)
    (h : step E P b (.connecting t client tasks) (.dataChannel i w) = some u) :
    u.Safe E P b later := by
  rcases hk : tasks[i]? with _ | k
  · simp only [step, hk, reduceCtorEq] at h
  · simp only [step, hk, Option.ite_none_right_eq_some] at h
    rcases h with ⟨hest, h⟩
    rcases hx : t.connect P w (remote client) with f | _
    · cases f with
      | error =>
          simp only [hx, Option.some.injEq] at h
          rw [← h]
          exact hs
      | panic p =>
          simp only [hx, Option.some.injEq] at h
          rw [← h]
          intro hof
          exact not_panics_connect hs hk (Or.inr hest) ⟨p, hx, hof⟩
    · simp only [hx, Option.some.injEq] at h
      rw [← h]
      exact hs

end Clients

/-! #### All steps -/

theorem rescan_eq (s : Process β) (old new : Config (List β)) : rescan s old new = s := by
  simp only [rescan, unwrapEvents_ok]

/-- A sound configuration does not lead to a panic of its own. -/
theorem safe_of_step (hlater : ∀ c ∈ later, c.Checked) {s u : Process β} {a : ProcessAction β}
    (hs : s.Safe E P b later) (hok : ChangesFrom later s a) (h : step E P b s a = some u) :
    u.Safe E P b later := by
  cases s with
  | starting p config =>
      cases a with
      | start w =>
          rw [← Option.some.inj h]
          cases p with
          | relay => exact safe_startRelay hs.1
          | server => exact safe_startServer hs.1 hs.2 hlater
          | client => exact safe_startClient hs.1 hs.2 hlater
      | _ => simp only [step, reduceCtorEq] at h
  | serving t srv =>
      cases a with
      | accept w => exact safe_of_accept hs h
      | server a =>
          refine safe_of_serve hs (fun cfg ha => ?_) h
          rw [ha] at hok
          exact hok
      | rescan old new =>
          simp only [step, rescan_eq, Option.some.injEq] at h
          rw [← h]
          exact hs
      | exit =>
          rw [← Option.some.inj h]
          exact trivial
      | _ => simp only [step, reduceCtorEq] at h
  | connecting t client tasks =>
      cases a with
      | dial i w =>
          rcases hk : tasks[i]? with _ | k
          · simp only [step, hk, reduceCtorEq] at h
          · simp only [step, hk] at h
            exact safe_of_dial hs hk h
      | task i a => exact safe_of_task hs h
      | dataChannel i w => exact safe_of_dataChannel hs h
      | reload e =>
          rw [← Option.some.inj h]
          refine safe_reload hs (fun cfg ha => ?_)
          rw [ha] at hok
          exact hok
      | rescan old new =>
          simp only [step, rescan_eq, Option.some.injEq] at h
          rw [← h]
          exact hs
      | exit =>
          rw [← Option.some.inj h]
          exact trivial
      | _ => simp only [step, reduceCtorEq] at h
  | relaying config =>
      cases a with
      | exit =>
          rw [← Option.some.inj h]
          exact trivial
      | _ => simp only [step, reduceCtorEq] at h
  | _ => simp only [step, reduceCtorEq] at h

end Process

end Rathole
