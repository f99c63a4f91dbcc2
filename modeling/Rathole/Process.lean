import Rathole.Client.Retry
import Rathole.ConfigWatcher
import Rathole.Server.Step
import Rathole.Transport.Panics

/-!
# Programs

A program from the moment its configuration was accepted to its end: the relay
of `main.rs`, a server, or a client. A panic anywhere ends the process.

A server is its transport and the tasks of `server.rs`; each connection it
accepts goes through a handshake of the transport first. A client is its
transport and a retry loop for each of its services, which resolves the
server's address, connects, and then has its handshake and select loop; an
established control channel connects again for each data channel. Services
come and go with the changes of the configuration watcher.

The checks of `config.rs` and the places that rely on them are far apart, and
they do not agree. `Sound` says what a configuration has to have.

## Main definitions

* `Program`, `Process`: What is started, and what it is at.
* `ControlTask`: A service of a client, with its retry loop.
* `Process.step`: One action.
* `Process.ConfigPanic`: A panic that the configuration alone leads to.
* `ChangesFrom`: Services are added from accepted configurations.
* `Config.Sound`: What a configuration has to have.
-/


namespace Rathole

open FairLock Completion Transition

variable {β : Type} [DecidableEq β]

/-- What is started with a configuration. -/
inductive Program
  | relay
  | server
  | client
deriving DecidableEq, Repr

/-- The task of a control channel, with its service, and whether it was ever
    established, so that there may be tasks of data channels. -/
structure ControlTask (β : Type) where
  service : ClientServiceConfig (List β)
  task : Client.Task β
  established : Bool

/-- A program. -/
inductive Process (β : Type) [DecidableEq β]
  | starting (p : Program) (config : Config (List β))
  | relaying (config : ServerConfig (List β))
  | serving (t : Transport) (s : Server β)
  | connecting (t : Transport) (config : ClientConfig (List β)) (tasks : List (ControlTask β))
  | exited
  | panicked (p : Panic)

/-- What a process can do next; `w` says which of its calls to the system succeed. -/
inductive ProcessAction (β : Type) [DecidableEq β]
  | start (w : World)
  | accept (w : World)
  | server (a : Server.Action β)
  | dial (i : Nat) (w : World)
  | task (i : Nat) (a : Client.TaskAction β)
  | dataChannel (i : Nat) (w : World)
  | reload (e : ClientServiceChange β)
  | rescan (old new : Config (List β))
  | exit

/-! ### The watcher -/

/-- A block of two configurations is taken to be there if it differs. -/
def unwrapBlocks {T : Type} (beq : T → T → Bool) (old new : Option T) : Completion Panic Unit :=
  if optionBeq beq old new then pure ()
  else do
    let _ ← unwrap .watchedBlock old
    let _ ← unwrap .watchedBlock new
    pure ()

/-- What `calculate_events` unwraps on its way. -/
def unwrapEvents (old new : Config (List β)) : Completion Panic Unit :=
  if old.beq new then pure ()
  else if old.server.isSome ≠ new.server.isSome ∨ old.client.isSome ≠ new.client.isSome then
    pure ()
  else do
    unwrapBlocks ServerConfig.beq old.server new.server
    unwrapBlocks ClientConfig.beq old.client new.client

/-! ### The tasks of a client -/

namespace ControlTask

/-- The task as it is spawned. -/
def new (service : ClientServiceConfig (List β)) : ControlTask β where
  service := service
  task := Client.Task.new
  established := false

/-- The task has yet to resolve the address or to connect. -/
def dialling (k : ControlTask β) : Bool :=
  match k.task.stage with
  | .running (.handshake h) => h.pc = .resolving || h.pc = .connecting
  | _ => false

/-- The task has a control channel. -/
def looping (task : Client.Task β) : Bool :=
  match task.stage with
  | .running (.looping _ _) => true
  | _ => false

/-- The action is that of an await which the transport completes. -/
def dials : Client.TaskAction β → Bool
  | .run .advance => true
  | .run .fail => true
  | .run .panic => true
  | _ => false

/-- A task acts. -/
def act (A : Alphabet β) (heartbeatTimeout : UInt64) (k : ControlTask β)
    (a : Client.TaskAction β) : Option (ControlTask β) :=
  (k.task.step A k.service heartbeatTimeout.toNat a).map (fun task =>
    { k with task := task, established := k.established || looping task })

end ControlTask

namespace Process

variable (E : Server.Env β) (P : Parsers) (b : Build)

/-! ### The start -/

/-- A fault is the end of the process, with an error or a panic. -/
def fail : Fault Panic → Process β
  | .error => .exited
  | .panic p => .panicked p

/-- How a process goes on. -/
def ofCompletion : Completion Panic (Process β) → Process β
  | .ok s => s
  | .error f => fail f

/-- `main`, up to the router. -/
def startRelay (w : World) (config : Config (List β)) : Completion Panic (Process β) := do
  let server ← unwrap .serverBlock config.server
  ensure (w .relay)
  pure (.relaying server)

/-- `run_server`, up to the main loop. -/
def startServer (w : World) (config : Config (List β)) : Completion Panic (Process β) := do
  let server ← okOr config.server
  let t ← Transport.new P b w server.transport
  toSocketAddr w server.bindAddr
  ensure (w .listen)
  pure (.serving t (Server.initial (Server.generateServiceHashmap E.alphabet server)))

/-- `ControlChannelHandle::new` -/
def spawn (service : ClientServiceConfig (List β)) : Completion Panic (ControlTask β) := do
  let _ ← unwrap .retryInterval service.retryInterval
  pure (ControlTask.new service)

/-- `run_client`, up to the main loop. -/
def startClient (w : World) (config : Config (List β)) : Completion Panic (Process β) := do
  let client ← okOr config.client
  let t ← Transport.new P b w client.transport
  let tasks ← client.services.entries.mapM (fun u => spawn u.2)
  pure (.connecting t client tasks)

/-- What each of the three programs does when it is started. -/
def start (w : World) (config : Config (List β)) : Program → Process β
  | .relay => ofCompletion (startRelay w config)
  | .server => ofCompletion (startServer E P b w config)
  | .client => ofCompletion (startClient P b w config)

/-! ### Servers -/

/-- A connection is accepted, and the main loop waits for its handshake. -/
def accept (w : World) (t : Transport) (s : Server β) : Option (Process β) :=
  match s.main with
  | .serving => match t.handshake P w with
    | .ok () => (s.step E .accept).map (Process.serving t)
    | .error .error => some (.serving t s)
    | .error (.panic p) => some (.panicked p)
  | _ => none

/-- The place where a task of the server panics. -/
def serverPanic : Server.Action β → Panic
  | .lookup _ => .serverToken
  | _ => .httpService

/-- The tasks of the server. -/
def serve (t : Transport) (s : Server β) (a : Server.Action β) : Option (Process β) :=
  if a = .accept then none
  else (s.step E a).map (fun s' => if s'.aborted then .panicked (serverPanic a) else .serving t s')

/-! ### Clients -/

/-- The address of the server, once it was resolved. -/
def remote (client : ClientConfig (List β)) : AddrMaybeCached where
  addr := client.remoteAddr
  cached := true

variable (client : ClientConfig (List β))

/-- What a client is after a task has acted. -/
def acted (t : Transport) (tasks : List (ControlTask β)) (i : Nat) (k : ControlTask β) :
    Process β :=
  match k.task.stage with
  -- The only panic of a task that is not one of its transport.
  | .aborted => .panicked .clientToken
  | _ => .connecting t client (tasks.set i k)

/-- A task resolves the address, or connects. -/
def dial (w : World) (t : Transport) (tasks : List (ControlTask β)) (i : Nat) (k : ControlTask β) :
    Option (Process β) :=
  match k.task.stage with
  | .running (.handshake h) =>
      let outcome := match h.pc with
        | .resolving => some (toSocketAddr w client.remoteAddr)
        | .connecting => some (t.connect P w (remote client))
        | _ => none
      match outcome with
      | none => none
      | some (.ok ()) =>
          (k.act E.alphabet client.heartbeatTimeout (.run .advance)).map (acted client t tasks i)
      | some (.error .error) =>
          (k.act E.alphabet client.heartbeatTimeout (.run .fail)).map (acted client t tasks i)
      | some (.error (.panic p)) => some (.panicked p)
  | _ => none

/-- The handle of a name is dropped. -/
def dropHandle (name : List β) (tasks : List (ControlTask β)) : List (ControlTask β) :=
  tasks.map (fun k =>
    if k.service.name = name then (k.act E.alphabet client.heartbeatTimeout .drop).getD k else k)

/-- `handle_hot_reload` of the client. -/
def reload (t : Transport) (tasks : List (ControlTask β)) :
    ClientServiceChange β → Process β
  | .add cfg => match spawn cfg with
    | .ok k => .connecting t client (dropHandle E client cfg.name tasks ++ [k])
    | .error f => fail f
  | .delete name => .connecting t client (dropHandle E client name tasks)

/-! ### All actions -/

/-- The watcher compares two configurations. -/
def rescan (s : Process β) (old new : Config (List β)) : Process β :=
  match unwrapEvents old new with
  | .error (.panic p) => .panicked p
  | _ => s

/-- One action. -/
def step (s : Process β) (a : ProcessAction β) : Option (Process β) :=
  match s, a with
  | .starting p config, .start w => some (start E P b w config p)
  | .serving t s, .accept w => accept E P w t s
  | .serving t s, .server a => serve E t s a
  | .connecting t client tasks, .dial i w => match tasks[i]? with
    | none => none
    | some k => dial E P client w t tasks i k
  | .connecting t client tasks, .task i a => match tasks[i]? with
    | none => none
    | some k =>
        if k.dialling ∧ ControlTask.dials a then none
        else (k.act E.alphabet client.heartbeatTimeout a).map (acted client t tasks i)
  | .connecting t client tasks, .dataChannel i w => match tasks[i]? with
    | none => none
    | some k =>
        if k.established then
          match t.connect P w (remote client) with
          | .error (.panic p) => some (.panicked p)
          | _ => some (.connecting t client tasks)
        else none
  | .connecting t client tasks, .reload e => some (reload E client t tasks e)
  | .serving t s, .rescan old new => some (rescan (.serving t s) old new)
  | .connecting t client tasks, .rescan old new =>
      some (rescan (.connecting t client tasks) old new)
  | .relaying _, .exit => some .exited
  | .serving _ _, .exit => some .exited
  | .connecting _ _ _, .exit => some .exited
  | _, _ => none

/-- The process has panicked over its configuration. -/
def ConfigPanic : Process β → Prop
  | .panicked p => p.OfConfig
  | _ => False

end Process

/-! ### What a configuration has to have -/

/-- The service is one of a server's in one of the configurations. -/
def ServerAdds (later : List (Config (List β))) (cfg : ServerServiceConfig (List β)) : Prop :=
  ∃ c ∈ later, ∃ server, c.server = some server ∧ ∃ name, server.services.lookup name = some cfg

/-- The service is one of a client's in one of the configurations. -/
def ClientAdds (later : List (Config (List β))) (cfg : ClientServiceConfig (List β)) : Prop :=
  ∃ c ∈ later, ∃ client, c.client = some client ∧ ∃ name, client.services.lookup name = some cfg

/-- Services are added from configurations that were accepted later. -/
def ChangesFrom (later : List (Config (List β))) (_ : Process β) : ProcessAction β → Prop
  | .server (.reload (.add cfg)) => ServerAdds later cfg
  | .reload (.add cfg) => ClientAdds later cfg
  | _ => True

section Sound

variable (E : Server.Env β) (P : Parsers) (b : Build) (later : List (Config (List β)))

/-- The server gets to serve connections. -/
def ServerConfig.Serves (c : ServerConfig (List β)) : Prop :=
  HasPort c.bindAddr ∧ c.transport.Creatable P ∧ Transport.Answers P c.transport

/-- The client gets to connect, for a service it has or is given. -/
def ClientConfig.Dials (c : ClientConfig (List β)) : Prop :=
  HasPort c.remoteAddr ∧ c.transport.Creatable P ∧
    (c.services.entries ≠ [] ∨ ∃ cfg, ClientAdds later cfg)

/-- What a server has to have. -/
structure ServerConfig.Sound (c : ServerConfig (List β)) : Prop where
  compiled : b.has c.transport.transportType = true
  password : c.transport.PasswordSet
  identity : HasPort c.bindAddr → c.transport.IdentitySet
  service : c.Serves P → ∀ cfg,
    ((∃ d, (Server.generateServiceHashmap E.alphabet c).lookup d = some cfg) ∨
      ServerAdds later cfg) → cfg.serviceType ≠ .http

/-- What a client has to have. -/
structure ClientConfig.Sound (c : ClientConfig (List β)) : Prop where
  compiled : b.has c.transport.transportType = true
  password : c.transport.PasswordSet
  connect : c.Dials P later →
    Transport.Opens P c.transport c.remoteAddr ∧ c.transport.tcp.ProxyComplete

/-- What a configuration has to have for a program. -/
def Config.Sound (c : Config (List β)) : Program → Prop
  | .relay => c.server.isSome = true
  | .server => ∀ server, c.server = some server → server.Sound E P b later
  | .client => ∀ client, c.client = some client → client.Sound P b later

end Sound

end Rathole
