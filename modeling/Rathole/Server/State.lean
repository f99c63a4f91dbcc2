import Rathole.Config
import Rathole.Lib.FairLock
import Rathole.Lib.Transition
import Rathole.MultiMap
import Rathole.Protocol.Wire

/-!
# The Server

The tasks of `server.rs` that share `services` and `control_channels`: the
main loop, which accepts connections and applies changes of the configuration
one at a time, and one `handle_connection` task for each connection. Every
await is a state of its task, so any other task can move in between.

Both maps are behind fair locks. Which awaits a guard is held across follows
from the source: the read guard of `services` lives to the end of the `let`
that clones the service's configuration, so it is held while `ServiceNotExist`
is written; the guards of `control_channels` live to the end of the handshake,
so one is held while `Ok` is written and another while a data channel waits
for room in its queue.

A handle is numbered in the order of creation. Its pool is reduced to what it
does to data channels: it takes them from the queue in order, writes the
command that starts the forwarding, and passes on what visitors send. When and
why it takes one, and when a command is due on a control channel, is left to
the environment, as are the outcomes of reads and writes.

## Main definitions

* `Server.Env`: The alphabet, and the nonces that are drawn.
* `Server.Phase`, `Server.Conn`: The task of a connection.
* `Server.Handle`: A control channel's handle.
* `Server.MainPc`: The main loop.
* `Server`: The whole server.
* `Server.Action`: What can happen next.
* `generateServiceHashmap`: The services of a configuration by digest.

## Theorems

* `lookup_generateServiceHashmap`: A digest finds the service of its name.
* `exists_of_lookup_generateServiceHashmap`: It finds no other.
-/

namespace Rathole

open FairLock

namespace Server

/-- What the server reads bytes with, and the nonce that each connection
    draws. -/
structure Env (β : Type) where
  alphabet : Alphabet β
  nonce : Nat → Digest β

/-- The tasks that take guards. -/
inductive Task
  | conn (i : Nat)
  | main
deriving DecidableEq, Repr

/-- `handle_connection`, await by await, and what becomes of the connection
    after it. `concat` is the token followed by the nonce, `key` its digest. -/
inductive Phase (β : Type)
  | readingHello
  | sendingHello (d nonce : Digest β)
  | lookingUp (d nonce : Digest β)
  | refusing
  | readingAuth (d : Digest β) (concat : List β) (cfg : ServerServiceConfig (List β))
  | rejecting
  | locking (d key : Digest β) (cfg : ServerServiceConfig (List β))
  | sendingAck (d key : Digest β) (cfg : ServerServiceConfig (List β))
  | control (h : Nat)
  | finding (nonce : Digest β)
  | delivering (h : Nat)
  | queued (h : Nat)
  | starting (h : Nat) (cmd : DataChannelCmd)
  | forwarding (h : Nat)
  | closed
deriving DecidableEq

/-- A connection, with the bytes that have arrived and are not yet read, and
    all that was written. -/
structure Conn (β : Type) where
  phase : Phase β
  inbox : List β
  sent : List β
deriving DecidableEq

/-- A handle: the service it was made for, under which digest, the data
    channels that wait in its queue, and whether its pool still has the
    receiver. -/
structure Handle (β : Type) where
  owner : Digest β
  service : ServerServiceConfig (List β)
  queue : List Nat
  pooling : Bool
deriving DecidableEq

/-- `ServerServiceChange` -/
inductive ServerServiceChange (β : Type)
  | add (cfg : ServerServiceConfig (List β))
  | delete (name : List β)
deriving DecidableEq

/-- The main loop: waiting for connections, for a guard of `services`, for a
    guard of `control_channels` with (`held`) or without that of `services`,
    for the guard it shuts down with, or done. -/
inductive MainPc (β : Type)
  | serving
  | changing (e : ServerServiceChange β)
  | dropping (d : Digest β) (held : Bool)
  | closing
  | stopped
deriving DecidableEq

end Server

/-- The server. `channels` maps the digest of a service and a session key to
    the number of a handle. A panic in any task aborts the process. -/
structure Server (β : Type) where
  services : HashMap (Digest β) (ServerServiceConfig (List β))
  channels : MultiMap (Digest β) (Digest β) Nat
  servicesLock : RwLock Server.Task
  channelsLock : RwLock Server.Task
  conns : List (Server.Conn β)
  handles : List (Server.Handle β)
  main : Server.MainPc β
  aborted : Bool

namespace Server

/-- What can happen next. `write` and `read` complete what a connection is
    writing or reading, `fail` ends it after a part of it. -/
inductive Action (β : Type)
  | accept
  | arrive (i : Nat) (chunk : List β)
  | read (i : Nat)
  | write (i : Nat)
  | fail (i n : Nat)
  | lookup (i : Nat)
  | lock (i : Nat)
  | find (i : Nat)
  | deliver (i : Nat)
  | command (i : Nat) (cmd : ControlChannelCmd)
  | stop (i : Nat)
  | take (h : Nat)
  | relay (i : Nat) (chunk : List β)
  | poolEnd (h : Nat)
  | reload (e : ServerServiceChange β)
  | reloadServices
  | reloadChannels
  | shutdown
  | clear
deriving DecidableEq

/-- The connection whose task an action belongs to. -/
def Action.conn {β : Type} : Action β → Option Nat
  | .arrive i _ | .read i | .write i | .fail i _ | .lookup i | .lock i | .find i | .deliver i
  | .command i _ | .stop i | .relay i _ => some i
  | _ => none

variable {β : Type} [DecidableEq β]

/-- `generate_service_hashmap` -/
def generateServiceHashmap (A : Alphabet β) (cfg : ServerConfig (List β)) :
    HashMap (Digest β) (ServerServiceConfig (List β)) :=
  cfg.services.entries.foldl (fun ret u => ret.insert (A.digest u.1) u.2) ∅

/-- `Server::from`, with the services by digest. -/
def initial (services : HashMap (Digest β) (ServerServiceConfig (List β))) : Server β where
  services := services
  channels := MultiMap.new
  servicesLock := RwLock.free
  channelsLock := RwLock.free
  conns := []
  handles := []
  main := .serving
  aborted := false

/-- Another state of a connection. -/
def setConn (s : Server β) (i : Nat) (c : Conn β) : Server β :=
  { s with conns := s.conns.set i c }

/-- Another state of a handle. -/
def setHandle (s : Server β) (h : Nat) (x : Handle β) : Server β :=
  { s with handles := s.handles.set h x }

/-- The handle is in the map, so its control channel has not been told to
    stop. -/
def Installed (s : Server β) (h : Nat) : Prop := ∃ x ∈ s.channels.items, x.2.2 = h

instance (s : Server β) (h : Nat) : Decidable (s.Installed h) :=
  inferInstanceAs (Decidable (∃ x ∈ s.channels.items, x.2.2 = h))

/-- The services of a list that has no name twice, by digest. -/
theorem lookup_foldl_insert {A : Alphabet β} {name : List β} :
    ∀ {l : List ((_ : List β) × ServerServiceConfig (List β))}
      (m : HashMap (Digest β) (ServerServiceConfig (List β))), l.NodupKeys →
      (∀ x ∈ l.keys, A.digest x = A.digest name → x = name) →
      (l.foldl (fun ret u => ret.insert (A.digest u.1) u.2) m).lookup (A.digest name) =
        (l.dlookup name).or (m.lookup (A.digest name)) := by
  intro l
  induction l with
  | nil => intro m _ _; rfl
  | cons u l ih =>
      intro m hnodup hinj
      rcases u with ⟨k, v⟩
      rw [List.nodupKeys_cons] at hnodup
      have hrest : ∀ x ∈ l.keys, A.digest x = A.digest name → x = name := by
        intro x hx
        exact hinj x (List.mem_cons_of_mem _ hx)
      rw [List.foldl_cons, ih _ hnodup.2 hrest]
      by_cases hk : name = k
      · -- The name does not come again.
        subst hk
        rw [List.dlookup_cons_eq, List.dlookup_eq_none.mpr hnodup.1, Option.none_or,
          AList.lookup_insert, Option.some_or]
      · have hne : A.digest name ≠ A.digest k := by
          intro heq
          exact hk (hinj k List.mem_cons_self heq.symm).symm
        rw [List.dlookup_cons_ne _ _ hk, AList.lookup_insert_ne hne]

/-- The digest of a name finds the service of that name, if the digest keeps
    the names apart. -/
theorem lookup_generateServiceHashmap {A : Alphabet β} {cfg : ServerConfig (List β)}
    {name : List β} (hinj : ∀ x ∈ cfg.services.keys, A.digest x = A.digest name → x = name) :
    (generateServiceHashmap A cfg).lookup (A.digest name) = cfg.services.lookup name := by
  have h := lookup_foldl_insert (∅ : HashMap (Digest β) (ServerServiceConfig (List β)))
    cfg.services.nodupKeys hinj
  rw [AList.lookup_empty, Option.or_none] at h
  exact h

/-- What is found after insertions was inserted, or was there. -/
theorem mem_of_lookup_foldl_insert {A : Alphabet β} {d : Digest β}
    {v : ServerServiceConfig (List β)} :
    ∀ {l : List ((_ : List β) × ServerServiceConfig (List β))}
      {m : HashMap (Digest β) (ServerServiceConfig (List β))},
      (l.foldl (fun ret u => ret.insert (A.digest u.1) u.2) m).lookup d = some v →
      (∃ u ∈ l, A.digest u.1 = d ∧ u.2 = v) ∨ m.lookup d = some v := by
  intro l
  induction l with
  | nil => intro m h; exact Or.inr h
  | cons u l ih =>
      intro m h
      rw [List.foldl_cons] at h
      rcases ih h with ⟨u', hu', hfound⟩ | hm
      · exact Or.inl ⟨u', List.mem_cons_of_mem u hu', hfound⟩
      · rcases HashMap.lookup_insert_cases hm with ⟨hd, hv⟩ | ⟨_, hold⟩
        · exact Or.inl ⟨u, List.mem_cons_self, hd.symm, hv.symm⟩
        · exact Or.inr hold

/-- A service that is found by a digest is one of the configuration, under a
    name with that digest. -/
theorem exists_of_lookup_generateServiceHashmap {A : Alphabet β} {cfg : ServerConfig (List β)}
    {d : Digest β} {v : ServerServiceConfig (List β)}
    (h : (generateServiceHashmap A cfg).lookup d = some v) :
    ∃ name, cfg.services.lookup name = some v ∧ A.digest name = d := by
  rcases mem_of_lookup_foldl_insert h with ⟨⟨name, v'⟩, hu, hd, hv⟩ | hempty
  · subst hv
    exact ⟨name, AList.mem_lookup_iff.mpr hu, hd⟩
  · simp only [AList.lookup_empty, reduceCtorEq] at hempty

end Server

end Rathole
