import Rathole.Lib.Transition
import Rathole.Protocol.Message
import Rathole.Protocol.Wire

/-!
# What the Server Reads of a Control Channel

An established control channel with the loops of `ControlChannel::run` at both
ends, as far as they write to each other. The server writes commands, which
the client reads. The client writes a health update at each tick of its health
interval, with `send_control_message` in the body of the tick's branch: while
that write waits for room, the loop does nothing else.

The server's loop waits for data channel requests, for its heartbeat and for
the shutdown signal. No branch of it reads, so what the client writes stays
where it is. The connection holds so much of it and no more; once it is full,
the next write waits for room that nobody makes.

## Main definitions

* `healthMsg`: The health update.
* `Json`: The text of a message.
* `ControlLink`: Both loops and the two directions between them.
* `ControlLink.step`: One action.
* `ControlLink.Served`: What the client writes can be read.
* `ControlLink.Quiet`: Nothing of a health update is written.

## Theorems

* `ControlLink.server_reads_nothing`: No step of the server's loop reads.
* `ControlLink.served_throughout_iff`: When all that is written can be read.
* `ControlLink.backlog_unbounded`: How much is written and not read.
* `ControlLink.blocked_forever`: A full connection stays full.
* `ControlLink.health_updates_pile_up`: Runs in which updates are not read.
-/

namespace Rathole

open Transition

/-- The health update that is sent at a tick. -/
def healthMsg (timestamp : String) : ControlMessage :=
  .healthUpdate
    { operatingSystem := "Linux"
      avgMemoryUsage := 50
      totalMemory := 8 * 1024 * 1024 * 1024
      usedMemory := 4 * 1024 * 1024 * 1024
      avgSwapUsage := 50
      totalSwap := 2 * 1024 * 1024 * 1024
      usedSwap := 1 * 1024 * 1024 * 1024
      cpuUsage := 1 / 2
      temperaturesData := { avgTemp := none, maxTemp := none }
      timestamp := "" }
    timestamp

/-- `serde_json::to_string`; the text of a message is not empty. -/
structure Json where
  toString : ControlMessage → List UInt8
  nonempty : ∀ m, toString m ≠ []

/-- Where the client's loop is: at its `select!`, in `send_control_message`
    with this much still to be written, or at its end. -/
inductive LinkPc
  | selecting
  | writing (rest : List UInt8)
  | ended
deriving DecidableEq

/-- A control channel. The connection holds at most `capacity` bytes that were
    written by the client and not read. -/
structure ControlLink where
  client : LinkPc
  serving : Bool
  capacity : Nat
  room : 0 < capacity
  backlog : List UInt8
  commands : List ControlChannelCmd

/-- What either end does, and what gets through between them. -/
inductive LinkAction
  | tick (timestamp : String)
  | write (n : Nat)
  | writeError
  | readCmd
  | clientEnd
  | command (cmd : ControlChannelCmd)
  | serverEnd
deriving DecidableEq

namespace ControlLink

/-- A control channel that has just been established. -/
def start (capacity : Nat) (room : 0 < capacity) : ControlLink where
  client := .selecting
  serving := true
  capacity := capacity
  room := room
  backlog := []
  commands := []

/-- The tick's branch wins, and begins to send a health update. -/
def tick (J : Json) (s : ControlLink) (timestamp : String) : Option ControlLink :=
  match s.client with
  | .selecting => some { s with client := .writing (J.toString (healthMsg timestamp)) }
  | _ => none

/-- Some bytes of the update find room. With the last one, the loop goes on. -/
def write (s : ControlLink) (n : Nat) : Option ControlLink :=
  match s.client with
  | .writing rest =>
      if s.serving ∧ 0 < n ∧ n ≤ rest.length ∧ s.backlog.length + n ≤ s.capacity then
        some { s with
          client := if rest.length = n then .selecting else .writing (rest.drop n)
          backlog := s.backlog ++ rest.take n }
      else none
  | _ => none

/-- The write fails, and the loop breaks. -/
def writeError (s : ControlLink) : Option ControlLink :=
  match s.client with
  | .writing _ => some { s with client := .ended }
  | _ => none

/-- A command has been read. -/
def readCmd (s : ControlLink) : Option ControlLink :=
  match s.client, s.commands with
  | .selecting, _ :: rest => some { s with commands := rest }
  | _, _ => none

/-- The client's loop ends otherwise: by a read error, the heartbeat timeout
    or the shutdown signal. -/
def clientEnd (s : ControlLink) : Option ControlLink :=
  match s.client with
  | .selecting => some { s with client := .ended }
  | _ => none

/-- The server writes a command, for a data channel request or as a
    heartbeat. -/
def command (s : ControlLink) (cmd : ControlChannelCmd) : Option ControlLink :=
  if s.serving then some { s with commands := s.commands ++ [cmd] } else none

/-- The server's loop ends, and with it the connection. -/
def serverEnd (s : ControlLink) : Option ControlLink :=
  if s.serving then some { s with serving := false } else none

/-- One action of either end. -/
def step (J : Json) (s : ControlLink) : LinkAction → Option ControlLink
  | .tick timestamp => s.tick J timestamp
  | .write n => s.write n
  | .writeError => s.writeError
  | .readCmd => s.readCmd
  | .clientEnd => s.clientEnd
  | .command cmd => s.command cmd
  | .serverEnd => s.serverEnd

/-- The steps the server's loop can take. -/
def ServerStep (_ : ControlLink) : LinkAction → Prop
  | .command _ => True
  | .serverEnd => True
  | _ => False

/-- By steps of the server's loop all that has been written is read, and a
    write under way finds room while the connection lasts. -/
structure Served (J : Json) (s : ControlLink) : Prop where
  read : ∃ t, Reaches (step J) ServerStep s t ∧ t.backlog = []
  room : s.serving = true → ∀ rest, s.client = .writing rest →
    ∃ t n u, Reaches (step J) ServerStep s t ∧ t.step J (.write n) = some u

/-- Nothing of a health update is written. -/
def Quiet (_ : ControlLink) : LinkAction → Prop
  | .write _ => False
  | _ => True

/-- Neither end gives the connection up. -/
def Lasting (_ : ControlLink) : LinkAction → Prop
  | .serverEnd => False
  | .writeError => False
  | _ => True

/-! ### What each action can do -/

/-- The ways through an action in the state `s`, each with the state it ends
    in. -/
inductive Rule (J : Json) (s : ControlLink) : LinkAction → ControlLink → Prop
  | ticked {timestamp : String} (hc : s.client = .selecting) : Rule J s (.tick timestamp)
      { s with client := .writing (J.toString (healthMsg timestamp)) }
  | wrote {n : Nat} {rest : List UInt8} (hc : s.client = .writing rest) (hs : s.serving = true)
      (hpos : 0 < n) (hle : n ≤ rest.length) (hroom : s.backlog.length + n ≤ s.capacity) :
      Rule J s (.write n) { s with
        client := if rest.length = n then .selecting else .writing (rest.drop n)
        backlog := s.backlog ++ rest.take n }
  | failed {rest : List UInt8} (hc : s.client = .writing rest) :
      Rule J s .writeError { s with client := .ended }
  | commanded {cmd : ControlChannelCmd} {rest : List ControlChannelCmd}
      (hc : s.client = .selecting) (hq : s.commands = cmd :: rest) :
      Rule J s .readCmd { s with commands := rest }
  | clientEnded (hc : s.client = .selecting) : Rule J s .clientEnd { s with client := .ended }
  -- The server writes or ends, and reads nothing.
  | command {cmd : ControlChannelCmd} (hs : s.serving = true) :
      Rule J s (.command cmd) { s with commands := s.commands ++ [cmd] }
  | serverEnded (hs : s.serving = true) : Rule J s .serverEnd { s with serving := false }

section Steps

variable {J : Json} {s s' t : ControlLink} {a : LinkAction}

theorem rule_of_step (hst : s.step J a = some s') : Rule J s a s' := by
  cases a with
  | tick timestamp =>
      simp only [step, tick] at hst
      split at hst
      · rename_i hc
        rw [← Option.some.inj hst]
        exact Rule.ticked hc
      · simp only [reduceCtorEq] at hst
  | write n =>
      simp only [step, write] at hst
      split at hst
      · rename_i rest hc
        rw [Option.ite_none_right_eq_some, Option.some.injEq] at hst
        rw [← hst.2]
        exact Rule.wrote hc hst.1.1 hst.1.2.1 hst.1.2.2.1 hst.1.2.2.2
      · simp only [reduceCtorEq] at hst
  | writeError =>
      simp only [step, writeError] at hst
      split at hst
      · rename_i rest hc
        rw [← Option.some.inj hst]
        exact Rule.failed hc
      · simp only [reduceCtorEq] at hst
  | readCmd =>
      simp only [step, readCmd] at hst
      split at hst
      · rename_i cmd rest hc hq
        rw [← Option.some.inj hst]
        exact Rule.commanded hc hq
      · simp only [reduceCtorEq] at hst
  | clientEnd =>
      simp only [step, clientEnd] at hst
      split at hst
      · rename_i hc
        rw [← Option.some.inj hst]
        exact Rule.clientEnded hc
      · simp only [reduceCtorEq] at hst
  | command cmd =>
      simp only [step, ControlLink.command, Option.ite_none_right_eq_some, Option.some.injEq] at hst
      rw [← hst.2]
      exact Rule.command hst.1
  | serverEnd =>
      simp only [step, serverEnd, Option.ite_none_right_eq_some, Option.some.injEq] at hst
      rw [← hst.2]
      exact Rule.serverEnded hst.1

/-! ### What is read -/

/-- No step of the server's loop reads. -/
theorem server_reads_nothing (h : Reaches (step J) ServerStep s t) : t.backlog = s.backlog := by
  induction h with
  | refl => rfl
  | tail _ hok hst ih =>
      cases rule_of_step hst with
      | command | serverEnded => exact ih
      | ticked | wrote | failed | commanded | clientEnded => exact absurd hok id

/-- An update under way has bytes that are still to be written. -/
def Unwritten (s : ControlLink) : Prop := s.client ≠ .writing []

theorem step_unwritten (h : s.Unwritten) (hst : s.step J a = some s') : s'.Unwritten := by
  cases rule_of_step hst with
  | ticked hc =>
      intro heq
      exact J.nonempty _ (LinkPc.writing.inj heq)
  | @wrote n rest hc hs hpos hle hroom =>
      simp only [Unwritten]
      by_cases hlast : rest.length = n
      · simp only [if_pos hlast, ne_eq, reduceCtorEq, not_false_eq_true]
      · rw [if_neg hlast]
        intro heq
        have hnil := List.drop_eq_nil_iff.mp (LinkPc.writing.inj heq)
        omega
  | failed | clientEnded => simp only [Unwritten, ne_eq, reduceCtorEq, not_false_eq_true]
  | commanded | command | serverEnded => exact h

/-- All can be read exactly if there is nothing to read. -/
theorem served_iff (h : s.Unwritten) : s.Served J ↔ s.backlog = [] := by
  constructor
  · intro hserved
    rcases hserved.read with ⟨t, ht, hnil⟩
    rw [← server_reads_nothing ht]
    exact hnil
  · intro hnil
    refine ⟨⟨s, Reaches.refl, hnil⟩, fun hs rest hc => ?_⟩
    -- There is room for a first byte.
    have hpos : 0 < rest.length := by
      refine List.length_pos_of_ne_nil (fun hrest => h ?_)
      rw [hc, hrest]
    have hfits : s.backlog.length + 1 ≤ s.capacity := by
      have hroom := s.room
      rw [hnil, List.length_nil]
      omega
    have hwrite : s.step J (.write 1) = some { s with
        client := if rest.length = 1 then .selecting else .writing (rest.drop 1)
        backlog := s.backlog ++ rest.take 1 } := by
      simp only [step, write, hc]
      exact if_pos ⟨hs, Nat.one_pos, hpos, hfits⟩
    exact ⟨s, 1, _, Reaches.refl, hwrite⟩

/-- One step leaves all readable exactly if it writes nothing. -/
theorem step_served_iff (h : s.Unwritten) (hserved : s.Served J) (hst : s.step J a = some s') :
    s'.Served J ↔ s.Quiet a := by
  have hnil := (served_iff h).mp hserved
  rw [served_iff (step_unwritten h hst)]
  cases rule_of_step hst with
  | wrote hc hs hpos hle hroom =>
      refine ⟨fun hnil' => ?_, fun hq => absurd hq id⟩
      have hlen := congrArg List.length (List.append_eq_nil_iff.mp hnil').2
      rw [List.length_take, List.length_nil] at hlen
      omega
  | ticked | failed | commanded | clientEnded | command | serverEnded =>
      exact ⟨fun _ => trivial, fun _ => hnil⟩

/-- Along a run all that the client has written can be read, in every state,
    exactly if it writes nothing of a health update; and then there is never
    anything to read. -/
theorem served_throughout_iff (J : Json) (capacity : Nat) (room : 0 < capacity) :
    (∀ as, Throughout (step J) (Served J) (start capacity room) as ↔
      Legal (step J) Quiet (start capacity room) as) ∧
    ∀ s, Reaches (step J) Quiet (start capacity room) s → s.backlog = [] := by
  have hstart : (start capacity room).Unwritten := by
    simp only [Unwritten, start, ne_eq, reduceCtorEq, not_false_eq_true]
  have hserved : (start capacity room).Served J := (served_iff hstart).mpr rfl
  refine ⟨fun as => throughout_iff_legal (fun _ _ _ hi hst => step_unwritten hi hst)
    (fun _ _ _ hi hp hst => step_served_iff hi hp hst) as _ hstart hserved, fun s hs => ?_⟩
  induction hs with
  | refl => rfl
  | tail _ hok hst ih =>
      cases rule_of_step hst with
      | wrote => exact absurd hok id
      | ticked | failed | commanded | clientEnded | command | serverEnded => exact ih

end Steps

/-! ### Updates that are not read -/

section PileUp

variable {J : Json}

/-- A whole update is written at once. -/
theorem exec_update {s : ControlLink} (timestamp : String) (hc : s.client = .selecting)
    (hs : s.serving = true)
    (hfits : s.backlog.length + (J.toString (healthMsg timestamp)).length ≤ s.capacity) :
    exec (step J) s [.tick timestamp, .write (J.toString (healthMsg timestamp)).length] =
      some { s with backlog := s.backlog ++ J.toString (healthMsg timestamp) } := by
  have hpos : 0 < (J.toString (healthMsg timestamp)).length :=
    List.length_pos_of_ne_nil (J.nonempty _)
  have htick : s.step J (.tick timestamp) =
      some { s with client := .writing (J.toString (healthMsg timestamp)) } := by
    simp only [step, tick, hc]
  rw [exec_cons htick, exec]
  simp only [step, write, if_pos (show s.serving = true ∧ _ ∧ _ ∧ _ from
    ⟨hs, hpos, le_refl _, hfits⟩), if_true, List.take_length, exec]
  rw [← hc]

/-- As many updates as the connection holds are written, none of them read. -/
theorem updates_written (J : Json) (timestamp : String) {capacity : Nat} (room : 0 < capacity) :
    ∀ k, k * (J.toString (healthMsg timestamp)).length ≤ capacity →
      ∃ s, Reaches (step J) (fun _ _ => True) (start capacity room) s ∧ s.client = .selecting ∧
        s.serving = true ∧ s.capacity = capacity ∧
        s.backlog.length = k * (J.toString (healthMsg timestamp)).length := by
  intro k
  induction k with
  | zero =>
      intro _
      exact ⟨_, Reaches.refl, rfl, rfl, rfl, (Nat.zero_mul _).symm⟩
  | succ k ih =>
      intro hk
      rw [Nat.succ_mul] at hk
      rcases ih (by omega) with ⟨s, hr, hc, hs, hcap, hlen⟩
      have hexec := exec_update (J := J) (s := s) timestamp hc hs (by omega)
      refine ⟨_, hr.trans (reaches_of_exec _ _ _ hexec), hc, hs, hcap, ?_⟩
      rw [List.length_append, hlen, Nat.succ_mul]

/-- There is no bound for what is written and not read. -/
theorem backlog_unbounded (J : Json) (bound : Nat) : ∃ capacity, ∃ room : 0 < capacity, ∃ s,
    Reaches (step J) (fun _ _ => True) (start capacity room) s ∧ bound < s.backlog.length := by
  have hpos : 0 < (J.toString (healthMsg "")).length := List.length_pos_of_ne_nil (J.nonempty _)
  have hroom : 0 < (bound + 1) * (J.toString (healthMsg "")).length :=
    Nat.mul_pos (Nat.succ_pos _) hpos
  rcases updates_written J "" hroom (bound + 1) (le_refl _) with ⟨s, hr, _, _, _, hlen⟩
  refine ⟨_, hroom, s, hr, ?_⟩
  rw [hlen]
  exact Nat.lt_of_lt_of_le (Nat.lt_succ_self bound) (Nat.le_mul_of_pos_right _ hpos)

/-- On a full connection a write stays where it is, whatever either end does,
    as long as neither gives the connection up. -/
theorem blocked_forever {s t : ControlLink} {rest : List UInt8} (hc : s.client = .writing rest)
    (hfull : s.capacity ≤ s.backlog.length) (h : Reaches (step J) Lasting s t) :
    t.client = .writing rest ∧ t.capacity ≤ t.backlog.length := by
  induction h with
  | refl => exact ⟨hc, hfull⟩
  | tail _ hok hst ih =>
      cases rule_of_step hst with
      | ticked hc' | commanded hc' | clientEnded hc' =>
          rw [hc'] at ih
          simp only [reduceCtorEq, false_and] at ih
      | wrote hc' hs hpos hle hroom => omega
      | failed | serverEnded => exact absurd hok id
      | command => exact ih

/-- So the first update that finds the connection full is never sent: from
    some state on the loop reads no command any more. -/
theorem update_blocks (J : Json) : ∃ capacity, ∃ room : 0 < capacity, ∃ s rest,
    Reaches (step J) (fun _ _ => True) (start capacity room) s ∧
    ∀ t, Reaches (step J) Lasting s t → t.client = .writing rest := by
  have hpos : 0 < (J.toString (healthMsg "")).length := List.length_pos_of_ne_nil (J.nonempty _)
  rcases updates_written J "" hpos 1 (by omega) with ⟨s, hr, hc, _, hcap, hlen⟩
  have htick : s.step J (.tick "") =
      some { s with client := .writing (J.toString (healthMsg "")) } := by
    simp only [step, tick, hc]
  have hfull : s.capacity ≤ s.backlog.length := by omega
  refine ⟨_, hpos, _, J.toString (healthMsg ""), hr.tail trivial htick, fun t ht => ?_⟩
  exact (blocked_forever (s := { s with client := .writing (J.toString (healthMsg "")) }) rfl
    hfull ht).1

end PileUp

/-- The text of the health update at some time; other messages are not sent. -/
def sampleJson : Json where
  toString := fun m => match m with
    | .healthUpdate _ timestamp => 123 :: (String.toUTF8 ("\"type\":\"HealthUpdate\"," ++
        "\"hardware_data\":\x7b\"operating_system\":\"Linux\",\"avg_memory_usage\":50.0," ++
        "\"total_memory\":8589934592,\"used_memory\":4294967296,\"avg_swap_usage\":50.0," ++
        "\"total_swap\":2147483648,\"used_swap\":1073741824,\"cpu_usage\":0.5," ++
        "\"temperatures_data\":\x7b\"avg_temp\":null,\"max_temp\":null\x7d," ++
        "\"timestamp\":\"\"\x7d," ++
        "\"timestamp\":\"" ++ timestamp ++ "\"\x7d")).data.toList
    | _ => [123, 125]
  nonempty := by
    intro m
    split
    · exact List.cons_ne_nil _ _
    · exact List.cons_ne_nil _ _

/-- A heartbeat is read and the client shut down before its first tick wins. -/
theorem served_throughout_iff_shutdown : Throughout (step sampleJson) (Served sampleJson)
    (start 65536 (by decide)) [.command .heartBeat, .readCmd, .clientEnd] :=
  ((served_throughout_iff sampleJson 65536 (by decide)).1 _).mpr
    ⟨trivial, trivial, trivial, trivial⟩

/-- Updates are written and not read, without a bound; and on a connection
    that is full the loop is stuck with the next one. -/
theorem health_updates_pile_up :
    ¬ (∀ capacity room s, Reaches (step sampleJson) (fun _ _ => True) (start capacity room) s →
      s.Served sampleJson) ∧
    (∀ bound, ∃ capacity, ∃ room : 0 < capacity, ∃ s,
      Reaches (step sampleJson) (fun _ _ => True) (start capacity room) s ∧
      bound < s.backlog.length) ∧
    ∃ capacity, ∃ room : 0 < capacity, ∃ s rest,
      Reaches (step sampleJson) (fun _ _ => True) (start capacity room) s ∧
      ∀ t, Reaches (step sampleJson) Lasting s t → t.client = .writing rest := by
  refine ⟨fun h => ?_, backlog_unbounded sampleJson, update_blocks sampleJson⟩
  rcases backlog_unbounded sampleJson 0 with ⟨capacity, room, s, hr, hlen⟩
  rcases (h capacity room s hr).read with ⟨t, ht, hnil⟩
  rw [server_reads_nothing ht] at hnil
  rw [hnil, List.length_nil] at hlen
  exact Nat.lt_irrefl 0 hlen

end ControlLink

end Rathole
