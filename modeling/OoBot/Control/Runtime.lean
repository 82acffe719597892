import Mathlib.Algebra.GroupWithZero.Nat
import OoBot.Control.Messages
import OoBot.Lib.Progress
import OoBot.Text.Lines

/-!
# `run_bot`, `serve_runtime_control` and `run_signal_supervisor`: stopping the runtime

While the bot runs, four kinds of tasks hold a sender of one channel of stop commands: `run_bot` itself,
the signal supervisor, the control server, and a task for every connection that the server accepts.  The
shutdown supervisor takes one command from the channel and shuts the bot down.  When the bot has stopped,
`run_bot` tells the server, aborts the signal supervisor, drops its sender, and waits for the shutdown
supervisor and then for the server.

The tasks take their steps in any order; clients connect, write, hang up or stall as they like.

* `safe_run`: what a client is told is true, the commands are taken in the order in which they were
  accepted, and the bot is shut down at most once and only for a command.
* `stop_completes`: nothing waits for ever; once a command was accepted, or the bot has stopped by itself,
  what the tasks do comes to an end, and there the runtime has recorded its shutdown.

* A file, a socket or the parser of `serde_json` is what it answers: `parse` stands for `from_str`.
* `client.start()` and `shutdown_all` of serenity are the parameter `Serenity`.  What is assumed of it is
  named where it is used: that they return once the bot is shut down (`HeedsShutdown`), or that by itself
  `client.start()` returns only with an error (`FailsByItself`).
-/

namespace OoBot

namespace Runtime

/-! ### Messages -/

deriving instance DecidableEq for RuntimeControlStatus, ControlResponse

/-- `RuntimeControlCommand`. -/
inductive RuntimeControlCommand
  | stop (source : Text)
  deriving DecidableEq

/-- The answer to a stop request that was accepted. -/
def accepted (source : Text) : ControlResponse :=
  .ack ("stop request accepted via ".toList ++ source)

/-- The capacity of the channel. -/
def commandCapacity : ℕ := 8

/-- The error of `mpsc::Sender::send`. -/
def channelClosed : Text := "channel closed".toList

/-! ### The client -/

/-- What `client.start()` may return by itself, at any time; what it returns once `shutdown_all` has been
called, if that makes it return; and whether `shutdown_all` itself returns. -/
structure Serenity where
  mayReturn : Except Text Unit → Bool
  onShutdown : Option (Except Text Unit)
  shutdownReturns : Bool

/-- Once `shutdown_all` has been called, it returns, and so does `client.start()`. -/
structure Serenity.HeedsShutdown (client : Serenity) : Prop where
  start : client.onShutdown.isSome = true
  shutdownAll : client.shutdownReturns = true

/-- By itself, `client.start()` returns only with an error. -/
def Serenity.FailsByItself (client : Serenity) : Prop :=
  ∀ result, client.mayReturn result = true → ∃ err, result = .error err

/-! ### Tasks -/

/-- What a client has done so far: nothing, written a line, or hung up before it did. -/
inductive Input
  | silent
  | line (text : Text)
  | hungUp
  deriving DecidableEq

/-- How `handle_connection` ended, or that it was given up after `CONTROL_CONNECTION_TIMEOUT_SECS`. -/
inductive Outcome
  | unasked
  | answered (response : ControlResponse)
  | failed (err : Text)
  | timedOut
  deriving DecidableEq

/-- Where a connection is: not yet accepted, or at an `await` of `handle_connection`. -/
inductive ConnPhase
  | waiting
  | reading
  | sending (source : Text)
  | replying (response : ControlResponse)
  | closed (outcome : Outcome)
  deriving DecidableEq

/-- A connection. -/
structure Conn where
  input : Input
  phase : ConnPhase
  deriving DecidableEq

/-- How many steps it may still take. -/
def ConnPhase.rank : ConnPhase → ℕ
  | .waiting => 4
  | .reading => 3
  | .sending _ => 2
  | .replying _ => 1
  | .closed _ => 0

/-- The task of the connection holds a sender. -/
def ConnPhase.holdsSender : ConnPhase → Bool
  | .reading | .sending _ | .replying _ => true
  | _ => false

/-- Where `run_bot` is, from `client.start()` on. -/
inductive Main
  | running
  | stopped
  | toldServer
  | aborted
  | dropped
  | joinedSupervisor
  | joinedServer
  | finished
  deriving DecidableEq

/-- What is left to do. -/
def Main.rank : Main → ℕ
  | .running => 7
  | .stopped => 6
  | .toldServer => 5
  | .aborted => 4
  | .dropped => 3
  | .joinedSupervisor => 2
  | .joinedServer => 1
  | .finished => 0

/-- The shutdown supervisor. -/
inductive Supervisor
  | waiting
  | stopping (source : Text)
  | shuttingDown
  | gone
  deriving DecidableEq

/-- The signal supervisor. -/
inductive Signals
  | listening
  | sending
  | gone
  deriving DecidableEq

/-- The control server, with what it returned. -/
inductive Server
  | serving
  | ended (result : Except Text Unit)
  deriving DecidableEq

/-- The state of all tasks and of the channels between them. -/
structure Sys where
  status : RuntimeControlStatus
  main : Main
  supervisor : Supervisor
  signals : Signals
  server : Server
  /-- The value of the watch channel. -/
  shutdown : Bool
  /-- What is in the command channel. -/
  queue : List RuntimeControlCommand
  conns : List Conn
  /-- `shutdown_all` has been called. -/
  shutDown : Bool
  /-- What `client.start()` has returned. -/
  returned : Option (Except Text Unit)
  /-- The commands that were put into the channel so far. -/
  sent : List RuntimeControlCommand
  /-- The command that was taken out of it. -/
  taken : Option RuntimeControlCommand

/-- Some sender of the command channel is left. -/
def Sys.hasSender (s : Sys) : Bool :=
  decide (4 ≤ s.main.rank) || decide (s.signals ≠ .gone) || decide (s.server = .serving) ||
    s.conns.any fun c => c.phase.holdsSender

/-- The runtime when `client.start()` is called. -/
def initial (status : RuntimeControlStatus) : Sys where
  status := status
  main := .running
  supervisor := .waiting
  signals := .listening
  server := .serving
  shutdown := false
  queue := []
  conns := []
  shutDown := false
  returned := none
  sent := []
  taken := none

/-! ### Steps -/

/-- A step of a client, of the operating system, or of a task.  The first ones may happen or not; the
last ones are those that a task takes once it can. -/
inductive Action
  | connect
  | write (i : ℕ) (line : Text)
  | hangUp (i : ℕ)
  | sigterm
  | clientReturns (result : Except Text Unit)
  | acceptFails (err : Text)
  | readFails (i : ℕ) (err : Text)
  | replyFails (i : ℕ) (err : Text)
  | signalsFail
  | accept (i : ℕ)
  | read (i : ℕ)
  | send (i : ℕ)
  | reply (i : ℕ)
  | expire (i : ℕ)
  | leave
  | forward
  | receive
  | shutdownAll
  | shutdownDone
  | giveUp
  | clientStops
  | tellServer
  | abortSignals
  | dropSender
  | joinSupervisor
  | joinServer
  | recordShutdown
  deriving DecidableEq

/-- A task takes this step by itself. -/
def Action.own : Action → Bool
  | .connect | .write .. | .hangUp _ | .sigterm | .clientReturns _ | .acceptFails _ | .readFails ..
  | .replyFails .. | .signalsFail => false
  | _ => true

/-- The connection `i` moves on. -/
def Sys.setConn (s : Sys) (i : ℕ) (c : Conn) : Sys := { s with conns := s.conns.set i c }

/-- A command is put into the channel. -/
def Sys.push (s : Sys) (command : RuntimeControlCommand) : Sys :=
  { s with queue := s.queue ++ [command], sent := s.sent ++ [command] }

/-- What a connection does with the line it has read. -/
def handleLine (parse : Text → Except Text ControlRequest) (status : RuntimeControlStatus)
    (line : Text) : ConnPhase :=
  match parse (trimEnd line) with
  | .error err => .closed (.failed err)
  | .ok .status => .replying (.status status)
  | .ok (.stop source) => .sending source

/-- The state after an action, where it can be taken. -/
def step (parse : Text → Except Text ControlRequest) (client : Serenity) (s : Sys) :
    Action → Option Sys
  | .connect =>
      if s.server = .serving then some { s with conns := s.conns ++ [⟨.silent, .waiting⟩] } else none
  | .write i line =>
      match s.conns[i]? with
      | some ⟨.silent, phase⟩ => some (s.setConn i ⟨.line line, phase⟩)
      | _ => none
  | .hangUp i =>
      match s.conns[i]? with
      | some ⟨.silent, phase⟩ => some (s.setConn i ⟨.hungUp, phase⟩)
      | _ => none
  | .sigterm => if s.signals = .listening then some { s with signals := .sending } else none
  | .clientReturns result =>
      if s.main = .running ∧ client.mayReturn result = true then
        some { s with main := .stopped, returned := some result }
      else none
  | .acceptFails err =>
      if s.server = .serving then some { s with server := .ended (.error err) } else none
  | .readFails i err =>
      match s.conns[i]? with
      | some ⟨input, .reading⟩ => some (s.setConn i ⟨input, .closed (.failed err)⟩)
      | _ => none
  | .replyFails i err =>
      match s.conns[i]? with
      | some ⟨input, .replying _⟩ => some (s.setConn i ⟨input, .closed (.failed err)⟩)
      | _ => none
  | .signalsFail => if s.signals = .listening then some { s with signals := .gone } else none
  | .accept i =>
      match s.conns[i]? with
      | some ⟨input, .waiting⟩ =>
          if s.server = .serving then some (s.setConn i ⟨input, .reading⟩) else none
      | _ => none
  | .read i =>
      match s.conns[i]? with
      | some ⟨.line line, .reading⟩ => some (s.setConn i ⟨.line line, handleLine parse s.status line⟩)
      | some ⟨.hungUp, .reading⟩ => some (s.setConn i ⟨.hungUp, .closed .unasked⟩)
      | _ => none
  | .send i =>
      match s.conns[i]? with
      | some ⟨input, .sending source⟩ =>
          if s.supervisor = .gone then
            some (s.setConn i ⟨input, .closed (.failed channelClosed)⟩)
          else if s.queue.length < commandCapacity then
            some ((s.push (.stop source)).setConn i ⟨input, .replying (accepted source)⟩)
          else none
      | _ => none
  | .reply i =>
      match s.conns[i]? with
      | some ⟨input, .replying response⟩ => some (s.setConn i ⟨input, .closed (.answered response)⟩)
      | _ => none
  | .expire i =>
      match s.conns[i]? with
      | some ⟨input, phase⟩ =>
          if phase.holdsSender then some (s.setConn i ⟨input, .closed .timedOut⟩) else none
      | none => none
  | .leave =>
      if s.server = .serving ∧ s.shutdown = true then some { s with server := .ended (.ok ()) }
      else none
  | .forward =>
      if s.signals = .sending then
        if s.supervisor = .gone then some { s with signals := .gone }
        else if s.queue.length < commandCapacity then
          some { s.push (.stop "signal:SIGTERM".toList) with signals := .gone }
        else none
      else none
  | .receive =>
      match s.supervisor, s.queue with
      | .waiting, .stop source :: rest =>
          some { s with supervisor := .stopping source, queue := rest, taken := some (.stop source) }
      | _, _ => none
  | .shutdownAll =>
      match s.supervisor with
      | .stopping _ => some { s with supervisor := .shuttingDown, shutDown := true }
      | _ => none
  | .shutdownDone =>
      if s.supervisor = .shuttingDown ∧ client.shutdownReturns = true then
        some { s with supervisor := .gone }
      else none
  | .giveUp =>
      if s.supervisor = .waiting ∧ s.queue = [] ∧ s.hasSender = false then
        some { s with supervisor := .gone }
      else none
  | .clientStops =>
      match client.onShutdown with
      | some result =>
          if s.main = .running ∧ s.shutDown = true then
            some { s with main := .stopped, returned := some result }
          else none
      | none => none
  | .tellServer =>
      if s.main = .stopped then some { s with main := .toldServer, shutdown := true } else none
  | .abortSignals =>
      if s.main = .toldServer then some { s with main := .aborted, signals := .gone } else none
  | .dropSender => if s.main = .aborted then some { s with main := .dropped } else none
  | .joinSupervisor =>
      if s.main = .dropped ∧ s.supervisor = .gone then some { s with main := .joinedSupervisor }
      else none
  | .joinServer =>
      match s.server with
      | .ended _ =>
          if s.main = .joinedSupervisor then some { s with main := .joinedServer } else none
      | .serving => none
  | .recordShutdown =>
      if s.main = .joinedServer then some { s with main := .finished } else none

/-! ### What holds in every state -/

/-- What is being written to the client, or was. -/
def ConnPhase.response? : ConnPhase → Option ControlResponse
  | .replying response | .closed (.answered response) => some response
  | _ => none

/-- The client is told that its stop request was accepted. -/
def Conn.acknowledges (source : Text) (c : Conn) : Bool :=
  decide (c.phase.response? = some (accepted source))

/-- What is true of the runtime in every order of steps. -/
structure Safe (client : Serenity) (s : Sys) : Prop where
  /-- The commands are taken in the order in which they were put in. -/
  fifo : s.sent = s.taken.toList ++ s.queue
  capacity : s.queue.length ≤ commandCapacity
  waiting : s.supervisor = .waiting → s.taken = none ∧ s.shutDown = false
  stopping : ∀ source, s.supervisor = .stopping source →
    s.taken = some (.stop source) ∧ s.shutDown = false
  shuttingDown : s.supervisor = .shuttingDown → s.taken.isSome = true ∧ s.shutDown = true
  gone : s.supervisor = .gone → s.shutDown = s.taken.isSome
  /-- Without a command, the supervisor waits as long as `run_bot` has a sender. -/
  gaveUp : s.supervisor = .gone → s.taken = none → s.main.rank ≤ 3
  /-- A client is told the status of this runtime, or that its command was accepted. -/
  answers : ∀ c ∈ s.conns, ∀ response, c.phase.response? = some response →
    response = .status s.status ∨ ∃ source, response = accepted source
  /-- No more clients are told so than commands were put in. -/
  acknowledged : ∀ source, s.conns.countP (Conn.acknowledges source) ≤ s.sent.count (.stop source)
  running : s.main = .running ∨ s.returned ≠ none
  /-- The bot was shut down, or `client.start()` has returned by itself. -/
  returned : ∀ result, s.returned = some result → s.shutDown = true ∨ client.mayReturn result = true
  toldServer : s.main.rank ≤ 5 → s.shutdown = true
  aborted : s.main.rank ≤ 4 → s.signals = .gone
  joinedSupervisor : s.main.rank ≤ 2 → s.supervisor = .gone
  joinedServer : s.main.rank ≤ 1 → s.server ≠ .serving

theorem safe_initial (client : Serenity) (status : RuntimeControlStatus) :
    Safe client (initial status) where
  fifo := rfl
  capacity := Nat.zero_le _
  waiting _ := ⟨rfl, rfl⟩
  stopping source h := by cases h
  shuttingDown h := by cases h
  gone h := by cases h
  gaveUp h := by cases h
  answers c hc := by cases hc
  acknowledged source := Nat.zero_le _
  running := Or.inl rfl
  returned result h := by cases h
  toldServer h := by simp [initial, Main.rank] at h
  aborted h := by simp [initial, Main.rank] at h
  joinedSupervisor h := by simp [initial, Main.rank] at h
  joinedServer h := by simp [initial, Main.rank] at h

section Safe

variable {parse : Text → Except Text ControlRequest} {client : Serenity} {s s' : Sys} {a : Action}
  {i : ℕ} {c c' : Conn}

/-- One connection moves on: what its client is told stays, is given up, or is the status. -/
def MovesConn (own : Bool) (s s' : Sys) : Prop :=
  ∃ i c c', s.conns[i]? = some c ∧ s' = s.setConn i c' ∧
    (c'.phase.response? = c.phase.response? ∨ c'.phase.response? = none ∨
      c'.phase.response? = some (.status s.status)) ∧
    (own = true → c'.phase.rank < c.phase.rank)

/-- The actions on one connection that leave the channel alone. -/
def Action.onConn : Action → Bool
  | .write .. | .hangUp _ | .readFails .. | .replyFails .. | .accept _ | .read _ | .reply _
  | .expire _ => true
  | _ => false

theorem handleLine_moves (parse : Text → Except Text ControlRequest) (status : RuntimeControlStatus)
    (line : Text) :
    ((handleLine parse status line).response? = none ∨
      (handleLine parse status line).response? = some (.status status)) ∧
    (handleLine parse status line).rank < 3 := by
  unfold handleLine
  split
  · exact ⟨Or.inl rfl, Nat.zero_lt_succ 2⟩
  · exact ⟨Or.inr rfl, Nat.one_lt_succ_succ 1⟩
  · exact ⟨Or.inl rfl, Nat.lt_succ_self 2⟩

/-- **The actions on one connection** move just this one. -/
theorem step_moves (ha : a.onConn = true) (h : step parse client s a = some s') : MovesConn a.own s s' := by
  cases a with
  | write i line | hangUp i =>
    simp only [step] at h
    split at h
    case h_1 phase hc =>
      cases h
      exact ⟨i, _, _, hc, rfl, Or.inl rfl, fun h => by cases h⟩
    case h_2 => cases h
  | readFails i err | replyFails i err =>
    simp only [step] at h
    split at h
    case h_1 hc =>
      cases h
      exact ⟨i, _, _, hc, rfl, Or.inr (Or.inl rfl), fun h => by cases h⟩
    case h_2 => cases h
  | accept i =>
    simp only [step] at h
    split at h
    case h_1 hc =>
      split at h
      · cases h
        exact ⟨i, _, _, hc, rfl, Or.inl rfl, fun _ => Nat.lt_succ_self 3⟩
      · cases h
    case h_2 => cases h
  | read i =>
    simp only [step] at h
    split at h
    case h_1 line hc =>
      cases h
      obtain ⟨hresp, hrank⟩ := handleLine_moves parse s.status line
      exact ⟨i, _, _, hc, rfl, Or.inr hresp, fun _ => hrank⟩
    case h_2 hc =>
      cases h
      exact ⟨i, _, _, hc, rfl, Or.inl rfl, fun _ => Nat.zero_lt_succ 2⟩
    case h_3 => cases h
  | reply i =>
    simp only [step] at h
    split at h
    case h_1 hc =>
      cases h
      exact ⟨i, _, _, hc, rfl, Or.inl rfl, fun _ => Nat.zero_lt_succ 0⟩
    case h_2 => cases h
  | expire i =>
    simp only [step] at h
    split at h
    case h_1 input phase hc =>
      split at h
      case isTrue hholds =>
        cases h
        refine ⟨i, _, _, hc, rfl, Or.inr (Or.inl rfl), fun _ => ?_⟩
        cases phase with
        | reading | sending | replying => exact Nat.zero_lt_succ _
        | waiting | closed => cases hholds
      case isFalse => cases h
    case h_2 => cases h
  | _ => cases ha

theorem accepted_inj {source source' : Text} : accepted source = accepted source' ↔ source = source' := by
  unfold accepted
  rw [ControlResponse.ack.injEq, List.append_cancel_left_eq]

/-- The connections around the one that moves on. -/
theorem conns_split (hc : s.conns[i]? = some c) :
    ∃ before after, s.conns = before ++ c :: after ∧
      ∀ c', s.conns.set i c' = before ++ c' :: after := by
  obtain ⟨hlt, rfl⟩ := List.getElem?_eq_some_iff.1 hc
  refine ⟨s.conns.take i, s.conns.drop (i + 1), ?_, fun c' => ?_⟩
  · rw [List.getElem_cons_drop hlt, List.take_append_drop]
  · rw [List.set_eq_take_append_cons_drop, if_pos hlt]

/-- How many clients are told so after one connection has moved on. -/
theorem countP_setConn (c' : Conn) (hc : s.conns[i]? = some c) (p : Conn → Bool) :
    (s.conns.set i c').countP p + (if p c then 1 else 0) =
      s.conns.countP p + (if p c' then 1 else 0) := by
  obtain ⟨before, after, hconns, hset⟩ := conns_split hc
  rw [hset, hconns, List.countP_append, List.countP_append, List.countP_cons, List.countP_cons]
  omega

/-- A connection that moves on is safe when what its client is told is. -/
theorem Safe.setConn (hs : Safe client s)
    (hans : ∀ response, c'.phase.response? = some response →
      response = .status s.status ∨ ∃ source, response = accepted source)
    (hack : ∀ source, (s.conns.set i c').countP (Conn.acknowledges source) ≤
      s.sent.count (.stop source)) : Safe client (s.setConn i c') :=
  { hs with
    answers := by
      rintro d hd response hresp
      rcases List.mem_or_eq_of_mem_set hd with hd | rfl
      · exact hs.answers d hd response hresp
      · exact hans response hresp
    acknowledged := hack }

theorem Safe.moves {own : Bool} (hs : Safe client s) (h : MovesConn own s s') : Safe client s' := by
  obtain ⟨i, c, c', hc, rfl, hresp, -⟩ := h
  have hmem : c ∈ s.conns := List.mem_of_getElem? hc
  apply hs.setConn
  · rintro response hr
    rcases hresp with h | h | h
    · exact hs.answers c hmem response (h ▸ hr)
    · rw [h] at hr
      cases hr
    · rw [h] at hr
      cases hr
      exact Or.inl rfl
  · intro source
    -- whoever is told that his request was accepted was told so before
    have hkeep : Conn.acknowledges source c' = true → Conn.acknowledges source c = true := by
      unfold Conn.acknowledges
      rw [decide_eq_true_iff, decide_eq_true_iff]
      rcases hresp with h | h | h
      · rw [h]
        exact id
      · rw [h]
        exact fun h => by cases h
      · rw [h]
        exact fun h => by cases h
    have hcount := countP_setConn c' hc (Conn.acknowledges source)
    have hbefore := hs.acknowledged source
    split at hcount <;> split at hcount <;> first | omega | simp_all

/-- A command is put into the channel while there is room in it. -/
theorem Safe.push (hs : Safe client s) (command : RuntimeControlCommand)
    (hroom : s.queue.length < commandCapacity) : Safe client (s.push command) :=
  { hs with
    fifo := by
      show s.sent ++ [command] = s.taken.toList ++ (s.queue ++ [command])
      rw [hs.fifo, List.append_assoc]
    capacity := by
      show (s.queue ++ [command]).length ≤ commandCapacity
      rw [List.length_append, List.length_singleton]
      exact hroom
    acknowledged := fun source => by
      show _ ≤ (s.sent ++ [command]).count _
      rw [List.count_append]
      exact Nat.le_add_right_of_le (hs.acknowledged source) }

/-- A stop request is accepted, and its client will be told so. -/
theorem Safe.send {input : Input} {source : Text} (hs : Safe client s)
    (hc : s.conns[i]? = some ⟨input, .sending source⟩) (hroom : s.queue.length < commandCapacity) :
    Safe client ((s.push (.stop source)).setConn i ⟨input, .replying (accepted source)⟩) := by
  apply (hs.push _ hroom).setConn
  · rintro response ⟨⟩
    exact Or.inr ⟨source, rfl⟩
  · intro source'
    show (s.conns.set i _).countP _ ≤ (s.sent ++ [_]).count _
    have hcount := countP_setConn ⟨input, .replying (accepted source)⟩ hc
      (Conn.acknowledges source')
    have hbefore := hs.acknowledged source'
    have hnot : Conn.acknowledges source' ⟨input, .sending source⟩ = false := rfl
    rw [hnot, if_neg Bool.false_ne_true, Nat.add_zero] at hcount
    rw [hcount, List.count_append, List.count_singleton]
    by_cases heq : source = source'
    · subst heq
      rw [if_pos (beq_self_eq_true _)]
      split <;> omega
    · have hother : Conn.acknowledges source' ⟨input, .replying (accepted source)⟩ = false := by
        refine decide_eq_false fun h => heq ?_
        exact accepted_inj.1 (Option.some.inj h)
      rw [hother, if_neg Bool.false_ne_true]
      omega

/-- What has to hold when `run_bot` gets there. -/
def Main.Entered (s : Sys) : Main → Prop
  | .running => False
  | .stopped => s.returned ≠ none
  | .toldServer => s.shutdown = true
  | .aborted => s.signals = .gone
  | .dropped => True
  | .joinedSupervisor => s.supervisor = .gone
  | .joinedServer => s.server ≠ .serving
  | .finished => True

/-- `run_bot` goes on to the next thing that it does. -/
theorem Safe.next {m : Main} (hs : Safe client s) (hnext : m.rank + 1 = s.main.rank) (hm : m.Entered s) :
    Safe client { s with main := m } :=
  { hs with
    gaveUp := fun hgone htaken => by
      have hrank := hs.gaveUp hgone htaken
      show m.rank ≤ 3
      omega
    running := by
      cases m with
      | running => exact hm.elim
      | stopped => exact Or.inr hm
      | _ => exact hs.running.imp_left fun h => by rw [h] at hnext; cases hnext
    toldServer := fun hrank => by
      rcases Nat.lt_or_ge m.rank 5 with hlt | hge
      · exact hs.toldServer (by omega)
      · cases m with
        | toldServer => exact hm
        | _ => simp only [Main.rank] at hrank hge; omega
    aborted := fun hrank => by
      rcases Nat.lt_or_ge m.rank 4 with hlt | hge
      · exact hs.aborted (by omega)
      · cases m with
        | aborted => exact hm
        | _ => simp only [Main.rank] at hrank hge; omega
    joinedSupervisor := fun hrank => by
      rcases Nat.lt_or_ge m.rank 2 with hlt | hge
      · exact hs.joinedSupervisor (by omega)
      · cases m with
        | joinedSupervisor => exact hm
        | _ => simp only [Main.rank] at hrank hge; omega
    joinedServer := fun hrank => by
      rcases Nat.lt_or_ge m.rank 1 with hlt | hge
      · exact hs.joinedServer (by omega)
      · cases m with
        | joinedServer => exact hm
        | _ => simp only [Main.rank] at hrank hge; omega }

/-- `client.start()` returns, by itself or because the bot was shut down. -/
theorem Safe.clientReturns {result : Except Text Unit} (hs : Safe client s)
    (hresult : s.shutDown = true ∨ client.mayReturn result = true) :
    Safe client { s with returned := some result } :=
  { hs with
    running := Or.inr (Option.some_ne_none _)
    returned := by
      rintro _ ⟨⟩
      exact hresult }

/-- Nobody can send a command any more once no sender is left. -/
theorem hasSender_eq_false_iff :
    s.hasSender = false ↔ s.main.rank ≤ 3 ∧ s.signals = .gone ∧ s.server ≠ .serving ∧
      ∀ c ∈ s.conns, c.phase.holdsSender = false := by
  unfold Sys.hasSender
  simp only [Bool.or_eq_false_iff, decide_eq_false_iff_not, not_not, List.any_eq_false,
    Bool.not_eq_true, and_assoc, Nat.not_le, Nat.lt_succ_iff]

/-- **One step** keeps what is true of the runtime. -/
theorem safe_step (h : step parse client s a = some s') (hs : Safe client s) : Safe client s' := by
  cases a with
  | write | hangUp | readFails | replyFails | accept | read | reply | expire =>
    exact hs.moves (step_moves rfl h)
  | connect =>
    simp only [step] at h
    split at h
    case isFalse => cases h
    cases h
    exact { hs with
      answers := by
        rintro c hc response hresp
        rcases List.mem_append.1 hc with hc | hc
        · exact hs.answers c hc response hresp
        · rw [List.mem_singleton.1 hc] at hresp
          cases hresp
      acknowledged := fun source => by
        show (s.conns ++ [_]).countP _ ≤ _
        rw [List.countP_append]
        exact hs.acknowledged source }
  | send i =>
    simp only [step] at h
    split at h
    case h_2 => cases h
    case h_1 input source hc =>
      split at h
      case isTrue =>
        cases h
        have hmoves : MovesConn true s (s.setConn i ⟨input, .closed (.failed channelClosed)⟩) :=
          ⟨i, _, _, hc, rfl, Or.inr (Or.inl rfl), fun _ => Nat.zero_lt_succ 1⟩
        exact hs.moves hmoves
      case isFalse =>
        split at h
        case isTrue hroom =>
          cases h
          exact hs.send hc hroom
        case isFalse => cases h
  | sigterm | signalsFail =>
    simp only [step] at h
    split at h
    case isFalse => cases h
    case isTrue hlisten =>
      cases h
      exact { hs with aborted := fun hrank => nomatch (hs.aborted hrank).symm.trans hlisten }
  | clientReturns result =>
    simp only [step] at h
    split at h
    case isFalse => cases h
    case isTrue hmain =>
      cases h
      exact (hs.clientReturns (Or.inr hmain.2)).next (by rw [hmain.1]; rfl) (Option.some_ne_none _)
  | acceptFails err | leave =>
    simp only [step] at h
    split at h
    case isFalse => cases h
    case isTrue hserve =>
      cases h
      exact { hs with joinedServer := fun _ h => by cases h }
  | forward =>
    simp only [step] at h
    split at h
    case isFalse => cases h
    split at h
    case isTrue =>
      cases h
      exact { hs with aborted := fun _ => rfl }
    case isFalse =>
      split at h
      case isTrue hroom =>
        cases h
        exact { hs.push _ hroom with aborted := fun _ => rfl }
      case isFalse => cases h
  | receive =>
    simp only [step] at h
    split at h
    case h_2 => cases h
    case h_1 source rest hwait hqueue =>
      cases h
      obtain ⟨htaken, hdown⟩ := hs.waiting hwait
      exact { hs with
        fifo := by
          show s.sent = .stop source :: rest
          rw [hs.fifo, htaken, hqueue]
          rfl
        capacity := by
          have hcap := hs.capacity
          rw [hqueue, List.length_cons] at hcap
          exact Nat.le_of_succ_le hcap
        waiting := fun h => by cases h
        stopping := by
          rintro _ ⟨⟩
          exact ⟨rfl, hdown⟩
        shuttingDown := fun h => by cases h
        gone := fun h => by cases h
        gaveUp := fun h => by cases h
        joinedSupervisor := fun hrank => by
          rw [hs.joinedSupervisor hrank] at hwait
          cases hwait }
  | shutdownAll =>
    simp only [step] at h
    split at h
    case h_2 => cases h
    case h_1 source hstop =>
      cases h
      obtain ⟨htaken, -⟩ := hs.stopping source hstop
      exact { hs with
        waiting := fun h => by cases h
        stopping := fun _ h => by cases h
        shuttingDown := fun _ => ⟨by rw [htaken]; rfl, rfl⟩
        gone := fun h => by cases h
        gaveUp := fun h => by cases h
        returned := fun _ _ => Or.inl rfl
        joinedSupervisor := fun hrank => by
          rw [hs.joinedSupervisor hrank] at hstop
          cases hstop }
  | shutdownDone =>
    simp only [step] at h
    split at h
    case isFalse => cases h
    case isTrue hdone =>
      cases h
      obtain ⟨htaken, hdown⟩ := hs.shuttingDown hdone.1
      exact { hs with
        waiting := fun h => by cases h
        stopping := fun _ h => by cases h
        shuttingDown := fun h => by cases h
        gone := fun _ => hdown.trans htaken.symm
        gaveUp := fun _ hnone => by
          have hnone : s.taken = none := hnone
          rw [hnone] at htaken
          cases htaken
        joinedSupervisor := fun _ => rfl }
  | giveUp =>
    simp only [step] at h
    split at h
    case isFalse => cases h
    case isTrue hgive =>
      obtain ⟨hwait, -, hsender⟩ := hgive
      cases h
      obtain ⟨htaken, hdown⟩ := hs.waiting hwait
      exact { hs with
        waiting := fun h => by cases h
        stopping := fun _ h => by cases h
        shuttingDown := fun h => by cases h
        gone := fun _ => by rw [htaken]; exact hdown
        gaveUp := fun _ _ => (hasSender_eq_false_iff.1 hsender).1
        joinedSupervisor := fun _ => rfl }
  | clientStops =>
    simp only [step] at h
    split at h
    case h_2 => cases h
    split at h
    case isFalse => cases h
    case isTrue hmain =>
      cases h
      exact (hs.clientReturns (Or.inl hmain.2)).next (by rw [hmain.1]; rfl) (Option.some_ne_none _)
  | tellServer =>
    simp only [step] at h
    split at h
    case isFalse => cases h
    case isTrue hmain =>
      cases h
      have htold : Safe client { s with shutdown := true } := { hs with toldServer := fun _ => rfl }
      exact htold.next (by rw [hmain]; rfl) rfl
  | abortSignals =>
    simp only [step] at h
    split at h
    case isFalse => cases h
    case isTrue hmain =>
      cases h
      have hgone : Safe client { s with signals := .gone } := { hs with aborted := fun _ => rfl }
      exact hgone.next (by rw [hmain]; rfl) rfl
  | dropSender | recordShutdown =>
    simp only [step] at h
    split at h
    case isFalse => cases h
    case isTrue hmain =>
      cases h
      exact hs.next (by rw [hmain]; rfl) trivial
  | joinSupervisor =>
    simp only [step] at h
    split at h
    case isFalse => cases h
    case isTrue hmain =>
      cases h
      exact hs.next (by rw [hmain.1]; rfl) hmain.2
  | joinServer =>
    simp only [step] at h
    split at h
    case h_2 => cases h
    case h_1 result hended =>
      split at h
      case isFalse => cases h
      case isTrue hmain =>
        cases h
        refine hs.next (by rw [hmain]; rfl) ?_
        show s.server ≠ .serving
        rw [hended]
        rintro ⟨⟩

/-- What the runtime says of itself stays, the commands that were put in stay, and `run_bot` never goes
back. -/
theorem step_frame (h : step parse client s a = some s') :
    s'.status = s.status ∧ s.sent <+: s'.sent ∧ s'.main.rank ≤ s.main.rank := by
  cases a with
  | write | hangUp | readFails | replyFails | accept | read | reply | expire =>
    obtain ⟨i, c, c', -, rfl, -⟩ := step_moves rfl h
    exact ⟨rfl, List.prefix_rfl, Nat.le_refl _⟩
  | send i =>
    simp only [step] at h
    split at h
    case h_2 => cases h
    split at h
    case isTrue => cases h; exact ⟨rfl, List.prefix_rfl, Nat.le_refl _⟩
    split at h
    case isTrue => cases h; exact ⟨rfl, List.prefix_append .., Nat.le_refl _⟩
    case isFalse => cases h
  | forward =>
    simp only [step] at h
    split at h
    case isFalse => cases h
    split at h
    case isTrue => cases h; exact ⟨rfl, List.prefix_rfl, Nat.le_refl _⟩
    split at h
    case isTrue => cases h; exact ⟨rfl, List.prefix_append .., Nat.le_refl _⟩
    case isFalse => cases h
  | connect | sigterm | acceptFails | signalsFail | leave | giveUp | shutdownDone =>
    simp only [step] at h
    split at h
    case isTrue => cases h; exact ⟨rfl, List.prefix_rfl, Nat.le_refl _⟩
    case isFalse => cases h
  | receive | shutdownAll =>
    simp only [step] at h
    split at h
    case h_1 => cases h; exact ⟨rfl, List.prefix_rfl, Nat.le_refl _⟩
    case h_2 => cases h
  | joinServer =>
    simp only [step] at h
    split at h
    case h_2 => cases h
    split at h
    case isTrue hmain => cases h; exact ⟨rfl, List.prefix_rfl, by rw [hmain]; exact Nat.le_succ _⟩
    case isFalse => cases h
  | clientStops =>
    simp only [step] at h
    split at h
    case h_2 => cases h
    split at h
    case isTrue hmain => cases h; exact ⟨rfl, List.prefix_rfl, by rw [hmain.1]; exact Nat.le_succ _⟩
    case isFalse => cases h
  | clientReturns | joinSupervisor =>
    simp only [step] at h
    split at h
    case isTrue hmain => cases h; exact ⟨rfl, List.prefix_rfl, by rw [hmain.1]; exact Nat.le_succ _⟩
    case isFalse => cases h
  | tellServer | abortSignals | dropSender | recordShutdown =>
    simp only [step] at h
    split at h
    case isTrue hmain => cases h; exact ⟨rfl, List.prefix_rfl, by rw [hmain]; exact Nat.le_succ _⟩
    case isFalse => cases h

/-- **What holds in whatever order the tasks and the clients take their steps**, whatever `client.start()`
does.  The bot is shut down for the first command that was put into the channel, and for nothing else; so
it was if `client.start()` returned without an error, provided that it does not do that by itself. -/
theorem safe_run {status : RuntimeControlStatus} {as : List Action}
    (h : Progress.Run (step parse client) (initial status) as s) :
    Safe client s ∧ s.status = status ∧
      (s.shutDown = true → ∃ source, s.sent.head? = some (.stop source) ∧
        s.taken = some (.stop source)) ∧
      (client.FailsByItself → s.returned = some (.ok ()) → s.shutDown = true) := by
  have hinv := h.inv (I := fun s => Safe client s ∧ s.status = status)
    (fun s a s' hstep hs => ⟨safe_step hstep hs.1, (step_frame hstep).1.trans hs.2⟩)
    ⟨safe_initial client status, rfl⟩
  obtain ⟨hs, hstatus⟩ := hinv
  refine ⟨hs, hstatus, fun hdown => ?_, fun hclient hok => ?_⟩
  case refine_2 =>
    refine (hs.returned _ hok).resolve_right fun hmay => ?_
    obtain ⟨err, herr⟩ := hclient _ hmay
    cases herr
  have htaken : s.taken.isSome = true := by
    cases hsup : s.supervisor with
    | waiting => rw [(hs.waiting hsup).2] at hdown; cases hdown
    | stopping source => rw [(hs.stopping source hsup).2] at hdown; cases hdown
    | shuttingDown => exact (hs.shuttingDown hsup).1
    | gone => exact (hs.gone hsup).symm.trans hdown
  obtain ⟨⟨source⟩, htaken⟩ := Option.isSome_iff_exists.1 htaken
  refine ⟨source, ?_, htaken⟩
  rw [hs.fifo, htaken]
  rfl

/-- An operator asks for the status and another one for the stop, as `serde_json` reads it. -/
def twoRequests : Text → Except Text ControlRequest := fun line =>
  if line = "\x7b\"kind\":\"status\"\x7d".toList then .ok .status
  else if line = "\x7b\"kind\":\"stop\",\"source\":\"tui\"\x7d".toList then .ok (.stop "tui".toList)
  else .error "expected value at line 1 column 1".toList

def sampleStatus : RuntimeControlStatus where
  state := "running".toList
  pid := 1234
  startedAtUnix := 42
  configPath := "config/oo-bot.yaml".toList
  configFingerprint := "fingerprint".toList
  detectorBackend := "MorphologicalReading".toList
  activeLsm := "apparmor".toList
  hardeningStatus := "ok".toList
  socketPath := "/run/oo-bot/control.sock".toList

/-- A client that heeds the shutdown, and by itself returns only with an error. -/
def sampleClient : Serenity where
  mayReturn
    | .ok () => false
    | .error _ => true
  onShutdown := some (.ok ())
  shutdownReturns := true

theorem sampleClient_failsByItself : sampleClient.FailsByItself := by
  rintro (err | ⟨⟩) h
  · exact ⟨err, rfl⟩
  · cases h

theorem sampleClient_heedsShutdown : sampleClient.HeedsShutdown := ⟨rfl, rfl⟩

/-- The first client asks for the status, the second one for the stop; the bot is shut down before the
first one has read its answer. -/
def stopRequested : List Action :=
  [.connect, .connect, .accept 1, .accept 0,
    .write 1 "\x7b\"kind\":\"stop\",\"source\":\"tui\"\x7d\n".toList,
    .write 0 "\x7b\"kind\":\"status\"\x7d\n".toList, .read 1, .send 1, .read 0, .receive, .reply 1,
    .shutdownAll, .clientStops]

def afterStopRequest : Sys :=
  (Progress.exec (step twoRequests sampleClient) (initial sampleStatus) stopRequested).get
    (by decide +kernel)

theorem run_stopRequested :
    Progress.Run (step twoRequests sampleClient) (initial sampleStatus) stopRequested afterStopRequest :=
  Progress.run_of_exec (Option.some_get _).symm

theorem safe_run_stopRequested :
    Safe sampleClient afterStopRequest ∧ ∃ source, afterStopRequest.sent.head? = some (.stop source) ∧
      afterStopRequest.taken = some (.stop source) := by
  obtain ⟨hsafe, -, hstopped, hdown⟩ := safe_run run_stopRequested
  exact ⟨hsafe, hstopped (hdown sampleClient_failsByItself (by decide +kernel))⟩

end Safe

/-! ### What the tasks come to -/

/-- How many steps it may still take. -/
def Supervisor.rank : Supervisor → ℕ
  | .waiting => 3
  | .stopping _ => 2
  | .shuttingDown => 1
  | .gone => 0

/-- How many steps it may still take. -/
def Signals.rank : Signals → ℕ
  | .listening => 2
  | .sending => 1
  | .gone => 0

/-- How many steps it may still take. -/
def Server.rank : Server → ℕ
  | .serving => 1
  | .ended _ => 0

/-- How many steps the tasks may still take. -/
def Sys.rank (s : Sys) : ℕ :=
  s.main.rank + s.supervisor.rank + s.signals.rank + s.server.rank +
    (s.conns.map fun c => c.phase.rank).sum

section Progress

variable {parse : Text → Except Text ControlRequest} {client : Serenity} {s s' : Sys} {a : Action}
  {i : ℕ} {c c' : Conn}

theorem rank_setConn_lt (hc : s.conns[i]? = some c) (hlt : c'.phase.rank < c.phase.rank) :
    (s.setConn i c').rank < s.rank := by
  obtain ⟨before, after, hconns, hset⟩ := conns_split hc
  unfold Sys.rank Sys.setConn
  rw [hset, hconns]
  simp only [List.map_append, List.map_cons, List.sum_append, List.sum_cons]
  omega

/-- **A task that takes a step of its own** has one step less before it. -/
theorem rank_step (ha : a.own = true) (h : step parse client s a = some s') : s'.rank < s.rank := by
  cases a with
  | accept | read | reply | expire =>
    obtain ⟨i, c, c', hc, rfl, -, hlt⟩ := step_moves rfl h
    exact rank_setConn_lt hc (hlt rfl)
  | send i =>
    simp only [step] at h
    split at h
    case h_2 => cases h
    case h_1 input source hc =>
      split at h
      case isTrue => cases h; exact rank_setConn_lt hc (Nat.zero_lt_succ 1)
      case isFalse =>
        split at h
        case isTrue =>
          cases h
          exact rank_setConn_lt hc (Nat.lt_succ_self 1)
        case isFalse => cases h
  | leave =>
    simp only [step] at h
    split at h
    case isFalse => cases h
    case isTrue hserve => cases h; simp [Sys.rank, hserve.1, Server.rank]
  | forward =>
    simp only [step] at h
    split at h
    case isFalse => cases h
    case isTrue hsend =>
      split at h
      case isTrue => cases h; simp [Sys.rank, hsend, Signals.rank]
      case isFalse =>
        split at h
        case isTrue => cases h; simp [Sys.rank, hsend, Signals.rank, Sys.push]
        case isFalse => cases h
  | receive =>
    simp only [step] at h
    split at h
    case h_2 => cases h
    case h_1 hwait _ => cases h; simp [Sys.rank, hwait, Supervisor.rank]
  | shutdownAll =>
    simp only [step] at h
    split at h
    case h_2 => cases h
    case h_1 hstop => cases h; simp [Sys.rank, hstop, Supervisor.rank]
  | giveUp | shutdownDone =>
    simp only [step] at h
    split at h
    case isFalse => cases h
    case isTrue hwait => cases h; simp [Sys.rank, hwait.1, Supervisor.rank]
  | abortSignals =>
    simp only [step] at h
    split at h
    case isFalse => cases h
    case isTrue hmain => cases h; simp [Sys.rank, hmain, Main.rank, Signals.rank]; omega
  | joinServer =>
    simp only [step] at h
    split at h
    case h_2 => cases h
    split at h
    case isFalse => cases h
    case isTrue hmain => cases h; simp [Sys.rank, hmain, Main.rank]
  | clientStops =>
    simp only [step] at h
    split at h
    case h_2 => cases h
    split at h
    case isFalse => cases h
    case isTrue hmain => cases h; simp [Sys.rank, hmain.1, Main.rank]
  | joinSupervisor =>
    simp only [step] at h
    split at h
    case isFalse => cases h
    case isTrue hmain => cases h; simp [Sys.rank, hmain.1, Main.rank]
  | tellServer | dropSender | recordShutdown =>
    simp only [step] at h
    split at h
    case isFalse => cases h
    case isTrue hmain => cases h; simp [Sys.rank, hmain, Main.rank]
  | _ => cases ha

/-- No task can take a step. -/
def Idle (parse : Text → Except Text ControlRequest) (client : Serenity) (s : Sys) : Prop :=
  Progress.Stuck (step parse client) (fun a => a.own = true) s

/-- Every connection that was accepted is over in the end, since it is given up otherwise. -/
theorem Idle.conns (h : Idle parse client s) {c : Conn} (hc : c ∈ s.conns) : c.phase.holdsSender = false := by
  obtain ⟨i, hi⟩ := List.mem_iff_getElem?.1 hc
  have hstuck := h (.expire i) rfl
  simp only [step, hi] at hstuck
  split at hstuck
  case isTrue => cases hstuck
  case isFalse hholds => exact Bool.not_eq_true _ ▸ hholds

/-- The shutdown supervisor has ended, or it waits and there is nothing to take. -/
theorem Idle.supervisor (hclient : client.HeedsShutdown) (h : Idle parse client s) :
    s.supervisor = .gone ∨ (s.supervisor = .waiting ∧ s.queue = []) := by
  cases hsup : s.supervisor with
  | gone => exact Or.inl rfl
  | shuttingDown =>
    have hstuck := h .shutdownDone rfl
    simp [step, hsup, hclient.shutdownAll] at hstuck
  | stopping source =>
    have hstuck := h .shutdownAll rfl
    simp only [step, hsup] at hstuck
    cases hstuck
  | waiting =>
    cases hqueue : s.queue with
    | nil => exact Or.inr ⟨rfl, rfl⟩
    | cons command rest =>
      obtain ⟨source⟩ := command
      have hstuck := h .receive rfl
      simp only [step, hsup, hqueue] at hstuck
      cases hstuck

/-- **Where no task can take a step**, the runtime has recorded its shutdown, or the bot runs and nobody
has asked for its end, if serenity heeds the shutdown. -/
theorem Idle.finished (hclient : client.HeedsShutdown) (hs : Safe client s) (h : Idle parse client s) :
    s.main = .finished ∨ (s.main = .running ∧ s.sent = []) := by
  cases hmain : s.main with
  | finished => exact Or.inl rfl
  | running =>
    refine Or.inr ⟨rfl, ?_⟩
    -- the bot has not been shut down, so the supervisor has taken nothing, and nothing is left for it
    have hdown : s.shutDown = false := by
      obtain ⟨result, hresult⟩ := Option.isSome_iff_exists.1 hclient.start
      have hstuck := h .clientStops rfl
      simpa [step, hresult, hmain] using hstuck
    rcases h.supervisor hclient with hgone | ⟨hwait, hqueue⟩
    · have htaken : s.taken = none := by
        rw [hs.gone hgone] at hdown
        exact Option.isNone_iff_eq_none.1 (Option.isSome_eq_false_iff.1 hdown)
      have hrank := hs.gaveUp hgone htaken
      rw [hmain] at hrank
      exact absurd hrank (by decide)
    · rw [hs.fifo, (hs.waiting hwait).1, hqueue]
      rfl
  | dropped =>
    have hserver : s.server ≠ .serving := by
      have hstuck := h .leave rfl
      have htold := hs.toldServer (by rw [hmain]; decide)
      simpa [step, htold] using hstuck
    have hsignals : s.signals = .gone := hs.aborted (by rw [hmain]; decide)
    -- no sender is left, so the supervisor does not wait
    have hsender : s.hasSender = false := by
      refine hasSender_eq_false_iff.2 ⟨by rw [hmain]; decide, hsignals, hserver, ?_⟩
      exact fun c hc => h.conns hc
    rcases h.supervisor hclient with hgone | ⟨hwait, hqueue⟩
    · have hstuck := h .joinSupervisor rfl
      simp [step, hmain, hgone] at hstuck
    · have hstuck := h .giveUp rfl
      simp [step, hwait, hqueue, hsender] at hstuck
  | joinedSupervisor =>
    have htold := hs.toldServer (by rw [hmain]; decide)
    cases hserver : s.server with
    | serving =>
      have hstuck := h .leave rfl
      simp [step, hserver, htold] at hstuck
    | ended result =>
      have hstuck := h .joinServer rfl
      simp [step, hserver, hmain] at hstuck
  | stopped =>
    have hstuck := h .tellServer rfl
    simp [step, hmain] at hstuck
  | toldServer =>
    have hstuck := h .abortSignals rfl
    simp [step, hmain] at hstuck
  | aborted =>
    have hstuck := h .dropSender rfl
    simp [step, hmain] at hstuck
  | joinedServer =>
    have hstuck := h .recordShutdown rfl
    simp [step, hmain] at hstuck

/-- A command was put into the channel, or the bot has stopped. -/
def Sys.ending (s : Sys) : Prop := s.sent ≠ [] ∨ s.main ≠ .running

theorem ending_step (h : step parse client s a = some s') (hs : s.ending) : s'.ending := by
  obtain ⟨-, hsent, hrank⟩ := step_frame h
  rcases hs with hne | hmain
  · exact Or.inl fun hnil => hne (List.prefix_nil.1 (hnil ▸ hsent))
  · refine Or.inr fun hrun => hmain ?_
    rw [hrun] at hrank
    cases hmain' : s.main <;> rw [hmain'] at hrank <;> first | rfl | exact absurd hrank (by decide)

/-- **The runtime stops**, if serenity heeds the shutdown: once a command was put into the channel, or the
bot has stopped, the tasks take no more steps than `rank` says, whatever their order, and where they end the
runtime has recorded its shutdown, with every task and every connection over. -/
theorem stop_completes (hclient : client.HeedsShutdown) {status : RuntimeControlStatus}
    {as bs : List Action} (h : Progress.Run (step parse client) (initial status) as s) (hend : s.ending)
    (hrun : Progress.Run (step parse client) s bs s') (hown : ∀ a ∈ bs, a.own = true) :
    bs.length ≤ s.rank ∧ ∃ bs' t, Progress.Run (step parse client) s' bs' t ∧
      (∀ a ∈ bs', a.own = true) ∧ t.main = .finished ∧ t.supervisor = .gone ∧ t.signals = .gone ∧
      t.server ≠ .serving ∧ ∀ c ∈ t.conns, c.phase.holdsSender = false := by
  have hsafe : Safe client s := h.inv (fun _ _ _ => safe_step) (safe_initial client status)
  refine Progress.comes_to (I := fun s => Safe client s ∧ s.ending) (fun _ _ _ => rank_step)
    (fun s a s' hstep hs => ⟨safe_step hstep hs.1, ending_step hstep hs.2⟩) ?_ ⟨hsafe, hend⟩ hrun hown
  rintro t ⟨hs, hending⟩ hidle
  have hidle : Idle parse client t := hidle
  have hmain : t.main = .finished := by
    rcases hidle.finished hclient hs with hfin | ⟨hrun, hnil⟩
    · exact hfin
    · exact (hending.elim (fun h => h hnil) fun h => h hrun).elim
  have hrank : t.main.rank = 0 := by rw [hmain]; rfl
  exact ⟨hmain, hs.joinedSupervisor (by omega), hs.aborted (by omega), hs.joinedServer (by omega),
    fun c hc => hidle.conns hc⟩

/-- What the tasks do after that, until `run_bot` waits for them. -/
def wayOut : List Action := [.tellServer, .reply 0, .leave, .abortSignals, .dropSender]

def onTheWayOut : Sys :=
  (Progress.exec (step twoRequests sampleClient) afterStopRequest wayOut).get (by decide +kernel)

theorem stop_completes_wayOut :
    wayOut.length ≤ afterStopRequest.rank ∧
      ∃ bs t, Progress.Run (step twoRequests sampleClient) onTheWayOut bs t ∧ t.main = .finished := by
  have hrun : Progress.Run (step twoRequests sampleClient) afterStopRequest wayOut onTheWayOut :=
    Progress.run_of_exec (Option.some_get _).symm
  obtain ⟨hlen, bs, t, hrest, -, hfinished, -⟩ :=
    stop_completes sampleClient_heedsShutdown run_stopRequested (Or.inr (by decide +kernel)) hrun (by decide)
  exact ⟨hlen, bs, t, hrest, hfinished⟩

/-- If `client.start()` does not return for `shutdown_all`, `run_bot` waits for it, whatever the tasks do and
whoever has asked for the end. -/
theorem running_of_onShutdown_eq_none (hnone : client.onShutdown = none) (hmain : s.main = .running)
    {bs : List Action} (hrun : Progress.Run (step parse client) s bs s')
    (hown : ∀ a ∈ bs, a.own = true) : s'.main = .running := by
  refine hrun.inv_of (I := fun s => s.main = .running) (fun s a s' ha h hmain => ?_) hown hmain
  cases a with
  | accept | read | reply | expire =>
    obtain ⟨i, c, c', -, rfl, -⟩ := step_moves rfl h
    exact hmain
  | clientStops =>
    simp [step, hnone] at h
  | send i =>
    simp only [step] at h
    split at h
    case h_2 => cases h
    split at h
    case isTrue => cases h; exact hmain
    split at h
    case isTrue => cases h; exact hmain
    case isFalse => cases h
  | forward =>
    simp only [step] at h
    split at h
    case isFalse => cases h
    split at h
    case isTrue => cases h; exact hmain
    split at h
    case isTrue => cases h; exact hmain
    case isFalse => cases h
  | receive | shutdownAll =>
    simp only [step] at h
    split at h
    case h_1 => cases h; exact hmain
    case h_2 => cases h
  | leave | giveUp | shutdownDone =>
    simp only [step] at h
    split at h
    case isTrue => cases h; exact hmain
    case isFalse => cases h
  | tellServer | abortSignals | dropSender | joinSupervisor | recordShutdown => simp [step, hmain] at h
  | joinServer =>
    simp only [step] at h
    split at h
    case h_1 => simp [hmain] at h
    case h_2 => cases h
  | _ => cases ha

end Progress

end Runtime

end OoBot
