import Mathlib.Data.List.Perm.Subperm
import OoBot.Audit.Stats
import OoBot.Infra.DiscordHandler
import OoBot.Security.Metrics

/-!
# What the tasks leave on record

Two places say what the bot has decided: the metrics of the core, and the rows that the tasks of
`src/infra/discord_handler.rs` put into the audit table.  The core is locked for a decision, and the row
about it is written later, with steps of other tasks in between.

* The core that the tasks share has run on the operations that they handed to it (`core_run`), so what
  holds of every run of a core holds of it.
* Every task leaves one decision, at most one row about it, and at most one row about its action, in this
  order (`every_task_accounted`).
* When no task is between its decision and its row, and no row was lost, `stats` over the audit table
  gives the counts that the metrics of the core give (`stats_agree_with_metrics`).
-/

namespace OoBot

namespace Handling

variable {F σ T : Type} {texts : EventTexts} {handler : Handler}

/-! ### The core -/

section Core

variable [F64 F] [DecidableEq T]

/-- What a step hands to the core. -/
def coreOp (s : Handling F σ T) : HandlerStep T → Option TrustedCore.Op
  | .message t msg now order =>
      match s.tasks t with
      | .waiting => some (.decideMessage msg.ctx msg.content now order)
      | _ => none
  | .applied t (.error (some status)) now _ _ =>
      match s.tasks t with
      | .applying _ => some (.recordHttpStatus status now)
      | _ => none
  | _ => none

theorem core_step (s : Handling F σ T) (x : HandlerStep T) :
    (s.step texts handler x).core =
      (s.coreOp x).elim s.core (TrustedCore.step texts.nfkc s.core) := by
  cases x with
  | message t msg now order =>
    simp only [step, coreOp]
    cases s.tasks t <;> rfl
  | record t ms stored =>
    simp only [step, coreOp]
    cases s.tasks t <;> rfl
  | applied t result now ms stored =>
    rcases result with (_ | status) | ⟨⟩ <;> simp only [step, coreOp] <;> cases s.tasks t <;> rfl

/-- The operations that a run hands to the core. -/
abbrev coreOps (texts : EventTexts) (handler : Handler) (s : Handling F σ T)
    (steps : List (HandlerStep T)) : List TrustedCore.Op :=
  Runs.trace (step texts handler) coreOp s steps

/-- **The shared core** has run on what the tasks handed to it. -/
theorem core_run (s : Handling F σ T) (steps : List (HandlerStep T)) :
    (Runs.run (step texts handler) s steps).core =
      Runs.run (TrustedCore.step texts.nfkc) s.core (coreOps texts handler s steps) :=
  Runs.run_part core_step s steps

end Core

/-! ### Notes -/

/-- What a task leaves behind: its decision, the row about it, and the row about the action that was
sent. -/
inductive Note (T : Type)
  | made (t : T) (msg : Message) (decision : ActionDecision)
  | row (t : T) (msg : Message) (decision : ActionDecision) (event : AuditEventInput)
  | sent (t : T) (msg : Message) (event : AuditEventInput)

namespace Note

/-- The task that left it. -/
def task : Note T → T
  | .made t _ _ | .row t _ _ _ | .sent t _ _ => t

/-- The decision, if it is one. -/
def made? : Note T → Option (T × Message × ActionDecision)
  | .made t msg decision => some (t, msg, decision)
  | _ => none

/-- The decision that it is a row about. -/
def row? : Note T → Option (T × Message × ActionDecision)
  | .row t msg decision _ => some (t, msg, decision)
  | _ => none

/-- The message whose action was sent, if it is a row about that. -/
def sent? : Note T → Option (T × Message)
  | .sent t msg _ => some (t, msg)
  | _ => none

/-- The event that was recorded. -/
def event? : Note T → Option AuditEventInput
  | .made _ _ _ => none
  | .row _ _ _ event | .sent _ _ event => some event

end Note

section Notes

variable [F64 F] [DecidableEq T]

/-- What a step leaves behind. -/
def note (texts : EventTexts) (handler : Handler) (s : Handling F σ T) :
    HandlerStep T → Option (Note T)
  | .message t msg now order =>
      match s.tasks t with
      | .waiting =>
          some (.made t msg (s.core.decideMessage texts.nfkc msg.ctx msg.content now order).1)
      | _ => none
  | .record t processingTimeMs stored =>
      match s.tasks t with
      | .decided msg decision =>
          if handler.audit && stored then
            some (.row t msg decision (handler.decisionEvent texts s.core.lastDetection msg decision
              processingTimeMs))
          else none
      | _ => none
  | .applied t (.ok ()) _ processingTimeMs stored =>
      match s.tasks t with
      | .applying msg =>
          if handler.audit && stored then
            some (.sent t msg (handler.actionSentEvent texts msg processingTimeMs))
          else none
      | _ => none
  | _ => none

/-- What a run leaves behind. -/
abbrev notes (texts : EventTexts) (handler : Handler) (s : Handling F σ T)
    (steps : List (HandlerStep T)) : List (Note T) :=
  Runs.trace (step texts handler) (note texts handler) s steps

/-- The decisions among the notes are those of the core. -/
theorem made_notes (s : Handling F σ T) (steps : List (HandlerStep T)) :
    ((notes texts handler s steps).filterMap Note.made?).map (·.2.2) =
      (s.core.decisionLog texts.nfkc (coreOps texts handler s steps)).map (·.decision) := by
  have hone : ∀ (s : Handling F σ T) (x : HandlerStep T),
      ((note texts handler s x).bind Note.made?).map (·.2.2) =
        ((coreOp s x).bind (s.core.logged texts.nfkc)).map (·.decision) := by
    intro s x
    cases x with
    | message t msg now order =>
      simp only [note, coreOp]
      cases s.tasks t <;> rfl
    | record t ms stored =>
      simp only [note, coreOp]
      cases s.tasks t with
      | decided msg decision => cases handler.audit && stored <;> rfl
      | waiting | applying | done => rfl
    | applied t result now ms stored =>
      rcases result with (_ | status) | ⟨⟩
      · rfl
      · simp only [note, coreOp]
        cases s.tasks t <;> rfl
      · simp only [note, coreOp]
        cases s.tasks t with
        | applying msg => cases handler.audit && stored <;> rfl
        | waiting | decided | done => rfl
  have hlog : s.core.decisionLog texts.nfkc (coreOps texts handler s steps) =
      Runs.trace (step texts handler) (fun s x => (coreOp s x).bind (s.core.logged texts.nfkc)) s
        steps :=
    (Runs.trace_part core_step _ s steps).symm
  rw [hlog, ← Runs.trace_filterMap, ← Runs.trace_map, ← Runs.trace_map]
  refine congrArg (fun obs => Runs.trace (step texts handler) obs s steps) ?_
  funext s x
  exact hone s x

end Notes

/-! ### Lives -/

/-- What the row about a decision is, if it was stored; `must` says that it was. -/
structure IsRow (texts : EventTexts) (handler : Handler) (must : Prop) (msg : Message)
    (decision : ActionDecision) (row : Option AuditEventInput) : Prop where
  stored : must → row.isSome = true
  about : ∀ event ∈ row, ∃ detection ms, event = handler.decisionEvent texts detection msg decision ms

/-- What the row about an action is, if there is one: only an action that was decided on is sent. -/
def IsSent (texts : EventTexts) (handler : Handler) (msg : Message) (decision : ActionDecision)
    (sent : Option AuditEventInput) : Prop :=
  ∀ event ∈ sent, decision.action ≠ .noop ∧ ∃ ms, event = handler.actionSentEvent texts msg ms

/-- What a task has left behind when it is at this point. -/
inductive Life (texts : EventTexts) (handler : Handler) (must : Prop) (t : T) :
    Task → List (Note T) → Prop
  | waiting : Life texts handler must t .waiting []
  | decided (msg : Message) (decision : ActionDecision) :
      Life texts handler must t (.decided msg decision) [.made t msg decision]
  | applying (msg : Message) (decision : ActionDecision) (row : Option AuditEventInput)
      (hrow : IsRow texts handler must msg decision row) (haction : decision.action ≠ .noop) :
      Life texts handler must t (.applying msg)
        (.made t msg decision :: (row.map (.row t msg decision)).toList)
  | done (msg : Message) (decision : ActionDecision) (row sent : Option AuditEventInput)
      (hrow : IsRow texts handler must msg decision row)
      (hsent : IsSent texts handler msg decision sent) :
      Life texts handler must t .done
        (.made t msg decision ::
          ((row.map (.row t msg decision)).toList ++ (sent.map (.sent t msg)).toList))

section Life

variable {t : T} {must : Prop}

/-- What the rows of a task are. -/
theorem Life.mem {task : Task} {mine : List (Note T)} (h : Life texts handler must t task mine)
    {n : Note T} (hn : n ∈ mine) :
    (∀ t' msg decision event, n = .row t' msg decision event →
      ∃ detection ms, event = handler.decisionEvent texts detection msg decision ms) ∧
    (∀ t' msg event, n = .sent t' msg event →
      ∃ ms, event = handler.actionSentEvent texts msg ms) := by
  have hrowMem : ∀ {msg decision} {row : Option AuditEventInput},
      IsRow texts handler must msg decision row → n ∈ (row.map (Note.row t msg decision)).toList →
        ∃ detection ms, n = .row t msg decision
          (handler.decisionEvent texts detection msg decision ms) := by
    rintro msg decision row hrow hmem
    obtain ⟨event, hevent, rfl⟩ := Option.map_eq_some_iff.1 (Option.mem_toList.1 hmem)
    obtain ⟨detection, ms, rfl⟩ := hrow.about event hevent
    exact ⟨detection, ms, rfl⟩
  cases h with
  | waiting => cases hn
  | decided msg decision =>
    rw [List.mem_singleton.1 hn]
    exact ⟨by rintro _ _ _ _ ⟨⟩, by rintro _ _ _ ⟨⟩⟩
  | applying msg decision row hrow =>
    rcases List.mem_cons.1 hn with rfl | hn
    · exact ⟨by rintro _ _ _ _ ⟨⟩, by rintro _ _ _ ⟨⟩⟩
    · obtain ⟨detection, ms, rfl⟩ := hrowMem hrow hn
      exact ⟨by rintro _ _ _ _ ⟨⟩; exact ⟨detection, ms, rfl⟩, by rintro _ _ _ ⟨⟩⟩
  | done msg decision row sent hrow hsent =>
    rcases List.mem_cons.1 hn with rfl | hn
    · exact ⟨by rintro _ _ _ _ ⟨⟩, by rintro _ _ _ ⟨⟩⟩
    rcases List.mem_append.1 hn with hn | hn
    · obtain ⟨detection, ms, rfl⟩ := hrowMem hrow hn
      exact ⟨by rintro _ _ _ _ ⟨⟩; exact ⟨detection, ms, rfl⟩, by rintro _ _ _ ⟨⟩⟩
    · obtain ⟨event, hevent, rfl⟩ := Option.map_eq_some_iff.1 (Option.mem_toList.1 hn)
      obtain ⟨-, ms, rfl⟩ := hsent event hevent
      exact ⟨by rintro _ _ _ _ ⟨⟩, by rintro _ _ _ ⟨⟩; exact ⟨ms, rfl⟩⟩

/-- A task that is past its row has one row about each of its decisions. -/
theorem Life.rows_eq_made {task : Task} {mine : List (Note T)}
    (h : Life texts handler must t task mine) (hmust : must)
    (hquiet : ∀ msg decision, task ≠ .decided msg decision) :
    mine.filterMap Note.row? = mine.filterMap Note.made? := by
  cases h with
  | waiting => rfl
  | decided msg decision => exact absurd rfl (hquiet msg decision)
  | applying msg decision row hrow =>
    obtain ⟨event, rfl⟩ := Option.isSome_iff_exists.1 (hrow.stored hmust)
    rfl
  | done msg decision row sent hrow =>
    obtain ⟨event, rfl⟩ := Option.isSome_iff_exists.1 (hrow.stored hmust)
    cases sent <;> rfl

/-- Only a decision for an action has a row about an action. -/
theorem Life.sent_le {task : Task} {mine : List (Note T)} (h : Life texts handler must t task mine)
    (hmust : must) :
    (mine.filterMap Note.sent?).length ≤
      ((mine.filterMap Note.row?).filter fun r => r.2.2.action ≠ .noop).length := by
  cases h with
  | waiting => exact Nat.le_refl 0
  | decided msg decision => exact Nat.zero_le _
  | applying msg decision row hrow => cases row <;> exact Nat.zero_le _
  | done msg decision row sent hrow hsent =>
    obtain ⟨event, rfl⟩ := Option.isSome_iff_exists.1 (hrow.stored hmust)
    cases sent with
    | none => exact Nat.zero_le _
    | some event' =>
      obtain ⟨haction, -⟩ := hsent event' rfl
      show 1 ≤ (List.filter _ [(t, msg, decision)]).length
      rw [List.filter_cons_of_pos (by simpa using haction)]
      exact Nat.le_refl 1

end Life

section Lives

variable [DecidableEq T] {s s' : Handling F σ T} {t : T} {must : Prop} {log : List (Note T)}

/-- The notes of a task. -/
def notesOf (t : T) (log : List (Note T)) : List (Note T) := log.filter fun n => n.task = t

/-- What was recorded is in the notes, and every task has left behind what it should have. -/
structure Accounted (texts : EventTexts) (handler : Handler) (must : Prop) (log : List (Note T))
    (s : Handling F σ T) : Prop where
  events : s.events = log.filterMap Note.event?
  life : ∀ t, Life texts handler must t (s.tasks t) (notesOf t log)

/-- The store does not lose the row of this step. -/
def Stores (handler : Handler) : HandlerStep T → Prop
  | .record _ _ stored => handler.audit = true ∧ stored = true
  | _ => True

theorem notesOf_append (t : T) (log : List (Note T)) (n : Option (Note T)) :
    notesOf t (log ++ n.toList) = notesOf t log ++ (n.filter fun n => n.task = t).toList := by
  unfold notesOf
  rw [List.filter_append]
  cases n with
  | none => rfl
  | some n => by_cases h : n.task = t <;> simp [h, Option.filter]

/-- A task that has moved on, and left a note of its own. -/
theorem Accounted.update {task : Task} {n : Option (Note T)} (h : Accounted texts handler must log s)
    (htasks : s'.tasks = Function.update s.tasks t task) (hn : ∀ m ∈ n, m.task = t)
    (hevents : s'.events = s.events ++ (n.bind Note.event?).toList)
    (hlife : Life texts handler must t task (notesOf t log ++ n.toList)) :
    Accounted texts handler must (log ++ n.toList) s' := by
  constructor
  · rw [hevents, h.events, List.filterMap_append]
    cases n with
    | none => rfl
    | some n => cases hevent : n.event? <;> simp [hevent]
  · intro t'
    rw [notesOf_append, htasks]
    by_cases ht : t' = t
    · subst ht
      have hown : n.filter (fun n => n.task = t') = n := by
        cases n with
        | none => rfl
        | some n => simp [hn n rfl]
      rw [Function.update_self, hown]
      exact hlife
    · have hother : n.filter (fun n => n.task = t') = none := by
        cases n with
        | none => rfl
        | some n =>
          have hne : n.task ≠ t' := fun heq => ht (heq.symm.trans (hn n rfl))
          simp [hne]
      rw [Function.update_of_ne ht, hother, Option.toList_none, List.append_nil]
      exact h.life t'

/-- A task that is not at that point does nothing. -/
theorem Accounted.same (h : Accounted texts handler must log s) :
    Accounted texts handler must (log ++ (none : Option (Note T)).toList) s := by
  rw [Option.toList_none, List.append_nil]
  exact h

/-- **A step of a task** leaves behind what it should. -/
theorem Accounted.step [F64 F] {x : HandlerStep T} (hx : must → Stores handler x)
    (h : Accounted texts handler must log s) :
    Accounted texts handler must (log ++ (note texts handler s x).toList) (s.step texts handler x) := by
  cases x with
  | message t msg now order =>
    simp only [Handling.step, note]
    have hlife := h.life t
    cases ht : s.tasks t with
    | waiting =>
      rw [ht] at hlife
      generalize hnotes : notesOf t log = mine at hlife
      cases hlife
      refine h.update rfl (by simp [Note.task]) (by simp [Note.event?]) ?_
      rw [hnotes]
      exact .decided msg _
    | decided | applying | done => exact h.same
  | record t ms stored =>
    simp only [Handling.step, note]
    have hlife := h.life t
    cases ht : s.tasks t with
    | decided msg decision =>
      rw [ht] at hlife
      generalize hnotes : notesOf t log = mine at hlife
      cases hlife
      -- the row is stored, or it is not
      have hmust : must → (handler.audit && stored) = true := fun hm => by
        obtain ⟨haudit, rfl⟩ := hx hm
        rw [haudit, Bool.true_and]
      cases hstored : handler.audit && stored with
      | true =>
        have hrow : IsRow texts handler must msg decision (some _) :=
          ⟨fun _ => rfl, by rintro _ ⟨⟩; exact ⟨s.core.lastDetection, ms, rfl⟩⟩
        refine h.update rfl (by simp [Note.task]) rfl ?_
        rw [hnotes]
        by_cases haction : decision.action = .noop
        · rw [if_pos haction]
          exact .done msg decision (some _) none hrow (by simp [IsSent])
        · rw [if_neg haction]
          exact .applying msg decision (some _) hrow haction
      | false =>
        have hno : ¬ must := fun hm => Bool.false_ne_true (hstored.symm.trans (hmust hm))
        have hrow : IsRow texts handler must msg decision none := ⟨fun hm => absurd hm hno, by simp⟩
        refine h.update (n := none) rfl (by simp) (by simp) ?_
        rw [hnotes]
        by_cases haction : decision.action = .noop
        · rw [if_pos haction]
          exact .done msg decision none none hrow (by simp [IsSent])
        · rw [if_neg haction]
          exact .applying msg decision none hrow haction
    | waiting | applying | done => exact h.same
  | applied t result now ms stored =>
    have hlife := h.life t
    cases ht : s.tasks t with
    | applying msg =>
      rw [ht] at hlife
      generalize hnotes : notesOf t log = mine at hlife
      cases hlife with
      | applying _ decision row hrow haction =>
        have hunsent : Life texts handler must t .done
            (.made t msg decision :: (row.map (.row t msg decision)).toList) := by
          have hdone := Life.done (t := t) msg decision row none hrow (by simp [IsSent])
          rwa [Option.map_none, Option.toList_none, List.append_nil] at hdone
        rcases result with (_ | status) | ⟨⟩
        · simp only [Handling.step, note, ht]
          refine h.update (n := none) rfl (by simp) (by simp) ?_
          rw [hnotes, Option.toList_none, List.append_nil]
          exact hunsent
        · simp only [Handling.step, note, ht]
          refine h.update (n := none) rfl (by simp) (by simp) ?_
          rw [hnotes, Option.toList_none, List.append_nil]
          exact hunsent
        · simp only [Handling.step, note, ht]
          cases hstored : handler.audit && stored with
          | true =>
            refine h.update rfl (by simp [Note.task]) rfl ?_
            rw [hnotes]
            refine .done msg decision row (some _) hrow ?_
            rintro _ ⟨⟩
            exact ⟨haction, ms, rfl⟩
          | false =>
            refine h.update (n := none) rfl (by simp) (by simp) ?_
            rw [hnotes]
            simpa using hunsent
    | waiting | decided | done =>
      rcases result with (_ | status) | ⟨⟩ <;> simp only [Handling.step, note, ht] <;> exact h.same

/-- What a whole run leaves behind. -/
theorem accounted_run [F64 F] {core : TrustedCore F σ} {steps : List (HandlerStep T)}
    (hsteps : must → ∀ x ∈ steps, Stores handler x) :
    Accounted texts handler must (notes texts handler (start core) steps)
      (Runs.run (Handling.step texts handler) (start core) steps) := by
  have hstart : Accounted texts handler must [] (start core : Handling F σ T) :=
    ⟨rfl, fun t => .waiting⟩
  exact Runs.trace_inv_mem (I := Accounted texts handler must)
    (fun _ _ x hx h => h.step fun hm => hsteps hm x hx) hstart

/-! ### Rows and decisions -/

/-- Lists that agree on the part of every key agree up to their order. -/
theorem perm_of_parts {α K : Type} [DecidableEq K] (key : α → K) {l l' : List α}
    (h : ∀ k, l.filter (fun a => key a = k) = l'.filter fun a => key a = k) : l.Perm l' := by
  classical
  rw [List.perm_iff_count]
  intro a
  have hcount := congrArg (List.count a) (h (key a))
  rwa [List.count_filter (by simp), List.count_filter (by simp)] at hcount

/-- What is looked at in the notes of a task is the part of the task. -/
theorem filterMap_notesOf {β : Type} (f : Note T → Option (T × β))
    (hf : ∀ n r, f n = some r → r.1 = n.task) (log : List (Note T)) (t : T) :
    (log.filterMap f).filter (fun r => r.1 = t) = (notesOf t log).filterMap f := by
  unfold notesOf
  rw [List.filter_filterMap, List.filterMap_filter]
  refine congrArg (fun g => log.filterMap g) (funext fun n => ?_)
  cases hn : f n with
  | none => simp
  | some r => simp [Option.filter, hf n r hn]

/-- **Every decision has its row**, when no task is between the two and no row was lost. -/
theorem rows_perm_made (h : Accounted texts handler must log s) (hmust : must)
    (hquiet : ∀ t msg decision, s.tasks t ≠ .decided msg decision) :
    (log.filterMap Note.row?).Perm (log.filterMap Note.made?) := by
  refine perm_of_parts Prod.fst fun t => ?_
  rw [filterMap_notesOf Note.row? (by rintro (_ | _ | _) r ⟨⟩; rfl),
    filterMap_notesOf Note.made? (by rintro (_ | _ | _) r ⟨⟩; rfl)]
  exact (h.life t).rows_eq_made hmust (hquiet t)

/-- A list with fewer entries for every key is shorter. -/
theorem length_le_of_parts {α β K : Type} [DecidableEq K] (key : α → K) (key' : β → K) {l : List α}
    {l' : List β} (h : ∀ k, (l.filter fun a => key a = k).length ≤
      (l'.filter fun b => key' b = k).length) : l.length ≤ l'.length := by
  have hsub : (l.map key).Subperm (l'.map key') := by
    rw [List.subperm_iff_count]
    intro k
    have hk := h k
    rw [← List.countP_eq_length_filter, ← List.countP_eq_length_filter] at hk
    rw [List.count_eq_countP, List.count_eq_countP, List.countP_map, List.countP_map]
    exact hk
  simpa using hsub.length_le

/-- No more actions were sent than decisions for an action have rows. -/
theorem sent_le_rows (h : Accounted texts handler must log s) (hmust : must) :
    (log.filterMap Note.sent?).length ≤
      ((log.filterMap Note.row?).filter fun r => r.2.2.action ≠ .noop).length := by
  refine length_le_of_parts Prod.fst Prod.fst fun t => ?_
  have hlife := (h.life t).sent_le hmust
  rw [← filterMap_notesOf Note.sent? (by rintro (_ | _ | _) r ⟨⟩; rfl),
    ← filterMap_notesOf Note.row? (by rintro (_ | _ | _) r ⟨⟩; rfl), List.filter_filter] at hlife
  rw [List.filter_filter]
  simpa only [Bool.and_comm] using hlife

/-- The events that have to do with a decision are counted by its rows. -/
theorem countP_events (h : Accounted texts handler must log s) {p : AuditEventInput → Bool}
    {q : ActionDecision → Bool}
    (hrow : ∀ detection msg decision ms,
      p (handler.decisionEvent texts detection msg decision ms) = q decision)
    (hsent : ∀ msg ms, p (handler.actionSentEvent texts msg ms) = false) :
    s.events.countP p = (log.filterMap Note.row?).countP fun r => q r.2.2 := by
  rw [h.events, List.countP_filterMap, List.countP_filterMap]
  refine List.countP_congr fun n hn => ?_
  have hmem := (h.life n.task).mem (List.mem_filter.2 ⟨hn, by simp⟩)
  cases n with
  | made t msg decision => rfl
  | row t msg decision event =>
    obtain ⟨detection, ms, rfl⟩ := hmem.1 t msg decision event rfl
    show p _ = true ↔ q decision = true
    rw [hrow]
  | sent t msg event =>
    obtain ⟨ms, rfl⟩ := hmem.2 t msg event rfl
    show p _ = true ↔ false = true
    rw [hsent]

/-- The type of a row about a decision. -/
theorem decisionEvent_asStr (detection : Option DetectionReport) (msg : Message)
    (decision : ActionDecision) (ms : UInt64) :
    (handler.decisionEvent texts detection msg decision ms).eventType.asStr =
      if decision.action = .noop then AuditEventType.actionSuppressed.asStr
      else AuditEventType.responseCompiled.asStr := by
  unfold Handler.decisionEvent
  simp only
  split_ifs <;> rfl

/-- The events about actions are counted by their notes. -/
theorem countP_sent (h : Accounted texts handler must log s) :
    (s.events.countP fun event => event.eventType.asStr = AuditEventType.actionSent.asStr) =
      (log.filterMap Note.sent?).length := by
  rw [h.events, List.countP_filterMap, List.length_filterMap_eq_countP]
  refine List.countP_congr fun n hn => ?_
  have hmem := (h.life n.task).mem (List.mem_filter.2 ⟨hn, by simp⟩)
  cases n with
  | made t msg decision => rfl
  | row t msg decision event =>
    obtain ⟨detection, ms, rfl⟩ := hmem.1 t msg decision event rfl
    have htype : (handler.decisionEvent texts detection msg decision ms).eventType.asStr ≠
        AuditEventType.actionSent.asStr := by
      rw [decisionEvent_asStr]
      split_ifs <;> decide
    simp [Note.event?, Note.sent?, htype]
  | sent t msg event =>
    obtain ⟨ms, rfl⟩ := hmem.2 t msg event rfl
    simp [Note.event?, Note.sent?, Handler.actionSentEvent]

/-- **What the tasks leave on record**, in every interleaving and with every failure of the store and of
the API: every task leaves the decision that the shared core has made for it, at most one row about it,
and after that, if the decision was for an action, at most one row about the action; nothing else is
recorded. -/
theorem every_task_accounted [F64 F] (texts : EventTexts) (handler : Handler) (core : TrustedCore F σ)
    (steps : List (HandlerStep T)) :
    let s := Runs.run (Handling.step texts handler) (start core) steps
    let log := notes texts handler (start core) steps
    s.events = log.filterMap Note.event? ∧
    (∀ t, Life texts handler False t (s.tasks t) (notesOf t log)) ∧
    (log.filterMap Note.made?).map (·.2.2) =
      (core.decisionLog texts.nfkc (coreOps texts handler (start core) steps)).map (·.decision) ∧
    s.core = Runs.run (TrustedCore.step texts.nfkc) core (coreOps texts handler (start core) steps) := by
  intro s log
  have hacc : Accounted texts handler False log s := accounted_run fun h => h.elim
  exact ⟨hacc.events, hacc.life, made_notes (start core) steps, core_run (start core) steps⟩

end Lives

/-! ### The table and the metrics -/

/-- The event that `run_bot` records before the client starts. -/
def processStartEvent (handler : Handler) (detectorBackend : Text) : AuditEventInput where
  eventType := .processStart
  binaryVersion := handler.runtimeMeta.binaryVersion
  configFingerprint := handler.runtimeMeta.configFingerprint
  detectorBackend := detectorBackend
  activeLsm := handler.runtimeMeta.activeLsm
  hardeningStatus := handler.runtimeMeta.hardeningStatus

/-- The counts of the table are those of the metrics and of the decisions. -/
structure Agrees (stats : AuditStats) (metrics : RuntimeMetrics) (log : List TrustedCore.LogEntry) :
    Prop where
  dropped : stats.bySuppressedReason.total = metrics.messagesDroppedTotal.toNat
  duplicate : stats.bySuppressedReason.get SuppressReason.duplicate.debug =
    metrics.duplicateSuppressedTotal.toNat
  cooldown : stats.bySuppressedReason.get SuppressReason.cooldown.debug =
    metrics.cooldownHitsTotal.toNat
  reasons : ∀ reason : SuppressReason, stats.bySuppressedReason.get reason.debug =
    TrustedCore.reasonCount log reason
  modes : ∀ mode : RuntimeMode, stats.byMode.get mode.debug =
    log.countP fun e => e.decision.mode = mode
  suppressed : stats.byEventType.get AuditEventType.actionSuppressed.asStr =
    log.countP fun e => e.decision.action = .noop
  compiled : stats.byEventType.get AuditEventType.responseCompiled.asStr =
    log.countP fun e => e.decision.action ≠ .noop
  sent : stats.byEventType.get AuditEventType.actionSent.asStr ≤
    stats.byEventType.get AuditEventType.responseCompiled.asStr

section Agreement

variable {start : AuditEventInput} {events : List AuditEventInput} {rows : List AuditRow}

/-- What a column of the table says of a value that the first event does not have. -/
theorem get_column (f : AuditColumns → Text) (g : AuditEventInput → Text) {value : Text}
    (hrows : rows.map (fun row => f row.columns) = (start :: events).map g) (hstart : g start ≠ value) :
    (Tally.of (rows.map fun row => f row.columns)).get value =
      events.countP fun event => g event = value := by
  rw [hrows, Tally.get_of, List.countP_map, List.countP_cons, if_neg (by simpa using hstart),
    Nat.add_zero]
  exact List.countP_congr fun event _ => by simp

/-- The reasons in the table are those of the events. -/
theorem total_reasons (hrows : rows.map (fun row => row.columns.suppressedReason) =
      (start :: events).map fun event => event.suppressedReason.getD []) :
    (Tally.of (countedReasons rows)).total =
      (start :: events).countP fun event => event.suppressedReason.getD [] ≠ [] := by
  rw [Tally.total_of, countedReasons, hrows, ← List.countP_eq_length_filter, List.countP_map]
  exact List.countP_congr fun event _ => by simp

end Agreement

theorem debug_ne_nil (reason : SuppressReason) : reason.debug ≠ [] := by
  cases reason <;> decide

theorem reason_debug_inj {reason reason' : SuppressReason} (h : reason.debug = reason'.debug) :
    reason = reason' := by
  cases reason <;> cases reason' <;> first | rfl | exact absurd h (by decide)

theorem mode_debug_inj {mode mode' : RuntimeMode} (h : mode.debug = mode'.debug) : mode = mode' := by
  cases mode <;> cases mode' <;> first | rfl | exact absurd h (by decide)

/-- The mode of an event that has none is not that of a decision. -/
theorem normal_ne_debug (mode : RuntimeMode) : "normal".toList ≠ mode.debug := by
  cases mode <;> decide

/-- The counters of a core that was just built, after a run. -/
theorem metrics_run [F64 F] {core : TrustedCore F σ} (hmode : core.mode.mode = .normal)
    (hmetrics : core.metrics = {}) (nfkc : Text → Text) {ops : List TrustedCore.Op}
    (hlen : ops.length < 2 ^ 64) :
    let log := core.decisionLog nfkc ops
    let metrics := (Runs.run (TrustedCore.step nfkc) core ops).metrics
    metrics.messagesDroppedTotal.toNat = (log.countP fun e => e.decision.suppressReason.isSome) ∧
    metrics.duplicateSuppressedTotal.toNat = TrustedCore.reasonCount log .duplicate ∧
    metrics.cooldownHitsTotal.toNat = TrustedCore.reasonCount log .cooldown := by
  intro log metrics
  have hbooked : TrustedCore.Booked log (Runs.run (TrustedCore.step nfkc) core ops).mode.mode
      metrics := by
    refine Runs.trace_inv
      (I := fun log (s : TrustedCore F σ) => TrustedCore.Booked log s.mode.mode s.metrics)
      (fun log s op h => h.step nfkc op) (h := []) ?_ ops
    rw [hmode, hmetrics]
    exact ⟨rfl, shows_zero, shows_zero, shows_zero, shows_zero, shows_zero, shows_zero, shows_zero⟩
  have hcount : ∀ p : TrustedCore.LogEntry → Bool, log.countP p < 2 ^ 64 := fun p =>
    lt_of_le_of_lt (List.countP_le_length.trans (Runs.length_trace_le core ops)) hlen
  exact ⟨hbooked.dropped.exact (hcount _), hbooked.duplicate.exact (hcount _),
    hbooked.cooldown.exact (hcount _)⟩

section Quiet

variable [F64 F] [DecidableEq T] {core : TrustedCore F σ} {steps : List (HandlerStep T)}
  (hstored : ∀ x ∈ steps, Stores handler x)
  (hquiet : ∀ t msg decision,
    (Runs.run (step texts handler) (start core) steps).tasks t ≠ .decided msg decision)

include hstored hquiet

/-- Events that have to do with decisions are counted by the decisions of the core. -/
theorem countP_decisions {p : AuditEventInput → Bool} {q : ActionDecision → Bool}
    (hrow : ∀ detection msg decision ms,
      p (handler.decisionEvent texts detection msg decision ms) = q decision)
    (hsent : ∀ msg ms, p (handler.actionSentEvent texts msg ms) = false) :
    (Runs.run (step texts handler) (start core) steps).events.countP p =
      (core.decisionLog texts.nfkc (coreOps texts handler (start core) steps)).countP
        fun e => q e.decision := by
  have hacc : Accounted texts handler True (notes texts handler (start core) steps) _ :=
    accounted_run fun _ => hstored
  have hlog := congrArg (List.countP q)
    (@made_notes _ _ _ texts handler _ _ (start core) steps)
  rw [List.countP_map, List.countP_map] at hlog
  rw [countP_events hacc hrow hsent, (rows_perm_made hacc trivial hquiet).countP_eq]
  exact hlog

theorem countP_reason (reason : SuppressReason) :
    ((Runs.run (step texts handler) (start core) steps).events.countP fun event =>
      event.suppressedReason.getD [] = reason.debug) = TrustedCore.reasonCount
        (core.decisionLog texts.nfkc (coreOps texts handler (start core) steps)) reason := by
  refine countP_decisions (q := fun decision => decision.suppressReason == some reason)
    hstored hquiet (fun detection msg decision ms => ?_) fun msg ms => ?_
  · show decide ((decision.suppressReason.map (·.debug)).getD [] = reason.debug) = _
    cases decision.suppressReason with
    | none => exact decide_eq_false (debug_ne_nil reason).symm
    | some reason' =>
      rw [Bool.eq_iff_iff, decide_eq_true_eq, beq_iff_eq, Option.some_inj]
      exact ⟨reason_debug_inj, fun h => congrArg SuppressReason.debug h⟩
  · exact decide_eq_false (debug_ne_nil reason).symm

theorem countP_reasons :
    ((Runs.run (step texts handler) (start core) steps).events.countP fun event =>
      event.suppressedReason.getD [] ≠ []) =
        (core.decisionLog texts.nfkc (coreOps texts handler (start core) steps)).countP
          fun e => e.decision.suppressReason.isSome := by
  refine countP_decisions (q := fun decision => decision.suppressReason.isSome)
    hstored hquiet (fun detection msg decision ms => ?_) fun msg ms => rfl
  show decide ((decision.suppressReason.map (·.debug)).getD [] ≠ []) = _
  cases decision.suppressReason with
  | none => rfl
  | some reason => exact decide_eq_true (debug_ne_nil reason)

theorem countP_mode (mode : RuntimeMode) :
    ((Runs.run (step texts handler) (start core) steps).events.countP fun event =>
      event.mode = mode.debug) =
        (core.decisionLog texts.nfkc (coreOps texts handler (start core) steps)).countP
          fun e => e.decision.mode = mode := by
  refine countP_decisions (q := fun decision => decision.mode = mode)
    hstored hquiet (fun detection msg decision ms => ?_) fun msg ms => ?_
  · show decide (decision.mode.debug = mode.debug) = _
    rw [Bool.eq_iff_iff, decide_eq_true_eq, decide_eq_true_eq]
    exact ⟨mode_debug_inj, fun h => congrArg RuntimeMode.debug h⟩
  · exact decide_eq_false (normal_ne_debug mode)

theorem countP_suppressed :
    ((Runs.run (step texts handler) (start core) steps).events.countP fun event =>
      event.eventType.asStr = AuditEventType.actionSuppressed.asStr) =
        (core.decisionLog texts.nfkc (coreOps texts handler (start core) steps)).countP
          fun e => e.decision.action = .noop := by
  refine countP_decisions (q := fun decision => decision.action = .noop)
    hstored hquiet (fun detection msg decision ms => ?_) fun msg ms => ?_
  · rw [decisionEvent_asStr]
    by_cases haction : decision.action = .noop
    · simp [haction]
    · rw [if_neg haction, decide_eq_false haction]
      decide
  · exact decide_eq_false (by show AuditEventType.actionSent.asStr ≠ _; decide)

theorem countP_compiled :
    ((Runs.run (step texts handler) (start core) steps).events.countP fun event =>
      event.eventType.asStr = AuditEventType.responseCompiled.asStr) =
        (core.decisionLog texts.nfkc (coreOps texts handler (start core) steps)).countP
          fun e => e.decision.action ≠ .noop := by
  refine countP_decisions (q := fun decision => decision.action ≠ .noop)
    hstored hquiet (fun detection msg decision ms => ?_) fun msg ms => ?_
  · rw [decisionEvent_asStr]
    by_cases haction : decision.action = .noop
    · rw [if_pos haction, decide_eq_false (not_not.2 haction)]
      decide
    · simp [haction]
  · exact decide_eq_false (by show AuditEventType.actionSent.asStr ≠ _; decide)

/-- No more actions were sent than decided on. -/
theorem countP_sent_le :
    ((Runs.run (step texts handler) (start core) steps).events.countP fun event =>
      event.eventType.asStr = AuditEventType.actionSent.asStr) ≤
        (core.decisionLog texts.nfkc (coreOps texts handler (start core) steps)).countP
          fun e => e.decision.action ≠ .noop := by
  have hacc : Accounted texts handler True (notes texts handler (start core) steps) _ :=
    accounted_run fun _ => hstored
  have hle := sent_le_rows hacc trivial
  have hlog := congrArg (List.countP fun decision : ActionDecision => decision.action ≠ .noop)
    (@made_notes _ _ _ texts handler _ _ (start core) steps)
  rw [List.countP_map, List.countP_map] at hlog
  rw [← List.countP_eq_length_filter, (rows_perm_made hacc trivial hquiet).countP_eq] at hle
  rw [countP_sent hacc]
  exact hle.trans hlog.le

end Quiet

/-- **The audit table agrees with the metrics.**  In every interleaving of the tasks, when no task is
between its decision and its row, and no row was lost: `stats` over the table that holds the start of the
process and what the tasks have recorded gives, within its cap, the counts of the metrics and of the
decisions of the core. -/
theorem stats_agree_with_metrics [F64 F] [DecidableEq T] (texts : EventTexts) (handler : Handler)
    (analyzer : ProposalAnalyzer σ) (analyzerState : σ) (detector : MessageDetector)
    (botConfig : BotConfig) (runtime : RuntimeProtectionConfig F) (now : Instant)
    (total remaining resetAfterSecs : ℕ) (core : TrustedCore F σ)
    (hcore : core = sharedCore analyzer analyzerState detector botConfig runtime now total remaining
      resetAfterSecs)
    (steps : List (HandlerStep T)) (hlen : steps.length < 2 ^ 64)
    (hstored : ∀ x ∈ steps, Stores handler x)
    (hquiet : ∀ t msg decision,
      (Runs.run (step texts handler) (start core) steps).tasks t ≠ .decided msg decision)
    (crypto : AuditCrypto) (store : AuditStore) (detectorBackend : Text) (calls : List RecordCall)
    (hcalls : calls.map RecordCall.input = processStartEvent handler detectorBackend ::
      (Runs.run (step texts handler) (start core) steps).events)
    (db : AuditDb) (hdb : store.recordAll crypto .empty calls = .ok db)
    (hcap : calls.length ≤ store.queryMaxRows) (hmax : store.queryMaxRows < 2 ^ 63) :
    Agrees (db.events.stats store.queryMaxRows {})
      (Runs.run (step texts handler) (start core) steps).core.metrics
      (core.decisionLog texts.nfkc (coreOps texts handler (start core) steps)) := by
  obtain ⟨rows, hrows, hall⟩ := recordAll_rows hdb
  have htable : db.events.rows = rows := hrows
  have hcapped : db.events.rows.length ≤ store.queryMaxRows := by
    rw [htable, ← hall.length_eq]
    exact hcap
  rw [stats_all _ hcapped hmax, htable]
  -- what the columns say of a value that the start of the process does not have
  have hcolumn : ∀ (f : AuditColumns → Text) (g : AuditEventInput → Text),
      (∀ prevHash input tsUtc, f (store.columns crypto prevHash input tsUtc) = g input) →
        rows.map (fun row => f row.columns) = (processStartEvent handler detectorBackend ::
          (Runs.run (step texts handler) (start core) steps).events).map g := by
    intro f g hfg
    rw [map_rows f g hfg hall, hcalls]
  have hreasons := hcolumn (·.suppressedReason) (fun event => event.suppressedReason.getD [])
    fun _ _ _ => rfl
  have hmodes := hcolumn (·.mode) (·.mode) fun _ _ _ => rfl
  have htypes := hcolumn (·.eventType) (fun event => event.eventType.asStr) fun _ _ _ => rfl
  -- the counters of the core that the tasks have driven
  have hops : (coreOps texts handler (start core : Handling F σ T) steps).length < 2 ^ 64 :=
    lt_of_le_of_lt (Runs.length_trace_le _ _) hlen
  have hmetrics := @metrics_run F σ _ core (by rw [hcore]; rfl) (by rw [hcore]; rfl) texts.nfkc _ hops
  obtain ⟨hdropped, hduplicate, hcooldown⟩ := hmetrics
  rw [core_run]
  have hreason : ∀ reason : SuppressReason, (Tally.of (countedReasons rows)).get reason.debug =
      TrustedCore.reasonCount
        (core.decisionLog texts.nfkc (coreOps texts handler (start core) steps)) reason := by
    intro reason
    rw [get_of_countedReasons (debug_ne_nil reason),
      get_column _ _ hreasons (debug_ne_nil reason).symm]
    exact countP_reason hstored hquiet reason
  have htype : ∀ eventType : AuditEventType, AuditEventType.processStart.asStr ≠ eventType.asStr →
      (Tally.of (rows.map fun row => row.columns.eventType)).get eventType.asStr = _ :=
    fun eventType hne => get_column _ _ htypes hne
  constructor
  · refine Eq.trans ?_ hdropped.symm
    rw [total_reasons hreasons, ← countP_reasons hstored hquiet]
    exact List.countP_cons_of_neg (by simp [processStartEvent])
  · exact (hreason _).trans hduplicate.symm
  · exact (hreason _).trans hcooldown.symm
  · exact hreason
  · intro mode
    exact (get_column _ _ hmodes (normal_ne_debug mode)).trans (countP_mode hstored hquiet mode)
  · exact (htype _ (by decide)).trans (countP_suppressed hstored hquiet)
  · exact (htype _ (by decide)).trans (countP_compiled hstored hquiet)
  · show (Tally.of _).get _ ≤ (Tally.of _).get _
    rw [htype _ (by decide), htype _ (by decide), countP_compiled hstored hquiet]
    exact countP_sent_le hstored hquiet

/-- A message is handled while the task of another one, which repeats it, is asked and suppressed. -/
def twoTasks : List (HandlerStep Bool) :=
  [.message false ⟨TrustedCore.firstMessage, "oo".toList⟩ 0 (.listed _ _),
    .message true ⟨TrustedCore.firstMessage, "oo".toList⟩ 1000 (.listed _ _), .record true 0 true,
    .record false 0 true, .applied false (.ok ()) 2000 0 true]

/-- A task is between its decision and its row. -/
def isDecided : Task → Bool
  | .decided .. => true
  | _ => false

theorem twoTasks_quiet (t : Bool) (msg : Message) (decision : ActionDecision) :
    (Runs.run (step ⟨id, id⟩ auditingHandler) (start oneHitCore) twoTasks).tasks t ≠
      .decided msg decision := by
  have hnone : ∀ t, isDecided ((Runs.run (step ⟨id, id⟩ auditingHandler) (start oneHitCore)
      twoTasks).tasks t) = false := by
    decide +kernel
  intro hdecided
  have hfalse := hnone t
  rw [hdecided] at hfalse
  cases hfalse

theorem twoTasks_events :
    (Runs.run (step ⟨id, id⟩ auditingHandler) (start oneHitCore) twoTasks).events.map
        AuditEventInput.eventType = [.actionSuppressed, .responseCompiled, .actionSent] := by
  decide +kernel

theorem stats_agree_with_metrics_twoTasks : ∃ db : AuditDb,
    Agrees (db.events.stats 100 {})
      (Runs.run (step ⟨id, id⟩ auditingHandler) (start oneHitCore) twoTasks).core.metrics
      (oneHitCore.decisionLog id (coreOps ⟨id, id⟩ auditingHandler (start oneHitCore) twoTasks)) := by
  have hevents := congrArg List.length twoTasks_events
  rw [List.length_map] at hevents
  let call (input : AuditEventInput) : RecordCall := ⟨input, .ok "2024-01-01T00:00:00Z".toList, .ok []⟩
  let inputs := processStartEvent auditingHandler "MorphologicalReading".toList ::
    (Runs.run (step ⟨id, id⟩ auditingHandler) (start oneHitCore) twoTasks).events
  obtain ⟨db, hdb⟩ := @exists_recordAll .sha2 ⟨.readWrite, none, 100, 100⟩ (inputs.map call) rfl
    (fun c hc => by
      obtain ⟨input, -, rfl⟩ := List.mem_map.1 hc
      exact ⟨_, _, rfl, rfl⟩) .empty
  refine ⟨db, stats_agree_with_metrics ⟨id, id⟩ auditingHandler _ () _ canonicalBotConfig
    (defaultRuntimeProtectionConfig ℚ) 0 1000 1000 86400 oneHitCore rfl twoTasks (by decide) ?_
    twoTasks_quiet .sha2 ⟨.readWrite, none, 100, 100⟩ "MorphologicalReading".toList (inputs.map call) ?_
    db hdb ?_ ?_⟩
  · simp [twoTasks, Stores, auditingHandler]
  · rw [List.map_map]
    exact List.map_id' inputs
  · rw [List.length_map, List.length_cons, hevents]
    decide
  · decide

end Handling

end OoBot
