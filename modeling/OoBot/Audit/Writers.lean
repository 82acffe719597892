import Mathlib.Logic.Function.Basic
import OoBot.Audit.History

/-!
# Several writers of one file

`record_event` reads the last hash with a `SELECT` and adds its row with an `INSERT`, two statements
that commit by themselves.  Several stores that are open on one file take these steps in any order;
what `maybe_create_manifest` does after the `INSERT` leaves the events as they are.

* A call that no other step interrupts is `recordEvent` (`run_recordEvent`).
* A writer holds the last hash of an earlier table, and of the table as it is exactly when no row came
  in between (`reading_run`).
* `verify` finds nothing exactly when no call was interrupted by an `INSERT`
  (`interleaving_verifies_iff`).
-/

namespace OoBot

/-- The steps of the calls of `record_event`; a call can also end with an error after its `SELECT`. -/
inductive WriterStep (W : Type)
  | select (w : W)
  | insert (w : W) (input : AuditEventInput) (tsUtc : Text)
  | fail (w : W)

/-- The events, and the hash that each writer has read for a call that is under way. -/
structure AuditWriters (W : Type) where
  events : AuditTable
  prevHash : W → Option Text

namespace AuditWriters

variable {W : Type} [DecidableEq W] (crypto : AuditCrypto) (stores : W → AuditStore)

/-- No call is under way. -/
def idle (events : AuditTable) : AuditWriters W := ⟨events, fun _ => none⟩

/-- One step of one writer, unless its call is not at that point. -/
def step (s : AuditWriters W) : WriterStep W → Option (AuditWriters W)
  | .select w =>
      match (stores w).ensureWritable, s.prevHash w with
      | .ok (), none =>
          some { s with prevHash := Function.update s.prevHash w (some s.events.lastRowHash) }
      | _, _ => none
  | .insert w input tsUtc =>
      match s.prevHash w with
      | some prevHash =>
          some ⟨s.events.insert ((stores w).columns crypto prevHash input tsUtc),
            Function.update s.prevHash w none⟩
      | none => none
  | .fail w =>
      match s.prevHash w with
      | some _ => some { s with prevHash := Function.update s.prevHash w none }
      | none => none

/-- The steps of a run, one after the other. -/
def run (s : AuditWriters W) (steps : List (WriterStep W)) : Option (AuditWriters W) :=
  steps.foldlM (step crypto stores) s

end AuditWriters

namespace WriterStep

variable {W : Type}

/-- The step adds a row. -/
def IsInsert : WriterStep W → Prop
  | .insert _ _ _ => True
  | _ => False

/-- `between` is what was done since the last `SELECT` of a writer. -/
def SinceSelect (w : W) (steps between : List (WriterStep W)) : Prop :=
  (∃ before, steps = before ++ .select w :: between) ∧ .select w ∉ between

/-- No writer adds a row between the `SELECT` and the `INSERT` of another call. -/
def Undisturbed (steps : List (WriterStep W)) : Prop :=
  ∀ before w input tsUtc after, steps = before ++ .insert w input tsUtc :: after →
    ∀ between, SinceSelect w before between → ∀ x ∈ between, ¬ x.IsInsert

section SinceSelect

variable {w : W} {steps between between' : List (WriterStep W)}

theorem sinceSelect_select (w : W) (steps : List (WriterStep W)) :
    SinceSelect w (steps ++ [.select w]) [] :=
  ⟨⟨steps, rfl⟩, List.not_mem_nil⟩

theorem SinceSelect.concat (h : SinceSelect w steps between) {x : WriterStep W}
    (hx : x ≠ .select w) : SinceSelect w (steps ++ [x]) (between ++ [x]) := by
  obtain ⟨⟨before, rfl⟩, hnot⟩ := h
  refine ⟨⟨before, by simp⟩, ?_⟩
  rw [List.mem_append, List.mem_singleton, not_or]
  exact ⟨hnot, fun heq => hx heq.symm⟩

/-- There is one last `SELECT`. -/
theorem SinceSelect.unique (h : SinceSelect w steps between) (h' : SinceSelect w steps between') :
    between = between' := by
  obtain ⟨⟨before, rfl⟩, hnot⟩ := h
  obtain ⟨⟨before', heq⟩, hnot'⟩ := h'
  -- one of the two decompositions starts with the other
  rcases List.append_eq_append_iff.1 heq with ⟨rest, -, hrest⟩ | ⟨rest, -, hrest⟩
  · cases rest with
    | nil =>
      injection hrest
    | cons x rest =>
      injection hrest with _ hrest
      rw [hrest] at hnot
      exact absurd (List.mem_append_right rest List.mem_cons_self) hnot
  · cases rest with
    | nil =>
      injection hrest with _ hrest
      exact hrest.symm
    | cons x rest =>
      injection hrest with _ hrest
      rw [hrest] at hnot'
      exact absurd (List.mem_append_right rest List.mem_cons_self) hnot'

end SinceSelect

theorem undisturbed_nil : Undisturbed ([] : List (WriterStep W)) := by
  intro before w input tsUtc after h
  cases before <;> cases h

/-- A step disturbs nothing unless it is the `INSERT` of a call that was interrupted. -/
theorem undisturbed_concat {steps : List (WriterStep W)} {x : WriterStep W} :
    Undisturbed (steps ++ [x]) ↔ Undisturbed steps ∧
      ∀ w input tsUtc, x = .insert w input tsUtc →
        ∀ between, SinceSelect w steps between → ∀ y ∈ between, ¬ y.IsInsert := by
  constructor
  · intro h
    refine ⟨?_, ?_⟩
    · intro before w input tsUtc after hsteps
      refine h before w input tsUtc (after ++ [x]) ?_
      rw [hsteps, List.append_assoc, List.cons_append]
    · rintro w input tsUtc rfl
      exact h steps w input tsUtc [] rfl
  · rintro ⟨hsteps, hlast⟩ before w input tsUtc after heq
    rcases List.eq_nil_or_concat' after with rfl | ⟨after, last, rfl⟩
    · obtain ⟨rfl, hx⟩ := List.append_inj' heq rfl
      injection hx with hx
      exact hlast w input tsUtc hx
    · rw [← List.cons_append, ← List.append_assoc] at heq
      obtain ⟨heq, -⟩ := List.append_inj' heq rfl
      exact hsteps before w input tsUtc after heq

/-- A call that follows other calls at once is not disturbed. -/
theorem Undisturbed.call {steps : List (WriterStep W)} (h : Undisturbed steps) (w : W)
    (input : AuditEventInput) (tsUtc : Text) :
    Undisturbed (steps ++ [.select w] ++ [.insert w input tsUtc]) := by
  refine undisturbed_concat.2 ⟨undisturbed_concat.2 ⟨h, by simp⟩, ?_⟩
  intro w' input' tsUtc' heq between hsince
  injection heq with hww' _ _
  subst hww'
  rw [hsince.unique (sinceSelect_select w steps)]
  simp

end WriterStep

namespace AuditWriters

open WriterStep

variable {W : Type} {s s' : AuditWriters W} {steps : List (WriterStep W)}

/-! ### What a writer holds -/

/-- A writer that is between its two steps holds the last hash of an earlier table; that table is the
one of now exactly when no row was added since. -/
def Reading (steps : List (WriterStep W)) (s : AuditWriters W) : Prop :=
  ∀ w prevHash, s.prevHash w = some prevHash →
    ∃ between, SinceSelect w steps between ∧ ∃ (earlier : AuditTable) (rows : List AuditRow),
      s.events.rows = earlier.rows ++ rows ∧ prevHash = earlier.lastRowHash ∧
        (rows = [] ↔ ∀ x ∈ between, ¬ x.IsInsert)

theorem reading_idle (events : AuditTable) : Reading ([] : List (WriterStep W)) (idle events) := by
  intro w prevHash h
  cases h

/-- The writers other than the one that takes a step. -/
theorem Reading.other {x : WriterStep W} {w : W} {prevHash : Text} (h : Reading steps s)
    (hw : s.prevHash w = some prevHash) (hx : x ≠ .select w) {added : List AuditRow}
    (hrows : s'.events.rows = s.events.rows ++ added) (hadded : added = [] ↔ ¬ x.IsInsert) :
    ∃ between, SinceSelect w (steps ++ [x]) between ∧
      ∃ (earlier : AuditTable) (rows : List AuditRow),
        s'.events.rows = earlier.rows ++ rows ∧ prevHash = earlier.lastRowHash ∧
          (rows = [] ↔ ∀ y ∈ between, ¬ y.IsInsert) := by
  obtain ⟨between, hsince, earlier, rows, hearlier, hprev, hnil⟩ := h w prevHash hw
  refine ⟨between ++ [x], hsince.concat hx, earlier, rows ++ added, ?_, hprev, ?_⟩
  · rw [hrows, hearlier, List.append_assoc]
  · rw [List.append_eq_nil_iff, hnil, hadded]
    constructor
    · rintro ⟨hbetween, hlast⟩ y hy
      rcases List.mem_append.1 hy with hy | hy
      · exact hbetween y hy
      · rw [List.mem_singleton.1 hy]
        exact hlast
    · intro hall
      exact ⟨fun y hy => hall y (List.mem_append_left [x] hy), hall x (by simp)⟩

variable [DecidableEq W] {crypto : AuditCrypto} {stores : W → AuditStore}

/-! ### What a step does -/

theorem step_select {w : W} (h : s.step crypto stores (.select w) = some s') :
    s'.events = s.events ∧
      s'.prevHash = Function.update s.prevHash w (some s.events.lastRowHash) := by
  simp only [step] at h
  split at h
  · injection h with h
    rw [← h]
    exact ⟨rfl, rfl⟩
  · cases h

theorem step_insert {w : W} {input : AuditEventInput} {tsUtc : Text}
    (h : s.step crypto stores (.insert w input tsUtc) = some s') :
    ∃ prevHash, s.prevHash w = some prevHash ∧
      s'.events = s.events.insert ((stores w).columns crypto prevHash input tsUtc) ∧
      s'.prevHash = Function.update s.prevHash w none := by
  unfold step at h
  cases hw : s.prevHash w with
  | none =>
    simp only [hw] at h
    cases h
  | some prevHash =>
    simp only [hw] at h
    injection h with h
    rw [← h]
    exact ⟨prevHash, rfl, rfl, rfl⟩

theorem step_fail {w : W} (h : s.step crypto stores (.fail w) = some s') :
    s'.events = s.events ∧ s'.prevHash = Function.update s.prevHash w none := by
  unfold step at h
  cases hw : s.prevHash w with
  | none =>
    simp only [hw] at h
    cases h
  | some prevHash =>
    simp only [hw] at h
    injection h with h
    rw [← h]
    exact ⟨rfl, rfl⟩

theorem run_nil : s.run crypto stores [] = some s := rfl

theorem run_concat {x : WriterStep W} :
    s.run crypto stores (steps ++ [x]) = some s' ↔
      ∃ s₁, s.run crypto stores steps = some s₁ ∧ s₁.step crypto stores x = some s' := by
  unfold run
  rw [List.foldlM_append]
  simp only [List.foldlM_cons, List.foldlM_nil, bind_pure]
  exact Option.bind_eq_some_iff

/-- A call of `record_event` is its two steps, when no other step comes between them. -/
theorem run_recordEvent {w : W} {db db' : AuditDb} {input : AuditEventInput}
    {clock manifestClock : Except Text Text} {id : ℤ} (hidle : s.prevHash w = none)
    (hevents : s.events = db.events)
    (h : (stores w).recordEvent crypto db input clock manifestClock = .ok (id, db')) :
    ∃ tsUtc, s.run crypto stores [.select w, .insert w input tsUtc] =
      some { s with events := db'.events } := by
  obtain ⟨hmode, tsUtc, -, -, hevents'⟩ := recordEvent_ok h
  refine ⟨tsUtc, ?_⟩
  have hwritable := ensureWritable_eq_ok_iff.2 hmode
  have hselect : s.step crypto stores (.select w) =
      some { s with prevHash := Function.update s.prevHash w (some s.events.lastRowHash) } := by
    simp only [step, hwritable, hidle]
  have hback : Function.update (Function.update s.prevHash w (some s.events.lastRowHash)) w none =
      s.prevHash := by
    rw [Function.update_idem, ← hidle, Function.update_eq_self]
  unfold run
  rw [List.foldlM_cons, hselect]
  simp only [List.foldlM_cons, List.foldlM_nil, bind_pure, Option.bind_eq_bind, Option.bind_some,
    step, Function.update_self, hback]
  rw [hevents', hevents]

/-! ### What a writer holds after a run -/

/-- A step keeps what the writers hold. -/
theorem reading_step {x : WriterStep W} (h : Reading steps s)
    (hstep : s.step crypto stores x = some s') : Reading (steps ++ [x]) s' := by
  intro v prevHash hv
  cases x with
  | select w =>
    obtain ⟨hevents, hprev⟩ := step_select hstep
    by_cases hvw : v = w
    · subst hvw
      rw [hprev, Function.update_self] at hv
      injection hv with hv
      exact ⟨[], sinceSelect_select v steps, s'.events, [], by simp, by rw [← hv, hevents],
        by simp⟩
    · rw [hprev, Function.update_of_ne hvw] at hv
      have hx : WriterStep.select w ≠ .select v := by
        intro heq
        injection heq with heq
        exact hvw heq.symm
      have hrows : s'.events.rows = s.events.rows ++ [] := by rw [hevents, List.append_nil]
      exact h.other hv hx hrows (by simp [IsInsert])
  | insert w input tsUtc =>
    obtain ⟨prev, -, hevents, hprev⟩ := step_insert hstep
    by_cases hvw : v = w
    · rw [hvw, hprev, Function.update_self] at hv
      cases hv
    · rw [hprev, Function.update_of_ne hvw] at hv
      have hrows : s'.events.rows = s.events.rows ++
          [⟨s.events.nextId, (stores w).columns crypto prev input tsUtc⟩] := by
        rw [hevents]
        rfl
      exact h.other hv (by simp) hrows (by simp [IsInsert])
  | fail w =>
    obtain ⟨hevents, hprev⟩ := step_fail hstep
    by_cases hvw : v = w
    · rw [hvw, hprev, Function.update_self] at hv
      cases hv
    · rw [hprev, Function.update_of_ne hvw] at hv
      have hrows : s'.events.rows = s.events.rows ++ [] := by rw [hevents, List.append_nil]
      exact h.other hv (by simp) hrows (by simp [IsInsert])

/-- What the writers hold after a run. -/
theorem reading_run {events : AuditTable}
    (h : (idle events).run crypto stores steps = some s) : Reading steps s := by
  induction steps using List.reverseRecOn generalizing s with
  | nil =>
    injection h with h
    rw [← h]
    exact reading_idle events
  | append_singleton steps x ih =>
    obtain ⟨s₁, hrun, hstep⟩ := run_concat.1 h
    exact reading_step (ih hrun) hstep

/-! ### When the chain stays intact -/

/-- A step that adds no row changes no event. -/
theorem step_events {x : WriterStep W} (hx : ¬ x.IsInsert)
    (hstep : s.step crypto stores x = some s') : s'.events = s.events := by
  cases x with
  | select w => exact (step_select hstep).1
  | insert w input tsUtc => exact absurd trivial hx
  | fail w => exact (step_fail hstep).1

/-- A row continues the chain exactly when its writer holds the last hash. -/
theorem intact_step_insert {w : W} {input : AuditEventInput} {tsUtc : Text}
    (hstep : s.step crypto stores (.insert w input tsUtc) = some s') :
    s'.events.Intact crypto ↔
      s.events.Intact crypto ∧ s.prevHash w = some s.events.lastRowHash := by
  obtain ⟨prevHash, hw, hevents, -⟩ := step_insert hstep
  rw [hevents, intact_insert_iff, hw, Option.some.injEq]
  have hhash := (stores w).columns_rowHash crypto prevHash input tsUtc
  exact ⟨fun h => ⟨h.1, h.2.1⟩, fun h => ⟨h.1, h.2, hhash⟩⟩

/-- An earlier table with the same last hash is the same table. -/
theorem rows_eq_nil_of_lastRowHash {t earlier : AuditTable} {rows : List AuditRow}
    (hrows : t.rows = earlier.rows ++ rows) (ht : t.Intact crypto)
    (hgood : GoodDigest crypto t.hashedBytes) (hhash : earlier.lastRowHash = t.lastRowHash) :
    rows = [] := by
  have hentries : t.entries = earlier.entries ++ rows.map AuditRow.entry := by
    unfold AuditTable.entries
    rw [hrows, List.map_append]
  have hearlier : earlier.Intact crypto := by
    unfold AuditTable.Intact at ht ⊢
    rw [hentries] at ht
    exact ((HashChain.linked_append _ _ _ _).1 ht).1
  have hsub : earlier.hashedBytes ⊆ t.hashedBytes := by
    unfold AuditTable.hashedBytes
    rw [hrows, List.map_append]
    exact List.subset_append_left _ _
  have heq := hearlier.entries_eq ht
    (hgood.mono (List.append_subset.2 ⟨hsub, List.Subset.refl _⟩)) hhash
  rw [hentries] at heq
  exact List.map_eq_nil_iff.1 (List.self_eq_append_right.1 heq)

/-- Undisturbed calls keep the chain. -/
theorem intact_of_undisturbed {events : AuditTable} (hevents : events.Intact crypto)
    (hrun : (idle events).run crypto stores steps = some s) (h : Undisturbed steps) :
    s.events.Intact crypto := by
  induction steps using List.reverseRecOn generalizing s with
  | nil =>
    injection hrun with hrun
    rw [← hrun]
    exact hevents
  | append_singleton steps x ih =>
    obtain ⟨s₁, hrun₁, hstep⟩ := run_concat.1 hrun
    obtain ⟨hsteps, hlast⟩ := undisturbed_concat.1 h
    have hintact := ih hrun₁ hsteps
    cases x with
    | insert w input tsUtc =>
      refine (intact_step_insert hstep).2 ⟨hintact, ?_⟩
      obtain ⟨prevHash, hw, -, -⟩ := step_insert hstep
      obtain ⟨between, hsince, earlier, rows, hrows, hprev, hnil⟩ := reading_run hrun₁ w prevHash hw
      -- nothing was added since the SELECT, so the writer holds the last hash
      rw [hnil.2 (hlast w input tsUtc rfl between hsince), List.append_nil] at hrows
      rw [hw, hprev, AuditTable.lastRowHash, AuditTable.lastRowHash, hrows]
    | select w =>
      rw [step_events id hstep]
      exact hintact
    | fail w =>
      rw [step_events id hstep]
      exact hintact

/-- A chain that is intact in the end was never disturbed. -/
theorem undisturbed_of_intact {events : AuditTable}
    (hrun : (idle events).run crypto stores steps = some s)
    (hgood : GoodDigest crypto s.events.hashedBytes) (h : s.events.Intact crypto) :
    Undisturbed steps := by
  induction steps using List.reverseRecOn generalizing s with
  | nil => exact undisturbed_nil
  | append_singleton steps x ih =>
    obtain ⟨s₁, hrun₁, hstep⟩ := run_concat.1 hrun
    cases x with
    | insert w input tsUtc =>
      -- a row that keeps the table intact names its last hash, which is the one `w` has read
      obtain ⟨hintact, hw⟩ := (intact_step_insert hstep).1 h
      obtain ⟨prevHash, -, hevents, -⟩ := step_insert hstep
      have hsub : s₁.events.hashedBytes ⊆ s.events.hashedBytes := by
        rw [hevents]
        unfold AuditTable.hashedBytes AuditTable.insert
        rw [List.map_append]
        exact List.subset_append_left _ _
      have hgood₁ := hgood.mono hsub
      refine undisturbed_concat.2 ⟨ih hrun₁ hgood₁ hintact, ?_⟩
      intro w' input' tsUtc' heq between hsince
      injection heq with hww' _ _
      subst hww'
      obtain ⟨between', hsince', earlier, rows, hrows, hprev, hnil⟩ :=
        reading_run hrun₁ w s₁.events.lastRowHash hw
      rw [hsince.unique hsince']
      exact hnil.1 (rows_eq_nil_of_lastRowHash hrows hintact hgood₁ hprev.symm)
    | select w =>
      rw [step_events id hstep] at h hgood
      exact undisturbed_concat.2 ⟨ih hrun₁ hgood h, by simp⟩
    | fail w =>
      rw [step_events id hstep] at h hgood
      exact undisturbed_concat.2 ⟨ih hrun₁ hgood h, by simp⟩

/-- **Which interleavings keep the chain.**  From a table in which `verify` finds nothing, any number of
writers leave one in which it finds nothing when no row was added between the `SELECT` and the `INSERT`
of another call, and only then, as far as no two of the hashed strings collide. -/
theorem interleaving_verifies_iff {events : AuditTable} (hevents : events.Verifies crypto none none)
    (hrun : (idle events).run crypto stores steps = some s) :
    (Undisturbed steps → s.events.Verifies crypto none none) ∧
      (GoodDigest crypto s.events.hashedBytes →
        s.events.Verifies crypto none none → Undisturbed steps) := by
  rw [verifies_all_iff] at hevents ⊢
  exact ⟨intact_of_undisturbed hevents hrun, undisturbed_of_intact hrun⟩

/-- The start of a process. -/
def processStart : AuditEventInput := { eventType := .processStart }

/-- Two processes that write to one file. -/
def twoProcesses (_ : Bool) : AuditStore := ⟨.readWrite, none, 100, 100⟩

/-- One process after the other. -/
def inTurn : List (WriterStep Bool) :=
  [] ++ [.select false] ++ [.insert false processStart "2024-01-01T00:00:00Z".toList] ++
    [.select true] ++ [.insert true processStart "2024-01-01T00:00:01Z".toList]

/-- Both read before one of them writes. -/
def atOnce : List (WriterStep Bool) :=
  [.select false, .select true, .insert false processStart "2024-01-01T00:00:00Z".toList,
    .insert true processStart "2024-01-01T00:00:00Z".toList]

/-- Two processes that start one after the other leave an intact chain. -/
theorem inTurn_verifies : ∃ s, (idle .empty).run .sha2 twoProcesses inTurn = some s ∧
    s.events.Verifies .sha2 none none := by
  have hundisturbed : Undisturbed inTurn := (undisturbed_nil.call false _ _).call true _ _
  have hrun : ∃ s, (idle .empty).run .sha2 twoProcesses inTurn = some s := ⟨_, rfl⟩
  obtain ⟨s, hs⟩ := hrun
  exact ⟨s, hs, (interleaving_verifies_iff (verifies_all_iff.2 intact_empty) hs).1 hundisturbed⟩

/-- Two processes that start at once both name `GENESIS`. -/
theorem atOnce_not_verifies : ∃ s, (idle .empty).run .sha2 twoProcesses atOnce = some s ∧
    ¬ s.events.Verifies .sha2 none none := by
  refine ⟨_, rfl, ?_⟩
  intro h
  have hprev : AuditTable.genesis = Sha256.hexDigest _ :=
    (intact_insert_iff.1 (verifies_all_iff.1 h)).2.1
  have hlength := congrArg List.length hprev
  rw [Sha256.length_hexDigest] at hlength
  revert hlength
  decide

end AuditWriters

end OoBot
