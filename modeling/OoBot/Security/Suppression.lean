import OoBot.Security.Transitions

/-!
# No silent suppression

Whatever a core decides: a decision with a reason does nothing, and a decision to do nothing about an
outbound proposal has a reason.  A decision to do nothing without a reason leaves the limiters as they
are.

The last step checks the compiled action once more.  That check never finds anything
(`second_pass_idle`), since the compiler and the check agree on what may be delivered.
-/

namespace OoBot

namespace TrustedCore

variable {F σ : Type}

/-- What a decision comes to: it says why nothing is done, where something was proposed, and where it
does nothing without a reason the limiters `l` stay as they are. -/
structure Explained (l : Limits F) (r : ActionDecision × TrustedCore F σ) : Prop where
  suppressed : r.1.suppressReason.isSome → r.1.action = .noop
  reason : r.1.action = .noop → isOutboundProposal r.1.proposal = true → r.1.suppressReason.isSome
  idle : r.1.action = .noop → r.1.suppressReason = none → r.2.limits = l

theorem explained_dropped (l : Limits F) (mode : RuntimeMode) (proposal : ActionProposal)
    (suspicion : SuspicionLevel) (reason : SuppressReason) (next : TrustedCore F σ) :
    Explained l (dropped mode proposal suspicion reason, next) where
  suppressed _ := rfl
  reason _ _ := rfl
  idle _ h := absurd h (Option.some_ne_none reason)

/-- The checks of the last step do not change what the compiler lets through, and do not object to
it. -/
theorem second_pass_idle (self : TrustedCore F σ) (proposal : ActionProposal)
    (suspicion : SuspicionLevel) (mode : RuntimeMode) (detection : Option DetectionReport) :
    enforceActionCaps (self.compiled proposal suspicion mode detection) self.runtime.maxSendChars =
        self.compiled proposal suspicion mode detection ∧
      isInvalidAction (self.compiled proposal suspicion mode detection) = false := by
  by_cases h : self.compiled proposal suspicion mode detection = .noop
  · rw [h]
    exact ⟨rfl, rfl⟩
  · exact (compiled_deliverable h).caps

variable [F64 F]

theorem explained_settle (self : TrustedCore F σ) (ctx : MessageContext) (proposal : ActionProposal)
    (suspicion : SuspicionLevel) (mode : RuntimeMode) (now : Instant)
    (detection : Option DetectionReport) :
    Explained self.limits (self.settle ctx proposal suspicion mode now detection) := by
  unfold settle
  split_ifs with hc hmode hsusp hout
  · exact explained_dropped _ _ _ _ _ _
  · exact explained_dropped _ _ _ _ _ _
  · exact explained_dropped _ _ _ _ _ _
  · -- the only decision to do nothing without a reason
    exact ⟨by simp, fun _ h => absurd h hout, fun _ _ => rfl⟩
  · exact explained_dropped _ _ _ _ _ _
  · exact explained_dropped _ _ _ _ _ _
  · exact explained_dropped _ _ _ _ _ _
  · exact explained_dropped _ _ _ _ _ _
  · exact ⟨by simp, fun h => absurd h hc, fun h => absurd h hc⟩

theorem explained_outcome (nfkc : Text → Text) (self : TrustedCore F σ) (ctx : MessageContext)
    (content : Text) (now : Instant) (order : IterOrder UInt64 Instant) :
    Explained self.limits (self.outcome nfkc ctx content now order) := by
  unfold outcome
  split_ifs
  · exact explained_dropped _ _ _ _ _ _
  · exact explained_dropped _ _ _ _ _ _
  · exact (self.asked nfkc ctx content now order).explained_settle _ _ _ _ _ _

/-- **No silent suppression.**  In every state, with any analyzer and any detector: a decision with a
reason does nothing; a decision to do nothing about an outbound proposal has a reason; a decision to do
nothing without a reason spends nothing; and the second check of an action changes no compiled one. -/
theorem no_silent_suppression (nfkc : Text → Text) (self : TrustedCore F σ) (ctx : MessageContext)
    (content : Text) (now : Instant) (order : IterOrder UInt64 Instant) :
    ((self.decideMessage nfkc ctx content now order).1.suppressReason.isSome →
        (self.decideMessage nfkc ctx content now order).1.action = .noop) ∧
      ((self.decideMessage nfkc ctx content now order).1.action = .noop →
        isOutboundProposal (self.decideMessage nfkc ctx content now order).1.proposal = true →
        (self.decideMessage nfkc ctx content now order).1.suppressReason.isSome) ∧
      ((self.decideMessage nfkc ctx content now order).1.action = .noop →
        (self.decideMessage nfkc ctx content now order).1.suppressReason = none →
        (self.decideMessage nfkc ctx content now order).2.limits = self.limits) ∧
      ∀ proposal suspicion mode detection,
        enforceActionCaps (self.compiled proposal suspicion mode detection)
            self.runtime.maxSendChars = self.compiled proposal suspicion mode detection ∧
          isInvalidAction (self.compiled proposal suspicion mode detection) = false := by
  obtain ⟨mode, metrics, heq⟩ := self.decideMessage_eq_outcome nfkc ctx content now order
  have hexplained := self.explained_outcome nfkc ctx content now order
  rw [heq]
  exact ⟨hexplained.suppressed, hexplained.reason, hexplained.idle, self.second_pass_idle⟩

end TrustedCore

end OoBot
