import OoBot.Text

/-!
# `src/sandbox/abi.rs`

The interface between the trusted core and the sandboxed analyzer: proposals, their `i64` wire
format (kind in the upper, argument in the lower 32 bits), requests and errors.

An analyzer is a `Box<dyn ProposalAnalyzer>`: `ProposalAnalyzer σ` is one whose own state has type
`σ`, so each call may answer differently.
-/

namespace OoBot

/-- `SANDBOX_ABI_VERSION`. -/
def sandboxAbiVersion : BitVec 32 := 1

/-- `ProposalKind`. -/
inductive ProposalKind
  | noop
  | reactOnce
  | sendStamped
  | specialPhrase
  | suspiciousInput
  | defer
  | reject
  deriving DecidableEq, Repr

/-- `kind as u32`. -/
def ProposalKind.code : ProposalKind → BitVec 32
  | .noop => 0
  | .reactOnce => 1
  | .sendStamped => 2
  | .specialPhrase => 3
  | .suspiciousInput => 4
  | .defer => 5
  | .reject => 6

/-- `RejectReasonCode`. -/
inductive RejectReasonCode
  | invalidAbi
  | invalidProposal
  | sandboxTrap
  | timeout
  | resourceLimit
  deriving DecidableEq, Repr

/-- `reason as u32`. -/
def RejectReasonCode.code : RejectReasonCode → BitVec 32
  | .invalidAbi => 1
  | .invalidProposal => 2
  | .sandboxTrap => 3
  | .timeout => 4
  | .resourceLimit => 5

/-- `ActionProposal`. -/
inductive ActionProposal
  | noop
  | reactOnce
  | sendStamped (count : UInt8)
  | specialPhrase
  | suspiciousInput
  | defer
  | reject (reason : RejectReasonCode)
  deriving DecidableEq, Repr

/-- The pair `(kind, aux)` of `encode_wire`. -/
def ActionProposal.wireParts : ActionProposal → BitVec 32 × BitVec 32
  | .noop => (ProposalKind.noop.code, 0)
  | .reactOnce => (ProposalKind.reactOnce.code, 1)
  | .sendStamped count => (ProposalKind.sendStamped.code, BitVec.ofNat 32 count.toNat)
  | .specialPhrase => (ProposalKind.specialPhrase.code, 1)
  | .suspiciousInput => (ProposalKind.suspiciousInput.code, 0)
  | .defer => (ProposalKind.defer.code, 0)
  | .reject reason => (ProposalKind.reject.code, reason.code)

/-- `ActionProposal::encode_wire`. -/
def ActionProposal.encodeWire (p : ActionProposal) : BitVec 64 :=
  (p.wireParts.1.setWidth 64 <<< 32) ||| p.wireParts.2.setWidth 64

/-- The reject reason a decoded argument stands for. -/
def decodeReason (aux : BitVec 32) : RejectReasonCode :=
  if aux = 1 then .invalidAbi
  else if aux = 2 then .invalidProposal
  else if aux = 3 then .sandboxTrap
  else if aux = 4 then .timeout
  else if aux = 5 then .resourceLimit
  else .invalidProposal

/-- `ActionProposal::decode_wire`; `>>` on an `i64` is arithmetic. -/
def ActionProposal.decodeWire (value : BitVec 64) : Except RejectReasonCode ActionProposal :=
  let kind : BitVec 32 := (value.sshiftRight 32 &&& 0xFFFFFFFF).setWidth 32
  let aux : BitVec 32 := (value &&& 0xFFFFFFFF).setWidth 32
  if kind = ProposalKind.noop.code then .ok .noop
  else if kind = ProposalKind.reactOnce.code then .ok .reactOnce
  else if kind = ProposalKind.sendStamped.code then
    .ok (.sendStamped (UInt8.ofNat (max 1 (min aux.toNat 255))))
  else if kind = ProposalKind.specialPhrase.code then .ok .specialPhrase
  else if kind = ProposalKind.suspiciousInput.code then .ok .suspiciousInput
  else if kind = ProposalKind.defer.code then .ok .defer
  else if kind = ProposalKind.reject.code then .ok (.reject (decodeReason aux))
  else .error .invalidProposal

/-- `AnalyzerRequest`. -/
structure AnalyzerRequest where
  content : Text
  kanjiCount : ℕ
  specialPhraseHit : Bool
  deriving DecidableEq

/-- `AnalyzerError`. -/
inductive AnalyzerError
  | abiMismatch (expected actual : BitVec 32)
  | trap (msg : Text)
  | resourceLimit (msg : Text)
  | timeout
  | invalidWire (wire : BitVec 64)
  deriving DecidableEq

/-- `ProposalAnalyzer::propose`, for an analyzer with state `σ`. -/
abbrev ProposalAnalyzer (σ : Type) :=
  AnalyzerRequest → σ → Except AnalyzerError ActionProposal × σ

example : ActionProposal.decodeWire (ActionProposal.sendStamped 12).encodeWire =
    .ok (.sendStamped 12) := by decide

end OoBot
