import OoBot.Sandbox.GuestRun

/-!
# The host side of `src/sandbox/host.rs`

`propose` runs a fresh instance of the guest for every request.  Of Wasmtime it uses that

* instantiation fails when the limits do not admit the guest's one page of memory or one instance,
* the memory of a fresh instance is zeroed,
* a call runs on the fuel of its store, and ends in a trap when the fuel runs out,

and the texts of its errors, which are the parameter `WasmtimeTexts`.  Whether a call that is out of fuel
counts as a timeout or as a trap depends on what its text says (`callError`).

`propose_eq` is the whole function on a request within the sentinel's limit.
-/

namespace OoBot

open Guest (nat32 flag)

/-- The texts of Wasmtime's errors. -/
structure WasmtimeTexts where
  instantiation : Text
  memoryAccess : Text
  outOfFuel : Text
  trap : Wasm.Trap → Text

/-- No texts, for requests that are answered: none of them is looked at there. -/
def WasmtimeTexts.unread : WasmtimeTexts where
  instantiation := []
  memoryAccess := []
  outOfFuel := []
  trap _ := []

/-- `SandboxConfig`. -/
structure SandboxConfig where
  fuelLimit : ℕ
  memoryLimitBytes : ℕ
  tableElementsLimit : ℕ
  storeInstanceLimit : ℕ
  deriving DecidableEq, Repr

/-- `SandboxConfig::default`. -/
def SandboxConfig.default : SandboxConfig where
  fuelLimit := 50000
  memoryLimitBytes := 65536
  tableElementsLimit := 64
  storeInstanceLimit := 4

/-- The size of the guest's memory, `(memory (export "memory") 1 1)`. -/
def guestMemoryBytes : ℕ := 65536

/-- `Instance::new` within the limits of `new_store`. -/
def SandboxConfig.instantiates (cfg : SandboxConfig) : Bool :=
  guestMemoryBytes ≤ cfg.memoryLimitBytes && 1 ≤ cfg.storeInstanceLimit

/-- The memory of an instance after `memory.write(0, bytes)`. -/
def guestMemory (bytes : List UInt8) : Wasm.Memory where
  size := guestMemoryBytes
  byte a := bytes.getD a 0

/-- `WasmtimeSandboxAnalyzer`. -/
structure WasmtimeSandboxAnalyzer where
  cfg : SandboxConfig
  abiVersion : BitVec 32
  texts : WasmtimeTexts

/-- `fetch_abi_version`. -/
def SandboxConfig.fetchAbiVersion (cfg : SandboxConfig) (texts : WasmtimeTexts) :
    Except Text (BitVec 32) :=
  if cfg.instantiates then
    match Guest.abiVersion.enter [] (guestMemory []) [] cfg.fuelLimit with
    | some (.ok [.i32 abi], _) => .ok abi
    | some (.ok _, _) => .error (texts.trap .invalid)
    | some (.error t, _) => .error (texts.trap t)
    | none => .error texts.outOfFuel
  else .error texts.instantiation

/-- `WasmtimeSandboxAnalyzer::new`. -/
def WasmtimeSandboxAnalyzer.new (texts : WasmtimeTexts) (cfg : SandboxConfig) :
    Except Text WasmtimeSandboxAnalyzer := do
  let actual ← cfg.fetchAbiVersion texts
  pure { cfg := cfg, abiVersion := actual, texts := texts }

/-- The error of a failed call: out of fuel is recognised by its text. -/
def callError (msg : Text) : AnalyzerError :=
  if contains msg "all fuel consumed".toList then .timeout else .trap msg

/-- `i32::MAX`. -/
def i32Max : ℕ := 2147483647

/-- Calling `analyze` on the bytes of a request. -/
def WasmtimeSandboxAnalyzer.callAnalyze (self : WasmtimeSandboxAnalyzer) (req : AnalyzerRequest) :
    Option (Wasm.CallResult × ℕ) :=
  let bytes := utf8 req.content
  let mem := guestMemory bytes
  Guest.analyze.enter (Wasm.link mem Guest.helpers) mem
    (Guest.args (nat32 0) (nat32 bytes.length) (nat32 (min req.kanjiCount i32Max))
      (flag req.specialPhraseHit)) self.cfg.fuelLimit

/-- `WasmtimeSandboxAnalyzer::propose`. -/
def WasmtimeSandboxAnalyzer.propose (self : WasmtimeSandboxAnalyzer) (req : AnalyzerRequest) :
    Except AnalyzerError ActionProposal :=
  if self.abiVersion ≠ sandboxAbiVersion then
    .error (.abiMismatch sandboxAbiVersion self.abiVersion)
  else if (utf8 req.content).length > self.cfg.memoryLimitBytes then
    .error (.resourceLimit "message exceeds sandbox linear memory budget".toList)
  else if !self.cfg.instantiates then
    .error (.trap self.texts.instantiation)
  else if (utf8 req.content).length > guestMemoryBytes then
    .error (.resourceLimit self.texts.memoryAccess)
  else
    match self.callAnalyze req with
    | some (.ok [.i64 wire], _) =>
        match ActionProposal.decodeWire wire with
        | .ok proposal => .ok proposal
        | .error _ => .error (.invalidWire wire)
    | some (.ok _, _) => .error (.trap (self.texts.trap .invalid))
    | some (.error t, _) => .error (callError (self.texts.trap t))
    | none => .error (callError self.texts.outOfFuel)

/-- The sandbox as an analyzer of the trusted core; it keeps no state between requests. -/
def WasmtimeSandboxAnalyzer.toAnalyzer (self : WasmtimeSandboxAnalyzer) : ProposalAnalyzer Unit :=
  fun req s => (self.propose req, s)

/-- The shipped analyzer, with the default configuration of the sandbox. -/
def shippedAnalyzer (texts : WasmtimeTexts) : WasmtimeSandboxAnalyzer :=
  ⟨.default, sandboxAbiVersion, texts⟩

theorem new_shippedAnalyzer (texts : WasmtimeTexts) :
    WasmtimeSandboxAnalyzer.new texts .default = .ok (shippedAnalyzer texts) := by
  rfl

/-! ### What the shipped analyzer answers -/

theorem guestMemory_holds {bytes : List UInt8} (h : bytes.length ≤ guestMemoryBytes) :
    Guest.Holds (guestMemory bytes) 0 bytes := by
  intro j b hj
  obtain ⟨hlt, rfl⟩ := List.getElem?_eq_some_iff.1 hj
  simp only [Wasm.Memory.load8, guestMemory, Nat.zero_add]
  rw [if_pos (by omega), List.getD_eq_getElem?_getD, hj, Option.getD_some]

theorem decodeWire_sendStamped (c : UInt8) :
    ActionProposal.decodeWire (ActionProposal.sendStamped c).encodeWire =
      .ok (.sendStamped (max 1 c)) := by
  have all : ∀ n : Fin 256, ActionProposal.decodeWire
      (ActionProposal.sendStamped (UInt8.ofFin n)).encodeWire =
        .ok (.sendStamped (max 1 (UInt8.ofFin n))) := by
    decide +kernel
  exact all c.toFin

/-- The wire format keeps the guest's proposals. -/
theorem decodeWire_guestProposal (total : ℕ) (special : Bool) :
    ActionProposal.decodeWire (Guest.guestProposal total special).encodeWire =
      .ok (Guest.guestProposal total special) := by
  unfold Guest.guestProposal
  split_ifs with h₁ h₂ h₃
  · decide
  · decide
  · decide
  · have hn : (UInt8.ofNat (min total 255)).toNat = min total 255 := by
      rw [UInt8.toNat_ofNat', Nat.mod_eq_of_lt (by omega)]
    have hmax : max 1 (UInt8.ofNat (min total 255)) = UInt8.ofNat (min total 255) := by
      refine if_pos ?_
      rw [UInt8.le_iff_toNat_le, hn]
      show 1 ≤ _
      omega
    rw [decodeWire_sendStamped, hmax]

section Propose

variable {a : WasmtimeSandboxAnalyzer} {req : AnalyzerRequest}

/-- A configuration under which the guest can be instantiated and called. -/
structure WasmtimeSandboxAnalyzer.Ready (a : WasmtimeSandboxAnalyzer) : Prop where
  abi : a.abiVersion = sandboxAbiVersion
  memory : guestMemoryBytes ≤ a.cfg.memoryLimitBytes
  instances : 1 ≤ a.cfg.storeInstanceLimit

theorem costs_abiVersion (mem : Wasm.Memory) :
    Wasm.Costs (Guest.abiVersion.enter [] mem []) 2 (.ok [.i32 1]) := by
  have body : Wasm.evals (Wasm.linkKnown mem []) mem [.i32Const 1] ⟨[], []⟩ =
      some (.next ⟨[], [.i32 1]⟩, 1) := by
    simp
  exact @Wasm.costs_enter [] mem _ _ Guest.abiVersion [] (Wasm.costs_of_evals body)

/-- An analyzer that could be built can be called. -/
theorem WasmtimeSandboxAnalyzer.ready_of_new {texts : WasmtimeTexts} {cfg : SandboxConfig}
    (h : WasmtimeSandboxAnalyzer.new texts cfg = .ok a) : a.Ready ∧ a.cfg = cfg := by
  have habi := costs_abiVersion (guestMemory [])
  unfold WasmtimeSandboxAnalyzer.new SandboxConfig.fetchAbiVersion at h
  by_cases hinst : cfg.instantiates
  · rw [if_pos hinst] at h
    by_cases hf : 2 ≤ cfg.fuelLimit
    · rw [habi.run hf] at h
      cases h
      have hparts : guestMemoryBytes ≤ cfg.memoryLimitBytes ∧ 1 ≤ cfg.storeInstanceLimit := by
        simpa [SandboxConfig.instantiates] using hinst
      exact ⟨⟨rfl, hparts.1, hparts.2⟩, rfl⟩
    · rw [habi.outOfFuel (by omega)] at h
      cases h
  · rw [if_neg hinst] at h
    cases h

theorem WasmtimeSandboxAnalyzer.Ready.propose_eq_call (h : a.Ready)
    (hlen : utf8Len req.content ≤ guestMemoryBytes) :
    a.propose req =
      match a.callAnalyze req with
      | some (.ok [.i64 wire], _) =>
          match ActionProposal.decodeWire wire with
          | .ok proposal => .ok proposal
          | .error _ => .error (.invalidWire wire)
      | some (.ok _, _) => .error (.trap (a.texts.trap .invalid))
      | some (.error t, _) => .error (callError (a.texts.trap t))
      | none => .error (callError a.texts.outOfFuel) := by
  have hinst : a.cfg.instantiates = true := by
    simp [SandboxConfig.instantiates, h.memory, h.instances]
  have hmem := h.memory
  have hu : (utf8 req.content).length = utf8Len req.content := rfl
  unfold WasmtimeSandboxAnalyzer.propose
  rw [if_neg (by simp [h.abi]), if_neg (by omega), if_neg (by simp [hinst]), if_neg (by omega)]

/-- The total that the guest acts on: the host caps the count it hands over, the guest reads the sum
as an `i32`. -/
def actedTotal (req : AnalyzerRequest) : ℕ :=
  Guest.readTotal (countOoSequences req.content + min req.kanjiCount i32Max)

theorem actedTotal_of_lt (hk : countOoSequences req.content + req.kanjiCount < 2 ^ 31) :
    actedTotal req = countOoSequences req.content + req.kanjiCount := by
  have hmin : min req.kanjiCount i32Max = req.kanjiCount := by
    rw [i32Max]
    omega
  rw [actedTotal, hmin, Guest.readTotal_of_lt hk]

/-- The call of a request within the sentinel's limit: its result and its exact fuel. -/
theorem costs_callAnalyze (hlen : utf8Len req.content ≤ 32768) :
    Wasm.Costs (Guest.analyze.enter
        (Wasm.link (guestMemory (utf8 req.content)) Guest.helpers) (guestMemory (utf8 req.content))
        (Guest.args (nat32 0) (nat32 (utf8Len req.content)) (nat32 (min req.kanjiCount i32Max))
          (flag req.specialPhraseHit)))
      (Guest.guestFuel req.content (min req.kanjiCount i32Max) req.specialPhraseHit)
      (.ok [.i64 (Guest.guestProposal (actedTotal req) req.specialPhraseHit).encodeWire]) := by
  have hle : (utf8 req.content).length ≤ guestMemoryBytes := hlen.trans (by decide)
  have hhalf := two_mul_countOoSequences_le req.content
  have hchars := length_le_utf8Len req.content
  have hmin : min req.kanjiCount i32Max ≤ 2147483647 := Nat.min_le_right _ _
  exact Guest.costs_analyze req.specialPhraseHit (guestMemory_holds hle) hlen (by omega) (by omega)

/-- On a request within the sentinel's limit the sandbox answers with the guest's proposal, or runs
out of fuel. -/
theorem WasmtimeSandboxAnalyzer.Ready.propose_eq (h : a.Ready)
    (hlen : utf8Len req.content ≤ 32768) :
    a.propose req =
      if Guest.guestFuel req.content (min req.kanjiCount i32Max) req.specialPhraseHit ≤
          a.cfg.fuelLimit then
        .ok (Guest.guestProposal (actedTotal req) req.specialPhraseHit)
      else .error (callError a.texts.outOfFuel) := by
  have call := costs_callAnalyze hlen
  rw [h.propose_eq_call (hlen.trans (by decide))]
  unfold WasmtimeSandboxAnalyzer.callAnalyze
  simp only [utf8_length]
  split_ifs with hf
  · rw [call.run hf]
    simp only [decodeWire_guestProposal]
  · rw [call.outOfFuel (by omega)]

end Propose

end OoBot
