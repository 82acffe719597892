import OoBot.Audit.Payload
import OoBot.Control.Runtime
import OoBot.Lib.Arrivals
import OoBot.Lib.Files

/-!
# Requests and answers on the control socket

A client writes its request as a line of JSON, `handle_connection` reads it and writes its answer as another
line, and the client reads that.  The bytes of both lines arrive in pieces, in time or not, and either line
may be cut short.

Who reads a line reads what was written or fails (`receive_message`).  Together with the runtime's steps in
any order, what a client makes of its answer is true of the runtime (`client_told_truth`).

* `serde_json` writes the messages here.  What its parser answers is a parameter, and only has to read what
  was written, and to refuse what is cut short (`Reads`).
* What the socket does, up to its timeouts, is an arrival or an error.
-/

namespace OoBot

open Arrivals Files

/-! ### Messages -/

/-- A request, as `serde` writes it. -/
def ControlRequest.json : ControlRequest → Json.Value
  | .status => .object [("kind".toList, .string "status".toList)]
  | .stop source => .object [("kind".toList, .string "stop".toList), ("source".toList, .string source)]

/-- A status, as `serde` writes it. -/
def RuntimeControlStatus.json (self : RuntimeControlStatus) : Json.Value :=
  .object
    [("state".toList, .string self.state),
      ("pid".toList, .number self.pid),
      ("started_at_unix".toList, .number self.startedAtUnix.toNat),
      ("config_path".toList, .string self.configPath),
      ("config_fingerprint".toList, .string self.configFingerprint),
      ("detector_backend".toList, .string self.detectorBackend),
      ("active_lsm".toList, .string self.activeLsm),
      ("hardening_status".toList, .string self.hardeningStatus),
      ("socket_path".toList, .string self.socketPath)]

/-- An answer, as `serde` writes it. -/
def ControlResponse.json : ControlResponse → Json.Value
  | .status now => .object [("kind".toList, .string "status".toList), ("status".toList, now.json)]
  | .ack message => .object [("kind".toList, .string "ack".toList), ("message".toList, .string message)]
  | .error message =>
      .object [("kind".toList, .string "error".toList), ("message".toList, .string message)]

/-- The text of a request. -/
def ControlRequest.text (self : ControlRequest) : Text := Json.text serdeEscape self.json

/-- The text of an answer. -/
def ControlResponse.text (self : ControlResponse) : Text := Json.text serdeEscape self.json

/-! ### Lines -/

/-- What is written for a message. -/
def messageBytes (text : Text) : Bytes := utf8 (text ++ ['\n'])

/-- `read_line`. -/
def readLine (arrival : Arrival Text UInt8) : Except Text Text :=
  match arrival.readUntil 10 with
  | .error err => .error err
  | .ok bytes => Fallible.okOr (fromUtf8 bytes) "stream did not contain valid UTF-8".toList

/-- The message on the line that is read. -/
def receive {α : Type} (parse : Text → Except Text α) (arrival : Arrival Text UInt8) : Except Text α :=
  match readLine arrival with
  | .error err => .error err
  | .ok line => parse (trimEnd line)

/-- `send_control_request`: what comes of connecting, of writing the request and of reading. -/
def sendControlRequest (parse : Text → Except Text ControlResponse) (socketPath : Text)
    (connected written : Except Text Unit) (answer : Arrival Text UInt8) : Except Text ControlResponse :=
  match connected with
  | .error err => .error ("failed to connect runtime control socket at ".toList ++ socketPath ++
      ": ".toList ++ err)
  | .ok () =>
      match written with
      | .error err => .error err
      | .ok () => receive parse answer

/-- The parser reads the text as the value, and refuses what is cut short. -/
structure Reads {α : Type} (parse : Text → Except Text α) (text : Text) (value : α) : Prop where
  whole : parse text = .ok value
  cut : ∀ p, p <+: text → p ≠ text → ∃ err, parse p = .error err

section Lines

variable {α : Type} {parse : Text → Except Text α} {fields : List (Text × Json.Value)} {text line : Text}
  {value : α} {arrival : Arrival Text UInt8}

/-- The end of a message is no whitespace. -/
theorem trimEnd_object : trimEnd (Json.text serdeEscape (.object fields) ++ ['\n']) =
    Json.text serdeEscape (.object fields) := by
  obtain ⟨front, hfront⟩ := @Json.exists_text_object serdeEscape fields
  rw [trimEnd_append_of_blank _ (by simp [isWhitespace_newline]), hfront]
  exact List.rdropWhile_concat_neg _ _ _ (by decide)

/-- The line of a message ends where it was ended. -/
theorem newline_not_mem_object : (10 : UInt8) ∉ utf8 (Json.text serdeEscape (.object fields)) := fun h =>
  newline_not_mem_json _ (newline_mem_utf8 h)

theorem receive_of_readLine (h : readLine arrival = .ok line) :
    receive parse arrival = parse (trimEnd line) := by
  unfold receive
  rw [h]

theorem readLine_ok (h : readLine arrival = .ok line) : arrival.readUntil 10 = .ok (utf8 line) := by
  unfold readLine at h
  split at h
  · cases h
  next bytes hbytes =>
    rw [hbytes, utf8_of_fromUtf8 (Fallible.okOr_ok_iff.1 h)]

/-- **Who reads a line of which something arrives**, in any pieces, reads the message that was written, and
only if its text has arrived; without its end, he may fail. -/
theorem receive_message (htext : text = Json.text serdeEscape (.object fields))
    (hreads : Reads parse text value) (h : arrival.all <+: messageBytes text) :
    (∀ v, receive parse arrival = .ok v → v = value ∧ utf8 text <+: arrival.all) ∧
      (arrival.all = messageBytes text → receive parse arrival = .ok value) := by
  subst htext
  have hbytes : messageBytes (Json.text serdeEscape (.object fields)) =
      utf8 (Json.text serdeEscape (.object fields)) ++ [10] := utf8_append _ _
  have hwhole (hall : arrival.all = messageBytes (Json.text serdeEscape (.object fields))) :
      receive parse arrival = .ok value := by
    have hread := Arrival.readUntil_of_mem newline_not_mem_object (hall.trans hbytes)
    have hline : readLine arrival = .ok (Json.text serdeEscape (.object fields) ++ ['\n']) := by
      unfold readLine
      rw [hread, ← hbytes]
      exact Fallible.okOr_ok_iff.2 (fromUtf8_utf8 _)
    rw [receive_of_readLine hline, trimEnd_object]
    exact hreads.whole
  refine ⟨fun v hv => ?_, hwhole⟩
  rw [hbytes, List.prefix_concat_iff, ← hbytes] at h
  rcases h with hall | hcut
  · rw [hwhole hall] at hv
    refine ⟨(Except.ok.inj hv).symm, ?_⟩
    rw [hall, hbytes]
    exact List.prefix_append _ _
  -- the line ends before its newline
  cases hline : readLine arrival with
  | error err =>
    unfold receive at hv
    rw [hline] at hv
    cases hv
  | ok line =>
    have hnone : (10 : UInt8) ∉ arrival.all := fun hmem =>
      newline_not_mem_object (hcut.subset hmem)
    have hutf := Arrival.readUntil_of_not_mem hnone (readLine_ok hline)
    rw [receive_of_readLine hline] at hv
    have hline' : line <+: Json.text serdeEscape (.object fields) := by
      rw [← utf8_prefix_iff, hutf]
      exact hcut
    have htrim : trimEnd line <+: line := List.rdropWhile_prefix _ _
    by_cases hsame : trimEnd line = Json.text serdeEscape (.object fields)
    · rw [hsame, hreads.whole] at hv
      refine ⟨(Except.ok.inj hv).symm, ?_⟩
      rw [← hutf, utf8_prefix_iff, ← hsame]
      exact htrim
    · obtain ⟨err, herr⟩ := hreads.cut _ (htrim.trans hline') hsame
      rw [herr] at hv
      cases hv

end Lines

/-! ### Answers -/

namespace Runtime

/-- The answer to a request, in a state of the runtime where it is true. -/
def Answers (s : Sys) : ControlRequest → ControlResponse → Prop
  | .status, response => response = .status s.status
  | .stop source, response => response = accepted source ∧ .stop source ∈ s.sent

/-- A connection does and answers what its line asks for. -/
structure Conn.Answering (parse : Text → Except Text ControlRequest) (s : Sys) (c : Conn) : Prop where
  sending : ∀ source, c.phase = .sending source →
    ∃ line, c.input = .line line ∧ parse (trimEnd line) = .ok (.stop source)
  answers : ∀ response, c.phase.response? = some response →
    ∃ line req, c.input = .line line ∧ parse (trimEnd line) = .ok req ∧ Answers s req response

section Answers

variable {parse : Text → Except Text ControlRequest} {client : Serenity} {s s' : Sys} {a : Action}
  {c : Conn} {input : Input} {phase : ConnPhase}

/-- An answer stays true. -/
theorem Answers.mono {req : ControlRequest} {response : ControlResponse} (hstatus : s'.status = s.status)
    (hsent : s.sent <+: s'.sent) (h : Answers s req response) : Answers s' req response := by
  cases req with
  | status => exact h.trans (congrArg _ hstatus.symm)
  | stop source => exact ⟨h.1, hsent.subset h.2⟩

theorem Conn.Answering.mono (hstatus : s'.status = s.status) (hsent : s.sent <+: s'.sent)
    (h : c.Answering parse s) : c.Answering parse s' := by
  refine ⟨h.sending, fun response hresponse => ?_⟩
  obtain ⟨line, req, hinput, hparse, hanswers⟩ := h.answers response hresponse
  exact ⟨line, req, hinput, hparse, hanswers.mono hstatus hsent⟩

/-- A connection that neither stops the bot nor answers. -/
theorem answering_of_silent (hsending : ∀ source, phase ≠ .sending source)
    (hresponse : phase.response? = none) : Conn.Answering parse s ⟨input, phase⟩ := by
  refine ⟨fun source h => absurd h (hsending source), fun response h => ?_⟩
  have hnone : phase.response? = some response := h
  rw [hresponse] at hnone
  cases hnone

/-- A line is handled as it asks. -/
theorem answering_handleLine (line : Text) :
    Conn.Answering parse s ⟨.line line, handleLine parse s.status line⟩ := by
  unfold handleLine
  split
  next => exact answering_of_silent (by simp) rfl
  next hparse =>
    refine ⟨by rintro source ⟨⟩, fun response h => ?_⟩
    cases h
    exact ⟨line, .status, rfl, hparse, rfl⟩
  next source hparse =>
    refine ⟨fun source' h => ?_, by rintro response ⟨⟩⟩
    cases h
    exact ⟨line, rfl, hparse⟩

/-- What a step does to the connections. -/
theorem step_conns (h : step parse client s a = some s') : s'.conns = s.conns ∨
    s'.conns = s.conns ++ [⟨.silent, .waiting⟩] ∨
    ∃ i c c', s.conns[i]? = some c ∧ s'.conns = s.conns.set i c' ∧
      (c.Answering parse s → c'.Answering parse s') := by
  cases a with
  | write i line | hangUp i =>
    simp only [step] at h
    split at h
    case h_1 phase hc =>
      cases h
      refine .inr (.inr ⟨i, _, _, hc, rfl, fun hans => ?_⟩)
      -- nothing was answered before there was a line
      refine ⟨fun source hsending => ?_, fun response hresponse => ?_⟩
      · obtain ⟨_, hinput, -⟩ := hans.sending source hsending
        cases hinput
      · obtain ⟨_, _, hinput, -⟩ := hans.answers response hresponse
        cases hinput
    case h_2 => cases h
  | readFails i err | replyFails i err =>
    simp only [step] at h
    split at h
    case h_1 hc =>
      cases h
      exact .inr (.inr ⟨i, _, _, hc, rfl, fun _ => answering_of_silent (by simp) rfl⟩)
    case h_2 => cases h
  | accept i =>
    simp only [step] at h
    split at h
    case h_1 hc =>
      split at h
      · cases h
        exact .inr (.inr ⟨i, _, _, hc, rfl, fun _ => answering_of_silent (by simp) rfl⟩)
      · cases h
    case h_2 => cases h
  | read i =>
    simp only [step] at h
    split at h
    case h_1 line hc =>
      cases h
      exact .inr (.inr ⟨i, _, _, hc, rfl, fun _ => answering_handleLine line⟩)
    case h_2 hc =>
      cases h
      exact .inr (.inr ⟨i, _, _, hc, rfl, fun _ => answering_of_silent (by simp) rfl⟩)
    case h_3 => cases h
  | reply i =>
    simp only [step] at h
    split at h
    case h_1 hc =>
      cases h
      refine .inr (.inr ⟨i, _, _, hc, rfl, fun hans => ⟨by rintro source ⟨⟩, ?_⟩⟩)
      exact hans.answers
    case h_2 => cases h
  | expire i =>
    simp only [step] at h
    split at h
    case h_1 input phase hc =>
      split at h
      · cases h
        exact .inr (.inr ⟨i, _, _, hc, rfl, fun _ => answering_of_silent (by simp) rfl⟩)
      · cases h
    case h_2 => cases h
  | send i =>
    simp only [step] at h
    split at h
    case h_2 => cases h
    case h_1 input source hc =>
    split at h
    case isTrue =>
      cases h
      exact .inr (.inr ⟨i, _, _, hc, rfl, fun _ => answering_of_silent (by simp) rfl⟩)
    split at h
    case isTrue =>
      cases h
      refine .inr (.inr ⟨i, _, _, hc, rfl, fun hans => ⟨by rintro source ⟨⟩, ?_⟩⟩)
      intro response hresponse
      cases hresponse
      obtain ⟨line, hinput, hparse⟩ := hans.sending source rfl
      exact ⟨line, _, hinput, hparse, rfl, List.mem_append_right _ (List.mem_singleton_self _)⟩
    case isFalse => cases h
  | connect =>
    simp only [step] at h
    split at h
    case isTrue => cases h; exact .inr (.inl rfl)
    case isFalse => cases h
  | forward =>
    simp only [step] at h
    split at h
    case isFalse => cases h
    split at h
    case isTrue => cases h; exact .inl rfl
    split at h
    case isTrue => cases h; exact .inl rfl
    case isFalse => cases h
  | receive | shutdownAll =>
    simp only [step] at h
    split at h
    case h_1 => cases h; exact .inl rfl
    case h_2 => cases h
  | joinServer | clientStops =>
    simp only [step] at h
    split at h
    case h_2 => cases h
    split at h
    case isTrue => cases h; exact .inl rfl
    case isFalse => cases h
  | _ =>
    simp only [step] at h
    split at h
    case isTrue => cases h; exact .inl rfl
    case isFalse => cases h

/-- **One step** keeps what the connections do and answer. -/
theorem answering_step (h : step parse client s a = some s') (hs : ∀ c ∈ s.conns, c.Answering parse s) :
    ∀ c ∈ s'.conns, c.Answering parse s' := by
  obtain ⟨hstatus, hsent, -⟩ := step_frame h
  intro c hc
  rcases step_conns h with hsame | hnew | ⟨i, d, d', hd, hset, hans⟩
  · rw [hsame] at hc
    exact (hs c hc).mono hstatus hsent
  · rw [hnew] at hc
    rcases List.mem_append.1 hc with hc | hc
    · exact (hs c hc).mono hstatus hsent
    · rw [List.mem_singleton.1 hc]
      exact answering_of_silent (by simp) rfl
  · rw [hset] at hc
    rcases List.mem_or_eq_of_mem_set hc with hc | rfl
    · exact (hs c hc).mono hstatus hsent
    · exact hans (hs d (List.mem_of_getElem? hd))

/-- In whatever order the tasks and the clients take their steps, every connection is answered as its line
asks. -/
theorem answering_run {status : RuntimeControlStatus} {as : List Action}
    (h : Progress.Run (step parse client) (initial status) as s) : ∀ c ∈ s.conns, c.Answering parse s :=
  h.inv (I := fun s => ∀ c ∈ s.conns, c.Answering parse s) (fun _ _ _ hstep hs => answering_step hstep hs)
    fun _ hc => absurd hc List.not_mem_nil

end Answers

/-! ### Requests -/

/-- The answer to a request. -/
def answerTo (status : RuntimeControlStatus) : ControlRequest → ControlResponse
  | .status => .status status
  | .stop source => accepted source

/-- What is written on a connection. -/
def Conn.written (c : Conn) : Bytes :=
  match c.phase.response? with
  | some response => messageBytes response.text
  | none => []

section Requests

variable {parse : Text → Except Text ControlRequest} {parseAnswer : Text → Except Text ControlResponse}
  {client : Serenity} {s : Sys} {c : Conn} {status : RuntimeControlStatus} {as : List Action} {req : ControlRequest}
  {socketPath : Text} {connected written : Except Text Unit} {request answer : Arrival Text UInt8}

theorem request_text (req : ControlRequest) :
    ∃ fields, req.text = Json.text serdeEscape (.object fields) := by
  cases req <;> exact ⟨_, rfl⟩

theorem response_text (response : ControlResponse) :
    ∃ fields, response.text = Json.text serdeEscape (.object fields) := by
  cases response <;> exact ⟨_, rfl⟩

theorem status_run (h : Progress.Run (step parse client) (initial status) as s) : s.status = status :=
  h.inv (I := fun s => s.status = status) (fun _ _ _ hstep hs => (step_frame hstep).1.trans hs) rfl

theorem Answers.eq {response : ControlResponse} (h : Answers s req response) :
    response = answerTo s.status req := by
  cases req with
  | status => exact h
  | stop source => exact h.1

/-- What is answered on a connection is what was asked on it. -/
theorem answers_of_response (hrun : Progress.Run (step parse client) (initial status) as s) (hc : c ∈ s.conns)
    (hreq : Reads parse req.text req) (hrequest : request.all <+: messageBytes req.text)
    (hinput : ∀ line, c.input = .line line → readLine request = .ok line) {response : ControlResponse}
    (hresponse : c.phase.response? = some response) : Answers s req response := by
  obtain ⟨line, asked, hline, hparse, hanswers⟩ := (answering_run hrun c hc).answers response hresponse
  obtain ⟨fields, htext⟩ := request_text req
  have hreceive : receive parse request = .ok asked :=
    (receive_of_readLine (hinput line hline)).trans hparse
  rw [← ((receive_message htext hreq hrequest).1 asked hreceive).1]
  exact hanswers

/-- What a client makes of the bytes that arrive is the answer to its request. -/
theorem answers_of_sendControlRequest (hrun : Progress.Run (step parse client) (initial status) as s)
    (hc : c ∈ s.conns) (hreq : Reads parse req.text req)
    (hanswer : Reads parseAnswer (answerTo status req).text (answerTo status req))
    (hrequest : request.all <+: messageBytes req.text)
    (hinput : ∀ line, c.input = .line line → readLine request = .ok line)
    (harrives : answer.all <+: c.written) {response : ControlResponse}
    (hsend : sendControlRequest parseAnswer socketPath connected written answer = .ok response) :
    Answers s req response := by
  have hreceive : receive parseAnswer answer = .ok response := by
    unfold sendControlRequest at hsend
    split at hsend
    · cases hsend
    · split at hsend
      · cases hsend
      · exact hsend
  obtain ⟨fields, htext⟩ := response_text (answerTo status req)
  unfold Conn.written at harrives
  cases hresponse : c.phase.response? with
  | none =>
    -- nothing was written, so nothing can have been read
    rw [hresponse] at harrives
    have hnil : answer.all = [] := List.prefix_nil.1 harrives
    have hprefix : answer.all <+: messageBytes (answerTo status req).text := by
      rw [hnil]
      exact List.nil_prefix
    obtain ⟨-, hwhole⟩ := (receive_message htext hanswer hprefix).1 response hreceive
    rw [hnil, ← utf8_nil, utf8_prefix_iff, List.prefix_nil, htext] at hwhole
    obtain ⟨front, hfront⟩ := @Json.exists_text_object serdeEscape fields
    rw [hfront] at hwhole
    exact absurd hwhole (by simp)
  | some given =>
    rw [hresponse] at harrives
    have hanswers := answers_of_response hrun hc hreq hrequest hinput hresponse
    have hgiven : given = answerTo status req := by
      rw [hanswers.eq, status_run hrun]
    rw [hgiven] at harrives hanswers
    rw [((receive_message htext hanswer harrives).1 response hreceive).1]
    exact hanswers

/-- **A client is told the truth**, in whatever order the tasks and the clients take their steps and in
whatever pieces the bytes of its request and of the answer arrive, if they do.  A status that it is given is
that of the runtime; a stop that it is told to be accepted was put into the channel, with its own source.
When all of an answer arrives, it is taken. -/
theorem client_told_truth (hrun : Progress.Run (step parse client) (initial status) as s)
    (hc : c ∈ s.conns) (hreq : Reads parse req.text req)
    (hanswer : Reads parseAnswer (answerTo status req).text (answerTo status req))
    (hrequest : request.all <+: messageBytes req.text)
    (hinput : ∀ line, c.input = .line line → readLine request = .ok line)
    (harrives : answer.all <+: c.written) :
    let sent := sendControlRequest parseAnswer socketPath connected written answer
    (req = .status → ∀ now, requestRuntimeStatus sent = .ok now → now = status) ∧
      (∀ source, req = .stop source → ∀ message, requestRuntimeStop sent = .ok message →
        message = "stop request accepted via ".toList ++ source ∧ .stop source ∈ s.sent) ∧
      (connected = .ok () → written = .ok () → c.phase.response? ≠ none → answer.all = c.written →
        sent = .ok (answerTo status req)) := by
  intro sent
  have hsent {response : ControlResponse} (h : sent = .ok response) : Answers s req response :=
    answers_of_sendControlRequest hrun hc hreq hanswer hrequest hinput harrives h
  refine ⟨?_, ?_, ?_⟩
  · rintro rfl now hnow
    cases hresult : sent with
    | error err =>
      rw [hresult] at hnow
      cases hnow
    | ok response =>
      have hanswers := hsent hresult
      obtain rfl : response = .status s.status := hanswers
      rw [hresult] at hnow
      cases hnow
      exact status_run hrun
  · rintro source rfl message hmessage
    cases hresult : sent with
    | error err =>
      rw [hresult] at hmessage
      cases hmessage
    | ok response =>
      obtain ⟨rfl, hput⟩ := hsent hresult
      rw [hresult] at hmessage
      cases hmessage
      exact ⟨rfl, hput⟩
  · intro hconnected hwritten hresponse hall
    obtain ⟨given, hgiven⟩ := Option.ne_none_iff_exists'.1 hresponse
    have hanswers := answers_of_response hrun hc hreq hrequest hinput hgiven
    have hwhole : answer.all = messageBytes (answerTo status req).text := by
      rw [hall]
      unfold Conn.written
      rw [hgiven, ← status_run hrun, ← hanswers.eq]
    obtain ⟨fields, htext⟩ := response_text (answerTo status req)
    show sendControlRequest parseAnswer socketPath connected written answer = _
    rw [hconnected, hwritten]
    exact (receive_message htext hanswer (hwhole ▸ List.prefix_rfl)).2 hwhole

/-- What arrives in two pieces. -/
def inTwoPieces : Bytes → Arrival Text UInt8
  | first :: second :: rest => .piece first [] (.piece second rest .ended)
  | _ => .ended

/-- The answer to an operator who stops the bot, as `serde_json` reads it. -/
def oneAnswer : Text → Except Text ControlResponse := fun line =>
  if line = "\x7b\"kind\":\"ack\",\"message\":\"stop request accepted via tui\"\x7d".toList then
    .ok (accepted "tui".toList)
  else .error "expected value at line 1 column 1".toList

theorem reads_twoRequests :
    Reads twoRequests (ControlRequest.stop "tui".toList).text (.stop "tui".toList) := by
  have htext : (ControlRequest.stop "tui".toList).text =
      "\x7b\"kind\":\"stop\",\"source\":\"tui\"\x7d".toList := by decide +kernel
  have hother : ¬ "\x7b\"kind\":\"status\"\x7d".toList <+:
      "\x7b\"kind\":\"stop\",\"source\":\"tui\"\x7d".toList := by decide +kernel
  rw [htext]
  refine ⟨by decide +kernel, fun p hp hne => ?_⟩
  unfold twoRequests
  rw [if_neg, if_neg hne]
  · exact ⟨_, rfl⟩
  · rintro rfl
    exact hother hp

theorem reads_oneAnswer :
    Reads oneAnswer (accepted "tui".toList).text (accepted "tui".toList) := by
  have htext : (accepted "tui".toList).text =
      "\x7b\"kind\":\"ack\",\"message\":\"stop request accepted via tui\"\x7d".toList := by
    decide +kernel
  rw [htext]
  refine ⟨by decide +kernel, fun p hp hne => ?_⟩
  unfold oneAnswer
  rw [if_neg hne]
  exact ⟨_, rfl⟩

/-- The second client of `stopRequested`, with its line and its answer. -/
def stoppingConn : Conn :=
  ⟨.line "\x7b\"kind\":\"stop\",\"source\":\"tui\"\x7d\n".toList,
    .closed (.answered (accepted "tui".toList))⟩

theorem client_told_truth_stopRequested :
    requestRuntimeStop (sendControlRequest oneAnswer "/run/oo-bot/control.sock".toList (.ok ()) (.ok ())
        (inTwoPieces stoppingConn.written)) = .ok "stop request accepted via tui".toList ∧
      .stop "tui".toList ∈ afterStopRequest.sent := by
  have hline : ∀ line, stoppingConn.input = .line line →
      readLine (inTwoPieces (messageBytes (ControlRequest.stop "tui".toList).text)) = .ok line := by
    rintro line ⟨⟩
    decide +kernel
  obtain ⟨-, hstop, htaken⟩ := @client_told_truth twoRequests oneAnswer sampleClient afterStopRequest stoppingConn
    sampleStatus stopRequested (.stop "tui".toList) "/run/oo-bot/control.sock".toList (.ok ()) (.ok ())
    (inTwoPieces (messageBytes (ControlRequest.stop "tui".toList).text))
    (inTwoPieces stoppingConn.written) run_stopRequested (by decide +kernel) reads_twoRequests
    reads_oneAnswer (by decide +kernel) hline (by decide +kernel)
  have hsent := htaken rfl rfl (by decide +kernel) (by decide +kernel)
  have hresult : requestRuntimeStop (sendControlRequest oneAnswer "/run/oo-bot/control.sock".toList
      (.ok ()) (.ok ()) (inTwoPieces stoppingConn.written)) =
        .ok ("stop request accepted via ".toList ++ "tui".toList) := by
    rw [hsent]
    rfl
  exact ⟨hresult, (hstop _ rfl _ hresult).2⟩

end Requests

end Runtime

end OoBot
