import JustRun.Machine.Json

/-!
# Pairing QMP commands with their replies

`qemu-center/src/qmp.rs`: one channel carries the replies to the commands, in order,
and the events of QEMU, at any time. A client reads lines until one is a reply; what
it takes for a reply is every document without an error, an event too.
-/
namespace JustRun.Qemu
open Machine

inductive QmpError where
  | transport (detail : String)
  | rejected (detail : String)
  deriving DecidableEq

section Client
variable (parse : String → Option Json)

/-- `vm::qmp_reply_is_ok`. -/
def qmpReplyIsOk (reply : String) : Bool :=
  match parse (trim reply) with
  | some value => match value.get? "error" with
    | some error => error.isNull
    | none => true
  | none => false

/-- `vm::qmp_reply_error`. -/
def qmpReplyError (reply : String) : Option String := do
  let value ← parse (trim reply)
  let error ← value.get? "error"
  if error.isNull then none
  else some (((error.get? "desc").bind Json.asStr).getD "unspecified QMP error")

/-- `BufRead::read_line` on what QEMU sends. -/
def readLine (incoming : List Char) : Except String (String × List Char) :=
  if incoming = [] then .error "connection closed by QEMU"
  else .ok (String.ofList (incoming.takeWhile (· ≠ '\n') ++ (incoming.dropWhile (· ≠ '\n')).take 1),
    (incoming.dropWhile (· ≠ '\n')).drop 1)

theorem readLine_shorter {incoming rest : List Char} {line : String}
    (h : readLine incoming = .ok (line, rest)) : rest.length < incoming.length := by
  unfold readLine at h
  split at h
  · cases h
  · next hne =>
    cases h
    have hdrop := (List.dropWhile_suffix (· ≠ '\n') (l := incoming)).length_le
    have hpos := List.length_pos_iff.mpr hne
    rw [List.length_drop]
    cases hrest : incoming.dropWhile (· ≠ '\n') with
    | nil => simpa using hpos
    | cons c l =>
      rw [hrest] at hdrop
      simp only [List.length_cons] at hdrop ⊢
      omega

/-- The loop of `Client::command`. -/
def awaitReply (incoming : List Char) : Except QmpError String × List Char :=
  match _h : readLine incoming with
  | .error e => (.error (.transport ("read reply: " ++ e)), incoming)
  | .ok (line, rest) => match qmpReplyError parse line with
    | some desc => (.error (.rejected desc), rest)
    | none =>
      if qmpReplyIsOk parse line then (.ok line, rest)
      else if !containsText line "\"event\"" then
        (.error (.transport ("unexpected QMP frame: " ++ trim line)), rest)
      else awaitReply rest
termination_by incoming.length
decreasing_by exact readLine_shorter ‹_›

structure Client where
  incoming : List Char
  sent : List String

namespace Client

/-- `Client::command`, where the frame can be written. -/
def command (client : Client) (frame : String) : Except QmpError String × Client :=
  let (reply, rest) := awaitReply parse client.incoming
  (reply, ⟨rest, client.sent ++ [frame]⟩)

/-- What the commands return, one after the other. -/
def commands (client : Client) : List String → List (Except QmpError String)
  | [] => []
  | frame :: frames => (client.command parse frame).1 :: (client.command parse frame).2.commands frames

end Client
end Client

/-- What QEMU sends in one line. -/
inductive QmpFrame where
  | event (text : String)
  | reply (text : String)
  deriving DecidableEq

namespace QmpFrame

def text : QmpFrame → String
  | event text | reply text => text

def isReply : QmpFrame → Bool
  | event _ => false
  | reply _ => true

/-- One line of JSON: an event has its member of that name and no error; a reply is no event,
and has a result or an error object. -/
def WellFormed (parse : String → Option Json) : QmpFrame → Prop
  | event text => '\n' ∉ text.toList ∧ ∃ value, parse (trim text) = some value ∧
      (value.get? "event").isSome ∧ value.get? "error" = none
  | reply text => '\n' ∉ text.toList ∧ ∃ value, parse (trim text) = some value ∧
      value.get? "event" = none ∧ ((value.get? "return").isSome ∧ value.get? "error" = none ∨
        ∃ members, value.get? "error" = some (.object members))

/-- The text on the wire. -/
def wire (frames : List QmpFrame) : List Char := frames.flatMap fun f => f.text.toList ++ ['\n']

/-- What a command should return for this reply. -/
def outcome (parse : String → Option Json) (text : String) : Except QmpError String :=
  match (parse (trim text)).bind (·.get? "error") with
  | some error =>
    .error (.rejected (((error.get? "desc").bind Json.asStr).getD "unspecified QMP error"))
  | none => .ok (text ++ "\n")

/-- The replies among the frames. -/
def replies (frames : List QmpFrame) : List String := (frames.filter isReply).map text

end QmpFrame

section Pairing
variable {parse : String → Option Json} {f : QmpFrame} {frames : List QmpFrame}

theorem readLine_wire (hf : '\n' ∉ f.text.toList) :
    readLine (QmpFrame.wire (f :: frames)) = .ok (f.text ++ "\n", QmpFrame.wire frames) := by
  have htake : ∀ c ∈ f.text.toList, decide (c ≠ '\n') = true := by
    rintro c hc
    simpa using fun h : c = '\n' => hf (h ▸ hc)
  have hwire : QmpFrame.wire (f :: frames) = f.text.toList ++ '\n' :: QmpFrame.wire frames := by
    simp [QmpFrame.wire]
  rw [hwire, readLine, if_neg (by simp), List.takeWhile_append_of_pos htake,
    List.dropWhile_append_of_pos htake]
  simp [String.ofList_append]

theorem QmpFrame.WellFormed.oneLine (h : f.WellFormed parse) : '\n' ∉ f.text.toList := by
  cases f with
  | event text | reply text => exact h.1

/-- An event is taken for the reply: it is a document without an error. -/
theorem awaitReply_event {text : String} (hf : (QmpFrame.event text).WellFormed parse) :
    awaitReply parse (QmpFrame.wire (.event text :: frames)) =
      (.ok (text ++ "\n"), QmpFrame.wire frames) := by
  obtain ⟨honeline, value, hparse, -, herror⟩ := hf
  have hread : readLine (QmpFrame.wire (.event text :: frames)) =
      .ok (text ++ "\n", QmpFrame.wire frames) := readLine_wire (f := .event text) honeline
  have hnot : qmpReplyError parse (text ++ "\n") = none := by
    simp [qmpReplyError, trim_newline, hparse, herror]
  have hok : qmpReplyIsOk parse (text ++ "\n") = true := by
    simp [qmpReplyIsOk, trim_newline, hparse, herror]
  rw [awaitReply]
  split
  · next e h =>
    rw [hread] at h
    cases h
  · next line rest h =>
    rw [hread] at h
    cases h
    simp only [hnot, hok, if_true]

/-- A reply ends the loop with its outcome. -/
theorem awaitReply_reply {text : String} (hf : (QmpFrame.reply text).WellFormed parse) :
    awaitReply parse (QmpFrame.wire (.reply text :: frames)) =
      (QmpFrame.outcome parse text, QmpFrame.wire frames) := by
  obtain ⟨honeline, value, hparse, -, hresult⟩ := hf
  have hread : readLine (QmpFrame.wire (.reply text :: frames)) =
      .ok (text ++ "\n", QmpFrame.wire frames) := readLine_wire (f := .reply text) honeline
  rw [awaitReply]
  split
  · next e h =>
    rw [hread] at h
    cases h
  · next line rest h =>
    rw [hread] at h
    cases h
    rcases hresult with ⟨-, herror⟩ | ⟨members, herror⟩
    · have hnot : qmpReplyError parse (text ++ "\n") = none := by
        simp [qmpReplyError, trim_newline, hparse, herror]
      have hok : qmpReplyIsOk parse (text ++ "\n") = true := by
        simp [qmpReplyIsOk, trim_newline, hparse, herror]
      simp [QmpFrame.outcome, hnot, hok, hparse, herror]
    · have hsome : qmpReplyError parse (text ++ "\n") =
          some ((((Json.object members).get? "desc").bind Json.asStr).getD "unspecified QMP error") := by
        simp [qmpReplyError, trim_newline, hparse, herror, Json.isNull]
      simp [QmpFrame.outcome, hsome, hparse, herror]

/-- What is returned for an event is the outcome of no reply. -/
theorem event_ne_outcome {text text' : String} (hf : (QmpFrame.event text).WellFormed parse)
    (hf' : (QmpFrame.reply text').WellFormed parse) :
    (.ok (text ++ "\n") : Except QmpError String) ≠ QmpFrame.outcome parse text' := by
  obtain ⟨-, value, hparse, hevent, -⟩ := hf
  obtain ⟨-, value', hparse', hnoevent, hresult⟩ := hf'
  rcases hresult with ⟨-, herror⟩ | ⟨members, herror⟩
  · simp only [QmpFrame.outcome, hparse', herror, Option.bind_some, ne_eq, Except.ok.injEq,
      String.append_left_inj]
    rintro rfl
    rw [hparse] at hparse'
    cases hparse'
    rw [hnoevent] at hevent
    cases hevent
  · simp [QmpFrame.outcome, hparse', herror]

theorem command_wire (client : Client) (frame : String) {outcome : Except QmpError String}
    (h : awaitReply parse client.incoming = (outcome, QmpFrame.wire frames)) :
    client.command parse frame = (outcome, ⟨QmpFrame.wire frames, client.sent ++ [frame]⟩) := by
  simp [Client.command, h]

theorem mem_replies {text : String} : text ∈ QmpFrame.replies frames ↔ .reply text ∈ frames := by
  simp only [QmpFrame.replies, List.mem_map, List.mem_filter]
  constructor
  · rintro ⟨f, ⟨hf, hreply⟩, rfl⟩
    cases f with
    | event text => cases hreply
    | reply text => exact hf
  · intro hf
    exact ⟨.reply text, ⟨hf, rfl⟩, rfl⟩

/-- Every call of `command` returns its own reply exactly when no event precedes the last one. -/
theorem commands_paired_iff (parse : String → Option Json) (frames : List QmpFrame)
    (hframes : ∀ f ∈ frames, f.WellFormed parse) (client : Client)
    (hincoming : client.incoming = QmpFrame.wire frames) (commands : List String)
    (hcount : (QmpFrame.replies frames).length = commands.length) :
    client.commands parse commands = (QmpFrame.replies frames).map (QmpFrame.outcome parse) ↔
      ∀ f ∈ frames.take commands.length, f.isReply = true := by
  induction commands generalizing frames client with
  | nil =>
    have hnone : QmpFrame.replies frames = [] := List.length_eq_zero_iff.mp hcount
    simp [Client.commands, hnone]
  | cons frame commands ih =>
    cases frames with
    | nil => cases hcount
    | cons f frames =>
      have htail : ∀ g ∈ frames, g.WellFormed parse := fun g hg => hframes g (List.mem_cons_of_mem f hg)
      cases f with
      | event text =>
        -- The first command returns the event.
        refine iff_of_false (fun heq => ?_) (by simp [QmpFrame.isReply])
        have hevent := hframes (.event text) List.mem_cons_self
        have hreplies : QmpFrame.replies (.event text :: frames) = QmpFrame.replies frames := rfl
        rw [hreplies] at heq hcount
        rw [Client.commands, command_wire client frame (hincoming ▸ awaitReply_event hevent)] at heq
        cases hcases : QmpFrame.replies frames with
        | nil =>
          rw [hcases] at hcount
          cases hcount
        | cons text' texts =>
          rw [hcases] at heq
          have hmem : text' ∈ QmpFrame.replies frames := hcases ▸ List.mem_cons_self
          exact event_ne_outcome hevent (htail _ (mem_replies.mp hmem)) (List.head_eq_of_cons_eq heq)
      | reply text =>
        have hreply := hframes (.reply text) List.mem_cons_self
        have hreplies : QmpFrame.replies (.reply text :: frames) = text :: QmpFrame.replies frames := rfl
        rw [hreplies] at hcount ⊢
        rw [Client.commands, command_wire client frame (hincoming ▸ awaitReply_reply hreply)]
        have hrest := ih frames htail ⟨QmpFrame.wire frames, client.sent ++ [frame]⟩ rfl
          (by simpa using hcount)
        simpa [QmpFrame.isReply] using hrest

/-! ### One event before the reply -/

/-- What the parser makes of two lines. -/
def sampleParse (text : String) : Option Json :=
  if text = "\x7b\"event\": \"RESET\"\x7d" then some (.object [("event", .string "RESET")])
  else if text = "\x7b\"return\": \x7b\x7d\x7d" then some (.object [("return", .object [])])
  else none

def resetEvent : QmpFrame := .event "\x7b\"event\": \"RESET\"\x7d"

def emptyReturn : QmpFrame := .reply "\x7b\"return\": \x7b\x7d\x7d"

/-- `vm::qmp_query_block_frame`. -/
def queryBlock : String := "\x7b\"execute\":\"query-block\"\x7d"

theorem resetEvent_wellFormed : resetEvent.WellFormed sampleParse := by
  have htrim : trim "\x7b\"event\": \"RESET\"\x7d" = "\x7b\"event\": \"RESET\"\x7d" := by
    decide +kernel
  refine ⟨by decide +kernel, .object [("event", .string "RESET")], ?_, rfl, rfl⟩
  rw [htrim, sampleParse, if_pos rfl]

theorem emptyReturn_wellFormed : emptyReturn.WellFormed sampleParse := by
  have htrim : trim "\x7b\"return\": \x7b\x7d\x7d" = "\x7b\"return\": \x7b\x7d\x7d" := by
    decide +kernel
  refine ⟨by decide +kernel, .object [("return", .object [])], ?_, rfl, .inl ⟨rfl, rfl⟩⟩
  rw [htrim, sampleParse, if_neg (by decide +kernel), if_pos rfl]

theorem event_is_returned_as_reply :
    ¬ ∀ (parse : String → Option Json) (frames : List QmpFrame),
      (∀ f ∈ frames, f.WellFormed parse) → ∀ (client : Client),
      client.incoming = QmpFrame.wire frames → ∀ commands : List String,
      (QmpFrame.replies frames).length = commands.length →
      client.commands parse commands = (QmpFrame.replies frames).map (QmpFrame.outcome parse) := by
  intro hclaim
  have hframes : ∀ f ∈ [resetEvent, emptyReturn], f.WellFormed sampleParse := by
    simp only [List.forall_mem_cons]
    exact ⟨resetEvent_wellFormed, emptyReturn_wellFormed, fun _ h => nomatch h⟩
  have hpaired := hclaim sampleParse [resetEvent, emptyReturn] hframes
    ⟨QmpFrame.wire [resetEvent, emptyReturn], []⟩ rfl [queryBlock] rfl
  have hread : awaitReply sampleParse (QmpFrame.wire [resetEvent, emptyReturn]) =
      (.ok (resetEvent.text ++ "\n"), QmpFrame.wire [emptyReturn]) :=
    awaitReply_event resetEvent_wellFormed
  have hcommand := command_wire ⟨QmpFrame.wire [resetEvent, emptyReturn], []⟩ queryBlock hread
  rw [Client.commands, hcommand] at hpaired
  exact event_ne_outcome resetEvent_wellFormed emptyReturn_wellFormed
    (List.head_eq_of_cons_eq hpaired)

theorem commands_paired_iff_plain :
    (Client.mk (QmpFrame.wire [emptyReturn, resetEvent]) []).commands sampleParse [queryBlock] =
      [QmpFrame.outcome sampleParse emptyReturn.text] := by
  have hframes : ∀ f ∈ [emptyReturn, resetEvent], f.WellFormed sampleParse := by
    simp only [List.forall_mem_cons]
    exact ⟨emptyReturn_wellFormed, resetEvent_wellFormed, fun _ h => nomatch h⟩
  refine (commands_paired_iff sampleParse [emptyReturn, resetEvent] hframes
    ⟨QmpFrame.wire [emptyReturn, resetEvent], []⟩ rfl [queryBlock] rfl).mpr ?_
  intro f hf
  obtain rfl := List.mem_singleton.mp hf
  rfl

end Pairing
end JustRun.Qemu
