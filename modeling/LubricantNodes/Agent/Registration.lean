import LubricantNodes.Auth.Totp
import LubricantNodes.Transition.Core

/-!
# Registration

`serve` opens a stream, publishes it for the goroutines that emit frames, and
registers.  `EmitUpstream` sends on the published stream, but only while the
`registered` flag is set; `serve` sets it after the server's acknowledgement and
clears it, by its deferred calls, before it withdraws the stream.

The model has one step for every critical section and every operation on the
stream.  Frames other than the registration are an arbitrary type.
-/

namespace LubricantNodes.Agent

open Transition Auth List

/-! ## Frames -/

/-- `NodeStatus`. -/
inductive NodeStatus
  | unspecified
  | pending
  | approved
  | revoked
  deriving DecidableEq

/-- The downstream frames that `serve` looks at; the server time has been parsed. -/
inductive Downstream
  | serverHello (serverTime : Option Totp.Time) (gatewayOrigin : String)
  | registered (nodeId : String) (status : NodeStatus)
  | other
  deriving DecidableEq

/-- `NodeRegister`; `capabilities` are what the probes of the moment answer. -/
structure Register where
  nodeId : String
  totpCode : String
  nodeName : String
  role : String
  capabilities : List (String × String)
  deriving DecidableEq

/-- Upstream frames with a payload. -/
inductive Upstream (φ : Type)
  | register (register : Register)
  | frame (frame : φ)
  deriving DecidableEq

/-- The parts of `Options` that registration uses; `secret` is the outcome of
`DecodeSecret`. -/
structure Options where
  nodeId : String
  nodeName : String
  role : String
  secret : Option (List UInt8)

/-- The outcome of `Send`: a failed one may still have got the frame across. -/
inductive Sending
  | sent
  | failed (delivered : Bool)
  deriving DecidableEq

/-- The frame got across. -/
def Sending.delivered : Sending → Bool
  | sent => true
  | failed delivered => delivered

/-! ## The client -/

/-- Where `serve` is.  The last three are its deferred calls. -/
inductive Phase
  /-- `Run`, between two calls. -/
  | idle
  | opened
  /-- After `setCurrentStream(stream)`. -/
  | published
  /-- After `Send(nil)`. -/
  | awaitingHello
  | registering (serverTime : Totp.Time)
  | awaitingAck
  | acknowledged (status : NodeStatus)
  /-- After `setRegistered(true)`. -/
  | admitted (status : NodeStatus)
  | dispatching
  /-- Before `setRegistered(false)`. -/
  | unregistering
  /-- Before `setCurrentStream(nil)`. -/
  | withdrawing
  /-- Before `CloseRequest` and `cancel`. -/
  | closing
  deriving DecidableEq

/-- What has happened on a stream. -/
inductive Happening (φ : Type)
  | sent (stream : Nat) (frame : Upstream φ)
  /-- `serve` has received the registration ack. -/
  | acked (stream : Nat)
  deriving DecidableEq

/-- The parts of `Client` that registration uses; `stream` is the local variable
of `serve`, and `history` has the newest first. -/
structure Client (φ : Type) where
  phase : Phase := .idle
  stream : Nat := 0
  streams : Nat := 0
  currentStream : Option Nat := none
  registered : Bool := false
  approved : Bool := false
  nodeId : String := ""
  gatewayOrigin : String := ""
  history : List (Happening φ) := []
  deriving DecidableEq

namespace Client

variable {φ : Type} (opts : Options) (hmac : Totp.Hmac)

/-- The steps of `serve` and of the goroutines that emit. -/
inductive Event (φ : Type)
  | connect
  | publish
  | kick (ok : Bool)
  /-- `Receive` of the hello; `none` is an error. -/
  | hello (received : Option Downstream)
  | register (capabilities : List (String × String)) (sending : Sending)
  | ack (received : Option Downstream)
  | established
  | approve
  /-- `dispatchLoop` has returned, its companions have, and `StopAll`. -/
  | disconnect
  | unregister
  | withdraw
  | close
  /-- A goroutine calls `EmitUpstream`. -/
  | emit (frame : φ) (sending : Sending)
  deriving DecidableEq

/-- Record a frame that got across. -/
def record (client : Client φ) (stream : Nat) (frame : Upstream φ) (sending : Sending) : Client φ :=
  if sending.delivered then { client with history := .sent stream frame :: client.history }
  else client

/-- The hello's effect: a usable one leads on to the registration. -/
def greet (client : Client φ) : Option Downstream → Client φ
  | some (.serverHello (some serverTime) origin) =>
    { client with
      phase := .registering serverTime
      gatewayOrigin :=
        if Go.trimSpace origin ≠ "" then Go.trimRight (Go.trimSpace origin) '/'
        else client.gatewayOrigin }
  | _ => { client with phase := .withdrawing }

/-- `register`. -/
def sendRegister (client : Client φ) (serverTime : Totp.Time)
    (capabilities : List (String × String)) (sending : Sending) : Client φ :=
  match opts.secret with
  | none => { client with phase := .withdrawing }
  | some secret =>
    let frame :=
      { nodeId := opts.nodeId
        totpCode := Totp.generate hmac secret serverTime
        nodeName := opts.nodeName
        role := opts.role
        capabilities := capabilities }
    { client.record client.stream (.register frame) sending with
      phase := if sending = .sent then .awaitingAck else .withdrawing }

/-- The ack's effect, with `setNodeID`. -/
def acknowledge (client : Client φ) : Option Downstream → Client φ
  | some (.registered nodeId status) =>
    { client with
      phase := .acknowledged status
      nodeId := nodeId
      history := .acked client.stream :: client.history }
  | _ => { client with phase := .withdrawing }

/-- `EmitUpstream`. -/
def emitUpstream (client : Client φ) (frame : φ) (sending : Sending) : Client φ :=
  match client.currentStream with
  | none => client
  | some stream => if client.registered then client.record stream (.frame frame) sending else client

/-- One step. -/
def step : Step (Client φ) (Event φ)
  | client, .connect =>
    guarded (client.phase = .idle)
      { client with
        phase := .opened
        stream := client.streams
        streams := client.streams + 1 }
  | client, .publish =>
    guarded (client.phase = .opened)
      { client with phase := .published, currentStream := some client.stream }
  | client, .kick ok =>
    guarded (client.phase = .published)
      { client with phase := if ok then .awaitingHello else .withdrawing }
  | client, .hello received =>
    guarded (client.phase = .awaitingHello) (client.greet received)
  | client, .register capabilities sending =>
    match client.phase with
    | .registering serverTime =>
      some (client.sendRegister opts hmac serverTime capabilities sending)
    | _ => none
  | client, .ack received =>
    guarded (client.phase = .awaitingAck) (client.acknowledge received)
  | client, .established =>
    match client.phase with
    | .acknowledged status => some { client with phase := .admitted status, registered := true }
    | _ => none
  | client, .approve =>
    match client.phase with
    | .admitted .revoked => some { client with phase := .unregistering }
    | .admitted status =>
      some { client with phase := .dispatching, approved := decide (status = .approved) }
    | _ => none
  | client, .disconnect =>
    guarded (client.phase = .dispatching) { client with phase := .unregistering }
  | client, .unregister =>
    guarded (client.phase = .unregistering)
      { client with phase := .withdrawing, registered := false }
  | client, .withdraw =>
    guarded (client.phase = .withdrawing)
      { client with phase := .closing, currentStream := none }
  | client, .close => guarded (client.phase = .closing) { client with phase := .idle }
  | client, .emit frame sending => some (client.emitUpstream frame sending)

end Client

/-! ## What the phases mean -/

namespace Phase

/-- The stream is published. -/
def visible : Phase → Bool
  | idle | opened | closing => false
  | _ => true

/-- The registered flag is set. -/
def admitting : Phase → Bool
  | admitted _ | dispatching | unregistering => true
  | _ => false

/-- The ack has been received. -/
def known : Phase → Bool
  | acknowledged _ | admitted _ | dispatching | unregistering => true
  | _ => false

/-- The registration has been sent. -/
def enrolled : Phase → Bool
  | awaitingAck | acknowledged _ | admitted _ | dispatching | unregistering => true
  | _ => false

/-- Nothing has been sent on the stream. -/
def silent : Phase → Bool
  | opened | published | awaitingHello | registering _ => true
  | _ => false

/-- `serve` is under way, and the target says no more about the past than the
source. -/
def leads (source target : Phase) : Bool :=
  source ≠ idle && (!target.known || source.known) && (!target.enrolled || source.enrolled) &&
    (!target.silent || source.silent)

theorem leads_iff {source target : Phase} : source.leads target = true ↔
      source ≠ idle ∧ (target.known = true → source.known = true) ∧
        (target.enrolled = true → source.enrolled = true) ∧
        (target.silent = true → source.silent = true) := by
  simp only [leads, Bool.and_eq_true, Bool.or_eq_true, Bool.not_eq_true', decide_eq_true_eq,
    and_assoc, ← Bool.not_eq_true, ← imp_iff_not_or]

end Phase

namespace Happening

variable {φ : Type}

/-- The stream it happened on. -/
def stream : Happening φ → Nat
  | sent stream _ => stream
  | acked stream => stream

/-- What must have happened before. -/
def Justified (before : List (Happening φ)) : Happening φ → Prop
  | sent stream (.register _) => ∀ frame, sent stream frame ∉ before
  | sent stream (.frame _) => acked stream ∈ before
  | acked stream => ∃ register, sent stream (.register register) ∈ before

/-- Everything in a history is justified by what is before it. -/
def Proper : List (Happening φ) → Prop
  | [] => True
  | happening :: before => happening.Justified before ∧ Proper before

theorem Proper.justified {history : List (Happening φ)} (proper : Proper history)
    {after before : List (Happening φ)} {happening : Happening φ}
    (split : history = after ++ happening :: before) : happening.Justified before := by
  subst split
  induction after with
  | nil => exact proper.1
  | cons _ rest ih => exact ih proper.2

theorem Proper.of_append {after before : List (Happening φ)} (proper : Proper (after ++ before)) :
    Proper before := by
  induction after with
  | nil => exact proper
  | cons _ rest ih => exact ih proper.2

/-- An ack is preceded by the registration. -/
theorem Proper.register_of_acked {history : List (Happening φ)} (proper : Proper history)
    {stream : Nat} (acked : Happening.acked stream ∈ history) :
    ∃ register, sent stream (.register register) ∈ history := by
  rcases append_of_mem acked with ⟨after, before, split⟩
  rcases proper.justified split with ⟨register, earlier⟩
  refine ⟨register, ?_⟩
  rw [split]
  exact mem_append_right _ (mem_cons_of_mem _ earlier)

end Happening

/-! ## The gate -/

namespace Client

variable {φ : Type} {opts : Options} {hmac : Totp.Hmac} {client client' : Client φ}
  {event : Event φ}

/-- What holds in every state. -/
structure Gated (client : Client φ) : Prop where
  registered : client.registered = client.phase.admitting
  current : client.currentStream = if client.phase.visible then some client.stream else none
  acked : client.phase.known = true → .acked client.stream ∈ client.history
  enrolled : client.phase.enrolled = true →
    ∃ register, .sent client.stream (.register register) ∈ client.history
  opened : ∀ happening ∈ client.history, happening.stream < client.streams
  silent : client.phase.silent = true → ∀ happening ∈ client.history,
    happening.stream ≠ client.stream
  stream : client.phase ≠ .idle → client.stream < client.streams
  proper : Happening.Proper client.history

theorem gated_init : Gated ({} : Client φ) where
  registered := rfl
  current := rfl
  acked := fun known => by cases known
  enrolled := fun enrolled => by cases enrolled
  opened := nofun
  silent := fun silent => by cases silent
  stream := fun busy => absurd rfl busy
  proper := trivial

variable {source target : Phase}

namespace Gated

section Gate

variable (gated : Gated client)

include gated

theorem registered_of (phase : client.phase = source)
    (same : source.admitting = target.admitting) : client.registered = target.admitting := by
  rw [gated.registered, phase, same]

theorem current_of (phase : client.phase = source) (same : source.visible = target.visible) :
    client.currentStream = if target.visible then some client.stream else none := by
  rw [gated.current, phase, same]

/-- A step that only moves on: nothing is sent, and the new phase says no more
about the past than the old one. -/
theorem advance (history : client'.history = client.history)
    (stream : client'.stream = client.stream) (streams : client'.streams = client.streams)
    (leads : client.phase.leads client'.phase = true)
    (registered : client'.registered = client'.phase.admitting)
    (current : client'.currentStream =
      if client'.phase.visible then some client'.stream else none) : Gated client' := by
  rcases Phase.leads_iff.mp leads with ⟨busy, known, enrolled, silent⟩
  refine ⟨registered, current, ?_, ?_, ?_, ?_, ?_, ?_⟩
  · rw [history, stream]
    exact fun now => gated.acked (known now)
  · rw [history, stream]
    exact fun now => gated.enrolled (enrolled now)
  · rw [history, streams]
    exact gated.opened
  · rw [history, stream]
    exact fun now => gated.silent (silent now)
  · rw [stream, streams]
    exact fun _ => gated.stream busy
  · rw [history]
    exact gated.proper

/-- Only the phase and what the server has told change, as when `serve` gives up before
it has set the registered flag. -/
theorem proceed {approved : Bool} {origin : String}
    (phase : client.phase = source) (leads : source.leads target = true)
    (admitting : source.admitting = target.admitting) (visible : source.visible = target.visible) :
    Gated { client with phase := target, approved := approved, gatewayOrigin := origin } :=
  gated.advance rfl rfl rfl (by rw [phase]; exact leads) (gated.registered_of phase admitting)
    (gated.current_of phase visible)

/-- Something justified happens on a stream on which something has happened. -/
theorem push {happening : Happening φ}
    (justified : happening.Justified client.history) (opened : happening.stream < client.streams)
    (heard : client.phase.silent = false) :
    Gated { client with history := happening :: client.history } where
  __ := gated
  acked := fun known => mem_cons_of_mem _ (gated.acked known)
  enrolled := by
    intro enrolled
    rcases gated.enrolled enrolled with ⟨register, earlier⟩
    exact ⟨register, mem_cons_of_mem _ earlier⟩
  opened := forall_mem_cons.mpr ⟨opened, gated.opened⟩
  silent := by
    intro silent
    rw [heard] at silent
    cases silent
  proper := ⟨justified, gated.proper⟩

/-- The registration is the first frame of its stream. -/
theorem sendRegister {serverTime : Totp.Time} (phase : client.phase = .registering serverTime)
    (capabilities : List (String × String)) (sending : Sending) :
    Gated (client.sendRegister opts hmac serverTime capabilities sending) := by
  have first : ∀ frame, Happening.sent client.stream frame ∉ client.history := by
    intro frame earlier
    exact gated.silent (by rw [phase]; rfl) _ earlier rfl
  have opened : client.stream < client.streams :=
    gated.stream (by rw [phase]; exact Phase.noConfusion)
  have gone : Gated { client with phase := .withdrawing } := gated.proceed phase rfl rfl rfl
  unfold Client.sendRegister
  cases opts.secret with
  | none => exact gone
  | some secret =>
    dsimp only
    generalize Register.mk opts.nodeId _ opts.nodeName opts.role capabilities = frame
    have justified : (Happening.sent client.stream (.register frame)).Justified
        client.history := first
    have pushed := gone.push justified opened rfl
    cases sending with
    | failed delivered =>
      cases delivered with
      | false => exact gone
      | true => exact pushed
    | sent =>
      exact
        { pushed with
          registered := gated.registered_of phase rfl
          current := gated.current_of phase rfl
          acked := fun known => by cases known
          enrolled := fun _ => ⟨frame, mem_cons_self⟩
          silent := fun silent => by cases silent
          stream := fun _ => opened }

/-- The ack answers the registration. -/
theorem acknowledge (phase : client.phase = .awaitingAck)
    (received : Option Downstream) : Gated (client.acknowledge received) := by
  have opened : client.stream < client.streams :=
    gated.stream (by rw [phase]; exact Phase.noConfusion)
  have enrolled := gated.enrolled (by rw [phase]; rfl)
  have justified : (Happening.acked client.stream).Justified client.history := enrolled
  have pushed := gated.push justified opened (by rw [phase]; rfl)
  unfold Client.acknowledge
  split
  · exact
      { pushed with
        registered := gated.registered_of phase rfl
        current := gated.current_of phase rfl
        acked := fun _ => mem_cons_self
        enrolled := fun _ => pushed.enrolled (by rw [phase]; rfl)
        silent := fun silent => by cases silent
        stream := fun _ => opened }
  · exact gated.proceed phase rfl rfl rfl

/-- An emitted frame goes on an acknowledged stream. -/
theorem emitUpstream (frame : φ) (sending : Sending) :
    Gated (client.emitUpstream frame sending) := by
  unfold Client.emitUpstream
  cases current : client.currentStream with
  | none => exact gated
  | some stream =>
    split_ifs with registered
    · have admitting : client.phase.admitting = true := by
        rw [← gated.registered, registered]
      have facts : client.phase.visible = true ∧ client.phase.known = true ∧
          client.phase.silent = false ∧ client.phase ≠ .idle := by
        generalize client.phase = phase at admitting
        cases phase <;> cases admitting <;>
          exact ⟨rfl, rfl, rfl, Phase.noConfusion⟩
      rcases facts with ⟨visible, known, heard, busy⟩
      have same : stream = client.stream := by
        have both := gated.current
        rw [visible, if_pos rfl, current] at both
        exact Option.some.inj both
      subst same
      unfold record
      split_ifs
      · exact gated.push (gated.acked known) (gated.stream busy) heard
      · exact gated
    · exact gated

end Gate

end Gated

/-- Every step keeps the gate. -/
theorem gated_step (gated : Gated client) (moved : step opts hmac client event = some client') :
    Gated client' := by
  cases event with
  | connect =>
    rcases guarded_eq_some_iff.mp moved with ⟨phase, rfl⟩
    exact
      { registered := gated.registered_of phase rfl
        current := gated.current_of phase rfl
        acked := fun known => by cases known
        enrolled := fun enrolled => by cases enrolled
        opened := fun happening member => Nat.lt_succ_of_lt (gated.opened happening member)
        silent := fun _ happening member => Nat.ne_of_lt (gated.opened happening member)
        stream := fun _ => Nat.lt_succ_self _
        proper := gated.proper }
  | publish | withdraw =>
    rcases guarded_eq_some_iff.mp moved with ⟨phase, rfl⟩
    exact gated.advance rfl rfl rfl (by rw [phase]; rfl) (gated.registered_of phase rfl) rfl
  | kick ok =>
    rcases guarded_eq_some_iff.mp moved with ⟨phase, rfl⟩
    cases ok with
    | false => exact gated.proceed phase rfl rfl rfl
    | true => exact gated.proceed phase rfl rfl rfl
  | hello received =>
    rcases guarded_eq_some_iff.mp moved with ⟨phase, rfl⟩
    unfold greet
    split <;> exact gated.proceed phase rfl rfl rfl
  | register capabilities sending =>
    simp only [step] at moved
    split at moved
    next serverTime phase =>
      cases moved
      exact gated.sendRegister phase capabilities sending
    next => cases moved
  | ack received =>
    rcases guarded_eq_some_iff.mp moved with ⟨phase, rfl⟩
    exact gated.acknowledge phase received
  | established =>
    simp only [step] at moved
    split at moved
    next status phase =>
      cases moved
      exact gated.advance rfl rfl rfl (by rw [phase]; rfl) rfl (gated.current_of phase rfl)
    next => cases moved
  | approve =>
    simp only [step] at moved
    split at moved
    next phase =>
      cases moved
      exact gated.proceed phase rfl rfl rfl
    next status _ phase =>
      cases moved
      exact gated.proceed phase rfl rfl rfl
    next => cases moved
  | disconnect | close =>
    rcases guarded_eq_some_iff.mp moved with ⟨phase, rfl⟩
    exact gated.proceed phase rfl rfl rfl
  | unregister =>
    rcases guarded_eq_some_iff.mp moved with ⟨phase, rfl⟩
    exact gated.advance rfl rfl rfl (by rw [phase]; rfl) rfl (gated.current_of phase rfl)
  | emit frame sending =>
    cases moved
    exact gated.emitUpstream frame sending

theorem gated_of_reaches (reached : Reaches (step opts hmac) unrestricted {} client) :
    Gated client :=
  reached.invariant gated_init fun _ gated _ moved => gated_step gated moved

/-- Every emitted frame goes on a stream whose registration has been
acknowledged, and the first frame of every stream is its registration. -/
theorem registration_first (reached : Reaches (step opts hmac) unrestricted {} client) :
    (∀ after before stream frame, client.history = after ++ .sent stream (.frame frame) :: before →
        .acked stream ∈ before) ∧
      ∀ after before stream frame, client.history = after ++ .sent stream frame :: before →
        (∀ other, .sent stream other ∉ before) → ∃ register, frame = .register register := by
  have proper := (gated_of_reaches reached).proper
  constructor
  · intro after before stream frame split
    exact proper.justified split
  · intro after before stream frame split first
    cases frame with
    | register register => exact ⟨register, rfl⟩
    | frame frame =>
      have acked : .acked stream ∈ before := proper.justified split
      rw [split] at proper
      rcases proper.of_append.2.register_of_acked acked with ⟨register, earlier⟩
      exact absurd earlier (first _)

/-- A goroutine emits before and after the registration of the second stream. -/
def reconnects : List (Event String) :=
  [.connect, .publish, .kick false, .withdraw, .close, .connect, .publish, .emit "early" .sent,
    .kick true, .hello (some (.serverHello (some .epoch) "")),
    .register [] .sent, .emit "still early" .sent, .ack (some (.registered "n" .approved)),
    .established, .emit "late" .sent]

theorem registration_first_reconnects :
    ∃ client, Reaches (step ⟨"n", "", "", some []⟩ fun _ _ => .replicate 20 0) unrestricted {}
        client ∧
      (∃ before, client.history = .sent 1 (.frame "late") :: before ∧ .acked 1 ∈ before) := by
  have run : ∃ client, Reaches (step ⟨"n", "", "", some []⟩ fun _ _ => .replicate 20 0)
      unrestricted {} client ∧ client.history.head? = some (.sent 1 (.frame "late")) :=
    exists_reaches_of_run reconnects (by decide +kernel)
  rcases run with ⟨client, reached, last⟩
  rcases head?_eq_some_iff.mp last with ⟨before, split⟩
  exact ⟨client, reached, before, split, (registration_first reached).1 [] before 1 "late" split⟩

end Client

end LubricantNodes.Agent
