import FullManagedBi.Lib.Run
import FullManagedBi.WebapiExperiment.CdpClient

/-!
# Every command is settled once

A promise is either pending, with a running timer, or was settled by one call (`Sound`), whatever the engine runs next
(`sound_step`). So the timer, the answer, a failing send and the ways of closing cannot settle a promise twice.

**`cdpClient_law`**: each command is settled at most once, and is settled by its timer or by closing; a resolved one has
the result of a message with its id; nothing is pending or sent after closing; only permitted calls are sent.
-/

namespace FullManagedBi.Cdp

open Lib

variable {client : Client} {parse : String → Option Json}

/-! ## Settling -/

structure Sound (client : Client) : Prop where
  /-- Each promise is pending or was settled, once. -/
  accounted : (client.settlements.map (·.1) ++ client.pending.map (·.2)).Perm (List.range client.commands.length)
  issued : ∀ entry ∈ client.pending, client.commands[entry.2]? = some (some entry.1)
  fresh : ∀ entry ∈ client.pending, entry.1 ≤ client.sequence
  nodup : (client.pending.map (·.1)).Nodup
  timers : client.timers = client.pending
  closed : client.closed = true → client.pending = []

theorem perm_forget {pending : List (Nat × Nat)} (nodup : (pending.map (·.1)).Nodup) {entry : Nat × Nat}
    (mem : entry ∈ pending) : pending.Perm (entry :: pending.filter (·.1 ≠ entry.1)) := by
  induction pending with
  | nil => cases mem
  | cons other pending ih =>
    obtain ⟨fresh, nodup⟩ := List.nodup_cons.mp nodup
    rw [List.filter_cons]
    rcases List.mem_cons.mp mem with rfl | later
    · have others : pending.filter (·.1 ≠ entry.1) = pending := List.filter_eq_self.mpr fun x there =>
        decide_eq_true fun same => fresh (List.mem_map.mpr ⟨x, there, same⟩)
      rw [others, if_neg (by simp)]
    · have differs : other.1 ≠ entry.1 := fun same => fresh (List.mem_map.mpr ⟨entry, later, same.symm⟩)
      rw [if_pos (decide_eq_true differs)]
      exact ((ih nodup later).cons other).trans (.swap entry other _)

theorem Sound.settle (sound : Sound client) {entry : Nat × Nat} (mem : entry ∈ client.pending) (settlement : Settlement) :
    Sound ((client.forget entry.1).settle entry.2 settlement) where
  accounted := by
    have perm := (perm_forget sound.nodup mem).map (·.2)
    have moved := (perm.append_left (client.settlements.map (·.1))).symm.trans sound.accounted
    simpa [Client.settle, Client.forget, List.append_assoc] using moved
  issued other there := sound.issued other (List.mem_of_mem_filter there)
  fresh other there := sound.fresh other (List.mem_of_mem_filter there)
  nodup := sound.nodup.sublist (List.filter_sublist.map _)
  timers := by
    show client.timers.filter _ = client.pending.filter _
    rw [sound.timers]
  closed isClosed := by
    show client.pending.filter _ = []
    rw [sound.closed isClosed, List.filter_nil]

theorem Sound.rejectAll (sound : Sound client) (error : JsError) : Sound (client.rejectAll error) := by
  unfold Client.rejectAll
  split
  · exact sound
  · exact
      { accounted := by simpa [Function.comp_def] using sound.accounted
        issued := nofun
        fresh := nofun
        nodup := .nil
        timers := by
          rw [sound.timers]
          exact List.filter_eq_nil_iff.mpr fun entry mem => by simpa using ⟨entry.2, mem⟩
        closed := fun _ => rfl }

theorem Sound.sendProtocol (sound : Sound client) (call : Call) (sends : Bool) :
    Sound (client.sendProtocol call sends) := by
  have longer (command : Option Nat) :
      (List.range (client.commands ++ [command]).length) = List.range client.commands.length ++ [client.commands.length] := by
    rw [List.length_append, List.length_singleton, List.range_succ]
  have known (command : Option Nat) : ∀ entry ∈ client.pending,
      (client.commands ++ [command])[entry.2]? = some (some entry.1) := fun entry mem => by
    have bound := (List.getElem?_eq_some_iff.mp (sound.issued entry mem)).1
    rw [List.getElem?_append_left bound, sound.issued entry mem]
  have unknown : ∀ entry ∈ client.pending, entry.1 ≠ client.sequence + 1 := fun entry mem =>
    (Nat.lt_succ_of_le (sound.fresh entry mem)).ne
  unfold Client.sendProtocol
  dsimp only
  split
  · next isClosed =>
    refine ⟨?_, known none, sound.fresh, sound.nodup, sound.timers, sound.closed⟩
    have empty := sound.closed isClosed
    rw [Client.settle, longer, empty]
    have accounted := sound.accounted
    rw [empty] at accounted
    simpa using accounted.append_right [client.commands.length]
  · next isOpen =>
    have begun : Sound { client with
        sequence := client.sequence + 1
        commands := client.commands ++ [some (client.sequence + 1)]
        timers := client.timers ++ [(client.sequence + 1, client.commands.length)]
        pending := client.pending ++ [(client.sequence + 1, client.commands.length)] } :=
      { accounted := by
          rw [longer, List.map_append, ← List.append_assoc]
          exact sound.accounted.append_right [client.commands.length]
        issued := fun entry mem => by
          rcases mem_concat.mp mem with old | rfl
          · exact known _ entry old
          · simp
        fresh := fun entry mem => by
          rcases mem_concat.mp mem with old | rfl
          · exact (sound.fresh entry old).trans (Nat.le_succ _)
          · exact le_rfl
        nodup := by
          rw [List.map_append, List.nodup_append]
          refine ⟨sound.nodup, List.nodup_singleton _, fun id mem other same => ?_⟩
          obtain ⟨entry, there, rfl⟩ := List.mem_map.mp mem
          exact (List.mem_singleton.mp same) ▸ unknown entry there
        timers := by rw [sound.timers]
        closed := fun isClosed => absurd isClosed isOpen }
    cases sends with
    | true => exact ⟨begun.accounted, begun.issued, begun.fresh, begun.nodup, begun.timers, begun.closed⟩
    | false => exact begun.settle List.mem_concat_self _

theorem Sound.send (sound : Sound client) (method : String) (params : Params) (sends : Bool) :
    Sound (client.send method params sends) := by
  unfold Client.send
  split
  · exact sound
  · exact sound.sendProtocol _ sends

theorem mem_of_pendingEntry {message : Json} {entry : Nat × Nat} (found : client.pendingEntry message = some entry) :
    entry ∈ client.pending ∧ message.field? "id" = some (Json.ofNat entry.1) := by
  unfold Client.pendingEntry at found
  split at found
  · next id named =>
    have same : (entry.1 : Int) = id := of_decide_eq_true (List.find?_some found :)
    exact ⟨List.mem_of_find?_eq_some found, named.trans (by rw [← same]; rfl)⟩
  · cases found

theorem Sound.advance (sound : Sound client) (rest : List Call) (sends : Bool) :
    Sound (client.advance rest sends).1 := by
  cases rest with
  | nil => exact sound
  | cons call rest => exact sound.sendProtocol call sends

/-- What a client is waiting for does not matter to its promises. -/
theorem Sound.waiting (sound : Sound client) (opening : Opening) (gestures : List (Nat × List Call)) :
    Sound { client with opening, gestures } :=
  ⟨sound.accounted, sound.issued, sound.fresh, sound.nodup, sound.timers, sound.closed⟩

theorem Sound.receive (sound : Sound client) (raw : String) : Sound (client.receive parse raw) := by
  unfold Client.receive
  split_ifs
  · exact sound.rejectAll _
  · split
    · exact sound
    · split
      · exact sound
      · next found => exact sound.settle (mem_of_pendingEntry found).1 _

theorem Sound.timeout (sound : Sound client) (id : Nat) : Sound (client.timeout id) := by
  unfold Client.timeout
  split
  · exact sound
  · next other promise found =>
    have named : other = id := of_decide_eq_true (List.find?_some found :)
    subst named
    exact sound.settle (sound.timers ▸ List.mem_of_find?_eq_some found) _

/-- **Whatever the engine runs next**, each promise is pending or was settled once. -/
theorem sound_step (client : Client) (event : Event) (sound : Sound client) : Sound (step parse client event) := by
  cases event with
  | socketOpen sends =>
    simp only [step]
    split
    · exact (sound.waiting .opened client.gestures).send _ _ sends
    · exact sound
  | openTimeout =>
    simp only [step]
    split
    · exact (sound.rejectAll _).waiting .failed _
    · exact sound
  | message raw => exact sound.receive raw
  | socketClose => exact sound.rejectAll _
  | socketError =>
    simp only [step]
    split
    · exact (sound.rejectAll _).waiting .failed _
    · exact sound.rejectAll _
  | timeout id => exact sound.timeout id
  | send method params sends =>
    simp only [step]
    split
    · exact sound.send _ _ sends
    · exact sound
  | evaluate expression sends =>
    simp only [step]
    split
    · exact sound.send _ _ sends
    · exact sound
  | gesture stage x y sends =>
    simp only [step]
    split
    · exact (sound.advance _ sends).waiting _ _
    · exact sound
  | goOn gesture sends =>
    simp only [step]
    split
    · exact sound
    · split
      · exact (sound.advance _ sends).waiting _ _
      · exact sound
  | close =>
    simp only [step]
    split
    · exact sound.rejectAll _
    · exact sound

theorem sound_new : Sound {} where
  accounted := .nil
  issued := nofun
  fresh := nofun
  nodup := .nil
  timers := rfl
  closed _ := rfl

theorem sound_run (events : List Event) : Sound (run (step parse) {} events) := run_invariant sound_step sound_new events

/-! ## What is sent -/

def GestureCall (call : Call) : Prop :=
  (∃ x y : ℚ, 0 ≤ x ∧ x ≤ 10000 ∧ 0 ≤ y ∧ y ≤ 10000 ∧ call ∈ mouseEvents x y) ∨ call ∈ keyEvents "ArrowDown" 40 ∨
    call ∈ keyEvents "Enter" 13

def Permitted (call : Call) : Prop := call.method ∈ cdpAllowedMethods ∨ GestureCall call

theorem gestureCall_of_events {stage : String} {x y : Option ℚ} {events : List Call}
    (valid : gestureEvents stage x y = .ok events) : ∀ call ∈ events, GestureCall call := by
  unfold gestureEvents at valid
  split_ifs at valid
  · split at valid
    · next x y =>
      split_ifs at valid with outside
      obtain rfl := Except.ok.inj valid
      simp only [not_or, not_lt] at outside
      exact fun call mem => .inl ⟨x, y, outside.1, outside.2.2.1, outside.2.1, outside.2.2.2, mem⟩
    · cases valid
  · obtain rfl := Except.ok.inj valid
    exact fun call mem => .inr (.inl mem)
  · obtain rfl := Except.ok.inj valid
    exact fun call mem => .inr (.inr mem)

theorem assertAllowedMethod_ok {method name : String} (allowed : assertAllowedMethod method = .ok name) :
    name ∈ cdpAllowedMethods := by
  unfold assertAllowedMethod at allowed
  simp only [check_ok_iff, refuse_eq_ok, not_not] at allowed
  obtain ⟨-, listed, done⟩ := allowed
  exact Except.ok.inj done ▸ listed

/-- What was sent is permitted, and so is what the gestures have still to send. -/
structure Restricted (client : Client) : Prop where
  sent : ∀ frame ∈ client.sent, Permitted frame.2
  gestures : ∀ gesture ∈ client.gestures, ∀ call ∈ gesture.2, GestureCall call

@[simp] theorem sent_rejectAll (error : JsError) :
    (client.rejectAll error).sent = client.sent ∧ (client.rejectAll error).gestures = client.gestures := by
  unfold Client.rejectAll
  split <;> exact ⟨rfl, rfl⟩

@[simp] theorem sent_receive (raw : String) :
    (client.receive parse raw).sent = client.sent ∧ (client.receive parse raw).gestures = client.gestures := by
  unfold Client.receive
  split_ifs
  · simp
  · split
    · exact ⟨rfl, rfl⟩
    · split <;> exact ⟨rfl, rfl⟩

@[simp] theorem sent_timeout (id : Nat) :
    (client.timeout id).sent = client.sent ∧ (client.timeout id).gestures = client.gestures := by
  unfold Client.timeout
  split <;> exact ⟨rfl, rfl⟩

theorem sent_sendProtocol (client : Client) (call : Call) (sends : Bool) :
    (client.sendProtocol call sends).gestures = client.gestures ∧
    ((client.sendProtocol call sends).sent = client.sent ∨
      client.closed = false ∧ ∃ id, (client.sendProtocol call sends).sent = client.sent ++ [(id, call)]) := by
  unfold Client.sendProtocol
  dsimp only
  split
  · exact ⟨rfl, .inl rfl⟩
  · next isOpen =>
    cases sends with
    | true => exact ⟨rfl, .inr ⟨Bool.eq_false_iff.mpr isOpen, _, rfl⟩⟩
    | false => exact ⟨rfl, .inl rfl⟩

theorem Restricted.sendProtocol (restricted : Restricted client) {call : Call} (permitted : Permitted call)
    (sends : Bool) : Restricted (client.sendProtocol call sends) := by
  obtain ⟨gestures, same | ⟨-, id, sent⟩⟩ := sent_sendProtocol client call sends
  · exact ⟨same ▸ restricted.sent, gestures ▸ restricted.gestures⟩
  · refine ⟨fun frame mem => ?_, gestures ▸ restricted.gestures⟩
    rcases mem_concat.mp (sent ▸ mem) with old | new
    · exact restricted.sent frame old
    · exact new ▸ permitted

theorem Restricted.send (restricted : Restricted client) (method : String) (params : Params) (sends : Bool) :
    Restricted (client.send method params sends) := by
  unfold Client.send
  split
  · exact restricted
  · next allowed => exact restricted.sendProtocol (.inl (assertAllowedMethod_ok allowed)) sends

theorem Restricted.advance (restricted : Restricted client) {rest : List Call} (events : ∀ call ∈ rest, GestureCall call)
    {others : List (Nat × List Call)} (kept : ∀ gesture ∈ others, gesture ∈ client.gestures) (sends : Bool) :
    Restricted { (client.advance rest sends).1 with gestures := others ++ (client.advance rest sends).2 } := by
  cases rest with
  | nil => exact ⟨restricted.sent, fun gesture mem => restricted.gestures gesture (kept gesture (by simpa [Client.advance] using mem))⟩
  | cons call rest =>
    refine ⟨(restricted.sendProtocol (.inr (events call List.mem_cons_self)) sends).sent, fun gesture mem => ?_⟩
    rcases mem_concat.mp mem with old | rfl
    · exact restricted.gestures gesture (kept gesture old)
    · exact fun other there => events other (List.mem_cons_of_mem _ there)

theorem Restricted.same (restricted : Restricted client) {other : Client}
    (same : other.sent = client.sent ∧ other.gestures = client.gestures) : Restricted other :=
  ⟨same.1 ▸ restricted.sent, same.2 ▸ restricted.gestures⟩

theorem restricted_step (client : Client) (event : Event) (restricted : Restricted client) :
    Restricted (step parse client event) := by
  cases event with
  | socketOpen sends =>
    simp only [step]
    split
    · have opened : Restricted { client with opening := .opened } := ⟨restricted.sent, restricted.gestures⟩
      exact opened.send _ _ sends
    · exact restricted
  | gesture stage x y sends =>
    simp only [step]
    split
    · next events _ valid => exact restricted.advance (gestureCall_of_events valid) (fun _ mem => mem) sends
    · exact restricted
  | goOn gesture sends =>
    simp only [step]
    split
    · exact restricted
    · next promise rest found =>
      split
      · exact restricted.advance (restricted.gestures _ (List.mem_of_getElem? found))
          (fun _ mem => List.mem_of_mem_eraseIdx mem) sends
      · exact restricted
  | send method params sends | evaluate expression sends =>
    simp only [step]
    split
    · exact restricted.send _ _ sends
    · exact restricted
  | message raw => exact restricted.same (sent_receive raw)
  | timeout id => exact restricted.same (sent_timeout id)
  | socketClose => exact restricted.same (sent_rejectAll _)
  | openTimeout | socketError | close =>
    simp only [step]
    split_ifs <;> exact restricted.same (by simp)

theorem restricted_new : Restricted {} where
  sent frame mem := by cases mem
  gestures gesture mem := by cases mem

/-! ## What follows -/

/-- What a later client has kept. -/
structure Later (client next : Client) : Prop where
  commands : client.commands <+: next.commands
  settlements : client.settlements <+: next.settlements
  closed : client.closed = true → next.closed = true ∧ next.sent = client.sent

theorem Later.refl (client : Client) : Later client client :=
  ⟨List.prefix_rfl, List.prefix_rfl, fun isClosed => ⟨isClosed, rfl⟩⟩

theorem Later.trans {middle next : Client} (first : Later client middle) (second : Later middle next) :
    Later client next where
  commands := first.commands.trans second.commands
  settlements := first.settlements.trans second.settlements
  closed isClosed := by
    obtain ⟨still, sent⟩ := first.closed isClosed
    exact ⟨(second.closed still).1, (second.closed still).2.trans sent⟩

/-- Later, and no command was resolved. -/
structure Quiet (client next : Client) : Prop extends Later client next where
  resolved : ∀ promise result, (promise, .resolved result) ∈ next.settlements →
    (promise, .resolved result) ∈ client.settlements

theorem Quiet.refl (client : Client) : Quiet client client := ⟨.refl client, fun _ _ mem => mem⟩

theorem quiet_rejectAll (error : JsError) : Quiet client (client.rejectAll error) := by
  unfold Client.rejectAll
  split
  · exact .refl client
  · next isOpen =>
    refine ⟨⟨List.prefix_rfl, List.prefix_append _ _, fun isClosed => absurd isClosed isOpen⟩, fun promise result mem => ?_⟩
    rcases List.mem_append.mp mem with old | new
    · exact old
    · obtain ⟨entry, -, same⟩ := List.mem_map.mp new
      cases same

theorem later_settle (id promise : Nat) (settlement : Settlement) :
    Later client ((client.forget id).settle promise settlement) :=
  ⟨List.prefix_rfl, List.prefix_append _ _, fun isClosed => ⟨isClosed, rfl⟩⟩

theorem resolved_of_rejected {next : Client} {promise : Nat} {error : JsError}
    (settlements : next.settlements = client.settlements ++ [(promise, .rejected error)]) (other : Nat) (result : Json)
    (mem : (other, Settlement.resolved result) ∈ next.settlements) :
    (other, .resolved result) ∈ client.settlements := by
  rw [settlements] at mem
  rcases mem_concat.mp mem with old | new
  · exact old
  · cases new

theorem quiet_timeout (id : Nat) : Quiet client (client.timeout id) := by
  unfold Client.timeout
  split
  · exact .refl client
  · exact ⟨later_settle _ _ _, resolved_of_rejected rfl⟩

theorem quiet_sendProtocol (call : Call) (sends : Bool) : Quiet client (client.sendProtocol call sends) := by
  unfold Client.sendProtocol
  dsimp only
  split
  · exact ⟨⟨List.prefix_append _ _, List.prefix_append _ _, fun isClosed => ⟨isClosed, rfl⟩⟩, resolved_of_rejected rfl⟩
  · next isOpen =>
    cases sends with
    | true =>
      exact ⟨⟨List.prefix_append _ _, List.prefix_rfl, fun isClosed => absurd isClosed isOpen⟩, fun _ _ mem => mem⟩
    | false =>
      exact ⟨⟨List.prefix_append _ _, List.prefix_append _ _, fun isClosed => absurd isClosed isOpen⟩,
        resolved_of_rejected rfl⟩

theorem quiet_send (client : Client) (method : String) (params : Params) (sends : Bool) :
    Quiet client (client.send method params sends) := by
  unfold Client.send
  split
  · exact .refl client
  · exact quiet_sendProtocol _ sends

theorem Quiet.waiting {next : Client} (quiet : Quiet client next) (opening : Opening) (gestures : List (Nat × List Call)) :
    Quiet client { next with opening, gestures } :=
  ⟨⟨quiet.commands, quiet.settlements, quiet.closed⟩, quiet.resolved⟩

theorem quiet_advance (rest : List Call) (sends : Bool) : Quiet client (client.advance rest sends).1 := by
  cases rest with
  | nil => exact .refl client
  | cons call rest => exact quiet_sendProtocol call sends

theorem quiet_step (client : Client) (event : Event) (other : ∀ raw, event ≠ .message raw) :
    Quiet client (step parse client event) := by
  cases event with
  | message raw => exact absurd rfl (other raw)
  | socketOpen sends =>
    simp only [step]
    split
    · have quiet := quiet_send { client with opening := .opened } "Runtime.enable" (.json (.obj [])) sends
      exact ⟨⟨quiet.commands, quiet.settlements, quiet.closed⟩, quiet.resolved⟩
    · exact .refl client
  | socketClose => exact quiet_rejectAll _
  | timeout id => exact quiet_timeout id
  | openTimeout | socketError | close =>
    simp only [step]
    split_ifs
    all_goals first | exact (quiet_rejectAll _).waiting _ _ | exact quiet_rejectAll _ | exact .refl client
  | send method params sends | evaluate expression sends =>
    simp only [step]
    split
    · exact quiet_send client _ _ sends
    · exact .refl client
  | gesture stage x y sends =>
    simp only [step]
    split
    · exact (quiet_advance _ sends).waiting _ _
    · exact .refl client
  | goOn gesture sends =>
    simp only [step]
    split
    · exact .refl client
    · split
      · exact (quiet_advance _ sends).waiting _ _
      · exact .refl client

/-- A message settles at most the command whose id it carries. -/
theorem receive_cases (parse : String → Option Json) (client : Client) (raw : String) : Quiet client (client.receive parse raw) ∨
    ∃ message id promise, parse raw = some message ∧ client.pendingEntry message = some (id, promise) ∧
      client.receive parse raw = (client.forget id).settle promise (Client.settlementOf message) := by
  unfold Client.receive
  split_ifs
  · exact .inl (quiet_rejectAll _)
  · split
    · exact .inl (.refl client)
    · next message parsed =>
      split
      · exact .inl (.refl client)
      · next id promise found => exact .inr ⟨message, id, promise, parsed, found, rfl⟩

theorem later_step (client : Client) (event : Event) : Later client (step parse client event) := by
  by_cases other : ∀ raw, event ≠ .message raw
  · exact (quiet_step client event other).toLater
  · push Not at other
    obtain ⟨raw, rfl⟩ := other
    rcases receive_cases parse client raw with quiet | ⟨message, id, promise, -, -, same⟩
    · exact quiet.toLater
    · exact (congrArg (Later client) same).mpr (later_settle id promise _)

theorem later_run (client : Client) (events : List Event) : Later client (run (step parse) client events) :=
  run_invariant (I := Later client) (fun s e later => later.trans (later_step s e)) (.refl client) events

/-- A message that carries the id that the command had got before answers it with the result. -/
def AnsweredBy (parse : String → Option Json) (events : List Event) (promise : Nat) (result : Json) : Prop :=
  ∃ before raw after message id, events = before ++ .message raw :: after ∧ parse raw = some message ∧
    message.field? "id" = some (Json.ofNat id) ∧
    (run (step parse) {} before).commands[promise]? = some (some id) ∧
    result = (nullish (message.field? "result") none).getD (.obj [])

theorem answered_run (events : List Event) : ∀ promise result,
    (promise, .resolved result) ∈ (run (step parse) {} events).settlements → AnsweredBy parse events promise result := by
  induction events using List.reverseRecOn with
  | nil => exact nofun
  | append_singleton events event ih =>
    intro promise result mem
    rw [run_concat] at mem
    -- What was settled before was answered before.
    have old (there : (promise, .resolved result) ∈ (run (step parse) {} events).settlements) :
        AnsweredBy parse (events ++ [event]) promise result := by
      obtain ⟨before, raw, after, message, id, rfl, rest⟩ := ih promise result there
      exact ⟨before, raw, after ++ [event], message, id, by simp, rest⟩
    by_cases other : ∀ raw, event ≠ .message raw
    · exact old ((quiet_step _ event other).resolved promise result mem)
    push Not at other
    obtain ⟨raw, rfl⟩ := other
    rcases receive_cases parse (run (step parse) {} events) raw with
      quiet | ⟨message, id, settled, parsed, found, same⟩
    · exact old (quiet.resolved promise result mem)
    rw [step, same] at mem
    rcases List.mem_append.mp mem with there | new
    · exact old there
    obtain ⟨rfl, settlement⟩ := Prod.mk.inj (List.mem_singleton.mp new)
    obtain ⟨pending, named⟩ := mem_of_pendingEntry found
    refine ⟨events, raw, [], message, id, rfl, parsed, named, (sound_run events).issued _ pending, ?_⟩
    unfold Client.settlementOf at settlement
    split at settlement
    · cases settlement
    · exact Settlement.resolved.inj settlement

theorem count_add_count (sound : Sound client) {promise : Nat} (called : promise < client.commands.length) :
    (client.settlements.map (·.1)).count promise + (client.pending.map (·.2)).count promise = 1 := by
  rw [← List.count_append, sound.accounted.count_eq]
  exact List.count_eq_one_of_mem List.nodup_range (List.mem_range.mpr called)

theorem timeout_of_pending (sound : Sound client) {id promise : Nat} (mem : (id, promise) ∈ client.pending) :
    (id, promise) ∈ client.timers ∧ (client.timeout id).settlements.map (·.1) = client.settlements.map (·.1) ++ [promise] := by
  have running : (id, promise) ∈ client.timers := sound.timers.symm ▸ mem
  refine ⟨running, ?_⟩
  have found : client.timers.find? (·.1 = id) = some (id, promise) := by
    cases search : client.timers.find? (·.1 = id) with
    | none => exact absurd (List.find?_eq_none.mp search _ running) (by simp)
    | some entry =>
      have named : entry.1 = id := of_decide_eq_true (List.find?_some search :)
      have there : entry ∈ client.pending := sound.timers ▸ List.mem_of_find?_eq_some search
      rw [List.inj_on_of_nodup_map sound.nodup there mem named]
  unfold Client.timeout
  rw [found]
  exact List.map_append

/-- **The promises of a protocol client**, whatever the engine runs and in whatever order: each command is settled at most
once, and one that is not yet settled is pending on an open client with a running timer that settles it; a resolved one has
the result of a message with its own id, received after the command got it; on a closed client nothing is pending, and
nothing is sent any more; and what is sent is allow-listed or an event of the gestures. -/
theorem cdpClient_law (parse : String → Option Json) (events : List Event) :
    let client := run (step parse) {} events
    (∀ promise, (client.settlements.map (·.1)).count promise ≤ if promise < client.commands.length then 1 else 0) ∧
    (∀ promise < client.commands.length, (client.settlements.map (·.1)).count promise = 0 →
      client.closed = false ∧ ∃ id, client.commands[promise]? = some (some id) ∧ (id, promise) ∈ client.timers ∧
        ((step parse client (.timeout id)).settlements.map (·.1)).count promise = 1) ∧
    (∀ promise result, (promise, .resolved result) ∈ client.settlements → AnsweredBy parse events promise result) ∧
    (client.closed = true → client.pending = [] ∧
      ∀ later, (run (step parse) client later).closed = true ∧ (run (step parse) client later).sent = client.sent) ∧
    ∀ frame ∈ client.sent, Permitted frame.2 := by
  intro client
  have sound : Sound client := sound_run events
  refine ⟨fun promise => ?_, fun promise called unsettled => ?_, answered_run events,
    fun isClosed => ⟨sound.closed isClosed, fun later => (later_run client later).closed isClosed⟩, ?_⟩
  · split
    · next called =>
      have once := count_add_count sound called
      omega
    · next unknown =>
      refine (List.count_eq_zero.mpr fun mem => unknown ?_).le
      exact List.mem_range.mp (sound.accounted.subset (List.mem_append_left _ mem))
  · have once := count_add_count sound called
    rw [unsettled, Nat.zero_add] at once
    obtain ⟨⟨id, _⟩, mem, rfl⟩ := List.mem_map.mp (List.count_pos_iff.mp (once ▸ Nat.one_pos))
    obtain ⟨running, settled⟩ := timeout_of_pending sound mem
    refine ⟨Bool.eq_false_iff.mpr fun isClosed => ?_, id, sound.issued _ mem, running, ?_⟩
    · rw [sound.closed isClosed] at mem
      cases mem
    · rw [step, settled, List.count_append, unsettled]
      simp
  · exact (run_invariant restricted_step restricted_new events).sent

end FullManagedBi.Cdp
