import Mult.Daemon.Signals
import Mult.Daemon.Requests

/-! Whose outcome a stop is completed with: a termination thread that fails gives up the
pane's active flag first and fails the pending stops afterwards, so a stop must not be
accepted in between.
-/

set_option autoImplicit false

namespace Mult.Daemon
open Foundation Protocol

/-- The thread has given up the active flag and not yet failed the pending stops. -/
def Termination.gaveUp : Termination → Bool
  | .failing _ => true
  | _ => false

def acceptsStop (events : List Event) (ref : PaneRef) : Bool :=
  events.any fun
    | .stopAccepted other _ => other = ref
    | _ => false

/-- No stop is accepted on a pane that a failed termination thread has still to answer for. -/
def StopsDrained (server : Server) (action : Action) : Prop :=
  ∀ stepped ∈ step server action, ∀ ref ∈ List.range server.panes.length,
    acceptsStop stepped.2 ref = true → ∀ pane ∈ server.panes[ref]?, ∀ driver ∈ pane.drivers,
      driver.phase.gaveUp = false

instance (server : Server) (action : Action) : Decidable (StopsDrained server action) :=
  inferInstanceAs (Decidable (∀ stepped ∈ step server action,
    ∀ ref ∈ List.range server.panes.length, acceptsStop stepped.2 ref = true →
      ∀ pane ∈ server.panes[ref]?, ∀ driver ∈ pane.drivers, driver.phase.gaveUp = false))

def AcceptedBefore (past : List Event) (ref : PaneRef) (key : RequestKey) (position : Nat) :
    Prop :=
  ∃ front back, past = front ++ .gaveUp ref position :: back ∧ .stopAccepted ref key ∈ front

/-- A termination thread that was running when the stop was accepted failed it. -/
def FailedByOwn (past : List Event) (next : Server) (ref : PaneRef) (pane : Pane)
    (key : RequestKey) : Prop :=
  ∃ (position : Nat) (driver : StopDriver) (message : String) (outgoing : List Outgoing)
    (after : Pane), pane.drivers[position]? = some driver ∧ driver.phase = .failing message ∧
    next.panes[ref]? = some after ∧
    after.drivers[position]? = some { driver with phase := .reporting outgoing } ∧
    AcceptedBefore past ref key position

def FailedByWait (next : Server) (ref : PaneRef) (pane : Pane) : Prop :=
  ∃ (message : String) (outgoing : List Outgoing) (after : Pane), pane.waiter = .failing message ∧
    next.panes[ref]? = some after ∧ after.waiter = .reporting outgoing

/-- A pending stop is completed by the outcome of a termination thread that was running when it
was accepted or was started since, by the removal of its pane, or by a failed wait. -/
def StopOutcomesOwn (server : Server) (past : List Event) : Prop :=
  ∀ (action : Action) (next : Server) (events : List Event) (ref : PaneRef) (pane : Pane)
    (key : RequestKey) (response : ServerMessage), step server action = some (next, events) →
    server.panes[ref]? = some pane → key ∈ pane.state.pendingStops →
    .answered key response ∈ events →
    FailedByOwn past next ref pane key ∨ (∃ owner, .removed ref owner ∈ events) ∨
      FailedByWait next ref pane

/-! ## Stops accepted before their termination thread gave up -/

/-- No stop is accepted on the pane after the thread gave up. -/
def Apart (ref : PaneRef) (position : Nat) (earlier later : Event) : Prop :=
  earlier = .gaveUp ref position → ∀ key, later ≠ .stopAccepted ref key

/-- What the history shows of the termination threads of one pane. -/
structure Pane.Tenure (pane : Pane) (past : List Event) (ref : PaneRef) : Prop where
  unborn : ∀ position, pane.drivers[position]? = none → .gaveUp ref position ∉ past
  active : ∀ position driver, pane.drivers[position]? = some driver →
    driver.phase.active = true → .gaveUp ref position ∉ past
  gaveUp : ∀ position driver, pane.drivers[position]? = some driver →
    driver.phase.gaveUp = true → .gaveUp ref position ∈ past ∧ past.Pairwise (Apart ref position)
  pending : ∀ key ∈ pane.state.pendingStops, .stopAccepted ref key ∈ past

def Tenure (server : Server) (past : List Event) : Prop :=
  ∀ ref : PaneRef, match server.panes[ref]? with
    | none => ∀ position, .gaveUp ref position ∉ past
    | some pane => pane.Tenure past ref

section
variable {server next : Server} {past events : List Event} {ref : PaneRef} {pane after : Pane}

def KeepsFlags (events : List Event) (ref : PaneRef) : Prop :=
  ∀ position, .gaveUp ref position ∉ events

theorem acceptsStop_of_mem {key : RequestKey} (member : .stopAccepted ref key ∈ events) :
    acceptsStop events ref = true :=
  List.any_eq_true.mpr ⟨_, member, by simp⟩

theorem apart_append {position : Nat} (before : past.Pairwise (Apart ref position))
    (keeps : .gaveUp ref position ∉ events) (none : acceptsStop events ref = false) :
    (past ++ events).Pairwise (Apart ref position) := by
  refine List.pairwise_append.mpr ⟨before, ?_, fun earlier _ later member _ key same => ?_⟩
  · exact List.pairwise_of_forall_mem_list fun earlier member _ _ same _ =>
      absurd (same ▸ member) keeps
  · rw [acceptsStop_of_mem (same ▸ member)] at none
    cases none

namespace Pane.Tenure

theorem extend (tenure : pane.Tenure past ref) (keeps : KeepsFlags events ref)
    (drained : acceptsStop events ref = true →
      ∀ driver ∈ pane.drivers, driver.phase.gaveUp = false) : pane.Tenure (past ++ events) ref := by
  refine ⟨fun position absent => ?_, fun position driver present active => ?_,
    fun position driver present gaveUp => ⟨?_, ?_⟩, fun key pending => ?_⟩
  · rw [List.mem_append, not_or]
    exact ⟨tenure.unborn position absent, keeps position⟩
  · rw [List.mem_append, not_or]
    exact ⟨tenure.active position driver present active, keeps position⟩
  · exact List.mem_append_left _ (tenure.gaveUp position driver present gaveUp).1
  · refine apart_append (tenure.gaveUp position driver present gaveUp).2 (keeps position) ?_
    by_contra accepts
    have idle := drained (by simpa using accepts) driver (List.mem_of_getElem? present)
    rw [gaveUp] at idle
    cases idle
  · exact List.mem_append_left _ (tenure.pending key pending)

theorem congr (tenure : pane.Tenure past ref) (drivers : after.drivers = pane.drivers)
    (pending : ∀ key ∈ after.state.pendingStops,
      key ∈ pane.state.pendingStops ∨ .stopAccepted ref key ∈ past) : after.Tenure past ref :=
  ⟨fun position => drivers ▸ tenure.unborn position,
    fun position => drivers ▸ tenure.active position,
    fun position => drivers ▸ tenure.gaveUp position,
    fun key member => (pending key member).elim (tenure.pending key) id⟩

theorem move (tenure : pane.Tenure past ref) {position : Nat} {driver : StopDriver}
    {phase : Termination} (present : pane.drivers[position]? = some driver)
    (active : phase.active = true → driver.phase.active = true) (holds : phase.gaveUp = false) :
    (pane.setDriver position driver phase).Tenure past ref := by
  have same : (pane.setDriver position driver phase).drivers =
    pane.drivers.set position { driver with phase } := rfl
  refine ⟨fun other absent => ?_, fun other moved there live => ?_,
    fun other moved there gaveUp => ?_, tenure.pending⟩
  · rw [same, List.getElem?_set] at absent
    refine tenure.unborn other ?_
    split at absent
    · split at absent
      · cases absent
      · next here outside => rw [← here]; exact List.getElem?_eq_none (Nat.not_lt.mp outside)
    · exact absent
  · rw [same, List.getElem?_set] at there
    split at there
    · next here =>
      rw [if_pos (List.getElem?_eq_some_iff.mp present).1] at there
      cases there
      exact here ▸ tenure.active position driver present (active live)
    · exact tenure.active other moved there live
  · rw [same, List.getElem?_set] at there
    split at there
    · rw [if_pos (List.getElem?_eq_some_iff.mp present).1] at there
      cases there
      rw [holds] at gaveUp
      cases gaveUp
    · exact tenure.gaveUp other moved there gaveUp

theorem start (tenure : pane.Tenure past ref) {driver : StopDriver}
    (holds : driver.phase.gaveUp = false) (drivers : after.drivers = pane.drivers ++ [driver])
    (pending : after.state.pendingStops = pane.state.pendingStops) : after.Tenure past ref := by
  refine ⟨fun position absent => ?_, fun position moved there active => ?_,
    fun position moved there gaveUp => ?_, pending ▸ tenure.pending⟩
  · rw [drivers, List.getElem?_eq_none_iff, List.length_append] at absent
    exact tenure.unborn position (List.getElem?_eq_none (by omega))
  · rw [drivers, List.getElem?_append] at there
    split at there
    · exact tenure.active position moved there active
    · next outside => exact tenure.unborn position (List.getElem?_eq_none (by omega))
  · rw [drivers, List.getElem?_append] at there
    split at there
    · exact tenure.gaveUp position moved there gaveUp
    · obtain rfl := List.mem_singleton.mp (List.mem_of_getElem? there)
      rw [holds] at gaveUp
      cases gaveUp

end Pane.Tenure

theorem DriverMove.keeps {driver : StopDriver} {before phase : Termination}
    (move : DriverMove ref pane driver before phase events) :
    (phase.active = true → before.active = true) ∧ phase.gaveUp = false := by
  cases move with
  | signalled _ kill same => cases kill <;> (subst same; exact ⟨fun _ => rfl, rfl⟩)
  | signalFailed _ kill _ same => cases kill <;> (subst same; exact ⟨fun _ => rfl, rfl⟩)
  | foreground kill _ _ same _ => cases kill <;> (subst same; exact ⟨fun _ => rfl, rfl⟩)
  | reported => exact ⟨nofun, rfl⟩
  | finished => exact ⟨nofun, rfl⟩
  | _ => exact ⟨fun _ => rfl, rfl⟩

theorem PaneStep.accepts_none (stepped : PaneStep ref pane after events) (other : PaneRef) :
    acceptsStop events other = false := by
  rw [acceptsStop, List.any_eq_false]
  intro event member
  have own := stepped.events_ofPane event member
  cases event <;> first | exact Bool.false_ne_true | exact own.elim

theorem Pane.Tenure.restore (tenure : pane.Tenure past ref) {position : Nat} {driver : StopDriver}
    {message : String} {state : PaneState} (present : pane.drivers[position]? = some driver)
    (active : driver.phase.active = true) (none : acceptsStop events ref = false)
    (given : .gaveUp ref position ∈ events)
    (only : ∀ other, .gaveUp ref other ∈ events → other = position)
    (pending : state.pendingStops = pane.state.pendingStops) :
    (Pane.setDriver { pane with state } position driver (.failing message)).Tenure
      (past ++ events) ref := by
  have same : (Pane.setDriver { pane with state } position driver (.failing message)).drivers =
    pane.drivers.set position { driver with phase := .failing message } := rfl
  have keeps {other : Nat} (apart : position ≠ other) : .gaveUp ref other ∉ events :=
    fun member => apart (only other member).symm
  refine ⟨fun other absent => ?_, fun other moved there live => ?_,
    fun other moved there gaveUp => ?_,
    fun key member => List.mem_append_left _ (tenure.pending key (pending ▸ member))⟩
  · rw [same, List.getElem?_set] at absent
    rw [List.mem_append, not_or]
    split at absent
    · next here =>
      rw [if_pos (List.getElem?_eq_some_iff.mp present).1] at absent
      cases absent
    · next apart => exact ⟨tenure.unborn other absent, keeps apart⟩
  · rw [same, List.getElem?_set] at there
    rw [List.mem_append, not_or]
    split at there
    · rw [if_pos (List.getElem?_eq_some_iff.mp present).1] at there
      cases there
      cases live
    · next apart => exact ⟨tenure.active other moved there live, keeps apart⟩
  · rw [same, List.getElem?_set] at there
    split at there
    · next here =>
      subst here
      refine ⟨List.mem_append_right _ given, ?_⟩
      -- The thread had not given up before, and this step accepts no stop.
      refine List.pairwise_append.mpr ⟨?_, ?_, fun earlier known _ _ first => ?_⟩
      · exact List.pairwise_of_forall_mem_list fun earlier known _ _ first =>
          absurd (first ▸ known) (tenure.active position driver present active)
      · refine List.pairwise_of_forall_mem_list fun _ _ later member _ key accepted => ?_
        rw [acceptsStop_of_mem (accepted ▸ member)] at none
        cases none
      · exact absurd (first ▸ known) (tenure.active position driver present active)
    · next apart =>
      obtain ⟨known, ordered⟩ := tenure.gaveUp other moved there gaveUp
      exact ⟨List.mem_append_left _ known, apart_append ordered (keeps apart) none⟩

theorem PaneStep.tenure (stepped : PaneStep ref pane after events)
    (tenure : pane.Tenure past ref) : after.Tenure (past ++ events) ref := by
  have none := stepped.accepts_none ref
  -- Where no flag is given up and no stop is accepted, the tenures are the same.
  have extended (keeps : KeepsFlags events ref) : pane.Tenure (past ++ events) ref :=
    tenure.extend keeps fun accepts => by rw [none] at accepts; cases accepts
  cases stepped with
  | driverMoved position driver phase _ present move =>
    refine (extended fun position member => ?_).move present move.keeps.1 move.keeps.2
    obtain ⟨-, group, kill, -, same⟩ := move.events _ member
    cases same
  | driverRestored position driver restore message lifecycle present restoring edge =>
    refine tenure.restore present (by rw [restoring]; rfl) none List.mem_cons_self ?_ rfl
    intro other member
    rcases List.mem_cons.mp member with same | member
    · cases same; rfl
    · cases mem_lifecycleEdge member
  | driverFailed position driver message outgoing present failing =>
    have moved : (pane.setDriver position driver (.reporting outgoing)).Tenure _ ref :=
      (extended fun position member => by
        obtain ⟨key, response, same⟩ := mem_stopAnswers member
        cases same).move present (fun live => by cases live) rfl
    exact moved.congr rfl fun key member => absurd member List.not_mem_nil
  | ptyWriter _ _ _ _ wrote =>
    refine (extended fun position member => ?_).congr rfl fun key member => .inl member
    obtain ⟨bytes, same⟩ := wrote _ member
    cases same
  | appended _ _ _ _ _ _ _ appended =>
    obtain ⟨_, _, _, rfl⟩ := appendRawHistory_frame appended
    exact (extended (by simp [KeepsFlags])).congr rfl fun key member => .inl member
  | readFailed _ _ _ _ failed =>
    obtain ⟨_, _, _, rfl⟩ := appendRawHistory_frame failed
    exact (extended (by simp [KeepsFlags])).congr rfl fun key member => .inl member
  | readerNotified =>
    refine (extended fun position member => ?_).congr rfl fun key member => .inl member
    obtain ⟨client, lease, same⟩ := mem_exitNotice member
    cases same
  | waiterNotified =>
    refine (extended fun position member => ?_).congr rfl fun key member => .inl member
    obtain ⟨client, lease, same⟩ := mem_exitNotice member
    cases same
  | waiterFailed =>
    refine (extended fun position member => ?_).congr rfl fun key member =>
      absurd member List.not_mem_nil
    obtain ⟨key, response, same⟩ := mem_stopAnswers member
    cases same
  | _ => exact (extended (by simp [KeepsFlags])).congr rfl fun key member => .inl member

theorem Course.tenure (course : Course server next ref pane after events)
    (tenure : pane.Tenure past ref)
    (drained : acceptsStop events ref = true →
      ∀ driver ∈ pane.drivers, driver.phase.gaveUp = false) : after.Tenure (past ++ events) ref := by
  cases course with
  | kept same quiet =>
    have drivers : after.drivers = _ := congrArg PaneCourse.drivers same
    have stops : after.state.pendingStops = _ := congrArg PaneCourse.pendingStops same
    refine (tenure.extend (fun position member => ?_) drained).congr drivers fun key member => ?_
    · exact absurd rfl (quiet _ member)
    · rw [stops] at member
      exact .inl member
  | started => exact (tenure.extend (by simp [KeepsFlags]) drained).congr rfl fun _ => .inl
  | stopAccepted =>
    refine (tenure.extend (fun position member => ?_) drained).congr rfl fun key member => ?_
    · rcases List.mem_append.mp member with member | member
      · simp at member
      · cases mem_lifecycleEdge member
    · rcases List.mem_append.mp member with known | added
      · exact .inl known
      · obtain rfl := List.mem_singleton.mp added
        simp
  | stopStarted =>
    refine (tenure.extend (fun position member => ?_) drained).start ?_ rfl rfl
    · cases mem_lifecycleEdge member
    · rfl
  | stepped stepped => exact stepped.tenure tenure
  | finalized _ _ _ finalizer =>
    refine (tenure.extend (fun position member => ?_) drained).congr ?_ fun key member => ?_
    · rcases List.mem_append.mp member with member | member
      · simp at member
      · obtain ⟨key, response, same⟩ := mem_stopAnswers member
        cases same
    · cases finalizer <;> rfl
    · cases finalizer <;> cases member

theorem Effect.tenure (effect : Effect server next events) (tenure : Tenure server past)
    (drained : ∀ (ref : PaneRef) (pane : Pane), acceptsStop events ref = true →
      server.panes[ref]? = some pane → ∀ driver ∈ pane.drivers, driver.phase.gaveUp = false) :
    Tenure next (past ++ events) := by
  intro ref
  have before := tenure ref
  rcases effect.course ref with ⟨absent, still, quiet⟩ | ⟨absent, spawned, quiet⟩ |
    ⟨present, after, course⟩
  · rw [absent] at before
    rw [still]
    intro position member
    exact (List.mem_append.mp member).elim (before position) fun now => quiet _ now rfl
  · rw [absent] at before
    rw [spawned]
    have none (position : Nat) : .gaveUp ref position ∉ past ++ events := fun member =>
      (List.mem_append.mp member).elim (before position) fun now => quiet _ now rfl
    exact ⟨fun position _ => none position, fun position _ _ _ => none position, nofun, nofun⟩
  · rw [present] at before
    rw [after]
    exact course.tenure before fun accepts => drained ref _ accepts present

theorem tenure_of_run (run : daemon.Run StopsDrained server past) : Tenure server past := by
  refine run.invariant (motive := Tenure) ?_ ?_
  · rintro state ⟨serverInstance, rfl⟩ ref position
    exact List.not_mem_nil
  · intro state next past events action _ tenure allowed stepped
    refine (step_effect stepped).tenure tenure fun ref pane accepts found => ?_
    have bound : ref < state.panes.length := (List.getElem?_eq_some_iff.mp found).1
    exact allowed _ stepped ref (List.mem_range.mpr bound) accepts pane found

/-! ## Who answers a pending stop -/

theorem QuietHandlers.answered_key (quiet : QuietHandlers server next events) {key : RequestKey}
    {response : ServerMessage} (member : .answered key response ∈ events) :
    ∃ (thread : Nat) (handler : Handler), server.handlers[thread]? = some handler ∧
      handler.key = some key := by
  cases quiet with
  | same => cases member
  | joined => cases member
  | @moved thread before after _ found _ _ keys =>
    refine ⟨thread, before, found, ?_⟩
    generalize before.key = given at keys
    generalize after.key = left at keys
    cases keys with
    | kept => cases member
    | begun => cases member
    | answered =>
      cases List.mem_singleton.mp member
      rfl

theorem Accounted.pending (accounted : Accounted server past) {key : RequestKey}
    (present : server.panes[ref]? = some pane) (pending : key ∈ pane.state.pendingStops) :
    (∀ (thread : Nat) (handler : Handler), server.handlers[thread]? = some handler →
      handler.key ≠ some key) ∧
      ∀ (other : PaneRef) (there : Pane), server.panes[other]? = some there →
        key ∈ there.state.pendingStops → other = ref := by
  obtain ⟨total, -⟩ := accounted key
  have own : 0 < pane.holds key := List.count_pos_iff.mpr pending
  have panes : pane.holds key ≤ tally (Pane.holds key) server.panes := weigh_le_tally present
  unfold Server.held at total
  constructor
  · intro thread handler found held
    have weight : handler.holds key ≤ tally (Handler.holds key) server.handlers :=
      weigh_le_tally found
    have one : handler.holds key = 1 := if_pos held
    omega
  · intro other there found waits
    by_contra apart
    have also : 0 < there.holds key := List.count_pos_iff.mpr waits
    have both : there.holds key + pane.holds key ≤ tally (Pane.holds key) server.panes :=
      weigh_add_le_tally found present apart
    omega

/-- What a termination thread that fails, or a failed wait, leaves of the pane. -/
theorem PaneStep.fails (stepped : PaneStep ref pane after events) {key : RequestKey}
    {response : ServerMessage} (member : .answered key response ∈ events) :
    key ∈ pane.state.pendingStops ∧
      ((∃ (position : Nat) (driver : StopDriver) (message : String) (outgoing : List Outgoing),
        pane.drivers[position]? = some driver ∧ driver.phase = .failing message ∧
        after.drivers[position]? = some { driver with phase := .reporting outgoing }) ∨
      ∃ message outgoing, pane.waiter = .failing message ∧ after.waiter = .reporting outgoing) := by
  have pending {outcome : StopOutcome} (member : .answered key response ∈ stopAnswers pane outcome) :
      key ∈ pane.state.pendingStops := by
    obtain ⟨other, known, same⟩ := List.mem_map.mp member
    cases same
    exact known
  cases stepped with
  | waiterFailed message failure outgoing failing =>
    exact ⟨pending member, .inr ⟨message, outgoing, failing, rfl⟩⟩
  | driverFailed position driver message outgoing present failing =>
    refine ⟨pending member, .inl ⟨position, driver, message, outgoing, present, failing, ?_⟩⟩
    exact List.getElem?_set_self (List.getElem?_eq_some_iff.mp present).1
  | ptyWriter _ _ _ _ wrote => obtain ⟨bytes, same⟩ := wrote _ member; cases same
  | appended => simp at member
  | readerNotified => obtain ⟨client, lease, same⟩ := mem_exitNotice member; cases same
  | waiterNotified => obtain ⟨client, lease, same⟩ := mem_exitNotice member; cases same
  | driverMoved _ _ _ _ _ move =>
    obtain ⟨-, group, kill, -, same⟩ := move.events _ member
    cases same
  | driverRestored =>
    rcases List.mem_cons.mp member with same | member
    · cases same
    · cases mem_lifecycleEdge member
  | _ => cases member

/-- Who can answer a request. -/
inductive Answerer (server next : Server) (events : List Event) (key : RequestKey) : Prop where
  | thread {thread : Nat} {handler : Handler} : server.handlers[thread]? = some handler →
      handler.key = some key → Answerer server next events key
  | pane {ref : PaneRef} {pane after : Pane} {response : ServerMessage} :
      server.panes[ref]? = some pane → next.panes[ref]? = some after →
      PaneStep ref pane after events → .answered key response ∈ events →
      Answerer server next events key
  | removed {ref : PaneRef} {pane : Pane} {owner : Option AttachmentOwner} :
      server.panes[ref]? = some pane → key ∈ pane.state.pendingStops →
      .removed ref owner ∈ events → Answerer server next events key

theorem Effect.answerer (effect : Effect server next events) {key : RequestKey}
    {response : ServerMessage} (member : .answered key response ∈ events) :
    Answerer server next events key := by
  cases effect with
  | quiet quiet =>
    obtain ⟨thread, handler, found, own⟩ := quiet.handlers.answered_key member
    exact .thread found own
  | refitted _ _ _ handlers =>
    obtain ⟨thread, handler, found, own⟩ := handlers.answered_key member
    exact .thread found own
  | granted found _ _ _ _ _ =>
    rcases List.mem_pair.mp member with same | same
    · cases same
      exact .thread found rfl
    · cases same
  | pane present stepped panes _ _ =>
    refine .pane present ?_ stepped member
    rw [panes, List.getElem?_set_self (List.getElem?_eq_some_iff.mp present).1]
  | @finalized _ ref pane _ _ _ present _ _ _ _ _ _ _ _ =>
    -- The answers come behind the events of the removal itself.
    rcases List.mem_append.mp member with first | answer
    · simp at first
    · obtain ⟨other, known, same⟩ := List.mem_map.mp answer
      cases same
      have removed : .removed ref pane.state.owner ∈ [Event.lifecycle ref pane.state.lifecycle .exited,
          .lifecycle ref .exited .removed, .removed ref pane.state.owner] := by simp
      exact .removed present known (List.mem_append_left _ removed)
  | shutdown => cases member
  | retryRefused => simp at member
  | validated => simp at member
  | queued => split at member <;> simp at member
  | reserved => cases member
  | spawned => simp at member
  | published => simp at member
  | discarded => cases member
  | released => cases member
  | rebound => simp at member
  | unlocked => cases member
  | resized => simp at member
  | detached => simp at member
  | stopAccepted =>
    rcases List.mem_append.mp member with member | member
    · simp at member
    · cases mem_lifecycleEdge member
  | stopSkipped => cases member
  | stopStarted => cases mem_lifecycleEdge member

end

/-- While no stop is accepted between a failed termination's two sections, every stop is
completed by an outcome of its own. -/
theorem stop_outcomes_own (server : Server) (past : List Event)
    (run : daemon.Run StopsDrained server past) : StopOutcomesOwn server past := by
  intro action next events ref pane key response stepped present pending answered
  obtain ⟨threads, alone⟩ := (accounted_of_reaches run.reaches).pending present pending
  cases (step_effect stepped).answerer answered with
  | thread found own => exact absurd own (threads _ _ found)
  | @pane other there after response' found moved stepped member =>
    obtain ⟨waits, failed⟩ := stepped.fails member
    obtain rfl := alone other there found waits
    rw [present] at found
    cases found
    rcases failed with ⟨position, driver, message, outgoing, driving, failing, reports⟩ |
      ⟨message, outgoing, failing, reports⟩
    · refine .inl ⟨position, driver, message, outgoing, after, driving, failing, moved, reports, ?_⟩
      have tenure := tenure_of_run run other
      rw [present] at tenure
      obtain ⟨gave, ordered⟩ := tenure.gaveUp position driver driving (by rw [failing]; rfl)
      obtain ⟨front, back, same⟩ := List.append_of_mem gave
      refine ⟨front, back, same, ?_⟩
      -- The stop is in the history, and not after the thread gave up.
      have accepted := tenure.pending key waits
      rw [same] at accepted ordered
      rcases List.mem_append.mp accepted with before | after
      · exact before
      · rcases List.mem_cons.mp after with clash | after
        · cases clash
        · have later := (List.pairwise_append.mp ordered).2.1
          exact absurd rfl ((List.pairwise_cons.mp later).1 _ after rfl key)
    · exact .inr (.inr ⟨message, outgoing, after, failing, moved, reports⟩)
  | removed found waits member =>
    obtain rfl := alone _ _ found waits
    exact .inr (.inl ⟨_, member⟩)

/-- The two stops of the runs below. -/
def firstStop : RequestKey := ⟨⟨1⟩, thirdRequest⟩
def secondStop : RequestKey := ⟨⟨1⟩, fourthRequest⟩

/-- A failed SIGTERM answers the stop it was sent for, and a later stop is answered by the
failure of its own termination. -/
theorem stop_outcomes_own_twice : ∃ (server : Server) (past : List Event),
    StopOutcomesOwn server past ∧ answered past firstStop = 1 ∧
      answered past secondStop = 1 := by
  obtain ⟨server, past, run, passed⟩ := daemon.exists_run StopsDrained ⟨⟨0⟩, rfl⟩
    (sampleSession ++ stopSteps 0 thirdRequest ++ [.drive 0 0 (.signalFailed "denied"),
        .drive 0 0 .proceed, .drive 0 0 .proceed] ++ stopSteps 0 fourthRequest ++
      [.drive 0 1 (.signalFailed "denied"), .drive 0 1 .proceed, .drive 0 1 .proceed])
    (fun _ past => answered past firstStop = 1 ∧
      answered past secondStop = 1) (by decide)
  obtain ⟨first, second⟩ := of_decide_eq_true passed
  exact ⟨server, past, stop_outcomes_own server past run, first, second⟩

/-- The first termination fails and gives up the flag, a second stop is accepted and starts its
own termination, and the failure of the first answers the second stop. -/
theorem stop_failed_by_earlier : ∃ (server : Server) (past : List Event),
    daemon.Reaches server past ∧ ¬ StopOutcomesOwn server past := by
  obtain ⟨server, past, run, passed⟩ := daemon.exists_reaches ⟨⟨0⟩, rfl⟩
    (sampleSession ++ stopSteps 0 thirdRequest ++ [.drive 0 0 (.signalFailed "denied"),
      .drive 0 0 .proceed] ++ stopSteps 0 fourthRequest)
    (fun server past => (server.panes[0]?.any fun pane : Pane =>
        decide (secondStop ∈ pane.state.pendingStops) && decide (pane.waiter = .waiting) &&
          decide (pane.drivers.map (fun driver => driver.phase.gaveUp) = [true, false])) &&
      decide (past.Pairwise fun earlier later =>
        earlier = Event.stopAccepted 0 secondStop → later ≠ Event.gaveUp 0 0) &&
      (step server (.drive 0 0 .proceed)).any fun stepped : Server × List Event =>
        !removes stepped.2 0 && decide (Event.answered secondStop (.stopResult fourthRequest
          (.error (.failed .daemonInternal "failed to signal PTY group: denied"))) ∈ stepped.2))
    (by decide)
  simp only [Bool.and_eq_true, Option.any_eq_true, decide_eq_true_eq, Bool.not_eq_true'] at passed
  obtain ⟨⟨⟨pane, present, ⟨pending, waits⟩, phases⟩, ordered⟩, ⟨next, events⟩, stepped, kept,
    answer⟩ := passed
  refine ⟨server, past, run, fun own => ?_⟩
  rcases own _ _ _ _ _ _ _ stepped present pending answer with
    ⟨position, driver, message, outgoing, after, driving, failing, -, -, front, back, same, before⟩ |
    ⟨owner, removed⟩ | ⟨message, outgoing, after, failing, -⟩
  · -- Only the first thread fails, and it gave up before the stop was accepted.
    have phase : (pane.drivers.map fun driver => driver.phase.gaveUp)[position]? = some true := by
      rw [List.getElem?_map, driving, Option.map_some, failing]
      rfl
    rw [phases] at phase
    match position, phase with
    | 0, _ =>
      rw [same] at ordered
      exact (List.pairwise_append.mp ordered).2.2 _ before _ List.mem_cons_self rfl rfl
    | 1, phase => cases phase
    | _ + 2, phase => cases phase
  · rw [removes, List.any_eq_false] at kept
    exact kept _ removed (by simp)
  · rw [waits] at failing
    cases failing

end Mult.Daemon
