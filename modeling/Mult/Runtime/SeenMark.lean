import Mult.Runtime.Evolution

/-! A finished chat that has been looked at keeps its mark until its agent goes on, unless a
finish is reported for it again while something else is selected.
-/

set_option autoImplicit false

namespace Mult.App
open Foundation Storage Project Client Mult.Runtime

/-- The chat has finished, and the finish has been looked at. -/
def Seen (project : ProjectState) (chat : ChatId) : Prop :=
  ∃ session ∈ project.chats, session.id = chat ∧ session.status = .doneSeen

variable {project : ProjectState} {chat : ChatId} {app : App}

theorem chat_unique (coherent : project.Coherent) {first second : ChatSession}
    (one : first ∈ project.chats) (other : second ∈ project.chats) (same : first.id = second.id) :
    first = second :=
  List.inj_on_of_nodup_map (ProjectState.keys_nodup_iff.mp coherent.nodup).1 one other same

theorem find_chat (coherent : project.Coherent) {session : ChatSession}
    (listed : session ∈ project.chats) (same : session.id = chat) :
    (project.chats.find? fun session => session.id = chat) = some session := by
  cases found : project.chats.find? fun session => session.id = chat with
  | none =>
    rw [List.find?_eq_none] at found
    exact absurd (decide_eq_true same) (found session listed)
  | some other =>
    have matched : other.id = chat := by simpa using List.find?_some found
    rw [chat_unique coherent (List.mem_of_find?_eq_some found) listed (matched.trans same.symm)]

theorem chatDoneSeen_iff (coherent : app.project.Coherent) :
    app.chatDoneSeen chat = true ↔ Seen app.project chat := by
  have marks : ∀ status : ChatStatus, status.doneSeen? = true ↔ status = .doneSeen := by
    intro status
    cases status <;> decide
  unfold chatDoneSeen
  constructor
  · intro seen
    obtain ⟨session, found, marked⟩ := (Option.any_eq_true ..).mp seen
    exact ⟨session, List.mem_of_find?_eq_some found, by simpa using List.find?_some found,
      (marks _).mp marked⟩
  · rintro ⟨session, listed, same, marked⟩
    rw [find_chat coherent listed same]
    exact (marks _).mpr marked

theorem mem_chats {session : ChatSession} :
    session ∈ project.chats ↔ ∃ workspace ∈ project.workspaces, session ∈ workspace.chats :=
  List.mem_flatMap

theorem mem_chats_modify {session : ChatSession} {wanted : Workspace → Bool} {id : ChatId}
    {change : ChatSession → ChatSession} (listed : session ∈ project.chats) :
    let changed := modifyFirst wanted (fun workspace => { workspace with
      chats := modifyFirst (fun chat => chat.id = id) change workspace.chats }) project.workspaces
    session ∈ changed.flatMap Workspace.chats ∨
      session.id = id ∧ change session ∈ changed.flatMap Workspace.chats := by
  obtain ⟨workspace, held, inside⟩ := mem_chats.mp listed
  rcases mem_modifyFirst_of_mem held with stays | ⟨-, changed⟩
  · exact .inl (List.mem_flatMap.mpr ⟨workspace, stays, inside⟩)
  · rcases mem_modifyFirst_of_mem inside with same | ⟨matched, other⟩
    · exact .inl (List.mem_flatMap.mpr ⟨_, changed, same⟩)
    · exact .inr ⟨by simpa using matched, List.mem_flatMap.mpr ⟨_, changed, other⟩⟩

/-- A mark stays through every change but a status reported for its chat, as long as the chat
does. -/
theorem Seen.after (coherent : project.Coherent) (seen : Seen project chat) {change : Change}
    (quiet : ∀ status, change = .status chat status → status = .doneSeen)
    (remains : chat ∈ (project.after change).chatIds) : Seen (project.after change) chat := by
  obtain ⟨session, listed, same, marked⟩ := seen
  cases change with
  | seen workspace other =>
    rcases mem_chats_modify listed with stays | ⟨-, changed⟩
    · exact ⟨session, stays, same, marked⟩
    · exact ⟨_, changed, same, rfl⟩
  | status other status =>
    rcases mem_chats_modify listed with stays | ⟨here, changed⟩
    · exact ⟨session, stays, same, marked⟩
    · refine ⟨_, changed, same, quiet status ?_⟩
      rw [← same, here]
  | restore terminal restore =>
    refine ⟨session, ?_, same, marked⟩
    obtain ⟨workspace, held, inside⟩ := mem_chats.mp listed
    rcases mem_modifyFirst_of_mem held with stays | ⟨-, changed⟩
    · exact mem_chats.mpr ⟨workspace, stays, inside⟩
    · exact mem_chats.mpr ⟨_, changed, inside⟩
  | edit edit =>
    obtain ⟨last, there, id⟩ := List.mem_map.mp remains
    obtain ⟨workspace, held, inside⟩ := mem_chats.mp there
    have known : chat ∈ project.chatIds := List.mem_map.mpr ⟨session, listed, same⟩
    rcases ProjectState.edit_descends edit workspace held with none | ⟨earlier, before, -, -, part⟩
    · rw [none] at inside
      cases inside
    · rcases part last inside with old | ⟨-, new⟩
      · have one : last = session :=
          chat_unique coherent (mem_chats.mpr ⟨earlier, before, old⟩) listed (id.trans same.symm)
        exact ⟨last, there, id, one ▸ marked⟩
      · exact absurd (id ▸ known) new

theorem absent_after {change : Change} (absent : chat ∉ project.chatIds)
    (adds : ∀ workspace name status agent source,
      change ≠ .edit (.addChat workspace name status agent source)) :
    chat ∉ (project.after change).chatIds := by
  by_cases noEdit : ∀ edit, change ≠ .edit edit
  · have ids : (project.after change).keys = project.keys :=
      (ProjectState.keys_of_sessionIds (ProjectState.after_sessionIds change noEdit)).1
    rw [← ProjectState.mem_keys_chatAgent] at absent ⊢
    rwa [ids]
  · simp only [not_forall, Classical.not_not] at noEdit
    obtain ⟨edit, rfl⟩ := noEdit
    intro remains
    obtain ⟨last, there, id⟩ := List.mem_map.mp remains
    obtain ⟨workspace, held, inside⟩ := mem_chats.mp there
    rcases ProjectState.edit_descends edit workspace held with none | ⟨earlier, before, -, -, part⟩
    · rw [none] at inside
      cases inside
    · rcases part last inside with old | ⟨⟨name, status, agent, source, rfl⟩, -⟩
      · exact absent (List.mem_map.mpr ⟨last, mem_chats.mpr ⟨earlier, before, old⟩, id⟩)
      · exact adds _ _ _ _ _ rfl

def EndsFinish (chat : ChatId) (app : App) (action : Action) : Prop :=
  chat ∉ (app.act action).project.chatIds ∨
    ∃ status, action.reports = some (chat, status) ∧ status.isDone = false

def Attended (chat : ChatId) (app : App) (action : Action) : Prop :=
  ∀ status, action.reports = some (chat, status) → status.isDone = true →
    app.selectedChatId.map Prod.snd = some chat

theorem withDoneSeen_true {status : ChatStatus} (done : status.isDone = true) :
    status.withDoneSeen true = .doneSeen := by
  cases status <;> first | rfl | cases done

theorem Seen.act (coherent : app.project.Coherent) (seen : Seen app.project chat)
    {action : Action} (continues : ¬ EndsFinish chat app action)
    (attended : Attended chat app action) : Seen (app.act action).project chat := by
  simp only [EndsFinish, not_or, Classical.not_not, not_exists, not_and,
    Bool.not_eq_false] at continues
  obtain ⟨remains, finished⟩ := continues
  have quiet : ∀ project (change : Change), May app action project change →
      ∀ status, change = .status chat status → status = .doneSeen := by
    rintro project change may status rfl
    obtain ⟨reported, reports, rfl⟩ := may
    have done := finished reported reports
    rw [attended reported reports done, beq_self_eq_true]
    exact withDoneSeen_true done
  -- The chat is seen all along, or it is gone for the rest of the action.
  have along : ∀ last, Evolves (May app action) app.project last →
      last.Coherent ∧ (Seen last chat ∨ chat ∉ last.chatIds) := by
    intro last evolves
    induction evolves with
    | refl => exact ⟨coherent, .inl seen⟩
    | @tail middle last earlier step ih =>
      obtain ⟨change, may, rfl⟩ := step
      obtain ⟨fits, held⟩ := ih
      refine ⟨ProjectState.after_coherent fits change, ?_⟩
      by_cases stays : chat ∈ (middle.after change).chatIds
      · refine .inl (Seen.after fits ?_ (quiet middle change may) stays)
        rcases held with marked | absent
        · exact marked
        · by_contra
          refine absent_after absent ?_ stays
          rintro workspace name status agent source rfl
          obtain ⟨same, -⟩ := may
          obtain ⟨session, listed, id, -⟩ := seen
          exact absent (same ▸ List.mem_map.mpr ⟨session, listed, id⟩)
      · exact .inr stays
  rcases (along _ (act_evolves app action)).2 with marked | absent
  · exact marked
  · exact absurd remains absent

/-! ## What a finish reported elsewhere does -/

theorem selectedItem_congr {next : App}
    (sessions : next.project.workspaces.map ProjectState.sessionIds =
      app.project.workspaces.map ProjectState.sessionIds)
    (selected : next.selected = app.selected) : next.selectedItem = app.selectedItem := by
  simp only [selectedItem, navItemPosition, navItems_eq, sessions, selected]

theorem status_after (status : ChatStatus) (present : chat ∈ project.chatIds) :
    ∃ session ∈ (project.after (.status chat status)).chats,
      session.id = chat ∧ session.status = status := by
  obtain ⟨session, listed, same⟩ := List.mem_map.mp present
  obtain ⟨workspace, held, inside⟩ := mem_chats.mp listed
  have holds : (workspace.chats.any fun other => other.id = chat) = true :=
    List.any_eq_true.mpr ⟨session, inside, decide_eq_true same⟩
  let mark : ChatSession → ChatSession := fun session => { session with status }
  obtain ⟨first, -, holds, changed⟩ := @exists_mem_modifyFirst _
    (fun workspace : Workspace => workspace.chats.any fun other => other.id = chat)
    (fun workspace => { workspace with
      chats := modifyFirst (fun other => other.id = chat) mark workspace.chats }) _ _ held holds
  obtain ⟨other, within, matched⟩ := List.any_eq_true.mp holds
  obtain ⟨found, -, wanted, marked⟩ := @exists_mem_modifyFirst _
    (fun other : ChatSession => other.id = chat) mark _ _ within matched
  exact ⟨_, mem_chats.mpr ⟨_, changed, marked⟩, by simpa using wanted, rfl⟩

theorem not_seen_of_done {session : ChatSession} (coherent : project.Coherent)
    (listed : session ∈ project.chats) (same : session.id = chat) (done : session.status = .done) :
    ¬ Seen project chat := by
  rintro ⟨other, there, id, marked⟩
  rw [chat_unique coherent there listed (id.trans same.symm), done] at marked
  cases marked

theorem withDoneSeen_false {status : ChatStatus} (done : status.isDone = true) :
    status.withDoneSeen false = .done := by
  cases status <;> first | rfl | cases done

theorem markChatStatusById_rearms (coherent : app.project.Coherent) (seen : Seen app.project chat)
    (status : ChatStatus) (done : status.isDone = true)
    (elsewhere : app.selectedChatId.map Prod.snd ≠ some chat) :
    (app.markChatStatusById chat status).2 =
      { app with project := app.project.after (.status chat .done), dirty := true } := by
  obtain ⟨session, listed, same, marked⟩ := seen
  unfold markChatStatusById
  dsimp only
  rw [find_chat coherent listed same]
  have other : (app.selectedChatId.map Prod.snd == some chat) = false := by simpa using elsewhere
  simp only [other, withDoneSeen_false done, marked]
  rfl

theorem rearmed_not_seen (coherent : app.project.Coherent) (seen : Seen app.project chat) :
    ¬ Seen (app.project.after (.status chat .done)) chat := by
  obtain ⟨session, listed, same, -⟩ := seen
  obtain ⟨last, there, id, done⟩ := status_after .done (List.mem_map.mpr ⟨session, listed, same⟩)
  exact not_seen_of_done (ProjectState.after_coherent coherent _) there id done

theorem ptyInputTarget_elsewhere (elsewhere : app.selectedChatId.map Prod.snd ≠ some chat) :
    app.ptyInputTarget ≠ some (.chatAgent chat) := by
  intro target
  apply elsewhere
  obtain ⟨item, selected, same⟩ := Option.map_eq_some_iff.mp target
  cases item with
  | chat workspace other =>
    cases same
    simp [selectedChatId, selected]
  | terminal workspace terminal => cases same

theorem applyChatExit_rearms (coherent : app.project.Coherent) (seen : Seen app.project chat)
    {status : PtyExit} (clean : status.code = 0)
    (elsewhere : app.selectedChatId.map Prod.snd ≠ some chat) :
    ¬ Seen (applyChatExit app chat status).2.project chat := by
  have rearmed := markChatStatusById_rearms coherent seen .done rfl elsewhere
  simp only [applyChatExit, if_pos clean, rearmed]
  let marked : App := { app with project := app.project.after (.status chat .done), dirty := true }
  have unseen := rearmed_not_seen coherent seen
  -- What follows leaves the chats alone: the generation is none of them, and the pane that
  -- exited is not the one that has the keyboard.
  have rest : ∀ last : App, last.project.workspaces = marked.project.workspaces →
      last.selected = app.selected →
      ¬ Seen (if last.ptyInputTarget = some (.chatAgent chat) then last.endPtyInput
        else last).project chat := by
    intro last workspaces selected
    have sessions : last.project.workspaces.map ProjectState.sessionIds =
        app.project.workspaces.map ProjectState.sessionIds := by
      rw [workspaces]
      exact ProjectState.after_sessionIds _ (by simp)
    have target : last.ptyInputTarget = app.ptyInputTarget := by
      rw [ptyInputTarget, ptyInputTarget, selectedItem_congr sessions selected]
    rw [target, if_neg (ptyInputTarget_elsewhere elsewhere)]
    simp only [Seen, ProjectState.chats, workspaces]
    exact unseen
  split
  · exact rest _ (ProjectState.clearAgentGeneration_workspaces _ _) rfl
  · exact rest marked rfl rfl

theorem attended_of_seen (coherent : app.project.Coherent) (seen : Seen app.project chat)
    {action : Action} (still : Seen (app.act action).project chat) : Attended chat app action := by
  intro status reports done
  by_contra elsewhere
  -- A finish reported for a chat out of sight re-arms the mark, which still stands.
  have unseen := rearmed_not_seen coherent seen
  cases action with
  | agentStatus other reported =>
    cases reports
    rw [act, markChatStatusById_rearms coherent seen _ done elsewhere] at still
    exact unseen still
  | statusChanged other reported =>
    cases reports
    rw [act, markChatStatusById_rearms coherent seen _ done elsewhere] at still
    exact unseen still
  | ptyEvent event =>
    cases event with
    | exited terminal exit =>
      cases terminal with
      | terminal id => cases reports
      | chatAgent other =>
        obtain ⟨same, reported⟩ := Prod.mk.inj (Option.some.inj reports)
        subst same
        have clean : exit.code = 0 := by
          by_contra failed
          rw [if_neg failed] at reported
          rw [← reported] at done
          cases done
        exact applyChatExit_rearms coherent seen clean elsewhere still
    | takenOver terminal =>
      cases terminal with
      | terminal id => cases reports
      | chatAgent other =>
        cases reports
        cases done
    | _ => cases reports
  | _ => cases reports

/-- In every run, a chat that has finished and been looked at stays marked as seen until its agent
leaves the finished state or it is deleted, where finishes are reported for it only while it is
selected; and a step that goes on without the end of the finish keeps the mark only then. -/
theorem seen_mark_stays {past : List Unit} (reached : inUse.Reaches app past)
    (seen : app.chatDoneSeen chat = true) :
    (∀ next more, (inUse.onward app).Run (fun app action =>
      ¬ EndsFinish chat app action ∧ Attended chat app action) next more →
        next.chatDoneSeen chat = true) ∧
    ∀ action, ¬ EndsFinish chat app action →
      ((app.act action).chatDoneSeen chat = true ↔ Attended chat app action) := by
  have coherent := coherent_inUse reached
  have start := (chatDoneSeen_iff coherent).mp seen
  have onward : ∀ next more, (inUse.onward app).Run (fun app action =>
      ¬ EndsFinish chat app action ∧ Attended chat app action) next more →
        next.project.Coherent ∧ Seen next.project chat := by
    intro next more later
    induction later with
    | start initial =>
      cases initial
      exact ⟨coherent, start⟩
    | @step middle next past events action earlier permitted stepped ih =>
      obtain ⟨fits, marked⟩ := ih
      have same : middle.act action = next := congrArg Prod.fst (Option.some.inj stepped)
      rw [← same]
      exact ⟨Evolves.coherent (act_evolves middle action) fits,
        marked.act fits permitted.1 permitted.2⟩
  constructor
  · intro next more later
    obtain ⟨fits, marked⟩ := onward next more later
    exact (chatDoneSeen_iff fits).mpr marked
  · intro action continues
    rw [chatDoneSeen_iff (Evolves.coherent (act_evolves app action) coherent)]
    exact ⟨attended_of_seen coherent start, start.act coherent continues⟩

def twoChats : ProjectState where
  version := stateVersion
  stateNamespace := ⟨1, Protocol.bytes_one⟩
  sessionIdentities := ⟨.ofList [((⟨1⟩ : ChatId), (⟨1, Protocol.bytes_one⟩ : Protocol.SessionToken)),
    (⟨2⟩, ⟨2, Protocol.bytes_two⟩)], ∅⟩
  agentGenerations := ∅
  nextWorkspaceId := 2
  nextChatId := 3
  nextTerminalId := 1
  workspaces := [sampleWorkspace 1 [1, 2] []]

theorem twoChats_valid : twoChats.validateSessionIdentities = .ok () := by decide

/-- The second chat finishes unseen, is looked at and left again. -/
def lookAndLeave : List Action :=
  [.agentStatus ⟨2⟩ .finished, .selectNext, .selectPrevious]

theorem seen_mark_stays_twoChats : ∃ app past, inUse.Reaches app past ∧
    app.chatDoneSeen ⟨2⟩ = true ∧
    ∀ action, ¬ EndsFinish ⟨2⟩ app action →
      ((app.act action).chatDoneSeen ⟨2⟩ = true ↔ Attended ⟨2⟩ app action) := by
  obtain ⟨app, past, reached, seen⟩ := inUse.exists_reaches ⟨twoChats, twoChats_valid, rfl⟩
    lookAndLeave (fun app _ => app.chatDoneSeen ⟨2⟩) (by decide)
  exact ⟨app, past, reached, seen, (seen_mark_stays reached seen).2⟩

/-- The finish of a chat that has been looked at is reported once more while another chat is
selected. -/
theorem repeated_finish_rearms : ∃ app past next, inUse.Reaches app past ∧
    app.chatDoneSeen ⟨2⟩ = true ∧
    inUse.step app (.agentStatus ⟨2⟩ .finished) = some (next, []) ∧
    ¬ EndsFinish ⟨2⟩ app (.agentStatus ⟨2⟩ .finished) ∧ next.chatDoneSeen ⟨2⟩ = false := by
  obtain ⟨app, past, reached, tested⟩ := inUse.exists_reaches ⟨twoChats, twoChats_valid, rfl⟩
    lookAndLeave (fun app _ => app.chatDoneSeen ⟨2⟩ &&
      !(app.act (.agentStatus ⟨2⟩ .finished)).chatDoneSeen ⟨2⟩ &&
      decide ((⟨2⟩ : ChatId) ∈ (app.act (.agentStatus ⟨2⟩ .finished)).project.chatIds))
    (by decide)
  simp only [Bool.and_eq_true, Bool.not_eq_true', decide_eq_true_eq] at tested
  obtain ⟨⟨seen, rearmed⟩, remains⟩ := tested
  refine ⟨app, past, _, reached, seen, rfl, ?_, rearmed⟩
  rintro (gone | ⟨status, reports, unfinished⟩)
  · exact gone remains
  · cases reports
    cases unfinished

end Mult.App
