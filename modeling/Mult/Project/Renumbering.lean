import Mult.Project.Repair

/-! What renumbering does to a list of ids: the result is valid and without duplicates, the
first of each valid value stays, and nothing is reported unless an id was replaced.
-/

set_option autoImplicit false

namespace Mult.Project
open Foundation Protocol Storage

/-- The ids in use are those passed and the valid ones ahead, and there is room for all. -/
structure Numbering.Covers (valid : Nat → Bool) (max : Nat) (ids : List Nat)
    (numbering : Numbering) : Prop where
  used : ∀ id, id ∈ numbering.used ↔ id ∈ numbering.seen ∨ (id ∈ ids ∧ valid id = true)
  room : numbering.seen.size + ids.length ≤ max

/-- The ids that replace a list of ids, and the numbering behind them. -/
structure Renumbered (valid : Nat → Bool) (ids : List Nat) (before : Numbering)
    (renumbered : List Nat) (after : Numbering) : Prop where
  length : renumbered.length = ids.length
  nodup : renumbered.Nodup
  fresh : ∀ id ∈ renumbered, valid id = true ∧ id ∉ before.seen
  kept : ∀ front id back, ids = front ++ id :: back → valid id = true → id ∉ before.seen →
    id ∉ front → renumbered[front.length]? = some id
  changed : after.changed = true ↔ before.changed = true ∨ renumbered ≠ ids

variable {valid : Nat → Bool} {max : Nat}

theorem Numbering.mem_seen_insert {seen : IdSet} {id other : Nat} :
    other ∈ seen.insert id ↔ id = other ∨ other ∈ seen := by
  rw [Std.ExtTreeSet.mem_insert, Std.LawfulEqOrd.compare_eq_iff_eq]

theorem Numbering.Covers.takes {id : Nat} {rest : List Nat} {numbering : Numbering}
    (covers : numbering.Covers valid max (id :: rest))
    (refused : ¬ (valid id = true ∧ id ∉ numbering.seen)) :
    (takeAvailableId numbering.used numbering.next max).isSome := by
  have room := covers.room
  rw [List.length_cons] at room
  let taken : Finset Nat := numbering.seen.toList.toFinset ∪ rest.toFinset
  have within : ∀ found ∈ numbering.used, found ∈ taken := by
    intro found member
    rw [Finset.mem_union, List.mem_toFinset, List.mem_toFinset, Std.ExtTreeSet.mem_toList]
    rcases (covers.used found).mp member with seen | ⟨listed, passes⟩
    · exact .inl seen
    · rcases List.mem_cons.mp listed with same | later
      · subst same
        by_cases seen : found ∈ numbering.seen
        · exact .inl seen
        · exact absurd ⟨passes, seen⟩ refused
      · exact .inr later
  have small : taken.card < max := by
    have passed := List.toFinset_card_le numbering.seen.toList
    have ahead := List.toFinset_card_le rest
    have both := Finset.card_union_le numbering.seen.toList.toFinset rest.toFinset
    rw [Std.ExtTreeSet.length_toList] at passed
    change (numbering.seen.toList.toFinset ∪ rest.toFinset).card < max
    omega
  exact takeAvailableId_isSome within small

theorem Numbering.Covers.keep {id : Nat} {rest : List Nat} {numbering : Numbering}
    (covers : numbering.Covers valid max (id :: rest)) (passes : valid id = true) :
    ({ numbering with seen := numbering.seen.insert id } : Numbering).Covers valid max rest where
  used other := by
    dsimp only
    rw [covers.used, mem_seen_insert, List.mem_cons]
    constructor
    · rintro (seen | ⟨same | later, other⟩)
      · exact .inl (.inr seen)
      · exact .inl (.inl same.symm)
      · exact .inr ⟨later, other⟩
    · rintro ((same | seen) | ⟨later, other⟩)
      · exact .inr ⟨.inl same.symm, same ▸ passes⟩
      · exact .inl seen
      · exact .inr ⟨.inr later, other⟩
  room := by
    have room := covers.room
    have grown := Std.ExtTreeSet.size_insert_le (t := numbering.seen) (k := id)
    rw [List.length_cons] at room
    dsimp only
    omega

theorem Numbering.Covers.replace {id fresh next : Nat} {rest : List Nat} {numbering : Numbering}
    (covers : numbering.Covers valid max (id :: rest))
    (refused : ¬ (valid id = true ∧ id ∉ numbering.seen)) :
    (⟨numbering.used.insert fresh, numbering.seen.insert fresh, next, true⟩ :
      Numbering).Covers valid max rest where
  used other := by
    dsimp only
    rw [mem_seen_insert, mem_seen_insert, covers.used, List.mem_cons]
    constructor
    · rintro (same | seen | ⟨same | later, passes⟩)
      · exact .inl (.inl same)
      · exact .inl (.inr seen)
      · subst same
        by_cases seen : other ∈ numbering.seen
        · exact .inl (.inr seen)
        · exact absurd ⟨passes, seen⟩ refused
      · exact .inr ⟨later, passes⟩
    · rintro ((same | seen) | ⟨later, passes⟩)
      · exact .inl same
      · exact .inr (.inl seen)
      · exact .inr (.inr ⟨.inr later, passes⟩)
  room := by
    have room := covers.room
    have grown := Std.ExtTreeSet.size_insert_le (t := numbering.seen) (k := fresh)
    rw [List.length_cons] at room
    dsimp only
    omega

theorem Renumbered.keep {id : Nat} {rest renumbered : List Nat} {before after : Numbering}
    (passes : valid id = true) (unseen : id ∉ before.seen)
    (tail : Renumbered valid rest { before with seen := before.seen.insert id } renumbered after) :
    Renumbered valid (id :: rest) before (id :: renumbered) after where
  length := by rw [List.length_cons, List.length_cons, tail.length]
  nodup := by
    refine List.nodup_cons.mpr ⟨?_, tail.nodup⟩
    intro again
    exact (tail.fresh id again).2 (Numbering.mem_seen_insert.mpr (.inl rfl))
  fresh other member := by
    rcases List.mem_cons.mp member with same | later
    · exact same ▸ ⟨passes, unseen⟩
    · obtain ⟨passes, new⟩ := tail.fresh other later
      exact ⟨passes, fun seen => new (Numbering.mem_seen_insert.mpr (.inr seen))⟩
  kept front other back same passes new ahead := by
    cases front with
    | nil =>
      cases same
      rfl
    | cons first front =>
      cases same
      rw [List.length_cons, List.getElem?_cons_succ]
      refine tail.kept front other back rfl passes ?_ fun member =>
        ahead (List.mem_cons_of_mem _ member)
      rw [Numbering.mem_seen_insert]
      rintro (same | seen)
      · exact ahead (by simp [same])
      · exact new seen
  changed := by
    rw [tail.changed, ne_eq, ne_eq, List.cons.injEq]
    simp

theorem Renumbered.replace {id fresh next : Nat} {rest renumbered : List Nat}
    {before after : Numbering} (covers : before.Covers valid max (id :: rest))
    (refused : ¬ (valid id = true ∧ id ∉ before.seen)) (passes : valid fresh = true)
    (unused : fresh ∉ before.used)
    (tail : Renumbered valid rest
      ⟨before.used.insert fresh, before.seen.insert fresh, next, true⟩ renumbered after) :
    Renumbered valid (id :: rest) before (fresh :: renumbered) after where
  length := by rw [List.length_cons, List.length_cons, tail.length]
  nodup := by
    refine List.nodup_cons.mpr ⟨?_, tail.nodup⟩
    intro again
    exact (tail.fresh fresh again).2 (Numbering.mem_seen_insert.mpr (.inl rfl))
  fresh other member := by
    rcases List.mem_cons.mp member with same | later
    · subst same
      exact ⟨passes, fun seen => unused ((covers.used other).mpr (.inl seen))⟩
    · obtain ⟨passes, new⟩ := tail.fresh other later
      exact ⟨passes, fun seen => new (Numbering.mem_seen_insert.mpr (.inr seen))⟩
  kept front other back same passes new ahead := by
    cases front with
    | nil =>
      cases same
      exact absurd ⟨passes, new⟩ refused
    | cons first front =>
      cases same
      rw [List.length_cons, List.getElem?_cons_succ]
      refine tail.kept front other back rfl passes ?_ fun member =>
        ahead (List.mem_cons_of_mem _ member)
      rw [Numbering.mem_seen_insert]
      rintro (same | seen)
      · exact unused ((covers.used fresh).mpr (.inr ⟨by simp [same], same ▸ passes⟩))
      · exact new seen
  changed := by
    have different : fresh ≠ id := by
      rintro rfl
      exact unused ((covers.used fresh).mpr (.inr ⟨List.mem_cons_self, passes⟩))
    rw [tail.changed, ne_eq, ne_eq, List.cons.injEq]
    simp [different]

theorem visit_renumber (wide : ∀ id, 1 ≤ id → id ≤ max → valid id = true) {ids : List Nat}
    {numbering : Numbering} (covers : numbering.Covers valid max ids) :
    ∃ renumbered after, visit (Numbering.renumber valid max) ids numbering =
        some (renumbered, after) ∧
      Renumbered valid ids numbering renumbered after := by
  induction ids generalizing numbering with
  | nil =>
    refine ⟨[], numbering, rfl, rfl, List.nodup_nil, by simp, ?_, by simp⟩
    intro front id back same
    cases front <;> cases same
  | cons id rest ih =>
    simp only [visit, Numbering.renumber]
    by_cases stays : valid id = true ∧ id ∉ numbering.seen
    · -- The id is kept: it is valid, and no session before it has it.
      obtain ⟨passes, unseen⟩ := stays
      obtain ⟨renumbered, after, visited, tail⟩ := ih (covers.keep passes)
      have test : (valid id && !numbering.seen.contains id) = true := by
        rw [Bool.and_eq_true, Bool.not_eq_true', ← Bool.not_eq_true,
          Std.ExtTreeSet.contains_iff_mem]
        exact ⟨passes, unseen⟩
      refine ⟨id :: renumbered, after, ?_, tail.keep passes unseen⟩
      rw [if_pos test, Option.bind_some, visited]
      rfl
    · -- The id is replaced, and there is a free one since there are as many as sessions left.
      obtain ⟨⟨fresh, next, used⟩, taken⟩ := Option.isSome_iff_exists.mp (covers.takes stays)
      obtain ⟨⟨from_one, to_max, unused⟩, same⟩ := takeAvailableId_some taken
      subst same
      have onward : (⟨numbering.used.insert fresh, numbering.seen.insert fresh, next, true⟩ :
          Numbering).Covers valid max rest := covers.replace stays
      obtain ⟨renumbered, after, visited, tail⟩ := ih onward
      have test : ¬ (valid id && !numbering.seen.contains id) = true := by
        rw [Bool.and_eq_true, Bool.not_eq_true', ← Bool.not_eq_true,
          Std.ExtTreeSet.contains_iff_mem]
        exact stays
      refine ⟨fresh :: renumbered, after, ?_,
        tail.replace covers stays (wide fresh from_one to_max) unused⟩
      rw [if_neg test, taken, Option.map_some, Option.bind_some, visited]
      rfl

theorem Numbering.start_covers {ids : List Nat} {changed : Bool} (room : ids.length ≤ max) :
    (Numbering.start valid ids changed).Covers valid max ids where
  used id := by simp [Numbering.start]
  room := by
    simp only [Numbering.start, Std.ExtTreeSet.size_empty]
    omega

/-- What becomes of the ids of a pass that starts afresh. -/
structure KeepsFirst (valid : Nat → Bool) (ids renumbered : List Nat) : Prop where
  length : renumbered.length = ids.length
  nodup : renumbered.Nodup
  passes : ∀ id ∈ renumbered, valid id = true
  kept : ∀ front id back, ids = front ++ id :: back → valid id = true → id ∉ front →
    renumbered[front.length]? = some id

theorem KeepsFirst.eq {ids renumbered : List Nat} (keeps : KeepsFirst valid ids renumbered)
    (nodup : ids.Nodup) (all : ∀ id ∈ ids, valid id = true) : renumbered = ids := by
  apply List.ext_getElem?
  intro position
  by_cases inside : position < ids.length
  · have split := List.take_append_drop position ids
    rw [List.drop_eq_getElem_cons inside] at split
    have kept := keeps.kept _ _ _ split.symm (all _ (List.getElem_mem inside)) (by
      have apart := nodup
      rw [← split, List.nodup_append'] at apart
      exact fun member => apart.2.2 member List.mem_cons_self)
    rw [List.length_take, Nat.min_eq_left (Nat.le_of_lt inside)] at kept
    rw [kept, List.getElem?_eq_getElem inside]
  · have outside : ids.length ≤ position := by omega
    rw [List.getElem?_eq_none outside, List.getElem?_eq_none (keeps.length.trans_le outside)]

theorem KeepsFirst.passes_nodup {ids renumbered : List Nat}
    (keeps : KeepsFirst valid ids renumbered) :
    renumbered.Nodup ∧ ∀ id ∈ renumbered, valid id = true :=
  ⟨keeps.nodup, keeps.passes⟩

theorem Numbering.renumber_reports :
    Reports Numbering.changed (Numbering.renumber valid max) := by
  intro id numbering after next stepped unchanged
  unfold Numbering.renumber at stepped
  split at stepped
  · cases stepped
    exact ⟨rfl, unchanged⟩
  · obtain ⟨_, -, same⟩ := Option.map_eq_some_iff.mp stepped
    cases same
    cases unchanged

namespace ProjectState

/-- What one pass of the renumbering does to a project. -/
structure Passed (valid : Nat → Bool) (ids : ProjectState → List Nat)
    (state after : ProjectState) (before changed : Bool) : Prop where
  keeps : KeepsFirst valid (ids state) (ids after)
  rest : { after with workspaces := state.workspaces } = state
  quiet : ids after = ids state → before = false → after = state ∧ changed = false

theorem renumberWith_spec {step : Workspace → Numbering → Option (Workspace × Numbering)}
    (error : IdAllocationError) (ids : List Workspace → List Nat)
    (visits : ∀ workspaces numbering,
      (visit step workspaces numbering).map (fun last => (ids last.1, last.2)) =
        visit (Numbering.renumber valid max) (ids workspaces) numbering)
    (reports : Reports Numbering.changed step)
    (wide : ∀ id, 1 ≤ id → id ≤ max → valid id = true) (state : ProjectState) (before : Bool)
    (room : (ids state.workspaces).length ≤ max) :
    ∃ numbering workspaces last, visit step state.workspaces numbering = some (workspaces, last) ∧
      state.renumberWith step error (.start valid (ids state.workspaces) before) =
        .ok ({ state with workspaces := workspaces }, last.changed) ∧
      Passed valid (fun state => ids state.workspaces) state
        { state with workspaces := workspaces } before last.changed := by
  have covers : (Numbering.start valid (ids state.workspaces) before).Covers valid max _ :=
    Numbering.start_covers room
  obtain ⟨renumbered, after, passed, spec⟩ := visit_renumber wide covers
  rw [← visits, Option.map_eq_some_iff] at passed
  obtain ⟨⟨workspaces, last⟩, visited, same⟩ := passed
  cases same
  refine ⟨_, workspaces, last, visited, ?_, ⟨?_, rfl, ?_⟩⟩
  · rw [renumberWith, visited]
  · exact ⟨spec.length, spec.nodup, fun id member => (spec.fresh id member).1,
      fun front id back same passes ahead =>
        spec.kept front id back same passes (by simp [Numbering.start]) ahead⟩
  · intro same unchanged
    have quiet : last.changed = false := by
      rw [← Bool.not_eq_true, spec.changed]
      rintro (started | other)
      · exact absurd started (by simp [Numbering.start, unchanged])
      · exact other same
    have stayed : workspaces = state.workspaces := (reports.visit _ _ _ _ visited quiet).1
    exact ⟨by rw [stayed], quiet⟩

end ProjectState

/-! ## Everything but the ids -/

def ChatSession.withoutId (chat : ChatSession) : ChatSession := { chat with id := ⟨0⟩ }

def TerminalSession.withoutId (terminal : TerminalSession) : TerminalSession :=
  { terminal with id := ⟨0⟩ }

def Workspace.withoutIds (workspace : Workspace) : Workspace :=
  { workspace with
    id := ⟨0⟩
    chats := workspace.chats.map ChatSession.withoutId
    terminals := workspace.terminals.map TerminalSession.withoutId }

/-- A pass over one kind of id keeps what a view that does not show them shows. -/
theorem flatMap_of_map_eq {A B : Type} {view : A → List B} {items after : List A}
    (same : after.map view = items.map view) : after.flatMap view = items.flatMap view := by
  rw [List.flatMap_def, List.flatMap_def, same]

theorem renumberChats_withoutIds (workspace : Workspace) (numbering : Numbering)
    (after : Workspace) (next : Numbering)
    (stepped : Workspace.chatsPart.through (visit renumberChat) workspace numbering =
      some (after, next)) : after.withoutIds = workspace.withoutIds := by
  obtain ⟨⟨chats, last⟩, visited, same⟩ := Option.map_eq_some_iff.mp stepped
  cases same
  have kept := visit_frame ChatSession.withoutId
    (ChatSession.idPart.through_frame fun _ _ => rfl) visited
  simp only [Workspace.withoutIds, Workspace.chatsPart, kept]

theorem renumberTerminals_withoutIds (workspace : Workspace) (numbering : Numbering)
    (after : Workspace) (next : Numbering)
    (stepped : Workspace.terminalsPart.through (visit renumberTerminal) workspace numbering =
      some (after, next)) : after.withoutIds = workspace.withoutIds := by
  obtain ⟨⟨terminals, last⟩, visited, same⟩ := Option.map_eq_some_iff.mp stepped
  cases same
  have kept := visit_frame TerminalSession.withoutId
    (TerminalSession.idPart.through_frame fun _ _ => rfl) visited
  simp only [Workspace.withoutIds, Workspace.terminalsPart, kept]

theorem visit_sessions {A : Type} (inner : Part Workspace (List A)) (part : Part A Nat)
    (step : Nat → Numbering → Option (Nat × Numbering)) (workspaces : List Workspace)
    (numbering : Numbering) :
    (visit (inner.through (visit (part.through step))) workspaces numbering).map
        (fun last => ((last.1.flatMap inner.get).map part.get, last.2)) =
      visit step ((workspaces.flatMap inner.get).map part.get) numbering := by
  rw [← visit_through, ← visit_within, Option.map_map]
  rfl

theorem isWorkspaceId_wide (id : Nat) (from_one : 1 ≤ id) (_ : id ≤ u64Max) :
    isWorkspaceId id = true := by
  simp only [isWorkspaceId, ne_eq, decide_not, Bool.not_eq_true', decide_eq_false_iff_not]
  omega

theorem isValidDurableSessionId_wide (id : Nat) (from_one : 1 ≤ id)
    (to_max : id ≤ maxDurableSessionId) : isValidDurableSessionId id = true := by
  simp [isValidDurableSessionId, from_one, to_max]

namespace ProjectState

theorem renumberWorkspaces_spec (state : ProjectState) (before : Bool)
    (room : state.workspaces.length ≤ u64Max) :
    ∃ after changed, state.renumberWorkspaces before = .ok (after, changed) ∧
      Passed isWorkspaceId workspaceIds state after before changed ∧
      after.chats = state.chats ∧ after.terminals = state.terminals ∧
      after.workspaces.map Workspace.withoutIds = state.workspaces.map Workspace.withoutIds := by
  obtain ⟨_, workspaces, last, visited, succeeded, passed⟩ :=
    renumberWith_spec .workspace (fun workspaces => workspaces.map Workspace.idPart.get)
      (fun workspaces numbering => visit_through Workspace.idPart _ workspaces numbering)
      (Numbering.renumber_reports.through _) isWorkspaceId_wide state before
      (by rw [List.length_map]; exact room)
  refine ⟨_, _, succeeded, passed, ?_, ?_, ?_⟩
  · exact flatMap_of_map_eq (visit_frame Workspace.chats
      (Workspace.idPart.through_frame fun _ _ => rfl) visited)
  · exact flatMap_of_map_eq (visit_frame Workspace.terminals
      (Workspace.idPart.through_frame fun _ _ => rfl) visited)
  · exact visit_frame Workspace.withoutIds (Workspace.idPart.through_frame fun _ _ => rfl) visited

theorem renumberChats_spec (state : ProjectState) (before : Bool)
    (room : state.chats.length ≤ maxDurableSessionId) :
    ∃ after changed, state.renumberChats before = .ok (after, changed) ∧
      Passed isValidDurableSessionId chatNumbers state after before changed ∧
      after.workspaceIds = state.workspaceIds ∧ after.terminals = state.terminals ∧
      after.workspaces.map Workspace.withoutIds = state.workspaces.map Workspace.withoutIds := by
  obtain ⟨_, workspaces, last, visited, succeeded, passed⟩ :=
    renumberWith_spec .chat
      (fun workspaces => (workspaces.flatMap Workspace.chats).map ChatSession.idPart.get)
      (visit_sessions Workspace.chatsPart ChatSession.idPart _)
      ((Numbering.renumber_reports.through _).visit.through _) isValidDurableSessionId_wide
      state before (by rw [List.length_map]; exact room)
  refine ⟨_, _, succeeded, passed, ?_, ?_, ?_⟩
  · exact visit_frame (fun workspace : Workspace => workspace.id.raw)
      (Workspace.chatsPart.through_frame fun _ _ => rfl) visited
  · exact flatMap_of_map_eq (visit_frame Workspace.terminals
      (Workspace.chatsPart.through_frame fun _ _ => rfl) visited)
  · exact visit_frame Workspace.withoutIds renumberChats_withoutIds visited

theorem renumberTerminals_spec (state : ProjectState) (before : Bool)
    (room : state.terminals.length ≤ maxDurableSessionId) :
    ∃ after changed, state.renumberTerminals before = .ok (after, changed) ∧
      Passed isValidDurableSessionId terminalNumbers state after before changed ∧
      after.workspaceIds = state.workspaceIds ∧ after.chats = state.chats ∧
      after.workspaces.map Workspace.withoutIds = state.workspaces.map Workspace.withoutIds := by
  obtain ⟨_, workspaces, last, visited, succeeded, passed⟩ :=
    renumberWith_spec .terminal
      (fun workspaces => (workspaces.flatMap Workspace.terminals).map TerminalSession.idPart.get)
      (visit_sessions Workspace.terminalsPart TerminalSession.idPart _)
      ((Numbering.renumber_reports.through _).visit.through _) isValidDurableSessionId_wide
      state before (by rw [List.length_map]; exact room)
  refine ⟨_, _, succeeded, passed, ?_, ?_, ?_⟩
  · exact visit_frame (fun workspace : Workspace => workspace.id.raw)
      (Workspace.terminalsPart.through_frame fun _ _ => rfl) visited
  · exact flatMap_of_map_eq (visit_frame Workspace.chats
      (Workspace.terminalsPart.through_frame fun _ _ => rfl) visited)
  · exact visit_frame Workspace.withoutIds renumberTerminals_withoutIds visited

/-- What the renumbering keeps of a project. -/
structure Numbered (state repaired : ProjectState) : Prop where
  workspaceIds : KeepsFirst isWorkspaceId state.workspaceIds repaired.workspaceIds
  chatNumbers : KeepsFirst isValidDurableSessionId state.chatNumbers repaired.chatNumbers
  terminalNumbers :
    KeepsFirst isValidDurableSessionId state.terminalNumbers repaired.terminalNumbers
  content : repaired.workspaces.map Workspace.withoutIds =
    state.workspaces.map Workspace.withoutIds
  rest : { repaired with workspaces := state.workspaces } = state

/-- There are no more workspaces, chats and terminals than ids for them. -/
structure Addressable (state : ProjectState) : Prop where
  workspaces : state.workspaces.length ≤ u64Max
  chats : state.chats.length ≤ maxDurableSessionId
  terminals : state.terminals.length ≤ maxDurableSessionId

theorem normalizeExistingIds_spec {state : ProjectState} (held : state.Addressable) :
    ∃ repaired changed, state.normalizeExistingIds = .ok (repaired, changed) ∧
      state.Numbered repaired ∧
      (repaired.workspaceIds = state.workspaceIds → repaired.chatNumbers = state.chatNumbers →
        repaired.terminalNumbers = state.terminalNumbers →
          repaired = state ∧ changed = false) := by
  obtain ⟨first, firstChanged, firstOk, firstPass, firstChats, firstTerminals, firstContent⟩ :=
    state.renumberWorkspaces_spec false held.workspaces
  obtain ⟨second, secondChanged, secondOk, secondPass, secondIds, secondTerminals,
      secondContent⟩ :=
    first.renumberChats_spec firstChanged (by rw [firstChats]; exact held.chats)
  obtain ⟨third, thirdChanged, thirdOk, thirdPass, thirdIds, thirdChats, thirdContent⟩ :=
    second.renumberTerminals_spec secondChanged
      (by rw [secondTerminals, firstTerminals]; exact held.terminals)
  have workspaceIds : third.workspaceIds = first.workspaceIds := thirdIds.trans secondIds
  have chatsBefore : first.chatNumbers = state.chatNumbers := by
    rw [chatNumbers, chatNumbers, firstChats]
  have chatsAfter : third.chatNumbers = second.chatNumbers := by
    rw [chatNumbers, chatNumbers, thirdChats]
  have terminalsBefore : second.terminalNumbers = state.terminalNumbers := by
    rw [terminalNumbers, terminalNumbers, secondTerminals, firstTerminals]
  refine ⟨third, thirdChanged, ?_, ⟨?_, ?_, ?_, ?_, ?_⟩, ?_⟩
  · simp only [normalizeExistingIds, firstOk, secondOk, thirdOk]
  · rw [workspaceIds]
    exact firstPass.keeps
  · rw [chatsAfter, ← chatsBefore]
    exact secondPass.keeps
  · rw [← terminalsBefore]
    exact thirdPass.keeps
  · rw [thirdContent, secondContent, firstContent]
  · rw [← firstPass.rest, ← secondPass.rest, ← thirdPass.rest]
  · intro sameWorkspaces sameChats sameTerminals
    obtain ⟨stayed, quiet⟩ := firstPass.quiet (workspaceIds.symm.trans sameWorkspaces) rfl
    subst stayed
    obtain ⟨stayed, quiet⟩ := secondPass.quiet (chatsAfter.symm.trans sameChats) quiet
    subst stayed
    exact thirdPass.quiet sameTerminals quiet

/-- Every id is valid and its own, and the hints are those the ids ask for. -/
structure Settled (state : ProjectState) : Prop where
  workspaceIds : state.workspaceIds.Nodup ∧ ∀ id ∈ state.workspaceIds, isWorkspaceId id = true
  chatNumbers : state.chatNumbers.Nodup ∧
    ∀ id ∈ state.chatNumbers, isValidDurableSessionId id = true
  terminalNumbers : state.terminalNumbers.Nodup ∧
    ∀ id ∈ state.terminalNumbers, isValidDurableSessionId id = true
  hints : state.normalizeHints = state

theorem ensureIdCapacity_ok {state : ProjectState} (held : state.Addressable) :
    state.ensureIdCapacity = .ok () := by
  have chats := held.chats
  have terminals := held.terminals
  unfold ensureIdCapacity
  rw [if_neg (by omega), if_neg (by omega)]

theorem hintsDiffer_eq_false {state : ProjectState} (hints : state.normalizeHints = state) :
    state.hintsDiffer = false := by
  have workspaces : state.hintedWorkspaceId = state.nextWorkspaceId :=
    congrArg nextWorkspaceId hints
  have chats : state.hintedChatId = state.nextChatId := congrArg nextChatId hints
  have terminals : state.hintedTerminalId = state.nextTerminalId := congrArg nextTerminalId hints
  simp [hintsDiffer, workspaces, chats, terminals]

theorem normalizeHints_idem (state : ProjectState) :
    state.normalizeHints.normalizeHints = state.normalizeHints := by
  have workspaces : state.normalizeHints.hintedWorkspaceId = state.hintedWorkspaceId :=
    normalizedAllocatorHint_idem _ _ _
  have chats : state.normalizeHints.hintedChatId = state.hintedChatId :=
    normalizedAllocatorHint_idem _ _ _
  have terminals : state.normalizeHints.hintedTerminalId = state.hintedTerminalId :=
    normalizedAllocatorHint_idem _ _ _
  rw [normalizeHints, workspaces, chats, terminals]
  rfl

theorem Settled.normalizeNextIds {state : ProjectState} (settled : state.Settled)
    (held : state.Addressable) : state.normalizeNextIds = .ok (state, false) := by
  obtain ⟨repaired, changed, succeeded, numbered, quiet⟩ := normalizeExistingIds_spec held
  obtain ⟨same, unchanged⟩ := quiet
    (numbered.workspaceIds.eq settled.workspaceIds.1 settled.workspaceIds.2)
    (numbered.chatNumbers.eq settled.chatNumbers.1 settled.chatNumbers.2)
    (numbered.terminalNumbers.eq settled.terminalNumbers.1 settled.terminalNumbers.2)
  subst same
  simp only [ProjectState.normalizeNextIds, ensureIdCapacity_ok held, succeeded, unchanged,
    hintsDiffer_eq_false settled.hints, settled.hints]
  rfl

/-- The ids are repaired; everything but ids and hints is as it was. -/
structure IdsRepaired (state repaired : ProjectState) : Prop where
  workspaceIds : KeepsFirst isWorkspaceId state.workspaceIds repaired.workspaceIds
  chatNumbers : KeepsFirst isValidDurableSessionId state.chatNumbers repaired.chatNumbers
  terminalNumbers :
    KeepsFirst isValidDurableSessionId state.terminalNumbers repaired.terminalNumbers
  content : repaired.workspaces.map Workspace.withoutIds =
    state.workspaces.map Workspace.withoutIds
  rest : { repaired with
    workspaces := state.workspaces
    nextWorkspaceId := state.nextWorkspaceId
    nextChatId := state.nextChatId
    nextTerminalId := state.nextTerminalId } = state

theorem normalizeNextIds_spec {state : ProjectState} (held : state.Addressable) :
    ∃ repaired changed, state.normalizeNextIds = .ok (repaired, changed) ∧
      state.IdsRepaired repaired ∧ repaired.Settled := by
  obtain ⟨numbered, changed, succeeded, spec, -⟩ := normalizeExistingIds_spec held
  refine ⟨numbered.normalizeHints, changed || numbered.hintsDiffer, ?_, ?_, ?_⟩
  · simp only [normalizeNextIds, ensureIdCapacity_ok held, succeeded]
  · refine ⟨spec.workspaceIds, spec.chatNumbers, spec.terminalNumbers, spec.content, ?_⟩
    have rest := spec.rest
    simp only [normalizeHints]
    rw [← rest]
  · exact ⟨spec.workspaceIds.passes_nodup, spec.chatNumbers.passes_nodup,
      spec.terminalNumbers.passes_nodup, normalizeHints_idem numbered⟩

theorem IdsRepaired.addressable {state repaired : ProjectState}
    (spec : state.IdsRepaired repaired) (held : state.Addressable) : repaired.Addressable where
  workspaces := by
    have length := spec.workspaceIds.length
    simp only [ProjectState.workspaceIds, List.length_map] at length
    rw [length]
    exact held.workspaces
  chats := by
    have length := spec.chatNumbers.length
    simp only [ProjectState.chatNumbers, List.length_map] at length
    rw [length]
    exact held.chats
  terminals := by
    have length := spec.terminalNumbers.length
    simp only [ProjectState.terminalNumbers, List.length_map] at length
    rw [length]
    exact held.terminals

end ProjectState

end Mult.Project
