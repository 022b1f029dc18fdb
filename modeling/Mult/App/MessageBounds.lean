import Mult.App.Conversation

/-! How far the messages of a chat grow: what becomes of all that is written to one. -/

set_option autoImplicit false

namespace Mult.Project
open Foundation

theorem utf8ByteSize_charsWithin_le (budget : Nat) (chars : List Char) :
    (String.ofList (charsWithin budget chars)).utf8ByteSize ≤ budget := by
  induction chars generalizing budget with
  | nil => simp [charsWithin]
  | cons c rest ih =>
    rw [charsWithin]
    split
    · next fits =>
      have within := ih (budget - c.utf8Size)
      rw [String.ofList_cons, String.utf8ByteSize_append, String.utf8ByteSize_singleton]
      omega
    · simp

theorem charsWithin_begins (budget : Nat) (chars : List Char) :
    ∃ rest, chars = charsWithin budget chars ++ rest := by
  induction chars generalizing budget with
  | nil => exact ⟨[], rfl⟩
  | cons c rest ih =>
    rw [charsWithin]
    split
    · obtain ⟨cut, same⟩ := ih (budget - c.utf8Size)
      exact ⟨cut, congrArg (c :: ·) same⟩
    · exact ⟨c :: rest, rfl⟩

theorem charsWithin_longest {budget : Nat} (first rest : List Char)
    (fits : (String.ofList first).utf8ByteSize ≤ budget) :
    ∃ more, charsWithin budget (first ++ rest) = first ++ more := by
  induction first generalizing budget with
  | nil => exact ⟨_, rfl⟩
  | cons c others ih =>
    rw [String.ofList_cons, String.utf8ByteSize_append, String.utf8ByteSize_singleton] at fits
    obtain ⟨more, same⟩ := @ih (budget - c.utf8Size) (by omega)
    rw [List.cons_append, charsWithin, if_pos (by omega), same]
    exact ⟨more, rfl⟩

/-- At most three bytes of the budget are lost to a character that does not fit. -/
theorem utf8ByteSize_charsWithin_ge {budget : Nat} {chars : List Char}
    (exceeds : budget < (String.ofList chars).utf8ByteSize) :
    budget ≤ (String.ofList (charsWithin budget chars)).utf8ByteSize + 3 := by
  induction chars generalizing budget with
  | nil => simp at exceeds
  | cons c rest ih =>
    rw [String.ofList_cons, String.utf8ByteSize_append, String.utf8ByteSize_singleton] at exceeds
    have small := c.utf8Size_le_four
    rw [charsWithin]
    split
    · next fits =>
      have others := @ih (budget - c.utf8Size) (by omega)
      rw [String.ofList_cons, String.utf8ByteSize_append, String.utf8ByteSize_singleton]
      omega
    · omega

/-- The cut as it is made: back from the budget to where a character begins. -/
def retreat (text : String) : Nat → Nat
  | 0 => 0
  | keep + 1 => if String.Pos.Raw.isValid text ⟨keep + 1⟩ then keep + 1 else retreat text keep

theorem retreat_of_isValid {text : String} {keep budget : Nat}
    (valid : (⟨keep⟩ : String.Pos.Raw).IsValid text) (within : keep ≤ budget)
    (last : ∀ other, keep < other → other ≤ budget →
      ¬ (⟨other⟩ : String.Pos.Raw).IsValid text) : retreat text budget = keep := by
  induction budget with
  | zero => exact (Nat.le_zero.mp within).symm
  | succ budget ih =>
    rw [retreat]
    rcases Nat.lt_or_eq_of_le within with less | rfl
    · rw [if_neg (by
        rw [String.Pos.Raw.isValid_eq_true_iff]
        exact last _ less (Nat.le_refl _))]
      exact ih (Nat.le_of_lt_succ less) fun other above upto => last other above (by omega)
    · rw [if_pos (String.Pos.Raw.isValid_eq_true_iff.mpr valid)]

theorem exists_cut (text : String) (budget : Nat) :
    ∃ rest, text = String.ofList (charsWithin budget text.toList) ++ rest ∧
      (String.ofList (charsWithin budget text.toList)).utf8ByteSize = retreat text budget := by
  obtain ⟨rest, split⟩ := charsWithin_begins budget text.toList
  have whole : text = String.ofList (charsWithin budget text.toList) ++ String.ofList rest := by
    rw [← String.ofList_append, ← split, String.ofList_toList]
  refine ⟨String.ofList rest, whole, (retreat_of_isValid ?_ ?_ ?_).symm⟩
  · rw [String.Pos.Raw.isValid_iff_exists_append]
    exact ⟨_, _, whole, rfl⟩
  · exact utf8ByteSize_charsWithin_le budget text.toList
  · intro other above upto valid
    rw [String.Pos.Raw.isValid_iff_exists_append] at valid
    obtain ⟨first, second, same, position⟩ := valid
    have size : other = first.utf8ByteSize := congrArg String.Pos.Raw.byteIdx position
    obtain ⟨more, longest⟩ := @charsWithin_longest budget first.toList second.toList
      (by rw [String.ofList_toList]; omega)
    rw [← String.toList_append, ← same] at longest
    rw [longest, String.ofList_append, String.ofList_toList, String.utf8ByteSize_append] at above
    omega

/-! ## One message -/

def contentLimit : Nat := maxChatMessageBytes - chatMessageTruncationNotice.utf8ByteSize

theorem utf8ByteSize_notice : chatMessageTruncationNotice.utf8ByteSize = 12 := by decide

theorem contentLimit_eq : contentLimit = 65524 := by
  rw [contentLimit, utf8ByteSize_notice, maxChatMessageBytes]

/-- The text of a message to which the pieces were written one after the other. -/
def capped (pieces : List String) : String :=
  pieces.foldl (fun text piece => (pushCappedMessageText text piece).getD text) ""

theorem capped_concat (pieces : List String) (piece : String) :
    capped (pieces ++ [piece]) =
      (pushCappedMessageText (capped pieces) piece).getD (capped pieces) := by
  rw [capped, List.foldl_append]
  rfl

theorem pushCappedMessageText_of_full {existing : String}
    (full : contentLimit ≤ existing.utf8ByteSize) (text : String) :
    pushCappedMessageText existing text = none := by
  unfold pushCappedMessageText
  rw [← contentLimit]
  dsimp only
  rw [if_pos (by omega)]

/-- Where there is room, a text is written whole, or as far as it goes and with the notice. -/
theorem pushCappedMessageText_of_room {existing : String}
    (room : existing.utf8ByteSize < contentLimit) (text : String) :
    (existing ++ text).utf8ByteSize ≤ contentLimit ∧
        pushCappedMessageText existing text = some (existing ++ text) ∨
      contentLimit < (existing ++ text).utf8ByteSize ∧ ∃ kept rest, text = kept ++ rest ∧
        contentLimit ≤ (existing ++ kept ++ chatMessageTruncationNotice).utf8ByteSize ∧
        (existing ++ kept ++ chatMessageTruncationNotice).utf8ByteSize ≤ maxChatMessageBytes ∧
        pushCappedMessageText existing text =
          some (existing ++ kept ++ chatMessageTruncationNotice) := by
  unfold pushCappedMessageText
  rw [← contentLimit]
  dsimp only
  rw [if_neg (by omega), String.utf8ByteSize_append]
  by_cases fits : text.utf8ByteSize ≤ contentLimit - existing.utf8ByteSize
  · exact .inl ⟨by omega, if_pos fits⟩
  · obtain ⟨rest, cut, -⟩ := exists_cut text (contentLimit - existing.utf8ByteSize)
    have upper := utf8ByteSize_charsWithin_le (contentLimit - existing.utf8ByteSize) text.toList
    have lower := @utf8ByteSize_charsWithin_ge (contentLimit - existing.utf8ByteSize) text.toList
      (by rw [String.ofList_toList]; omega)
    have limits : contentLimit + 12 = maxChatMessageBytes := by
      rw [contentLimit_eq, maxChatMessageBytes]
    refine .inr ⟨by omega, _, rest, cut, ?_, ?_, if_neg fits⟩
    · rw [String.utf8ByteSize_append, String.utf8ByteSize_append, utf8ByteSize_notice]
      omega
    · rw [String.utf8ByteSize_append, String.utf8ByteSize_append, utf8ByteSize_notice]
      omega

theorem join_concat (pieces : List String) (piece : String) :
    String.join (pieces ++ [piece]) = String.join pieces ++ piece := by
  simp

theorem capped_of_fits {pieces : List String}
    (fits : (String.join pieces).utf8ByteSize ≤ contentLimit) :
    capped pieces = String.join pieces := by
  induction pieces using List.reverseRecOn with
  | nil => rfl
  | append_singleton pieces piece ih =>
    rw [join_concat] at fits ⊢
    have smaller := fits
    rw [String.utf8ByteSize_append] at smaller
    rw [capped_concat, ih (by omega)]
    by_cases room : (String.join pieces).utf8ByteSize < contentLimit
    · rcases pushCappedMessageText_of_room room piece with ⟨-, pushed⟩ | ⟨exceeds, -⟩
      · rw [pushed, Option.getD_some]
      · omega
    · have empty : piece = "" := String.utf8ByteSize_eq_zero_iff.mp (by omega)
      rw [pushCappedMessageText_of_full (by omega), empty, Option.getD_none, String.append_empty]

theorem capped_append_of_full {pieces : List String}
    (full : contentLimit ≤ (capped pieces).utf8ByteSize) (more : List String) :
    capped (pieces ++ more) = capped pieces := by
  induction more using List.reverseRecOn with
  | nil => rw [List.append_nil]
  | append_singleton more piece ih =>
    rw [← List.append_assoc, capped_concat, ih, pushCappedMessageText_of_full full,
      Option.getD_none]

theorem contentLimit_le_capped {pieces : List String}
    (exceeds : contentLimit ≤ (String.join pieces).utf8ByteSize) :
    contentLimit ≤ (capped pieces).utf8ByteSize := by
  induction pieces using List.reverseRecOn with
  | nil => exact exceeds
  | append_singleton pieces piece ih =>
    by_cases room : (String.join pieces).utf8ByteSize < contentLimit
    · rw [capped_concat, capped_of_fits (by omega)]
      rw [join_concat] at exceeds
      rcases pushCappedMessageText_of_room room piece with ⟨-, pushed⟩ | ⟨-, _, _, -, lower, -, pushed⟩
      · rwa [pushed]
      · rwa [pushed]
    · have full := ih (by omega)
      rwa [capped_append_of_full full]

theorem capped_le (pieces : List String) : (capped pieces).utf8ByteSize ≤ maxChatMessageBytes := by
  have limits : contentLimit ≤ maxChatMessageBytes := Nat.sub_le ..
  induction pieces using List.reverseRecOn with
  | nil => exact Nat.zero_le _
  | append_singleton pieces piece ih =>
    rw [capped_concat]
    by_cases room : (capped pieces).utf8ByteSize < contentLimit
    · rcases pushCappedMessageText_of_room room piece with
        ⟨fits, pushed⟩ | ⟨-, _, _, -, -, upper, pushed⟩
      · rw [pushed]
        exact fits.trans limits
      · rwa [pushed]
    · rwa [pushCappedMessageText_of_full (by omega)]

/-- What a text may be to which all of that was written: the whole, or a part from the start and
the notice that there was more. -/
structure Bounded (text whole : String) : Prop where
  size : text.utf8ByteSize ≤ maxChatMessageBytes
  fits : whole.utf8ByteSize ≤ contentLimit → text = whole
  cut : contentLimit < whole.utf8ByteSize → ∃ kept rest, whole = kept ++ rest ∧
    text = kept ++ chatMessageTruncationNotice
  notice : text ≠ whole → ∃ kept, text = kept ++ chatMessageTruncationNotice

/-- More was written after the room was filled to the last byte, and what filled it does not end
as if it had been cut. -/
def Overfull (pieces : List String) : Prop :=
  ∃ before after, pieces = before ++ after ∧
    (String.join before).utf8ByteSize = contentLimit ∧ String.join after ≠ "" ∧
    ∀ kept, String.join before ≠ kept ++ chatMessageTruncationNotice

theorem exists_exceeding {pieces : List String}
    (exceeds : contentLimit < (String.join pieces).utf8ByteSize) :
    ∃ before piece after, pieces = before ++ piece :: after ∧
      (String.join before).utf8ByteSize ≤ contentLimit ∧
      contentLimit < (String.join before ++ piece).utf8ByteSize := by
  induction pieces using List.reverseRecOn with
  | nil => simp at exceeds
  | append_singleton pieces piece ih =>
    by_cases already : contentLimit < (String.join pieces).utf8ByteSize
    · obtain ⟨before, first, after, rfl, within, beyond⟩ := ih already
      exact ⟨before, first, after ++ [piece], by simp, within, beyond⟩
    · rw [join_concat] at exceeds
      exact ⟨pieces, piece, [], rfl, by omega, exceeds⟩

theorem bounded_capped_iff (pieces : List String) :
    Bounded (capped pieces) (String.join pieces) ↔ ¬ Overfull pieces := by
  constructor
  · intro bounded overfull
    obtain ⟨before, after, rfl, exact, more, uncut⟩ := overfull
    have filled : capped before = String.join before := capped_of_fits (by omega)
    have stays : capped (before ++ after) = String.join before := by
      rw [capped_append_of_full (by rw [filled]; omega), filled]
    -- A message that was filled to the last byte takes no more, and so no notice either.
    have rest : (String.join after).utf8ByteSize ≠ 0 := mt String.utf8ByteSize_eq_zero_iff.mp more
    obtain ⟨kept, _, -, same⟩ := bounded.cut (by
      rw [String.join_append, String.utf8ByteSize_append]
      omega)
    exact uncut kept (stays ▸ same)
  · intro even
    have cut : contentLimit < (String.join pieces).utf8ByteSize → ∃ kept rest,
        String.join pieces = kept ++ rest ∧
          capped pieces = kept ++ chatMessageTruncationNotice := by
      intro exceeds
      obtain ⟨before, piece, after, rfl, within, beyond⟩ := exists_exceeding exceeds
      have filled : capped before = String.join before := capped_of_fits within
      -- The piece that exceeds the room finds some of it left, or none.
      rcases Nat.lt_or_eq_of_le within with room | exact
      · rcases pushCappedMessageText_of_room room piece with
          ⟨fits, -⟩ | ⟨-, kept, rest, rfl, lower, -, pushed⟩
        · omega
        · have here : capped (before ++ [kept ++ rest]) =
              String.join before ++ kept ++ chatMessageTruncationNotice := by
            rw [capped_concat, filled, pushed, Option.getD_some]
          refine ⟨String.join before ++ kept, rest ++ String.join after, ?_, ?_⟩
          · simp [String.append_assoc]
          · have stays := @capped_append_of_full (before ++ [kept ++ rest]) (by rwa [here]) after
            rwa [here, List.append_assoc] at stays
      · have stays : capped (before ++ piece :: after) = String.join before := by
          rw [capped_append_of_full (by rw [filled]; omega), filled]
        have nonempty : String.join (piece :: after) ≠ "" := by
          intro empty
          rw [String.join_append, empty, String.append_empty] at exceeds
          omega
        by_contra uncut
        refine even ⟨before, _, rfl, exact, nonempty, fun kept same => uncut ?_⟩
        refine ⟨kept, chatMessageTruncationNotice ++ String.join (piece :: after), ?_, ?_⟩
        · rw [String.join_append, same, String.append_assoc]
        · rw [stays, same]
    refine ⟨capped_le pieces, capped_of_fits, cut, fun different => ?_⟩
    obtain ⟨kept, -, -, same⟩ := cut (by
      by_contra fits
      exact different (capped_of_fits (by omega)))
    exact ⟨kept, same⟩

/-- What is written to a chat: a message of its own, or a part of one that is streamed. -/
inductive ChatEdit where
  | message (workspace : WorkspaceId) (chat : ChatId) (role : ChatMessageRole) (text : String)
  | delta (workspace : WorkspaceId) (chat : ChatId) (role : ChatMessageRole) (text : String)
  deriving DecidableEq, Repr

namespace ProjectState

def writeChat (state : ProjectState) : ChatEdit → ProjectState
  | .message workspace chat role text => (state.appendChatMessage workspace chat role text).2
  | .delta workspace chat role text => (state.appendChatDelta workspace chat role text).2

def transcript (state : ProjectState) (workspace : WorkspaceId) (chat : ChatId)
    (edits : List ChatEdit) : List ChatMessage :=
  ((edits.foldl writeChat state).chat workspace chat).elim [] ChatSession.messages

theorem chat_withMessages {state : ProjectState} {workspace : WorkspaceId} {chat : ChatId}
    {session : ChatSession} (present : state.chat workspace chat = some session)
    (messages : List ChatMessage) :
    (state.withMessages workspace chat messages).chat workspace chat =
      some { session with messages } := by
  rw [ProjectState.chat, ProjectState.workspace, Option.bind_eq_some_iff] at present
  obtain ⟨found, located, listed⟩ := present
  rw [ProjectState.chat, ProjectState.workspace, withMessages, modifyChat,
    find?_modifyFirst (by simp), located, Option.map_some, Option.bind_some]
  rw [find?_modifyFirst (by simp), listed]
  rfl

theorem chat_withMessages_of_ne {state : ProjectState} {workspace other : WorkspaceId}
    {chat another : ChatId} (different : (other, another) ≠ (workspace, chat))
    (messages : List ChatMessage) :
    (state.withMessages other another messages).chat workspace chat =
      state.chat workspace chat := by
  rw [ProjectState.chat, ProjectState.chat, ProjectState.workspace, ProjectState.workspace,
    withMessages, modifyChat]
  by_cases same : other = workspace
  · cases same
    rw [find?_modifyFirst (by simp)]
    cases located : state.workspaces.find? fun found => found.id = workspace with
    | none => rfl
    | some found =>
      rw [Option.map_some, Option.bind_some, Option.bind_some]
      refine find?_modifyFirst_of_disjoint ?_
      intro session matched
      have unlike : another ≠ chat := fun same => different (same ▸ rfl)
      simp only [decide_eq_true_eq] at matched
      simp [matched, unlike]
  · rw [find?_modifyFirst_of_disjoint]
    intro found matched
    simp only [decide_eq_true_eq] at matched
    simp [matched, same]

end ProjectState

/-! ### What the messages received -/

/-- What each message of a chat received; a part of the role of the last message is more of it. -/
def receive (workspace : WorkspaceId) (chat : ChatId)
    (received : List (ChatMessageRole × List String)) :
    ChatEdit → List (ChatMessageRole × List String)
  | .message place session role text =>
      if (place, session) ≠ (workspace, chat) ∨ text = "" then received
      else received ++ [(role, [text])]
  | .delta place session role text =>
      if (place, session) ≠ (workspace, chat) ∨ text = "" then received
      else
        match received.getLast?.filter fun last => last.1 = role with
        | none => received ++ [(role, [text])]
        | some (_, pieces) => received.dropLast ++ [(role, pieces ++ [text])]

def received (workspace : WorkspaceId) (chat : ChatId) (edits : List ChatEdit) :
    List (ChatMessageRole × List String) :=
  edits.foldl (receive workspace chat) []

def writtenMessage (received : ChatMessageRole × List String) : ChatMessage :=
  ⟨received.1, capped received.2⟩

namespace ProjectState

variable {state : ProjectState} {workspace : WorkspaceId} {chat : ChatId} {session : ChatSession}

theorem last_written (got : List (ChatMessageRole × List String)) (role : ChatMessageRole) :
    ((got.map writtenMessage).getLast?.filter fun message => message.role = role) =
      (got.getLast?.filter fun last => last.1 = role).map writtenMessage := by
  rw [List.getLast?_map, Option.filter_map]
  rfl

theorem chat_writeChat (present : state.chat workspace chat = some session)
    {got : List (ChatMessageRole × List String)}
    (answers : session.messages = got.map writtenMessage) (edit : ChatEdit) :
    ∃ after, (state.writeChat edit).chat workspace chat = some after ∧
      after.messages = (receive workspace chat got edit).map writtenMessage := by
  cases edit with
  | message place other role text =>
    rw [writeChat, appendChatMessage, receive]
    by_cases empty : text = ""
    · rw [if_pos empty, if_pos (.inr empty)]
      exact ⟨session, present, answers⟩
    · rw [if_neg empty]
      by_cases same : (place, other) = (workspace, chat)
      · cases same
        rw [present, if_neg (by simp [empty])]
        refine ⟨_, chat_withMessages present _, ?_⟩
        rw [List.map_append, ← answers]
        rfl
      · rw [if_pos (.inl same)]
        refine ⟨session, ?_, answers⟩
        split
        · exact present
        · rw [chat_withMessages_of_ne same]
          exact present
  | delta place other role text =>
    rw [writeChat, appendChatDelta, receive]
    by_cases empty : text = ""
    · rw [if_pos empty, if_pos (.inr empty)]
      exact ⟨session, present, answers⟩
    · rw [if_neg empty]
      by_cases same : (place, other) = (workspace, chat)
      · cases same
        rw [present, if_neg (by simp [empty])]
        dsimp only
        rw [answers, last_written]
        cases last : got.getLast?.filter fun last => last.1 = role with
        | none =>
          refine ⟨_, chat_withMessages present _, ?_⟩
          rw [List.map_append]
          rfl
        | some ending =>
          obtain ⟨kind, pieces⟩ := ending
          rw [Option.filter_eq_some_iff, decide_eq_true_eq] at last
          obtain ⟨last, rfl⟩ := last
          have whole : got = got.dropLast ++ [(kind, pieces)] :=
            (List.dropLast_append_getLast? _ last).symm
          have grown := capped_concat pieces text
          simp only [Option.map_some, writtenMessage]
          cases pushed : pushCappedMessageText (capped pieces) text with
          | none =>
            rw [pushed, Option.getD_none] at grown
            refine ⟨session, present, answers.trans ?_⟩
            rw [whole]
            simp [writtenMessage, grown]
          | some longer =>
            rw [pushed, Option.getD_some] at grown
            refine ⟨_, chat_withMessages present _, ?_⟩
            simp [writtenMessage, grown, List.map_dropLast]
      · rw [if_pos (.inl same)]
        refine ⟨session, ?_, answers⟩
        split
        · exact present
        · split
          · rw [chat_withMessages_of_ne same]
            exact present
          · split
            · exact present
            · rw [chat_withMessages_of_ne same]
              exact present

theorem transcript_eq (present : state.chat workspace chat = some session)
    (fresh : session.messages = []) (edits : List ChatEdit) :
    state.transcript workspace chat edits = (received workspace chat edits).map writtenMessage := by
  have written : ∃ after, (edits.foldl writeChat state).chat workspace chat = some after ∧
      after.messages = (received workspace chat edits).map writtenMessage := by
    induction edits using List.reverseRecOn with
    | nil => exact ⟨session, present, fresh⟩
    | append_singleton edits edit ih =>
      obtain ⟨before, found, answers⟩ := ih
      rw [received, List.foldl_append, List.foldl_append]
      exact chat_writeChat found answers edit
  obtain ⟨after, found, answers⟩ := written
  rw [transcript, found]
  exact answers

end ProjectState

section
variable {workspace : WorkspaceId} {chat : ChatId} {index : Nat} {role : ChatMessageRole}
  {pieces : List String}

theorem receive_extends {all : List (ChatMessageRole × List String)}
    (got : all[index]? = some (role, pieces)) (edit : ChatEdit) :
    ∃ more, (receive workspace chat all edit)[index]? = some (role, pieces ++ more) := by
  have same : all[index]? = some (role, pieces ++ []) := by rw [got, List.append_nil]
  have inside : index < all.length := (List.getElem?_eq_some_iff.mp got).1
  have behind : ∀ last, ∃ more, (all ++ [last])[index]? = some (role, pieces ++ more) :=
    fun last => ⟨[], by rw [List.getElem?_append_left inside, same]⟩
  cases edit with
  | message place session kind text =>
    rw [receive]
    split
    · exact ⟨[], same⟩
    · exact behind _
  | delta place session kind text =>
    rw [receive]
    split
    · exact ⟨[], same⟩
    · split
      · exact behind _
      · next last =>
        rw [Option.filter_eq_some_iff, decide_eq_true_eq, List.getLast?_eq_getElem?] at last
        obtain ⟨last, rfl⟩ := last
        rcases Nat.lt_or_eq_of_le (Nat.le_sub_one_of_lt inside) with earlier | here
        · refine ⟨[], ?_⟩
          rw [List.getElem?_append_left (by rwa [List.length_dropLast]),
            List.getElem?_dropLast, if_pos earlier, same]
        · rw [here, last] at got
          cases got
          refine ⟨[text], ?_⟩
          rw [List.getElem?_append_right (by rw [List.length_dropLast]; omega),
            List.length_dropLast, here, Nat.sub_self]
          rfl

theorem received_append {before : List ChatEdit}
    (got : (received workspace chat before)[index]? = some (role, pieces))
    (after : List ChatEdit) :
    ∃ more, (received workspace chat (before ++ after))[index]? = some (role, pieces ++ more) := by
  induction after using List.reverseRecOn with
  | nil => exact ⟨[], by simpa using got⟩
  | append_singleton after edit ih =>
    obtain ⟨more, later⟩ := ih
    obtain ⟨further, last⟩ := @receive_extends workspace chat _ _ _ _ later edit
    refine ⟨more ++ further, ?_⟩
    rw [← List.append_assoc, ← List.append_assoc, received, List.foldl_append]
    exact last

end

/-- After the edits each message of the chat answers for what was written to it, and none that was
cut by then changes with later ones. -/
structure TranscriptBounded (state : ProjectState) (workspace : WorkspaceId) (chat : ChatId)
    (edits : List ChatEdit) : Prop where
  bounded : List.Forall₂ (fun message (got : ChatMessageRole × List String) =>
      message.role = got.1 ∧ Bounded message.text (String.join got.2))
    (state.transcript workspace chat edits) (received workspace chat edits)
  stays : ∀ before after, edits = before ++ after →
    ∀ (index : Nat) (message : ChatMessage) (role : ChatMessageRole) (pieces : List String),
    (state.transcript workspace chat before)[index]? = some message →
    (received workspace chat before)[index]? = some (role, pieces) →
    contentLimit < (String.join pieces).utf8ByteSize →
    (state.transcript workspace chat edits)[index]? = some message

theorem messages_bounded_iff {state : ProjectState} {workspace : WorkspaceId} {chat : ChatId}
    {session : ChatSession} (present : state.chat workspace chat = some session)
    (fresh : session.messages = []) (edits : List ChatEdit) :
    List.Forall₂ (fun message (got : ChatMessageRole × List String) =>
        message.role = got.1 ∧ Bounded message.text (String.join got.2))
      (state.transcript workspace chat edits) (received workspace chat edits) ↔
      ∀ got ∈ received workspace chat edits, ¬ Overfull got.2 := by
  rw [ProjectState.transcript_eq present fresh, List.forall₂_map_left_iff, List.forall₂_same]
  simp only [writtenMessage, true_and, bounded_capped_iff]

/-- The messages of a chat keep to their bound and say what they lack exactly if no more is written
to one whose room was filled to the last byte. -/
theorem transcript_bounded_iff {state : ProjectState} {workspace : WorkspaceId} {chat : ChatId}
    {session : ChatSession} (present : state.chat workspace chat = some session)
    (fresh : session.messages = []) (edits : List ChatEdit) :
    TranscriptBounded state workspace chat edits ↔
      ∀ got ∈ received workspace chat edits, ¬ Overfull got.2 := by
  have bounds := messages_bounded_iff present fresh edits
  refine ⟨fun all => bounds.mp all.bounded, fun even => ⟨bounds.mpr even, ?_⟩⟩
  rintro before after rfl index message role pieces here got exceeds
  obtain ⟨more, later⟩ := received_append got after
  rw [ProjectState.transcript_eq present fresh, List.getElem?_map, got] at here
  rw [ProjectState.transcript_eq present fresh, List.getElem?_map, later, ← here, Option.map_some,
    Option.map_some, writtenMessage, writtenMessage,
    capped_append_of_full (contentLimit_le_capped exceeds.le)]

def emptyChat : ChatSession := ⟨⟨1⟩, "agent", .idle, .codex, []⟩

def oneChat : ProjectState where
  version := 5
  stateNamespace := ⟨1, Protocol.bytes_one⟩
  sessionIdentities := ⟨∅, ∅⟩
  agentGenerations := ∅
  nextWorkspaceId := 2
  nextChatId := 2
  nextTerminalId := 1
  workspaces := [⟨⟨1⟩, "", none, none, ∅, [emptyChat], []⟩]

def streamed (pieces : List String) : List ChatEdit :=
  pieces.map fun piece => .delta ⟨1⟩ ⟨1⟩ .assistant piece

theorem not_overfull_of_short {pieces : List String}
    (short : (String.join pieces).utf8ByteSize < contentLimit) : ¬ Overfull pieces := by
  rintro ⟨before, after, rfl, exact, -⟩
  rw [String.join_append, String.utf8ByteSize_append] at short
  omega

theorem transcript_bounded_short :
    TranscriptBounded oneChat ⟨1⟩ ⟨1⟩ (streamed ["a", "b"]) := by
  refine (@transcript_bounded_iff oneChat ⟨1⟩ ⟨1⟩ emptyChat rfl rfl (streamed ["a", "b"])).mpr ?_
  intro got member
  have same : got = (.assistant, ["a", "b"]) := List.mem_singleton.mp member
  rw [same]
  refine not_overfull_of_short ?_
  rw [contentLimit_eq]
  decide

theorem utf8ByteSize_replicate (c : Char) (count : Nat) :
    (String.ofList (List.replicate count c)).utf8ByteSize = count * c.utf8Size := by
  induction count with
  | zero => simp
  | succ count ih =>
    rw [List.replicate_succ, String.ofList_cons, String.utf8ByteSize_append, ih,
      String.utf8ByteSize_singleton, Nat.succ_mul, Nat.add_comm]

theorem not_transcriptBounded_of_filled {text : String}
    (filled : text.utf8ByteSize = contentLimit)
    (uncut : ∀ kept, text ≠ kept ++ chatMessageTruncationNotice) :
    ¬ TranscriptBounded oneChat ⟨1⟩ ⟨1⟩ (streamed [text, "x"]) := by
  intro bounded
  have fits := (@messages_bounded_iff oneChat ⟨1⟩ ⟨1⟩ emptyChat rfl rfl _).mp bounded.bounded
    (.assistant, [text, "x"])
  have written : text ≠ "" := by
    rintro rfl
    rw [contentLimit_eq] at filled
    cases filled
  refine fits ?_ ⟨[text], ["x"], rfl, ?_, by decide, ?_⟩
  · simp [received, receive, streamed, written, Option.filter]
  · rwa [String.join_cons, String.join_nil, String.append_empty]
  · rwa [String.join_cons, String.join_nil, String.append_empty]

theorem filled_message_silent :
    ¬ TranscriptBounded oneChat ⟨1⟩ ⟨1⟩
      (streamed [String.ofList (List.replicate 65524 'a'), "x"]) := by
  refine not_transcriptBounded_of_filled ?_ fun kept same => ?_
  · rw [contentLimit_eq, utf8ByteSize_replicate]
    rfl
  · have letters := congrArg String.toList same
    rw [String.toList_ofList, String.toList_append] at letters
    have bracket : ']' ∈ List.replicate 65524 'a' := by
      rw [letters]
      exact List.mem_append_right _ (by decide)
    exact absurd (List.eq_of_mem_replicate bracket) (by decide)

end Mult.Project
