import Mult.Daemon.Deliveries
import Mult.Daemon.PaneOutput

/-! What an attach hands over: the retained output of the pane in its pieces, up to where the live
output goes on.
-/

set_option autoImplicit false

namespace Mult.Daemon
open Foundation Protocol

/-- The frames of a replay are the pieces one after the other, and nothing of another lease. -/
theorem replayFrames_spec (requestId : RequestId) (pane : PaneId) (lease : AttachmentLease)
    {sequence : OutputSequence} {chunks : List Bytes}
    (room : sequence.get + chunks.flatten.length < u64Bound) :
    ∃ frames final, replayFrames requestId pane lease sequence chunks = (frames, some final) ∧
      final.get = sequence.get + chunks.flatten.length ∧
      partsOf lease frames = Receiver.placed sequence.get chunks ∧
      ∀ other, other ≠ lease → partsOf other frames = [] := by
  induction chunks generalizing sequence with
  | nil => exact ⟨[], sequence, rfl, rfl, rfl, fun _ _ => rfl⟩
  | cons chunk rest ih =>
    rw [List.flatten_cons, List.length_append] at room
    obtain ⟨next, following⟩ : ∃ next, sequence.checkedAddBytes chunk.length = some next :=
      ⟨_, dif_pos (show sequence.value + chunk.length < u64Bound by
        unfold OutputSequence.get at room
        omega)⟩
    have counted := OutputSequence.get_checkedAddBytes following
    obtain ⟨frames, final, sent, ended, parts, others⟩ := @ih next (by omega)
    refine ⟨.replay requestId pane lease sequence chunk :: frames, final, ?_, ?_, ?_, ?_⟩
    · simp only [replayFrames, following, sent]
    · rw [ended, counted, List.flatten_cons, List.length_append, Nat.add_assoc]
    · rw [Receiver.placed, ← counted, ← parts, partsOf_cons]
      simp [deliveryMessage, streamPart]
    · intro other apart
      rw [partsOf_cons, others other apart]
      simp [deliveryMessage, streamPart, apart.symm]

section
variable {pane : PaneState} {output : Bytes}

/-- Where the pane follows its output, an attach reaches the end of its replay: it hands over all
that is retained, and nothing of another lease. -/
theorem attachTransaction_spec (follows : pane.Follows output) {response : ServerMessage}
    (plain : Plain response) (requestId : RequestId) (lease : AttachmentLease)
    (foreground : ForegroundProcessInfo) :
    ∃ deliveries, attachTransaction response requestId lease pane foreground = (deliveries, true) ∧
      partsOf lease deliveries =
        Receiver.handover pane.historyStart.get pane.rawHistory.replayChunks ∧
      ∀ other, other ≠ lease → partsOf other deliveries = [] := by
  have whole := follows.ends.length
  have kept := RawHistory.replayChunks_flatten pane.rawHistory
  have counted := follows.next
  have reaches : pane.historyStart.get + pane.rawHistory.replayChunks.flatten.length =
      pane.nextOutput.get := by rw [kept, counted, whole]
  obtain ⟨frames, final, sent, ended, parts, others⟩ := replayFrames_spec requestId pane.pane lease
    (show pane.historyStart.get + pane.rawHistory.replayChunks.flatten.length < u64Bound from
      reaches ▸ pane.nextOutput.bounded)
  obtain rfl : final = pane.nextOutput := OutputSequence.ext_get (ended.trans reaches)
  refine ⟨_, by simp only [attachTransaction, sent, if_true]; rfl, ?_, fun other apart => ?_⟩
  · rw [partsOf_append, partsOf_append, parts, Receiver.handover, reaches]
    simp only [partsOf_cons, deliveryMessage, Option.bind_some, plain lease]
    simp [streamPart]
  · rw [partsOf_append, partsOf_append, others other apart]
    simp only [partsOf_cons, deliveryMessage, Option.bind_some, plain other]
    simp [streamPart, apart.symm]

end

structure OutputContract (server : Server) (past : List Event) : Prop where
  /-- Each read is published at the position up to which its pane had published before. -/
  placed : ∀ before after ref sequence bytes, past = before ++ .output ref sequence bytes :: after →
    sequence.get = (outputOf before ref).length
  /-- What a pane keeps is the end of its output, as much as fits. -/
  kept : ∀ (ref : PaneRef) (pane : Pane), server.panes[ref]? = some pane →
    pane.state.nextOutput.get = (outputOf past ref).length ∧
      pane.state.rawHistory.contents = (outputOf past ref).drop pane.state.historyStart.get ∧
      pane.state.rawHistory.contents.length = min rawHistoryMaxBytes (outputOf past ref).length
  /-- A client that is sent all of an attach to the pane has what the pane keeps. -/
  handed : ∀ (ref : PaneRef) (pane : Pane), server.panes[ref]? = some pane →
    ∀ requestId session info lease foreground receiver, ∃ deliveries,
      attachTransaction (.attachResult requestId (.attached session info lease)) requestId lease
        pane.state foreground = (deliveries, true) ∧
      Receiver.takes receiver (partsOf lease deliveries) =
        some (.live pane.state.historyStart.get pane.state.rawHistory.contents)

theorem output_contract (server : Server) (past : List Event) (run : daemon.Reaches server past) :
    OutputContract server past := by
  have published := outputKept_of_reaches run
  refine ⟨published.placed, fun ref pane found => ?_, fun ref pane found requestId session info lease
    foreground receiver => ?_⟩
  · have follows := published.panes ref pane found
    exact ⟨follows.next, follows.ends.eq_drop, follows.retained⟩
  · have plain : Plain (.attachResult requestId (.attached session info lease)) := fun _ => rfl
    obtain ⟨deliveries, sent, parts, -⟩ := attachTransaction_spec (published.panes ref pane found)
      plain requestId lease foreground
    refine ⟨deliveries, sent, ?_⟩
    rw [parts]
    exact (Receiver.Awaits.before (RawHistory.replayChunks_flatten pane.state.rawHistory)).takes

/-- A pane that has published two reads. -/
theorem output_contract_reads : ∃ server past,
    outputOf past 0 = [104, 105, 10] ∧ OutputContract server past := by
  obtain ⟨server, past, run, said⟩ := daemon.exists_reaches ⟨⟨0⟩, rfl⟩
    (sampleSession ++ [.read 0 [104, 105], .read 0 [10]])
    (fun _ past => outputOf past 0 = [104, 105, 10]) (by decide)
  exact ⟨server, past, of_decide_eq_true said, output_contract server past run⟩

end Mult.Daemon
