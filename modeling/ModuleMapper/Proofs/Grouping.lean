import ModuleMapper.Proofs.History
import ModuleMapper.Proofs.Replies

/-!
# Grouping — blocks mean nothing to the answers

  Nothing of a session is kept for the length of a block.  As long as the messages of some blocks are all
  answered, the blocks are answered one after another as their messages are in a single block: the replies
  are the same, and so is the session behind each message (`answers_of_flatten`).

  With a local compiler every message with words is answered, so that such messages may be put into blocks
  in any way (`answers_of_flatten_eq`).
-/

namespace ModuleMapper

namespace Connection

variable {σ ω : Type} [Sink ω] {mapper : Mapper σ}

/-- Blocks are answered as the single block of their messages, if this one is.  Induction on the blocks:
    the first is a front of the single block, and the others find the session as it is behind this
    front. -/
theorem answers_of_flatten {groups : List Block} {c : Connection σ ω} {replies : Block}
    (h : (Session.answerAll mapper groups.flatten c.session).1 = .ok replies) :
    ∃ answers : List Block, answers.flatten = replies
      ∧ reports mapper (groups.map .answer) c = answers.map (fun answer => .answered (.ok answer))
      ∧ performAll mapper (groups.map .answer) c
          = { c with session := (Session.answerAll mapper groups.flatten c.session).2 }
      ∧ history mapper (groups.map .answer) c
          = Session.handlings mapper groups.flatten c.session := by
  induction groups generalizing c replies with
  | nil =>
      injection h with hnil
      exact ⟨[], hnil, rfl, rfl, rfl⟩
  | cons group groups ih =>
      rw [List.flatten_cons] at h ⊢
      obtain ⟨front, hfront⟩ := Session.front_of_answerAll h
      rw [Session.answerAll_append hfront] at h ⊢
      cases hothers : (Session.answerAll mapper groups.flatten
          (Session.answerAll mapper group c.session).2).1 with
      | error failure =>
          rw [hothers] at h
          cases h
      | ok rest =>
          rw [hothers] at h
          injection h with hreplies
          -- the other blocks are answered by the session that the first leaves behind
          obtain ⟨answers, hanswers, hreports, hperform, hhistory⟩ :=
            ih (c := c.perform mapper (.answer group)) hothers
          refine ⟨front :: answers, ?_, ?_, hperform, ?_⟩
          · rw [List.flatten_cons, hanswers]
            exact hreplies
          · rw [List.map_cons, reports, hreports, List.map_cons, report, hfront]
          · rw [List.map_cons, history, hhistory, Session.handlings_append hfront]
            rfl

/-- **Messages with words may be put into blocks in any way.**  Whatever the session and its workspace are:
    with a local compiler, two lists of blocks with the same messages are answered by the same replies, one
    for each message, and leave the same connection behind, its phase, client, files and compilations
    included.  Every message finds the same session in both of them. -/
theorem answers_of_flatten_eq (hcompiler : mapper.compiler.Local) (c : Connection σ ω)
    {groups others : List Block} (hsame : groups.flatten = others.flatten)
    (hwords : ∀ message ∈ groups.flatten, message ≠ []) :
    (∃ answers answers' : List Block,
        reports mapper (groups.map .answer) c = answers.map (fun answer => .answered (.ok answer))
          ∧ reports mapper (others.map .answer) c = answers'.map (fun answer => .answered (.ok answer))
          ∧ answers.flatten = answers'.flatten
          ∧ List.Forall₂ Message.RepliedBy groups.flatten answers.flatten)
      ∧ performAll mapper (groups.map .answer) c = performAll mapper (others.map .answer) c
      ∧ history mapper (groups.map .answer) c = history mapper (others.map .answer) c := by
  obtain ⟨replies, hreplies, hall⟩ :=
    Session.answerAll_of_local hcompiler (Block.isWordy_iff.mpr hwords) c.session
  obtain ⟨answers, hanswers, hreports, hperform, hhistory⟩ := answers_of_flatten hreplies
  rw [hsame] at hreplies
  obtain ⟨answers', hanswers', hreports', hperform', hhistory'⟩ := answers_of_flatten hreplies
  refine ⟨⟨answers, answers', hreports, hreports', hanswers.trans hanswers'.symm, ?_⟩, ?_, ?_⟩
  · rw [hanswers]
    exact hall
  · rw [hperform, hperform', hsame]
  · rw [hhistory, hhistory', hsame]

/-- A connection whose blocks come from its caller. -/
def quietClient : Connection Unit where
  reader := { stream := { rest := [] } }
  session := { workspace := Workspace.blank }

/-- A message that comes before the first handshake, and another handshake between two imports of one
    module. -/
def mixedMessages : List Message :=
  [["MODULE-EXPORT", "foo"], ["HELLO", "1", "GCC", "b"], ["MODULE-IMPORT", "foo"],
    ["HELLO", "1", "GCC", "c"], ["MODULE-IMPORT", "foo"], ["MODULE-REPO"]].map
    (·.map Bytes.ofString)

/-- One by one these messages are answered as in two blocks with an empty one between them: both imports
    are compiled, and the second handshake holds. -/
theorem answers_of_flatten_eq_mixedMessages :
    Mapper.idle.compiler.Local
      ∧ (mixedMessages.map ([·])).flatten
          = [mixedMessages.take 3, [], mixedMessages.drop 3].flatten
      ∧ (∀ message ∈ (mixedMessages.map ([·])).flatten, message ≠ [])
      ∧ performAll Mapper.idle ((mixedMessages.map ([·])).map .answer) quietClient
          = performAll Mapper.idle ([mixedMessages.take 3, [], mixedMessages.drop 3].map .answer)
              quietClient
      ∧ (performAll Mapper.idle ((mixedMessages.map ([·])).map .answer)
            quietClient).session.workspace.journal.length = 2
      ∧ (performAll Mapper.idle ((mixedMessages.map ([·])).map .answer) quietClient).session.client
          = { compiler := Bytes.ofString "GCC", build := Bytes.ofString "c" } := by
  have hsame : (mixedMessages.map ([·])).flatten
      = [mixedMessages.take 3, [], mixedMessages.drop 3].flatten := by
    decide
  have hwords : ∀ message ∈ (mixedMessages.map ([·])).flatten, message ≠ [] := by decide
  obtain ⟨-, hperform, -⟩ := answers_of_flatten_eq Mapper.local_idle quietClient hsame hwords
  exact ⟨Mapper.local_idle, hsame, hwords, hperform, by decide +kernel, by decide +kernel⟩

end Connection

end ModuleMapper
