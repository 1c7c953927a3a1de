import ModuleMapper.Proofs.Scanning
import ModuleMapper.Wire.Reader

/-!
# Reading — a reader on a calm stream sees its input as a whole

  A reader takes line after line from its stream, scans what it holds again after each, and throws away
  blanks.  On a calm stream none of this shows: the tokens that it makes are those of the whole input,
  scanned at once (`tokenize`), and its blocks are what `Draft.assemble` makes of them.

  The invariant is `Reader.Steady`: as long as the stream has more, what the reader holds ends in a
  newline.  So no bare word ever reaches the end of the buffer while there is more to come, and this is
  the only case in which a token could still change (`scan_append_of_token`).
-/

namespace ModuleMapper.Wire

/-! ## The tokens of an input -/

/-- All tokens of an input, and the failure that stops them, unless only blanks are left. -/
def tokenize (input : Bytes) : List Token × Option Failure :=
  match _ : scan input with
  | .token token rest => (token :: (tokenize rest).1, (tokenize rest).2)
  | .blank => ([], none)
  | .unclosed => ([], some .truncated)
  | .malformed line => ([], some (.malformed (Text.lossy line)))
termination_by input.length
decreasing_by all_goals exact scan_rest_lt (by assumption)

theorem tokenize_of_token {input rest : Bytes} {token : Token}
    (h : scan input = .token token rest) :
    tokenize input = (token :: (tokenize rest).1, (tokenize rest).2) := by
  rw [tokenize]
  split <;> simp_all

theorem tokenize_of_blank {input : Bytes} (h : scan input = .blank) :
    tokenize input = ([], none) := by
  rw [tokenize]
  split <;> simp_all

@[simp] theorem tokenize_nil : tokenize [] = ([], none) := tokenize_of_blank scan_nil

theorem tokenize_of_unclosed {input : Bytes} (h : scan input = .unclosed) :
    tokenize input = ([], some .truncated) := by
  rw [tokenize]
  split <;> simp_all

theorem tokenize_of_malformed {input line : Bytes} (h : scan input = .malformed line) :
    tokenize input = ([], some (.malformed (Text.lossy line))) := by
  rw [tokenize]
  split <;> simp_all

/-! ## The blocks of a list of tokens -/

namespace Draft

/-- The blocks that tokens complete, and the draft that they leave. -/
def assemble : Draft → List Token → List Block × Draft
  | draft, [] => ([], draft)
  | draft, token :: tokens =>
      match draft.feed token with
      | .open draft => assemble draft tokens
      | .closed block => (block :: (assemble {} tokens).1, (assemble {} tokens).2)

theorem assemble_of_open {draft next : Draft} {token : Token} (h : draft.feed token = .open next)
    (tokens : List Token) : draft.assemble (token :: tokens) = next.assemble tokens := by
  rw [assemble, h]

theorem assemble_of_closed {draft : Draft} {token : Token} {block : Block}
    (h : draft.feed token = .closed block) (tokens : List Token) :
    draft.assemble (token :: tokens)
      = (block :: (assemble {} tokens).1, (assemble {} tokens).2) := by
  rw [assemble, h]

/-- How a stream ends behind a draft, given the failure that stopped its tokens. -/
def ending (draft : Draft) : Option Failure → Option Failure
  | some failure => some failure
  | none => if draft.isEmpty then none else some .truncated

/-- The blocks that tokens complete, and how the stream ends behind them. -/
def outcome (draft : Draft) (tokens : List Token × Option Failure) : List Block × Option Failure :=
  ((draft.assemble tokens.1).1, (draft.assemble tokens.1).2.ending tokens.2)

@[simp] theorem outcome_nil (draft : Draft) (failure : Option Failure) :
    draft.outcome ([], failure) = ([], draft.ending failure) := rfl

/-- A block that is complete has messages. -/
theorem ne_nil_of_feed {draft : Draft} {token : Token} {block : Block}
    (h : draft.feed token = .closed block) : block ≠ [] := by
  cases token with
  | newline =>
      simp only [feed] at h
      split at h
      · cases h
      · injection h with hblock
        rw [← hblock]
        exact List.append_ne_nil_of_right_ne_nil _ (List.cons_ne_nil _ _)
  | continuation => cases h
  | word value => cases h

end Draft

namespace Reader

/-! ## Steady readers -/

/-- What a reader has still to make tokens of. -/
def input (r : Reader) : Bytes := r.pending ++ r.stream.rest

/-- A reader on a calm stream, between two tokens. -/
structure Steady (r : Reader) : Prop where
  calm : r.stream.Calm
  /-- It holds whole lines, unless the stream has nothing more. -/
  whole : r.stream.rest ≠ [] → ∀ b ∈ r.pending.getLast?, b = Byte.newline
  /-- It takes the stream to be at its end only if it is. -/
  ended : r.ended = true → r.stream.rest = []

/-- A reader that has read nothing yet is steady. -/
theorem Steady.start {s : InputStream} (h : s.Calm) : Steady { stream := s } where
  calm := h
  whole := by
    intro _ b hb
    cases hb
  ended := by
    intro hended
    cases hended

/-- Dropping a front of what it holds leaves a reader steady. -/
theorem Steady.drop {r : Reader} {rest : Bytes} (h : r.Steady) (hrest : rest <:+ r.pending) :
    Steady { r with pending := rest } where
  calm := h.calm
  whole := by
    intro hmore b hb
    have hne : rest ≠ [] := by
      rintro rfl
      cases hb
    refine h.whole hmore b ?_
    rw [getLast?_of_suffix hrest hne]
    exact hb
  ended := h.ended

/-- Taking a line changes nothing about the input, and says whether the stream had more. -/
theorem readLine_of_steady {r : Reader} (h : r.Steady) :
    r.readLine.1 = .ok (decide (r.stream.rest ≠ [])) ∧ r.readLine.2.Steady
      ∧ r.readLine.2.input = r.input := by
  obtain ⟨htaken, hfault, hcalm⟩ := InputStream.readLine_of_calm h.calm
  have hparts := InputStream.readLine_append r.stream
  unfold readLine
  by_cases hended : r.ended = true
  · rw [if_pos hended]
    have hrest := h.ended hended
    exact ⟨by simp [hrest], h, rfl⟩
  · rw [if_neg hended]
    simp only [hfault]
    by_cases hnil : r.stream.readLine.taken = []
    · rw [if_pos hnil]
      have hrest : r.stream.rest = [] := lineOf_eq_nil (htaken ▸ hnil)
      have hleft : r.stream.readLine.stream.rest = [] := by
        rw [hnil, hrest] at hparts
        exact hparts
      refine ⟨by simp [hrest], ⟨hcalm, fun hmore => absurd hleft hmore, fun _ => hleft⟩, ?_⟩
      simp only [input, hnil, hleft, hrest, List.append_nil]
    · rw [if_neg hnil]
      have hrest : r.stream.rest ≠ [] := by
        intro hrest
        rw [hrest] at htaken
        exact hnil htaken
      refine ⟨by simp [hrest], ⟨hcalm, ?_, fun hend => absurd hend hended⟩, ?_⟩
      · -- a line that is followed by more ends in its newline
        intro hmore b hb
        rcases getLast?_lineOf r.stream.rest with hlast | hall
        · rw [getLast?_of_suffix (List.suffix_append _ _) hnil, htaken, hlast] at hb
          exact (Option.some.inj hb).symm
        · rw [htaken, hall] at hparts
          exact absurd (List.append_right_eq_self.mp hparts) hmore
      · simp only [input, List.append_assoc, hparts]

/-! ## Tokens -/

/-- What a reader answers, given what stands at the front of its whole input. -/
def Delivers : Scanned → Except Failure (Option Token) × Reader → Prop
  | .token token rest, answer =>
      answer.1 = .ok (some token) ∧ answer.2.Steady ∧ answer.2.input = rest
  | .blank, answer => answer.1 = .ok none ∧ answer.2.Steady ∧ answer.2.input = []
  | .unclosed, answer => answer.1 = .error .truncated
  | .malformed line, answer => answer.1 = .error (.malformed (Text.lossy line))

/-- A token of what a steady reader holds is the token of its whole input. -/
theorem Steady.scan_input_of_token {r : Reader} {token : Token} {rest : Bytes} (h : r.Steady)
    (hscan : scan r.pending = .token token rest) :
    scan r.input = .token token (rest ++ r.stream.rest) := by
  by_cases hmore : r.stream.rest = []
  · rw [input, hmore, List.append_nil, List.append_nil]
    exact hscan
  · refine scan_append_of_token hscan ?_ r.stream.rest
    intro _ b hb
    rw [h.whole hmore b hb]
    rfl

/-- What is malformed in what a steady reader holds is malformed in its whole input. -/
theorem Steady.scan_input_of_malformed {r : Reader} {line : Bytes} (h : r.Steady)
    (hscan : scan r.pending = .malformed line) : scan r.input = .malformed line := by
  by_cases hmore : r.stream.rest = []
  · rw [input, hmore, List.append_nil]
    exact hscan
  · have hne : r.pending ≠ [] := by
      intro hnil
      rw [hnil] at hscan
      cases hscan
    have hlast := List.getLast?_eq_some_getLast hne
    rw [h.whole hmore _ hlast] at hlast
    exact scan_append_of_malformed hscan hlast r.stream.rest

/-- **A steady reader's next token is that of its whole input.**  Induction on the lines taken: a line
    more changes neither the input nor what stands at its front. -/
theorem readToken_of_steady {r : Reader} (h : r.Steady) : Delivers (scan r.input) r.readToken := by
  fun_induction readToken r with
  | case1 r token rest hscan =>
      -- a token: it is the same in the whole input
      rw [h.scan_input_of_token hscan]
      exact ⟨rfl, h.drop (scan_rest_suffix hscan), rfl⟩
  | case2 r line hscan =>
      rw [h.scan_input_of_malformed hscan]
      exact rfl
  | case3 r hscan blank failure hline =>
      -- a calm stream does not fail
      have hblank : blank.Steady := h.drop List.nil_suffix
      rw [(readLine_of_steady hblank).1] at hline
      cases hline
  | case4 r hscan blank hline =>
      -- only blanks, and the stream has ended
      have hblank : blank.Steady := h.drop List.nil_suffix
      obtain ⟨hanswer, hsteady, hinput⟩ := readLine_of_steady hblank
      rw [hanswer] at hline
      have hrest : r.stream.rest = [] := by simpa using hline
      have hfront : scan r.input = .blank := by
        rw [input, hrest, List.append_nil]
        exact hscan
      rw [hfront]
      exact ⟨rfl, hsteady, hinput.trans hrest⟩
  | case5 r hscan blank hline ih =>
      -- only blanks, which are thrown away before the next line
      have hblank : blank.Steady := h.drop List.nil_suffix
      obtain ⟨-, hsteady, hinput⟩ := readLine_of_steady hblank
      have hfront : scan r.input = scan blank.readLine.2.input := by
        rw [hinput]
        exact scan_append_of_blank hscan r.stream.rest
      rw [hfront]
      exact ih hsteady
  | case6 r hscan failure hline =>
      rw [(readLine_of_steady h).1] at hline
      cases hline
  | case7 r hscan hline =>
      -- an open quote, and the stream has ended
      rw [(readLine_of_steady h).1] at hline
      have hrest : r.stream.rest = [] := by simpa using hline
      have hfront : scan r.input = .unclosed := by
        rw [input, hrest, List.append_nil]
        exact hscan
      rw [hfront]
      exact rfl
  | case8 r hscan hline ih =>
      -- an open quote, which is scanned again with the next line
      obtain ⟨-, hsteady, hinput⟩ := readLine_of_steady h
      rw [← hinput]
      exact ih hsteady

/-- A token that a steady reader delivers stands at the front of its input. -/
theorem scan_of_readToken {r : Reader} {token : Token} (h : r.Steady)
    (htoken : r.readToken.1 = .ok (some token)) :
    scan r.input = .token token r.readToken.2.input ∧ r.readToken.2.Steady := by
  have hread := readToken_of_steady h
  cases hscan : scan r.input with
  | token found rest =>
      rw [hscan] at hread
      obtain ⟨hanswer, hsteady, hinput⟩ := hread
      rw [hanswer] at htoken
      injection htoken with hfound
      injection hfound with hfound
      exact ⟨by rw [hfound, hinput], hsteady⟩
  | blank =>
      rw [hscan] at hread
      cases hread.1.symm.trans htoken
  | unclosed =>
      rw [hscan] at hread
      cases hread.symm.trans htoken
  | malformed line =>
      rw [hscan] at hread
      cases hread.symm.trans htoken

/-- At the end of the stream only blanks are left of the input. -/
theorem tokenize_of_readToken_none {r : Reader} (h : r.Steady)
    (htoken : r.readToken.1 = .ok none) :
    tokenize r.input = ([], none) ∧ r.readToken.2.Steady ∧ r.readToken.2.input = [] := by
  have hread := readToken_of_steady h
  cases hscan : scan r.input with
  | token found rest =>
      rw [hscan] at hread
      cases hread.1.symm.trans htoken
  | blank =>
      rw [hscan] at hread
      exact ⟨tokenize_of_blank hscan, hread.2⟩
  | unclosed =>
      rw [hscan] at hread
      cases hread.symm.trans htoken
  | malformed line =>
      rw [hscan] at hread
      cases hread.symm.trans htoken

/-- A failure to deliver a token stops the tokens of the input. -/
theorem tokenize_of_readToken_error {r : Reader} {failure : Failure} (h : r.Steady)
    (htoken : r.readToken.1 = .error failure) : tokenize r.input = ([], some failure) := by
  have hread := readToken_of_steady h
  cases hscan : scan r.input with
  | token found rest =>
      rw [hscan] at hread
      cases hread.1.symm.trans htoken
  | blank =>
      rw [hscan] at hread
      cases hread.1.symm.trans htoken
  | unclosed =>
      rw [hscan] at hread
      rw [tokenize_of_unclosed hscan, Except.error.inj (hread.symm.trans htoken)]
  | malformed line =>
      rw [hscan] at hread
      rw [tokenize_of_malformed hscan, Except.error.inj (hread.symm.trans htoken)]

/-! ## Blocks -/

/-- What a reader that goes on with a draft answers, given the blocks of its whole input and how the
    stream ends behind them. -/
def Completes (whole : List Block × Option Failure) (answer : Except Failure Block × Reader) : Prop :=
  match answer.1 with
  | .error failure => whole = ([], some failure)
  | .ok [] => whole = ([], none) ∧ answer.2.Steady ∧ answer.2.input = []
  | .ok block =>
      answer.2.Steady ∧
        whole = (block :: (Draft.outcome {} (tokenize answer.2.input)).1,
          (Draft.outcome {} (tokenize answer.2.input)).2)

/-- **A steady reader's next block is that of its whole input.**  Induction on the tokens taken. -/
theorem complete_of_steady {draft : Draft} {r : Reader} (h : r.Steady) :
    Completes (draft.outcome (tokenize r.input)) (complete draft r) := by
  fun_induction complete draft r with
  | case1 draft r failure htoken =>
      show draft.outcome (tokenize r.input) = ([], some failure)
      rw [tokenize_of_readToken_error h htoken]
      rfl
  | case2 draft r htoken =>
      obtain ⟨htokens, hsteady, hinput⟩ := tokenize_of_readToken_none h htoken
      rw [htokens]
      by_cases hempty : draft.isEmpty = true
      · rw [if_pos hempty]
        refine ⟨?_, hsteady, hinput⟩
        rw [Draft.outcome_nil, Draft.ending, if_pos hempty]
      · rw [if_neg hempty]
        show draft.outcome ([], none) = ([], some .truncated)
        rw [Draft.outcome_nil, Draft.ending, if_neg hempty]
  | case3 draft r token htoken block hfeed =>
      obtain ⟨hscan, hsteady⟩ := scan_of_readToken h htoken
      have hwhole : draft.outcome (tokenize r.input)
          = (block :: (Draft.outcome {} (tokenize r.readToken.2.input)).1,
            (Draft.outcome {} (tokenize r.readToken.2.input)).2) := by
        rw [tokenize_of_token hscan]
        simp only [Draft.outcome, Draft.assemble_of_closed hfeed]
      cases block with
      | nil => exact absurd rfl (Draft.ne_nil_of_feed hfeed)
      | cons message others => exact ⟨hsteady, hwhole⟩
  | case4 draft r token htoken next hfeed ih =>
      obtain ⟨hscan, hsteady⟩ := scan_of_readToken h htoken
      have hwhole : draft.outcome (tokenize r.input)
          = next.outcome (tokenize r.readToken.2.input) := by
        rw [tokenize_of_token hscan]
        simp only [Draft.outcome, Draft.assemble_of_open hfeed]
      rw [hwhole]
      exact ih hsteady

/-- **The blocks that a steady reader delivers are those of its whole input**, and it ends as its input
    does.  Behind the last block of an input without failure nothing is left. -/
theorem blocks_of_steady {r : Reader} (h : r.Steady) :
    (r.blocks.1, r.blocks.2.1) = Draft.outcome {} (tokenize r.input)
      ∧ (r.blocks.2.1 = none → r.blocks.2.2.Steady ∧ r.blocks.2.2.input = []) := by
  fun_induction blocks r with
  | case1 r failure hblock =>
      have hread : Completes _ r.readBlock := complete_of_steady h
      rw [Completes, hblock] at hread
      exact ⟨hread.symm, fun hnone => absurd hnone (Option.some_ne_none _)⟩
  | case2 r hblock =>
      have hread : Completes _ r.readBlock := complete_of_steady h
      rw [Completes, hblock] at hread
      exact ⟨hread.1.symm, fun _ => hread.2⟩
  | case3 r block hblock hne others failure last hothers ih =>
      have hread : Completes _ r.readBlock := complete_of_steady h
      rw [Completes, hblock] at hread
      cases block with
      | nil => exact absurd rfl hne
      | cons message messages =>
          obtain ⟨hsteady, hwhole⟩ := hread
          obtain ⟨hsame, hclean⟩ := ih hsteady
          rw [hothers] at hsame hclean
          exact ⟨by rw [hwhole, ← hsame], hclean⟩

end Reader

end ModuleMapper.Wire
