import ModuleMapper.Session

/-!
# Answering — handshakes, and one message after another

  A message is a handshake if it has the tag and enough words for one (`Message.isGreeting`), which is
  when `Request.ofMessage?` makes a `hello` of it.

  A block is answered message by message: `answerAll_of_ok` and `answerAll_of_error` say what the first
  message does to the rest, and `answerAll_append` what a front that is answered does.
-/

namespace ModuleMapper

/-! ## Handshakes -/

/-- Is the message a handshake: the tag, a version, a compiler and a build, and perhaps more words? -/
def Message.isGreeting (message : Message) : Bool :=
  message.tag? == some (Bytes.ofString "HELLO") && decide (4 ≤ message.length)

namespace Request

theorem ofTag?_hello : RequestKind.ofTag? (Bytes.ofString "HELLO") = some .hello := by decide

/-- Only its own tag makes a request a handshake. -/
theorem eq_of_ofTag?_hello {tag : Word} (h : RequestKind.ofTag? tag = some .hello) :
    tag = Bytes.ofString "HELLO" := by
  have hfound := List.find?_some h
  exact eq_of_beq hfound

/-- What a message asks, if it is a handshake. -/
theorem ofMessage?_of_isGreeting {message : Message} (h : message.isGreeting = true) :
    ∃ version compiler build, ofMessage? message = some (.hello version compiler build) := by
  simp only [Message.isGreeting, Message.tag?, Bool.and_eq_true, beq_iff_eq, decide_eq_true_eq] at h
  obtain ⟨htag, hlength⟩ := h
  match message, htag, hlength with
  | tag :: version :: compiler :: build :: more, htag, _ =>
      injection htag with htag
      refine ⟨version, compiler, build, ?_⟩
      rw [ofMessage?, htag, ofTag?_hello]
      rfl

/-- A handshake is of its kind and has three arguments. -/
theorem eq_hello_of_ofKind {kind : RequestKind} {arguments : List Word}
    {version compiler build : Word} (h : ofKind kind arguments = .hello version compiler build) :
    kind = .hello ∧ 3 ≤ arguments.length := by
  unfold ofKind at h
  split at h
  · exact ⟨rfl, by simp⟩
  · cases h
  · cases h
  · cases h
  · cases h

/-- What a message asks, if it is no handshake. -/
theorem ofMessage?_of_not_isGreeting {message : Message} (hne : message ≠ [])
    (h : message.isGreeting = false) :
    ∃ request, ofMessage? message = some request
      ∧ ∀ version compiler build, request ≠ .hello version compiler build := by
  cases message with
  | nil => exact absurd rfl hne
  | cons tag arguments =>
      rw [ofMessage?]
      cases hkind : RequestKind.ofTag? tag with
      | none => exact ⟨_, rfl, fun _ _ _ => Request.noConfusion⟩
      | some kind =>
          refine ⟨_, rfl, ?_⟩
          intro version compiler build heq
          obtain ⟨rfl, hlength⟩ := eq_hello_of_ofKind heq
          rw [eq_of_ofTag?_hello hkind] at h
          simp only [Message.isGreeting, Message.tag?, List.head?_cons, beq_self_eq_true,
            Bool.true_and, decide_eq_false_iff_not, List.length_cons] at h
          omega

theorem kind?_ofKind (kind : RequestKind) (arguments : List Word) :
    (ofKind kind arguments).kind? = some kind := by
  unfold ofKind
  split <;> rfl

/-- A request is of the kind of handshakes if its message has their tag, whatever else it has. -/
theorem kind?_eq_hello_iff {message : Message} {request : Request}
    (h : ofMessage? message = some request) :
    request.kind? = some .hello ↔ message.tag? = some (Bytes.ofString "HELLO") := by
  cases message with
  | nil => cases h
  | cons tag arguments =>
      show _ ↔ some tag = _
      rw [ofMessage?] at h
      cases hkind : RequestKind.ofTag? tag with
      | none =>
          rw [hkind] at h
          injection h with hunknown
          subst hunknown
          refine iff_of_false (Option.some_ne_none _).symm ?_
          intro htag
          rw [Option.some.inj htag, ofTag?_hello] at hkind
          cases hkind
      | some kind =>
          rw [hkind] at h
          injection h with hknown
          subst hknown
          rw [kind?_ofKind]
          constructor
          · intro hhello
            rw [eq_of_ofTag?_hello (hkind.trans hhello)]
          · intro htag
            rw [← hkind, Option.some.inj htag, ofTag?_hello]

end Request

/-! ## Blocks -/

namespace Session

variable {σ : Type} {mapper : Mapper σ} {message : Message} {s : Session σ}

/-- Behind a message that is answered, the rest of its block is answered. -/
theorem answerAll_of_ok {response : Response} (h : (answer mapper message s).1 = .ok response)
    (others : Block) :
    answerAll mapper (message :: others) s
      = ((answerAll mapper others (answer mapper message s).2).1.map (response.toMessage :: ·),
        (answerAll mapper others (answer mapper message s).2).2) := by
  have hanswer : answer mapper message s = (.ok response, (answer mapper message s).2) :=
    Prod.ext h rfl
  rw [answerAll, hanswer]
  simp only
  cases hothers : (answerAll mapper others (answer mapper message s).2).1 with
  | error failure =>
      rw [show answerAll mapper others _ = (.error failure, _) from Prod.ext hothers rfl]
      rfl
  | ok replies =>
      rw [show answerAll mapper others _ = (.ok replies, _) from Prod.ext hothers rfl]
      rfl

/-- A message that gets no answer ends its block. -/
theorem answerAll_of_error {failure : Failure} (h : (answer mapper message s).1 = .error failure)
    (others : Block) :
    answerAll mapper (message :: others) s = (.error failure, (answer mapper message s).2) := by
  have hanswer : answer mapper message s = (.error failure, (answer mapper message s).2) :=
    Prod.ext h rfl
  rw [answerAll, hanswer]

/-- A block that is answered is one whose messages all are. -/
theorem answers_of_answerAll {others replies : Block}
    (h : (answerAll mapper (message :: others) s).1 = .ok replies) :
    ∃ response rest, (answer mapper message s).1 = .ok response
      ∧ (answerAll mapper others (answer mapper message s).2).1 = .ok rest
      ∧ response.toMessage :: rest = replies := by
  cases hanswer : (answer mapper message s).1 with
  | error failure =>
      rw [answerAll_of_error hanswer] at h
      cases h
  | ok response =>
      rw [answerAll_of_ok hanswer] at h
      cases hothers : (answerAll mapper others (answer mapper message s).2).1 with
      | error failure =>
          rw [hothers] at h
          cases h
      | ok rest =>
          rw [hothers] at h
          injection h with hreplies
          exact ⟨response, rest, rfl, rfl, hreplies⟩

/-- Behind messages that are answered, the others are answered as a block of their own. -/
theorem answerAll_append {first replies : Block} (h : (answerAll mapper first s).1 = .ok replies)
    (second : Block) :
    answerAll mapper (first ++ second) s
      = ((answerAll mapper second (answerAll mapper first s).2).1.map (replies ++ ·),
        (answerAll mapper second (answerAll mapper first s).2).2) := by
  induction first generalizing s replies with
  | nil =>
      injection h with hnil
      rw [← hnil]
      refine Prod.ext ?_ rfl
      show _ = Except.map id _
      rw [Except.map_id]
      rfl
  | cons message others ih =>
      obtain ⟨response, rest, hanswer, hothers, rfl⟩ := answers_of_answerAll h
      rw [List.cons_append, answerAll_of_ok hanswer, answerAll_of_ok hanswer, ih hothers]
      refine Prod.ext ?_ rfl
      simp only
      cases (answerAll mapper second (answerAll mapper others (answer mapper message s).2).2).1 with
      | error failure => rfl
      | ok more => rfl

/-- A front of a block that is answered is answered. -/
theorem front_of_answerAll {first second replies : Block}
    (h : (answerAll mapper (first ++ second) s).1 = .ok replies) :
    ∃ front, (answerAll mapper first s).1 = .ok front := by
  induction first generalizing s replies with
  | nil => exact ⟨[], rfl⟩
  | cons message others ih =>
      obtain ⟨response, rest, hanswer, hothers, -⟩ := answers_of_answerAll h
      obtain ⟨front, hfront⟩ := ih hothers
      refine ⟨response.toMessage :: front, ?_⟩
      rw [answerAll_of_ok hanswer, hfront]
      rfl

/-- A block that is answered gets a reply for every message. -/
theorem length_of_answerAll {block replies : Block} (h : (answerAll mapper block s).1 = .ok replies) :
    replies.length = block.length := by
  induction block generalizing s replies with
  | nil =>
      injection h with hnil
      rw [← hnil]
  | cons message others ih =>
      obtain ⟨response, rest, -, hothers, rfl⟩ := answers_of_answerAll h
      rw [List.length_cons, List.length_cons, ih hothers]

end Session

end ModuleMapper
