import ModuleMapper.Request
import ModuleMapper.Response
import ModuleMapper.Workspace

/-!
# Sessions — answering requests

  A session starts by waiting for a handshake. Until there was one, every other request is turned
  away; the handshake says which client is served, and a later one may say something else.

  A request that cannot be met is answered with the reason. Only trouble on the wire, and a message
  without words, leave a request without an answer: then the rest of its block is not looked at.
-/

namespace ModuleMapper

/-- How far a session has come. -/
inductive Phase where
  | awaitingHandshake
  | ready
  /-- The client has closed the stream. -/
  | closed
  /-- A failure has ended the session. -/
  | failed
  deriving Repr, DecidableEq

/-- What a session remembers. -/
structure Session (σ : Type) where
  workspace : Workspace σ
  phase : Phase := .awaitingHandshake
  /-- Who is served, by the last handshake. -/
  client : Client := {}
  deriving Repr, DecidableEq

namespace Session

variable {σ : Type}

/-- Take over what a handshake says. -/
def greeted (s : Session σ) (client : Client) : Session σ :=
  { s with phase := .ready, client }

/-- Turn a request away as long as there was no handshake. -/
def whenReady (s : Session σ) (serve : Session σ → Except Failure Response × Session σ) :
    Except Failure Response × Session σ :=
  if s.phase = .ready then serve s else (.ok (.error "message before valid handshake"), s)

/-- A path or the reason why there is none, as an answer. Trouble on the wire is no answer. -/
def replyOf : Except Failure Path → Except Failure Response
  | .ok path => .ok (.pathName path)
  | .error failure =>
    if failure.endsSession then .error failure else .ok (.error failure.message)

/-- The answer where the repository is. -/
def serveRepository (mapper : Mapper σ) (s : Session σ) : Except Failure Response × Session σ :=
  let (outcome, workspace) := mapper.provideRepository s.workspace
  (replyOf outcome, { s with workspace })

/-- The answer where a module's artifact will lie. -/
def serveExport (mapper : Mapper σ) (name : Word) (s : Session σ) :
    Except Failure Response × Session σ :=
  (replyOf (mapper.pathOf s.client name), s)

/-- The answer where a module's artifact lies, once it is up to date. -/
def serveImport (mapper : Mapper σ) (name : Word) (s : Session σ) :
    Except Failure Response × Session σ :=
  let (outcome, workspace) := mapper.importModule s.client name s.workspace
  (replyOf outcome, { s with workspace })

/-- Serve a request. -/
def serve (mapper : Mapper σ) (request : Request) (s : Session σ) :
    Except Failure Response × Session σ :=
  match request with
  | .hello _ compiler build => (.ok .acknowledgment, s.greeted { compiler, build })
  | .malformed .hello => (.ok (.error "unsupported handshake format"), s)
  | .repository => s.whenReady (serveRepository mapper)
  | .moduleExport name => s.whenReady (serveExport mapper name)
  | .moduleImport name => s.whenReady (serveImport mapper name)
  | .malformed kind => s.whenReady fun s => (.ok (.error ("invalid " ++ kind.tag ++ " message")), s)
  | .unknown tag =>
    s.whenReady fun s => (.ok (.error ("unsupported message type " ++ Text.quoteBytes tag)), s)

/-- Answer a message. -/
def answer (mapper : Mapper σ) (message : Message) (s : Session σ) :
    Except Failure Response × Session σ :=
  match Request.ofMessage? message with
  | none => (.error .emptyMessage, s)
  | some request => serve mapper request s

/-- Answer the messages of a block, in order, up to the first that gets no answer. -/
def answerAll (mapper : Mapper σ) : Block → Session σ → Except Failure Block × Session σ
  | [], s => (.ok [], s)
  | message :: others, s =>
    match answer mapper message s with
    | (.error failure, s) => (.error failure, s)
    | (.ok response, s) =>
      match answerAll mapper others s with
      | (.error failure, s) => (.error failure, s)
      | (.ok replies, s) => (.ok (response.toMessage :: replies), s)

end Session

end ModuleMapper
