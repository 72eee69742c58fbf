import Phrasebook.Rpc
import Phrasebook.Grpc.Client
import Phrasebook.Http.Site
/-!
# Sessions

One site takes acts of every kind, one after the other: calls at its desk, messages from a broker, calls
over gRPC and requests over HTTP. The desk, the limiter and the counts go on from one act to the next, and
the world around them may be another one each time. In a `Room` acts come together with calls that stop on
their way.
-/

set_option autoImplicit false

namespace Phrasebook.Session

/-- Something that a site takes. -/
inductive Act where
  /-- A call for the newest phrases. -/
  | recall
  /-- A call for a rendering. -/
  | render (q : Query)
  /-- A message from a broker. -/
  | rpc (handler : String) (payload : Bytes)
  /-- A call for the newest phrases over gRPC, through a client or at the methods themselves. -/
  | grpcRecall (via : Option Grpc.Channel)
  /-- A call for a rendering over gRPC. -/
  | grpcRender (via : Option Grpc.Channel) (q : Query)
  /-- A request over gRPC that no client has made, to a server with a guard. -/
  | grpcRequest (refusal : Option String) (limits : Grpc.Limits) (r : Grpc.Request)
  /-- A request over HTTP. -/
  | http (x : Http.Surroundings) (r : Http.Request)

/-- What comes of an act. -/
inductive Answer where
  | recalled (o : Outcome History)
  | rendered (o : Outcome Phrase)
  | replied (r : Except Panic Rpc.Reply)
  | grpcRecalled (r : Except Panic (Except Grpc.Status (List Phrase)))
  | grpcRendered (r : Except Panic (Except Grpc.Status Phrase))
  | grpcResponded (r : Except Panic (Except Grpc.Status Grpc.Response))
  | responded (r : Http.Response)

/-- An act that is over. -/
structure Reaction where
  /-- What came of it. -/
  answer : Answer
  /-- The site afterwards. -/
  site : Http.Site
  /-- The uses of facilities. -/
  calls : List FacilityUse
  /-- What was logged. -/
  log : List LogLine

/-- The end of a call at the desk. -/
def ofServed {α : Type} (site : Http.Site) (answer : Outcome α → Answer) (s : Served α) : Reaction :=
  ⟨answer s.outcome, { site with desk := s.desk }, facilityUses s.events,
    (cacheNotices s.events).map CacheNotice.line⟩

/-- The end of a call over gRPC. -/
def ofAnswered {α : Type} (site : Http.Site) (answer : Except Panic (Except Grpc.Status α) → Answer)
    (a : Grpc.Answered α) : Reaction :=
  ⟨answer a.result, { site with desk := a.desk }, a.calls, a.notices.map Grpc.Notice.line⟩

/-- What a site makes of an act. -/
def react (w : World) (site : Http.Site) : Act → Reaction
  | .recall => ofServed site .recalled (site.desk.recall w)
  | .render q => ofServed site .rendered (site.desk.render w q)
  | .rpc handler payload =>
    let h := Rpc.dispatch w site.desk handler payload
    ⟨.replied h.reply, { site with desk := h.desk }, h.calls, h.notices.map Rpc.Notice.line⟩
  | .grpcRecall none => ofAnswered site .grpcRecalled (Grpc.getHistory w site.desk)
  | .grpcRecall (some c) => ofAnswered site .grpcRecalled (c.getHistory w site.desk)
  | .grpcRender none q => ofAnswered site .grpcRendered (Grpc.translate w site.desk q)
  | .grpcRender (some c) q => ofAnswered site .grpcRendered (c.translate w site.desk q)
  | .grpcRequest refusal limits r =>
    ofAnswered site .grpcResponded (Grpc.guarded refusal w limits site.desk r)
  | .http x r =>
    let e := site.respond w x r
    ⟨.responded e.response, e.site, e.calls, e.notices.map Http.Notice.line⟩

/-- A session: acts, each in its world. -/
def run : Http.Site → List (World × Act) → List Reaction
  | _, [] => []
  | site, (w, act) :: rest =>
    let e := react w site act
    e :: run e.site rest

/-! ## Calls that stop on their way

In a room the world stays as it is until somebody changes it, and a call at the desk may stop on its way, so
that other things happen before it goes on. -/

/-- A call that has stopped on its way. -/
structure Halted where
  /-- The name by which it is told to go on. -/
  id : String
  /-- Where it stands. -/
  stage : Book.Stage
  /-- After the use of which facilities it stops. -/
  stops : List Facility

/-- A site with what is around it. -/
structure Room where
  /-- The site. -/
  site : Http.Site
  /-- The world. -/
  world : World
  /-- The calls that have stopped on their way. -/
  halted : List Halted := []

/-- What happens in a room. -/
inductive Move where
  /-- An act on the site. -/
  | act (a : Act)
  /-- Some facilities begin to fail or to break down, or to work again. -/
  | change (failures : List (Facility × Option Chain)) (breakdowns : List (Facility × Option Panic) := [])
  /-- A call is begun at the desk, for the newest phrases or for the rendering of a query. -/
  | start (id : String) (q : Option Query) (stops : List Facility)
  /-- A call goes on. -/
  | resume (id : String)
  /-- Somebody looks at what is kept. -/
  | look

/-- What comes of a move. -/
inductive Result where
  /-- Nothing. -/
  | done
  /-- The answer to an act. -/
  | answered (a : Answer)
  /-- Where a call stands. -/
  | stands (s : Book.Stage)
  /-- A call has broken down. -/
  | broke (p : Panic)
  /-- There is no such call. -/
  | noCall
  /-- The phrases, oldest first, what the cache holds, and how many clients have a bucket. -/
  | kept (records : List Phrase) (cached : Option History) (clients : Nat)

/-- A move that has been made. -/
structure Report where
  /-- What came of it. -/
  result : Result
  /-- The uses of facilities. -/
  calls : List FacilityUse := []
  /-- What was logged. -/
  log : List LogLine := []

/-- The world with some facilities failing or breaking down, or working again. -/
def changeWorld (w : World) (failures : List (Facility × Option Chain))
    (breakdowns : List (Facility × Option Panic)) : World where
  fails f := (failures.lookup f).getD (w.fails f)
  panics f := (breakdowns.lookup f).getD (w.panics f)
  brings := w.brings

namespace Room

/-- Lets a call go on to its next stop or its end, unless a facility breaks down on the way. Only at a desk with
a book are calls followed on their way. -/
def proceed (room : Room) (c : Halted) : Report × Room :=
  match room.site.desk with
  | .book b =>
    -- a call also stops at a facility that breaks down, which is where it ends
    let stops (f : Facility) : Bool := c.stops.contains f || (room.world.panics f).isSome
    let r := Book.advance room.world stops b c.stage
    let breakdown? := r.stage.breakdown? room.world
    let others := room.halted.filter (·.id != c.id)
    (⟨(breakdown?.map .broke).getD (.stands r.stage), facilityUses r.events,
        (cacheNotices r.events).map CacheNotice.line⟩,
      { room with
        site := { room.site with desk := .book r.book }
        halted :=
          if r.stage.isDone || breakdown?.isSome then others else { c with stage := r.stage } :: others })
  | .fixed .. => (⟨.done, [], []⟩, room)

/-- What is kept. -/
def kept (room : Room) : Result :=
  match room.site.desk with
  | .book b => .kept b.records b.cached room.site.limiter.size
  | .fixed .. => .kept [] none room.site.limiter.size

/-- Makes a move. -/
def step (room : Room) : Move → Report × Room
  | .act a =>
    let r := react room.world room.site a
    (⟨.answered r.answer, r.calls, r.log⟩, { room with site := r.site })
  | .change failures breakdowns =>
    (⟨.done, [], []⟩, { room with world := changeWorld room.world failures breakdowns })
  | .start id q stops => room.proceed ⟨id, (q.map Book.Stage.render).getD .recall, stops⟩
  | .resume id =>
    match room.halted.find? (·.id == id) with
    | some c => room.proceed c
    | none => (⟨.noCall, [], []⟩, room)
  | .look => (⟨room.kept, [], []⟩, room)

end Room

end Phrasebook.Session
