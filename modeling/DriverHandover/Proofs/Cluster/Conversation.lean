import DriverHandover.Proofs.Cluster.Requests

/-!
# What a server answered in a session

The record of a session tells which requests were made and how they failed. Requests are the only
way to reach the server, so the record and the state in which the server was at its start tell also
what all the answers were.

## Main definitions

* `Inquiry` – a request with the answer to it.
* `Session.answers`, `Session.conversation` – the answers to the requests of a record.
* `Session.heard` – the state of a server after some requests.
* `Session.Talks` – a session goes on with inquiries.

## Main statements

* `Session.Talks.conversation_eq` – the inquiries of a session can be read off its record.
* `Session.Talks.answer_eq` – each answer is the one of the server after all that was asked before.
-/

namespace DriverHandover

/-- A request that was made, with the answer to it. -/
structure Inquiry where
  moment : Instant
  request : ApiRequest
  answer : Except ApiError request.Answer

/-- How an inquiry is recorded. -/
def Inquiry.exchange (i : Inquiry) : Exchange :=
  ⟨i.moment, i.request, Session.failureOf i.answer⟩

namespace Session

variable {ω : Type} {api : ApiServer ω} {s later latest : Session ω} {talk more : List Inquiry}

/-- What a server answers to requests, of which the first one stands in front. -/
def answers (api : ApiServer ω) : ω → List Exchange → List Inquiry
  | _, [] => []
  | server, e :: rest =>
    let (answer, server) := api e.request e.moment server
    ⟨e.moment, e.request, answer⟩ :: answers api server rest

/-- The state of a server after some requests. -/
def heard (api : ApiServer ω) : ω → List Exchange → ω
  | server, [] => server
  | server, e :: rest => heard api (api e.request e.moment server).2 rest

theorem answers_append (server : ω) (past more : List Exchange) :
    answers api server (past ++ more) =
      answers api server past ++ answers api (heard api server past) more := by
  induction past generalizing server with
  | nil => rfl
  | cons e rest ih => exact congrArg (_ :: ·) (ih _)

theorem length_answers (server : ω) (past : List Exchange) :
    (answers api server past).length = past.length := by
  induction past generalizing server with
  | nil => rfl
  | cons e rest ih => exact congrArg (· + 1) (ih _)

/-- All that was asked and answered from `s` on, if the record of `later` begins there. -/
def conversation (api : ApiServer ω) (s later : Session ω) : List Inquiry :=
  answers api s.server later.exchanges.reverse

/-- A session goes on with inquiries: they are recorded, and the server gave their answers. -/
structure Talks (api : ApiServer ω) (s : Session ω) (talk : List Inquiry) (later : Session ω) :
    Prop where
  exchanges : later.exchanges = (talk.map Inquiry.exchange).reverse ++ s.exchanges
  answers (more : List Exchange) :
    answers api s.server (talk.map Inquiry.exchange ++ more) = talk ++ answers api later.server more

theorem Talks.refl (s : Session ω) : Talks api s [] s :=
  ⟨rfl, fun _ => rfl⟩

theorem talks_ask (request : ApiRequest) (s : Session ω) :
    Talks api s [⟨s.now, request, (ask api request s).1⟩] (ask api request s).2 :=
  ⟨rfl, fun _ => rfl⟩

theorem Talks.trans (h : Talks api s talk later) (h' : Talks api later more latest) :
    Talks api s (talk ++ more) latest := by
  constructor
  · rw [h'.exchanges, h.exchanges, List.map_append, List.reverse_append, List.append_assoc]
  · intro rest
    rw [List.map_append, List.append_assoc, h.answers, h'.answers, List.append_assoc]

theorem Talks.conversation_eq (h : Talks api s talk later) (hstart : s.exchanges = []) :
    conversation api s later = talk := by
  have hanswers := h.answers []
  rw [List.append_nil] at hanswers
  rw [conversation, h.exchanges, hstart, List.append_nil, List.reverse_reverse, hanswers]
  exact List.append_nil talk

theorem Talks.answers_eq (h : Talks api s talk later) :
    Session.answers api s.server (talk.map Inquiry.exchange) = talk := by
  have hanswers := h.answers []
  rwa [List.append_nil, Session.answers, List.append_nil] at hanswers

/-- Each answer is the one of the server after all that was asked before. -/
theorem Talks.answer_eq {past rest : List Inquiry} {i : Inquiry}
    (h : Talks api s (past ++ i :: rest) later) :
    Session.answers api s.server (past.map Inquiry.exchange) = past ∧
      (api i.request i.moment (heard api s.server (past.map Inquiry.exchange))).1 = i.answer := by
  have hall := h.answers_eq
  rw [List.map_append, answers_append] at hall
  obtain ⟨hpast, hrest⟩ := List.append_inj hall (by rw [length_answers, List.length_map])
  refine ⟨hpast, ?_⟩
  obtain ⟨moment, request, answer⟩ := i
  have hhead := (List.cons.inj hrest).1
  rw [Inquiry.mk.injEq] at hhead
  exact eq_of_heq hhead.2.2

end Session

end DriverHandover
