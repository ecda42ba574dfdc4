import SqlWire.Proofs.Reply
import SqlWire.Proofs.Session.Lifecycle

/-!
# What an execution comes to

An execution is one request whose answer is read as a reply (`Session.replied`). If there is a reply
the execution succeeds, with the columns that the reply describes or else those that were
remembered, and what it describes is remembered (`execute_of_replied`). If there is none the
execution does not succeed and is remembered nowhere (`execute_of_not_replied`).
-/

namespace SqlWire

namespace Session

variable {s s' : Session} {handle : Option Handle} {query : String} {fetchSize : UInt32}
  {reply : ExecuteReply}

/-- An exchange leaves all that is remembered of shapes. -/
theorem Exchanges.shapes_eq {r : Request} {response : Response} (h : Exchanges r response s s') :
    s'.shapes = s.shapes := by
  obtain ⟨-, -, -, -, -, -, -, rfl⟩ := h
  rfl

/-- No request touches what is remembered of shapes. -/
theorem shapes_request (r : Request) (s : Session) : (request r s).2.shapes = s.shapes := by
  cases hb : s.broken with
  | true => rw [request_of_broken hb]
  | false =>
    rcases request_cases hb r with ⟨response, s', exchange, heq⟩ | ⟨-, c, hs'⟩
    · rw [heq]
      exact exchange.shapes_eq
    · rw [hs']

/-- Asking leaves all that is remembered of shapes. -/
theorem shapes_ask {α : Type} (r : Request) (reader : Wire.Reader α) (s : Session) :
    (ask r reader s).2.shapes = s.shapes := by
  rw [ask_state, shapes_request]

/-- The reply to an execution, and the session when it has come. -/
def replied (s : Session) (handle : Option Handle) (query : String) (fetchSize : UInt32) :
    Outcome ExecuteReply × Session :=
  ask (s.executeRequest handle query fetchSize)
    (ExecuteReply.read s.charset ((s.shapes.find? query).map List.length)) s

end Session

/-- What is remembered once a reply has come to a query. -/
def ExecuteReply.remembered (reply : ExecuteReply) (query : String) (shapes : ShapeCache) :
    ShapeCache :=
  match reply.columns with
  | some columns => shapes.remember query columns
  | none => shapes

namespace Session

variable {s s' : Session} {handle : Option Handle} {query : String} {fetchSize : UInt32}
  {reply : ExecuteReply}

/-- The result of a query is its reply with the columns of the reply, or else those that are
remembered. -/
theorem execute_of_replied (h : s.replied handle query fetchSize = (.done reply, s')) :
    execute handle query fetchSize s = (.done (reply, reply.columns.or (s.shapes.find? query)),
      { s' with shapes := reply.remembered query s.shapes }) := by
  have same : s'.shapes = s.shapes := by
    have kept := shapes_ask (s.executeRequest handle query fetchSize)
      (ExecuteReply.read s.charset ((s.shapes.find? query).map List.length)) s
    rwa [show ask _ _ s = _ from h] at kept
  simp only [execute, Action.get_bind]
  refine (Action.bind_of_done h).trans ?_
  rw [ExecuteReply.remembered, ← same]
  cases reply.columns <;> rfl

/-- A query without a reply leaves what the request has left. -/
theorem execute_of_not_replied (h : (s.replied handle query fetchSize).1.isDone = false) :
    (execute handle query fetchSize s).1.isDone = false ∧
      (execute handle query fetchSize s).2 = (s.replied handle query fetchSize).2 := by
  simp only [execute, Action.get_bind]
  exact (Action.bind_of_not_done h).symm

/-- A query succeeds exactly if it is replied to. -/
theorem execute_eq_done_iff {answer : ExecuteReply × Option (List Descriptor)} :
    execute handle query fetchSize s = (.done answer, s') ↔
      ∃ reply s₁, s.replied handle query fetchSize = (.done reply, s₁) ∧
        answer = (reply, reply.columns.or (s.shapes.find? query)) ∧
        s' = { s₁ with shapes := reply.remembered query s.shapes } := by
  constructor
  · intro h
    cases hr : s.replied handle query fetchSize with
    | mk outcome s₁ =>
      cases outcome with
      | done reply =>
        rw [execute_of_replied hr] at h
        cases h
        exact ⟨reply, s₁, rfl, rfl, rfl⟩
      | failed | suspended =>
        have undone := (execute_of_not_replied (by rw [hr]; rfl)).1
        rw [h] at undone
        cases undone
  · rintro ⟨reply, s₁, hr, rfl, rfl⟩
    exact execute_of_replied hr

/-- The rows of a reply are cut by the columns that the execution gives. -/
theorem allOf_of_replied (h : s.replied handle query fetchSize = (.done reply, s'))
    {rows : List Row} (hrows : reply.rows = some rows) :
    ∃ columns, reply.columns.or (s.shapes.find? query) = some columns ∧
      Row.AllOf columns.length rows := by
  obtain ⟨width, cut, all⟩ := yields_ask (yields_executeReply _ _) h rows hrows
  rw [ExecuteReply.width?, ← Option.map_or, Option.map_eq_some_iff] at cut
  obtain ⟨columns, found, rfl⟩ := cut
  exact ⟨columns, found, all⟩

end Session

namespace Statement

variable {st st' : Statement} {text : String}

/-- A run that succeeds is an execution that succeeds. -/
theorem exists_of_run {reply : ExecuteReply} {columns : List Descriptor}
    (h : run text st = (.done (reply, columns), st')) : st.closed = false ∧ ∃ s,
      st.session.replied st.handle text st.fetchSize = (.done reply, s) ∧
      columns = (reply.columns.or (st.session.shapes.find? text)).getD [] ∧
      st'.session = { s with shapes := reply.remembered text st.session.shapes } := by
  simp only [run, Action.get_bind] at h
  split at h
  · cases h
  · next opened =>
    obtain ⟨⟨reply', columns'⟩, st₁, executed, h⟩ := Action.bind_eq_done_iff.1 h
    obtain ⟨s, hexec, rfl⟩ := onSession_eq_done_iff.1 executed
    obtain ⟨handle, st₂, adopted, h⟩ := Action.bind_eq_done_iff.1 h
    obtain ⟨reply'', s₁, replied, answer, rfl⟩ := Session.execute_eq_done_iff.1 hexec
    cases answer
    rw [Action.ofExcept_apply, Prod.mk.injEq] at adopted
    obtain ⟨-, rfl⟩ := adopted
    cases h
    exact ⟨by simpa using opened, s₁, replied, rfl, rfl⟩

end Statement

end SqlWire
