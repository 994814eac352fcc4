import Loyalty.Proofs.Database.Tables
import Loyalty.Store.Database.Calls

/-!
# Loyalty.Proofs.Database.Server

Clients of one database server, each in the middle of a call of the stores.

The server holds the lock of a row from the statement that takes it until the
transaction ends, so a statement that another transaction keeps from its row is
not carried out before.  What a transaction did is seen by others only when it
is committed.  Everything else may go wrong at any time: a statement may be
refused for any reason, its reply may be lost after it was carried out — the end
of a transaction included — and a transaction may be undone because its
connection is gone, whether or not its client ever notices.  A client that is
never heard of again is one that takes no more steps, and calls that a program
makes one after another are as many clients.
-/

namespace Loyalty.Database.Server

/-! ## states -/

/-- A connection as the server has it. -/
inductive Connection
  /-- Outside of transactions: every statement is one of its own. -/
  | idle
  | within (t : Transaction)
  /-- Within a transaction that was undone because a statement was refused. -/
  | aborted
  | closed

namespace Connection

/-- The users whose rows are locked. -/
def locks : Connection → List UserId
  | within t => t.locks
  | idle | aborted | closed => []

/-- What is left of a connection after a statement was refused. -/
def refused : Connection → Connection
  | within _ => aborted
  | c => c

end Connection

/-- A call of the stores, what is left of it, and its connection. -/
structure Client where
  call : StoreCall
  rest : Session call.Value
  connection : Connection

/-- A server and its clients between two steps. -/
structure State where
  tables : Tables
  clients : ℕ → Client

/-- Empty tables, and calls that have not begun. -/
def start (calls : ℕ → StoreCall) : State where
  tables := .empty
  clients i := { call := calls i, rest := Database.call (calls i), connection := .idle }

/-! ## steps -/

/-- A client hears what the server says, or of a failure instead. -/
def Heard {α : Type} (said : α) (r : Except Failure α) : Prop := r = .ok said ∨ ∃ e, r = .error e

/-- Nobody else has locked the row that a statement is about. -/
def State.Free (s : State) (i : ℕ) (st : Statement) : Prop :=
  ∀ u ∈ st.row?, ∀ j, j ≠ i → u ∉ (s.clients j).connection.locks

/-- How a question of a client may be answered over its connection, and what tables and connection
come to. -/
inductive Answers (s : State) (i : ℕ) :
    Connection → (q : Question) → q.Answer → Tables → Connection → Prop
  | start {r} (hheard : Heard () r) : Answers s i .idle .start r s.tables (.within .empty)
  /-- A statement within a transaction. -/
  | within {t t' : Transaction} {st : Statement} {now : Instant} {reply : Reply} {r}
      (hfree : s.Free i st) (hexecute : execute i now s.tables t st = some (reply, t'))
      (hheard : Heard reply r) :
      Answers s i (.within t) (.run st) r s.tables (.within t')
  /-- A statement that is a transaction of its own. -/
  | alone {t : Transaction} {st : Statement} {now : Instant} {reply : Reply} {r}
      (hfree : s.Free i st) (hexecute : execute i now s.tables .empty st = some (reply, t))
      (hheard : Heard reply r) :
      Answers s i .idle (.run st) r (s.tables.publish t) .idle
  | commit {t : Transaction} {r} (hheard : Heard () r) :
      Answers s i (.within t) .commit r (s.tables.publish t) .idle
  /-- The end of a transaction that was undone is acknowledged like any other. -/
  | commitAborted {r} (hheard : Heard () r) : Answers s i .aborted .commit r s.tables .idle
  | rollback {c : Connection} {r} (hheard : Heard () r) : Answers s i c .rollback r s.tables .idle
  | abandon (c : Connection) : Answers s i c .abandon () s.tables .idle
  | fresh (c : Connection) (id : Uuid) : Answers s i c .fresh id s.tables c
  | refuseStart (c : Connection) (e : Failure) : Answers s i c .start (.error e) s.tables c.refused
  | refuse (c : Connection) (st : Statement) (e : Failure) :
      Answers s i c (.run st) (.error e) s.tables c.refused
  | refuseCommit (c : Connection) (e : Failure) :
      Answers s i c .commit (.error e) s.tables c.refused
  | refuseRollback (c : Connection) (e : Failure) :
      Answers s i c .rollback (.error e) s.tables c.refused

/-- The state after a client's question was answered. -/
def State.after (s : State) (i : ℕ) (tables : Tables) (client : Client) : State where
  tables := tables
  clients := Function.update s.clients i client

/-- One step of a server and its clients. -/
inductive Step (s : State) : State → Prop
  | answer {i : ℕ} {q : Question} {next : q.Answer → Session (s.clients i).call.Value}
      {r : q.Answer} {tables : Tables} {c : Connection} (hasks : (s.clients i).rest = .ask q next)
      (hanswers : Answers s i (s.clients i).connection q r tables c) :
      Step s (s.after i tables { call := (s.clients i).call, rest := next r, connection := c })
  /-- A connection is gone, and with it the transaction. -/
  | drop (i : ℕ) : Step s (s.after i s.tables { s.clients i with connection := .closed })

/-- A client that is known takes a step. -/
theorem Step.of_client {s : State} {i : ℕ} {call : StoreCall} {q : Question}
    {next : q.Answer → Session call.Value} {r : q.Answer} {tables : Tables} {c c' : Connection}
    (hclient : s.clients i = ⟨call, .ask q next, c⟩) (hanswers : Answers s i c q r tables c') :
    Step s (s.after i tables ⟨call, next r, c'⟩) := by
  have hstep : ∀ client, s.clients i = client → ∀ next : q.Answer → Session client.call.Value,
      client.rest = .ask q next → Answers s i client.connection q r tables c' →
        Step s (s.after i tables ⟨client.call, next r, c'⟩) := by
    rintro _ rfl next hasks hanswers
    exact .answer hasks hanswers
  exact hstep _ hclient next rfl hanswers

theorem State.after_self {s : State} {i : ℕ} {client : Client} (hclient : s.clients i = client) :
    s.after i s.tables client = s := by
  simp [State.after, ← hclient]

/-- A client that took one step after another took its last. -/
theorem State.after_after (s : State) (i : ℕ) (tables tables' : Tables) (client client' : Client) :
    (s.after i tables client).after i tables' client' = s.after i tables' client' := by
  simp [State.after]

/-- What a server and its clients can come to. -/
inductive Reachable (calls : ℕ → StoreCall) : State → Prop
  | start : Reachable calls (start calls)
  | step {s s' : State} (h : Reachable calls s) (hstep : Step s s') : Reachable calls s'

end Loyalty.Database.Server
