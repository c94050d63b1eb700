import Ingest.Proofs.ClickHouse.Server

/-!
# What a server is asked

`Client.noted` is a server that answers as another one does and notes every request, so that what a
driver asks for can be read off the state that an operation leaves. A request is noted when it is
made; it makes no difference whether it is answered in time.
-/

namespace Ingest
namespace ClickHouse

open Effect

variable {σ α : Type}

/-- An insert: the table, the names of the columns and the values of each row in their order. -/
structure Insertion where
  table : String
  columns : List String
  values : List (List Value)

/-- A request to a server. -/
inductive Request where
  | exec (statement : String)
  | columns (database table : String)
  | insert (insertion : Insertion)

/-- A call that is noted before it is answered. -/
def noting (r : Request) (call : Call σ ServerError α) : Call (σ × List Request) ServerError α :=
  fun s => ((call s.1).1, (call s.1).2, s.2 ++ [r])

/-- The server that notes every request. -/
def Client.noted (client : Client σ) : Client (σ × List Request) where
  exec sql := noting (.exec sql) (client.exec sql)
  columns database table := noting (.columns database table) (client.columns database table)
  insert table columns values :=
    noting (.insert ⟨table, columns, values⟩) (client.insert table columns values)

/-- A server that accepts everything; its state is the list of columns that it tells. -/
def described : Client (List ColumnInfo) where
  exec _ columns := (⟨.ok (), 0⟩, columns)
  columns _ _ columns := (⟨.ok columns, 0⟩, columns)
  insert _ _ _ columns := (⟨.ok (), 0⟩, columns)

/-- The requests that were made so far. -/
def Session.requests (c : Session (σ × List Request)) : List Request :=
  c.server.2

/-- A call is noted whether or not it is answered in time. -/
theorem requests_timed (setup : Setup) (operation : String) (r : Request)
    (call : Call σ ServerError α) (c : Session (σ × List Request)) :
    ((Action.timed setup operation (noting r call)).run c).2.requests = c.requests ++ [r] := by
  rw [Session.requests, state_timed, Clocked.server_await]
  rfl

/-- What is done with the answer of a call asks for nothing more. -/
theorem requests_timed_bind {β : Type} (setup : Setup) (operation : String) (r : Request)
    (call : Call σ ServerError α) {f : Except ServerError α → Action (σ × List Request) β}
    (hf : ∀ answer rs, Keeps (fun c : Session (σ × List Request) => c.requests = rs) (f answer))
    (c : Session (σ × List Request)) :
    ((Action.timed setup operation (noting r call) >>= f).run c).2.requests =
      c.requests ++ [r] := by
  have hcall := requests_timed setup operation r call c
  rw [run_bind]
  split
  · rename_i answer c₁ hanswer
    rw [hanswer] at hcall
    exact hf answer _ c₁ hcall
  · rename_i e c₁ hanswer
    rw [hanswer] at hcall
    exact hcall

/-! ## Inserts -/

def Request.insertion? : Request → Option Insertion
  | insert i => some i
  | _ => none

/-- The inserts that were made so far. -/
def Session.insertions (c : Session (σ × List Request)) : List Insertion :=
  c.requests.filterMap Request.insertion?

section Looking

variable {setup : Setup} {client : Client σ} {table : String}

theorem keeps_columnInfo (is : List Insertion) :
    Keeps (fun c : Session (σ × List Request) => c.insertions = is)
      (setup.columnInfo client.noted table) := by
  have hasked : ∀ st : σ × List Request, st.2.filterMap Request.insertion? = is →
      ((client.noted.columns setup.config.database table st).2.2.filterMap Request.insertion?) =
        is := by
    intro st hst
    have hnone : [Request.columns setup.config.database table].filterMap Request.insertion? = [] :=
      rfl
    show (st.2 ++ [Request.columns setup.config.database table]).filterMap _ = is
    rw [List.filterMap_append, hst, hnone, List.append_nil]
  exact Setup.keeps_columnInfo hasked

/-- The order of columns is looked up without an insert. -/
theorem keeps_columnOrder (is : List Insertion) :
    Keeps (fun c : Session (σ × List Request) => c.insertions = is)
      (setup.columnOrder client.noted table) :=
  Setup.keeps_columnOrder_of_columnInfo (keeps_columnInfo is) fun _ _ hc => hc

end Looking

end ClickHouse
end Ingest
