import Ingest.Proofs.ClickHouse.Extension
import Ingest.Proofs.ClickHouse.Server

/-!
# When reconciliation converges

After a reconciliation that succeeds, nothing is missing exactly if the new fields were recoverable
(`reconcile_settles_iff`). A field is not recoverable if members of its records are required, if
there are none, if a member's name is no word, or if the name of an array column has a full stop:
such a column is declared, but read back as another field or not at all.
-/

namespace Ingest
namespace ClickHouse

open Effect

variable {σ : Type}

/-- Nothing of a schema is missing, and another reconciliation changes nothing. -/
def Settled (setup : Setup) (client : Client σ) (table : String) (s : Schema)
    (c : Session σ) : Prop :=
  let driver := setup.driver client
  ((driver.missingColumns table s).run c).1 = .ok [] ∧
    ∀ rounds,
      ((driver.reconcile Driver.quiet table s (rounds + 1)).run c).1 = .ok (some .unchanged)

/-! ## The operations of the driver -/

namespace KeepsColumns

variable {setup : Setup} {client : Client σ} {table : String} {s : Schema}
  {columns : σ → List ColumnInfo}

theorem keeps_missingColumns (k : KeepsColumns setup client table s columns)
    (v : List ColumnInfo) :
    Keeps (fun c : Session σ => columns c.server = v) (setup.missingColumns client table s) := by
  refine Keeps.bind (k.keeps_columnInfo v) ?_
  intro infos
  exact keeps_ofOutcome _ _

theorem missingColumns_eq_ok (k : KeepsColumns setup client table s columns)
    {c c' : Session σ} {missing : List Field}
    (h : (setup.missingColumns client table s).run c = (.ok missing, c')) :
    columns c.server ≠ [] ∧ columns c'.server = columns c.server ∧
      ∃ existing, Reads (foldColumns (columns c.server)) existing ∧
        Ingest.missingColumns (setup.qualified table) (indexFields existing) checker s =
          .ok missing := by
  have hsame : columns c'.server = columns c.server :=
    (k.keeps_missingColumns (columns c.server)).of_run rfl h
  rcases bind_eq_ok h with ⟨infos, c₁, hlook, h⟩
  rcases k.columnInfo_eq_ok hlook with ⟨hsome, rfl, -⟩
  -- The columns are read and compared without further effects.
  have hanswer := congrArg Prod.fst h
  rcases Outcome.bind_eq_ok hanswer with ⟨existing, hexisting, hmissing⟩
  exact ⟨hsome, hsame, existing, Outcome.mapM_eq_ok_iff.1 hexisting, hmissing⟩

/-- Nothing is missing exactly if the columns that there are cover the schema. -/
theorem missingColumns_nil_iff (k : KeepsColumns setup client table s columns) (c : Session σ) :
    ((setup.missingColumns client table s).run c).1 = .ok [] ↔
      columns c.server ≠ [] ∧ Complete (columns c.server) s := by
  constructor
  · intro h
    rcases k.missingColumns_eq_ok (Prod.ext h rfl) with ⟨hsome, -, existing, hread, hmissing⟩
    exact ⟨hsome, existing, hread, missingColumns_eq_nil_iff.1 hmissing⟩
  · rintro ⟨hsome, existing, hread, hcovers⟩
    rcases k.run_columnInfo hsome with ⟨c', hlook⟩
    have hmissing : Ingest.missingColumns (setup.qualified table) (indexFields existing) checker s =
        .ok [] := missingColumns_eq_nil_iff.2 hcovers
    unfold Setup.missingColumns
    rw [run_bind_of_ok hlook, Outcome.mapM_eq_ok_iff.2 hread]
    exact hmissing

theorem settled_iff (k : KeepsColumns setup client table s columns) (c : Session σ) :
    Settled setup client table s c ↔
      columns c.server ≠ [] ∧ Complete (columns c.server) s := by
  rw [← k.missingColumns_nil_iff c]
  constructor
  · intro h
    exact h.1
  · intro h
    refine ⟨h, ?_⟩
    intro rounds
    have hrun := Driver.reconcile_of_complete (d := setup.driver client) (Prod.ext h rfl) rounds
    exact congrArg Prod.fst hrun

end KeepsColumns

/-! ## What a reconciliation preserves -/

/-- A table that got columns for the new fields of a schema. It has no column at all if it did not
exist and the schema has no fields. -/
structure Provided (zones : Calendar.ZoneDatabase) (before : List ColumnInfo) (s : Schema)
    (columns : List ColumnInfo) : Prop where
  extended : Extended zones before s [] columns
  empty : columns = [] ↔ before = [] ∧ s.fields = []

namespace Provided

variable {zones : Calendar.ZoneDatabase} {before columns : List ColumnInfo} {s : Schema}

theorem of_declares (h : Declares zones s.fields columns) : Provided zones [] s columns where
  extended := .of_declares h
  empty := by
    rw [← List.length_eq_zero_iff, ← h.length_eq, List.length_eq_zero_iff]
    simp

theorem of_extended (hbefore : before ≠ []) (h : Extended zones before s [] columns) :
    Provided zones before s columns where
  extended := h
  empty := by
    rcases h.extended with ⟨added, infos, rfl, -⟩
    simp [hbefore]

end Provided

namespace KeepsColumns

variable {setup : Setup} {client : Client σ} {table : String} {s : Schema}
  {columns : σ → List ColumnInfo}

/-- What every call of a reconciliation preserves. -/
theorem reconciliation (k : KeepsColumns setup client table s columns)
    (hz : PlainZones setup.zones) (before : List ColumnInfo) :
    Driver.Reconciliation (setup.driver client) table s
      (fun c => columns c.server = before)
      (fun missing c => before ≠ [] ∧ Extended setup.zones before s missing (columns c.server))
      (fun c => Provided setup.zones before s (columns c.server)) where
  found := by
    rintro c missing c' rfl h
    rcases k.missingColumns_eq_ok h with ⟨hsome, hsame, existing, hread, hmissing⟩
    refine ⟨hsome, ?_⟩
    rw [hsame]
    exact Extended.of_missingColumns hread hmissing
  absent := by
    intro c t c' hc h
    exact (k.keeps_missingColumns before).of_run hc h
  created := by
    rintro c c' rfl h
    rcases k.createTable_eq_ok h with ⟨hnone, hdeclares⟩
    rw [hnone]
    exact Provided.of_declares (Outcome.mapM_eq_ok_iff.1 hdeclares)
  taken := by
    rintro c t c' rfl h
    exact k.createTable_eq_taken h
  added := by
    rintro f rest c c' ⟨hbefore, hextended⟩ h
    have hf : f ∈ s.fields := hextended.mem_fields List.mem_cons_self
    rcases k.addColumn_eq_ok hf h with ⟨info, hinfo, hnew, hadded⟩
    refine ⟨hbefore, ?_⟩
    rw [hadded]
    exact hextended.add hinfo hnew
  addedByOthers := by
    rintro f rest c t column c' ⟨hbefore, hextended⟩ h
    -- Nobody else adds columns, so that the one of this name was there or is a folded one.
    have hf : f ∈ s.fields := hextended.mem_fields List.mem_cons_self
    rcases k.addColumn_eq_exists hf h with ⟨hsame, hold⟩
    refine ⟨hbefore, ?_⟩
    rw [hsame]
    exact hextended.skip hz hold
  complete := by
    rintro c ⟨hbefore, hextended⟩
    exact Provided.of_extended hbefore hextended

/-- A table that was provided for is settled exactly if the new fields were recoverable. -/
theorem settled_iff_of_provided (k : KeepsColumns setup client table s columns)
    (hz : PlainZones setup.zones) {before : List ColumnInfo} {c : Session σ}
    (hc : Provided setup.zones before s (columns c.server)) :
    Settled setup client table s c ↔ (before = [] → s.fields ≠ []) ∧ Recoverable before s := by
  rw [k.settled_iff, hc.extended.complete_iff hz]
  apply and_congr_left
  intro _
  rw [ne_eq, hc.empty, not_and]

end KeepsColumns

/-! ## Convergence -/

/-- A reconciliation that succeeds leaves nothing to do exactly if the fields that no column of the
table had the name of are recoverable, and there is a field if the table did not exist. -/
theorem reconcile_settles_iff (setup : Setup) (client : Client σ) (table : String) (s : Schema)
    (columns : σ → List ColumnInfo) (k : KeepsColumns setup client table s columns)
    (hz : PlainZones setup.zones) (c c' : Session σ) (rounds : Nat) (result : Reconciled)
    (h : ((setup.driver client).reconcile Driver.quiet table s rounds).run c =
      (.ok (some result), c')) :
    Settled setup client table s c' ↔
      (columns c.server = [] → s.fields ≠ []) ∧ Recoverable (columns c.server) s := by
  have hprovided := (k.reconciliation hz (columns c.server)).run rfl h
  exact k.settled_iff_of_provided hz hprovided

/-- A server of one table that its statements give one column. -/
def keeper (info : ColumnInfo) : Client (List ColumnInfo) where
  exec _
    | [] => (⟨.ok (), 0⟩, [info])
    | columns => (⟨.error ⟨57, "Table already exists"⟩, 0⟩, columns)
  columns _ _ columns := (⟨.ok columns, 0⟩, columns)
  insert _ _ _ columns := (⟨.ok (), 0⟩, columns)

theorem keepsColumns_keeper {setup : Setup} (table : String) {s : Schema} {f : Field}
    {info : ColumnInfo} (hs : s.fields = [f]) (hinfo : declaredColumn setup.zones f = .ok info) :
    KeepsColumns setup (keeper info) table s id where
  told := by
    intro columns _
    exact ⟨rfl, Nat.zero_le _⟩
  notFound := by
    rintro _ infos rfl h
    exact (Except.ok.inj h).symm
  asked _ := rfl
  created := by
    intro sql infos columns _ hinfos hanswer
    have hone : s.fields.mapM (declaredColumn setup.zones) = .ok [info] := by
      rw [hs]
      exact Outcome.mapM_eq_ok_iff.2 (.cons hinfo .nil)
    cases columns with
    | nil => exact ⟨rfl, Except.ok.inj (hone.symm.trans hinfos)⟩
    | cons first rest => cases hanswer
  notCreated := by
    intro sql columns e _ hanswer
    cases columns with
    | nil => cases hanswer
    | cons first rest => rfl
  added := by
    intro g hg sql info' columns _ hinfo' hanswer
    rw [hs, List.mem_singleton] at hg
    rw [hg] at hinfo'
    cases columns with
    | nil => exact ⟨nofun, congrArg (fun info => [info]) (Except.ok.inj (hinfo.symm.trans hinfo'))⟩
    | cons first rest => cases hanswer
  refused := by
    intro g _ sql columns e _ hanswer
    cases columns with
    | nil => cases hanswer
    | cons first rest =>
      cases hanswer
      exact ⟨rfl, nofun⟩

/-- The schema of a list of records with one member. -/
def tagged (nullable : Bool) : Schema :=
  ⟨[.plain "tags" (.list (.struct [.plain "n" (.scalar .int32) nullable])) false], by
    simp⟩

/-- The column of both schemas. -/
def tags : ColumnInfo := ⟨"tags", "Nested(n Int32)", ""⟩

/-- A table is created for records with a nullable member, and nothing is left to do. -/
theorem reconcile_settles_iff_nullable :
    let setup : Setup := ⟨{ database := "d" }, fun _ => none⟩
    let c : Session (List ColumnInfo) := ⟨⟨[], 0⟩, []⟩
    ∃ c', ((setup.driver (keeper tags)).reconcile Driver.quiet "t" (tagged true) 1).run c =
        (.ok (some .created), c') ∧ Settled setup (keeper tags) "t" (tagged true) c' := by
  intro setup c
  have k : KeepsColumns setup (keeper tags) "t" (tagged true) id := keepsColumns_keeper "t" rfl rfl
  have hz : PlainZones setup.zones := nofun
  have hrun : ((setup.driver (keeper tags)).reconcile Driver.quiet "t" (tagged true) 1).run c =
      (.ok (some .created), _) := rfl
  have hsettled := reconcile_settles_iff setup (keeper tags) "t" (tagged true) id k hz c _ 1 _ hrun
  exact ⟨_, hrun, hsettled.2 ⟨fun _ => nofun, by decide⟩⟩

/-- A table is created for records with a required member; the member is read back as nullable, so
that the table does not fit the schema that it was created for. -/
theorem unsettled_of_required_member :
    let setup : Setup := ⟨{ database := "d" }, fun _ => none⟩
    let c : Session (List ColumnInfo) := ⟨⟨[], 0⟩, []⟩
    KeepsColumns setup (keeper tags) "t" (tagged false) id ∧
      ∃ c', ((setup.driver (keeper tags)).reconcile Driver.quiet "t" (tagged false) 1).run c =
          (.ok (some .created), c') ∧ ¬ Settled setup (keeper tags) "t" (tagged false) c' := by
  intro setup c
  have k : KeepsColumns setup (keeper tags) "t" (tagged false) id :=
    keepsColumns_keeper "t" rfl rfl
  have hz : PlainZones setup.zones := nofun
  have hrun : ((setup.driver (keeper tags)).reconcile Driver.quiet "t" (tagged false) 1).run c =
      (.ok (some .created), _) := rfl
  refine ⟨k, _, hrun, ?_⟩
  rw [k.settled_iff_of_provided hz ((k.reconciliation hz []).run rfl hrun)]
  rintro ⟨-, hrec⟩
  exact absurd hrec (by decide)

end ClickHouse
end Ingest
