import MemoryRecorder.Proofs.Store.Reads

/-!
# Opening the store

Opening a store on a connection with no transaction open switches foreign keys on, makes the
five tables in a new database or keeps those of a store, and then finds each table in the schema
table. The main statement, `start_eq`, says that opening succeeds on a new database and on the
store's tables, and that the handle it gives sees those tables with foreign keys enforced and
no transaction open.
-/

namespace MemoryRecorder
namespace Store

section

variable {σ : Type} [Engine σ] {L : Documented σ} {h : Handle σ} {t : Tables}

/-- One round of the table check: the table of a name must be found once in the schema table. -/
def tableRound (n : String) (_ : PUnit) : StoreOn σ (ForInStep PUnit) := do
  let (names, rows) ← query tableCountSql [.text n]
  let found ← match rows with
    | row :: _ => liftRead (readInt names row 0)
    | [] => pure 0
  if found != 1 then throw (.schema ("table " ++ n ++ " is missing"))
  pure (ForInStep.yield PUnit.unit)

theorem setUp_eq : (setUp : StoreOn σ Unit) = (do
    executeBatch "PRAGMA foreign_keys = ON;"
    executeBatch schemaSql
    forIn tableNames PUnit.unit tableRound
    pure ()) := rfl

theorem exec_tableRound {n : String} (hn : n ∈ tableNames)
    (hc : (L.view h.conn).content = .store t) :
    (h.exec (tableRound n PUnit.unit)).2 = .ok (.yield PUnit.unit) ∧
      L.view (h.exec (tableRound n PUnit.unit)).1.conn = L.view h.conn := by
  obtain ⟨⟨names, hr⟩, hv⟩ := L.table_count h.conn t n hc hn
  have hrun : h.exec (query tableCountSql [.text n]) =
      ({ h with conn := (Engine.runText tableCountSql [.text n] h.conn).1 },
        .ok (names, [#[.int 1]])) :=
    Handle.exec_onEngine_ok hr
  simp only [tableRound, Handle.exec_bind_ok _ hrun]
  exact ⟨rfl, hv⟩

theorem exec_tableRounds (ns : List String) (hns : ∀ n ∈ ns, n ∈ tableNames) :
    ∀ h : Handle σ, (L.view h.conn).content = .store t →
      (h.exec (forIn ns PUnit.unit tableRound)).2 = .ok PUnit.unit ∧
        L.view (h.exec (forIn ns PUnit.unit tableRound)).1.conn = L.view h.conn := by
  induction ns with
  | nil =>
      intro h _
      rw [Handle.exec_forIn_nil]
      exact ⟨rfl, rfl⟩
  | cons n ns ih =>
      intro h hc
      obtain ⟨hr, hv⟩ := exec_tableRound (hns n (List.mem_cons_self ..)) hc
      rw [Handle.exec_forIn_cons_of_yield ns hr]
      obtain ⟨hr', hv'⟩ := ih (fun m hm => hns m (List.mem_cons_of_mem n hm)) _ (by rw [hv]; exact hc)
      exact ⟨hr', hv'.trans hv⟩

/-- Switching foreign keys on and running the schema, on a new database or the store's tables
with no transaction open, leaves the tables `t`: none in a new database. -/
theorem exec_schema (hb : (L.view h.conn).began = none)
    (hc : (L.view h.conn).content = .blank ∧ t = {} ∨ (L.view h.conn).content = .store t) :
    ∃ h1 h2 : Handle σ, h.exec (executeBatch "PRAGMA foreign_keys = ON;") = (h1, .ok ()) ∧
      h1.exec (executeBatch schemaSql) = (h2, .ok ()) ∧
      L.view h2.conn = { content := .store t, enforcing := true } := by
  obtain ⟨hon, hv1⟩ := L.foreign_keys_on h.conn hb
  -- the schema makes the tables in a new database and changes nothing in a store
  have hschema : Runs L.view (Engine.runBatch schemaSql)
      (Engine.runBatch "PRAGMA foreign_keys = ON;" h.conn).1
      { content := .store t, enforcing := true } := by
    rcases hc with ⟨hblank, rfl⟩ | hstore
    · have := L.schema_blank _ (by rw [hv1]; exact hblank)
      rw [hv1] at this
      cases hview : L.view h.conn
      simp_all
    · have := L.schema_store _ t (by rw [hv1]; exact hstore)
      rw [hv1] at this
      cases hview : L.view h.conn
      simp_all
  exact ⟨_, _, Handle.exec_onEngine_ok hon, Handle.exec_onEngine_ok hschema.1, hschema.2⟩

/-- Setting up a handle on a new database or on the store's tables, with no transaction open:
it succeeds, and the handle sees the tables with foreign keys enforced. -/
theorem exec_setUp (hb : (L.view h.conn).began = none)
    (hc : (L.view h.conn).content = .blank ∧ t = {} ∨ (L.view h.conn).content = .store t) :
    h.exec setUp = ((h.exec setUp).1, .ok ()) ∧
      L.view (h.exec setUp).1.conn = { content := .store t, enforcing := true } := by
  obtain ⟨h1, h2, hrun1, hrun2, hv2⟩ := exec_schema hb hc
  obtain ⟨hr, hv⟩ := exec_tableRounds (L := L) tableNames (fun _ hn => hn) h2 (by rw [hv2])
  rw [setUp_eq, Handle.exec_bind_ok _ hrun1, Handle.exec_bind_ok _ hrun2,
    Handle.exec_bind_of_ok _ hr, Handle.exec_pure]
  exact ⟨rfl, hv.trans hv2⟩

theorem start_of_exec {c : σ} {h : Handle σ}
    (hrun : ({ conn := c } : Handle σ).exec setUp = (h, .ok ())) :
    Handle.start c = (h.conn, .ok h) := by
  unfold Handle.exec at hrun
  unfold Handle.start
  revert hrun
  rcases (setUp.run).run ({ conn := c } : Handle σ) with ⟨r, h'⟩
  intro hrun
  simp only [Prod.mk.injEq] at hrun
  obtain ⟨rfl, rfl⟩ := hrun
  rfl

def Handle.opened (c : σ) : Handle σ :=
  (({ conn := c } : Handle σ).exec setUp).1

/-- Opening a store on a new database or on the store's tables, with no transaction open: it
succeeds with the handle its set-up leaves, which sees the tables with foreign keys enforced. -/
theorem start_eq {c : σ} (hb : (L.view c).began = none)
    (hc : (L.view c).content = .blank ∧ t = {} ∨ (L.view c).content = .store t) :
    Handle.start c = ((Handle.opened c).conn, .ok (Handle.opened c)) ∧
      L.view (Handle.opened c).conn = { content := .store t, enforcing := true } := by
  obtain ⟨hrun, hv⟩ := exec_setUp (L := L) (h := { conn := c }) hb hc
  exact ⟨start_of_exec hrun, hv⟩

end

end Store
end MemoryRecorder
