import Couponry.Purchase.Catalog

/-!
# Transactions of others

A call to the catalog touches at most the transaction that it names, and opens one that nobody had
before. What was written through any other transaction, and what was committed, stays.
-/

namespace Couponry

/-- The transaction that a call names. -/
def ProductCall.tx? : ProductCall → Option TxId
  | .insertPurchase tx _ | .commit tx | .rollback tx | .abandon tx => some tx
  | .createProduct _ _ _ | .getProduct _ | .begin => none

namespace Catalog

/-- `c'` may have come of `c` by calls that name no transaction but perhaps `own`. -/
structure Later (own : Option TxId) (c c' : Catalog) : Prop where
  last : c.lastTx ≤ c'.lastTx
  written : ∀ tx, tx.value ≤ c.lastTx → own ≠ some tx → c'.written tx = c.written tx
  lastPurchase : c.lastPurchaseId ≤ c'.lastPurchaseId
  purchases : c.purchases <+: c'.purchases

namespace Later

theorem refl (own : Option TxId) (c : Catalog) : Later own c c :=
  ⟨Nat.le_refl _, fun _ _ _ => rfl, Int.le_refl _, List.prefix_refl _⟩

/-- Who names no transaction touches none. -/
theorem weaken {c c' : Catalog} (h : Later none c c') (own : Option TxId) : Later own c c' :=
  ⟨h.last, fun tx old _ => h.written tx old nofun, h.lastPurchase, h.purchases⟩

theorem openTx (c : Catalog) : Later none c c.openTx.2 := by
  refine ⟨Nat.le_succ _, ?_, Int.le_refl _, List.prefix_refl _⟩
  intro tx old _
  have other : tx ≠ ⟨c.lastTx + 1⟩ := by
    rintro rfl
    simp only at old
    omega
  simp [Catalog.openTx, Catalog.written, other]

theorem insertPurchase (c : Catalog) (tx : TxId) (p : NewPurchase) :
    Later (some tx) c (c.insertPurchase tx p).2 := by
  unfold Catalog.insertPurchase
  split
  · refine ⟨Nat.le_refl _, ?_, ?_, List.prefix_refl _⟩
    · intro other _ different
      have different : other ≠ tx := fun same => different (by rw [same])
      simp [Catalog.written, different]
    · show c.lastPurchaseId ≤ c.lastPurchaseId + 1
      omega
  · exact refl _ c

theorem discard (c : Catalog) (tx : TxId) : Later (some tx) c (c.discard tx) := by
  refine ⟨Nat.le_refl _, ?_, Int.le_refl _, List.prefix_refl _⟩
  intro other _ different
  have different : other ≠ tx := fun same => different (by rw [same])
  simp [Catalog.discard, Catalog.written, different]

theorem commit (c : Catalog) (tx : TxId) : Later (some tx) c (c.commit tx).2 := by
  have ended := discard c tx
  unfold Catalog.commit
  split
  · exact ended
  · exact ⟨ended.last, ended.written, ended.lastPurchase, List.prefix_append _ _⟩

/-- A call leads to a later catalog. -/
theorem answer (c : Catalog) (call : ProductCall) : Later call.tx? c (Catalog.answer call c).2 := by
  cases call with
  | createProduct name price now =>
    exact ⟨Nat.le_refl _, fun _ _ _ => rfl, Int.le_refl _, List.prefix_refl _⟩
  | getProduct id => exact refl _ c
  | begin => exact openTx c
  | insertPurchase tx p => exact insertPurchase c tx p
  | commit tx => exact commit c tx
  | rollback tx => exact discard c tx
  | abandon tx => exact discard c tx

end Later

/-! ## The transaction of the caller -/

/-- A transaction that was opened, with what was written through it. -/
def Contains (c : Catalog) (tx : TxId) (records : List PurchaseRecord) : Prop :=
  tx.value ≤ c.lastTx ∧ c.written tx = records

theorem Contains.later {own : Option TxId} {c c' : Catalog} {tx : TxId}
    {records : List PurchaseRecord} (h : c.Contains tx records) (later : Later own c c')
    (other : own ≠ some tx) : c'.Contains tx records :=
  ⟨Nat.le_trans h.1 later.last, (later.written tx h.1 other).trans h.2⟩

/-- A transaction that was just opened contains nothing. -/
theorem contains_openTx (c : Catalog) : c.openTx.2.Contains c.openTx.1 [] :=
  ⟨Nat.le_refl _, by simp [openTx, written]⟩

/-- A purchase is written under the next id, or not at all. -/
theorem insertPurchase_cases (c : Catalog) (tx : TxId) (p : NewPurchase) :
    (∃ e, c.insertPurchase tx p = (.error e, c)) ∨
      ∃ c', c.insertPurchase tx p = (.ok (p.record (c.lastPurchaseId + 1)), c') ∧
        c'.purchases = c.purchases ∧ c'.lastPurchaseId = c.lastPurchaseId + 1 ∧
        ∀ records, c.Contains tx records →
          c'.Contains tx (records ++ [p.record (c.lastPurchaseId + 1)]) := by
  unfold insertPurchase
  split
  · refine .inr ⟨_, rfl, rfl, rfl, ?_⟩
    intro records contains
    refine ⟨contains.1, ?_⟩
    simp only [written, Table.get?_insert, if_true, Option.getD_some]
    rw [← contains.2]
    rfl
  · exact .inl ⟨_, rfl⟩

/-- A commit keeps all that was written, or nothing. -/
theorem commit_cases (c : Catalog) (tx : TxId) :
    (∃ e, (c.commit tx).1 = .error e ∧ (c.commit tx).2.purchases = c.purchases) ∨
      (c.commit tx).1 = .ok () ∧ (c.commit tx).2.purchases = c.purchases ++ c.written tx := by
  unfold commit
  split
  · exact .inl ⟨_, rfl, rfl⟩
  · exact .inr ⟨rfl, rfl⟩

end Catalog

end Couponry
