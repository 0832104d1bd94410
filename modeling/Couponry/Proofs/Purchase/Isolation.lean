import Couponry.Proofs.Purchase.Transactions
import Mathlib.Data.List.Nodup

/-!
# Isolated transactions

What overlapping transactions show of themselves. A register is a catalog with the replies to all calls
that led to it; whoever calls holds the transaction that it names, which was opened and is not ended.
`Sound` is what a call preserves: the catalog keeps of an open transaction just what was written through
it, and the purchases are those of the transactions whose commits succeeded, one transaction after the
other. `isolated_of_leads` is read off it. Ids are taken when a purchase is written, so they ascend in the
order of the writings, which is not that of the purchases.
-/

namespace Couponry.Catalog

/-- A call to the store of products with its answer. -/
structure Reply where
  call : ProductCall
  answer : call.Answer

/-- A purchase that was written through a transaction, and the record that was returned. -/
structure Writing where
  tx : TxId
  purchase : NewPurchase
  record : PurchaseRecord

/-- The record says of a purchase what was asked for. -/
structure Records (r : PurchaseRecord) (p : NewPurchase) : Prop where
  productId : r.productId = p.productId
  userId : r.userId = p.userId
  price : r.price = p.price
  discountedPrice : r.discountedPrice = p.discountedPrice
  total : r.total = p.total
  coupon : r.coupon = p.coupon
  purchasedAt : r.purchasedAt = p.purchasedAt

theorem records_record (p : NewPurchase) (id : Int) : Records (p.record id) p :=
  ⟨rfl, rfl, rfl, rfl, rfl, rfl, rfl⟩

namespace Reply

/-- The transaction that a call opened. -/
def opened? : Reply → Option TxId
  | ⟨.begin, .ok tx⟩ => some tx
  | _ => none

/-- The transaction that a call ended, whatever came of it. -/
def ended? : Reply → Option TxId
  | ⟨.commit tx, _⟩ | ⟨.rollback tx, _⟩ | ⟨.abandon tx, _⟩ => some tx
  | _ => none

/-- The transaction whose commit succeeded. -/
def committed? : Reply → Option TxId
  | ⟨.commit tx, .ok _⟩ => some tx
  | _ => none

/-- The transaction of which nothing is kept: it was rolled back or dropped, or its commit failed. -/
def undone? : Reply → Option TxId
  | ⟨.commit tx, .error _⟩ | ⟨.rollback tx, _⟩ | ⟨.abandon tx, _⟩ => some tx
  | _ => none

/-- What a call wrote. -/
def writing? : Reply → Option Writing
  | ⟨.insertPurchase tx p, .ok r⟩ => some ⟨tx, p, r⟩
  | _ => none

/-- What the call did is to be seen by others: it added a product, or a commit succeeded. -/
def shows : Reply → Bool
  | ⟨.createProduct _ _ _, _⟩ => true
  | ⟨.commit _, .ok _⟩ => true
  | _ => false

/-- To undo is to end, and not to commit. -/
theorem ended?_of_undone? {reply : Reply} {tx : TxId} (undone : reply.undone? = some tx) :
    reply.ended? = some tx ∧ reply.committed? = none := by
  obtain ⟨call, answer⟩ := reply
  cases call with
  | commit other =>
    cases answer with
    | ok _ => cases undone
    | error _ => exact ⟨undone, rfl⟩
  | rollback other | abandon other => exact ⟨undone, rfl⟩
  | createProduct | getProduct | begin | insertPurchase => cases undone

end Reply

/-! ## What a call does -/

/-- The reply to a call, and the catalog after it. -/
inductive Effect (c : Catalog) : Reply → Catalog → Prop where
  | stocked (name : String) (price : Money) (now : Instant) :
      Effect c ⟨.createProduct name price now, .ok (c.addProduct name price now).1⟩
        (c.addProduct name price now).2
  | looked (id : ProductId) : Effect c ⟨.getProduct id, c.getProduct id⟩ c
  | opened : Effect c ⟨.begin, .ok c.openTx.1⟩ c.openTx.2
  | refused (tx : TxId) (p : NewPurchase) (e : ProductStoreError) :
      Effect c ⟨.insertPurchase tx p, .error e⟩ c
  | wrote (tx : TxId) (p : NewPurchase) (stocked : c.products.contains p.productId = true) :
      Effect c ⟨.insertPurchase tx p, .ok (p.record (c.lastPurchaseId + 1))⟩
        { c with
          pending := c.pending.insert tx (c.written tx ++ [p.record (c.lastPurchaseId + 1)])
          lastPurchaseId := c.lastPurchaseId + 1 }
  | failed (tx : TxId) (e : ProductStoreError) : Effect c ⟨.commit tx, .error e⟩ (c.discard tx)
  | committed (tx : TxId) : Effect c ⟨.commit tx, .ok ()⟩
      { c.discard tx with purchases := c.purchases ++ c.written tx }
  | rolledBack (tx : TxId) : Effect c ⟨.rollback tx, .ok ()⟩ (c.discard tx)
  | abandoned (tx : TxId) : Effect c ⟨.abandon tx, .ok ()⟩ (c.discard tx)

/-- **The cases of a call.** -/
theorem effect_answer (c : Catalog) (call : ProductCall) :
    Effect c ⟨call, (answer call c).1⟩ (answer call c).2 := by
  cases call with
  | createProduct name price now => exact .stocked name price now
  | getProduct id => exact .looked id
  | begin => exact .opened
  | insertPurchase tx p =>
    simp only [answer, insertPurchase]
    split
    · next stocked => exact .wrote tx p stocked
    · exact .refused tx p _
  | commit tx =>
    simp only [answer, commit]
    split
    · exact .failed tx _
    · exact .committed tx
  | rollback tx => exact .rolledBack tx
  | abandon tx => exact .abandoned tx

/-- What is to be seen of a catalog are its products and its purchases. -/
theorem Effect.hidden {c c' : Catalog} {reply : Reply} (e : Effect c reply c') (unseen : reply.shows = false) :
    c'.products = c.products ∧ c'.purchases = c.purchases := by
  cases e with
  | stocked | committed => cases unseen
  | looked | opened | refused | wrote | failed | rolledBack | abandoned => exact ⟨rfl, rfl⟩

/-! ## Histories -/

/-- A catalog, and the replies to the calls that led to it. -/
structure Register where
  catalog : Catalog
  history : List Reply

namespace Register

/-- Nothing has happened yet. -/
def blank : Register :=
  ⟨.empty, []⟩

/-- The register after a call. -/
def after (b : Register) (c : ProductCall) : Register :=
  ⟨(answer c b.catalog).2, b.history ++ [⟨c, (answer c b.catalog).1⟩]⟩

/-- The register after a turn of the switch that makes commits fail. -/
def switch (b : Register) (fail : Bool) : Register :=
  { b with catalog := { b.catalog with failOnCommit := fail } }

section Views

variable (b : Register)

/-- The transactions that were opened. -/
def opened : List TxId :=
  b.history.filterMap Reply.opened?

/-- The transactions that were ended. -/
def ended : List TxId :=
  b.history.filterMap Reply.ended?

/-- The transactions whose commits succeeded, in the order of the commits. -/
def committed : List TxId :=
  b.history.filterMap Reply.committed?

/-- The transactions of which nothing is kept. -/
def undone : List TxId :=
  b.history.filterMap Reply.undone?

/-- All that was written, committed or not, in order. -/
def writings : List Writing :=
  b.history.filterMap Reply.writing?

/-- The records that were returned to the holder of a transaction, in order. -/
def records (tx : TxId) : List PurchaseRecord :=
  (b.writings.filter fun w => decide (w.tx = tx)).map Writing.record

/-- The transaction can be used: it was opened, and not ended. -/
def IsOpen (tx : TxId) : Prop :=
  tx ∈ b.opened ∧ tx ∉ b.ended

instance (tx : TxId) : Decidable (b.IsOpen tx) :=
  inferInstanceAs (Decidable (_ ∧ _))

end Views

/-- `b'` has come of `b`: transactions were used by those who held them, in any order, and the switch was
turned at any time. -/
inductive Leads (b : Register) : Register → Prop where
  | refl : Leads b b
  | after {b' : Register} (leads : Leads b b') (c : ProductCall)
      (held : ∀ tx ∈ c.tx?, b'.IsOpen tx) : Leads b (b'.after c)
  | switch {b' : Register} (leads : Leads b b') (fail : Bool) : Leads b (b'.switch fail)

/-! ### One reply more -/

section Concat

variable {b : Register} {c : Catalog} {reply : Reply}

theorem filterMap_concat {α : Type} (f : Reply → Option α) (history : List Reply) (reply : Reply) :
    (history ++ [reply]).filterMap f = history.filterMap f ++ (f reply).toList := by
  cases h : f reply <;> simp [List.filterMap_append, h]

theorem mem_filterMap_concat {α : Type} {f : Reply → Option α} {history : List Reply} {a : α} :
    a ∈ (history ++ [reply]).filterMap f ↔ a ∈ history.filterMap f ∨ f reply = some a := by
  rw [filterMap_concat, List.mem_append, Option.mem_toList]

theorem mem_opened {tx : TxId} :
    tx ∈ opened ⟨c, b.history ++ [reply]⟩ ↔ tx ∈ b.opened ∨ reply.opened? = some tx :=
  mem_filterMap_concat

theorem mem_ended {tx : TxId} :
    tx ∈ ended ⟨c, b.history ++ [reply]⟩ ↔ tx ∈ b.ended ∨ reply.ended? = some tx :=
  mem_filterMap_concat

theorem mem_committed {tx : TxId} :
    tx ∈ committed ⟨c, b.history ++ [reply]⟩ ↔ tx ∈ b.committed ∨ reply.committed? = some tx :=
  mem_filterMap_concat

theorem mem_undone {tx : TxId} :
    tx ∈ undone ⟨c, b.history ++ [reply]⟩ ↔ tx ∈ b.undone ∨ reply.undone? = some tx :=
  mem_filterMap_concat

theorem mem_writings {w : Writing} :
    w ∈ writings ⟨c, b.history ++ [reply]⟩ ↔ w ∈ b.writings ∨ reply.writing? = some w :=
  mem_filterMap_concat

variable (b c reply)

theorem committed_concat :
    committed ⟨c, b.history ++ [reply]⟩ = b.committed ++ reply.committed?.toList :=
  filterMap_concat ..

theorem writings_concat : writings ⟨c, b.history ++ [reply]⟩ = b.writings ++ reply.writing?.toList :=
  filterMap_concat ..

/-- A writing adds to the records of its transaction, and to no others. -/
theorem records_concat (tx : TxId) : records ⟨c, b.history ++ [reply]⟩ tx =
    b.records tx ++ (reply.writing?.toList.filter fun w => decide (w.tx = tx)).map Writing.record := by
  rw [records, writings_concat, List.filter_append, List.map_append, records]

end Concat

/-! ### What a reply tells -/

/-- The reply tells all that has become of the catalog. -/
structure Tells (b : Register) (reply : Reply) (c : Catalog) : Prop where
  opened : ∀ tx, reply.opened? = some tx →
    b.catalog.lastTx < tx.value ∧ tx.value ≤ c.lastTx ∧ c.written tx = []
  ended : ∀ tx, reply.ended? = some tx → b.IsOpen tx
  committed : ∀ tx, reply.committed? = some tx → reply.ended? = some tx ∧ reply.writing? = none
  written : ∀ w, reply.writing? = some w → b.IsOpen w.tx ∧ Records w.record w.purchase ∧
    b.catalog.products.contains w.record.productId = true ∧
    b.catalog.lastPurchaseId < w.record.id ∧ w.record.id ≤ c.lastPurchaseId
  lastTx : b.catalog.lastTx ≤ c.lastTx
  lastPurchase : b.catalog.lastPurchaseId ≤ c.lastPurchaseId
  products : ∀ id, b.catalog.products.contains id = true → c.products.contains id = true
  pending : ∀ tx, tx.value ≤ b.catalog.lastTx → reply.ended? ≠ some tx → c.written tx =
    b.catalog.written tx ++ (reply.writing?.toList.filter fun w => decide (w.tx = tx)).map Writing.record
  purchases : c.purchases =
    b.catalog.purchases ++ reply.committed?.toList.flatMap b.catalog.written

namespace Tells

variable {b : Register} {reply : Reply} {c : Catalog}

/-- A call that opens nothing and writes nothing, and touches only the transaction that it ends. -/
theorem of_unwritten (later : Later reply.ended? b.catalog c) (unopened : reply.opened? = none)
    (unwritten : reply.writing? = none) (ended : ∀ tx, reply.ended? = some tx → b.IsOpen tx)
    (committed : ∀ tx, reply.committed? = some tx → reply.ended? = some tx)
    (products : ∀ id, b.catalog.products.contains id = true → c.products.contains id = true)
    (purchases : c.purchases = b.catalog.purchases ++ reply.committed?.toList.flatMap b.catalog.written) :
    b.Tells reply c where
  opened tx opened := by
    rw [unopened] at opened
    cases opened
  ended := ended
  committed tx success := ⟨committed tx success, unwritten⟩
  written w written := by
    rw [unwritten] at written
    cases written
  lastTx := later.last
  lastPurchase := later.lastPurchase
  products := products
  pending tx old other := by
    rw [later.written tx old other, unwritten]
    exact (List.append_nil _).symm
  purchases := purchases

/-- What ends without a commit that succeeds leaves no purchases. -/
theorem of_discard {tx : TxId} (held : b.IsOpen tx) (ends : reply.ended? = some tx)
    (unopened : reply.opened? = none) (unwritten : reply.writing? = none)
    (uncommitted : reply.committed? = none) : b.Tells reply (b.catalog.discard tx) := by
  refine of_unwritten (ends ▸ Later.discard b.catalog tx) unopened unwritten ?_ ?_ (fun _ => id) ?_
  · intro other same
    cases ends.symm.trans same
    exact held
  · intro other committed
    rw [uncommitted] at committed
    cases committed
  · rw [uncommitted]
    exact (List.append_nil _).symm

/-- What a call does is told by its reply, if whoever calls holds the transaction that the call names. -/
theorem of_effect (e : Effect b.catalog reply c) (held : ∀ tx, reply.call.tx? = some tx → b.IsOpen tx) :
    b.Tells reply c := by
  have same : b.catalog.purchases = b.catalog.purchases ++ [] := (List.append_nil _).symm
  cases e with
  | stocked name price now =>
    refine of_unwritten (Later.answer b.catalog (.createProduct name price now)) rfl rfl (by rintro _ ⟨⟩)
      (by rintro _ ⟨⟩) (fun id stocked => ?_) same
    simp only [addProduct, Table.contains, Table.get?_insert] at stocked ⊢
    split
    · rfl
    · exact stocked
  | looked product =>
    exact of_unwritten (.refl _ b.catalog) rfl rfl (by rintro _ ⟨⟩) (by rintro _ ⟨⟩) (fun _ => id) same
  | opened =>
    have later := Later.openTx b.catalog
    constructor
    case opened =>
      rintro tx ⟨⟩
      exact ⟨Nat.lt_succ_self _, Nat.le_refl _, (contains_openTx b.catalog).2⟩
    case ended => rintro _ ⟨⟩
    case committed => rintro _ ⟨⟩
    case written => rintro _ ⟨⟩
    case lastTx => exact later.last
    case lastPurchase => exact later.lastPurchase
    case products => exact fun _ => id
    case pending =>
      intro tx old _
      rw [later.written tx old (by rintro ⟨⟩)]
      exact (List.append_nil _).symm
    case purchases => exact same
  | refused tx p e =>
    exact of_unwritten (.refl _ b.catalog) rfl rfl (by rintro _ ⟨⟩) (by rintro _ ⟨⟩) (fun _ => id) same
  | wrote tx p stocked =>
    constructor
    case opened => rintro _ ⟨⟩
    case ended => rintro _ ⟨⟩
    case committed => rintro _ ⟨⟩
    case written =>
      rintro w ⟨⟩
      have fresh : b.catalog.lastPurchaseId < b.catalog.lastPurchaseId + 1 := by omega
      exact ⟨held tx rfl, records_record p _, stocked, fresh, Int.le_refl _⟩
    case lastTx => exact Nat.le_refl _
    case lastPurchase =>
      show b.catalog.lastPurchaseId ≤ b.catalog.lastPurchaseId + 1
      omega
    case products => exact fun _ => id
    case pending =>
      intro other _ _
      show (((b.catalog.pending.insert tx _).get? other).getD []) = _
      rw [Table.get?_insert]
      by_cases own : other = tx
      · subst own
        simp [Reply.writing?]
      · simp [Reply.writing?, own, Ne.symm own, Catalog.written]
    case purchases => exact same
  | failed tx e => exact of_discard (held tx rfl) rfl rfl rfl rfl
  | committed tx =>
    have later := Later.discard b.catalog tx
    refine of_unwritten ⟨later.last, later.written, later.lastPurchase, List.prefix_append _ _⟩ rfl rfl ?_ ?_
      (fun _ => id) ?_
    · rintro _ ⟨⟩
      exact held tx rfl
    · rintro _ ⟨⟩
      rfl
    · show _ = b.catalog.purchases ++ [tx].flatMap b.catalog.written
      rw [List.flatMap_singleton]
  | rolledBack tx => exact of_discard (held tx rfl) rfl rfl rfl rfl
  | abandoned tx => exact of_discard (held tx rfl) rfl rfl rfl rfl

/-- Nothing is written through a transaction that is not open. -/
theorem records_of_not_open (t : b.Tells reply c) {tx : TxId} (closed : ¬ b.IsOpen tx) :
    records ⟨c, b.history ++ [reply]⟩ tx = b.records tx := by
  have none : (reply.writing?.toList.filter fun w => decide (w.tx = tx)) = [] := by
    rw [List.filter_eq_nil_iff]
    intro w written same
    exact closed (of_decide_eq_true same ▸ (t.written w (Option.mem_toList.1 written)).1)
  rw [records_concat, none]
  exact List.append_nil _

end Tells

/-! ## What a call preserves -/

/-- What the history says of the catalog. -/
structure Sound (b : Register) : Prop where
  opened : ∀ tx ∈ b.opened, tx.value ≤ b.catalog.lastTx
  ended : ∀ tx ∈ b.ended, tx ∈ b.opened
  committed : ∀ tx ∈ b.committed, tx ∈ b.ended
  undone : ∀ tx ∈ b.undone, tx ∈ b.ended ∧ tx ∉ b.committed
  held : ∀ w ∈ b.writings, w.tx ∈ b.opened
  made : ∀ w ∈ b.writings, Records w.record w.purchase ∧
    b.catalog.products.contains w.record.productId = true
  numbered : ∀ w ∈ b.writings, w.record.id ≤ b.catalog.lastPurchaseId
  ascending : b.writings.Pairwise fun w v => w.record.id < v.record.id
  pending : ∀ tx, b.IsOpen tx → b.catalog.written tx = b.records tx
  purchases : b.catalog.purchases = b.committed.flatMap b.records

namespace Sound

variable {b : Register}

theorem blank : blank.Sound where
  opened _ h := absurd h List.not_mem_nil
  ended _ h := absurd h List.not_mem_nil
  committed _ h := absurd h List.not_mem_nil
  undone _ h := absurd h List.not_mem_nil
  held _ h := absurd h List.not_mem_nil
  made _ h := absurd h List.not_mem_nil
  numbered _ h := absurd h List.not_mem_nil
  ascending := .nil
  pending _ h := absurd h.1 List.not_mem_nil
  purchases := rfl

/-- Nothing was written through a transaction that was not opened. -/
theorem records_of_not_opened (h : b.Sound) {tx : TxId} (unopened : tx ∉ b.opened) : b.records tx = [] := by
  rw [records, List.map_eq_nil_iff, List.filter_eq_nil_iff]
  intro w written same
  exact unopened (of_decide_eq_true same ▸ h.held w written)

/-- **A call preserves what the history says.** -/
theorem step (h : b.Sound) {reply : Reply} {c : Catalog} (t : b.Tells reply c) :
    Sound ⟨c, b.history ++ [reply]⟩ := by
  constructor
  case opened =>
    intro tx opened
    rcases mem_opened.1 opened with old | new
    · exact Nat.le_trans (h.opened tx old) t.lastTx
    · exact (t.opened tx new).2.1
  case ended =>
    intro tx ended
    refine mem_opened.2 (.inl ?_)
    rcases mem_ended.1 ended with old | new
    · exact h.ended tx old
    · exact (t.ended tx new).1
  case committed =>
    intro tx committed
    rcases mem_committed.1 committed with old | new
    · exact mem_ended.2 (.inl (h.committed tx old))
    · exact mem_ended.2 (.inr (t.committed tx new).1)
  case undone =>
    intro tx undone
    rw [mem_ended, mem_committed, not_or]
    rcases mem_undone.1 undone with old | new
    · obtain ⟨ended, uncommitted⟩ := h.undone tx old
      refine ⟨.inl ended, uncommitted, fun committed => ?_⟩
      exact (t.ended tx (t.committed tx committed).1).2 ended
    · obtain ⟨ends, unsuccessful⟩ := Reply.ended?_of_undone? new
      refine ⟨.inr ends, fun committed => (t.ended tx ends).2 (h.committed tx committed), ?_⟩
      rw [unsuccessful]
      rintro ⟨⟩
  case held =>
    intro w written
    refine mem_opened.2 (.inl ?_)
    rcases mem_writings.1 written with old | new
    · exact h.held w old
    · exact (t.written w new).1.1
  case made =>
    intro w written
    rcases mem_writings.1 written with old | new
    · exact ⟨(h.made w old).1, t.products _ (h.made w old).2⟩
    · obtain ⟨-, made, stocked, -⟩ := t.written w new
      exact ⟨made, t.products _ stocked⟩
  case numbered =>
    intro w written
    rcases mem_writings.1 written with old | new
    · exact Int.le_trans (h.numbered w old) t.lastPurchase
    · exact (t.written w new).2.2.2.2
  case ascending =>
    rw [writings_concat, List.pairwise_append]
    refine ⟨h.ascending, ?_, ?_⟩
    · cases reply.writing? with
      | none => exact .nil
      | some w => exact List.pairwise_singleton _ _
    · intro w old v new
      have fresh := (t.written v (Option.mem_toList.1 new)).2.2.2.1
      exact Int.lt_of_le_of_lt (h.numbered w old) fresh
  case pending =>
    intro tx isOpen
    rw [IsOpen, mem_opened, mem_ended, not_or] at isOpen
    obtain ⟨opened, unended, going⟩ := isOpen
    rcases opened with old | new
    · rw [records_concat, t.pending tx (h.opened tx old) going, h.pending tx ⟨old, unended⟩]
    · obtain ⟨fresh, -, empty⟩ := t.opened tx new
      have unopened : tx ∉ b.opened := fun old => Nat.not_lt.2 (h.opened tx old) fresh
      rw [empty, t.records_of_not_open fun isOpen => unopened isOpen.1, h.records_of_not_opened unopened]
  case purchases =>
    have old : b.committed.flatMap (Register.records ⟨c, b.history ++ [reply]⟩) =
        b.committed.flatMap b.records :=
      List.flatMap_congr fun tx committed =>
        t.records_of_not_open fun isOpen => isOpen.2 (h.committed tx committed)
    have new : reply.committed?.toList.flatMap (Register.records ⟨c, b.history ++ [reply]⟩) =
        reply.committed?.toList.flatMap b.catalog.written := by
      refine List.flatMap_congr fun tx committed => ?_
      obtain ⟨ends, unwritten⟩ := t.committed tx (Option.mem_toList.1 committed)
      rw [records_concat, unwritten, h.pending tx (t.ended tx ends)]
      exact List.append_nil _
    rw [committed_concat, List.flatMap_append, old, new, ← h.purchases]
    exact t.purchases

/-- The switch is not part of the history. -/
theorem turn (h : b.Sound) (fail : Bool) : (b.switch fail).Sound :=
  ⟨h.opened, h.ended, h.committed, h.undone, h.held, h.made, h.numbered, h.ascending, h.pending, h.purchases⟩

/-- No two records have one id. -/
theorem nodup_ids (h : b.Sound) : (b.writings.map fun w => w.record.id).Nodup := by
  rw [List.Nodup, List.pairwise_map]
  exact h.ascending.imp fun less => Int.ne_of_lt less

/-- By its id a record leads to the transaction that it was written through. -/
theorem mem_committed (h : b.Sound) {tx : TxId} {r : PurchaseRecord} (written : r ∈ b.records tx)
    (purchased : r ∈ b.catalog.purchases) : tx ∈ b.committed := by
  rw [h.purchases] at purchased
  obtain ⟨other, committed, written'⟩ := List.mem_flatMap.1 purchased
  obtain ⟨w, own, rfl⟩ := List.mem_map.1 written
  obtain ⟨v, other', same⟩ := List.mem_map.1 written'
  obtain ⟨made, of⟩ := List.mem_filter.1 own
  obtain ⟨made', of'⟩ := List.mem_filter.1 other'
  obtain rfl : v = w := List.inj_on_of_nodup_map h.nodup_ids made' made (congrArg PurchaseRecord.id same)
  rwa [← of_decide_eq_true of, of_decide_eq_true of']

end Sound

namespace Leads

variable {b b' : Register}

theorem sound (h : b.Sound) (leads : b.Leads b') : b'.Sound := by
  induction leads with
  | refl => exact h
  | after _ c held ih => exact ih.step (.of_effect (effect_answer _ c) held)
  | switch _ fail ih => exact ih.turn fail

/-- Purchases stay where they are. -/
theorem purchases (leads : b.Leads b') : b.catalog.purchases <+: b'.catalog.purchases := by
  induction leads with
  | refl => exact List.prefix_refl _
  | after _ c held ih => exact ih.trans (Later.answer _ c).purchases
  | switch _ fail ih => exact ih

/-- An ended transaction stays as it was ended. -/
theorem settled (leads : b.Leads b') {tx : TxId} (ended : tx ∈ b.ended) :
    tx ∈ b'.ended ∧ b'.records tx = b.records tx ∧ (tx ∈ b'.committed ↔ tx ∈ b.committed) := by
  induction leads with
  | refl => exact ⟨ended, rfl, Iff.rfl⟩
  | @after b' leads c held ih =>
    obtain ⟨ended', records, committed⟩ := ih
    have tells := Tells.of_effect (effect_answer b'.catalog c) held
    refine ⟨mem_ended.2 (.inl ended'), ?_, ?_⟩
    · rw [Register.after, tells.records_of_not_open fun isOpen => isOpen.2 ended', records]
    · rw [Register.after, mem_committed, committed]
      exact or_iff_left fun new => (tells.ended tx (tells.committed tx new).1).2 ended'
  | switch _ fail ih => exact ih

end Leads

/-! ## Isolation -/

/-- What the transactions show at one point of a run, `b`, and at any later one, `b'`. -/
structure Isolated (b b' : Register) : Prop where
  /-- The purchases are the records of the transactions whose commits succeeded: these in the order of the
  commits, those of each in the order in which they were written. -/
  purchases : b.catalog.purchases = b.committed.flatMap b.records
  /-- A record is to be seen just when its transaction was committed. -/
  visible : ∀ tx, ∀ r ∈ b.records tx, r ∈ b.catalog.purchases ↔ tx ∈ b.committed
  /-- No transaction is committed that is open, or of which nothing is kept. -/
  unseen : ∀ tx, b.IsOpen tx ∨ tx ∈ b.undone → tx ∉ b.committed
  /-- Only a new product and a commit that succeeds are to be seen. -/
  hidden : ∀ c, Reply.shows ⟨c, (answer c b.catalog).1⟩ = false →
    (answer c b.catalog).2.products = b.catalog.products ∧
      (answer c b.catalog).2.purchases = b.catalog.purchases
  /-- A commit that fails changes nothing, but that its transaction is ended. -/
  failed : ∀ tx e c, b.catalog.commit tx = (.error e, c) →
    { c with pending := b.catalog.pending } = b.catalog ∧
      ∀ other, other ≠ tx → c.pending.get? other = b.catalog.pending.get? other
  /-- All records that were ever returned have ids of their own. -/
  distinct : (b.writings.map fun w => w.record.id).Nodup
  /-- A purchase is of a product that is there and can be looked up, and is as it was asked for. -/
  sold : ∀ r ∈ b.catalog.purchases,
    (∃ product, b.catalog.products.get? r.productId = some product ∧
      b.catalog.getProduct r.productId = .ok product) ∧
    ∃ w ∈ b.writings, w.record = r ∧ Records r w.purchase
  /-- Purchases are only added, at the end. -/
  later : b.catalog.purchases <+: b'.catalog.purchases
  /-- What became of a transaction that was ended is settled. -/
  settled : ∀ tx ∈ b.ended, b'.records tx = b.records tx ∧ (tx ∈ b'.committed ↔ tx ∈ b.committed)

/-- **Transactions are isolated, and kept as a whole or not at all**, however they overlap. -/
theorem isolated_of_leads {b b' : Register} (earlier : blank.Leads b) (later : b.Leads b') :
    b.Isolated b' := by
  have h := earlier.sound .blank
  refine ⟨h.purchases, ?_, ?_, fun c => (effect_answer b.catalog c).hidden, ?_, h.nodup_ids, ?_,
    later.purchases, fun tx ended => (later.settled ended).2⟩
  · intro tx r written
    refine ⟨h.mem_committed written, fun committed => ?_⟩
    rw [h.purchases]
    exact List.mem_flatMap.2 ⟨tx, committed, written⟩
  · rintro tx (isOpen | undone) committed
    · exact isOpen.2 (h.committed tx committed)
    · exact (h.undone tx undone).2 committed
  · intro tx e c failed
    unfold commit at failed
    split at failed
    · cases failed
      exact ⟨rfl, fun other different => by simp [discard, different]⟩
    · cases failed
  · intro r purchased
    rw [h.purchases] at purchased
    obtain ⟨tx, -, written⟩ := List.mem_flatMap.1 purchased
    obtain ⟨w, own, rfl⟩ := List.mem_map.1 written
    obtain ⟨made, stocked⟩ := h.made w (List.mem_filter.1 own).1
    refine ⟨?_, w, (List.mem_filter.1 own).1, rfl, made⟩
    obtain ⟨product, found⟩ := Option.isSome_iff_exists.1 stocked
    exact ⟨product, found, by rw [getProduct, found]⟩

/-- Of four transactions that overlap, the third is committed first, the second is rolled back, the commit of
the fourth fails, and the first is committed last: of five records the third is the first to be seen, and
the second and the fourth never are. -/
theorem isolated_overlapping :
    let cup : NewPurchase := ⟨⟨1⟩, ⟨2⟩, ⟨500⟩, ⟨500⟩, ⟨500⟩, none, ⟨5, 0⟩⟩
    let run := fun (b : Register) (calls : List ProductCall) => calls.foldl after b
    let begun := run blank [.createProduct "cup" ⟨500⟩ ⟨0, 0⟩, .begin, .begin, .begin, .begin]
    let b := run begun [.insertPurchase ⟨1⟩ cup, .insertPurchase ⟨2⟩ cup, .insertPurchase ⟨3⟩ cup,
      .insertPurchase ⟨4⟩ cup, .rollback ⟨2⟩, .commit ⟨3⟩]
    let failing := run (b.switch true) [.insertPurchase ⟨1⟩ cup, .commit ⟨4⟩]
    let b' := run (failing.switch false) [.commit ⟨1⟩]
    blank.Leads b ∧ b.Leads b' ∧ b.Isolated b' ∧ b.catalog.purchases.map PurchaseRecord.id = [3] ∧
      b'.catalog.purchases.map PurchaseRecord.id = [3, 1, 5] := by
  intro cup run begun b failing b'
  have earlier : blank.Leads b := by
    iterate 11 refine .after ?_ _ (by decide)
    exact .refl
  have later : b.Leads b' := by
    refine .after (.switch ?_ false) _ (by decide)
    iterate 2 refine .after ?_ _ (by decide)
    exact .switch .refl true
  exact ⟨earlier, later, isolated_of_leads earlier later, by decide, by decide⟩

end Register

end Couponry.Catalog
