import Couponry.Proofs.Coupon.Valid
import Couponry.Proofs.Http.Authority
import Couponry.Proofs.Json.Decoded

/-!
# Prices and words

What is computed of a price, against signed words of 64 bits. A price that is accepted over HTTP is a word
and no debt, and so is all that a coupon makes of it, except for the product of price and percentage:
`Charged` says up to where that is a word. Nothing bounds a price from above, so `overflowing` finds one
whose product is none.
-/

namespace Couponry

open Couponry.Text Couponry.Json Couponry.Http

theorem Text.fitsInt64_iff {n : Int} :
    fitsInt64 n = true ↔ -9223372036854775808 ≤ n ∧ n ≤ 9223372036854775807 := by
  rw [fitsInt64, decide_eq_true_eq]

/-! ## Shares -/

/-- The share of `p` percent, if the product wraps around at the ends of a word. -/
def Money.wrappedPercent (m : Money) (p : Nat) : Money :=
  ⟨((m.timesPercent p).bmod (2 ^ 64)).tdiv 100⟩

section Shares

variable {price : Money} {p : Nat}

theorem Money.timesPercent_bounds (nonneg : 0 ≤ price.cents) (bound : p ≤ 100) :
    0 ≤ price.timesPercent p ∧ price.timesPercent p ≤ price.cents * 100 :=
  ⟨Int.mul_nonneg nonneg (Int.natCast_nonneg p),
    Int.mul_le_mul_of_nonneg_left (Int.ofNat_le.2 bound) nonneg⟩

/-- A share of at most the whole is no debt, and not more than the whole. -/
theorem Money.percent_bounds (nonneg : 0 ≤ price.cents) (bound : p ≤ 100) :
    0 ≤ (price.percent p).cents ∧ (price.percent p).cents ≤ price.cents := by
  obtain ⟨low, high⟩ := Money.timesPercent_bounds nonneg bound
  show 0 ≤ (price.timesPercent p).tdiv 100 ∧ (price.timesPercent p).tdiv 100 ≤ price.cents
  rw [Int.tdiv_eq_ediv_of_nonneg low]
  omega

/-- A product that is a word does not wrap around. -/
theorem Money.wrappedPercent_eq (word : fitsInt64 (price.timesPercent p) = true) :
    price.wrappedPercent p = price.percent p := by
  obtain ⟨low, high⟩ := fitsInt64_iff.1 word
  rw [wrappedPercent, Int.bmod_eq_of_le (by omega) (by omega), percent]

/-- Where the product wraps around, the price was so high that no word is a greater share. -/
theorem Money.wrappedPercent_le (nonneg : 0 ≤ price.cents) (bound : p ≤ 100) :
    (price.wrappedPercent p).cents ≤ price.cents := by
  cases word : fitsInt64 (price.timesPercent p) with
  | true =>
    rw [Money.wrappedPercent_eq word]
    exact (Money.percent_bounds nonneg bound).2
  | false =>
    obtain ⟨low, high⟩ := Money.timesPercent_bounds nonneg bound
    have beyond : 9223372036854775807 < price.timesPercent p := by
      rw [fitsInt64, decide_eq_false_iff_not] at word
      omega
    show ((price.timesPercent p).bmod (2 ^ 64)).tdiv 100 ≤ price.cents
    have most : (price.timesPercent p).bmod (2 ^ 64) < ((2 ^ 64 : Nat) + 1) / 2 := Int.bmod_lt (by decide)
    generalize (price.timesPercent p).bmod (2 ^ 64) = wrapped at most ⊢
    rcases Int.le_total 0 wrapped with positive | negative
    · rw [Int.tdiv_eq_ediv_of_nonneg positive]
      omega
    · have share : 0 ≤ (-wrapped).tdiv 100 := Int.tdiv_nonneg (by omega) (by decide)
      rw [Int.neg_tdiv] at share
      omega

end Shares

/-- What a product costs with `p` percent of its price, in words. -/
structure Charged (product : Product) (p : Nat) : Prop where
  price : fitsInt64 product.price.cents = true
  percent : fitsInt64 p = true
  share : fitsInt64 (product.price.percent p).cents = true
  /-- What is divided for the share is a word up to the greatest one only. -/
  dividend : fitsInt64 (product.price.timesPercent p) = true ↔
    product.price.cents * p ≤ 9223372036854775807
  /-- Then the share is exact. -/
  exact : fitsInt64 (product.price.timesPercent p) = true →
    product.price.wrappedPercent p = (DiscountRule.percent p).apply product.price
  /-- Whoever buys it, what is charged lies between nothing and the price, even if the product wraps around. -/
  total : ∀ caller id code now,
    ∀ discounted ∈ [(DiscountRule.percent p).apply product.price, product.price.wrappedPercent p],
      let purchase := Saga.purchaseOf caller product id discounted code now
      fitsInt64 purchase.total.cents = true ∧ 0 ≤ purchase.total.cents ∧
        purchase.total.cents ≤ product.price.cents

/-- The price of a product that was accepted. -/
structure Priced (product : Product) : Prop where
  price : fitsInt64 product.price.cents = true
  nonneg : 0 ≤ product.price.cents
  /-- What any coupon takes off that is accepted, too. -/
  charged : ∀ c p, NewCoupon.fault? c = none → c.discount = .percent p → Charged product p
  /-- No product with a percentage leaves the words just when the price is at most this. -/
  small : (∀ p ≤ 100, fitsInt64 (product.price.timesPercent p) = true) ↔
    product.price.cents ≤ 92233720368547758

theorem Charged.of_price {product : Product} (price : fitsInt64 product.price.cents = true)
    (nonneg : 0 ≤ product.price.cents) {p : Nat} (bound : p ≤ 100) : Charged product p := by
  obtain ⟨low, -⟩ := Money.timesPercent_bounds nonneg bound
  obtain ⟨least, most⟩ := Money.percent_bounds nonneg bound
  obtain ⟨-, word⟩ := fitsInt64_iff.1 price
  have share : fitsInt64 (product.price.percent p).cents = true := fitsInt64_iff.2 (by omega)
  refine ⟨price, fitsInt64_iff.2 (by omega), share, ?_, Money.wrappedPercent_eq, ?_⟩
  · show _ ↔ product.price.timesPercent p ≤ _
    rw [fitsInt64_iff]
    omega
  · intro caller id code now discounted listed purchase
    have atMost : discounted.cents ≤ product.price.cents := by
      simp only [List.mem_cons, List.not_mem_nil, or_false] at listed
      rcases listed with rfl | rfl
      · exact most
      · exact Money.wrappedPercent_le nonneg bound
    have total : purchase.total.cents = max discounted.cents 0 := rfl
    rw [total, fitsInt64_iff]
    omega

theorem Priced.of_price {product : Product} (price : fitsInt64 product.price.cents = true)
    (nonneg : 0 ≤ product.price.cents) : Priced product := by
  refine ⟨price, nonneg, fun c p sound percent => ?_, ?_, fun small p bound => ?_⟩
  · have range := (NewCoupon.valid_of_sound sound).discount
    rw [percent] at range
    exact .of_price price nonneg range
  · intro words
    have whole := (fitsInt64_iff.1 (words 100 (Nat.le_refl _))).2
    simp only [Money.timesPercent] at whole
    omega
  · obtain ⟨low, high⟩ := Money.timesPercent_bounds nonneg bound
    exact fitsInt64_iff.2 (by omega)

/-- All products that are stored are priced. -/
def Stores.AllPriced (s : Stores) : Prop :=
  ∀ id product, s.catalog.products.get? id = some product → Priced product

/-! ## Accepted prices -/

namespace Http.Router

/-- The price in a body that can be read is a word. -/
theorem price_of_productBody {r : Reading} {p : NewProduct} (given : productBody r = .ok p) :
    fitsInt64 p.priceCents = true := by
  obtain ⟨look, built⟩ := Record.build_of_read given
  obtain ⟨f, named, built⟩ := bind_eq_ok built
  obtain ⟨n, read, rfl⟩ := map_eq_ok built
  obtain ⟨name, -, rfl⟩ := map_eq_ok named
  simp only [Wire.field, Record.required] at read
  split at read
  · exact Decoder.int64_eq_ok read
  · cases read

theorem price_of_body {r : Request} {p : NewProduct} (given : body productBody r = .ok p) :
    fitsInt64 p.priceCents = true := by
  unfold body at given
  split at given
  · split at given
    · next read =>
      cases given
      obtain ⟨a, value, clean⟩ := bind_eq_ok read
      split at clean
      · cases clean
        exact price_of_productBody value
      · cases clean
    · cases given
    · cases given
  · cases given

theorem status_of_body {α : Type} {d : Decoder α} {r : Request} {response : Response}
    (refused : body d r = .error response) : response.status ≠ 201 := by
  unfold body at refused
  split at refused
  · split at refused
    · cases refused
    all_goals
      cases refused
      decide
  · cases refused
    decide

end Http.Router

namespace Deployment

section Creation

variable (r : Request) (t : Stores × HostScript)

/-- A failure that is told creates nothing. -/
theorem run_fail_attend (e : ApiError) :
    let out := ((Api.fail e).via (ofApi inProcess)).run Stores.attend t
    out.1.status ≠ 201 ∧ out.2.1 = t.1 := by
  have status : e.response.status ≠ 201 := by
    show e.kind.status ≠ 201
    cases e.kind <;> decide
  unfold Api.fail
  split <;> exact ⟨status, rfl⟩

/-- The handler of new products refuses and changes nothing, or adds one whose price is a word and no debt. -/
theorem run_createProduct :
    let out := ((Router.createProduct r).via (ofApi inProcess)).run Stores.attend t
    (out.1.status ≠ 201 ∧ out.2.1 = t.1) ∨ ∃ name price now, fitsInt64 price = true ∧ 0 ≤ price ∧
      out.2.1.catalog = (t.1.catalog.addProduct name ⟨price⟩ now).2 := by
  unfold Router.createProduct Router.withCaller
  split
  · next caller _ =>
    cases given : Router.body Router.productBody r with
    | error response => exact .inl ⟨Router.status_of_body given, rfl⟩
    | ok p =>
      simp only [Router.given]
      split
      · exact .inl (run_fail_attend t _)
      · split
        · exact .inl (run_fail_attend t _)
        · next accepted =>
          have nonneg : 0 ≤ p.priceCents := by simp at accepted; omega
          exact .inr ⟨trim p.name, p.priceCents, _, Router.price_of_body given, nonneg, rfl⟩
  · exact .inl (run_fail_attend t _)

/-- A request for a new product is refused and changes nothing, or adds one that is priced. -/
theorem respond_of_stocks (asked : r.Stocks) :
    let out := (respond inProcess r).run Stores.attend t
    (out.1.status ≠ 201 ∧ out.2.1 = t.1) ∨ ∃ name price now,
      Priced (t.1.catalog.addProduct name price now).1 ∧
        out.2.1.catalog = (t.1.catalog.addProduct name price now).2 := by
  have found : Route.ofPath r.path = some .products := Route.ofPath_eq_some_iff.2 ⟨asked.2, trivial⟩
  have goes := dispatch_of_has found (by simp [Route.methods, asked.1])
  rw [run_respond_eq, goes]
  rcases run_createProduct r t with refused | ⟨name, price, now, word, nonneg, added⟩
  · exact .inl refused
  · exact .inr ⟨name, ⟨price⟩, now, .of_price word nonneg, added⟩

/-- A request leaves all products priced. -/
theorem allPriced_respond (priced : t.1.AllPriced) :
    ((respond inProcess r).run Stores.attend t).2.1.AllPriced := by
  by_cases asked : r.Stocks
  · rcases respond_of_stocks r t asked with ⟨-, same⟩ | ⟨name, price, now, new, added⟩
    · rw [same]
      exact priced
    · rw [Stores.AllPriced, added]
      exact Table.forall_insert priced new
  · have kept := mt (handled_respond r t.1 t.2).products fun asks => asked asks.1
    rw [Stores.AllPriced, Decidable.not_not.1 kept]
    exact priced

end Creation

/-- What is left when requests were answered one after the other. -/
def served (requests : List Request) (t : Stores × HostScript) : Stores × HostScript :=
  requests.foldl (fun t r => ((respond inProcess r).run Stores.attend t).2) t

theorem allPriced_served (requests : List Request) {t : Stores × HostScript} (priced : t.1.AllPriced) :
    (served requests t).1.AllPriced := by
  induction requests generalizing t with
  | nil => exact priced
  | cons r requests ih => exact ih (allPriced_respond r t priced)

/-- **A price that is accepted keeps within words**, and so does all that an accepted coupon makes of it, but
for the product of the two. -/
theorem priced_of_created {r : Request} {t : Stores × HostScript} (asked : r.Stocks)
    (created : ((respond inProcess r).run Stores.attend t).1.status = 201) :
    ∃ product : Product, product.id = ⟨t.1.catalog.lastProductId + 1⟩ ∧
      ((respond inProcess r).run Stores.attend t).2.1.catalog.getProduct product.id = .ok product ∧
      Priced product := by
  rcases respond_of_stocks r t asked with ⟨refused, -⟩ | ⟨name, price, now, priced, added⟩
  · exact absurd created refused
  · refine ⟨(t.1.catalog.addProduct name price now).1, rfl, ?_, priced⟩
    rw [added, Catalog.getProduct, Catalog.addProduct, Table.get?_insert, if_pos rfl]

/-- A request of an admin with a body of JSON. -/
def posting (target body : String) : Request :=
  ⟨"POST", target, [("x-user-id", "1"), ("x-user-role", "admin"), ("content-type", "application/json")], body⟩

/-- A cup is created for five dollars, and priced. -/
theorem priced_of_created_cup :
    let r := posting "/products" "\x7b\"name\":\"cup\",\"price_cents\":500\x7d"
    let t : Stores × HostScript := (⟨.empty, .empty⟩, fun _ => .stopped ⟨0, 0⟩)
    let out := (respond inProcess r).run Stores.attend t
    r.Stocks ∧ out.1.status = 201 ∧ ∃ product : Product, product.id = ⟨1⟩ ∧
      out.2.1.catalog.getProduct product.id = .ok product ∧ Priced product := by
  intro r t out
  have asked : r.Stocks := ⟨rfl, by decide⟩
  have created : out.1.status = 201 := by decide +kernel
  exact ⟨asked, created, priced_of_created asked created⟩

/-- A product whose price is the greatest word is accepted, and so is a coupon that leaves all of it to be
paid: the product of the two is no word. If it wraps around, nothing is charged. -/
theorem overflowing :
    let r := posting "/products" "\x7b\"name\":\"yacht\",\"price_cents\":9223372036854775807\x7d"
    let t : Stores × HostScript := (⟨.empty, .empty⟩, fun _ => .stopped ⟨5, 0⟩)
    let out := (respond inProcess r).run Stores.attend t
    let yacht : Product := ⟨⟨1⟩, "yacht", ⟨9223372036854775807⟩, ⟨5, 0⟩⟩
    let whole : NewCoupon := ⟨"ALL", ⟨0, 0⟩, ⟨10, 0⟩, .percent 100, .limited, 3, none, none, ⟨1⟩, ⟨0, 0⟩⟩
    out.1.status = 201 ∧ out.2.1.catalog.getProduct ⟨1⟩ = .ok yacht ∧
      (out.2.1.ledger.createCoupon whole).1 = .ok ⟨1⟩ ∧
      yacht.price.timesPercent 100 = 922337203685477580700 ∧
      fitsInt64 (yacht.price.timesPercent 100) = false ∧
      (yacht.price.wrappedPercent 100).nonNegative = .zero := by
  intro r t out yacht whole
  have answered : out.1.status = 201 ∧ out.2.1.catalog.products.get? ⟨1⟩ = some yacht ∧
      out.2.1.ledger = .empty := by
    decide +kernel
  obtain ⟨status, stocked, kept⟩ := answered
  refine ⟨status, ?_, ?_, by decide, by decide, by decide⟩
  · rw [Catalog.getProduct, stocked]
  · have sound : whole.fault? = none := by decide
    simp [kept, Ledger.createCoupon, sound, Ledger.empty, Table.contains]

end Deployment

end Couponry
