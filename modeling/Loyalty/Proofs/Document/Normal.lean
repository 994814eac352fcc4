import Loyalty.Proofs.Balance
import Loyalty.Proofs.Document.Kind
import Loyalty.Proofs.Memory.Orders

/-!
# Loyalty.Proofs.Document.Normal

Writing and reading bring documents into a normal form.

A value with regular instants is read back from its text without the signs of
zeros, and nothing else of it changes (`Settles`); whatever was read is such a
value.  A value that the domain makes has no signed zeros, so it is read back as
it is (`Built`).  Where a zero has a sign the two texts differ in it, and a
document can have one: that of a negative amount whose digits an exponent cuts.
-/

namespace Loyalty

open Json

/-! ## balances -/

namespace Balance

/-- No zero of a balance has a sign. -/
structure Plain (b : Balance) : Prop where
  current : b.current.negativeZero = false
  withdrawn : b.withdrawn.negativeZero = false

theorem plain_zero (userId : UserId) : (zero userId).Plain := ⟨rfl, rfl⟩

variable {b b' : Balance} {amount : Points}

theorem Plain.credit (h : b.Plain) (hc : b.credit amount = .ok b') : b'.Plain := by
  obtain ⟨hpos, current, hadd, -, rfl⟩ := credit_eq_ok_iff.mp hc
  exact ⟨Decimal.negativeZero_of_add? h.current
    (Decimal.negativeZero_of_coeff_ne_zero hpos.ne') hadd, h.withdrawn⟩

theorem Plain.remaining (h : b.Plain) (hamount : amount.negativeZero = false) :
    (remaining b.current amount).negativeZero = false := by
  unfold Balance.remaining
  cases hsub : b.current.sub? amount with
  | none => rfl
  | some current => exact Decimal.negativeZero_of_sub? h.current hamount hsub

theorem Plain.debit (h : b.Plain) (hd : b.debit amount = .ok b') : b'.Plain := by
  obtain ⟨hpos, -, withdrawn, hadd, -, rfl⟩ := debit_eq_ok_iff.mp hd
  have hamount := Decimal.negativeZero_of_coeff_ne_zero hpos.ne'
  exact ⟨h.remaining hamount, Decimal.negativeZero_of_add? h.withdrawn hamount hadd⟩

end Balance

namespace Document

/-! ## what the domain makes -/

/-- The values that the domain makes: numbers it parsed, orders that were submitted and followed,
balances from their opening on, the records of debits that were granted, and claims that were
issued. -/
inductive Built : (k : Kind) → k.Value → Prop
  | number {raw : String} {orderNumber : OrderNumber}
      (h : OrderNumber.parse raw = .ok orderNumber) :
    Built .orderNumber orderNumber
  | status (status : OrderStatus) : Built .orderStatus status
  | user (id : UserId) : Built .userId id
  | submitted (id : OrderId) (userId : UserId) (orderNumber : OrderNumber) {uploadedAt : Instant}
    (h : uploadedAt.IsRegular) : Built .order (Order.submitted id userId orderNumber uploadedAt)
  | revised {o : Order} (h : Built .order o) (status : OrderStatus) (accrual : Option Points) :
    Built .order (o.revised status accrual)
  | opened (userId : UserId) : Built .balance (Balance.zero userId)
  | credited {b b' : Balance} {amount : Points} (h : Built .balance b)
      (hc : b.credit amount = .ok b') :
    Built .balance b'
  | debited {b b' : Balance} {amount : Points} (h : Built .balance b)
      (hd : b.debit amount = .ok b') :
    Built .balance b'
  | withdrawn (id : WithdrawalId) {b b' : Balance} (orderNumber : OrderNumber) {sum : Points}
    (hd : b.debit sum = .ok b') {processedAt : Instant} (h : processedAt.IsRegular) :
    Built .withdrawal { id, userId := b.userId, orderNumber, sum, processedAt }
  | issued (sub : UserId) {issuedAt : Instant} (lifetime : TimeSpan) (h : issuedAt.IsRegular)
      (hend : (issuedAt.add lifetime).isRepresentable = true) :
      Built .claims (Claims.issue sub issuedAt lifetime)

variable {k : Kind} {v : k.Value}

/-- No zero that the domain makes has a sign. -/
theorem Built.negativeZero (h : Built k v) : ∀ a ∈ k.amounts v, a.negativeZero = false := by
  have hbalance {b : Balance} (hb : b.Plain) :
      ∀ a ∈ Kind.balance.amounts b, a.negativeZero = false := by
    simpa [Kind.amounts] using ⟨hb.current, hb.withdrawn⟩
  have hplain {b : Balance} (hb : ∀ a ∈ Kind.balance.amounts b, a.negativeZero = false) : b.Plain :=
    ⟨hb _ (List.mem_cons_self ..), hb _ (List.mem_cons_of_mem _ (List.mem_singleton_self _))⟩
  induction h with
  | number | status | user | submitted | issued => simp [Kind.amounts, Order.submitted]
  | revised _ status accrual =>
      intro a ha
      obtain ⟨-, -, hpos⟩ := Order.persistedAccrual_eq_some_iff.mp (Option.mem_toList.mp ha)
      exact Decimal.negativeZero_of_coeff_ne_zero ((Decimal.zero_lt_iff a).mp hpos).ne'
  | opened userId => exact hbalance (Balance.plain_zero userId)
  | credited _ hc ih => exact hbalance ((hplain ih).credit hc)
  | debited _ hd ih => exact hbalance ((hplain ih).debit hd)
  | withdrawn id orderNumber hd =>
      obtain ⟨hpos, -⟩ := Balance.debit_eq_ok_iff.mp hd
      exact List.forall_mem_singleton.mpr (Decimal.negativeZero_of_coeff_ne_zero hpos.ne')

/-- Every instant that the domain makes is regular. -/
theorem Built.isRegular (h : Built k v) : ∀ a ∈ k.instants v, a.IsRegular := by
  induction h with
  | number | status | user | opened | credited | debited => simp [Kind.instants]
  | submitted _ _ _ h => exact List.forall_mem_singleton.mpr h
  | revised _ _ _ ih => exact ih
  | withdrawn _ _ _ h => exact List.forall_mem_singleton.mpr h
  | issued sub lifetime h hend =>
      exact List.forall_mem_cons.mpr
        ⟨h, List.forall_mem_singleton.mpr ⟨hend, h.isWritable.add lifetime⟩⟩

namespace Kind

/-! ## the normal form -/

/-- What is read from the text of a value: the value without the signs of zeros, which is equal to
it in the places of its amounts and the nanoseconds of its instants too, and is written as before
unless a zero has lost its sign, and always the same from then on. -/
structure Settles (k : Kind) (v : k.Value) : Prop where
  read_write : k.read? (k.write v) = some (k.unsigned v)
  equal : k.Equal (k.unsigned v) v
  scales : (k.amounts (k.unsigned v)).map Decimal.scale = (k.amounts v).map Decimal.scale
  instants : k.instants (k.unsigned v) = k.instants v
  write_eq_iff : k.write (k.unsigned v) = k.write v ↔ ∀ a ∈ k.amounts v, a.negativeZero = false
  read_write_again : k.read? (k.write (k.unsigned v)) = some (k.unsigned v)

theorem read?_write_of_isRegular (h : ∀ a ∈ k.instants v, a.IsRegular) :
    k.read? (k.write v) = some (k.unsigned v) := by
  rw [read?_write, ofJson?_toJson h]

theorem isRegular_of_read? {text : String} (h : k.read? text = some v) :
    ∀ a ∈ k.instants v, a.IsRegular := by
  obtain ⟨j, -, hj⟩ := Option.bind_eq_some_iff.mp h
  exact isRegular_of_ofJson? hj

/-- Values with regular instants are brought into the normal form, and no others: what is read has
no other instants. -/
theorem settles_iff : k.Settles v ↔ ∀ a ∈ k.instants v, a.IsRegular := by
  constructor
  · intro h
    have hregular := isRegular_of_read? h.read_write
    rwa [instants_unsigned] at hregular
  · intro h
    refine ⟨read?_write_of_isRegular h, equal_unsigned k v, scales_unsigned k v,
      instants_unsigned k v,
      write_unsigned_eq_iff k v, ?_⟩
    have hregular : ∀ a ∈ k.instants (k.unsigned v), a.IsRegular := by rwa [instants_unsigned]
    rw [read?_write_of_isRegular hregular, unsigned_unsigned]

/-! ## signed zeros -/

/-- A balance with the zero that is left of a negative number, as a document. -/
def cutDocument : Json :=
  .record [("user_id", .text "00000000-0000-0000-0000-000000000000"),
    ("current", .text "-0.04e-27"), ("withdrawn", .text "0")]

/-- The balance of `cutDocument`. -/
def cutBalance : Balance where
  userId := ⟨⟨0⟩⟩
  current := (Decimal.ofMagnitude? true 0 28).getD .zero
  withdrawn := .zero

theorem read?_cutDocument : balance.read? cutDocument.toText = some cutBalance := by
  have hflat : IsFlat cutDocument := .record (by simp [isSimple, Json.text])
  rw [read?, read?_toText hflat, Option.bind_some]
  decide +kernel

/-- **Reading and writing is a normal form**: for every kind of documents,

* what any text is read as is written as a text that is read as an equal value, with the places of
  all amounts and the nanoseconds of all instants; that value is written as the same text exactly if
  no amount is a zero with a sign, and is always read back as itself;
* the same holds of exactly the values whose instants are regular, wherever they come from;
* what the domain makes is read back as it is, sign for sign;
* and a zero with a sign is read only of a string with an exponent. -/
theorem read_write_settles :
    (∀ (k : Kind) (text : String) (v : k.Value), k.read? text = some v → k.Settles v) ∧
      (∀ (k : Kind) (v : k.Value), k.Settles v ↔ ∀ a ∈ k.instants v, a.IsRegular) ∧
      (∀ (k : Kind) (v : k.Value), Built k v → k.read? (k.write v) = some v) ∧
      ∀ (j : Json) (d : Decimal), toDecimal? j = some d → d.negativeZero = true →
        ∃ s, j = .text s ∧ ∃ c ∈ s.toList, c = 'e' ∨ c = 'E' := by
  refine ⟨fun k text v h => settles_iff.mpr (isRegular_of_read? h), fun k v => settles_iff,
    fun k v h => ?_,
    fun j d h hsigned => exponent_of_toDecimal? h hsigned⟩
  rw [read?_write_of_isRegular h.isRegular, unsigned_eq_self h.negativeZero]

theorem read_write_settles_cut :
    (balance.read? cutDocument.toText = some cutBalance ∧ balance.Settles cutBalance) ∧
      (Instant.epoch.IsRegular ∧
        withdrawal.Settles ⟨⟨⟨0⟩⟩, ⟨⟨0⟩⟩, default, cutBalance.current, .epoch⟩) ∧
      (Built .balance (Balance.zero ⟨⟨0⟩⟩) ∧
        balance.read? (balance.write (Balance.zero ⟨⟨0⟩⟩)) = some (Balance.zero ⟨⟨0⟩⟩)) ∧
      toDecimal? (.text "-0.04e-27") = some cutBalance.current ∧
        cutBalance.current.negativeZero = true ∧
      ∃ s, Json.text "-0.04e-27" = .text s ∧ ∃ c ∈ s.toList, c = 'e' ∨ c = 'E' := by
  obtain ⟨hread, hregular, hbuilt, hsigned⟩ := read_write_settles
  have hepoch : Instant.epoch.IsRegular := ⟨by decide +kernel, .inl (by decide)⟩
  have hzero : toDecimal? (.text "-0.04e-27") = some cutBalance.current := by decide +kernel
  exact ⟨⟨read?_cutDocument, hread _ _ _ read?_cutDocument⟩,
    ⟨hepoch, (hregular _ _).mpr (List.forall_mem_singleton.mpr hepoch)⟩,
    ⟨.opened _, hbuilt _ _ (.opened _)⟩, hzero, rfl, hsigned _ _ hzero rfl⟩

/-- The text is not always the same again: the sign of a zero is written once and never read. -/
theorem exists_write_ne :
    ¬ ∀ (k : Kind) (text : String) (v : k.Value), k.read? text = some v →
      ∃ w, k.read? (k.write v) = some w ∧ k.Equal w v ∧ k.write w = k.write v := by
  intro h
  obtain ⟨w, hread, -, hwrite⟩ := h balance cutDocument.toText cutBalance read?_cutDocument
  rw [read?_write_of_isRegular (k := balance) nofun] at hread
  obtain rfl := Option.some.inj hread
  have hsigned :=
    (write_unsigned_eq_iff balance cutBalance).mp hwrite cutBalance.current (List.mem_cons_self ..)
  exact absurd hsigned (by decide)

end Kind

end Document

end Loyalty
