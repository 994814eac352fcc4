import Loyalty.Document.Model
import Loyalty.Proofs.Decimal.Text
import Loyalty.Proofs.Json.Record
import Loyalty.Proofs.Token.Issued

/-!
# Loyalty.Proofs.Document.Kind

The kinds of documents that are written and read.

Each kind has values, a value of it has amounts and instants, and everything else
in it is identifiers, numbers and names.  A document is flat, so it is read from
its text as the JSON that it is, and the JSON as the value but for the signs of
zeros (`ofJson?_toJson`); what is read has no instants but regular ones
(`isRegular_of_ofJson?`).
-/

namespace Loyalty.Document

open Json

/-- A kind of documents. -/
inductive Kind
  | orderNumber
  | orderStatus
  | userId
  | order
  | balance
  | withdrawal
  | claims
  deriving DecidableEq

namespace Kind

/-- What documents of a kind stand for. -/
@[reducible] def Value : Kind → Type
  | orderNumber => OrderNumber
  | orderStatus => OrderStatus
  | userId => UserId
  | order => Order
  | balance => Balance
  | withdrawal => Withdrawal
  | claims => Claims

/-! ## writing and reading -/

/-- A value as JSON. -/
def toJson : (k : Kind) → k.Value → Json
  | orderNumber, n => OrderNumber.toJson n
  | orderStatus, status => OrderStatus.toJson status
  | userId, id => Uuid.toJson (UserId.uuid id)
  | order, o => Order.toJson o
  | balance, b => Balance.toJson b
  | withdrawal, w => Withdrawal.toJson w
  | claims, c => Claims.toJson c

/-- The value of JSON. -/
def ofJson? : (k : Kind) → Json → Option k.Value
  | orderNumber, v => OrderNumber.ofJson? v
  | orderStatus, v => OrderStatus.ofJson? v
  | userId, v => (Uuid.ofJson? v).map UserId.mk
  | order, v => Order.ofJson? v
  | balance, v => Balance.ofJson? v
  | withdrawal, v => Withdrawal.ofJson? v
  | claims, v => Claims.ofJson? v

/-- The text of a value. -/
def write (k : Kind) (v : k.Value) : String := (k.toJson v).toText

/-- The value of a text. -/
def read? (k : Kind) (text : String) : Option k.Value := (Json.read? text).bind k.ofJson?

/-! ## parts -/

/-- The amounts of a value. -/
def amounts : (k : Kind) → k.Value → List Points
  | orderNumber, _ | orderStatus, _ | userId, _ | claims, _ => []
  | order, o => (Order.accrual o).toList
  | balance, b => [Balance.current b, Balance.withdrawn b]
  | withdrawal, w => [Withdrawal.sum w]

/-- The instants of a value. -/
def instants : (k : Kind) → k.Value → List Instant
  | orderNumber, _ | orderStatus, _ | userId, _ | balance, _ => []
  | order, o => [Order.uploadedAt o]
  | withdrawal, w => [Withdrawal.processedAt w]
  | claims, c => [Claims.issuedAt c, Claims.expiresAt c]

/-- A value without signs on the zeros among its amounts. -/
def unsigned : (k : Kind) → k.Value → k.Value
  | orderNumber, n => n
  | orderStatus, status => status
  | userId, id => id
  | order, o => { o with accrual := o.accrual.map Decimal.unsigned }
  | balance, b => { b with current := b.current.unsigned, withdrawn := b.withdrawn.unsigned }
  | withdrawal, w => { w with sum := w.sum.unsigned }
  | claims, c => c

/-- Equality as the program has it: amounts are compared as numbers. -/
def Equal : (k : Kind) → k.Value → k.Value → Prop
  | orderNumber, m, n => m = n
  | orderStatus, s, t => s = t
  | userId, a, b => a = b
  | order, o, p => o.id = p.id ∧ o.number = p.number ∧ o.userId = p.userId ∧ o.status = p.status ∧
      Option.Rel Decimal.same o.accrual p.accrual ∧ o.uploadedAt = p.uploadedAt
  | balance, b, c => b.userId = c.userId ∧ b.current.same c.current ∧ b.withdrawn.same c.withdrawn
  | withdrawal, w, x => w.id = x.id ∧ w.userId = x.userId ∧ w.orderNumber = x.orderNumber ∧
      w.sum.same x.sum ∧
      w.processedAt = x.processedAt
  | claims, c, d => c = d

variable {k : Kind} {v : k.Value}

/-- The signs of zeros do not make another value. -/
theorem equal_unsigned (k : Kind) (v : k.Value) : k.Equal (k.unsigned v) v := by
  cases k with
  | orderNumber | orderStatus | userId | claims => rfl
  | order =>
      refine ⟨rfl, rfl, rfl, rfl, ?_, rfl⟩
      cases h : Order.accrual v with
      | none => simp [unsigned, h]
      | some amount => simpa [unsigned, h] using Decimal.same_unsigned amount
  | balance => exact ⟨rfl, Decimal.same_unsigned _, Decimal.same_unsigned _⟩
  | withdrawal => exact ⟨rfl, rfl, rfl, Decimal.same_unsigned _, rfl⟩

theorem amounts_unsigned (k : Kind) (v : k.Value) :
    k.amounts (k.unsigned v) = (k.amounts v).map Decimal.unsigned := by
  cases k with
  | orderNumber | orderStatus | userId | claims | balance | withdrawal => rfl
  | order => cases h : Order.accrual v <;> simp [amounts, unsigned, h]

@[simp] theorem instants_unsigned (k : Kind) (v : k.Value) :
    k.instants (k.unsigned v) = k.instants v := by
  cases k <;> rfl

/-- Every amount keeps its places. -/
theorem scales_unsigned (k : Kind) (v : k.Value) :
    (k.amounts (k.unsigned v)).map Decimal.scale = (k.amounts v).map Decimal.scale := by
  rw [amounts_unsigned, List.map_map]
  rfl

theorem unsigned_unsigned (k : Kind) (v : k.Value) : k.unsigned (k.unsigned v) = k.unsigned v := by
  cases k with
  | orderNumber | orderStatus | userId | claims | balance | withdrawal => rfl
  | order => simp [unsigned, Function.comp_def]

/-- A value without signed zeros is left as it is. -/
theorem unsigned_eq_self (h : ∀ a ∈ k.amounts v, a.negativeZero = false) : k.unsigned v = v := by
  have hself : ∀ a ∈ k.amounts v, Decimal.unsigned a = a :=
    fun a ha => Decimal.unsigned_eq_self_iff.mpr (h a ha)
  cases k with
  | orderNumber | orderStatus | userId | claims => rfl
  | order =>
      obtain ⟨id, number, userId, status, accrual, uploadedAt⟩ := v
      cases accrual with
      | none => rfl
      | some amount => simpa [unsigned, amounts] using hself
  | balance =>
      obtain ⟨userId, current, withdrawn⟩ := v
      simpa [unsigned, amounts] using hself
  | withdrawal =>
      obtain ⟨id, userId, orderNumber, sum, processedAt⟩ := v
      simpa [unsigned, amounts] using hself

/-! ## texts -/

theorem isFlat_toJson (k : Kind) (v : k.Value) : IsFlat (k.toJson v) := by
  cases k with
  | orderNumber | orderStatus | userId => exact .simple rfl
  | order =>
      refine .record ?_
      have haccrual : isSimple (accrualToJson (Order.accrual v)) = true := by
        cases Order.accrual v <;> rfl
      simpa [isSimple, Uuid.toJson, OrderNumber.toJson, OrderStatus.toJson, Instant.toJson,
        Json.text] using haccrual
  | balance =>
      refine .record ?_
      simp [isSimple, Uuid.toJson, ofDecimal, Json.text]
  | withdrawal =>
      refine .record ?_
      simp [isSimple, Uuid.toJson, OrderNumber.toJson, Instant.toJson, ofDecimal, Json.text]
  | claims =>
      refine .record ?_
      simp [isSimple, Uuid.toJson, Instant.toJson, Json.text]

/-- What is written is read as what its JSON is. -/
theorem read?_write (k : Kind) (v : k.Value) : k.read? (k.write v) = k.ofJson? (k.toJson v) := by
  rw [read?, write, read?_toText (isFlat_toJson k v), Option.bind_some]

theorem write_eq_iff {v w : k.Value} : k.write v = k.write w ↔ k.toJson v = k.toJson w :=
  ⟨eq_of_toText_eq (isFlat_toJson k v) (isFlat_toJson k w), congrArg Json.toText⟩

theorem ofDecimal_unsigned_eq_iff {d : Decimal} :
    ofDecimal d.unsigned = ofDecimal d ↔ d.negativeZero = false := by
  rw [← Decimal.toText_unsigned_eq_iff]
  simp [ofDecimal, text]

/-- The sign of a zero shows in what is written. -/
theorem write_unsigned_eq_iff (k : Kind) (v : k.Value) :
    k.write (k.unsigned v) = k.write v ↔ ∀ a ∈ k.amounts v, a.negativeZero = false := by
  rw [write_eq_iff]
  constructor
  · intro h
    cases k with
    | orderNumber | orderStatus | userId | claims => exact nofun
    | order =>
        simp only [toJson, Order.toJson, unsigned, record, List.map_cons, Json.object.injEq,
          List.cons.injEq, Prod.mk.injEq, true_and] at h
        cases haccrual : Order.accrual v with
        | none => simp [amounts, haccrual]
        | some amount =>
            rw [haccrual] at h
            simpa [amounts, haccrual] using ofDecimal_unsigned_eq_iff.mp h.1
    | balance =>
        simp only [toJson, Balance.toJson, unsigned, record, List.map_cons, Json.object.injEq,
          List.cons.injEq, Prod.mk.injEq, true_and, ofDecimal_unsigned_eq_iff] at h
        simpa [amounts] using ⟨h.1, h.2.1⟩
    | withdrawal =>
        simp only [toJson, Withdrawal.toJson, unsigned, record, List.map_cons, Json.object.injEq,
          List.cons.injEq, Prod.mk.injEq, true_and, ofDecimal_unsigned_eq_iff] at h
        simpa [amounts] using h.1
  · intro h
    rw [unsigned_eq_self h]

/-! ## JSON -/

theorem optional?_accrualToJson (accrual : Option Points) :
    optional? toDecimal? (some (accrualToJson accrual)) = some (accrual.map Decimal.unsigned) := by
  cases accrual with
  | none => rfl
  | some amount =>
      have hread := toDecimal?_ofDecimal amount
      rw [ofDecimal, text] at hread
      simp [optional?, accrualToJson, ofDecimal, text, hread]

/-- A value is read from its JSON, without the signs of zeros. -/
theorem ofJson?_toJson (h : ∀ a ∈ k.instants v, a.IsRegular) :
    k.ofJson? (k.toJson v) = some (k.unsigned v) := by
  have hinstant : ∀ a ∈ k.instants v, Instant.ofText? a.toText = some a := fun a ha =>
    Instant.ofText?_toText (h a ha).isRepresentable (h a ha).isWritable
  cases k with
  | orderNumber =>
      have hnumber := OrderNumber.parse?_text v
      simp [ofJson?, toJson, OrderNumber.ofJson?, OrderNumber.toJson, Json.text, asText?, hnumber,
        unsigned]
  | orderStatus =>
      have hstatus := OrderStatus.ofName?_name v
      simp [ofJson?, toJson, OrderStatus.ofJson?, OrderStatus.toJson, variant?, Json.text, hstatus,
        unsigned]
  | userId =>
      have hid := Uuid.ofText?_toText (UserId.uuid v)
      simp [ofJson?, toJson, Uuid.ofJson?, Uuid.toJson, Json.text, asText?, hid, unsigned]
  | order =>
      have hid := Uuid.ofText?_toText (Order.id v).uuid
      have huser := Uuid.ofText?_toText (Order.userId v).uuid
      have hnumber := OrderNumber.parse?_text (Order.number v)
      have hstatus := OrderStatus.ofName?_name (Order.status v)
      have huploaded := hinstant (Order.uploadedAt v) (List.mem_singleton_self _)
      have haccrual := optional?_accrualToJson (Order.accrual v)
      simp [ofJson?, toJson, Order.ofJson?, Order.toJson, fields?, record, namesFit, field?,
        Uuid.ofJson?, Uuid.toJson, Instant.ofJson?, Instant.toJson, OrderNumber.ofJson?,
        OrderNumber.toJson, OrderStatus.ofJson?, OrderStatus.toJson, variant?, Json.text, asText?,
        hid, huser, hnumber, hstatus, huploaded, haccrual, unsigned]
  | balance =>
      have huser := Uuid.ofText?_toText (Balance.userId v).uuid
      have hcurrent := toDecimal?_ofDecimal (Balance.current v)
      have hwithdrawn := toDecimal?_ofDecimal (Balance.withdrawn v)
      simp [ofJson?, toJson, Balance.ofJson?, Balance.toJson, fields?, record, namesFit, field?,
        Uuid.ofJson?, Uuid.toJson, Json.text, asText?, huser, hcurrent, hwithdrawn, unsigned]
  | withdrawal =>
      have hid := Uuid.ofText?_toText (Withdrawal.id v).uuid
      have huser := Uuid.ofText?_toText (Withdrawal.userId v).uuid
      have hnumber := OrderNumber.parse?_text (Withdrawal.orderNumber v)
      have hsum := toDecimal?_ofDecimal (Withdrawal.sum v)
      have hprocessed := hinstant (Withdrawal.processedAt v) (List.mem_singleton_self _)
      simp [ofJson?, toJson, Withdrawal.ofJson?, Withdrawal.toJson, fields?, record, namesFit,
        field?, Uuid.ofJson?, Uuid.toJson, Instant.ofJson?, Instant.toJson, OrderNumber.ofJson?,
        OrderNumber.toJson, Json.text, asText?, hid, huser, hnumber, hsum, hprocessed, unsigned]
  | claims =>
      have hissued := h (Claims.issuedAt v) (List.mem_cons_self ..)
      have hexpires := h (Claims.expiresAt v) (List.mem_cons_of_mem _ (List.mem_singleton_self _))
      exact Claims.ofJson?_toJson
        ⟨hissued.isRepresentable, hissued.isWritable, hexpires.isRepresentable,
        hexpires.isWritable⟩

theorem isRegular_of_instantOfJson? {j : Json} {a : Instant} (h : Instant.ofJson? j = some a) :
    a.IsRegular := by
  obtain ⟨s, -, htext⟩ := Option.bind_eq_some_iff.mp h
  exact Instant.isRegular_of_ofText? htext

/-- What is read has no instants but regular ones. -/
theorem isRegular_of_ofJson? {j : Json} (h : k.ofJson? j = some v) :
    ∀ a ∈ k.instants v, a.IsRegular := by
  cases k with
  | orderNumber | orderStatus | userId | balance => exact nofun
  | order =>
      simp only [ofJson?, Order.ofJson?, Option.bind_eq_bind, Option.bind_eq_some_iff] at h
      obtain ⟨fields, -, h⟩ := h
      split at h
      · simp only [Option.pure_def, Option.bind_eq_some_iff, Option.some.injEq] at h
        obtain ⟨-, -, -, -, -, -, -, -, -, -, uploadedAt, huploaded, rfl⟩ := h
        exact List.forall_mem_singleton.mpr (isRegular_of_instantOfJson? huploaded)
      · cases h
  | withdrawal =>
      simp only [ofJson?, Withdrawal.ofJson?, Option.bind_eq_bind, Option.bind_eq_some_iff] at h
      obtain ⟨fields, -, h⟩ := h
      split at h
      · simp only [Option.pure_def, Option.bind_eq_some_iff, Option.some.injEq] at h
        obtain ⟨-, -, -, -, -, -, -, -, processedAt, hprocessed, rfl⟩ := h
        exact List.forall_mem_singleton.mpr (isRegular_of_instantOfJson? hprocessed)
      · cases h
  | claims =>
      simp only [ofJson?, Claims.ofJson?, Option.bind_eq_bind, Option.bind_eq_some_iff] at h
      obtain ⟨fields, -, h⟩ := h
      split at h
      · simp only [Option.pure_def, Option.bind_eq_some_iff, Option.some.injEq] at h
        obtain ⟨-, -, issuedAt, hissued, expiresAt, hexpires, rfl⟩ := h
        exact List.forall_mem_cons.mpr ⟨isRegular_of_instantOfJson? hissued,
          List.forall_mem_singleton.mpr (isRegular_of_instantOfJson? hexpires)⟩
      · cases h

end Kind

end Loyalty.Document
