import Loyalty.Proofs.Balance
import Loyalty.Store.Database.Row
import Loyalty.Store.Database.Statement

/-!
# Loyalty.Proofs.Database.Tables

The tables of a database server, and what statements about balances do to them.

Amounts are kept as `NUMERIC(15, 2)`: what is stored is rounded to cents, half
away from zero, and what has more than fifteen digits is refused.  A transaction
has its own changes on top of the tables that everybody sees; its rows are its
own until it ends, because it holds their locks, and `publish` is its end.

Credits and records carry the number of the client that made them.  No
statement reads it; it says whose they are.
-/

namespace Loyalty.Database

open Decimal

/-! ## amounts -/

/-- A stored amount: whole cents of at most fifteen digits. -/
structure Numeric where
  cents : ℤ
  lt : cents.natAbs < 10 ^ 15
  deriving DecidableEq

namespace Numeric

/-- A number in cents, rounded half away from zero. -/
def roundCents (x : ℚ) : ℤ := if 0 ≤ x then ⌊x * 100 + 1 / 2⌋ else -⌊-x * 100 + 1 / 2⌋

/-- A number as it is stored, if it has not too many digits. -/
def ofRat? (x : ℚ) : Option Numeric :=
  if h : (roundCents x).natAbs < 10 ^ 15 then some ⟨roundCents x, h⟩ else none

/-- The exact value. -/
def toRat (n : Numeric) : ℚ := n.cents / 100

/-- A stored amount as it is sent. -/
def toDecimal (n : Numeric) : Decimal where
  coeff := n.cents
  scale := Points.places
  coeff_lt := n.lt.trans (by decide)
  scale_le := Points.max.scale_le

/-- Nothing. -/
def zero : Numeric := ⟨0, by decide⟩

@[simp] theorem toRat_zero : zero.toRat = 0 := by simp [toRat, zero]

@[simp] theorem toRat_toDecimal (n : Numeric) : n.toDecimal.toRat = n.toRat := by
  rw [toRat_eq, toRat, toDecimal]
  norm_num [Points.places]

/-- What is sent without its places is read as the same number. -/
theorem toRat_sent (value : Decimal) : (Row.sent value).toRat = value.toRat := by
  unfold Row.sent
  split
  · next hzero => rw [Decimal.toRat_zero, value.toRat_eq_zero_iff.mpr hzero]
  · rfl

theorem roundCents_of_cents (m : ℤ) : roundCents (m / 100) = m := by
  have hfloor : ∀ k : ℤ, ⌊(k : ℚ) / 100 * 100 + 1 / 2⌋ = k := by
    intro k
    rw [div_mul_cancel₀ _ (by norm_num), Int.floor_eq_iff]
    constructor <;> linarith
  unfold roundCents
  split
  · exact hfloor m
  · have hneg : -((m : ℚ) / 100) = ((-m : ℤ) : ℚ) / 100 := by push_cast; ring
    rw [hneg, hfloor (-m), neg_neg]

theorem cents_of_ofRat? {x : ℚ} {n : Numeric} (h : ofRat? x = some n) : n.cents = roundCents x := by
  unfold ofRat? at h
  split at h
  · rw [← Option.some.inj h]
  · contradiction

/-- Whole cents are stored as they are. -/
theorem toRat_of_ofRat? {x : ℚ} {n : Numeric} (hx : OnGrid Points.places x)
    (h : ofRat? x = some n) :
    n.toRat = x := by
  obtain ⟨m, rfl⟩ := hx
  have hplaces : (10 : ℚ) ^ Points.places = 100 := by norm_num [Points.places]
  rw [hplaces] at h ⊢
  rw [toRat, cents_of_ofRat? h, roundCents_of_cents]

theorem onGrid (n : Numeric) : OnGrid Points.places n.toRat :=
  ⟨n.cents, by norm_num [toRat, Points.places]⟩

end Numeric

/-! ## tables -/

/-- A row of balances. -/
structure Account where
  current : Numeric
  withdrawn : Numeric
  deriving DecidableEq

namespace Account

/-- A row just inserted, before anything is credited. -/
def zero : Account := { current := .zero, withdrawn := .zero }

/-- The exact value of all that was ever credited. -/
def worth (a : Account) : ℚ := a.current.toRat + a.withdrawn.toRat

/-- A row after a credit. The amount is stored as one of a new row first. -/
def credit? (a : Account) (amount : Points) : Option Account :=
  (Numeric.ofRat? amount.toRat).bind fun credited =>
  (Numeric.ofRat? (a.current.toRat + credited.toRat)).map fun current => { a with current }

/-- A row after a debit. -/
def debit? (a : Account) (amount : Points) : Option Account :=
  (Numeric.ofRat? (a.current.toRat - amount.toRat)).bind fun current =>
  (Numeric.ofRat? (a.withdrawn.toRat + amount.toRat)).map fun withdrawn => { current, withdrawn }

variable {a a' : Account} {amount : Points}

/-- In cents a credit adds exactly its amount. -/
theorem credit_exact (hamount : OnGrid Points.places amount.toRat)
    (h : a.credit? amount = some a') :
    a'.current.toRat = a.current.toRat + amount.toRat ∧ a'.withdrawn = a.withdrawn := by
  obtain ⟨credited, hcredited, h⟩ := Option.bind_eq_some_iff.mp h
  obtain ⟨current, hcurrent, rfl⟩ := Option.map_eq_some_iff.mp h
  have hexact := Numeric.toRat_of_ofRat? hamount hcredited
  rw [hexact] at hcurrent
  exact ⟨Numeric.toRat_of_ofRat? (a.current.onGrid.add hamount) hcurrent, rfl⟩

/-- In cents a debit moves exactly its amount. -/
theorem debit_exact (hamount : OnGrid Points.places amount.toRat) (h : a.debit? amount = some a') :
    a'.current.toRat = a.current.toRat - amount.toRat ∧
      a'.withdrawn.toRat = a.withdrawn.toRat + amount.toRat := by
  obtain ⟨current, hcurrent, h⟩ := Option.bind_eq_some_iff.mp h
  obtain ⟨withdrawn, hwithdrawn, rfl⟩ := Option.map_eq_some_iff.mp h
  exact ⟨Numeric.toRat_of_ofRat? (a.current.onGrid.sub hamount) hcurrent,
    Numeric.toRat_of_ofRat? (a.withdrawn.onGrid.add hamount) hwithdrawn⟩

end Account

/-- A row of withdrawals, and the client whose debit it is the record of. -/
structure Record where
  id : WithdrawalId
  userId : UserId
  number : OrderNumber
  sum : Numeric
  processedAt : Instant
  client : ℕ
  deriving DecidableEq

/-- A credit that was carried out, and the client that asked for it. -/
structure Note where
  userId : UserId
  amount : Points
  client : ℕ
  deriving DecidableEq

/-- What everybody sees. -/
structure Tables where
  accounts : UserId → Option Account
  records : List Record
  /-- The credits that were ever carried out. -/
  notes : List Note

/-- Tables without rows. -/
def Tables.empty : Tables := { accounts := fun _ => none, records := [], notes := [] }

/-- What a transaction holds and has changed. -/
structure Transaction where
  /-- The users whose rows of balances it has locked. -/
  locks : List UserId
  accounts : UserId → Option Account
  records : List Record
  notes : List Note

namespace Transaction

/-- A transaction that holds nothing. -/
def empty : Transaction := { locks := [], accounts := fun _ => none, records := [], notes := [] }

/-- A row as the transaction sees it. -/
def account (t : Transaction) (tables : Tables) (u : UserId) : Option Account :=
  (t.accounts u).or (tables.accounts u)

/-- A row locked. -/
def lock (t : Transaction) (u : UserId) : Transaction := { t with locks := u :: t.locks }

/-- A row locked and changed. -/
def write (t : Transaction) (u : UserId) (account : Account) : Transaction :=
  { t.lock u with accounts := Function.update t.accounts u (some account) }

/-- A record added. -/
def record (t : Transaction) (r : Record) : Transaction := { t with records := t.records ++ [r] }

/-- A credit noted. -/
def note (t : Transaction) (n : Note) : Transaction := { t with notes := t.notes ++ [n] }

section

variable (t : Transaction) (tables : Tables) (u : UserId) (a : Account) (r : Record) (n : Note)

/-- A row that the transaction did not change is as everybody sees it. -/
theorem account_of_none {t : Transaction} {u : UserId} (h : t.accounts u = none) :
    t.account tables u = tables.accounts u := by
  simp [account, h]

@[simp] theorem account_empty : empty.account tables u = tables.accounts u :=
  account_of_none tables rfl

@[simp] theorem account_lock (v : UserId) : (t.lock v).account tables u = t.account tables u := rfl

@[simp] theorem account_write : (t.write u a).account tables u = some a := by
  simp [account, write]

theorem accounts_write_of_ne {v : UserId} (h : v ≠ u) : (t.write u a).accounts v = t.accounts v :=
  Function.update_of_ne h ..

@[simp] theorem account_record : (t.record r).account tables u = t.account tables u := rfl

@[simp] theorem account_note : (t.note n).account tables u = t.account tables u := rfl

@[simp] theorem records_empty : empty.records = [] := rfl

@[simp] theorem records_lock : (t.lock u).records = t.records := rfl

@[simp] theorem records_write : (t.write u a).records = t.records := rfl

@[simp] theorem records_record : (t.record r).records = t.records ++ [r] := rfl

@[simp] theorem records_note : (t.note n).records = t.records := rfl

@[simp] theorem notes_empty : empty.notes = [] := rfl

@[simp] theorem notes_lock : (t.lock u).notes = t.notes := rfl

@[simp] theorem notes_write : (t.write u a).notes = t.notes := rfl

@[simp] theorem notes_record : (t.record r).notes = t.notes := rfl

@[simp] theorem notes_note : (t.note n).notes = t.notes ++ [n] := rfl

end

end Transaction

namespace Tables

/-- What everybody sees after a transaction. -/
def publish (tables : Tables) (t : Transaction) : Tables where
  accounts u := t.account tables u
  records := tables.records ++ t.records
  notes := tables.notes ++ t.notes

/-- The records of a user. -/
def recordsOf (tables : Tables) (u : UserId) : List Record := tables.records.filter (·.userId = u)

/-- The amounts credited to a user. -/
def creditsOf (tables : Tables) (u : UserId) : List Points :=
  (tables.notes.filter (·.userId = u)).map (·.amount)

/-- The records of a client. -/
def recordsBy (tables : Tables) (client : ℕ) : List Record :=
  tables.records.filter (·.client = client)

/-- The credits of a client. -/
def notesBy (tables : Tables) (client : ℕ) : List Note := tables.notes.filter (·.client = client)

section

variable (tables : Tables) (t : Transaction) (u : UserId) (client : ℕ)

@[simp] theorem publish_accounts : (tables.publish t).accounts u = t.account tables u := rfl

@[simp] theorem recordsOf_publish :
    (tables.publish t).recordsOf u = tables.recordsOf u ++ t.records.filter (·.userId = u) :=
  List.filter_append ..

@[simp] theorem creditsOf_publish :
    (tables.publish t).creditsOf u = tables.creditsOf u ++ (t.notes.filter (·.userId = u)).map
      (·.amount) := by
  simp [creditsOf, publish]

@[simp] theorem recordsBy_publish :
    (tables.publish t).recordsBy client = tables.recordsBy client ++
      t.records.filter (·.client = client) :=
  List.filter_append ..

@[simp] theorem notesBy_publish :
    (tables.publish t).notesBy client = tables.notesBy client ++
      t.notes.filter (·.client = client) :=
  List.filter_append ..

end

end Tables

/-! ## statements -/

/-- The row of balances that a statement locks. -/
def Statement.row? : Statement → Option UserId
  | creditBalance u _ | lockBalance u | debitBalance u _ => some u
  | _ => none

/-- What a statement replies and what it leaves of a transaction; nothing when it is refused. A row
that is not there cannot be locked. Only statements of credits and debits are carried out. -/
def execute (client : ℕ) (now : Instant) (tables : Tables) (t : Transaction) :
    Statement → Option (Reply × Transaction)
  | .creditBalance u amount =>
    (((t.account tables u).getD .zero).credit? amount).map fun account =>
      (⟨[], 1⟩, (t.write u account).note { userId := u, amount, client })
  | .lockBalance u =>
    match t.account tables u with
    | none => some (⟨[], 0⟩, t)
    | some account =>
        some (⟨[[("current", .numeric (some account.current.toDecimal))]], 1⟩, t.lock u)
  | .debitBalance u amount =>
    match t.account tables u with
    | none => some (⟨[], 0⟩, t)
    | some account => (account.debit? amount).map fun account => (⟨[], 1⟩, t.write u account)
  | .insertWithdrawal id u number amount =>
    (Numeric.ofRat? amount.toRat).map fun sum =>
      (⟨[[("processed_at", .timestamp now)]], 1⟩,
        t.record { id, userId := u, number, sum, processedAt := now, client })
  | _ => none

/-- What a transaction reads of a row that it locks first is what everybody sees. -/
theorem exists_execute_lockBalance (client : ℕ) (now : Instant) (tables : Tables) (u : UserId) :
    ∃ reply t, execute client now tables .empty (.lockBalance u) = some (reply, t) ∧
      reply.first? (·.points "current") =
        .ok ((tables.accounts u).map fun a => Row.sent a.current.toDecimal) := by
  simp only [execute, Transaction.account_empty]
  cases tables.accounts u with
  | none => exact ⟨_, _, rfl, rfl⟩
  | some a => exact ⟨_, _, rfl, rfl⟩

end Loyalty.Database
