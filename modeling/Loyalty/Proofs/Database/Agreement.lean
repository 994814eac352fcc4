import Loyalty.Proofs.Database.Limits
import Loyalty.Proofs.Memory.Ledger

/-!
# Loyalty.Proofs.Database.Agreement

The ledger of a database server and the one in memory.

Both are asked the same, one call after the other (`Turn`), and both keep the
same limits.  They differ in when a row of zero is there, which nobody can tell.
`Agrees` relates what they keep after the same turns: a row matches each
balance, and both recorded the same debits (`Grant`).  One more call has the
same outcome on both and leaves them related (`concur_ask`), so every call of a
whole sequence has the same outcome (`same_outcome`).
-/

namespace Loyalty

open Decimal

namespace Database.Sequential

open Store

/-! ## calls -/

/-- A call, and what is there when it is made: at the server, and in memory. -/
structure Turn where
  call : StoreCall
  moment : Moment
  stamp : Memory.Stamp

/-- A call of the ledger for a user who is registered, with a positive amount of whole cents and a
number that its column has room for. -/
def IsEntry (registered : UserId → Bool) : StoreCall → Prop
  | .openBalance u | .balance u | .listWithdrawals u => registered u = true
  | .credit u amount => registered u = true ∧ 0 < amount.coeff ∧ ensureCents amount = .ok ()
  | .debit u number amount =>
    registered u = true ∧ 0 < amount.coeff ∧ ensureCents amount = .ok () ∧ number.text.length ≤ 255
  | _ => False

/-- Calls of the ledger, each with an identifier of its own. -/
structure Orderly (registered : UserId → Bool) (turns : List Turn) : Prop where
  entries : ∀ t ∈ turns, IsEntry registered t.call
  fresh : turns.Pairwise fun t t' => t.moment.id ≠ t'.moment.id

/-- Both clocks advance from each call to the next one. -/
structure Advancing (turns : List Turn) : Prop where
  server : turns.Pairwise fun t t' => t.moment.now < t'.moment.now
  memory : turns.Pairwise fun t t' => t.stamp.now < t'.stamp.now

/-- What the server keeps after some calls. -/
def serverAfter (registered : UserId → Bool) (turns : List Turn) : State :=
  turns.foldl (fun s t => (ask registered t.moment s t.call).2) .start

/-- What the stores in memory keep after some calls. -/
def memoryAfter (turns : List Turn) : Memory.State :=
  (Memory.Trace.run (turns.map fun t => ⟨t.stamp, t.call⟩)).state

/-! ## answers -/

/-- Balances of a user with the same amounts. -/
structure SameBalance (a b : Balance) : Prop where
  user : a.userId = b.userId
  current : a.current.toRat = b.current.toRat
  withdrawn : a.withdrawn.toRat = b.withdrawn.toRat

/-- Withdrawals of the same amount for the same order. -/
structure SameWithdrawal (a b : Withdrawal) : Prop where
  user : a.userId = b.userId
  number : a.orderNumber = b.orderNumber
  sum : a.sum.toRat = b.sum.toRat

/-- What a call gives is the same. The order of a list is told by the clocks, if they advance. -/
def SameValue (advancing : Prop) : (call : StoreCall) → call.Value → call.Value → Prop
  | .balance _ => SameBalance
  | .debit _ _ _ => SameWithdrawal
  | .listWithdrawals _ => fun ws ws' => advancing → List.Forall₂ SameWithdrawal ws ws'
  | _ => Eq

/-- Two calls succeed with the same value, or lack funds, or fail at the database for whatever
reason. -/
inductive SameOutcome {α : Type} (same : α → α → Prop) :
    Except StoreError α → Except StoreError α → Prop
  | ok {a b : α} (h : same a b) : SameOutcome same (.ok a) (.ok b)
  | insufficientFunds : SameOutcome same (.error .insufficientFunds) (.error .insufficientFunds)
  | database (reason reason' : String) :
    SameOutcome same (.error (.database reason)) (.error (.database reason'))

/-! ## debits that both granted -/

/-- A debit that both granted, and the amount that the server stored. -/
structure Grant where
  moment : Moment
  stamp : Memory.Stamp
  userId : UserId
  number : OrderNumber
  amount : Points
  sum : Numeric
  exact : sum.toRat = amount.toRat

namespace Grant

/-- The call that was granted. -/
def turn (g : Grant) : Turn :=
  { call := .debit g.userId g.number g.amount, moment := g.moment, stamp := g.stamp }

/-- The record at the server. -/
def record (g : Grant) : Record where
  id := ⟨g.moment.id⟩
  userId := g.userId
  number := g.number
  sum := g.sum
  processedAt := g.moment.now
  client := 0

/-- The record in memory. -/
def withdrawal (g : Grant) : Withdrawal where
  id := ⟨g.stamp.id⟩
  userId := g.userId
  orderNumber := g.number
  sum := g.amount
  processedAt := g.stamp.now

/-- The two records tell the same. -/
theorem same (g : Grant) : SameWithdrawal (withdrawalOfRecord g.record) g.withdrawal where
  user := rfl
  number := rfl
  sum := by
    rw [withdrawalOfRecord, Numeric.toRat_sent, Numeric.toRat_toDecimal]
    exact g.exact

end Grant

/-- Where times increase, the newest of what a user has come first in the order in which they came
last. -/
theorem newest_map {α : Type} {grants : List Grant} {f : Grant → α} {user : α → UserId}
    {time : α → Instant} (huser : ∀ g, user (f g) = g.userId)
    (htime : grants.Pairwise fun g g' => time (f g) < time (f g')) (u : UserId) :
    ((grants.map f).reverse.filter (user · = u)).mergeSort (fun a b => time b ≤ time a) =
      (grants.reverse.filter (·.userId = u)).map f := by
  have hfilter : (grants.map f).reverse.filter (user · = u) =
      (grants.reverse.filter (·.userId = u)).map f := by
    rw [← List.map_reverse, List.filter_map]
    simp only [Function.comp_def, huser]
  rw [hfilter]
  refine List.mergeSort_of_pairwise ?_
  rw [List.pairwise_map]
  refine List.Pairwise.filter _ (List.pairwise_reverse.mpr (htime.imp fun hlt => ?_))
  simp only [Instant.lt_iff, decide_eq_true_eq, Instant.le_iff] at hlt ⊢
  omega

/-! ## the relation -/

section

variable {registered : UserId → Bool} {turns : List Turn} {tables tables' : Tables}
  {m m' : Memory.State} {u : UserId} {amount : Points} (moment : Moment) (stamp : Memory.Stamp)

/-- The debits that both recorded are among the calls. -/
def SameGrants (turns : List Turn) (records : List Record) (withdrawals : List Withdrawal) : Prop :=
  ∃ grants : List Grant, (grants.map (·.turn)).Sublist turns ∧ records = grants.map (·.record) ∧
    withdrawals = grants.map (·.withdrawal)

theorem SameGrants.more {records : List Record} {withdrawals : List Withdrawal}
    (h : SameGrants turns records withdrawals) (turn : Turn) :
    SameGrants (turns ++ [turn]) records withdrawals :=
  h.imp fun _ hgrants => ⟨hgrants.1.trans (List.sublist_append_left ..), hgrants.2⟩

/-- One more debit is recorded by both. -/
theorem SameGrants.concat {records : List Record} {withdrawals : List Withdrawal}
    (h : SameGrants turns records withdrawals) (g : Grant) :
    SameGrants (turns ++ [g.turn]) (records ++ [g.record]) (withdrawals ++ [g.withdrawal]) := by
  obtain ⟨grants, hsub, rfl, rfl⟩ := h
  refine ⟨grants ++ [g], ?_, by simp, by simp⟩
  rw [List.map_append]
  exact hsub.append_right _

/-- No record has the identifier of a call that was not made. -/
theorem SameGrants.id_ne {records : List Record} {withdrawals : List Withdrawal} {id : Uuid}
    (h : SameGrants turns records withdrawals) (hfresh : ∀ t ∈ turns, t.moment.id ≠ id) :
    ∀ r ∈ records, r.id ≠ ⟨id⟩ := by
  obtain ⟨grants, hsub, rfl, -⟩ := h
  intro r hr hid
  obtain ⟨g, hg, rfl⟩ := List.mem_map.mp hr
  exact hfresh g.turn (hsub.subset (List.mem_map_of_mem hg)) (WithdrawalId.mk.inj hid)

/-- The server and the stores in memory after the same calls. -/
structure Agrees (turns : List Turn) (s : State) (m : Memory.State) : Prop where
  idle : s.connection = .idle
  balances : ∀ u, Matches u ((s.tables.accounts u).getD .zero) (m.balanceOf u)
  bounded : m.Bounded
  grants : SameGrants turns s.tables.records m.withdrawals

/-- A call has the same outcome for both, and leaves them related. -/
structure Concur (turns : List Turn) (turn : Turn) (server : turn.call.Answer × State)
    (memory : turn.call.Answer × Memory.State) : Prop where
  outcome : SameOutcome (SameValue (Advancing turns) turn.call) server.1 memory.1
  agrees : Agrees (turns ++ [turn]) server.2 memory.2

theorem agrees_start : Agrees [] .start .empty where
  idle := rfl
  balances := matches_zero
  bounded := fun u => Balance.inRange_zero u
  grants := ⟨[], .slnil, rfl, rfl⟩

/-- A call that changes no amount leaves them related, also if it leaves a row of zero. -/
theorem Agrees.same (h : Agrees turns ⟨tables, .idle⟩ m) (turn : Turn)
    (haccounts : ∀ v, (tables'.accounts v).getD .zero = (tables.accounts v).getD .zero)
    (hrecords : tables'.records = tables.records)
    (hbalances : ∀ v, m'.balanceOf v = m.balanceOf v)
    (hwithdrawals : m'.withdrawals = m.withdrawals) :
    Agrees (turns ++ [turn]) ⟨tables', .idle⟩ m' where
  idle := rfl
  balances v := by
    rw [haccounts, hbalances]
    exact h.balances v
  bounded v := by
    rw [hbalances]
    exact h.bounded v
  grants := by
    rw [hrecords, hwithdrawals]
    exact h.grants.more turn

/-- A call that changes nothing leaves them related. -/
theorem Agrees.unchanged (h : Agrees turns ⟨tables, .idle⟩ m) (turn : Turn) :
    Agrees (turns ++ [turn]) ⟨tables, .idle⟩ m :=
  h.same turn (fun _ => rfl) rfl (fun _ => rfl) rfl

/-- A call that changes the amounts of one user alike leaves them related. -/
theorem Agrees.write (h : Agrees turns ⟨tables, .idle⟩ m) (turn : Turn) {a : Account} {b : Balance}
    (hmatches : Matches u a b) (hbounded : m'.Bounded)
    (haccounts : ∀ v, tables'.accounts v = if v = u then some a else tables.accounts v)
    (hbalances : ∀ v, m'.balanceOf v = if u = v then b else m.balanceOf v)
    (hgrants : SameGrants (turns ++ [turn]) tables'.records m'.withdrawals) :
    Agrees (turns ++ [turn]) ⟨tables', .idle⟩ m' where
  idle := rfl
  balances := by
    intro v
    rw [haccounts, hbalances]
    by_cases hv : v = u
    · subst hv
      simpa using hmatches
    · simpa [hv, Ne.symm hv] using h.balances v
  bounded := hbounded
  grants := hgrants

/-! ## single calls -/

/-- An overflow is a failure of the database. -/
theorem overflow_toStore (operation : String) :
    ∃ reason, overflow.toStore operation = .database reason :=
  ⟨_, rfl⟩

theorem concur_openBalance (h : Agrees turns ⟨tables, .idle⟩ m) (hu : registered u = true) :
    Concur turns ⟨.openBalance u, moment, stamp⟩
      (ask registered moment ⟨tables, .idle⟩ (.openBalance u))
      (Memory.step stamp m (.openBalance u)) := by
  obtain ⟨tables', hask, haccounts, hrecords⟩ := @ask_openBalance registered moment tables u hu
  have hsame : ∀ v, (tables'.accounts v).getD .zero = (tables.accounts v).getD .zero := by
    intro v
    rw [haccounts]
    split
    · next hv => rw [hv, Option.getD_some]
    · rfl
  rw [hask]
  exact ⟨.ok rfl, h.same _ hsame hrecords (m.balanceOf_openBalance u) rfl⟩

theorem concur_credit (h : Agrees turns ⟨tables, .idle⟩ m) (hu : registered u = true)
    (hpos : 0 < amount.coeff) (hcents : ensureCents amount = .ok ()) :
    Concur turns ⟨.credit u amount, moment, stamp⟩
      (ask registered moment ⟨tables, .idle⟩ (.credit u amount))
      (Memory.step stamp m (.credit u amount)) := by
  rcases (h.balances u).credit (h.bounded u) hpos (onGrid_of_ensureCents hcents) with
    ⟨a, b, hcredit, hallowed, hgranted, hmatches⟩ | ⟨hnone, hrefused⟩
  · obtain ⟨tables', hask, haccounts, hrecords⟩ := ask_credit_of_some hu hcredit hallowed
    obtain ⟨m', hcredit', hbalances, hwithdrawals⟩ := Memory.State.credit_of_ok hgranted
    have hstep : Memory.step stamp m (.credit u amount) = (.ok (), m') := hcredit'
    have hbounded : m'.Bounded := by
      have hmoves := (m.moves_step stamp (.credit u amount)).bounded h.bounded
      rwa [hstep] at hmoves
    have hgrants : SameGrants (turns ++ [⟨.credit u amount, moment, stamp⟩]) tables'.records
        m'.withdrawals := by
      rw [hrecords, hwithdrawals]
      exact h.grants.more _
    rw [hask, hstep]
    exact ⟨.ok rfl, h.write _ hmatches hbounded haccounts hbalances hgrants⟩
  · have hstep : Memory.step stamp m (.credit u amount) = _ := Memory.State.credit_of_error hrefused
    obtain ⟨reason, hreason⟩ := overflow_toStore "credit"
    rw [ask_credit_of_none hu hnone, hreason, hstep]
    exact ⟨.database .., h.same _ (fun _ => rfl) rfl (m.balanceOf_openBalance u) rfl⟩

/-- A balance that covers something has a row at the server. -/
theorem exists_account (hpos : 0 < amount.coeff)
    (hcovers : amount ≤ Row.sent ((tables.accounts u).getD .zero).current.toDecimal) :
    ∃ a, tables.accounts u = some a := by
  cases ha : tables.accounts u with
  | some a => exact ⟨a, rfl⟩
  | none =>
      rw [ha, le_iff_toRat, Numeric.toRat_sent, Numeric.toRat_toDecimal] at hcovers
      exact absurd (toRat_pos_iff.mpr hpos) (by simpa [Account.zero] using hcovers)

theorem concur_debit (h : Agrees turns ⟨tables, .idle⟩ m) (hu : registered u = true)
    (hpos : 0 < amount.coeff) (hcents : ensureCents amount = .ok ()) {number : OrderNumber}
    (hnumber : number.text.length ≤ 255) (hfresh : ∀ t ∈ turns, t.moment.id ≠ moment.id) :
    Concur turns ⟨.debit u number amount, moment, stamp⟩
      (ask registered moment ⟨tables, .idle⟩ (.debit u number amount))
      (Memory.step stamp m (.debit u number amount)) := by
  have hgrid := onGrid_of_ensureCents hcents
  rcases (h.balances u).debit (h.bounded u) hpos hgrid with ⟨hlacks, hrefused⟩ | ⟨hcovers, hdone⟩
  · have hstep : Memory.step stamp m (.debit u number amount) = _ :=
      Memory.State.debit_of_error hpos stamp number hrefused
    have hnot : covers ((tables.accounts u).map fun a => Row.sent a.current.toDecimal) amount =
        false := by
      cases ha : tables.accounts u with
      | none => rfl
      | some a => simpa [covers, ha] using hlacks
    rw [ask_debit_of_not_covers number hnot, hstep]
    exact ⟨.insufficientFunds, h.unchanged _⟩
  · obtain ⟨a, ha⟩ := exists_account hpos hcovers
    rw [ha, Option.getD_some] at hcovers hdone
    rcases hdone with ⟨a', b, hdebit, hallowed, hgranted, hmatches⟩ | ⟨hnone, hrefused⟩
    · have hmax : amount.toRat ≤ Points.max.toRat :=
        (le_iff_toRat.mp (Balance.debit_eq_ok_iff.mp hgranted).2.1).trans
          (le_iff_toRat.mp (h.bounded u).current_le)
      obtain ⟨sum, hsum, hexact⟩ := Numeric.exists_ofRat? hgrid (toRat_pos_iff.mpr hpos).le hmax
      let grant : Grant := { moment, stamp, userId := u, number, amount, sum, exact := hexact }
      obtain ⟨tables', hask, haccounts, hrecords⟩ :=
        ask_debit_of_some hu hnumber ha hcovers hdebit hallowed hsum (h.grants.id_ne hfresh)
      obtain ⟨m', hdebit', hbalances, hwithdrawals⟩ :=
        Memory.State.debit_of_ok hpos stamp number hgranted
      have hstep : Memory.step stamp m (.debit u number amount) = _ := hdebit'
      have hbounded : m'.Bounded := by
        have hmoves := (m.moves_step stamp (.debit u number amount)).bounded h.bounded
        rwa [hstep] at hmoves
      have hgrants : SameGrants (turns ++ [grant.turn]) tables'.records m'.withdrawals := by
        rw [hrecords, hwithdrawals]
        exact h.grants.concat grant
      rw [hask, hstep]
      exact ⟨.ok ⟨rfl, rfl, rfl⟩, h.write _ hmatches hbounded haccounts hbalances hgrants⟩
    · have hstep : Memory.step stamp m (.debit u number amount) = _ :=
        Memory.State.debit_of_error hpos stamp number hrefused
      obtain ⟨reason, hreason⟩ := overflow_toStore "debit_balance"
      rw [ask_debit_of_none number ha hcovers hnone, hreason, hstep]
      exact ⟨.database .., h.unchanged _⟩

theorem concur_balance (h : Agrees turns ⟨tables, .idle⟩ m) :
    Concur turns ⟨.balance u, moment, stamp⟩ (ask registered moment ⟨tables, .idle⟩ (.balance u))
      (Memory.step stamp m (.balance u)) := by
  have hmatches := h.balances u
  rw [ask_balance, Memory.step_balance]
  refine ⟨.ok ?_, h.unchanged _⟩
  cases ha : tables.accounts u with
  | none =>
      rw [ha, Option.getD_none] at hmatches
      refine ⟨hmatches.user.symm, ?_, ?_⟩
      · simpa [Balance.zero, Account.zero] using hmatches.current.symm
      · simpa [Balance.zero, Account.zero] using hmatches.withdrawn.symm
  | some a =>
      rw [ha, Option.getD_some] at hmatches
      refine ⟨hmatches.user.symm, ?_, ?_⟩
      · simpa [balanceOfRow, Numeric.toRat_sent] using hmatches.current.symm
      · simpa [balanceOfRow, Numeric.toRat_sent] using hmatches.withdrawn.symm

theorem concur_listWithdrawals (h : Agrees turns ⟨tables, .idle⟩ m) :
    Concur turns ⟨.listWithdrawals u, moment, stamp⟩
      (ask registered moment ⟨tables, .idle⟩ (.listWithdrawals u))
      (Memory.step stamp m (.listWithdrawals u)) := by
  obtain ⟨grants, hsub, hrecords, hwithdrawals⟩ := h.grants
  rw [ask_listWithdrawals, Memory.step_listWithdrawals]
  refine ⟨.ok fun hadvancing => ?_, h.unchanged _⟩
  have hserver := List.pairwise_map.mp (hadvancing.server.sublist hsub)
  have hmemory := List.pairwise_map.mp (hadvancing.memory.sublist hsub)
  have hnewest :
      newestFirst tables.records u = (grants.reverse.filter (·.userId = u)).map (·.record) := by
    rw [hrecords]
    exact newest_map (f := (·.record)) (fun _ => rfl) hserver u
  have hlisted : m.withdrawalsOf u = (grants.reverse.filter (·.userId = u)).map (·.withdrawal) := by
    rw [Memory.State.withdrawalsOf, hwithdrawals]
    exact newest_map (f := (·.withdrawal)) (fun _ => rfl) hmemory u
  rw [hnewest, hlisted, List.forall₂_map_left_iff, List.forall₂_map_left_iff,
    List.forall₂_map_right_iff, List.forall₂_same]
  exact fun g _ => g.same

/-- One more call has the same outcome for both. -/
theorem concur_ask {s : State} (h : Agrees turns s m) (turn : Turn)
    (hentry : IsEntry registered turn.call) (hfresh : ∀ t ∈ turns, t.moment.id ≠ turn.moment.id) :
    Concur turns turn (ask registered turn.moment s turn.call)
      (Memory.step turn.stamp m turn.call) := by
  obtain ⟨tables, connection⟩ := s
  obtain rfl : connection = .idle := h.idle
  obtain ⟨call, moment, stamp⟩ := turn
  cases call with
  | openBalance u => exact concur_openBalance moment stamp h hentry
  | credit u amount => exact concur_credit moment stamp h hentry.1 hentry.2.1 hentry.2.2
  | debit u number amount =>
      exact concur_debit moment stamp h hentry.1 hentry.2.1 hentry.2.2.1 hentry.2.2.2 hfresh
  | balance u => exact concur_balance moment stamp h
  | listWithdrawals u => exact concur_listWithdrawals moment stamp h
  | _ => exact hentry.elim

end

/-! ## runs -/

section

variable {registered : UserId → Bool} {turns : List Turn} {turn : Turn}

theorem Orderly.of_append {later : List Turn} (h : Orderly registered (turns ++ later)) :
    Orderly registered turns where
  entries t ht := h.entries t (List.mem_append_left _ ht)
  fresh := (List.pairwise_append.mp h.fresh).1

theorem Orderly.fresh_concat (h : Orderly registered (turns ++ [turn])) :
    ∀ t ∈ turns, t.moment.id ≠ turn.moment.id :=
  fun t ht => (List.pairwise_append.mp h.fresh).2.2 t ht turn (List.mem_singleton_self _)

theorem Orderly.entry_concat (h : Orderly registered (turns ++ [turn])) :
    IsEntry registered turn.call :=
  h.entries turn (by simp)

/-- After all calls they are related. -/
theorem agrees_after (h : Orderly registered turns) :
    Agrees turns (serverAfter registered turns) (memoryAfter turns) := by
  induction turns using List.reverseRecOn with
  | nil => exact agrees_start
  | append_singleton turns turn ih =>
      have hconcur := (concur_ask (ih h.of_append) turn h.entry_concat h.fresh_concat).agrees
      rw [serverAfter, List.foldl_concat, memoryAfter, List.map_append, List.map_singleton,
        Memory.Trace.run_concat]
      exact hconcur

/-- **Agreement**: in every sequence of ledger calls for registered users, with positive amounts of
whole cents, every call has the same outcome at the server and in memory: it succeeds with the same
balance, withdrawal or — if the clocks advance — list of withdrawals, or lacks funds, or fails at
the database. -/
theorem same_outcome (turns later : List Turn) (turn : Turn)
    (h : Orderly registered (turns ++ turn :: later)) :
    SameOutcome (SameValue (Advancing turns) turn.call)
      (ask registered turn.moment (serverAfter registered turns) turn.call).1
      (Memory.step turn.stamp (memoryAfter turns) turn.call).1 := by
  rw [List.append_cons] at h
  have hmade := h.of_append
  exact (concur_ask (agrees_after hmade.of_append) turn hmade.entry_concat
    hmade.fresh_concat).outcome

/-- A turn for which both clocks show one time. -/
def Turn.atSecond (seconds : Nat) (call : StoreCall) : Turn where
  call := call
  moment := { now := { Instant.epoch with seconds }, id := ⟨seconds⟩ }
  stamp := { now := { Instant.epoch with seconds }, id := ⟨seconds⟩ }

/-- The largest balance is credited, one more cent is refused, and a debit of 2.5 is listed. -/
theorem same_outcome_max :
    let turns : List Turn :=
      [.atSecond 1 (.credit default Points.max),
        .atSecond 2 (.credit default { coeff := 1, scale := 2 }),
        .atSecond 3 (.debit default default { coeff := 25, scale := 1 })]
    let turn : Turn := .atSecond 4 (.listWithdrawals default)
    Orderly (fun _ => true) (turns ++ turn :: []) ∧ Advancing turns ∧
      SameOutcome (SameValue (Advancing turns) turn.call)
        (ask (fun _ => true) turn.moment (serverAfter (fun _ => true) turns) turn.call).1
        (.ok [{ id := ⟨⟨3⟩⟩, userId := default, orderNumber := default,
                sum := { coeff := 25, scale := 1 },
                processedAt := { seconds := 3, nanos := 0 } }]) := by
  intro turns turn
  have horderly : Orderly (fun _ => true) (turns ++ turn :: []) := by
    refine ⟨fun t ht => ?_, by decide⟩
    simp only [turns, turn, List.cons_append, List.nil_append, List.mem_cons, List.not_mem_nil,
      or_false] at ht
    rcases ht with rfl | rfl | rfl | rfl <;> simp [Turn.atSecond, IsEntry] <;> decide +kernel
  have hlisted : (memoryAfter turns).withdrawalsOf default =
      [{ id := ⟨⟨3⟩⟩, userId := default, orderNumber := default, sum := { coeff := 25, scale := 1 },
         processedAt := { seconds := 3, nanos := 0 } }] := by
    decide +kernel
  exact ⟨horderly, ⟨by decide, by decide⟩, hlisted ▸ same_outcome turns [] turn horderly⟩

end

end Database.Sequential

end Loyalty
