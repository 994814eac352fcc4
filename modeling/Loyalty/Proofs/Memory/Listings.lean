import Mathlib.Data.List.Nodup
import Loyalty.Proofs.Memory.Ledger
import Loyalty.Proofs.Memory.Orders

/-!
# Loyalty.Proofs.Memory.Listings

What the stores list, told from the calls that they answered.

A `Listing` has what its source has, ordered by a key, and leaves what has equal
keys in the order of the source.  Sorting gives one (`Listing.mergeSort`), and
there is no other (`Listing.unique`), so two listings of one source agree however
they were made.  The sources are read off the history alone: the orders that
calls created, as later updates left them (`Trace.filed`), and the debits that
were granted (`Trace.debitsOf`).  The clock is free to stand still or to run
backwards.
-/

namespace Loyalty

/-! ## the order of instants -/

namespace Instant

theorem le_trans {a b c : Instant} (hab : a ≤ b) (hbc : b ≤ c) : a ≤ c := by
  rw [le_iff] at *
  omega

theorem le_total (a b : Instant) : a ≤ b ∨ b ≤ a := by
  simp only [le_iff]
  omega

theorem le_antisymm {a b : Instant} (hab : a ≤ b) (hba : b ≤ a) : a = b := by
  obtain ⟨seconds, nanos, _⟩ := a
  obtain ⟨seconds', nanos', _⟩ := b
  simp only [le_iff, Instant.mk.injEq] at *
  omega

end Instant

/-! ## listings -/

section

variable {α κ : Type} [DecidableEq κ] {r : κ → κ → Prop} {key : α → κ}

/-- What a source has, ordered by a key; what has equal keys stays in the order of the source. -/
structure Listing (r : κ → κ → Prop) (key : α → κ) (source list : List α) : Prop where
  perm : list.Perm source
  sorted : list.Pairwise fun a b => r (key a) (key b)
  ties : ∀ k, list.filter (key · = k) = source.filter (key · = k)

namespace Listing

variable {source list list' : List α}

/-- Sorting lists a source. -/
theorem mergeSort (r : κ → κ → Prop) [DecidableRel r] (key : α → κ)
    (htrans : ∀ {a b c}, r a b → r b c → r a c) (htotal : ∀ a b, r a b ∨ r b a) (source : List α) :
    Listing r key source (source.mergeSort fun a b => r (key a) (key b)) := by
  have htrans' : ∀ a b c : α, decide (r (key a) (key b)) = true →
      decide (r (key b) (key c)) = true →
      decide (r (key a) (key c)) = true := by
    simp only [decide_eq_true_eq]
    exact fun a b c => htrans
  have htotal' : ∀ a b : α, (decide (r (key a) (key b)) || decide (r (key b) (key a))) = true := by
    simp only [Bool.or_eq_true, decide_eq_true_eq]
    exact fun a b => htotal (key a) (key b)
  have hperm := List.mergeSort_perm source fun a b => decide (r (key a) (key b))
  refine ⟨hperm, ?_, fun k => ?_⟩
  · simpa using List.pairwise_mergeSort htrans' htotal' source
  · -- what has one key is in order already, so sorting keeps it in place
    have hsame : (source.filter (key · = k)).Pairwise fun a b =>
        decide (r (key a) (key b)) = true := by
      refine List.pairwise_of_forall_mem_list fun a ha b hb => ?_
      rw [List.mem_filter, decide_eq_true_eq] at ha hb
      rw [ha.2, hb.2, decide_eq_true_eq]
      exact (htotal k k).elim id id
    have hsub :=
      (List.sublist_mergeSort htrans' htotal' hsame List.filter_sublist).filter (key · = k)
    rw [List.filter_filter] at hsub
    simp only [Bool.and_self] at hsub
    exact (hsub.eq_of_length (hperm.filter _).length_eq.symm).symm

/-- Part of a listing lists that part of the source. -/
theorem filter (h : Listing r key source list) (p : α → Bool) :
    Listing r key (source.filter p) (list.filter p) where
  perm := h.perm.filter p
  sorted := h.sorted.filter p
  ties k := by rw [List.filter_comm, h.ties, List.filter_comm]

/-- A listing backwards lists the source backwards. -/
theorem reverse (h : Listing r key source list) :
    Listing (fun a b => r b a) key source.reverse list.reverse where
  perm := list.reverse_perm.trans (h.perm.trans source.reverse_perm.symm)
  sorted := List.pairwise_reverse.mpr h.sorted
  ties k := by rw [List.filter_reverse, h.ties, List.filter_reverse]

/-- Lists in order agree when they agree on every key. -/
theorem eq_of_filter_eq (hrefl : ∀ k, r k k) (hantisymm : ∀ {a b}, r a b → r b a → a = b) :
    ∀ {l l' : List α}, (l.Pairwise fun a b => r (key a) (key b)) →
      (l'.Pairwise fun a b => r (key a) (key b)) →
      (∀ k, l.filter (key · = k) = l'.filter (key · = k)) → l = l'
  | [], l', _, _, h => by
      refine (List.eq_nil_iff_forall_not_mem.mpr fun b hb => ?_).symm
      have hmem : b ∈ l'.filter (key · = key b) := List.mem_filter.mpr ⟨hb, by simp⟩
      rw [← h (key b)] at hmem
      simp at hmem
  | a :: l, [], _, _, h => by simpa using h (key a)
  | a :: l, b :: l', hl, hl', h => by
      -- whatever has the key of a head is behind the other head
      have hle : ∀ {c d : α} {m m' : List α}, ((c :: m).Pairwise fun a b => r (key a) (key b)) →
          (∀ k, (c :: m).filter (key · = k) = (d :: m').filter (key · = k)) →
            r (key c) (key d) := by
        intro c d m m' hm hfilter
        have hmem : d ∈ (d :: m').filter (key · = key d) := by simp
        rw [← hfilter, List.mem_filter, List.mem_cons] at hmem
        cases hmem.1 with
        | inl heq => exact heq ▸ hrefl _
        | inr hmem => exact List.rel_of_pairwise_cons hm hmem
      have hkey : key a = key b := hantisymm (hle hl h) (hle hl' fun k => (h k).symm)
      have hhead := h (key a)
      rw [List.filter_cons_of_pos (by simp), List.filter_cons_of_pos (by simp [hkey]),
        List.cons.injEq] at hhead
      obtain ⟨rfl, -⟩ := hhead
      rw [eq_of_filter_eq hrefl hantisymm hl.of_cons hl'.of_cons fun k => ?_]
      have hk := h k
      simp only [List.filter_cons] at hk
      split at hk
      · exact (List.cons.inj hk).2
      · exact hk

/-- A source has one listing. -/
theorem unique (hrefl : ∀ k, r k k) (hantisymm : ∀ {a b}, r a b → r b a → a = b)
    (h : Listing r key source list) (h' : Listing r key source list') : list = list' :=
  eq_of_filter_eq hrefl hantisymm h.sorted h'.sorted fun k => (h.ties k).trans (h'.ties k).symm

end Listing

end

namespace Store.Memory

/-! ## what the calls left -/

namespace Event

/-- The orders of some users after one more call, newest first. -/
def file (who : UserId → Bool) (orders : List Order) : Event → List Order
  | ⟨.createOrder u _, .ok o⟩ => if who u then o :: orders else orders
  | ⟨.updateStatus number status accrual, .ok ()⟩ =>
      orders.map fun o => if o.number = number then o.revised status accrual else o
  | _ => orders

/-- The withdrawal of a debit that was granted to a user. -/
def debitBy? (userId : UserId) : Event → Option Withdrawal
  | ⟨.debit u _ _, .ok w⟩ => if u = userId then some w else none
  | _ => none

end Event

namespace Trace

/-- The orders that some users created, as later updates left them, newest first. -/
def filed (t : Trace) (who : UserId → Bool) : List Order :=
  t.history.foldr (fun e orders => e.file who orders) []

/-- The debits that were granted to a user, newest first. -/
def debitsOf (t : Trace) (userId : UserId) : List Withdrawal :=
  t.history.filterMap (Event.debitBy? userId)

end Trace

namespace State

variable {s : State}

/-- To change the order at the place of a number is to change the order of that number. -/
theorem Indexed.modify_eq_map (hs : s.Indexed) {number : OrderNumber} {place : Nat}
    (hplace : s.index.get? number = some place) (f : Order → Order) :
    s.orders.modify place f = s.orders.map fun o => if o.number = number then f o else o := by
  refine List.ext_getElem? fun p => ?_
  rw [List.getElem?_modify, List.getElem?_map]
  cases ho : s.orders[p]? with
  | none => rfl
  | some o =>
      have hsame : place = p ↔ o.number = number := by
        constructor
        · rintro rfl
          obtain ⟨o', ho', hnumber⟩ := hs.sound hplace
          rw [ho, Option.some.injEq] at ho'
          rw [ho', hnumber]
        · rintro rfl
          have hcomplete := hs.complete ho
          rw [hplace, Option.some.injEq] at hcomplete
          exact hcomplete
      simp [hsame]

/-- What a call does to the orders of some users. -/
theorem Indexed.file_step (hs : s.Indexed) (stamp : Stamp) (call : StoreCall)
    (who : UserId → Bool) :
    (step stamp s call).2.orders.reverse.filter (who ·.userId) =
      (Event.mk call (step stamp s call).1).file who (s.orders.reverse.filter (who ·.userId)) := by
  cases call with
  | createOrder u number =>
      simp only [step, createOrder]
      split
      · rfl
      · simp only [Event.file, List.reverse_append, List.reverse_singleton, List.singleton_append,
          List.filter_cons]
        rfl
  | updateStatus number status accrual =>
      simp only [step, updateStatus]
      cases hplace : s.index.get? number with
      | none => rfl
      | some place =>
          have hmodify := hs.modify_eq_map hplace (·.revised status accrual)
          simp only [Order.revised] at hmodify
          simp only [hmodify, Event.file, ← List.map_reverse, List.filter_map]
          congr 2
          funext o
          simp only [Function.comp]
          split <;> rfl
  | _ =>
      rw [(s.files_step stamp _).orders_eq (by simp) (by simp)]
      rfl

/-- What a call does to the withdrawals of a user. -/
theorem debitBy_step (s : State) (stamp : Stamp) (call : StoreCall) (u : UserId) :
    (step stamp s call).2.withdrawals.reverse.filter (·.userId = u) =
      ((Event.mk call (step stamp s call).1).debitBy? u).toList ++
        s.withdrawals.reverse.filter (·.userId = u) := by
  cases call with
  | debit v number amount =>
      simp only [step, debit]
      split
      · rfl
      · split
        · rfl
        · by_cases h : v = u <;> simp [Event.debitBy?, h]
  | _ =>
      rw [(s.moves_step stamp _).withdrawals_eq (by simp)]
      rfl

end State

namespace Trace

/-! ## every run -/

/-- In every run the index is faithful. -/
theorem indexed_run (requests : List Request) : (run requests).state.Indexed :=
  run_induction (P := fun t => t.state.Indexed) State.indexed_empty
    (fun t r h => (t.state.files_step r.stamp r.call).indexed h) requests

/-- In every run the stores keep the orders that calls created, as updates left them. -/
theorem filed_run (requests : List Request) (who : UserId → Bool) :
    (run requests).state.orders.reverse.filter (who ·.userId) = (run requests).filed who := by
  induction requests using List.reverseRecOn with
  | nil => rfl
  | append_singleton requests r ih =>
      rw [run_concat, ask, (indexed_run requests).file_step, ih]
      rfl

/-- In every run the stores keep the debits that were granted. -/
theorem debitsOf_run (requests : List Request) (u : UserId) :
    (run requests).state.withdrawals.reverse.filter (·.userId = u) = (run requests).debitsOf u := by
  induction requests using List.reverseRecOn with
  | nil => rfl
  | append_singleton requests r ih =>
      rw [run_concat, ask, State.debitBy_step, ih, debitsOf, debitsOf, List.filterMap_cons]
      cases Event.debitBy? u _ <;> rfl

theorem listing_ordersOf (requests : List Request) (u : UserId) :
    Listing (· ≥ ·) (·.uploadedAt) ((run requests).filed (· = u))
      ((run requests).state.ordersOf u) := by
  rw [← filed_run]
  exact .mergeSort (· ≥ ·) Order.uploadedAt (fun hab hbc => Instant.le_trans hbc hab)
    (fun a b => Instant.le_total b a) _

theorem listing_withdrawalsOf (requests : List Request) (u : UserId) :
    Listing (· ≥ ·) (·.processedAt) ((run requests).debitsOf u)
      ((run requests).state.withdrawalsOf u) := by
  rw [← debitsOf_run]
  exact .mergeSort (· ≥ ·) Withdrawal.processedAt (fun hab hbc => Instant.le_trans hbc hab)
    (fun a b => Instant.le_total b a) _

theorem listing_pending (requests : List Request) :
    Listing (· ≤ ·) (·.uploadedAt)
      (((run requests).filed fun _ => true).reverse.filter (!·.status.isFinal))
        (run requests).state.pending := by
  rw [← filed_run, List.filter_true, List.reverse_reverse]
  exact .mergeSort (· ≤ ·) Order.uploadedAt Instant.le_trans Instant.le_total _

/-- What one user created is part of what all did. -/
theorem filed_filter (requests : List Request) (u : UserId) :
    ((run requests).filed fun _ => true).filter (·.userId = u) = (run requests).filed (· = u) := by
  rw [← filed_run, ← filed_run, List.filter_true]

/-- The pending orders of a user are the user's orders that are not final, the other way round. -/
theorem pending_filter (requests : List Request) (u : UserId) :
    (run requests).state.pending.filter (·.userId = u) =
      (((run requests).state.ordersOf u).filter (!·.status.isFinal)).reverse := by
  have hpending := (listing_pending requests).filter (·.userId = u)
  have hown := ((listing_ordersOf requests u).filter (!·.status.isFinal)).reverse
  rw [List.filter_comm, List.filter_reverse, filed_filter, List.filter_reverse] at hpending
  exact hpending.unique (fun a => (Instant.le_total a a).elim id id) Instant.le_antisymm hown

/-- **Listings are complete, disjoint and ordered**, whatever the clock does: after every run of
calls, with whatever stamps, the list of a user's orders has the orders that the user created,
newest first, no number twice, and of equal instants the one created later first; the list of the
user's withdrawals has the user's granted debits in the same way; the pending orders are the orders
of all users that are not final, oldest first, no number twice, and of equal instants the one
created earlier first.  So the pending orders of a user are the user's orders that are not final,
the other way round. -/
theorem run_lists (requests : List Request) (u : UserId) :
    (Listing (· ≥ ·) (·.uploadedAt) ((run requests).filed (· = u))
      ((run requests).state.ordersOf u) ∧
        (((run requests).state.ordersOf u).map (·.number)).Nodup) ∧
      Listing (· ≥ ·) (·.processedAt) ((run requests).debitsOf u)
        ((run requests).state.withdrawalsOf u) ∧
      (Listing (· ≤ ·) (·.uploadedAt)
          (((run requests).filed fun _ => true).reverse.filter (!·.status.isFinal))
            (run requests).state.pending ∧
        ((run requests).state.pending.map (·.number)).Nodup) ∧
      (run requests).state.pending.filter (·.userId = u) =
        (((run requests).state.ordersOf u).filter (!·.status.isFinal)).reverse :=
  ⟨⟨listing_ordersOf requests u, (indexed_run requests).nodup_ordersOf u⟩,
    listing_withdrawalsOf requests u,
    ⟨listing_pending requests, (indexed_run requests).nodup_pending⟩, pending_filter requests u⟩

end Trace

end Store.Memory

end Loyalty
