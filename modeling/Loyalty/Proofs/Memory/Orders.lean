import Loyalty.Proofs.Memory.Trace

/-!
# Loyalty.Proofs.Memory.Orders

What calls do to orders, and what holds of the orders of every trace.

`Files` says once what a call can do to the orders and their index: nothing, an
order under a number that had none, or another status of an order.  From it
follow two invariants.  `Indexed` is the faithfulness of the index: it leads from
the number of every order to that order and from nothing else to anything, so
numbers are distinct and `order?` is the search of the list (`order?_eq_some_iff`).
`Earned` says that only processed orders have an accrual, and a positive one.
-/

namespace Loyalty

/-- An order with another status, and the accrual that this status keeps. -/
def Order.revised (o : Order) (status : OrderStatus) (accrual : Option Points) : Order :=
  { o with status, accrual := Order.persistedAccrual status accrual }

@[simp] theorem Order.revised_number (o : Order) (status : OrderStatus) (accrual : Option Points) :
    (o.revised status accrual).number = o.number := rfl

@[simp] theorem Order.revised_userId (o : Order) (status : OrderStatus) (accrual : Option Points) :
    (o.revised status accrual).userId = o.userId := rfl

namespace Store.Memory

/-! ## the index -/

/-- The index leads to the place of every order, and nowhere else. -/
structure State.Indexed (s : State) : Prop where
  sound : ∀ {number place}, s.index.get? number = some place →
    ∃ o, s.orders[place]? = some o ∧ o.number = number
  complete : ∀ {place o}, s.orders[place]? = some o → s.index.get? o.number = some place

namespace State

variable {s : State}

theorem indexed_empty : empty.Indexed where
  sound h := by simp [empty] at h
  complete h := by simp [empty] at h

namespace Indexed

/-- Finding an order by its number is finding it in the list. -/
theorem order?_eq_some_iff (hs : s.Indexed) {number : OrderNumber} {o : Order} :
    s.order? number = some o ↔ o ∈ s.orders ∧ o.number = number := by
  rw [order?, Option.bind_eq_some_iff]
  constructor
  · rintro ⟨place, hplace, ho⟩
    obtain ⟨o', ho', hnumber⟩ := hs.sound hplace
    obtain rfl : o = o' := Option.some.inj (ho.symm.trans ho')
    exact ⟨List.mem_of_getElem? ho, hnumber⟩
  · rintro ⟨hmem, rfl⟩
    obtain ⟨place, ho⟩ := List.mem_iff_getElem?.mp hmem
    exact ⟨place, hs.complete ho, ho⟩

theorem order?_of_mem (hs : s.Indexed) {o : Order} (h : o ∈ s.orders) :
    s.order? o.number = some o :=
  hs.order?_eq_some_iff.mpr ⟨h, rfl⟩

/-- Orders with one number are one order. -/
theorem eq_of_number (hs : s.Indexed) {o o' : Order} (h : o ∈ s.orders) (h' : o' ∈ s.orders)
    (hn : o.number = o'.number) : o = o' := by
  have ho := hs.order?_of_mem h
  rw [hn, hs.order?_of_mem h'] at ho
  exact (Option.some.inj ho).symm

/-- The orders are distinct, and so are their numbers. -/
theorem nodup_numbers (hs : s.Indexed) : (s.orders.map (·.number)).Nodup := by
  rw [List.nodup_iff_injective_getElem]
  intro i j hij
  simp only [List.getElem_map] at hij
  have hi := hs.complete (List.getElem?_eq_getElem (by simpa using i.isLt))
  have hj := hs.complete (List.getElem?_eq_getElem (by simpa using j.isLt))
  rw [hij, hj] at hi
  exact Fin.ext (Option.some.inj hi).symm

end Indexed

end State

/-! ## what a call does to orders -/

/-- What a call that was answered did to the orders. -/
inductive Files (s : State) : Event → State → Prop
  /-- Nothing: the call was about something else, or was refused. -/
  | nothing {e : Event} {s' : State} (horders : s'.orders = s.orders)
      (hindex : s'.index = s.index) :
      Files s e s'
  /-- An order came under a number that had none. -/
  | created {u : UserId} {number : OrderNumber} {o : Order} {s' : State}
      (hnew : s.index.get? number = none)
      (horder : o.number = number ∧ o.userId = u ∧ o.status = .new ∧ o.accrual = none)
      (horders : s'.orders = s.orders ++ [o])
      (hindex : s'.index = s.index.insert number s.orders.length) :
      Files s ⟨.createOrder u number, .ok o⟩ s'
  /-- An order got another status. -/
  | updated {number : OrderNumber} {status : OrderStatus} {accrual : Option Points} {place : Nat}
      {s' : State} (hplace : s.index.get? number = some place)
      (horders : s'.orders = s.orders.modify place (·.revised status accrual))
      (hindex : s'.index = s.index) :
      Files s ⟨.updateStatus number status accrual, .ok ()⟩ s'

namespace State

/-- What any call does to orders. -/
theorem files_step (s : State) (stamp : Stamp) (call : StoreCall) :
    Files s ⟨call, (step stamp s call).1⟩ (step stamp s call).2 := by
  cases call with
  | createOrder u number =>
      simp only [step, createOrder]
      split
      · exact .nothing rfl rfl
      · next h =>
        refine .created ?_ ⟨rfl, rfl, rfl, rfl⟩ rfl rfl
        simpa [Table.contains] using h
  | updateStatus number status accrual =>
      simp only [step, updateStatus]
      cases h : s.index.get? number with
      | none => exact .nothing rfl rfl
      | some place => exact .updated h rfl rfl
  | createUser login passwordHash =>
      simp only [step, createUser]
      split <;> exact .nothing rfl rfl
  | openBalance u => exact .nothing rfl rfl
  | credit u amount =>
      simp only [step, credit]
      split <;> exact .nothing rfl rfl
  | debit u number amount =>
      simp only [step, debit]
      split
      · exact .nothing rfl rfl
      · split <;> exact .nothing rfl rfl
  | findByLogin _ | findByNumber _ | listByUser _ | listPending | balance _ | listWithdrawals _ =>
      exact .nothing rfl rfl

end State

namespace Files

variable {s s' : State} {e : Event}

/-- Every call keeps the index faithful. -/
theorem indexed (h : Files s e s') (hs : s.Indexed) : s'.Indexed := by
  cases h with
  | nothing horders hindex =>
      exact { sound := by rw [horders, hindex]; exact hs.sound
              complete := by rw [horders, hindex]; exact hs.complete }
  | @created u number o _ hnew horder horders hindex =>
      obtain ⟨hnumber, -⟩ := horder
      refine { sound := ?_, complete := ?_ }
      · intro n place hplace
        rw [hindex, Table.get?_insert] at hplace
        rw [horders]
        split at hplace
        · next heq =>
          obtain rfl := Option.some.inj hplace
          exact ⟨o, by simp, hnumber.trans heq⟩
        · obtain ⟨o', ho', hn⟩ := hs.sound hplace
          have hlt := (List.getElem?_eq_some_iff.mp ho').1
          exact ⟨o', by rw [List.getElem?_append_left hlt]; exact ho', hn⟩
      · intro place o' ho'
        rw [horders] at ho'
        rw [hindex, Table.get?_insert]
        rcases Nat.lt_trichotomy place s.orders.length with hlt | rfl | hgt
        · rw [List.getElem?_append_left hlt] at ho'
          have hold := hs.complete ho'
          have hne : number ≠ o'.number := by
            rintro rfl
            rw [hnew] at hold
            contradiction
          rw [if_neg hne, hold]
        · simp only [List.getElem?_concat_length, Option.some.injEq] at ho'
          rw [← ho', hnumber, if_pos rfl]
        · rw [List.getElem?_eq_none (by simp; omega)] at ho'
          contradiction
  | @updated number status accrual place _ hplace horders hindex =>
      refine { sound := ?_, complete := ?_ }
      · intro n p hp
        rw [hindex] at hp
        obtain ⟨o, ho, hn⟩ := hs.sound hp
        rw [horders, List.getElem?_modify, ho]
        by_cases h : place = p <;> simp [h, hn]
      · intro p o ho
        rw [hindex]
        rw [horders, List.getElem?_modify, Option.map_eq_map, Option.map_eq_some_iff] at ho
        obtain ⟨o', ho', rfl⟩ := ho
        by_cases h : place = p <;> simpa [h] using hs.complete ho'

/-- A call that creates no order and updates none leaves the orders. -/
theorem orders_eq (h : Files s e s') (hcreate : ∀ u number, e.call ≠ .createOrder u number)
    (hupdate : ∀ number status accrual, e.call ≠ .updateStatus number status accrual) :
    s'.orders = s.orders := by
  cases h with
  | nothing horders _ => exact horders
  | created => exact absurd rfl (hcreate _ _)
  | updated => exact absurd rfl (hupdate _ _ _)

/-- An order stays where it is unless its status is updated. -/
theorem order?_mono (h : Files s e s') (hs : s.Indexed)
    (hcall : ∀ n status accrual, e.call ≠ .updateStatus n status accrual) {number : OrderNumber}
    {o : Order} (ho : s.order? number = some o) : s'.order? number = some o := by
  obtain ⟨hmem, hnumber⟩ := hs.order?_eq_some_iff.mp ho
  rw [(h.indexed hs).order?_eq_some_iff]
  refine ⟨?_, hnumber⟩
  cases h with
  | nothing horders _ => rwa [horders]
  | created _ _ horders _ => rw [horders]; exact List.mem_append_left _ hmem
  | updated => exact absurd rfl (hcall _ _ _)

/-- Only an update makes an order final. -/
theorem order?_of_isFinal (h : Files s e s') (hs : s.Indexed)
    (hcall : ∀ n status accrual, e.call ≠ .updateStatus n status accrual) {number : OrderNumber}
    {o : Order} (ho : s'.order? number = some o) (hfinal : o.status.isFinal = true) :
    s.order? number = some o := by
  obtain ⟨hmem, hnumber⟩ := (h.indexed hs).order?_eq_some_iff.mp ho
  have hold : o ∈ s.orders := by
    cases h with
    | nothing horders _ => rwa [horders] at hmem
    | created _ horder horders _ =>
        rw [horders, List.mem_append, List.mem_singleton] at hmem
        cases hmem with
        | inl hmem => exact hmem
        | inr heq =>
            have hnew : o.status = .new := heq ▸ horder.2.2.1
            rw [hnew] at hfinal
            contradiction
    | updated => exact absurd rfl (hcall _ _ _)
  exact hs.order?_eq_some_iff.mpr ⟨hold, hnumber⟩

end Files

namespace State

variable {s : State}

/-- What an update does to the order of any number. -/
theorem Indexed.order?_updateStatus (hs : s.Indexed) (number n : OrderNumber) (status : OrderStatus)
    (accrual : Option Points) :
    (s.updateStatus number status accrual).2.order? n =
      if n = number then (s.order? n).map (·.revised status accrual) else s.order? n := by
  unfold updateStatus
  cases hplace : s.index.get? number with
  | none =>
      dsimp only
      split
      · next h => rw [h, order?, hplace]; rfl
      · rfl
  | some place =>
      simp only [order?]
      cases hp : s.index.get? n with
      | none => simp
      | some p =>
          have hsame : place = p ↔ n = number := by
            constructor
            · rintro rfl
              obtain ⟨o, ho, hn⟩ := hs.sound hplace
              obtain ⟨o', ho', hn'⟩ := hs.sound hp
              rw [ho] at ho'
              rw [← hn, ← hn', Option.some.inj ho']
            · rintro rfl
              exact Option.some.inj (hplace.symm.trans hp)
          simp only [Option.bind_some, List.getElem?_modify]
          by_cases h : n = number
          · rw [if_pos h, ← Option.map_eq_map]
            simp [hsame.mpr h, Order.revised]
          · simp [h, mt hsame.mp h]

/-! ## lists -/

/-- The pending orders are those whose status is not final. -/
theorem mem_pending {o : Order} : o ∈ s.pending ↔ o ∈ s.orders ∧ o.status.isFinal = false := by
  simp [pending, List.mem_mergeSort]

theorem pending_perm (s : State) : s.pending.Perm (s.orders.filter (!·.status.isFinal)) :=
  List.mergeSort_perm _ _

/-- Pending orders have distinct numbers. -/
theorem Indexed.nodup_pending (hs : s.Indexed) : (s.pending.map (·.number)).Nodup := by
  rw [(s.pending_perm.map _).nodup_iff]
  exact hs.nodup_numbers.sublist (List.filter_sublist.map _)

/-- The list of a user's orders has those orders, in whatever order. -/
theorem ordersOf_perm (s : State) (u : UserId) :
    (s.ordersOf u).Perm (s.orders.filter (·.userId = u)) :=
  (List.mergeSort_perm _ _).trans (s.orders.reverse_perm.filter _)

/-- The orders of a user have distinct numbers. -/
theorem Indexed.nodup_ordersOf (hs : s.Indexed) (u : UserId) :
    ((s.ordersOf u).map (·.number)).Nodup := by
  rw [((s.ordersOf_perm u).map _).nodup_iff]
  exact hs.nodup_numbers.sublist (List.filter_sublist.map _)

/-! ## accruals -/

/-- Only processed orders have an accrual, and it is positive. -/
def Earned (s : State) : Prop :=
  ∀ o ∈ s.orders, ∀ amount, o.accrual = some amount → o.status = .processed ∧ Decimal.zero < amount

theorem earned_empty : empty.Earned := fun o ho => by simp [empty] at ho

end State

/-- No call gives an accrual to an order that is not processed. -/
theorem Files.earned {s s' : State} {e : Event} (h : Files s e s') (hs : s.Earned) : s'.Earned := by
  intro o ho amount hamount
  cases h with
  | nothing horders _ =>
      rw [horders] at ho
      exact hs o ho amount hamount
  | created _ horder horders _ =>
      rw [horders, List.mem_append, List.mem_singleton] at ho
      rcases ho with ho | rfl
      · exact hs o ho amount hamount
      · rw [horder.2.2.2] at hamount
        contradiction
  | @updated number status accrual place _ _ horders _ =>
      obtain ⟨p, hp⟩ := List.mem_iff_getElem?.mp ho
      rw [horders, List.getElem?_modify, Option.map_eq_map, Option.map_eq_some_iff] at hp
      obtain ⟨o', ho', rfl⟩ := hp
      by_cases h : place = p
      · simp only [h, if_pos, Order.revised, Order.persistedAccrual_eq_some_iff] at hamount ⊢
        exact ⟨hamount.1, hamount.2.2⟩
      · rw [if_neg h] at hamount ⊢
        exact hs o' (List.mem_of_getElem? ho') amount hamount

end Store.Memory

end Loyalty
