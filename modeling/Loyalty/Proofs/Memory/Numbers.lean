import Loyalty.Proofs.Memory.Orders

/-!
# Loyalty.Proofs.Memory.Numbers

Who has a number, and since when.

An order stays the same order while its accrual becomes known: `Same` leaves
out the status and the accrual.  `Alike` says of two states that every number
has the same order in both, or none in both.  A call that creates no order
leads to such a state, `alike_step`; one that does is refused where the number
has an order, and else the number has the new one, `createOrder_of_some` and
`createOrder_of_none`.
-/

namespace Loyalty

/-- An order and the same one, whatever is known of its accrual. -/
structure Order.Same (o o' : Order) : Prop where
  id : o'.id = o.id
  number : o'.number = o.number
  userId : o'.userId = o.userId
  uploadedAt : o'.uploadedAt = o.uploadedAt

namespace Order.Same

variable {o o' o'' : Order}

theorem refl (o : Order) : o.Same o := ⟨rfl, rfl, rfl, rfl⟩

theorem trans (h : o.Same o') (h' : o'.Same o'') : o.Same o'' where
  id := h'.id.trans h.id
  number := h'.number.trans h.number
  userId := h'.userId.trans h.userId
  uploadedAt := h'.uploadedAt.trans h.uploadedAt

theorem symm (h : o.Same o') : o'.Same o :=
  ⟨h.id.symm, h.number.symm, h.userId.symm, h.uploadedAt.symm⟩

theorem revised (o : Order) (status : OrderStatus) (accrual : Option Points) :
    o.Same (o.revised status accrual) := ⟨rfl, rfl, rfl, rfl⟩

end Order.Same

namespace Store.Memory.State

variable {s s' : State} {stamp : Stamp} {u : UserId} {n : OrderNumber} {o : Order}

/-- Every number has the same order in both states, or none in both. -/
def Alike (s s' : State) : Prop := ∀ n, Option.Rel Order.Same (s.order? n) (s'.order? n)

theorem Alike.refl (s : State) : s.Alike s := by
  intro n
  cases s.order? n with
  | none => exact .none
  | some o => exact .some (.refl o)

/-- An order is the same order in a state that is alike. -/
theorem Alike.order? (h : s.Alike s') (ho : s.order? n = some o) :
    ∃ o', s'.order? n = some o' ∧ o.Same o' := by
  have hn := h n
  rw [ho] at hn
  generalize s'.order? n = found at hn
  cases hn with
  | some hsame => exact ⟨_, rfl, hsame⟩

theorem Alike.isSome_order? (h : s.Alike s') (n : OrderNumber) :
    (s'.order? n).isSome = (s.order? n).isSome := by
  have hn := h n
  generalize s.order? n = found, s'.order? n = found' at hn
  cases hn with
  | some _ => rfl
  | none => rfl

namespace Indexed

variable (hs : s.Indexed)
include hs

/-- A number is in the index exactly when it has an order. -/
theorem contains_index (n : OrderNumber) : s.index.contains n = (s.order? n).isSome := by
  rw [Table.contains, State.order?]
  cases hplace : s.index.get? n with
  | none => rfl
  | some place =>
      obtain ⟨o, ho, -⟩ := hs.sound hplace
      simp [ho]

/-- An order is the only one under its number. -/
theorem filter_number (ho : s.order? n = some o) : s.orders.filter (·.number = n) = [o] := by
  have hmem : ∀ o', o' ∈ s.orders.filter (·.number = n) ↔ o' ∈ [o] := by
    intro o'
    have hfound : o' ∈ s.orders ∧ o'.number = n ↔ s.order? n = some o' := hs.order?_eq_some_iff.symm
    rw [List.mem_filter, decide_eq_true_iff, hfound, ho, List.mem_singleton, Option.some.injEq]
    exact eq_comm
  have hnodup : (s.orders.filter (·.number = n)).Nodup :=
    (List.Nodup.of_map _ hs.nodup_numbers).filter _
  exact List.perm_singleton.mp
    ((List.perm_ext_iff_of_nodup hnodup (List.nodup_singleton o)).mpr hmem)

/-- A number that has an order gets no other. -/
theorem createOrder_of_some (ho : s.order? n = some o) (stamp : Stamp) (u : UserId) :
    s.createOrder stamp u n = (.error .duplicate, s) := by
  have hcontains : s.index.contains n = true := by rw [hs.contains_index, ho]; rfl
  rw [createOrder, if_pos hcontains]

/-- A number that has no order gets one, and nothing else changes. -/
theorem createOrder_of_none (hn : s.order? n = none) (stamp : Stamp) (u : UserId) :
    (s.createOrder stamp u n).1 = .ok (.submitted ⟨stamp.id⟩ u n stamp.now) ∧
    (s.createOrder stamp u n).2.orders = s.orders ++ [.submitted ⟨stamp.id⟩ u n stamp.now] ∧
    ∀ k, (s.createOrder stamp u n).2.order? k =
      if k = n then some (.submitted ⟨stamp.id⟩ u n stamp.now) else s.order? k := by
  have hcontains : s.index.contains n = false := by rw [hs.contains_index, hn]; rfl
  have hcreate : s.createOrder stamp u n =
      (.ok (.submitted ⟨stamp.id⟩ u n stamp.now),
        { s with
          orders := s.orders ++ [.submitted ⟨stamp.id⟩ u n stamp.now]
          index := s.index.insert n s.orders.length }) := by
    simp [createOrder, hcontains]
  have horder : ∀ k, (s.createOrder stamp u n).2.order? k =
      if k = n then some (.submitted ⟨stamp.id⟩ u n stamp.now) else s.order? k := by
    intro k
    rw [hcreate, State.order?, State.order?, Table.get?_insert]
    by_cases hk : k = n
    · simp [hk]
    · rw [if_neg (Ne.symm hk), if_neg hk]
      cases hplace : s.index.get? k with
      | none => rfl
      | some place =>
          -- the place of an order that was there is before the new one's
          obtain ⟨o, ho, -⟩ := hs.sound hplace
          have hlt : place < s.orders.length := (List.getElem?_eq_some_iff.mp ho).1
          simp [List.getElem?_append_left hlt]
  exact ⟨by rw [hcreate], by rw [hcreate], horder⟩

/-- A call that creates no order leaves every number its order. -/
theorem alike_step {call : StoreCall} (hcall : ∀ u n, call ≠ .createOrder u n) :
    s.Alike (step stamp s call).2 := by
  have hfiles := s.files_step stamp call
  cases call with
  | createOrder u n => exact absurd rfl (hcall u n)
  | updateStatus number status accrual =>
      intro k
      have hupdate : (step stamp s (.updateStatus number status accrual)).2.order? k =
          if k = number then (s.order? k).map (·.revised status accrual) else s.order? k :=
        hs.order?_updateStatus number k status accrual
      rw [hupdate]
      split
      · cases s.order? k with
        | none => exact .none
        | some o => exact .some (.revised o status accrual)
      · exact Alike.refl s k
  | _ =>
      cases hfiles with
      | nothing horders hindex =>
          intro k
          rw [State.order?, State.order?, horders, hindex]
          exact Alike.refl s k

end Indexed

end Store.Memory.State

end Loyalty
