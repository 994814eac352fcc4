import Loyalty.Store.Memory

/-!
# Loyalty.Proofs.Memory.Users

The users that the stores keep.

A login that nobody has is given to who asks for it, and whoever has one keeps
it: no call changes the user of a login that there is (`user?_of_some`), and only
`createUser` adds one (`user?_step`).
-/

namespace Loyalty.Store.Memory.State

variable {s : State} {name : String} {user : User}

/-- The user of a login. -/
def user? (s : State) (name : String) : Option User := s.users.get? name

/-- A login that somebody has is refused. -/
theorem createUser_of_some (h : s.user? name = some user) (stamp : Stamp) (passwordHash : String) :
    s.createUser stamp name passwordHash = (.error .duplicate, s) := by
  have hthere : s.users.contains name = true := by
    rw [Table.contains, ← user?, h]
    rfl
  rw [createUser, if_pos hthere]

/-- A login that nobody has is given to a new user. -/
theorem createUser_of_none (h : s.user? name = none) (stamp : Stamp) (passwordHash : String) :
    ∃ user s', s.createUser stamp name passwordHash = (.ok user, s') ∧
      user.passwordHash = passwordHash ∧
      ∀ other, s'.user? other = if other = name then some user else s.user? other := by
  have hthere : ¬ s.users.contains name = true := by
    rw [Table.contains, ← user?, h]
    simp
  rw [createUser, if_neg hthere]
  refine ⟨_, _, rfl, rfl, fun other => ?_⟩
  rw [user?, Table.get?_insert]
  simp only [eq_comm, user?]

/-- Only `createUser` touches the users. -/
theorem user?_step (s : State) (stamp : Stamp) {call : StoreCall}
    (hcall : ∀ login passwordHash, call ≠ .createUser login passwordHash) (name : String) :
    (step stamp s call).2.user? name = s.user? name := by
  cases call with
  | createUser login passwordHash => exact absurd rfl (hcall login passwordHash)
  | createOrder u n =>
      simp only [step, createOrder]
      split <;> rfl
  | updateStatus n status accrual =>
      simp only [step, updateStatus]
      split <;> rfl
  | credit u amount =>
      simp only [step, credit]
      split <;> rfl
  | debit u n amount =>
      simp only [step, debit]
      split
      · rfl
      · split <;> rfl
  | openBalance _ | findByLogin _ | findByNumber _ | listByUser _ | listPending | balance _
  | listWithdrawals _ => rfl

/-- Whoever has a login keeps it, with the same identifier and the same stored password. -/
theorem user?_of_some (h : s.user? name = some user) (stamp : Stamp) (call : StoreCall) :
    (step stamp s call).2.user? name = some user := by
  cases call with
  | createUser login passwordHash =>
      rw [step]
      cases hlogin : s.user? login with
      | some other => rw [createUser_of_some hlogin, h]
      | none =>
          obtain ⟨created, s', hcreate, -, husers⟩ := createUser_of_none hlogin stamp passwordHash
          have hne : name ≠ login := by
            rintro rfl
            rw [hlogin] at h
            contradiction
          rw [hcreate, husers, if_neg hne, h]
  | _ => rw [user?_step s stamp (by simp), h]

end Loyalty.Store.Memory.State
