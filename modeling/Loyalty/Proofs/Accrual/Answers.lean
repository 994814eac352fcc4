import Loyalty.Accrual.Gateway
import Loyalty.Proofs.Program

/-!
# Loyalty.Proofs.Accrual.Answers

What has to come over the wire for the service to say something about an order.

A fetch is one request, whose address names one number and no other
(`address_inj`).  It says what an order's status is only when the answer is a 200
whose body is a report (`read_eq_registered_iff`), and a final status only when
that is the very name in the report (`eq_name_of_isFinal`).
-/

namespace Loyalty.Accrual.Gateway

/-- The report that the body of an answer holds. -/
def Answer.report? (a : Answer) : Option Report := (a.body.bind Json.readBytes?).bind Report.ofJson?

/-- The address of an order names its number. -/
theorem address_inj {base : String} {m n : OrderNumber} :
    address base m = address base n ↔ m = n := by
  constructor
  · intro h
    obtain ⟨m, hm⟩ := m
    obtain ⟨n, hn⟩ := n
    have htext : m = n := by simpa [address, String.append_right_inj, toString] using h
    subst htext
    rfl
  · rintro rfl
    rfl

/-- An answer says what an order's status is exactly when it is a 200 with a report of it. -/
theorem read_eq_registered_iff {a : Answer} {status : OrderStatus} {accrual : Option Points} :
    read a = .ok (.registered status accrual) ↔
      a.status = 200 ∧ ∃ report, a.report? = some report ∧
        report.outcome = .registered status accrual := by
  unfold read Answer.report?
  by_cases hstatus : a.status = 200
  · rw [if_pos hstatus]
    cases hbody : a.body.bind Json.readBytes? with
    | none => simp
    | some v =>
        cases hreport : Report.ofJson? v with
        | none => simp [hreport]
        | some report => simp [hreport, hstatus]
  · rw [if_neg hstatus]
    split_ifs <;> simp [hstatus]

/-- Every name that is not the one of a final status means one that is not final. -/
theorem eq_name_of_isFinal {name : String} (h : (statusOf name).isFinal = true) :
    name = (statusOf name).name := by
  unfold statusOf at h ⊢
  split_ifs at h ⊢ <;> simp_all [OrderStatus.name, OrderStatus.isFinal]

/-- A fetch is one request for the address of the order, whatever is answered. -/
theorem gives_fetch_iff {base : String} {number : OrderNumber}
    {log : List (Program.Exchange Get.Answer)} {r : Except GatewayError Outcome} :
    (fetch base number).Gives log r ↔
      ∃ reply : Except String Answer, log = [⟨⟨address base number⟩, reply⟩] ∧
        r = match reply with
          | .error reason => .error (.transport reason)
          | .ok a => read a := by
  constructor
  · intro h
    cases h with
    | ask reply h =>
        cases reply with
        | error reason => cases h with | done => exact ⟨.error reason, rfl, rfl⟩
        | ok a => cases h with | done => exact ⟨.ok a, rfl, rfl⟩
  · rintro ⟨reply, rfl, rfl⟩
    unfold fetch
    apply Program.Gives.ask
    cases reply <;> exact .done _

/-- A fetch learns what an order's status is only from a 200 with a report of it. -/
theorem of_gives_registered {base : String} {number : OrderNumber}
    {log : List (Program.Exchange Get.Answer)} {status : OrderStatus} {accrual : Option Points}
    (h : (fetch base number).Gives log (.ok (.registered status accrual))) :
    ∃ (a : Answer) (report : Report), log = [⟨⟨address base number⟩, .ok a⟩] ∧ a.status = 200 ∧
      a.report? = some report ∧ report.outcome = .registered status accrual := by
  obtain ⟨reply, rfl, hr⟩ := gives_fetch_iff.mp h
  cases reply with
  | error reason => contradiction
  | ok a =>
      obtain ⟨hstatus, report, hreport, houtcome⟩ := read_eq_registered_iff.mp hr.symm
      exact ⟨a, report, rfl, hstatus, hreport, houtcome⟩

end Loyalty.Accrual.Gateway
