import Loyalty.Proofs.Accrual.Answers
import Loyalty.Proofs.Accrual.Stage
import Loyalty.Proofs.Decimal.Round
import Loyalty.Proofs.Memory.Orders
import Loyalty.Store.Database.Statement

/-!
# Loyalty.Proofs.Accrual.Amounts

What is credited, told from the answer of the server.

The gateway rounds what a server reports to cents, the worker leaves out what is
not positive, and the stores write down what is left.  `Answer.Earns` and
`Answer.EarnsNothing` say what comes of it in terms of the number that the server
sent.  A pass is followed from stage to stage along its exchanges (`Stage.Trail`):
behind a credit it has just written down the order, and before that it has heard of
it from the server.
-/

namespace Loyalty.Accrual

/-! ## what an answer earns -/

/-- Points are rounded to the nearest cent, which is as positive as the amount. -/
theorem nearest_round_cents (a : Points) : ∃ cents : ℤ, Nearest (a.toRat * 100) cents ∧
    (a.round Points.places).toRat = cents / 100 ∧
      (Decimal.zero < a.round Points.places ↔ 0 < cents) := by
  obtain ⟨cents, hnearest, hround⟩ := a.nearest_round Points.places
  have hplaces : (10 : ℚ) ^ Points.places = 100 := by norm_num [Points.places]
  rw [hplaces] at hnearest hround
  refine ⟨cents, hnearest, hround, ?_⟩
  rw [Decimal.lt_iff_toRat, Decimal.toRat_zero, hround, div_pos_iff_of_pos_right (by norm_num)]
  exact Int.cast_pos

namespace Gateway.Answer

/-- A server says that an order is processed, with a number that comes to this amount: the nearest
one in whole cents, the even one of two that are, and a positive one. -/
structure Earns (answer : Answer) (amount : Points) : Prop where
  status : answer.status = 200
  nearest : ∃ (a : Points) (cents : ℤ),
    answer.report? = some { status := "PROCESSED", accrual := some a } ∧
    Nearest (a.toRat * 100) cents ∧ 0 < cents ∧ amount.toRat = cents / 100

/-- A server says that an order is processed, without a number or with one that rounds to no
positive amount in whole cents. -/
structure EarnsNothing (answer : Answer) : Prop where
  status : answer.status = 200
  nearest : ∃ accrual : Option Points, answer.report? = some { status := "PROCESSED", accrual } ∧
    ∀ a ∈ accrual, ∀ cents, Nearest (a.toRat * 100) cents → cents ≤ 0

variable {answer : Answer} {amount amount' : Points}

/-- An answer earns one amount. -/
theorem Earns.unique (h : answer.Earns amount) (h' : answer.Earns amount') :
    amount.toRat = amount'.toRat := by
  obtain ⟨a, cents, hreport, hnearest, -, hamount⟩ := h.nearest
  obtain ⟨a', cents', hreport', hnearest', -, hamount'⟩ := h'.nearest
  rw [hreport, Option.some.injEq, Report.mk.injEq, Option.some.injEq] at hreport'
  rw [← hreport'.2] at hnearest'
  rw [hamount, hamount', hnearest.unique hnearest']

/-- Half a cent is the largest number that earns nothing. -/
theorem earnsNothing_iff : answer.EarnsNothing ↔ answer.status = 200 ∧ ∃ accrual : Option Points,
    answer.report? = some { status := "PROCESSED", accrual } ∧
      ∀ a ∈ accrual, a.toRat ≤ 5 / 1000 := by
  have hhalf : ∀ a : Points, (∀ cents, Nearest (a.toRat * 100) cents → cents ≤ 0) ↔
      a.toRat ≤ 5 / 1000 := by
    intro a
    obtain ⟨n, hnearest, -⟩ := nearest_round_cents a
    constructor
    · intro h
      linarith [hnearest.nonpos_iff.mp (h n hnearest)]
    · intro h cents hcents
      exact hcents.nonpos_iff.mpr (by linarith)
  constructor
  · rintro ⟨hstatus, accrual, hreport, h⟩
    exact ⟨hstatus, accrual, hreport, fun a ha => (hhalf a).mp (h a ha)⟩
  · rintro ⟨hstatus, accrual, hreport, h⟩
    exact ⟨hstatus, accrual, hreport, fun a ha => (hhalf a).mpr (h a ha)⟩

/-- What is credited is at most half a cent from what the server sent. -/
theorem Earns.near (h : answer.Earns amount) :
    ∃ a, answer.report? = some { status := "PROCESSED", accrual := some a } ∧
      |a.toRat - amount.toRat| ≤ 5 / 1000 := by
  obtain ⟨a, cents, hreport, hnearest, -, hamount⟩ := h.nearest
  have hscaled : a.toRat * 100 - cents = (a.toRat - amount.toRat) * 100 := by
    rw [hamount]
    ring
  have hnear := hnearest.near
  rw [hscaled, abs_mul, abs_of_pos (by norm_num : (0 : ℚ) < 100)] at hnear
  exact ⟨a, hreport, by linarith⟩

end Gateway.Answer

namespace Gateway

variable {answer : Answer} {status : OrderStatus} {accrual : Option Points} {amount : Points}

/-- What is learned from an answer is what it is read as. -/
theorem said_of_gives {base address : String} {number : OrderNumber}
    {said : Except GatewayError Outcome}
    (h : (fetch base number).Gives [⟨⟨address⟩, .ok answer⟩] said) : said = read answer := by
  obtain ⟨reply, hlog, hsaid⟩ := gives_fetch_iff.mp h
  cases hlog
  exact hsaid

/-- An amount that is kept of what an answer says is one that it earns. -/
theorem earns_of_read (h : read answer = .ok (.registered status accrual))
    (hkept : Order.persistedAccrual status accrual = some amount) :
    status = .processed ∧ answer.Earns amount := by
  obtain ⟨rfl, rfl, hpositive⟩ := Order.persistedAccrual_eq_some_iff.mp hkept
  obtain ⟨hstatus, ⟨name, reported⟩, hreport, houtcome⟩ := read_eq_registered_iff.mp h
  rw [Report.outcome, Outcome.registered.injEq, Option.map_eq_some_iff] at houtcome
  obtain ⟨hname, a, rfl, rfl⟩ := houtcome
  have hprocessed : name = "PROCESSED" := by
    have heq : name = (statusOf name).name := eq_name_of_isFinal (by rw [hname]; rfl)
    rwa [hname] at heq
  obtain ⟨cents, hnearest, hround, hsign⟩ := nearest_round_cents a
  exact ⟨rfl, hstatus, a, cents, hprocessed ▸ hreport, hnearest, hsign.mp hpositive, hround⟩

/-- Of an answer that earns nothing no amount is kept. -/
theorem Answer.EarnsNothing.read (h : answer.EarnsNothing) :
    ∃ accrual, Gateway.read answer = .ok (.registered .processed accrual) ∧
      Order.persistedAccrual .processed accrual = none := by
  obtain ⟨accrual, hreport, hnothing⟩ := h.nearest
  refine ⟨accrual.map (·.round Points.places),
    read_eq_registered_iff.mpr ⟨h.status, _, hreport, rfl⟩, ?_⟩
  rw [Option.eq_none_iff_forall_ne_some]
  intro amount hkept
  obtain ⟨-, hamount, hpositive⟩ := Order.persistedAccrual_eq_some_iff.mp hkept
  obtain ⟨a, rfl, rfl⟩ := Option.map_eq_some_iff.mp hamount
  obtain ⟨cents, hnearest, -, hsign⟩ := nearest_round_cents a
  exact absurd (hsign.mp hpositive) (not_lt.mpr (hnothing a rfl cents hnearest))

end Gateway

/-! ## passes from stage to stage -/

namespace Stage

variable {stage stage' : Stage} {log : List (Program.Exchange Question.Answer)} {report : Report}

/-- A credit is due only right behind the update of its order, and that right behind what was heard
of it. -/
theorem Trail.of_crediting {interval : ℕ} {order : Order} {amount : Points} {orders : List Order}
    (h : Trail (starting interval) log (crediting report order amount orders)) :
    ∃ earlier status accrual, Order.persistedAccrual status accrual = some amount ∧
      log = earlier ++ [⟨.fetch order.number, .ok (.registered status accrual)⟩,
        ⟨.store (.updateStatus order.number status (some amount)), .ok ()⟩] := by
  obtain rfl | ⟨log, ⟨q, r⟩, rfl⟩ := List.eq_nil_or_concat' log
  · cases h
  · obtain ⟨_, hupdating, hmoves⟩ := trail_concat_iff.mp h
    cases hmoves with
    | earns report order status accrual orders amount hkept =>
        obtain rfl | ⟨log, ⟨q, r⟩, rfl⟩ := List.eq_nil_or_concat' log
        · cases hupdating
        · obtain ⟨_, -, hmoves⟩ := trail_concat_iff.mp hupdating
          cases hmoves with
          | hears => exact ⟨log, status, accrual, hkept, by simp [hkept]⟩

/-- Between two orders a pass looks whether to stop, or is over. -/
theorem Trail.head_left {orders : List Order} (h : Trail (left report orders) log stage) :
    ∀ x ∈ log.head?, x.question = .stopping := by
  cases h with
  | here => simp
  | move hmoves _ => cases hmoves <;> simp

/-- Only the credit that is due is made. -/
theorem Trail.of_credit {u : UserId} {amount : Points} {r : Except StoreError Unit}
    (h : Trail stage (⟨.store (.credit u amount), r⟩ :: log) stage') :
    ∃ report order orders, stage = crediting report order amount orders ∧ order.userId = u := by
  cases h with
  | move hmoves _ =>
      cases hmoves with
      | credited report order amount orders | uncredited report order amount orders =>
          exact ⟨report, order, orders, rfl, rfl⟩

/-- What is heard of an order is written down next, and nothing is credited when nothing is kept. -/
theorem Trail.of_registered {number : OrderNumber} {status : OrderStatus} {accrual : Option Points}
    (h : Trail stage (⟨.fetch number, .ok (.registered status accrual)⟩ :: log) (left report []))
    (hkept : Order.persistedAccrual status accrual = none) :
    ∃ r later, log = ⟨.store (.updateStatus number status none), r⟩ :: later ∧
      ∀ x ∈ later.head?, x.question = .stopping := by
  cases h with
  | move hmoves hrest =>
      cases hmoves with
      | hears report order orders =>
          cases hrest with
          | move hmoves hrest =>
              cases hmoves with
              | unwritten => exact ⟨_, _, by rw [hkept], hrest.head_left⟩
              | wrote => exact ⟨_, _, by rw [hkept], hrest.head_left⟩
              | earns => simp_all

end Stage

/-! ## what is written down -/

/-- What stores write down for the order of a number that is processed: this accrual, in memory and
in the statement that goes to the database. -/
structure Written (number : OrderNumber) (accrual : Option Points) : Prop where
  memory : ∀ (m : Store.Memory.State) (o : Order), m.Indexed → m.order? number = some o →
    (m.updateStatus number .processed accrual).2.order? number =
      some { o with status := .processed, accrual }
  database : (Database.Statement.updateOrder number .processed accrual).parameters =
    [some "PROCESSED", accrual.map Decimal.toText, some number.text]

/-- What is kept of an accrual is what stores write down of it. -/
theorem written_of_kept {number : OrderNumber} {accrual kept : Option Points}
    (h : Order.persistedAccrual .processed accrual = kept) : Written number kept := by
  have hkept : Order.persistedAccrual .processed kept = kept := by
    rw [← h, Order.persistedAccrual_persistedAccrual]
  constructor
  · intro m o hm ho
    rw [hm.order?_updateStatus, if_pos rfl, ho, Option.map_some, Order.revised, hkept]
  · rw [Database.Statement.parameters, hkept]
    rfl

/-! ## every pass -/

/-- **Credited amounts are whole positive cents, faithful to the answer**: whatever the pending
orders are, whatever the stores answer and whenever the program is stopped, in every pass

* right before a credit its order was written down as processed with that very amount, and right
  before that the service was asked about the order; whatever came over the wire for it, it was an
  answer that earns the amount (`Answer.Earns`);
* right after an answer that earns nothing (`Answer.EarnsNothing`) its order is written down as
  processed without an accrual, and after that nothing is credited for it: the pass looks whether to
  stop, or is over. -/
theorem pass_credits_cents {interval : ℕ} {log : List (Program.Exchange Question.Answer)}
    {report : Report} (h : (pass interval).Gives log report) :
    (∀ before after u amount r, log = before ++ ⟨.store (.credit u amount), r⟩ :: after →
      ∃ earlier number said, before = earlier ++ [⟨.fetch number, said⟩,
          ⟨.store (.updateStatus number .processed (some amount)), .ok ()⟩] ∧
        Written number (some amount) ∧
        ∀ base wire, (Gateway.fetch base number).Gives wire said →
          ∃ answer : Gateway.Answer, wire = [⟨⟨Gateway.address base number⟩, .ok answer⟩] ∧
            answer.Earns amount) ∧
      ∀ before after number said, log = before ++ ⟨.fetch number, said⟩ :: after →
        ∀ base (answer : Gateway.Answer), answer.EarnsNothing →
          (Gateway.fetch base number).Gives [⟨⟨Gateway.address base number⟩, .ok answer⟩] said →
          ∃ r later, after = ⟨.store (.updateStatus number .processed none), r⟩ :: later ∧
            Written number none ∧
            ∀ x ∈ later.head?, x.question = .stopping := by
  obtain ⟨report', htrail⟩ : ∃ report', Stage.Trail (.starting interval) log (.left report' []) :=
    Stage.trail_of_gives h
  constructor
  · rintro before after u amount r rfl
    obtain ⟨_, hbefore, hcredit⟩ := Stage.trail_append_iff.mp htrail
    obtain ⟨report, order, orders, rfl, rfl⟩ := hcredit.of_credit
    obtain ⟨earlier, status, accrual, hkept, rfl⟩ := hbefore.of_crediting
    obtain ⟨rfl, -, -⟩ := Order.persistedAccrual_eq_some_iff.mp hkept
    refine ⟨earlier, order.number, _, rfl, written_of_kept hkept, fun base wire hgives => ?_⟩
    obtain ⟨reply, rfl, hsaid⟩ := Gateway.gives_fetch_iff.mp hgives
    cases reply with
    | error reason => contradiction
    | ok answer => exact ⟨answer, rfl, (Gateway.earns_of_read hsaid.symm hkept).2⟩
  · rintro before after number said rfl base answer hnothing hgives
    obtain ⟨accrual, hread, hkept⟩ := hnothing.read
    obtain rfl : said = .ok (.registered .processed accrual) := by
      rw [← hread]
      exact Gateway.said_of_gives hgives
    obtain ⟨_, -, hfetch⟩ := Stage.trail_append_iff.mp htrail
    obtain ⟨r, later, rfl, hlater⟩ := hfetch.of_registered hkept
    exact ⟨r, later, rfl, written_of_kept hkept, hlater⟩

/-- What is answered in a pass over one pending order, when this is said of it. -/
def answersTo (order : Order) (said : Except GatewayError Outcome) :
    (q : Question) → Unit → q.Answer × Unit
  | .coolDown _, s => (false, s)
  | .startCooldown _, s => ((), s)
  | .stopping, s => (false, s)
  | .fetch _, s => (said, s)
  | .store .listPending, s => (.ok [order], s)
  | .store (.updateStatus _ _ _), s => (.ok (), s)
  | .store (.credit _ _), s => (.ok (), s)
  | .store _, s => (.error .cancelled, s)

/-- Two and a half cents are credited as two, and of half a cent nothing is credited. -/
theorem pass_credits_cents_half :
    let order := Order.submitted ⟨⟨0⟩⟩ ⟨⟨0⟩⟩ default .epoch
    let two : Points := { coeff := 2, scale := 2 }
    let reports (accrual : String) : Gateway.Answer :=
      { status := 200
        headers := []
        body := some (Text.Utf8.encode
          ("\x7b\"status\":\"PROCESSED\",\"accrual\":" ++ accrual ++ "\x7d")) }
    let exchanges (answer : Gateway.Answer) :=
      (pass 1).exchanges (answersTo order (Gateway.read answer)) ()
    ((⟨.store (.credit order.userId two), .ok ()⟩ : Program.Exchange Question.Answer) ∈
      exchanges (reports "0.025") ∧
        (reports "0.025").Earns two ∧ Written order.number (some two)) ∧
      (reports "0.005").EarnsNothing ∧ Written order.number none := by
  intro order two reports exchanges
  have hread : Gateway.read (reports "0.025") = .ok (.registered .processed (some two)) := by
    decide +kernel
  have hlog : exchanges (reports "0.025") =
      ([⟨.coolDown 1, false⟩, ⟨.store .listPending, .ok [order]⟩, ⟨.stopping, false⟩] ++
        [⟨.fetch order.number, .ok (.registered .processed (some two))⟩,
          ⟨.store (.updateStatus order.number .processed (some two)), .ok ()⟩]) ++
        ⟨.store (.credit order.userId two), .ok ()⟩ :: [] := by
    simp only [exchanges, hread]
    rfl
  have hcent : Gateway.read (reports "0.005") =
      .ok (.registered .processed (some { coeff := 0, scale := 2 })) := by
    decide +kernel
  have hnothing : (reports "0.005").EarnsNothing :=
    Gateway.Answer.earnsNothing_iff.mpr
      ⟨rfl, some { coeff := 5, scale := 3 }, by decide +kernel, fun a ha => by
        obtain rfl := Option.mem_some_iff.mp ha
        norm_num [Decimal.toRat_eq]⟩
  have hlog' : exchanges (reports "0.005") =
      [⟨.coolDown 1, false⟩, ⟨.store .listPending, .ok [order]⟩, ⟨.stopping, false⟩] ++
        ⟨.fetch order.number, Gateway.read (reports "0.005")⟩ ::
          [⟨.store (.updateStatus order.number .processed none), .ok ()⟩] := by
    simp only [exchanges, hcent]
    rfl
  obtain ⟨earlier, number, said, hbefore, hwritten, hearns⟩ :=
    (pass_credits_cents (Program.gives_exchanges _ _ _)).1 _ _ _ _ _ hlog
  obtain ⟨-, hlast⟩ := List.append_inj' hbefore rfl
  cases hlast
  obtain ⟨answer, hwire, hearns⟩ :=
    hearns "" [⟨⟨Gateway.address "" order.number⟩, .ok (reports "0.025")⟩]
    (Gateway.gives_fetch_iff.mpr ⟨.ok (reports "0.025"), rfl, hread.symm⟩)
  cases hwire
  obtain ⟨-, -, -, hwritten', -⟩ :=
    (pass_credits_cents (Program.gives_exchanges _ _ _)).2 _ _ _ _ hlog' "" _ hnothing
      (Gateway.gives_fetch_iff.mpr ⟨.ok (reports "0.005"), rfl, rfl⟩)
  refine ⟨⟨?_, hearns, hwritten⟩, hnothing, hwritten'⟩
  rw [hlog]
  exact List.mem_append_right _ (List.mem_singleton_self _)

end Loyalty.Accrual
