/-!
# Loyalty.Watch

Channels that keep the latest of the values sent over them.

A channel has one sender and any number of receivers.  Each receiver has a mark,
which tells how far it has looked: it can wait until there is a value that it has
not seen.  What a channel is made of is left open.  `Lawful` says what each
operation does to what can be told of a channel, and `counting` is a channel that
is nothing but that.
-/

namespace Loyalty

/-- What a receiver that waits for another value is told. -/
inductive Watch.Report (Mark : Type) where
  /-- There is one, and this is the mark at which it counts as seen. -/
  | changed (mark : Mark)
  /-- There will be none. -/
  | closed
  deriving DecidableEq

/-- What can be told of a channel. -/
structure Watch.View (α : Type) where
  value : α
  /-- How many values have been sent, the first one aside. -/
  sent : Nat
  hasSender : Bool
  receivers : Nat
  deriving DecidableEq

/-- Channels of values. -/
structure Watch (α : Type) where
  Channel : Type
  Mark : Type
  view : Channel → Watch.View α
  /-- How many values had been sent when a receiver looked last. -/
  seen : Mark → Nat
  /-- A channel with its first value, and its first receiver. -/
  create : α → Channel × Mark
  send : α → Channel → Channel
  dropSender : Channel → Channel
  /-- Another receiver, made from one that there is. -/
  clone : Channel → Mark → Channel × Mark
  dropReceiver : Channel → Channel
  /-- The value, without looking at it. -/
  borrow : Channel → Mark → α
  /-- The value looked at. -/
  update : Channel → Mark → α × Mark
  /-- A wait for another value, where it need not go on. -/
  changed? : Channel → Mark → Option (Watch.Report Mark)

namespace Watch

variable {α : Type}

/-- The operations do what they are for. -/
structure Lawful (w : Watch α) : Prop where
  view_create (a : α) : w.view (w.create a).1 =
    { value := a, sent := 0, hasSender := true, receivers := 1 }
  /-- Without a receiver a value is sent to no one. -/
  view_send_alone (a : α) (c : w.Channel) (h : (w.view c).receivers = 0) :
    w.view (w.send a c) = w.view c
  view_send (a : α) (c : w.Channel) (h : 0 < (w.view c).receivers) :
    w.view (w.send a c) = { w.view c with value := a, sent := (w.view c).sent + 1 }
  view_dropSender (c : w.Channel) : w.view (w.dropSender c) = { w.view c with hasSender := false }
  view_clone (c : w.Channel) (mark : w.Mark) :
    w.view (w.clone c mark).1 = { w.view c with receivers := (w.view c).receivers + 1 }
  view_dropReceiver (c : w.Channel) :
    w.view (w.dropReceiver c) = { w.view c with receivers := (w.view c).receivers - 1 }
  borrow_eq (c : w.Channel) (mark : w.Mark) : w.borrow c mark = (w.view c).value
  update_fst (c : w.Channel) (mark : w.Mark) : (w.update c mark).1 = (w.view c).value
  seen_update (c : w.Channel) (mark : w.Mark) : w.seen (w.update c mark).2 = (w.view c).sent
  /-- A value that was not seen is told of, whether or not there is a sender. -/
  changed_of_unseen (c : w.Channel) (mark : w.Mark) (h : w.seen mark ≠ (w.view c).sent) :
    ∃ mark', w.changed? c mark = some (.changed mark') ∧ w.seen mark' = (w.view c).sent
  closed_of_seen (c : w.Channel) (mark : w.Mark) (h : w.seen mark = (w.view c).sent)
    (hsender : (w.view c).hasSender = false) : w.changed? c mark = some .closed
  waits_of_seen (c : w.Channel) (mark : w.Mark) (h : w.seen mark = (w.view c).sent)
    (hsender : (w.view c).hasSender = true) : w.changed? c mark = none

/-- Channels that count what is sent, with marks that are counts. -/
def counting (α : Type) : Watch α where
  Channel := View α
  Mark := Nat
  view := id
  seen := id
  create a := ({ value := a, sent := 0, hasSender := true, receivers := 1 }, 0)
  send a c := if c.receivers = 0 then c else { c with value := a, sent := c.sent + 1 }
  dropSender c := { c with hasSender := false }
  clone c mark := ({ c with receivers := c.receivers + 1 }, mark)
  dropReceiver c := { c with receivers := c.receivers - 1 }
  borrow c _ := c.value
  update c _ := (c.value, c.sent)
  changed? c mark :=
    if mark = c.sent then if c.hasSender then none else some .closed else some (.changed c.sent)

/-- Channels that count do what is told of channels. -/
theorem counting_lawful : (counting α).Lawful where
  view_create _ := rfl
  view_send_alone _ _ h := if_pos h
  view_send _ _ h := if_neg (Nat.ne_of_gt h)
  view_dropSender _ := rfl
  view_clone _ _ := rfl
  view_dropReceiver _ := rfl
  borrow_eq _ _ := rfl
  update_fst _ _ := rfl
  seen_update _ _ := rfl
  changed_of_unseen c _ h := ⟨c.sent, if_neg h, rfl⟩
  closed_of_seen c mark h hsender := by
    have hseen : mark = c.sent := h
    have hclosed : c.hasSender = false := hsender
    simp [counting, hseen, hclosed]
  waits_of_seen c mark h hsender := by
    have hseen : mark = c.sent := h
    have hopen : c.hasSender = true := hsender
    simp [counting, hseen, hopen]

end Watch

end Loyalty
