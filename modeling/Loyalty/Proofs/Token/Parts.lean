import Loyalty.Proofs.Text.Base64
import Loyalty.Token.Signed

/-!
# Loyalty.Proofs.Token.Parts

The parts of tokens.

No part has a point in it, so the points of a token tell where its parts are
(`cutLast?_eq_some_iff`), and bytes have one spelling as a part
(`partBytes_eq_ok_iff`).  A token is verified exactly when it is a header of the
algorithm, a payload, and the one signature that the secret gives to both
(`verify_eq_ok_iff`).
-/

namespace Loyalty.Token

open Text

theorem point_notMem_part (bytes : List UInt8) : '.' ∉ part bytes :=
  Base64.point_notMem_encode bytes

theorem part_injective {xs ys : List UInt8} (h : part xs = part ys) : xs = ys :=
  Base64.encode_injective h

/-- A part is read as some bytes exactly when it is what is written for them. -/
theorem partBytes_eq_ok_iff {cs : List Char} {bytes : List UInt8} :
    partBytes cs = .ok bytes ↔ cs = part bytes := by
  rw [part, ← Base64.decode?_eq_some_iff, partBytes]
  cases Base64.decode? Base64.urlSafe cs <;> simp

theorem cutLast?_append {tail : List Char} (h : '.' ∉ tail) (front : List Char) :
    cutLast? (front ++ '.' :: tail) = some (front, tail) := by
  have hne : ∀ c ∈ tail.reverse, decide (c ≠ '.') = true := fun c hc =>
    decide_eq_true (ne_of_mem_of_not_mem (List.mem_reverse.mp hc) h)
  have htail : (front ++ '.' :: tail).reverse.takeWhile (· ≠ '.') = tail.reverse := by
    rw [List.reverse_append, List.reverse_cons, List.append_assoc, List.takeWhile_append_of_pos hne]
    simp
  simp only [cutLast?, htail, List.reverse_reverse]
  rw [if_pos (by simp; omega), List.length_append, List.length_cons,
    show front.length + (tail.length + 1) - tail.length - 1 = front.length by omega, List.take_left]

theorem cutLast?_eq_none {cs : List Char} (h : '.' ∉ cs) : cutLast? cs = none := by
  have hne : ∀ c ∈ cs.reverse, decide (c ≠ '.') = true := fun c hc =>
    decide_eq_true (ne_of_mem_of_not_mem (List.mem_reverse.mp hc) h)
  simp only [cutLast?, List.takeWhile_eq_self_iff.mpr hne, List.reverse_reverse]
  rw [if_neg (by omega)]

/-- A text is cut at the point behind which there is none. -/
theorem cutLast?_eq_some_iff {cs front tail : List Char} :
    cutLast? cs = some (front, tail) ↔ cs = front ++ '.' :: tail ∧ '.' ∉ tail := by
  constructor
  · intro h
    have hmem : '.' ∈ cs := by
      by_contra hnone
      rw [cutLast?_eq_none hnone] at h
      contradiction
    obtain ⟨tail', front', heq, hnone⟩ := List.eq_append_cons_of_mem (List.mem_reverse.mpr hmem)
    have hcs : cs = front'.reverse ++ '.' :: tail'.reverse := by
      rw [← List.reverse_reverse cs, heq]
      simp
    have hnone' : '.' ∉ tail'.reverse := by simpa using hnone
    rw [hcs, cutLast?_append hnone'] at h
    cases h
    exact ⟨hcs, hnone'⟩
  · rintro ⟨rfl, hnone⟩
    exact cutLast?_append hnone front

/-- A token is verified exactly when the secret signed its header and payload, and these can be
read. -/
theorem verify_eq_ok_iff {secret : List UInt8} {token : String} {claims : Claims} :
    verify secret token = .ok claims ↔ ∃ head body, '.' ∉ body ∧
      token.toList = (head ++ '.' :: body) ++ '.' :: signature secret (head ++ '.' :: body) ∧
      readHeader head = .ok "HS256" ∧ readPayload body = .ok claims := by
  constructor
  · intro h
    unfold verify at h
    split at h
    · cases h
    · next message signed hmessage =>
        split at h
        · cases h
        · next head body hbody =>
            obtain ⟨htoken, -⟩ := cutLast?_eq_some_iff.mp hmessage
            obtain ⟨rfl, hnone⟩ := cutLast?_eq_some_iff.mp hbody
            cases hheader : readHeader head with
            | error fault => simp [hheader, bind, Except.bind] at h
            | ok name =>
                simp only [hheader, bind, Except.bind] at h
                split at h
                · cases h
                · next hname =>
                    split at h
                    · cases h
                    · next hsigned =>
                        obtain rfl := not_not.mp hname
                        obtain rfl := not_not.mp hsigned
                        exact ⟨head, body, hnone, htoken, hheader, h⟩
  · rintro ⟨head, body, hnone, htoken, hheader, hpayload⟩
    have hsigned : '.' ∉ signature secret (head ++ '.' :: body) := point_notMem_part _
    rw [verify, htoken, cutLast?_append hsigned]
    simp only
    rw [cutLast?_append hnone]
    simp [hheader, hpayload, bind, Except.bind]

end Loyalty.Token
