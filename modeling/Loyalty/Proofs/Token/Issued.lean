import Loyalty.Proofs.Instant.Text
import Loyalty.Proofs.Text.Utf8
import Loyalty.Proofs.Token.Parts
import Loyalty.Proofs.Token.Registered
import Loyalty.Proofs.Uuid

/-!
# Loyalty.Proofs.Token.Issued

Tokens issued, and the same tokens read.

What is written for claims is read as these claims (`Claims.ofJson?_toJson`),
through text, bytes and base 64 (`readPayload_toJson`), and the signature is the
one that is looked for, so a token gives back what it was signed for
(`verify_sign`).  Whether it holds is then a matter of its window alone.
-/

namespace Loyalty

open Json Text

/-! ## claims -/

/-- Claims whose instants can be written and read again. -/
structure Claims.IsWritable (claims : Claims) : Prop where
  issuedAt_isRepresentable : claims.issuedAt.isRepresentable = true
  issuedAt_isWritable : claims.issuedAt.IsWritable
  expiresAt_isRepresentable : claims.expiresAt.isRepresentable = true
  expiresAt_isWritable : claims.expiresAt.IsWritable

/-- Claims written are the claims read. -/
theorem Claims.ofJson?_toJson {claims : Claims} (h : claims.IsWritable) :
    ofJson? claims.toJson = some claims := by
  have hsub := Uuid.ofText?_toText claims.sub.uuid
  have hissued := Instant.ofText?_toText h.issuedAt_isRepresentable h.issuedAt_isWritable
  have hexpires := Instant.ofText?_toText h.expiresAt_isRepresentable h.expiresAt_isWritable
  simp [ofJson?, toJson, fields?, record, namesFit, field?, Uuid.ofJson?, Uuid.toJson,
    Instant.ofJson?, Instant.toJson, Json.text, asText?, hsub, hissued, hexpires]

namespace Token

/-! ## parts -/

/-- A written record is read from its part. -/
theorem readBytes?_record {fields : List (String × Json)} (hv : ∀ f ∈ fields, isSimple f.2 = true) :
    readBytes? (Utf8.encode (record fields).toText) = some (record fields) := by
  rw [readBytes?, Utf8.symbols_encode, readSymbols?_record hv]

theorem readHeader_header : readHeader (part (Utf8.encode header)) = .ok "HS256" := by
  have halgorithm :
      headerAlgorithm? (record [("typ", .text "JWT"), ("alg", .text "HS256")]) = some "HS256" := by
    decide +kernel
  have hsimple :
      ∀ f ∈ [("typ", Json.text "JWT"), ("alg", Json.text "HS256")], isSimple f.2 = true := by
    simp [isSimple, Json.text]
  have hread := readBytes?_record hsimple
  simp [readHeader, partBytes_eq_ok_iff.mpr rfl, header, hread, halgorithm, bind, Except.bind]

/-- The payload of claims is read as the claims, and is meant for no audience. -/
theorem readPayload_toJson {claims : Claims} (h : claims.IsWritable) :
    readPayload (part (Utf8.encode claims.toJson.toText)) = .ok claims := by
  have hsimple : ∀ f ∈ [("sub", claims.sub.uuid.toJson), ("issued_at", claims.issuedAt.toJson),
      ("expires_at", claims.expiresAt.toJson)], isSimple f.2 = true := by
    simp [isSimple, Uuid.toJson, Instant.toJson, Json.text]
  have hread := readBytes?_record hsimple
  have haudience := audienceNamed?_record (by simp) hsimple (by simp)
  rw [← Utf8.symbols_encode] at haudience
  change readBytes? (Utf8.encode claims.toJson.toText) = some claims.toJson at hread
  change audienceNamed? (Utf8.symbols (Utf8.encode claims.toJson.toText)) = _ at haudience
  simp [readPayload, partBytes_eq_ok_iff.mpr rfl, hread, haudience, Claims.ofJson?_toJson h, bind,
    Except.bind]

/-- A token gives back what it was signed for. -/
theorem verify_sign (secret : List UInt8) {claims : Claims} (h : claims.IsWritable) :
    verify secret (sign secret claims) = .ok claims := by
  refine verify_eq_ok_iff.mpr ⟨_, _, point_notMem_part _, ?_, readHeader_header,
    readPayload_toJson h⟩
  simp only [sign, String.toList_ofList]

end Token

/-! ## lifetimes -/

namespace Instant

/-- The nanoseconds from the epoch to an instant that is no leap second. -/
def toNanos (a : Instant) : ℤ := a.seconds * 1000000000 + a.nanos

theorem lt_iff_toNanos_lt {a b : Instant} (ha : a.nanos < 1000000000) (hb : b.nanos < 1000000000) :
    a < b ↔ a.toNanos < b.toNanos := by
  rw [lt_iff, toNanos, toNanos]
  omega

/-- No nanosecond of a length of time is lost. -/
theorem toNanos_add {a : Instant} (ha : a.nanos < 1000000000) (span : TimeSpan) :
    (a.add span).nanos < 1000000000 ∧ (a.add span).toNanos = a.toNanos + span.nanos := by
  have hspan := Int.mul_tdiv_add_tmod span.nanos 1000000000
  rw [add, dif_neg (by omega)]
  simp only [ofNanos, toNanos]
  constructor
  · omega
  · omega

end Instant

namespace Token

/-- What was issued for an instant and a lifetime can be written and read. -/
theorem isWritable_issue (user : UserId) {start : Instant} {lifetime : TimeSpan}
    (hstart : start.isRepresentable = true) (hleap : start.nanos < 1000000000)
    (hend : (start.add lifetime).isRepresentable = true) :
    (Claims.issue user start lifetime).IsWritable where
  issuedAt_isRepresentable := hstart
  issuedAt_isWritable := .inl hleap
  expiresAt_isRepresentable := hend
  expiresAt_isWritable := .inl (Instant.toNanos_add hleap lifetime).1

/-- A token of writable claims holds when the claims do. -/
theorem validate_sign (secret : List UInt8) {claims : Claims} (h : claims.IsWritable)
    (now : Instant) :
    validate secret (sign secret claims) now =
      match claims.validate now with
      | .error e => .error (.claims e)
      | .ok () => .ok claims := by
  cases hheld : claims.validate now with
  | error e => simp only [validate, verify_sign secret h, hheld]
  | ok _ => simp only [validate, verify_sign secret h, hheld]

/-- The calendar has the instant of issue and the end of the lifetime, and the issue falls on no
leap second. -/
structure Issuable (start : Instant) (lifetime : TimeSpan) : Prop where
  start_isRepresentable : start.isRepresentable = true
  nanos_lt : start.nanos < 1000000000
  end_isRepresentable : (start.add lifetime).isRepresentable = true

/-- Inside its window an issued token is accepted as its user's. -/
theorem validate_issue_of_window (secret : List UInt8) (user : UserId) {start : Instant}
    {lifetime : TimeSpan} (h : Issuable start lifetime) {now : Instant} (hbegun : start ≤ now)
    (hended : now < start.add lifetime) :
    validate secret (issue secret lifetime user start) now =
      .ok (Claims.issue user start lifetime) := by
  have hheld : (Claims.issue user start lifetime).validate now = .ok () :=
    Claims.validate_eq_ok_iff.mpr ⟨hbegun, hended⟩
  rw [issue, validate_sign secret
    (isWritable_issue user h.start_isRepresentable h.nanos_lt h.end_isRepresentable), hheld]

/-- A window is empty when its length is not positive. -/
theorem add_le_iff {start : Instant} (hleap : start.nanos < 1000000000) (lifetime : TimeSpan) :
    start.add lifetime ≤ start ↔ lifetime.nanos ≤ 0 := by
  obtain ⟨hnanos, hsum⟩ := Instant.toNanos_add hleap lifetime
  rw [← Instant.not_lt_iff_le, Instant.lt_iff_toNanos_lt hleap hnanos, hsum]
  omega

/-- **An issued token holds for its user exactly inside its window**: whatever the secret, the user,
the lifetime and the instant of issue, if that and the end of the lifetime are instants that the
calendar has and the issue falls on no leap second,

* the token is accepted from its issue on until its lifetime is over, as claims of the user and of
  these two instants, to the nanosecond, and never as other claims;
* without a positive lifetime its window is refused at any time, and with one it is refused as not
  yet valid before, and as expired afterwards;
* never is it refused as malformed. -/
theorem validate_issue (secret : List UInt8) (user : UserId) {start : Instant} {lifetime : TimeSpan}
    (hstart : start.isRepresentable = true) (hleap : start.nanos < 1000000000)
    (hend : (start.add lifetime).isRepresentable = true) (now : Instant) :
    (∀ claims, validate secret (issue secret lifetime user start) now = .ok claims ↔
      claims = { sub := user, issuedAt := start, expiresAt := start.add lifetime } ∧
        start ≤ now ∧ now < start.add lifetime) ∧
    (start.add lifetime).toNanos = start.toNanos + lifetime.nanos ∧
    (lifetime.nanos ≤ 0 →
      validate secret (issue secret lifetime user start) now =
        .error (.claims .invalidTimeWindow)) ∧
    (0 < lifetime.nanos → now < start →
      validate secret (issue secret lifetime user start) now = .error (.claims .notYetValid)) ∧
    (0 < lifetime.nanos → start.add lifetime ≤ now →
      validate secret (issue secret lifetime user start) now = .error (.claims .expired)) ∧
    ∀ message, validate secret (issue secret lifetime user start) now ≠
      .error (.malformed message) := by
  have hvalidate := validate_sign secret (isWritable_issue user hstart hleap hend) now
  have hempty := add_le_iff hleap lifetime
  rw [← issue] at hvalidate
  rw [hvalidate]
  refine ⟨fun claims => ?_, (Instant.toNanos_add hleap lifetime).2, fun hl => ?_,
    fun hl hbefore => ?_,
    fun hl hafter => ?_, fun message => ?_⟩
  · constructor
    · intro h
      split at h
      · cases h
      · next hwindow =>
          cases h
          exact ⟨rfl, Claims.validate_eq_ok_iff.mp hwindow⟩
    · rintro ⟨rfl, hwindow⟩
      have hok : (Claims.issue user start lifetime).validate now = .ok () :=
        Claims.validate_eq_ok_iff.mpr hwindow
      rw [hok, Claims.issue]
  · simp only [Claims.validate, Claims.issue, hempty, hl, if_true]
  · simp only [Claims.validate, Claims.issue, hempty, Int.not_le.mpr hl, hbefore, if_true, if_false]
  · have hlt := (not_congr hempty).mpr (Int.not_le.mpr hl)
    have hle : start ≤ now := by
      rw [Instant.le_iff] at hlt hafter ⊢
      omega
    simp only [Claims.validate, Claims.issue, hempty, Int.not_le.mpr hl,
      (Instant.not_lt_iff_le now start).mpr hle, hafter, if_true, if_false]
  · split <;> nofun

/-- A token of a day, read a nanosecond before its end and at its end. -/
theorem validate_issue_day :
    let start : Instant := { seconds := 1577836800, nanos := 123456789 }
    let token := issue [1, 2, 3] lifetime default start
    validate [1, 2, 3] token { seconds := 1577923200, nanos := 123456788 } =
        .ok { sub := default, issuedAt := start,
              expiresAt := { seconds := 1577923200, nanos := 123456789 } } ∧
      validate [1, 2, 3] token { seconds := 1577923200, nanos := 123456789 } =
        .error (.claims .expired) := by
  have hstart : Instant.isRepresentable { seconds := 1577836800, nanos := 123456789 } = true := by
    decide +kernel
  have hend : (Instant.add { seconds := 1577836800, nanos := 123456789 } lifetime).isRepresentable =
      true := by
    decide +kernel
  have hissue := validate_issue [1, 2, 3] default hstart (by decide) hend
  constructor
  · exact ((hissue _).1 _).mpr ⟨by decide +kernel, by decide, by decide +kernel⟩
  · exact (hissue _).2.2.2.2.1 (by decide) (by decide +kernel)

end Token

end Loyalty
