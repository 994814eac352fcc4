import Loyalty.Proofs.Token.Audience
import Loyalty.Proofs.Token.Issued

/-!
# Loyalty.Proofs.Token.Accepted

Tokens that are accepted.

Whatever text is presented as a token, it is accepted only if its last part is
the signature that the secret gives to the two parts before it.
-/

namespace Loyalty.Token

open Json Text Crypto

/-- A text of three parts. -/
def join (head body signed : List Char) : String :=
  String.ofList ((head ++ '.' :: body) ++ '.' :: signed)

/-- The keyed hash of the two parts that are signed. -/
def mac (secret : List UInt8) (head body : List Char) : List UInt8 :=
  Sha256.hmac secret (Utf8.encode (String.ofList (head ++ '.' :: body)))

/-- Three parts that hold claims at an instant. -/
structure Holds (secret : List UInt8) (now : Instant) (claims : Claims)
    (head body signed : List Char) : Prop where
  noPoint : '.' ∉ head ∧ '.' ∉ body ∧ '.' ∉ signed
  /-- The signature is the keyed hash in base 64, as it is written. -/
  signed_eq : signed = Base64.encode Base64.urlSafe (mac secret head body)
  /-- The header names the algorithm, and no other one. -/
  header : ∃ bytes value, head = Base64.encode Base64.urlSafe bytes ∧
    readBytes? bytes = some value ∧
    headerAlgorithm? value = some "HS256" ∧
    ∀ fields, value = .object fields → ∀ alg, (some "alg", alg) ∈ fields →
      variant? alg = some "HS256"
  /-- The payload is the claims, and none of its fields names an audience. -/
  payload : ∃ bytes fields, body = Base64.encode Base64.urlSafe bytes ∧
    readBytes? bytes = some (.object fields) ∧
    Claims.ofJson? (.object fields) = some claims ∧ ∀ w, (some "aud", w) ∈ fields →
      namesAudience w = false
  window : claims.issuedAt ≤ now ∧ now < claims.expiresAt

variable {secret : List UInt8} {token : String} {now : Instant} {claims : Claims}

/-- A text has three parts in one way at most. -/
theorem join_injective {head body signed head' body' signed' : List Char} (hhead : '.' ∉ head)
    (hbody : '.' ∉ body) (hsigned : '.' ∉ signed)
    (h : join head' body' signed' = join head body signed) :
    head' = head ∧ body' = body ∧ signed' = signed := by
  have hlist := String.ofList_injective h
  have hcount := congrArg (List.count '.') hlist
  simp [List.count_eq_zero_of_not_mem, hhead, hbody, hsigned] at hcount
  have hbody' : '.' ∉ body' := List.count_eq_zero.mp (by omega)
  have hsigned' : '.' ∉ signed' := List.count_eq_zero.mp (by omega)
  have hcut := cutLast?_append hsigned' (head' ++ '.' :: body')
  rw [hlist, cutLast?_append hsigned] at hcut
  obtain ⟨hmessage, rfl⟩ := Prod.mk.inj (Option.some.inj hcut)
  have hcut' := cutLast?_append hbody' head'
  rw [← hmessage, cutLast?_append hbody] at hcut'
  obtain ⟨rfl, rfl⟩ := Prod.mk.inj (Option.some.inj hcut')
  exact ⟨rfl, rfl, rfl⟩

/-! ## headers -/

/-- Where a name comes once, each field of the name is the one. -/
theorem field?_eq_of_mem {fields : List (Option String × Json)} {names : List String}
    {name : String} {v : Json} (hfit : namesFit names fields = true) (hname : name ∈ names)
    (hmem : (some name, v) ∈ fields) :
    field? fields name = some v := by
  simp only [namesFit, Bool.and_eq_true, List.all_eq_true, decide_eq_true_eq] at hfit
  have honce := hfit.2 name hname
  have hfilter : (some name, v) ∈ fields.filter (·.1 = some name) :=
    List.mem_filter.mpr ⟨hmem, by simp⟩
  rw [field?, ← List.head?_filter]
  cases hfields : fields.filter (·.1 = some name) with
  | nil => rw [hfields] at hfilter; cases hfilter
  | cons f more =>
      rw [hfields] at honce hfilter
      obtain rfl : more = [] := List.eq_nil_of_length_eq_zero (by simpa using honce)
      cases List.mem_singleton.mp hfilter
      rfl

theorem headerAlgorithm?_object {fields : List (Option String × Json)} {name : String}
    (h : headerAlgorithm? (.object fields) = some name) {alg : Json}
    (hmem : (some "alg", alg) ∈ fields) :
    variant? alg = some name := by
  unfold headerAlgorithm? at h
  obtain ⟨values, hvalues, h⟩ := Option.bind_eq_some_iff.mp h
  simp only [fields?, Option.ite_none_right_eq_some] at hvalues
  obtain ⟨hfit, hvalues⟩ := hvalues
  cases hvalues
  simp only [List.map_cons, List.map_nil, field?_eq_of_mem hfit (by simp) hmem] at h
  obtain ⟨_, -, h⟩ := Option.bind_eq_some_iff.mp h
  obtain ⟨_, -, h⟩ := Option.bind_eq_some_iff.mp h
  obtain ⟨_, -, h⟩ := Option.bind_eq_some_iff.mp h
  obtain ⟨name', hname, h⟩ := Option.bind_eq_some_iff.mp h
  obtain ⟨-, h⟩ := Option.ite_none_right_eq_some.mp h
  cases h
  exact hname

theorem readHeader_eq_ok {head : List Char} {name : String} (h : readHeader head = .ok name) :
    ∃ bytes value, head = part bytes ∧ readBytes? bytes = some value ∧
      headerAlgorithm? value = some name := by
  unfold readHeader at h
  cases hbytes : partBytes head with
  | error fault => simp [hbytes, bind, Except.bind] at h
  | ok bytes =>
      simp only [hbytes, bind, Except.bind] at h
      split at h
      · cases h
      · next name' hname =>
          cases h
          obtain ⟨value, hvalue, hname⟩ := Option.bind_eq_some_iff.mp hname
          exact ⟨bytes, value, partBytes_eq_ok_iff.mp hbytes, hvalue, hname⟩

/-! ## payloads -/

theorem readPayload_eq_ok {body : List Char} (h : readPayload body = .ok claims) :
    ∃ bytes fields, body = part bytes ∧ readBytes? bytes = some (.object fields) ∧
      Claims.ofJson? (.object fields) = some claims ∧ ∀ w, (some "aud", w) ∈ fields →
        namesAudience w = false := by
  unfold readPayload at h
  cases hbytes : partBytes body with
  | error fault => simp [hbytes, bind, Except.bind] at h
  | ok bytes =>
      simp only [hbytes, bind, Except.bind] at h
      split at h
      · next claims' named hclaims hnamed =>
          split at h
          · cases h
          · next hnot =>
              cases h
              obtain ⟨v, hread, hclaims⟩ := Option.bind_eq_some_iff.mp hclaims
              obtain ⟨fields, rfl, haudience⟩ := audienceNamed?_sound hnamed hread
              refine ⟨bytes, fields, partBytes_eq_ok_iff.mp hbytes, hread, hclaims,
                fun w hmem => ?_⟩
              exact Bool.eq_false_iff.mpr fun hnames => hnot (haudience w hmem hnames)
      · cases h

/-! ## tokens -/

theorem validate_eq_ok_iff :
    validate secret token now = .ok claims ↔
      verify secret token = .ok claims ∧ claims.issuedAt ≤ now ∧ now < claims.expiresAt := by
  unfold validate
  cases verify secret token with
  | error fault => simp
  | ok claims' =>
      simp only [Except.ok.injEq]
      cases hwindow : claims'.validate now with
      | error e =>
          simp only [reduceCtorEq, false_iff]
          rintro ⟨rfl, hwindow'⟩
          have hok : claims'.validate now = .ok () := Claims.validate_eq_ok_iff.mpr hwindow'
          rw [hok] at hwindow
          cases hwindow
      | ok u =>
          have hwindow' := Claims.validate_eq_ok_iff.mp hwindow
          simp only [Except.ok.injEq]
          exact ⟨fun h => ⟨h, h ▸ hwindow'⟩, fun h => h.1⟩

/-- What is accepted holds. -/
theorem holds_of_validate (h : validate secret token now = .ok claims) :
    ∃ head body signed, token = join head body signed ∧
      Holds secret now claims head body signed := by
  obtain ⟨hverify, hwindow⟩ := validate_eq_ok_iff.mp h
  obtain ⟨head, body, hbody, htoken, hheader, hpayload⟩ := verify_eq_ok_iff.mp hverify
  obtain ⟨bytes, value, rfl, hvalue, hname⟩ := readHeader_eq_ok hheader
  refine ⟨part bytes, body, _, String.toList_inj.mp (htoken.trans (String.toList_ofList).symm), ?_⟩
  exact
    { noPoint := ⟨point_notMem_part _, hbody, point_notMem_part _⟩
      signed_eq := rfl
      header := ⟨bytes, value, rfl, hvalue, hname, fun fields hfields alg hmem =>
        headerAlgorithm?_object (hfields ▸ hname) hmem⟩
      payload := readPayload_eq_ok hpayload
      window := hwindow }

/-- The signature of what is accepted is that of the two parts before it, whatever they are. -/
theorem signed_eq_of_validate {head body signed : List Char}
    (h : validate secret (join head body signed) now = .ok claims) :
    signed = part (mac secret head body) := by
  obtain ⟨head', body', signed', heq, hholds⟩ := holds_of_validate h
  obtain ⟨hhead, hbody, hsigned⟩ := hholds.noPoint
  obtain ⟨rfl, rfl, rfl⟩ := join_injective hhead hbody hsigned heq
  exact hholds.signed_eq

/-- **Only what the secret signed is accepted**: whatever text is presented as a token at whatever
instant, when it is accepted as claims, then

* it is a header, a payload and a signature with points between them, the signature being the keyed
  hash of the header and the payload in base 64 without padding, the header one that names the
  algorithm, and the payload an object that is read as these claims, names no audience, and holds at
  this instant;
* no other signature is ever accepted with this header and payload;
* another header or payload is accepted with this signature only if their keyed hash is the same. -/
theorem validate_only_signed (h : validate secret token now = .ok claims) :
    ∃ head body signed, token = join head body signed ∧ Holds secret now claims head body signed ∧
      (∀ signed' now' claims', validate secret (join head body signed') now' = .ok claims' →
        signed' = signed) ∧
      ∀ head' body' now' claims', validate secret (join head' body' signed) now' = .ok claims' →
        mac secret head' body' = mac secret head body := by
  obtain ⟨head, body, signed, htoken, hholds⟩ := holds_of_validate h
  refine ⟨head, body, signed, htoken, hholds, fun signed' now' claims' haccepted => ?_,
    fun head' body' now' claims' haccepted => ?_⟩
  · exact (signed_eq_of_validate haccepted).trans hholds.signed_eq.symm
  · exact part_injective ((signed_eq_of_validate haccepted).symm.trans hholds.signed_eq)

/-- A token of a day, which no other signature is accepted for. -/
theorem validate_only_signed_day :
    let claims : Claims :=
      { sub := default, issuedAt := { seconds := 1577836800, nanos := 0 },
        expiresAt := { seconds := 1577923200, nanos := 0 } }
    let head := part (Utf8.encode header)
    let body := part (Utf8.encode claims.toJson.toText)
    validate [1, 2, 3] (sign [1, 2, 3] claims) { seconds := 1577880000, nanos := 0 } = .ok claims ∧
      ∀ signed now claims', validate [1, 2, 3] (join head body signed) now = .ok claims' →
        signed = part (mac [1, 2, 3] head body) := by
  intro claims head body
  have hwritable : claims.IsWritable :=
    ⟨by decide +kernel, .inl (by decide), by decide +kernel, .inl (by decide)⟩
  have haccepted : validate [1, 2, 3] (sign [1, 2, 3] claims)
      { seconds := 1577880000, nanos := 0 } = .ok claims := by
    rw [validate_sign [1, 2, 3] hwritable]
    rfl
  obtain ⟨head', body', signed', heq, hholds, hunique, -⟩ := validate_only_signed haccepted
  obtain ⟨hhead, hbody, hsigned⟩ := hholds.noPoint
  have hjoin : join head body (part (mac [1, 2, 3] head body)) = sign [1, 2, 3] claims := rfl
  obtain ⟨rfl, rfl, rfl⟩ := join_injective hhead hbody hsigned (hjoin.trans heq)
  exact ⟨haccepted, hunique⟩

end Loyalty.Token
