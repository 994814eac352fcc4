import Loyalty.Http.Bearer
import Loyalty.Proofs.Text.Base64
import Loyalty.Proofs.Text.Blank
import Loyalty.Proofs.Text.Utf8

/-!
# Loyalty.Proofs.Http.Bearer

Tokens that are given out, and tokens that come back.

Where a request has a token is told without its reader: `HasBearer` says that the
first header `authorization` is the word `Bearer` and a token, `HoldsToken` that
a part of a cookie is a pair of the right name, with any blanks around either.
The reader finds the first, or else the first part of the second kind among all
parts of all cookies that are texts (`token?_of_hasBearer`,
`cookieToken?_eq_some_iff`).  What a response gives out in both ways are such a
header and such a part as they stand (`tokenResponse_of_isGivable`).
-/

namespace Loyalty.Http

open Text

variable {headers : Headers} {token : String}

/-! ## what is read -/

theorem stripPrefix?_eq_some_iff {start cs rest : List Char} :
    stripPrefix? start cs = some rest ↔ cs = start ++ rest := by
  fun_induction stripPrefix? start cs with
  | case1 cs => simp
  | case2 => simp
  | case3 p start cs ih => simp [ih]
  | case4 p start c cs hne => simp [Ne.symm hne]

theorem pair?_eq_some_iff {cs : List Char} {name value : String} :
    pair? cs = some (name, value) ↔
      cs = name.toList ++ '=' :: value.toList ∧ '=' ∉ name.toList := by
  constructor
  · intro h
    have hcs := @List.takeWhile_append_dropWhile _ (· ≠ '=') cs
    unfold pair? at h
    split at h
    · cases h
    · next c rest hrest =>
      obtain ⟨rfl, rfl⟩ := Prod.mk.inj (Option.some.inj h)
      have hc : c = '=' := by
        have hhead := List.head?_dropWhile_not (· ≠ '=') cs
        rw [hrest] at hhead
        simpa using hhead
      rw [hrest, hc] at hcs
      refine ⟨by simpa using hcs.symm, fun hmem => ?_⟩
      rw [String.toList_ofList] at hmem
      simpa using List.mem_takeWhile_imp hmem
  · rintro ⟨rfl, hname⟩
    have hpass : ∀ c ∈ name.toList, decide (c ≠ '=') = true := by
      intro c hc
      rw [decide_eq_true_iff]
      rintro rfl
      exact hname hc
    unfold pair?
    rw [List.dropWhile_append_of_pos hpass, List.dropWhile_cons_of_neg (by simp),
      List.takeWhile_append_of_pos hpass, List.takeWhile_cons_of_neg (by simp)]
    simp

/-! ## tokens in headers -/

/-- The value of a header that has a token behind the word `Bearer`, with any blanks around the
token. -/
def Bears (value token : String) : Prop :=
  token ≠ "" ∧ IsTrimmed token.toList ∧
    ∃ left right, value.toList = "Bearer ".toList ++ (left ++ token.toList ++ right) ∧
      IsBlankRun left ∧ IsBlankRun right

theorem bearerToken?_eq_some_iff {value : String} :
    bearerToken? value = some token ↔ Bears value token := by
  simp only [bearerToken?, Option.bind_eq_bind, Option.bind_eq_some_iff, stripPrefix?_eq_some_iff]
  constructor
  · rintro ⟨rest, hvalue, h⟩
    split at h
    · cases h
    · next hne =>
      obtain ⟨left, right, hrest, hleft, hright, htoken⟩ := trim_eq_iff.mp (Option.some.inj h)
      rw [String.toList_ofList] at hrest
      rw [Option.some.inj h] at hne
      exact ⟨hne, htoken, left, right, by rw [hvalue, hrest], hleft, hright⟩
  · rintro ⟨hne, htoken, left, right, hvalue, hleft, hright⟩
    refine ⟨_, hvalue, ?_⟩
    rw [trim_eq_iff.mpr ⟨left, right, String.toList_ofList, hleft, hright, htoken⟩, if_neg hne]

/-- The first header `authorization` has a token. -/
def HasBearer (headers : Headers) (token : String) : Prop :=
  ∃ value, headers.first? "authorization" = some value ∧ headerText? value = some value ∧
    Bears value token

/-! ## tokens in cookies -/

/-- A part of a header of cookies that holds a token: the name of the cookie and a value that is not
empty, with any blanks around them. -/
def HoldsToken (part : List Char) (token : String) : Prop :=
  token ≠ "" ∧ IsTrimmed (tokenCookie.toList ++ '=' :: token.toList) ∧
    ∃ left right, part = left ++ (tokenCookie.toList ++ '=' :: token.toList) ++ right ∧
      IsBlankRun left ∧ IsBlankRun right

/-- The parts between the semicolons of those headers of cookies that are texts, in order. -/
def cookieParts (headers : Headers) : List (List Char) :=
  ((headers.all "cookie").filterMap headerText?).flatMap (·.toList.splitOn ';')

/-- The token of a part. -/
def partToken? (part : List Char) : Option String :=
  ((pair? (trimEnd (trimStart part))).filter fun (name, value) =>
    name = tokenCookie && value ≠ "").map (·.2)

theorem partToken?_eq_some_iff {part : List Char} :
    partToken? part = some token ↔ HoldsToken part token := by
  have hname : '=' ∉ tokenCookie.toList := by decide
  simp only [partToken?, Option.map_eq_some_iff, Option.filter_eq_some_iff, Prod.exists,
    pair?_eq_some_iff, Bool.and_eq_true, decide_eq_true_eq]
  constructor
  · rintro ⟨name, value, ⟨⟨hpart, -⟩, rfl, hne⟩, rfl⟩
    obtain ⟨left, right, hpart, hleft, hright, htrimmed⟩ := trimEnd_trimStart_eq_iff.mp hpart
    exact ⟨by simpa using hne, htrimmed, left, right, hpart, hleft, hright⟩
  · rintro ⟨hne, htrimmed, left, right, hpart, hleft, hright⟩
    have hpair := trimEnd_trimStart_eq_iff.mpr ⟨left, right, hpart, hleft, hright, htrimmed⟩
    exact ⟨tokenCookie, token, ⟨⟨hpair, hname⟩, rfl, by simpa using hne⟩, rfl⟩

theorem partToken?_eq_none_iff {part : List Char} :
    partToken? part = none ↔ ∀ t, ¬ HoldsToken part t := by
  simp only [Option.eq_none_iff_forall_ne_some, ne_eq, partToken?_eq_some_iff]

/-- The token of the cookies is that of the first part that holds one. -/
theorem cookieToken?_eq (headers : Headers) :
    cookieToken? headers = (cookieParts headers).findSome? partToken? := by
  have hcookies : ((headers.all "cookie").filterMap headerText?).flatMap cookies =
      (cookieParts headers).filterMap fun part => pair? (trimEnd (trimStart part)) := by
    rw [cookieParts, List.filterMap_flatMap]
    rfl
  rw [cookieToken?, hcookies, ← List.head?_filter, List.filter_filterMap, ← List.head?_map,
    List.map_filterMap, List.head?_filterMap]
  rfl

theorem cookieToken?_eq_some_iff :
    cookieToken? headers = some token ↔
      ∃ before part after, cookieParts headers = before ++ part :: after ∧ HoldsToken part token ∧
        ∀ p ∈ before, ∀ t, ¬ HoldsToken p t := by
  simp only [cookieToken?_eq, List.findSome?_eq_some_iff, partToken?_eq_some_iff,
    partToken?_eq_none_iff]

theorem cookieToken?_eq_none_iff :
    cookieToken? headers = none ↔ ∀ part ∈ cookieParts headers, ∀ t, ¬ HoldsToken part t := by
  simp only [cookieToken?_eq, List.findSome?_eq_none_iff, partToken?_eq_none_iff]

/-! ## tokens of requests -/

theorem bearer_eq_some_iff :
    ((headers.first? "authorization").bind headerText?).bind bearerToken? = some token ↔
      HasBearer headers token := by
  have htext : ∀ {v t : String}, headerText? v = some t ↔ v = t ∧ headerText? v = some v := by
    intro v t
    unfold headerText?
    split <;> simp
  simp only [Option.bind_eq_some_iff, bearerToken?_eq_some_iff, HasBearer]
  constructor
  · rintro ⟨value, ⟨v, hfirst, hv⟩, hbears⟩
    obtain ⟨rfl, hv⟩ := htext.mp hv
    exact ⟨v, hfirst, hv, hbears⟩
  · rintro ⟨value, hfirst, hv, hbears⟩
    exact ⟨value, ⟨value, hfirst, hv⟩, hbears⟩

theorem bearer_eq_none_iff :
    ((headers.first? "authorization").bind headerText?).bind bearerToken? = none ↔
      ∀ t, ¬ HasBearer headers t := by
  simp only [Option.eq_none_iff_forall_ne_some, ne_eq, bearer_eq_some_iff]

theorem token?_of_hasBearer (h : HasBearer headers token) : token? headers = some token := by
  rw [token?, bearer_eq_some_iff.mpr h]

theorem token?_of_not_hasBearer (h : ∀ t, ¬ HasBearer headers t) :
    token? headers = cookieToken? headers := by
  rw [token?, bearer_eq_none_iff.mpr h]

theorem token?_eq_none_iff :
    token? headers = none ↔
      (∀ t, ¬ HasBearer headers t) ∧ ∀ part ∈ cookieParts headers, ∀ t, ¬ HoldsToken part t := by
  by_cases hbearer : ∃ t, HasBearer headers t
  · obtain ⟨t, ht⟩ := hbearer
    simp only [token?_of_hasBearer ht, reduceCtorEq, false_iff, not_and]
    exact fun h => absurd ht (h t)
  · have hnone := not_exists.mp hbearer
    rw [token?_of_not_hasBearer hnone, cookieToken?_eq_none_iff, and_iff_right hnone]

/-! ## what is given out -/

/-- A token that can be given out: visible characters of ASCII without a semicolon, at least one. -/
structure IsGivable (token : String) : Prop where
  ne_empty : token ≠ ""
  visible : ∀ c ∈ token.toList, ('!' ≤ c ∧ c ≤ '~') ∧ c ≠ ';'

/-- A visible character of ASCII, or a space. -/
def IsPrintable (c : Char) : Prop := ' ' ≤ c ∧ c ≤ '~'

theorem IsPrintable.toNat {c : Char} (h : IsPrintable c) : 32 ≤ c.toNat ∧ c.toNat ≤ 126 := h

theorem IsPrintable.isVisible {c : Char} (h : IsPrintable c) : isVisible c = true := by
  have hle : c < '\x7f' := Nat.lt_succ_of_le h.toNat.2
  simp [Http.isVisible, h.1, hle]

/-- A text of visible ASCII and spaces is the value of a header as it is. -/
theorem headerValue?_of_printable {s : String} (h : ∀ c ∈ s.toList, IsPrintable c) :
    headerValue? s = some s := by
  have hbytes : Utf8.encode s = s.toList.map fun c => UInt8.ofNat c.toNat := by
    rw [Utf8.encode_eq_flatMap, ← List.flatMap_singleton' (s.toList.map _), List.flatMap_map]
    refine List.flatMap_congr fun c hc => ?_
    have hle : c.val.toNat ≤ 0x7f := (h c hc).toNat.2.trans (by decide)
    rw [String.utf8EncodeChar, if_pos hle]
    rfl
  have hbyte : ∀ c ∈ s.toList, (UInt8.ofNat c.toNat).toNat = c.toNat := by
    intro c hc
    have hle := (h c hc).toNat.2
    rw [UInt8.toNat_ofNat']
    omega
  have hall : (Utf8.encode s).all isHeaderByte = true := by
    rw [hbytes, List.all_map, List.all_eq_true]
    intro c hc
    have hbounds := (h c hc).toNat
    have hc' := hbyte c hc
    simp only [Function.comp, isHeaderByte, Bool.or_eq_true, Bool.and_eq_true, decide_eq_true_eq,
      UInt8.le_iff_toNat_le, ne_eq, ← UInt8.toNat_inj, hc']
    exact .inr ⟨hbounds.1, by simp; omega⟩
  have hchars : ((Utf8.encode s).map fun b => Char.ofNat b.toNat) = s.toList := by
    rw [hbytes, List.map_map, List.map_congr_left fun c hc => ?_, List.map_id]
    rw [Function.comp, hbyte c hc, Char.ofNat_toNat, id]
  rw [headerValue?, if_pos hall, hchars, String.ofList_toList]

theorem headerText?_of_printable {s : String} (h : ∀ c ∈ s.toList, IsPrintable c) :
    headerText? s = some s :=
  if_pos (List.all_eq_true.mpr fun c hc => (h c hc).isVisible)

namespace IsGivable

variable (h : IsGivable token)
include h

theorem isPrintable : ∀ c ∈ token.toList, IsPrintable c :=
  fun c hc => ⟨le_trans (by decide) (h.visible c hc).1.1, (h.visible c hc).1.2⟩

theorem isBlank_eq_false : ∀ c ∈ token.toList, isBlank c = false := by
  intro c hc
  obtain ⟨⟨hlow, hhigh⟩, -⟩ := h.visible c hc
  have hlow' : 33 ≤ c.toNat := hlow
  have hhigh' : c.toNat ≤ 126 := hhigh
  simp [isBlank, blankRanges]
  omega

theorem isPrintable_bearer : ∀ c ∈ ("Bearer " ++ token).toList, IsPrintable c := by
  have hword : ∀ c ∈ "Bearer ".toList, IsPrintable c := by simp [IsPrintable]
  intro c hc
  rw [String.toList_append, List.mem_append] at hc
  exact hc.elim (hword c) (h.isPrintable c)

/-- Behind the word `Bearer` the token is borne as it is. -/
theorem hasBearer (hfirst : headers.first? "authorization" = some ("Bearer " ++ token)) :
    HasBearer headers token :=
  ⟨_, hfirst, headerText?_of_printable h.isPrintable_bearer, h.ne_empty,
    .of_forall h.isBlank_eq_false,
    [], [], by simp, by simp [IsBlankRun], by simp [IsBlankRun]⟩

/-- The pair of the cookie holds the token, with any blanks around it. -/
theorem holdsToken {left right : List Char} (hleft : IsBlankRun left) (hright : IsBlankRun right) :
    HoldsToken (left ++ (tokenCookie.toList ++ '=' :: token.toList) ++ right) token := by
  have hname : ∀ c ∈ tokenCookie.toList, isBlank c = false := by
    simp [tokenCookie, isBlank, blankRanges]
  refine ⟨h.ne_empty, .of_forall fun c hc => ?_, left, right, rfl, hleft, hright⟩
  rw [List.mem_append, List.mem_cons] at hc
  obtain hc | rfl | hc := hc
  · exact hname c hc
  · decide
  · exact h.isBlank_eq_false c hc

end IsGivable

/-- The value of the cookie that gives a token out. -/
def cookieOf (token : String) : String :=
  s!"{tokenCookie}={token}; Path=/; HttpOnly; Max-Age={Token.lifetimeSeconds}"

theorem toList_cookieOf (token : String) :
    (cookieOf token).toList =
      tokenCookie.toList ++ '=' :: token.toList ++ "; Path=/; HttpOnly; Max-Age=86400".toList := by
  have hseconds : toString Token.lifetimeSeconds = "86400" := by decide +kernel
  have htext : ∀ s : String, toString s = s := fun _ => rfl
  simp [cookieOf, hseconds, htext]

/-- The pair of the cookie stands in front of the first semicolon. -/
theorem takeWhile_cookieOf (h : IsGivable token) :
    (cookieOf token).toList.takeWhile (· ≠ ';') = tokenCookie.toList ++ '=' :: token.toList := by
  have hpair : ∀ c ∈ tokenCookie.toList ++ '=' :: token.toList, decide (c ≠ ';') = true := by
    intro c hc
    rw [List.mem_append, List.mem_cons] at hc
    rw [decide_eq_true_iff]
    obtain hc | rfl | hc := hc
    · rintro rfl
      simp [tokenCookie] at hc
    · decide
    · exact (h.visible c hc).2
  rw [toList_cookieOf, List.takeWhile_append_of_pos hpair]
  simp

/-- A token that can be given out is given out as it is. -/
theorem tokenResponse_of_isGivable (h : IsGivable token) :
    tokenResponse token =
      { status := 200
        headers := [("authorization", "Bearer " ++ token), ("set-cookie", cookieOf token)]
        body := [] } := by
  have hcookie : headerValue? (cookieOf token) = some (cookieOf token) := by
    refine headerValue?_of_printable fun c hc => ?_
    simp only [toList_cookieOf, List.mem_append, List.mem_cons] at hc
    obtain (hc | rfl | hc) | hc := hc
    · have hname : ∀ c ∈ tokenCookie.toList, IsPrintable c := by simp [tokenCookie, IsPrintable]
      exact hname c hc
    · exact ⟨by decide, by decide⟩
    · exact h.isPrintable c hc
    · have hrest : ∀ c ∈ "; Path=/; HttpOnly; Max-Age=86400".toList, IsPrintable c := by
        simp [IsPrintable]
      exact hrest c hc
  rw [tokenResponse, headerValue?_of_printable h.isPrintable_bearer, ← cookieOf, hcookie]
  rfl

/-- Every token that is issued can be given out. -/
theorem isGivable_issue (secret : List UInt8) (lifetime : TimeSpan) (user : UserId)
    (now : Instant) :
    IsGivable (Token.issue secret lifetime user now) := by
  have hpart : ∀ bytes, ∀ c ∈ Token.part bytes, ('!' ≤ c ∧ c ≤ '~') ∧ c ≠ ';' :=
    Base64.forall_mem_encode (by decide)
  refine ⟨?_, ?_⟩
  · simp [Token.issue, Token.sign, ← String.toList_inj]
  · intro c hc
    simp only [Token.issue, Token.sign, Token.signature, String.toList_ofList, List.mem_append,
      List.mem_cons] at hc
    obtain (hc | rfl | hc) | rfl | hc := hc
    · exact hpart _ c hc
    · decide
    · exact hpart _ c hc
    · decide
    · exact hpart _ c hc

/-- **A token that is given out comes back.**  Every issued token is of visible ASCII without a
semicolon, and of such a token the response has a header `authorization` and a cookie, of which

* the header, sent back as the first of its name, gives the token, whatever else is sent;
* the pair in front of the first semicolon, which is the name of the cookie and the token, sent back
  with any blanks around it among the parts of any headers of cookies, gives the token where no
  header has one, unless a part before it holds a token.

A request has no token exactly when neither its first header `authorization` nor a part of its
cookies has one. Headers that are no texts have no parts. -/
theorem token?_given_out (h : IsGivable token) :
    (∀ secret lifetime user now, IsGivable (Token.issue secret lifetime user now)) ∧
      (∃ bearer cookie,
        tokenResponse token =
          { status := 200, headers := [("authorization", bearer), ("set-cookie", cookie)],
            body := [] } ∧
        (∀ headers : Headers, headers.first? "authorization" = some bearer →
          token? headers = some token) ∧
        cookie.toList.takeWhile (· ≠ ';') = (tokenCookie ++ "=" ++ token).toList ∧
        ∀ (headers : Headers) (before after : List (List Char)) (left right : List Char),
          (∀ t, ¬ HasBearer headers t) →
          cookieParts headers =
            before ++ (left ++ (tokenCookie ++ "=" ++ token).toList ++ right) :: after →
          IsBlankRun left → IsBlankRun right → (∀ part ∈ before, ∀ t, ¬ HoldsToken part t) →
          token? headers = some token) ∧
      ∀ headers : Headers,
        token? headers = none ↔
          (∀ t, ¬ HasBearer headers t) ∧
            ∀ part ∈ cookieParts headers, ∀ t, ¬ HoldsToken part t := by
  have hpair :
      (tokenCookie ++ "=" ++ token).toList = tokenCookie.toList ++ '=' :: token.toList := by simp
  refine ⟨isGivable_issue, ⟨_, _, tokenResponse_of_isGivable h, ?_, ?_, ?_⟩,
    fun _ => token?_eq_none_iff⟩
  · intro headers hfirst
    exact token?_of_hasBearer (h.hasBearer hfirst)
  · rw [takeWhile_cookieOf h, hpair]
  · intro headers before after left right hnone hparts hleft hright hbefore
    rw [hpair] at hparts
    rw [token?_of_not_hasBearer hnone, cookieToken?_eq_some_iff]
    exact ⟨before, _, after, hparts, h.holdsToken hleft hright, hbefore⟩

/-- A cookie comes back among others, behind an empty one of its name and in front of another
token. -/
theorem token?_given_out_padded :
    token? [("Authorization", "Basic YTpi"), ("cookie", "caf\u00e9; auth_token=lost"),
      ("Cookie", "theme=dark ;flag; auth_token="),
        ("cookie", "a=b; \tauth_token=x=.y ; auth_token=later")] =
      some "x=.y" := by
  have h : IsGivable "x=.y" := ⟨by decide, by simp⟩
  obtain ⟨-, ⟨bearer, cookie, -, -, -, hcomes⟩, -⟩ := token?_given_out h
  refine hcomes _ ["theme=dark ".toList, "flag".toList, " auth_token=".toList, "a=b".toList]
    [" auth_token=later".toList] [' ', '\t'] [' '] ?_ (by decide +kernel)
      (by simp [IsBlankRun, isBlank, blankRanges])
    (by simp [IsBlankRun, isBlank, blankRanges]) ?_
  · exact bearer_eq_none_iff.mp (by decide +kernel)
  · have hbefore :
        ∀ part ∈ ["theme=dark ".toList, "flag".toList, " auth_token=".toList, "a=b".toList],
        partToken? part = none := by
      decide +kernel
    exact fun part hpart => partToken?_eq_none_iff.mp (hbefore part hpart)

end Loyalty.Http
