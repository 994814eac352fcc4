import Loyalty.Luhn
import Mathlib

/-!
# Loyalty.Proofs.Luhn

Which errors the Luhn checksum detects, and which digit completes a payload.

The sum of a text of digits is kept in 32 bits and can be told place by place from
the right end (`placeSum_eq`).  It is what the digits count (`checksum`) as long as
that fits (`Fits`), and texts of less than 477218589 characters do
(`fits_of_length_lt`).

What a digit counts depends on nothing but itself and whether an odd number of
digits is behind it (`checksum_append_cons`).  At one place different digits
count differently, modulo ten (`eq_of_count_mod_eq`), so one wrong digit never
goes unnoticed.  Two neighbours that change places do exactly when they are 0
and 9 (`count_exchange_mod_iff`).

A character behind a payload moves every digit of it one place
(`isValid_push_iff`), which is where the sum of a check digit starts, so the
check digit is the one character that makes a valid number of the payload.
-/

namespace Loyalty.Luhn

/-! ## what a text counts -/

/-- The value of a digit. -/
def value (c : Char) : ℕ := c.toNat - '0'.toNat

/-- What a digit counts when it is doubled. -/
def twice (d : ℕ) : ℕ := if 2 * d > 9 then 2 * d - 9 else 2 * d

/-- What a digit counts at a place that is doubled or not. -/
def count (doubled : Bool) (d : ℕ) : ℕ := if doubled then twice d else d

/-- What digits given from the right end count together, the first one doubled or not. -/
def countFrom : Bool → List ℕ → ℕ
  | _, [] => 0
  | doubled, d :: ds => count doubled d + countFrom (!doubled) ds

@[simp] theorem countFrom_nil (doubled : Bool) : countFrom doubled [] = 0 := rfl

theorem countFrom_cons (doubled : Bool) (d : ℕ) (ds : List ℕ) :
    countFrom doubled (d :: ds) = count doubled d + countFrom (!doubled) ds := rfl

/-- What the digits of a text count together, however much that is. -/
def checksum (cs : List Char) : ℕ := countFrom false (cs.map value).reverse

theorem value_lt {c : Char} (h : c.isDigit = true) : value c < 10 := by
  have hle : c.toNat ≤ '9'.toNat := (Char.isDigit_iff_toNat.mp h).2
  have hnine : '9'.toNat = '0'.toNat + 9 := rfl
  rw [value]
  omega

theorem value_inj {c d : Char} (hc : c.isDigit = true) (hd : d.isDigit = true) :
    value c = value d ↔ c = d := by
  constructor
  · intro h
    have hc' := (Char.isDigit_iff_toNat.mp hc).1
    have hd' := (Char.isDigit_iff_toNat.mp hd).1
    rw [value, value] at h
    exact Char.toNat_inj.mp (by omega)
  · exact congrArg value

/-- A digit counts nine at most. -/
theorem count_le {doubled : Bool} {d : ℕ} (hd : d < 10) : count doubled d ≤ 9 := by
  unfold count twice
  split
  · split <;> omega
  · omega

theorem countFrom_le {doubled : Bool} {ds : List ℕ} (hds : ∀ d ∈ ds, d < 10) :
    countFrom doubled ds ≤ 9 * ds.length := by
  induction ds generalizing doubled with
  | nil => exact le_rfl
  | cons d ds ih =>
      obtain ⟨hd, hds⟩ := List.forall_mem_cons.mp hds
      have hcount : count doubled d ≤ 9 := count_le hd
      have hrest : countFrom (!doubled) ds ≤ 9 * ds.length := ih hds
      rw [countFrom_cons, List.length_cons]
      omega

/-! ## sums in 32 bits -/

/-- Sums of digits fit in 32 bits: if a text has nothing but digits, they count less than the first
number that does not. -/
def Fits (cs : List Char) : Prop := (∀ c ∈ cs, c.isDigit = true) → checksum cs < 2 ^ 32

/-- A text that is short enough fits, whatever its digits are. -/
theorem fits_of_length_lt {cs : List Char} (h : cs.length < 477218589) : Fits cs := by
  intro hdigits
  have hvalues : ∀ d ∈ (cs.map value).reverse, d < 10 := by
    simpa using fun c hc => value_lt (hdigits c hc)
  have hle : countFrom false (cs.map value).reverse ≤ 9 * (cs.map value).reverse.length :=
    countFrom_le hvalues
  rw [List.length_reverse, List.length_map] at hle
  rw [checksum]
  omega

/-- The value of a digit in 32 bits. -/
def word (c : Char) : UInt32 := c.val - '0'.val

/-- The sum of the digits of a text, told place by place from the right end: the digits at odd
places count double, less nine above nine. -/
def placeSum (cs : List Char) : UInt32 :=
  (cs.reverse.zipIdx.map fun (c, i) => weight i.bodd (word c)).sum

/-- What digits add up to from a place on, where the first one is doubled at odd places. -/
theorem sumFrom_bodd (ds : List UInt32) (n : ℕ) :
    sumFrom n.bodd ds = ((ds.zipIdx n).map fun (d, i) => weight i.bodd d).sum := by
  induction ds generalizing n with
  | nil => rfl
  | cons d ds ih =>
      rw [sumFrom_cons, List.zipIdx_cons, List.map_cons, List.sum_cons, ← ih, Nat.bodd_succ]

theorem placeSum_eq (cs : List Char) : placeSum cs = sumFrom false (cs.map word).reverse := by
  have hsum := sumFrom_bodd (cs.map word).reverse 0
  rw [Nat.bodd_zero] at hsum
  rw [hsum, ← List.map_reverse, List.zipIdx_map, List.map_map, placeSum]
  rfl

theorem toNat_word {c : Char} (h : c.isDigit = true) : (word c).toNat = value c := by
  have hle : '0'.val ≤ c.val := (Char.isDigit_iff_toNat.mp h).1
  rw [word, UInt32.toNat_sub_of_le _ _ hle]
  rfl

theorem toNat_weight {doubled : Bool} {d : UInt32} (hd : d.toNat < 10) :
    (weight doubled d).toNat = count doubled d.toNat := by
  have htwice : (2 * d).toNat = 2 * d.toNat := by
    have htwo : (2 : UInt32).toNat = 2 := rfl
    rw [UInt32.toNat_mul, htwo]
    omega
  have habove : 2 * d > 9 ↔ 2 * d.toNat > 9 := by
    rw [gt_iff_lt, UInt32.lt_iff_toNat_lt, htwice]
    rfl
  unfold weight count double twice
  split
  · by_cases h : 2 * d.toNat > 9
    · have hle : 9 ≤ 2 * d := UInt32.le_of_lt (habove.mpr h)
      rw [if_pos h, if_pos (habove.mpr h), UInt32.toNat_sub_of_le _ _ hle, htwice]
      rfl
    · rw [if_neg h, if_neg (habove.not.mpr h), htwice]
  · rfl

/-- The sum in 32 bits is what the digits count, wrapped around. -/
theorem toNat_sumFrom {doubled : Bool} {ds : List UInt32} (hds : ∀ d ∈ ds, d.toNat < 10) :
    (sumFrom doubled ds).toNat = countFrom doubled (ds.map UInt32.toNat) % 2 ^ 32 := by
  induction ds generalizing doubled with
  | nil => rfl
  | cons d ds ih =>
      obtain ⟨hd, hds⟩ := List.forall_mem_cons.mp hds
      rw [sumFrom_cons, UInt32.toNat_add, toNat_weight hd, ih hds, List.map_cons, countFrom_cons,
        Nat.add_mod_mod]

/-- A text has digits exactly when it has nothing else. -/
theorem mapM_digit? (cs : List Char) :
    cs.mapM digit? = if cs.all Char.isDigit then some (cs.map word) else none := by
  induction cs with
  | nil => rfl
  | cons c cs ih =>
      rw [List.mapM_cons, ih, digit?]
      by_cases hc : c.isDigit = true
      · by_cases hcs : cs.all Char.isDigit = true
        · simp [hc, hcs, word]
        · simp [hc, hcs]
      · simp [hc]

/-- What a text of digits adds up to from the right end, the last one doubled or not. -/
theorem toNat_sumFrom_map_word {cs : List Char} (h : ∀ c ∈ cs, c.isDigit = true) (doubled : Bool) :
    (sumFrom doubled (cs.map word).reverse).toNat =
      countFrom doubled (cs.map value).reverse % 2 ^ 32 := by
  have hvalues : (cs.map word).map UInt32.toNat = cs.map value := by
    rw [List.map_map]
    exact List.map_congr_left fun c hc => toNat_word (h c hc)
  have hlt : ∀ d ∈ (cs.map word).reverse, d.toNat < 10 := by
    simpa using fun c hc => (toNat_word (h c hc)).trans_lt (value_lt (h c hc))
  rw [toNat_sumFrom hlt, List.map_reverse, hvalues]

/-- Where what the digits count fits in 32 bits, it is their sum. -/
theorem toNat_placeSum {cs : List Char} (hfits : Fits cs) (h : ∀ c ∈ cs, c.isDigit = true) :
    (placeSum cs).toNat = checksum cs := by
  rw [placeSum_eq, toNat_sumFrom_map_word h, ← checksum, Nat.mod_eq_of_lt (hfits h)]

theorem placeSum_mod_iff {cs : List Char} (hfits : Fits cs) (h : ∀ c ∈ cs, c.isDigit = true) :
    placeSum cs % 10 = 0 ↔ checksum cs % 10 = 0 := by
  rw [← toNat_placeSum hfits h, ← UInt32.toNat_inj, UInt32.toNat_mod]
  rfl

/-- A number is valid exactly when it has digits, nothing but digits, and their sum is a multiple of
ten. -/
theorem isValid_iff_placeSum {number : String} :
    isValid number = true ↔
      number.toList ≠ [] ∧ (∀ c ∈ number.toList, c.isDigit = true) ∧
        placeSum number.toList % 10 = 0 := by
  rw [isValid, digits?, mapM_digit?, placeSum_eq]
  by_cases hall : number.toList.all Char.isDigit = true
  · have hdigits : ∀ c ∈ number.toList, c.isDigit = true := List.all_eq_true.mp hall
    rw [if_pos hall, and_iff_right hdigits]
    cases number.toList with
    | nil => simp
    | cons c cs => simp
  · have hdigits : ¬ ∀ c ∈ number.toList, c.isDigit = true := fun h =>
      hall (List.all_eq_true.mpr h)
    simp [hall, hdigits]

/-- A number that fits is valid exactly when it has digits, nothing but digits, and they count a
multiple of ten. -/
theorem isValid_iff {number : String} (h : Fits number.toList) :
    isValid number = true ↔
      number.toList ≠ [] ∧ (∀ c ∈ number.toList, c.isDigit = true) ∧
        checksum number.toList % 10 = 0 := by
  rw [isValid_iff_placeSum]
  refine and_congr_right fun _ => and_congr_right fun hdigits => ?_
  exact placeSum_mod_iff h hdigits

/-! ## one place -/

/-- What comes first does not matter to what comes after it, and is doubled in turn with it. -/
theorem countFrom_append (doubled : Bool) (ds es : List ℕ) :
    countFrom doubled (ds ++ es) = countFrom doubled ds +
      countFrom (doubled ^^ ds.length.bodd) es := by
  induction ds generalizing doubled with
  | nil => simp
  | cons d ds ih =>
      rw [List.cons_append, countFrom_cons, ih, countFrom_cons, List.length_cons, Nat.bodd_succ,
        Nat.add_assoc]
      cases doubled <;> simp

/-- What a digit counts has to do with nothing but how many digits are behind it. -/
theorem checksum_append_cons (before after : List Char) (c : Char) :
    checksum (before ++ c :: after) =
      checksum after + (count after.length.bodd (value c) +
        countFrom (!after.length.bodd) (before.map value).reverse) := by
  simp only [checksum, List.map_append, List.map_cons, List.reverse_append, List.reverse_cons,
    List.append_assoc]
  rw [countFrom_append, List.singleton_append, countFrom_cons]
  simp

/-- Different digits count differently at one place. -/
theorem eq_of_count_mod_eq {doubled : Bool} {d e : ℕ} (hd : d < 10) (he : e < 10)
    (h : count doubled d % 10 = count doubled e % 10) : d = e := by
  cases doubled with
  | false =>
      simp only [count, Bool.false_eq_true, if_false] at h
      omega
  | true =>
      simp only [count, twice, if_true] at h
      split at h <;> split at h <;> omega

/-- Neighbours count the same in either order exactly when they are equal, or 0 and 9. -/
theorem count_exchange_mod_iff (doubled : Bool) {d e : ℕ} (hd : d < 10) (he : e < 10) :
    (count doubled d + count (!doubled) e) % 10 = (count doubled e + count (!doubled) d) % 10 ↔
      d = e ∨ d = 0 ∧ e = 9 ∨ d = 9 ∧ e = 0 := by
  have hdouble : (twice d + e) % 10 = (twice e + d) % 10 ↔
      d = e ∨ d = 0 ∧ e = 9 ∨ d = 9 ∧ e = 0 := by
    unfold twice
    split <;> split <;> omega
  cases doubled with
  | true => simpa [count] using hdouble
  | false =>
      rw [← hdouble]
      simp only [count, Bool.not_false, Bool.false_eq_true, if_true, if_false]
      omega

/-! ## errors -/

/-- A text with the character at a place replaced. -/
def replaced (s : String) (i : ℕ) (c : Char) : String := String.ofList (s.toList.set i c)

/-- A text with the characters at a place and behind it exchanged. -/
def exchanged (s : String) (i : ℕ) (h : i + 1 < s.toList.length) : String :=
  String.ofList ((s.toList.set i s.toList[i + 1]).set (i + 1) s.toList[i])

section

variable {before after : List Char} {a b c : Char}

/-- What two neighbours count has to do with nothing but how many digits are behind them. -/
theorem checksum_append_cons_cons (before after : List Char) (a b : Char) :
    ∃ rest, checksum (before ++ a :: b :: after) =
      count (!after.length.bodd) (value a) + count after.length.bodd (value b) + rest ∧
        checksum (before ++ b :: a :: after) =
          count (!after.length.bodd) (value b) + count after.length.bodd (value a) + rest := by
  have hlast : ∀ c, checksum (c :: after) = checksum after + count after.length.bodd (value c) := by
    intro c
    simpa using checksum_append_cons [] after c
  refine ⟨checksum after + countFrom after.length.bodd (before.map value).reverse, ?_, ?_⟩
  · rw [checksum_append_cons, hlast, List.length_cons, Nat.bodd_succ, Bool.not_not]
    omega
  · rw [checksum_append_cons, hlast, List.length_cons, Nat.bodd_succ, Bool.not_not]
    omega

theorem isValid_append_cons_iff (hfits : Fits (before ++ c :: after)) :
    isValid (String.ofList (before ++ c :: after)) = true ↔
      (∀ d ∈ before ++ after, d.isDigit = true) ∧ c.isDigit = true ∧
        checksum (before ++ c :: after) % 10 = 0 := by
  rw [isValid_iff (by rwa [String.toList_ofList]), String.toList_ofList]
  simp only [ne_eq, List.append_eq_nil_iff, reduceCtorEq, and_false, not_false_iff, true_and,
    List.mem_append, List.mem_cons]
  grind

/-- Numbers that differ in one digit at most are not both valid. -/
theorem eq_of_isValid_of_isValid (hafits : Fits (before ++ a :: after))
    (hcfits : Fits (before ++ c :: after))
    (ha : isValid (String.ofList (before ++ a :: after)) = true)
    (hc : isValid (String.ofList (before ++ c :: after)) = true) : c = a := by
  obtain ⟨-, hadigit, hasum⟩ := (isValid_append_cons_iff hafits).mp ha
  obtain ⟨-, hcdigit, hcsum⟩ := (isValid_append_cons_iff hcfits).mp hc
  rw [checksum_append_cons] at hasum hcsum
  have hmod : count after.length.bodd (value c) % 10 = count after.length.bodd (value a) % 10 := by
    omega
  exact (value_inj hcdigit hadigit).mp
    (eq_of_count_mod_eq (value_lt hcdigit) (value_lt hadigit) hmod)

/-- Two neighbours of a valid number change places in another one only if they are equal, or 0
and 9. -/
theorem isValid_exchange_iff (habfits : Fits (before ++ a :: b :: after))
    (hbafits : Fits (before ++ b :: a :: after))
    (h : isValid (String.ofList (before ++ a :: b :: after)) = true) :
    isValid (String.ofList (before ++ b :: a :: after)) = true ↔
      a = b ∨ a = '0' ∧ b = '9' ∨ a = '9' ∧ b = '0' := by
  obtain ⟨hothers, ha, hsum⟩ := (isValid_append_cons_iff habfits).mp h
  have hb : b.isDigit = true := hothers b (by simp)
  have hothers' : ∀ d ∈ before ++ a :: after, d.isDigit = true := by
    intro d hd
    simp only [List.mem_append, List.mem_cons] at hothers hd
    obtain hd | rfl | hd := hd
    · exact hothers d (.inl hd)
    · exact ha
    · exact hothers d (.inr (.inr hd))
  obtain ⟨rest, hone, hother⟩ := checksum_append_cons_cons before after a b
  have hexchange := count_exchange_mod_iff (!after.length.bodd) (value_lt ha) (value_lt hb)
  rw [Bool.not_not] at hexchange
  have hzero : value '0' = 0 := rfl
  have hnine : value '9' = 9 := rfl
  rw [isValid_append_cons_iff hbafits, ← value_inj ha hb, ← value_inj ha (d := '0') rfl,
    ← value_inj hb (d := '9') rfl, ← value_inj ha (d := '9') rfl, ← value_inj hb (d := '0') rfl,
    hzero, hnine, ← hexchange, hother]
  rw [hone] at hsum
  constructor
  · rintro ⟨-, -, hsum'⟩
    omega
  · intro hmod
    exact ⟨hothers', hb, by omega⟩

end

/-- **Every wrong digit is detected, and all exchanged neighbours but 0 and 9**: of a valid number,
however long as long as sums fit,

* the text with the character at any place replaced by another one is no valid number, whether that
  is a digit or not;
* the text with two different digits that stand next to each other exchanged is none either, unless
  they are 0 and 9, when it is one. -/
theorem isValid_detects {s : String} (h : isValid s = true) (hfits : Fits s.toList) :
    (∀ (i : ℕ) (hi : i < s.toList.length) (c : Char), c ≠ s.toList[i] →
        Fits (replaced s i c).toList → isValid (replaced s i c) = false) ∧
      ∀ (i : ℕ) (hi : i + 1 < s.toList.length), s.toList[i] ≠ s.toList[i + 1] →
        Fits (exchanged s i hi).toList →
          (isValid (exchanged s i hi) = true ↔
            s.toList[i] = '0' ∧ s.toList[i + 1] = '9' ∨
              s.toList[i] = '9' ∧ s.toList[i + 1] = '0') := by
  have hsplit : ∀ (i : ℕ) (hi : i < s.toList.length),
      s.toList = s.toList.take i ++ s.toList[i] :: s.toList.drop (i + 1) := fun i hi => by
    rw [List.cons_getElem_drop_succ, List.take_append_drop]
  rw [← String.ofList_toList (s := s)] at h
  constructor
  · intro i hi c hc hfits'
    rw [hsplit i hi] at h hfits
    rw [replaced, List.set_eq_take_append_cons_drop, if_pos hi] at hfits' ⊢
    rw [String.toList_ofList] at hfits'
    rw [Bool.eq_false_iff]
    exact fun hvalid => hc (eq_of_isValid_of_isValid hfits hfits' h hvalid)
  · intro i hi hne hfits'
    have hi' : i < s.toList.length := by omega
    rw [hsplit i hi', ← List.getElem_cons_drop hi] at h hfits
    have hexchanged : exchanged s i hi = String.ofList
        (s.toList.take i ++ s.toList[i + 1] :: s.toList[i] :: s.toList.drop (i + 1 + 1)) := by
      have hlength : (s.toList.take i).length = i := List.length_take_of_le hi'.le
      have hfirst : s.toList.set i s.toList[i + 1] =
          s.toList.take i ++ s.toList[i + 1] :: s.toList[i + 1] :: s.toList.drop (i + 1 + 1) := by
        rw [List.set_eq_take_append_cons_drop, if_pos hi', List.getElem_cons_drop hi]
      rw [exchanged, hfirst, List.set_append_right _ _ (by omega), hlength,
        Nat.add_sub_cancel_left, List.set_cons_succ, List.set_cons_zero]
    rw [hexchanged] at hfits' ⊢
    rw [String.toList_ofList] at hfits'
    rw [isValid_exchange_iff hfits hfits' h, or_iff_right hne]

/-- In a valid number of eleven digits a wrong digit is detected, and so is an exchange of
neighbours. -/
theorem isValid_detects_eleven :
    isValid "79927398713" = true ∧ isValid (replaced "79927398713" 3 '9') = false ∧
      isValid (exchanged "79927398713" 4 (by decide)) = false := by
  have h : isValid "79927398713" = true := by decide +kernel
  obtain ⟨hreplaced, hexchanged⟩ := isValid_detects h (fits_of_length_lt (by decide))
  refine ⟨h, hreplaced 3 (by decide) '9' (by decide) (fits_of_length_lt (by decide)), ?_⟩
  rw [Bool.eq_false_iff, ne_eq,
    hexchanged 4 (by decide) (by decide) (fits_of_length_lt (by decide))]
  decide

/-! ## check digits -/

theorem isDigit_digitChar {d : ℕ} (hd : d < 10) : d.digitChar.isDigit = true := by
  decide +revert

theorem value_digitChar {d : ℕ} (hd : d < 10) : value d.digitChar = d := by
  decide +revert

/-- The character behind a payload counts as it is, and the digits of the payload from a doubled one
on. -/
theorem checksum_push (cs : List Char) (c : Char) :
    checksum (cs ++ [c]) = value c + countFrom true (cs.map value).reverse := by
  rw [checksum_append_cons]
  simp [checksum, count]

/-- A character makes a valid number of a payload only if it is a digit behind digits. -/
theorem isDigit_of_isValid_push {payload : String} {c : Char}
    (h : isValid (payload.push c) = true) :
    (∀ b ∈ payload.toList, b.isDigit = true) ∧ c.isDigit = true := by
  have hall : ∀ b ∈ (payload.push c).toList, b.isDigit = true := fun _ => isDigit_of_isValid h
  simpa [or_imp, forall_and] using hall

/-- A payload has a check digit exactly when it has nothing but digits. -/
theorem checkDigit?_eq_some_iff {payload : String} {d : ℕ} :
    checkDigit? payload = some d ↔
      (∀ c ∈ payload.toList, c.isDigit = true) ∧
        (10 - countFrom true (payload.toList.map value).reverse % 2 ^ 32 % 10) % 10 = d := by
  rw [checkDigit?, digits?, mapM_digit?, ← List.all_eq_true]
  by_cases hall : payload.toList.all Char.isDigit = true
  · rw [if_pos hall, Option.map_some, Option.some.injEq, and_iff_right hall,
      ← toNat_sumFrom_map_word (List.all_eq_true.mp hall) true]
    generalize sumFrom true (payload.toList.map word).reverse = n
    have hten : (10 : UInt32).toNat = 10 := rfl
    have hle : n % 10 ≤ 10 := by
      rw [UInt32.le_iff_toNat_le, UInt32.toNat_mod, hten]
      omega
    rw [UInt32.toNat_mod, UInt32.toNat_sub_of_le _ _ hle, UInt32.toNat_mod, hten]
  · simp [hall]

/-- Of all characters behind a payload the check digit makes a valid number of it and no other does,
as long as the sum fits. -/
theorem isValid_push_iff {payload : String} {d : ℕ} {c : Char} (hd : checkDigit? payload = some d)
    (hfits : Fits (payload.push c).toList) :
    isValid (payload.push c) = true ↔ c = d.digitChar := by
  have hlt := checkDigit?_lt hd
  have hdigit := isDigit_digitChar hlt
  have hvalue := value_digitChar hlt
  obtain ⟨hall, hsum⟩ := checkDigit?_eq_some_iff.mp hd
  by_cases hc : c.isDigit = true
  · have hall' : ∀ b ∈ (payload.push c).toList, b.isDigit = true := by
      simpa [or_imp, forall_and] using ⟨hall, hc⟩
    have hchecksum : checksum (payload.push c).toList =
        value c + countFrom true (payload.toList.map value).reverse := by
      rw [String.toList_push, checksum_push]
    have hbound := hfits hall'
    rw [hchecksum] at hbound
    have hsmall : countFrom true (payload.toList.map value).reverse < 2 ^ 32 := by omega
    rw [Nat.mod_eq_of_lt hsmall] at hsum
    have hlt' := value_lt hc
    rw [isValid_iff hfits, and_iff_right (by simp), and_iff_right hall', hchecksum,
      ← value_inj hc hdigit, hvalue]
    omega
  · constructor
    · exact fun h => absurd (isDigit_of_isValid_push h).2 hc
    · rintro rfl
      exact absurd hdigit hc

/-- **The check digit is the one that completes a payload**: exactly the payloads of digits have
one, the empty payload too; it is a digit, and as long as sums fit, of all characters behind the
payload it makes a valid number of it and no other does.  Where there is none, no character makes a
valid number of the payload. -/
theorem checkDigit?_completes (payload : String) :
    ((checkDigit? payload).isSome = true ↔ ∀ c ∈ payload.toList, c.isDigit = true) ∧
      (∀ d, checkDigit? payload = some d →
        d < 10 ∧ ∀ c, Fits (payload.push c).toList →
          (isValid (payload.push c) = true ↔ c = d.digitChar)) ∧
      (checkDigit? payload = none → ∀ c, isValid (payload.push c) = false) := by
  have hsome : (checkDigit? payload).isSome = true ↔ ∀ c ∈ payload.toList, c.isDigit = true := by
    simp only [Option.isSome_iff_exists, checkDigit?_eq_some_iff, exists_and_left, exists_eq',
      and_true]
  refine ⟨hsome, fun d hd => ⟨checkDigit?_lt hd, fun c => isValid_push_iff hd⟩, fun hnone c => ?_⟩
  rw [Bool.eq_false_iff]
  intro hvalid
  have hthere := hsome.mpr (isDigit_of_isValid_push hvalid).1
  rw [hnone] at hthere
  contradiction

/-- A payload of ten digits is completed by 3 and by no other digit. -/
theorem checkDigit?_completes_ten :
    checkDigit? "7992739871" = some 3 ∧ isValid "79927398713" = true ∧
      isValid "79927398714" = false := by
  have hdigit : checkDigit? "7992739871" = some 3 := by decide +kernel
  obtain ⟨-, hcompletes⟩ := (checkDigit?_completes "7992739871").2.1 3 hdigit
  refine ⟨hdigit, (hcompletes '3' (fits_of_length_lt (by decide))).mpr rfl, ?_⟩
  have hother : isValid "79927398714" = true → '4' = Nat.digitChar 3 :=
    (hcompletes '4' (fits_of_length_lt (by decide))).mp
  exact Bool.eq_false_iff.mpr fun hvalid => absurd (hother hvalid) (by decide)

end Loyalty.Luhn
