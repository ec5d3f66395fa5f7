import Exemplar.Text.Utf8
import Mathlib.Data.List.Infix
import Mathlib.Data.List.Induction

/-!
# Reading bytes that are cut

A byte that continues no character ends whatever stands before it, so a byte sequence can be
read in two parts if the second one begins with such a byte. A character below 128 comes from
one byte of the same number and from nothing else. A text of such characters therefore stands in
what was read exactly where its bytes stand in the sequence.
-/
namespace Exemplar.Text

/-- The characters whose UTF-8 form is a single byte. -/
def IsAscii (t : Text) : Prop := ∀ c ∈ t, c.toNat < 128

lemma isAscii_cons {c : Char} {t : Text} : IsAscii (c :: t) ↔ c.toNat < 128 ∧ IsAscii t := by
  simp [IsAscii]

lemma isAscii_append {s t : Text} : IsAscii (s ++ t) ↔ IsAscii s ∧ IsAscii t := by
  simp only [IsAscii, List.mem_append, or_imp, forall_and]

lemma IsAscii.of_isPrefix {s t : Text} (h : IsAscii t) (hp : s <+: t) : IsAscii s :=
  fun c hc => h c (hp.subset hc)

lemma isDigit_of_mem_ofNat {n : Nat} {c : Char} (hc : c ∈ ofNat n) : c.isDigit = true :=
  Nat.isDigit_of_mem_toDigits (by omega) (by omega)
    (Nat.toList_repr ▸ hc : c ∈ Nat.toDigits 10 n)

/-- Decimal numbers are written with such characters. -/
lemma isAscii_ofNat (n : Nat) : IsAscii (ofNat n) := by
  intro c hc
  have hd := isDigit_of_mem_ofNat hc
  simp only [Char.isDigit, Bool.and_eq_true, decide_eq_true_eq, UInt32.le_iff_toNat_le] at hd
  have : c.toNat ≤ 57 := hd.2
  omega

/-- The bytes that may stand second in a character continue one. -/
lemma isSecond_eq_false {b : UInt8} (h : isContinuation b = false) (lead : UInt8) :
    isSecond lead b = false := by
  simp only [isContinuation, Bool.and_eq_false_iff, decide_eq_false_iff_not,
    UInt8.le_iff_toNat_le] at h
  unfold isSecond isContinuation
  split_ifs <;>
    simp only [Bool.and_eq_false_iff, decide_eq_false_iff_not, UInt8.le_iff_toNat_le] <;>
    simp only [UInt8.reduceToNat] at h ⊢ <;> omega

/-- A piece that ends before a byte which continues no character is read as if the sequence
ended there. -/
lemma decodeFrom_append (lead : UInt8) (r : List UInt8) {b : UInt8}
    (hb : isContinuation b = false) (s : List UInt8) :
    decodeFrom lead (r ++ b :: s) =
      ⟨(decodeFrom lead r).char?, (decodeFrom lead r).rest ++ b :: s⟩ := by
  have hs := isSecond_eq_false hb lead
  unfold decodeFrom
  split_ifs
  · rfl
  · cases r with
    | nil => simp [decodeTwo, hb]
    | cons c r => by_cases hc : isContinuation c <;> simp [decodeTwo, hc]
  · match r with
    | [] => cases s <;> simp [decodeThree, hs]
    | [c] => by_cases hc : isSecond lead c <;> simp [decodeThree, hc, hb]
    | c :: d :: r =>
      by_cases hc : isSecond lead c <;> by_cases hd : isContinuation d <;>
        simp [decodeThree, hc, hd]
  · match r with
    | [] => rcases s with _ | ⟨c, _ | ⟨d, s⟩⟩ <;> simp [decodeFour, hs]
    | [c] =>
      by_cases hc : isSecond lead c <;> cases s <;> simp [decodeFour, hc, hb]
    | [c, d] =>
      by_cases hc : isSecond lead c <;> by_cases hd : isContinuation d <;>
        simp [decodeFour, hc, hd, hb]
    | c :: d :: e :: r =>
      by_cases hc : isSecond lead c <;> by_cases hd : isContinuation d <;>
        by_cases he : isContinuation e <;> simp [decodeFour, hc, hd, he]
  · rfl

/-- A byte below 128 is a character, and the only way to read one below 128. -/
lemma decodeFrom_ascii {lead : UInt8} (h : lead.toNat < 128) (r : List UInt8) :
    decodeFrom lead r = ⟨some (Char.ofNat lead.toNat), r⟩ := by
  have hlt : lead < 0x80 := UInt8.lt_iff_toNat_lt.2 h
  simp [decodeFrom, hlt]

lemma toNat_ofNat_of_isValidChar {n : Nat} (h : n.isValidChar) : (Char.ofNat n).toNat = n := by
  rw [Char.ofNat, dif_pos h]
  rfl

lemma payload_lt (b : UInt8) : payload b < 64 := Nat.mod_lt _ (by omega)

/-- The second byte keeps longer characters from being written too long, and from being a
surrogate or too large. -/
lemma bounds_of_isSecond {lead b : UInt8} (h : isSecond lead b = true) :
    0x80 ≤ b.toNat ∧ b.toNat ≤ 0xBF ∧ (lead.toNat = 0xE0 → 0xA0 ≤ b.toNat) ∧
      (lead.toNat = 0xED → b.toNat ≤ 0x9F) ∧ (lead.toNat = 0xF0 → 0x90 ≤ b.toNat) ∧
      (lead.toNat = 0xF4 → b.toNat ≤ 0x8F) := by
  unfold isSecond isContinuation at h
  simp only [beq_iff_eq, ← UInt8.toNat_inj] at h
  split_ifs at h <;> simp only [Bool.and_eq_true, decide_eq_true_eq, UInt8.le_iff_toNat_le] at h <;>
    simp only [UInt8.reduceToNat] at * <;> omega

lemma decodeTwo_large {lead : UInt8} (hl : 0xC2 ≤ lead.toNat ∧ lead.toNat ≤ 0xDF)
    (r : List UInt8) : ∀ c ∈ (decodeTwo lead r).char?, 128 ≤ c.toNat := by
  fun_cases decodeTwo lead r with
  | case1 b r _ =>
    rintro c ⟨⟩
    have := payload_lt b
    rw [toNat_ofNat_of_isValidChar (.inl (by omega))]
    omega
  | case2 | case3 => simp

lemma decodeThree_large {lead : UInt8} (hl : 0xE0 ≤ lead.toNat ∧ lead.toNat ≤ 0xEF)
    (r : List UInt8) : ∀ c ∈ (decodeThree lead r).char?, 128 ≤ c.toNat := by
  fun_cases decodeThree lead r with
  | case3 b d r hs _ =>
    rintro c ⟨⟩
    obtain ⟨hlow, hhigh, hlong, hsurrogate, -, -⟩ := bounds_of_isSecond (by simpa using hs)
    have hd := payload_lt d
    have hb : payload b = b.toNat - 128 := by simp only [payload]; omega
    have hvalid : (((lead.toNat % 16) * 64 + payload b) * 64 + payload d).isValidChar := by
      unfold Nat.isValidChar
      omega
    rw [toNat_ofNat_of_isValidChar hvalid]
    omega
  | _ => simp

lemma decodeFour_large {lead : UInt8} (hl : 0xF0 ≤ lead.toNat ∧ lead.toNat ≤ 0xF4)
    (r : List UInt8) : ∀ c ∈ (decodeFour lead r).char?, 128 ≤ c.toNat := by
  fun_cases decodeFour lead r with
  | case4 b d e r hs _ _ =>
    rintro c ⟨⟩
    obtain ⟨hlow, hhigh, -, -, hlong, hlarge⟩ := bounds_of_isSecond (by simpa using hs)
    have hd := payload_lt d
    have he := payload_lt e
    have hb : payload b = b.toNat - 128 := by simp only [payload]; omega
    have hvalid :
        ((((lead.toNat % 8) * 64 + payload b) * 64 + payload d) * 64 + payload e).isValidChar := by
      unfold Nat.isValidChar
      omega
    rw [toNat_ofNat_of_isValidChar hvalid]
    omega
  | _ => simp

/-- No other byte begins a character below 128. -/
lemma decodeFrom_large {lead : UInt8} (h : 128 ≤ lead.toNat) (r : List UInt8) :
    ∀ c ∈ (decodeFrom lead r).char?, 128 ≤ c.toNat := by
  unfold decodeFrom
  simp only [Bool.and_eq_true, decide_eq_true_eq, UInt8.le_iff_toNat_le, UInt8.lt_iff_toNat_lt,
    UInt8.reduceToNat]
  split_ifs with h1 h2 h3 h4
  · omega
  · exact decodeTwo_large h2 r
  · exact decodeThree_large h3 r
  · exact decodeFour_large h4 r
  · simp

@[simp] theorem ofBytes_nil : ofBytes [] = [] := by simp [ofBytes, decode]

lemma ofBytes_cons (lead : UInt8) (r : List UInt8) :
    ofBytes (lead :: r) =
      (decodeFrom lead r).char?.getD '\uFFFD' :: ofBytes (decodeFrom lead r).rest := by
  rw [ofBytes, decode, List.map_cons, ofBytes]

/-- A sequence may be cut in front of a byte that continues no character. -/
theorem ofBytes_append (a : List UInt8) {b : UInt8} (hb : isContinuation b = false)
    (s : List UInt8) : ofBytes (a ++ b :: s) = ofBytes a ++ ofBytes (b :: s) := by
  induction hn : a.length using Nat.strong_induction_on generalizing a with
  | h n ih =>
    cases a with
    | nil => simp
    | cons lead r =>
      have hlt : (decodeFrom lead r).rest.length < n := by
        have := decodeFrom_rest lead r
        rw [List.length_cons] at hn
        omega
      rw [List.cons_append, ofBytes_cons, ofBytes_cons lead r, decodeFrom_append lead r hb,
        ih _ hlt _ rfl, List.cons_append]

lemma toBytes_cons {c : Char} (h : c.toNat < 128) (t : Text) :
    toBytes (c :: t) = UInt8.ofNat c.toNat :: toBytes t := by
  have hone : String.utf8EncodeChar c = [UInt8.ofNat c.toNat] := by
    have hle : c.toNat ≤ 127 := by omega
    simp [String.utf8EncodeChar, hle]
  rw [toBytes, List.flatMap_cons, hone]
  rfl

lemma toBytes_eq_map {t : Text} (h : IsAscii t) :
    toBytes t = t.map fun c => UInt8.ofNat c.toNat := by
  induction t with
  | nil => rfl
  | cons c t ih =>
    obtain ⟨hc, ht⟩ := isAscii_cons.1 h
    rw [toBytes_cons hc, ih ht, List.map_cons]

lemma toNat_ofNat_ascii {c : Char} (h : c.toNat < 128) : (UInt8.ofNat c.toNat).toNat = c.toNat := by
  rw [UInt8.toNat_ofNat']
  omega

lemma isContinuation_ascii {c : Char} (h : c.toNat < 128) :
    isContinuation (UInt8.ofNat c.toNat) = false := by
  simp only [isContinuation, Bool.and_eq_false_iff, decide_eq_false_iff_not,
    UInt8.le_iff_toNat_le, toNat_ofNat_ascii h, UInt8.reduceToNat]
  omega

/-- A text of single bytes is read as it is, whatever follows. -/
lemma ofBytes_toBytes_append {t : Text} (h : IsAscii t) (s : List UInt8) :
    ofBytes (toBytes t ++ s) = t ++ ofBytes s := by
  induction t with
  | nil => rfl
  | cons c t ih =>
    obtain ⟨hc, ht⟩ := isAscii_cons.1 h
    have hlead : (UInt8.ofNat c.toNat).toNat < 128 := by rwa [toNat_ofNat_ascii hc]
    rw [toBytes_cons hc, List.cons_append, ofBytes_cons, decodeFrom_ascii hlead,
      toNat_ofNat_ascii hc, Option.getD_some, Char.ofNat_toNat, ih ht, List.cons_append]

/-- A text of single bytes may be cut off in front as well. -/
theorem ofBytes_append_toBytes (a : List UInt8) {t : Text} (h : IsAscii t) (ht : t ≠ [])
    (s : List UInt8) : ofBytes (a ++ (toBytes t ++ s)) = ofBytes a ++ (t ++ ofBytes s) := by
  rw [← ofBytes_toBytes_append h]
  cases t with
  | nil => exact absurd rfl ht
  | cons c t =>
    have hc := (isAscii_cons.1 h).1
    rw [toBytes_cons hc, List.cons_append, ofBytes_append a (isContinuation_ascii hc)]

/-- What is left behind one character is an end of the sequence. -/
lemma decodeFrom_rest_isSuffix (lead : UInt8) (r : List UInt8) :
    (decodeFrom lead r).rest <:+ r := by
  have htwo : (decodeTwo lead r).rest <:+ r := by
    fun_cases decodeTwo lead r <;> simp
  have hthree : (decodeThree lead r).rest <:+ r := by
    fun_cases decodeThree lead r <;> simp [List.suffix_cons_iff]
  have hfour : (decodeFour lead r).rest <:+ r := by
    fun_cases decodeFour lead r <;> simp [List.suffix_cons_iff]
  unfold decodeFrom
  split_ifs
  · exact List.suffix_rfl
  · exact htwo
  · exact hthree
  · exact hfour
  · exact List.suffix_rfl

/-- An end of what was read is what an end of the sequence is read as. -/
lemma exists_isSuffix_of_ofBytes {a : List UInt8} {u w : Text} (h : ofBytes a = u ++ w) :
    ∃ a', a' <:+ a ∧ ofBytes a' = w := by
  induction u generalizing a with
  | nil => exact ⟨a, List.suffix_rfl, h⟩
  | cons c u ih =>
    cases a with
    | nil => simp at h
    | cons lead r =>
      rw [ofBytes_cons, List.cons_append, List.cons.injEq] at h
      obtain ⟨a', ha, hw⟩ := ih h.2
      exact ⟨a', (ha.trans (decodeFrom_rest_isSuffix lead r)).trans (List.suffix_cons lead r), hw⟩

/-- A beginning of single bytes was read from these bytes. -/
lemma toBytes_isPrefix_of_ofBytes {a : List UInt8} {t v : Text} (ht : IsAscii t)
    (h : ofBytes a = t ++ v) : toBytes t <+: a := by
  induction t generalizing a with
  | nil => exact List.nil_prefix
  | cons c t ih =>
    obtain ⟨hc, ht⟩ := isAscii_cons.1 ht
    cases a with
    | nil => simp at h
    | cons lead r =>
      rw [ofBytes_cons, List.cons_append, List.cons.injEq] at h
      obtain ⟨hread, hrest⟩ := h
      by_cases hl : lead.toNat < 128
      · rw [decodeFrom_ascii hl] at hread hrest
        have hchar : c.toNat = lead.toNat := by
          rw [← hread, Option.getD_some, toNat_ofNat_of_isValidChar (.inl (by omega))]
        rw [toBytes_cons hc, hchar, UInt8.ofNat_toNat]
        exact List.cons_prefix_cons.2 ⟨rfl, ih ht hrest⟩
      · -- a character of several bytes or a malformed piece is no single byte
        have hlarge : 128 ≤ c.toNat := by
          rw [← hread]
          cases hd : (decodeFrom lead r).char? with
          | none => decide
          | some d => exact decodeFrom_large (by omega) r d hd
        omega

/-- A text of single bytes stands in what was read only if its bytes stand in the sequence. -/
theorem toBytes_isInfix_of_ofBytes {a : List UInt8} {t : Text} (ht : IsAscii t)
    (h : t <:+: ofBytes a) : toBytes t <:+: a := by
  obtain ⟨u, v, he⟩ := h
  obtain ⟨a', ha, hw⟩ := exists_isSuffix_of_ofBytes (u := u) (w := t ++ v) (by rw [← he]; simp)
  exact (toBytes_isPrefix_of_ofBytes ht hw).isInfix.trans ha.isInfix

end Exemplar.Text
