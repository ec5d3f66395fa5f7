import Exemplar.Proofs.Session.Token

/-!
# Tokens of earlier runs

What a run prints too late arrives while a later run waits for its own token. The tokens of two runs
differ in their last number only, and a number may begin with the digits of a smaller one; but a
token that arrives is followed by a line break, which is no digit, and a larger number has no fewer
digits. So the token of an earlier run does not begin with that of a later one, and nothing else in
the late output begins like a token.
-/
namespace Exemplar.Text

lemma length_ofNat_le_iff {n k : Nat} (hk : 0 < k) : (ofNat n).length ≤ k ↔ n < 10 ^ k := by
  rw [ofNat, Nat.toString_eq_repr, Nat.toList_repr]
  exact Nat.length_toDigits_le_iff (by omega) hk

lemma length_ofNat_pos (n : Nat) : 0 < (ofNat n).length := by
  rw [ofNat, Nat.toString_eq_repr, Nat.toList_repr]
  exact Nat.length_toDigits_pos

lemma length_ofNat_mono {m n : Nat} (h : m ≤ n) : (ofNat m).length ≤ (ofNat n).length := by
  have hn : n < 10 ^ (ofNat n).length := (length_ofNat_le_iff (length_ofNat_pos n)).1 le_rfl
  exact (length_ofNat_le_iff (length_ofNat_pos n)).2 (by omega)

lemma ofNat_injective {m n : Nat} (h : ofNat m = ofNat n) : m = n :=
  Nat.repr_inj.1 (String.toList_inj.1 h)

/-- A smaller number that something else than a digit follows does not begin with a larger one. -/
lemma not_isPrefix_ofNat {m n : Nat} (h : m < n) {c : Char} (hc : c.isDigit = false) (t : Text) :
    ¬ ofNat n <+: ofNat m ++ c :: t := by
  intro hp
  have hle := length_ofNat_mono h.le
  rcases List.prefix_or_prefix_of_prefix hp (List.prefix_append (ofNat m) (c :: t)) with hnm | hmn
  · have := ofNat_injective (hnm.eq_of_length_le hle)
    omega
  · obtain ⟨digits, he⟩ := hmn
    rw [← he, List.prefix_append_right_inj] at hp
    cases digits with
    | nil =>
      have := ofNat_injective (by simpa using he)
      omega
    | cons d digits =>
      obtain rfl := (List.cons_prefix_cons.1 hp).1
      have hd : d.isDigit = true := isDigit_of_mem_ofNat (n := n) (he ▸ by simp)
      rw [hc] at hd
      cases hd

end Exemplar.Text

namespace Exemplar.Session
open Text

/-- What follows the beginning that all tokens have. -/
def tokenNumbers (process run : Nat) : Text := '_' :: ofNat process ++ '_' :: ofNat run

lemma tokenFor_eq (process run : Nat) :
    tokenFor process run = tokenPrefix ++ tokenNumbers process run := by
  simp [tokenFor, tokenNumbers]

/-- A token begins like a token at its beginning only. -/
lemma eq_nil_of_tokenFor_eq {process run : Nat} {a b : Text}
    (h : tokenFor process run = a ++ tokenPrefix ++ b) : a = [] := by
  -- the letter occurs once in a token, since there are no letters in its numbers
  have hnumber : ∀ n, 'r' ∉ ofNat n := fun n hn => absurd (isDigit_of_mem_ofNat hn) (by decide)
  have honce : tokenPrefix.count 'r' = 1 := by decide
  have hcount : (tokenFor process run).count 'r' = 1 := by
    simp [tokenFor, honce, List.count_eq_zero_of_not_mem (hnumber _)]
  have ha : 'r' ∉ a := by
    rw [h, List.count_append, List.count_append] at hcount
    exact List.count_eq_zero.1 (by omega)
  have hindex : (tokenFor process run).idxOf 'r' = 2 := rfl
  have hbegin : (tokenPrefix ++ b).idxOf 'r' = 2 := rfl
  rw [h, List.append_assoc, List.idxOf_append_of_notMem ha] at hindex
  exact List.length_eq_zero_iff.1 (by omega)

/-- A text that begins like a token only inside tokens of earlier runs, each of them with a line
break behind it. -/
def StaleOnly (process run : Nat) (t : Text) : Prop :=
  ∀ u v, t = u ++ tokenPrefix ++ v → ∃ earlier < run, ∃ before a b after : Text,
    u = before ++ a ∧ tokenFor process earlier = a ++ tokenPrefix ++ b ∧ v = b ++ '\n' :: after

/-- Such a text does not have the token of the run. -/
lemma StaleOnly.not_isInfix {process run : Nat} {t : Text} (h : StaleOnly process run t) :
    ¬ tokenFor process run <:+: t := by
  rintro ⟨u, w, ht⟩
  obtain ⟨earlier, hlt, before, a, b, after, -, htoken, hv⟩ :=
    h u (tokenNumbers process run ++ w) (by rw [← ht, tokenFor_eq]; simp)
  obtain rfl := eq_nil_of_tokenFor_eq htoken
  rw [tokenFor_eq, List.nil_append, List.append_cancel_left_eq] at htoken
  have hnumbers : ofNat run ++ w = ofNat earlier ++ '\n' :: after := by
    simpa [← htoken, tokenNumbers] using hv
  exact not_isPrefix_ofNat hlt (by decide) after ⟨w, hnumbers⟩

lemma beforeToken?_of_not_isInfix {bytes : List UInt8} {token : Text}
    (h : ¬ token <:+: ofBytes bytes) : beforeToken? bytes token = none := by
  rw [beforeToken?, breakOn_eq_none.2 h]

lemma Received.done_add {token : Text} (ht : IsToken token) {r : Received} (h : r.done = none)
    {piece : List UInt8} (hno : ¬ toBytes token <:+: r.bytes ++ piece) :
    (r.add token piece).done = none := by
  rw [← ht.isInfix_ofBytes] at hno
  simp only [add, h, beforeToken?_of_not_isInfix hno]

lemma Streams.complete?_eq_none {s : Streams} {stream : Stream} (h : (s.on stream).done = none) :
    s.complete? = none := by
  rw [complete?]
  cases stream with
  | out =>
    rw [on] at h
    rw [h]
  | err =>
    rw [on] at h
    rw [h]
    cases s.out.done <;> rfl

/-- A run does not end well while one of the streams has not brought the token. -/
lemma collectFrom_status_ne_ok {token : Text} (ht : IsToken token) (spec : Spec) {s : Streams}
    {stream : Stream} (hdone : (s.on stream).done = none) {events : List Event}
    (hno : ¬ toBytes token <:+: (s.on stream).bytes ++ bytesOn stream events) :
    (collectFrom spec token s events).status ≠ .ok := by
  have hc := Streams.complete?_eq_none hdone
  induction events generalizing s with
  | nil => simp [collectFrom, hc]
  | cons e events ih =>
    cases e with
    | closed _ | timeout => simp [collectFrom, hc]
    | data t piece =>
      rw [bytesOn_cons, ← List.append_assoc, ← Streams.bytes_on_add token] at hno
      have hhere : ¬ toBytes token <:+: ((s.add token t piece).on stream).bytes :=
        fun hi => hno (hi.trans (List.prefix_append _ _).isInfix)
      have hadded : ((s.add token t piece).on stream).done = none := by
        cases stream <;> cases t
        · exact Received.done_add ht hdone hhere
        · exact hdone
        · exact hdone
        · exact Received.done_add ht hdone hhere
      rw [collectFrom, hc]
      exact ih hadded hno (Streams.complete?_eq_none hadded)

/-- Late output of earlier runs, whose tokens are all followed by a line break, has no end of a
later run in it: the token of this run is not found, and the run does not end well as long as one
of the streams brings nothing else. -/
theorem beforeToken?_stale {process run : Nat} {bytes : List UInt8}
    (h : StaleOnly process run (ofBytes bytes)) :
    beforeToken? bytes (tokenFor process run) = none ∧
      ∀ (spec : Spec) (events : List Event) (stream : Stream), bytesOn stream events = bytes →
        (collect spec (tokenFor process run) events).status ≠ .ok := by
  have hno := h.not_isInfix
  refine ⟨beforeToken?_of_not_isInfix hno, ?_⟩
  rintro spec events stream rfl
  have ht := isToken_tokenFor process run
  have hempty : (Streams.empty.on stream).done = none := by cases stream <;> rfl
  refine collectFrom_status_ne_ok ht spec hempty ?_
  rw [ht.isInfix_ofBytes] at hno
  cases stream <;> exact hno

/-- The numbers of the earlier runs are where that of the run begins, and their tokens come right
behind each other. -/
theorem beforeToken?_stale_digits :
    ∃ bytes : List UInt8, StaleOnly 7 100 (ofBytes bytes) ∧
      ofBytes bytes = "late\n__run_examples_done_7_10\n__run_examples_done_7_1\n".toList ∧
      beforeToken? bytes (tokenFor 7 100) = none := by
  let t : Text := "late\n__run_examples_done_7_10\n__run_examples_done_7_1\n".toList
  have hascii : IsAscii t := by
    have hall : t.all (fun c => c.toNat < 128) = true := by decide +kernel
    exact fun c hc => of_decide_eq_true (List.all_eq_true.1 hall c hc)
  have hread : ofBytes (toBytes t) = t := by
    have := ofBytes_toBytes_append hascii []
    rwa [List.append_nil, ofBytes_nil, List.append_nil] at this
  have hplaces : ∀ k ≤ t.length, tokenPrefix <+: t.drop k → k = 5 ∨ k = 30 := by decide +kernel
  have hstale : StaleOnly 7 100 (ofBytes (toBytes t)) := by
    rw [hread]
    intro u v ht
    have hle : u.length ≤ t.length := by
      rw [ht]
      simp
    have hdrop : tokenPrefix ++ v = t.drop u.length := by rw [ht, List.append_assoc, List.drop_left]
    rcases hplaces u.length hle ⟨v, hdrop⟩ with hfirst | hsecond
    · rw [hfirst] at hdrop
      exact ⟨10, by decide, u, [], "_7_10".toList, "__run_examples_done_7_1\n".toList, by simp,
        by decide, List.append_cancel_left (hdrop.trans (by decide))⟩
    · rw [hsecond] at hdrop
      exact ⟨1, by decide, u, [], "_7_1".toList, [], by simp, by decide,
        List.append_cancel_left (hdrop.trans (by decide))⟩
  exact ⟨toBytes t, hstale, hread, (beforeToken?_stale hstale).1⟩

end Exemplar.Session
