import Exemplar.Comment.Scan
import Exemplar.Proofs.Text.Occurrence
import Exemplar.Proofs.Text.Position

/-!
# Where the next comment begins

An opening is an occurrence of a delimiter of the rule that counts where it stands. The next
comment begins at the opening that comes before all others: the earliest, of those at one
place the longest, of those of one length the one listed first. Delimiters without line
breaks cannot hide each other: where an occurrence does not count, none that overlaps it
counts either.
-/
namespace Exemplar.Comment
open Text

namespace Mark

lemma pass_concat (m : Mark) (t : Text) (c : Char) : m.pass (t ++ [c]) = (m.pass t).next c := by
  rw [pass_append]
  rfl

/-- The mark behind a text knows how much text that is and what its last line is like. -/
theorem pass_start (t : Text) :
    start.pass t = ⟨byteSize t, newlines t + 1, isIndentation (lastLine t),
      allBlank (lastLine t)⟩ := by
  induction t using List.reverseRecOn with
  | nil => rfl
  | append_singleton t c ih =>
    rw [pass_concat, ih, lastLine_concat]
    by_cases hc : c = '\n'
    · subst hc
      simp [next, newlines, isIndentation, allBlank]
      rfl
    · simp [next, newlines, isIndentation, allBlank, hc]

end Mark

namespace Rule

/-- No delimiter of the rule has a line break. -/
def OneLine (rule : Rule) : Prop :=
  (∀ form ∈ rule.blocks, '\n' ∉ form.opener ∧ '\n' ∉ form.closer) ∧
    ∀ marker ∈ rule.lineMarker, '\n' ∉ marker

instance (rule : Rule) : Decidable rule.OneLine := by unfold OneLine; infer_instance

/-- The rules known for file extensions are of this kind. -/
theorem oneLine_of_mem_table : ∀ entry ∈ table, entry.2.OneLine := by decide

lemma mem_delimiters {rule : Rule} {d : Delimiter} :
    d ∈ rule.delimiters ↔ d.opener ≠ [] ∧
      match d with
      | .block form => form ∈ rule.blocks
      | .line marker => rule.lineMarker = some marker := by
  cases d <;> simp [delimiters, and_comm]

lemma OneLine.newline_not_mem_opener {rule : Rule} (h : rule.OneLine) {d : Delimiter}
    (hd : d ∈ rule.delimiters) : '\n' ∉ d.opener := by
  obtain ⟨-, hm⟩ := mem_delimiters.1 hd
  cases d with
  | block form => exact (h.1 form hm).1
  | line marker => exact h.2 marker hm

end Rule

/-- An opener behind the text `before` counts. One that has to open its line does so only
with nothing but spaces and tabs before it there. -/
def Delimiter.Counts (d : Delimiter) (before : Text) : Prop :=
  match d with
  | .block form => form.opensLine = true → isIndentation (lastLine before) = true
  | .line _ => True

namespace Delimiter

lemma opensAt_pass (d : Delimiter) (before : Text) :
    d.opensAt (Mark.start.pass before) = true ↔ d.Counts before := by
  cases d with
  | block form => simp [opensAt, Counts, Mark.pass_start]; cases form.opensLine <;> simp
  | line marker => simp [opensAt, Counts]

/-- Further text on the line does not make an opener count. -/
lemma Counts.of_append {d : Delimiter} {before t : Text} (h : d.Counts (before ++ t))
    (ht : '\n' ∉ t) : d.Counts before := by
  cases d with
  | block form =>
    intro ho
    have hi := h ho
    rw [lastLine_append ht, isIndentation, List.all_append, Bool.and_eq_true] at hi
    exact hi.1
  | line marker => trivial

end Delimiter

/-- The opening stands in the text `t` that follows `before`, and its opener counts. -/
structure Opening.Stands (before t : Text) (o : Opening) : Prop where
  spells : t = o.skipped ++ o.delimiter.opener ++ o.after
  counts : o.delimiter.Counts (before ++ o.skipped)

/-- Of the openings with its delimiter none stands before this one. -/
structure Opening.Sought (before t : Text) (o : Opening) : Prop extends o.Stands before t where
  earliest : ∀ u v, Stands before t ⟨o.delimiter, u, v⟩ → o.skipped.length ≤ u.length

namespace Opening

/-- Where the first opener does not count, one that counts is behind all of it. -/
lemma Stands.behind {d : Delimiter} (hd : '\n' ∉ d.opener) {before t b a u v : Text}
    (hb : FirstOccurrence d.opener t b a) (hn : ¬ d.Counts (before ++ b))
    (h : Stands before t ⟨d, u, v⟩) :
    ∃ u', u = b ++ d.opener ++ u' ∧ Stands (before ++ b ++ d.opener) a ⟨d, u', v⟩ := by
  obtain ⟨ht, hc⟩ := h
  simp only at ht hc
  have heq : b ++ (d.opener ++ a) = u ++ (d.opener ++ v) := by
    rw [← List.append_assoc, ← List.append_assoc, ← hb.spells, ht]
  obtain ⟨x, rfl⟩ : b <+: u :=
    List.prefix_of_prefix_length_le ⟨_, heq⟩ ⟨_, rfl⟩ (hb.earliest u v ht)
  have hx : d.opener ++ a = x ++ (d.opener ++ v) := by
    simpa only [List.append_assoc, List.append_cancel_left_eq] using heq
  -- the opener would overlap the one that does not count, on the same line
  have hlong : ¬ x <+: d.opener := by
    intro hp
    refine hn (Delimiter.Counts.of_append (t := x) ?_ fun hm => hd (hp.subset hm))
    rw [List.append_assoc]
    exact hc
  obtain ⟨u', rfl⟩ : d.opener <+: x :=
    (List.prefix_or_prefix_of_prefix ⟨a, rfl⟩ ⟨_, hx.symm⟩).resolve_right hlong
  refine ⟨u', by rw [List.append_assoc], ⟨?_, ?_⟩⟩
  · simpa only [List.append_assoc, List.append_cancel_left_eq] using hx
  · simpa only [List.append_assoc] using hc

lemma seek_eq (d : Delimiter) (m : Mark) (t : Text) :
    seek d m t =
      match breakOn d.opener t with
      | none => none
      | some (before, after) =>
        if d.opensAt (m.pass before) then some (before, after)
        else if d.opener = [] then none
        else
          (seek d ((m.pass before).pass d.opener) after).map fun found =>
            (before ++ d.opener ++ found.1, found.2) := by
  rw [seek]
  split <;> simp [*]

/-- What the search for a delimiter finds is the opener in the text. -/
lemma seek_spells {d : Delimiter} {m : Mark} {t u v : Text} (h : seek d m t = some (u, v)) :
    t = u ++ d.opener ++ v := by
  induction hl : t.length using Nat.strong_induction_on generalizing m t u v with
  | _ n ih =>
    rw [seek_eq] at h
    cases hb : breakOn d.opener t with
    | none => simp [hb] at h
    | some found =>
      obtain ⟨b, a⟩ := found
      have hspell := breakOn_spells hb
      simp only [hb] at h
      split at h
      · cases h
        exact hspell
      · split at h
        · cases h
        · rename_i hne
          obtain ⟨⟨u', v'⟩, hs, he⟩ := Option.map_eq_some_iff.1 h
          have hlt : a.length < n := by
            have := breakOn_length hb
            have := List.length_pos_iff.2 hne
            omega
          have ha := ih a.length hlt hs rfl
          cases he
          rw [hspell, ha]
          simp only [List.append_assoc]

section
variable {d : Delimiter} (hd : '\n' ∉ d.opener) (hne : d.opener ≠ [])
include hd hne

/-- The search for a delimiter leaves out openers that do not count, and no others. -/
lemma seek_spec (before t : Text) :
    (∀ u v, seek d (Mark.start.pass before) t = some (u, v) → Sought before t ⟨d, u, v⟩) ∧
      (seek d (Mark.start.pass before) t = none → ∀ u v, ¬ Stands before t ⟨d, u, v⟩) := by
  induction hl : t.length using Nat.strong_induction_on generalizing before t with
  | _ n ih =>
    rw [seek_eq]
    cases hb : breakOn d.opener t with
    | none =>
      refine ⟨by simp, fun _ u v h => breakOn_eq_none.1 hb ⟨u, v, ?_⟩⟩
      exact h.spells.symm
    | some found =>
      obtain ⟨b, a⟩ := found
      have hf := breakOn_eq_some.1 hb
      simp only [← Mark.pass_append, if_neg hne]
      by_cases ho : d.Counts (before ++ b)
      · rw [if_pos ((d.opensAt_pass _).2 ho)]
        refine ⟨?_, by simp⟩
        rintro u v he
        obtain ⟨rfl, rfl⟩ := Prod.mk.inj (Option.some.inj he)
        exact ⟨⟨hf.spells, ho⟩, fun u v h => hf.earliest u v h.spells⟩
      · rw [if_neg fun h => ho ((d.opensAt_pass _).1 h)]
        have hlt : a.length < n := by
          have := breakOn_length hb
          have := List.length_pos_iff.2 hne
          omega
        obtain ⟨hsome, hnone⟩ := ih a.length hlt (before ++ (b ++ d.opener)) a rfl
        rw [List.append_assoc before b]
        constructor
        · intro u v he
          obtain ⟨⟨u', v'⟩, hs, he⟩ := Option.map_eq_some_iff.1 he
          obtain ⟨rfl, rfl⟩ := Prod.mk.inj he
          obtain ⟨⟨hspell, hcount⟩, hearly⟩ := hsome u' v' hs
          simp only at hspell hcount hearly
          refine ⟨⟨?_, ?_⟩, ?_⟩
          · simp only
            rw [hf.spells, hspell]
            simp only [List.append_assoc]
          · simpa only [List.append_assoc] using hcount
          · intro w x h
            obtain ⟨w', rfl, h'⟩ := h.behind hd hf ho
            rw [List.append_assoc before b] at h'
            have := hearly w' x h'
            simp only [List.length_append]
            omega
        · intro he w x h
          obtain ⟨w', -, h'⟩ := h.behind hd hf ho
          rw [List.append_assoc before b] at h'
          exact hnone (Option.map_eq_none_iff.1 he) w' x h'

end

/-- The opening `o` comes before `p`: it is earlier, or at the same place and longer, or as
long and not listed behind in `ds`. -/
def Precedes (ds : List Delimiter) (o p : Opening) : Prop :=
  o.skipped.length < p.skipped.length ∨ o.skipped.length = p.skipped.length ∧
    (p.delimiter.opener.length < o.delimiter.opener.length ∨
      p.delimiter.opener.length = o.delimiter.opener.length ∧
        ds.idxOf o.delimiter ≤ ds.idxOf p.delimiter)

/-- The opening comes before all others of the delimiters `ds`. -/
structure First (ds : List Delimiter) (before t : Text) (o : Opening) : Prop
    extends o.Stands before t where
  listed : o.delimiter ∈ ds
  precedes : ∀ p : Opening, p.delimiter ∈ ds → p.Stands before t → o.Precedes ds p

/-- Only one opening comes before all others. -/
lemma First.unique {ds : List Delimiter} {before t : Text} {o p : Opening}
    (ho : o.First ds before t) (hp : p.First ds before t) : o = p := by
  have hop := ho.precedes p hp.listed hp.toStands
  have hpo := hp.precedes o ho.listed ho.toStands
  simp only [Precedes] at hop hpo
  have hidx : ds.idxOf o.delimiter = ds.idxOf p.delimiter := by omega
  have hlen : o.skipped.length = p.skipped.length := by omega
  obtain ⟨d, u, v⟩ := o
  obtain ⟨d', u', v'⟩ := p
  obtain rfl : d = d' := (List.idxOf_inj ho.listed).1 hidx
  have hs : u ++ (d.opener ++ v) = u' ++ (d.opener ++ v') := by
    rw [← List.append_assoc, ← List.append_assoc, ← ho.spells, ← hp.spells]
  obtain ⟨rfl, hv⟩ := List.append_inj hs hlen
  rw [List.append_cancel_left hv]

lemma beats_iff {o p : Opening} :
    o.beats p = true ↔ o.skipped.length < p.skipped.length ∨
      o.skipped.length = p.skipped.length ∧
        p.delimiter.opener.length < o.delimiter.opener.length := by
  simp [beats]

/-- The first opening stays the first when a delimiter is listed behind the others whose
openings do not beat it. -/
lemma First.concat {ds : List Delimiter} {d : Delimiter} {before t : Text} {o : Opening}
    (h : o.First ds before t)
    (hd : ∀ p : Opening, p.delimiter = d → p.Stands before t → ¬ p.beats o = true) :
    o.First (ds ++ [d]) before t := by
  refine ⟨h.toStands, by simp [h.listed], fun p hp hs => ?_⟩
  have ho : (ds ++ [d]).idxOf o.delimiter = ds.idxOf o.delimiter :=
    List.idxOf_append_of_mem h.listed
  by_cases hp' : p.delimiter ∈ ds
  · have hpre := h.precedes p hp' hs
    rw [Precedes] at hpre ⊢
    rw [ho, List.idxOf_append_of_mem hp']
    exact hpre
  · obtain rfl : p.delimiter = d := by simpa [hp'] using hp
    have hlast : (ds ++ [p.delimiter]).idxOf p.delimiter = ds.length := by
      simp [List.idxOf_append, hp']
    have hlt := List.idxOf_lt_length_of_mem h.listed
    have hbeats := hd p rfl hs
    rw [beats_iff] at hbeats
    rw [Precedes]
    omega

/-- The earliest opening of a delimiter that is listed last is the first if it beats those of
the others. -/
lemma Sought.first {ds : List Delimiter} {before t : Text} {c : Opening} (h : c.Sought before t)
    (hds : ∀ p : Opening, p.delimiter ∈ ds → p.Stands before t → c.beats p = true) :
    c.First (ds ++ [c.delimiter]) before t := by
  refine ⟨h.toStands, by simp, fun p hp hs => ?_⟩
  rw [Precedes]
  by_cases hp' : p.delimiter ∈ ds
  · have hbeats := beats_iff.1 (hds p hp' hs)
    omega
  · have he : p.delimiter = c.delimiter := by simpa [hp'] using hp
    have hle := h.earliest p.skipped p.after (he ▸ hs)
    rw [he]
    omega

/-- What beats the first opening beats all that come behind it. -/
lemma beats_of_precedes {ds : List Delimiter} {c o p : Opening} (h : c.beats o = true)
    (hp : o.Precedes ds p) : c.beats p = true := by
  rw [beats_iff] at h ⊢
  rw [Precedes] at hp
  omega

/-- The best of the openings that the delimiters `ds` have in a text. -/
def best (ds : List Delimiter) (m : Mark) (t : Text) : Option Opening :=
  (ds.filterMap (of? m t)).foldl better none

lemma best_concat (ds : List Delimiter) (d : Delimiter) (m : Mark) (t : Text) :
    best (ds ++ [d]) m t =
      match of? m t d with
      | none => best ds m t
      | some c => better (best ds m t) c := by
  rw [best, List.filterMap_append, List.foldl_append]
  cases hd : of? m t d <;> simp [hd, best]

lemma best_eq_some {ds : List Delimiter} {m : Mark} {t : Text} {o : Opening}
    (h : best ds m t = some o) : ∃ d ∈ ds, of? m t d = some o := by
  induction ds using List.reverseRecOn with
  | nil => simp [best] at h
  | append_singleton ds d ih =>
    have hold : best ds m t = some o → ∃ e ∈ ds ++ [d], of? m t e = some o := by
      intro hb
      obtain ⟨e, he, ho⟩ := ih hb
      exact ⟨e, by simp [he], ho⟩
    rw [best_concat] at h
    cases hd : of? m t d with
    | none => exact hold (by simpa [hd] using h)
    | some c =>
      have hnew : c = o → ∃ e ∈ ds ++ [d], of? m t e = some o := by
        rintro rfl
        exact ⟨d, by simp, hd⟩
      simp only [hd] at h
      cases hb : best ds m t with
      | none => exact hnew (by simpa [hb, better] using h)
      | some b =>
        by_cases hbeats : c.beats b = true
        · exact hnew (by simpa [hb, better, hbeats] using h)
        · exact hold (by simpa [hb, better, hbeats] using h)

/-- Whatever the delimiters of a rule are, the next comment begins with the opener of one of
them. -/
theorem next?_spells {rule : Rule} {m : Mark} {t : Text} {o : Opening}
    (h : next? rule m t = some o) :
    o.delimiter ∈ rule.delimiters ∧ t = o.skipped ++ o.delimiter.opener ++ o.after := by
  obtain ⟨d, hd, ho⟩ := best_eq_some h
  obtain ⟨⟨u, v⟩, hs, rfl⟩ := Option.map_eq_some_iff.1 ho
  exact ⟨hd, seek_spells hs⟩

lemma of?_spec {d : Delimiter} (hd : '\n' ∉ d.opener) (hne : d.opener ≠ []) (before t : Text) :
    (∀ o, of? (Mark.start.pass before) t d = some o → o.delimiter = d ∧ o.Sought before t) ∧
      (of? (Mark.start.pass before) t d = none →
        ∀ p : Opening, p.delimiter = d → ¬ p.Stands before t) := by
  obtain ⟨hsome, hnone⟩ := seek_spec hd hne before t
  constructor
  · intro o h
    obtain ⟨⟨u, v⟩, hs, rfl⟩ := Option.map_eq_some_iff.1 h
    exact ⟨rfl, hsome u v hs⟩
  · rintro h ⟨d, u, v⟩ rfl
    exact hnone (Option.map_eq_none_iff.1 h) u v

/-- What is better than all openings of a list is found by going through the list. -/
theorem best_spec {ds : List Delimiter} (hds : ∀ d ∈ ds, '\n' ∉ d.opener ∧ d.opener ≠ [])
    (before t : Text) :
    (∀ o, best ds (Mark.start.pass before) t = some o → o.First ds before t) ∧
      (best ds (Mark.start.pass before) t = none →
        ∀ p : Opening, p.delimiter ∈ ds → ¬ p.Stands before t) := by
  induction ds using List.reverseRecOn with
  | nil => simp [best]
  | append_singleton ds d ih =>
    obtain ⟨hsome, hnone⟩ := ih fun e he => hds e (by simp [he])
    obtain ⟨hd, hne⟩ := hds d (by simp)
    obtain ⟨hfound, hmissing⟩ := of?_spec hd hne before t
    rw [best_concat]
    cases hc : of? (Mark.start.pass before) t d with
    | none =>
      have hno := hmissing hc
      refine ⟨fun o ho => (hsome o ho).concat fun p hp hs => absurd hs (hno p hp), ?_⟩
      intro hn p hp hs
      rcases List.mem_append.1 hp with hp | hp
      · exact hnone hn p hp hs
      · exact hno p (List.mem_singleton.1 hp) hs
    | some c =>
      obtain ⟨rfl, hsought⟩ := hfound c hc
      cases hb : best ds (Mark.start.pass before) t with
      | none =>
        refine ⟨?_, by simp [better]⟩
        intro o ho
        obtain rfl : c = o := Option.some.inj ho
        exact hsought.first fun p hp hs => absurd hs (hnone hb p hp)
      | some b =>
        have hf := hsome b hb
        refine ⟨?_, by simp [better]⟩
        intro o ho
        by_cases hbeats : c.beats b = true
        · obtain rfl : c = o := by simpa [better, hbeats] using ho
          exact hsought.first fun p hp hs => beats_of_precedes hbeats (hf.precedes p hp hs)
        · obtain rfl : b = o := by simpa [better, hbeats] using ho
          -- an opening of the last delimiter is no earlier than `c`, and `c` does not win
          refine hf.concat fun p hp hs hpb => hbeats ?_
          have hle := hsought.earliest p.skipped p.after (hp ▸ hs)
          rw [beats_iff, hp] at hpb
          rw [beats_iff]
          omega

/-- The next comment begins at the opening that comes before all others. -/
theorem next?_spec {rule : Rule} (hrule : rule.OneLine) (before t : Text) :
    (∀ o, next? rule (Mark.start.pass before) t = some o → o.First rule.delimiters before t) ∧
      (next? rule (Mark.start.pass before) t = none →
        ∀ p : Opening, p.delimiter ∈ rule.delimiters → ¬ p.Stands before t) :=
  best_spec (fun _ hd => ⟨hrule.newline_not_mem_opener hd, (Rule.mem_delimiters.1 hd).1⟩) before t

end Opening

end Exemplar.Comment
