import Exemplar.Proofs.Text.Occurrence
import Exemplar.Session.Frame
import Exemplar.Session.Spec
import Exemplar.Shell.Grammar
import Mathlib.Data.List.TakeWhile

/-!
# Reading the sentinel

What the sentinel of a shell prints is told by a command of two parts, which print the token on
one stream each. The shell reads just this command, whatever the token is, as long as its characters
are those of names and no alias stands for the name of the command that prints.
-/
namespace Exemplar.Shell

/-- A reader in the middle of a script, outside of the texts of aliases and documents. -/
def Reader.plain (aliases : List (Text × Text)) (line : Nat) (pushed : Option Token) (rest : Text) :
    Reader :=
  ⟨[], rest, line, false, aliases, pushed, false, [], 0, none, [], []⟩

variable {aliases : List (Text × Text)} {line : Nat} {pushed : Option Token} {c : Char}
  {rest : Text}

@[simp] lemma Reader.pushed_plain : (Reader.plain aliases line pushed rest).pushed = pushed := rfl

@[simp] lemma Reader.awaited_plain : (Reader.plain aliases line pushed rest).awaited = [] := rfl

lemma ne_of_isNameChar (hc : isNameChar c = true) {d : Char} (hd : isNameChar d = false) :
    c ≠ d := by
  rintro rfl
  simp [hc] at hd

namespace Parse
variable {α β : Type} {f : α → Parse β}

lemma bind_ok {p : Parse α} {r r' : Reader} {a : α} (h : p r = .ok (a, r')) :
    (p >>= f) r = f a r' := by
  simp [bind, StateT.bind, h, Except.bind]

lemma bind_error {p : Parse α} {r : Reader} {e : Stop} (h : p r = .error e) :
    (p >>= f) r = .error e := by
  simp [bind, StateT.bind, h, Except.bind]

@[simp] lemma pure_apply (a : α) (r : Reader) : (pure a : Parse α) r = .ok (a, r) := rfl

@[simp] lemma bind_get (f : Reader → Parse β) (r : Reader) : (get >>= f) r = f r r := rfl

@[simp] lemma bind_line (f : Nat → Parse β) (r : Reader) : (Parse.line >>= f) r = f r.line r := rfl

@[simp] lemma bind_push (t : Token) (f : Unit → Parse β) :
    (push t >>= f) (.plain aliases line pushed rest) = f () (.plain aliases line (some t) rest) :=
  rfl

@[simp] lemma map_push (g : Unit → β) (t : Token) :
    (g <$> push t) (.plain aliases line pushed rest) =
      .ok (g (), .plain aliases line (some t) rest) := rfl

@[simp] lemma bind_peek (hc : c ≠ '\\') (f : Option Char → Parse β) :
    (peek >>= f) (.plain aliases line pushed (c :: rest)) =
      f (some c) (.plain aliases line pushed (c :: rest)) := by
  have hjoin : join (.plain aliases line pushed (c :: rest)) =
      .ok ((), .plain aliases line pushed (c :: rest)) := by
    have hjoins : joins (c :: rest) = (0, c :: rest) := by
      rw [joins]
      intro t ht
      simp [hc] at ht
    simp [join, Reader.plain, leaveOver, hjoins, hc]
  rw [peek, bind_assoc, bind_ok hjoin]
  rfl

@[simp] lemma bind_takeRaw (hc : c ≠ '\n') (f : Option Char → Parse β) :
    (takeRaw >>= f) (.plain aliases line pushed (c :: rest)) =
      f (some c) (.plain aliases line pushed rest) := by
  refine bind_ok ?_
  simp [takeRaw, Reader.plain, leaveOver, hc]

@[simp] lemma bind_accept (hc : c ≠ '\\') (hn : c ≠ '\n') (d : Char) (f : Bool → Parse β) :
    (accept d >>= f) (.plain aliases line pushed (c :: rest)) =
      if c = d then f true (.plain aliases line pushed rest)
      else f false (.plain aliases line pushed (c :: rest)) := by
  rw [accept, bind_assoc, bind_peek hc]
  split_ifs <;> simp_all

end Parse

namespace Grammar
open Parse

@[simp] lemma bind_takeBlank {β : Type} (f : Bool → Parse β) :
    (takeBlank >>= f) (.plain aliases line pushed rest) =
      f false (.plain aliases line pushed rest) := rfl

lemma endsWord_eq_false (hc : isNameChar c = true) : endsWord c = false := by
  rw [endsWord, List.any_eq_false]
  intro d hd
  have hall : "\n<>();&| \t".toList.all (fun d => !isNameChar d) = true := by decide
  have hno : isNameChar d = false := by simpa using List.all_eq_true.1 hall d hd
  simpa using (ne_of_isNameChar hc hno).symm

/-- A separator behind a word that is not part of a redirection. -/
structure Ends (c : Char) : Prop where
  endsWord : endsWord c = true
  ne_backslash : c ≠ '\\'
  ne_less : c ≠ '<'
  ne_greater : c ≠ '>'

lemma ends_space : Ends ' ' := ⟨by decide, by decide, by decide, by decide⟩

lemma ends_semicolon : Ends ';' := ⟨by decide, by decide, by decide, by decide⟩

lemma ends_break : Ends '\n' := ⟨by decide, by decide, by decide, by decide⟩

/-- A separator ends a word. -/
lemma parts_ends (hc : endsWord c = true) (hb : c ≠ '\\') (fuel : Nat) (acc : List Part) :
    parts (fuel + 1) .base false 0 acc (.plain aliases line none (c :: rest)) =
      .ok (acc, .plain aliases line none (c :: rest)) := by
  rw [parts.eq_def]
  simp [parts.ended, hc, hb]

/-- Characters of names go into a word one by one. -/
lemma parts_name {w : Text} (hw : ∀ d ∈ w, isNameChar d = true) (hc : endsWord c = true)
    (hb : c ≠ '\\') {fuel : Nat} (hfuel : w.length < fuel) (acc : List Part) :
    parts fuel .base false 0 acc (.plain aliases line none (w ++ c :: rest)) =
      .ok ((w.map (.char false)).reverse ++ acc, .plain aliases line none (c :: rest)) := by
  induction w generalizing fuel acc with
  | nil =>
    obtain ⟨fuel, rfl⟩ : ∃ n, fuel = n + 1 := ⟨fuel - 1, by simp at hfuel; omega⟩
    exact parts_ends hc hb fuel acc
  | cons d w ih =>
    obtain ⟨fuel, rfl⟩ : ∃ n, fuel = n + 1 := ⟨fuel - 1, by simp at hfuel; omega⟩
    have hd := hw d List.mem_cons_self
    have hne := fun e => ne_of_isNameChar (d := e) hd
    have hstep : parts (fuel + 1) .base false 0 acc
        (.plain aliases line none (d :: w ++ c :: rest)) =
          parts fuel .base false 0 (.char false d :: acc)
            (.plain aliases line none (w ++ c :: rest)) := by
      rw [parts.eq_def]
      simp [parts.ended, endsWord_eq_false hd, Context.isQuoted, hne '\\' (by decide),
        hne '\n' (by decide), hne '$' (by decide), hne backquote (by decide), hne '\'' (by decide),
        hne '"' (by decide)]
    rw [hstep, ih (fun e he => hw e (List.mem_cons_of_mem d he)) (by simpa using hfuel)]
    simp

/-- Quoted characters go into a word up to the quote. -/
lemma literalQuotes_append {q : Text} (hq : '\'' ∉ q) (hn : '\n' ∉ q) {fuel : Nat}
    (hfuel : q.length < fuel) (acc : List Part) :
    literalQuotes fuel acc (.plain aliases line none (q ++ '\'' :: rest)) =
      .ok ((q.map (.char true)).reverse ++ acc, .plain aliases line none rest) := by
  induction q generalizing fuel acc with
  | nil =>
    obtain ⟨fuel, rfl⟩ : ∃ n, fuel = n + 1 := ⟨fuel - 1, by simp at hfuel; omega⟩
    simp [literalQuotes]
  | cons d q ih =>
    obtain ⟨fuel, rfl⟩ : ∃ n, fuel = n + 1 := ⟨fuel - 1, by simp at hfuel; omega⟩
    simp only [List.mem_cons, not_or] at hq hn
    have hne : d ≠ '\'' := Ne.symm hq.1
    simp [literalQuotes, Ne.symm hn.1, ih hq.2 hn.2 (Nat.lt_of_succ_lt_succ hfuel)]

lemma parts_quotes {q : Text} (hq : '\'' ∉ q) (hn : '\n' ∉ q) (hlen : q.length < most)
    (hc : endsWord c = true) (hb : c ≠ '\\') (fuel : Nat) (acc : List Part) :
    parts (fuel + 2) .base false 0 acc (.plain aliases line none ('\'' :: q ++ '\'' :: c :: rest)) =
      .ok ((q.map (.char true)).reverse ++ .piece .mark :: acc,
        .plain aliases line none (c :: rest)) := by
  have hword : endsWord '\'' = false := by decide
  have hquote : '\'' ≠ backquote := by decide
  rw [parts.eq_def]
  simp [parts.ended, hword, hquote, Context.isQuoted, bind_ok (literalQuotes_append hq hn hlen _),
    parts_ends hc hb]

/-- A text and the word that it is read as. -/
inductive Spells : Text → Word → Prop
  | name {w : Text} (hne : w ≠ []) (hw : ∀ d ∈ w, isNameChar d = true) :
    Spells w [.literal false w]
  | quotes {q : Text} (hne : q ≠ []) (hq : '\'' ∉ q) (hn : '\n' ∉ q) (hlen : q.length < most) :
    Spells ('\'' :: q ++ ['\'']) [.mark, .literal true q]

lemma ofParts_append_piece (found : List Part) (p : Piece) :
    Word.ofParts (found ++ [.piece p]) = p :: Word.ofParts found := by
  simp [Word.ofParts]

/-- Characters of one kind are put together. -/
lemma ofParts_chars (quoted : Bool) {t : Text} (hne : t ≠ []) :
    Word.ofParts (t.map (.char quoted)).reverse = [.literal quoted t] := by
  rw [Word.ofParts, List.foldl_reverse]
  induction t with
  | nil => exact absurd rfl hne
  | cons c t ih =>
    rcases eq_or_ne t [] with rfl | ht
    · rfl
    · simp [ih ht]

/-- A character that begins nothing else begins a word. -/
lemma rawToken_word {d : Char} {found : List Part} {t : Text} (hd : endsWord d = false)
    (hb : d ≠ '\\') (hs : d ≠ '#') (hc : Ends c) {fuel : Nat}
    (h : parts fuel .base false 0 [] (.plain aliases line none (d :: t)) =
      .ok (found, .plain aliases line none (c :: rest))) :
    rawToken (fuel + 1) false (.plain aliases line none (d :: t)) =
      .ok (.word (Word.ofParts found), .plain aliases line none (c :: rest)) := by
  have hne : ∀ e, endsWord e = true → d ≠ e := by
    rintro e he rfl
    simp [he] at hd
  rw [rawToken.eq_def]
  simp [hb, hs, hne ' ' (by decide), hne '\t' (by decide), hne '\n' (by decide),
    hne '&' (by decide), hne '|' (by decide), hne ';' (by decide), hne '(' (by decide),
    hne ')' (by decide), bind_ok h, hc.ne_backslash]
  cases streamOf? found <;> simp [hc.ne_less, hc.ne_greater]

lemma rawToken_spells {t : Text} {w : Word} (h : Spells t w) (hc : Ends c) {fuel : Nat}
    (hfuel : t.length + 2 < fuel) :
    rawToken fuel false (.plain aliases line none (t ++ c :: rest)) =
      .ok (.word w, .plain aliases line none (c :: rest)) := by
  obtain ⟨fuel, rfl⟩ : ∃ n, fuel = n + 3 := ⟨fuel - 3, by omega⟩
  cases h with
  | name hne hw =>
    obtain ⟨d, t, rfl⟩ := List.exists_cons_of_ne_nil hne
    have hd := hw d List.mem_cons_self
    have hlen : (d :: t).length < fuel + 2 := by omega
    rw [← ofParts_chars false hne, ← List.append_nil (List.reverse _)]
    exact rawToken_word (endsWord_eq_false hd) (ne_of_isNameChar hd (by decide))
      (ne_of_isNameChar hd (by decide)) hc (parts_name hw hc.endsWord hc.ne_backslash hlen [])
  | @quotes q hne hq hn hlen =>
    rw [← ofParts_chars true hne, ← ofParts_append_piece]
    simpa using rawToken_word (by decide) (by decide) (by decide) hc
      (parts_quotes hq hn hlen hc.endsWord hc.ne_backslash fuel [])

@[simp] lemma rawToken_pushed (t : Token) (fuel : Nat) :
    rawToken (fuel + 1) false (.plain aliases line (some t) rest) =
      .ok (t, .plain aliases line none rest) := by
  rw [rawToken.eq_def]
  rfl

lemma rawToken_space (fuel : Nat) :
    rawToken (fuel + 1) false (.plain aliases line none (' ' :: rest)) =
      rawToken fuel false (.plain aliases line none rest) := by
  rw [rawToken.eq_def]
  rfl

lemma rawToken_break (fuel : Nat) :
    rawToken (fuel + 1) false (.plain aliases line none ('\n' :: rest)) =
      .ok (.newline, .plain aliases (line + 1) none rest) := by
  rw [rawToken.eq_def]
  rfl

lemma rawToken_semicolon (fuel : Nat) :
    rawToken (fuel + 1) false (.plain aliases line none (';' :: ' ' :: rest)) =
      .ok (.semicolon, .plain aliases line none (' ' :: rest)) := by
  rw [rawToken.eq_def]
  simp [doubled]

lemma rawToken_copy (fuel : Nat) :
    rawToken (fuel + 2) false (.plain aliases line none ('>' :: '&' :: rest)) =
      .ok (.redirection 1 .copy, .plain aliases line none rest) := by
  rw [rawToken.eq_def]
  simp [bind_ok (parts_ends (c := '>') (by decide) (by decide) fuel []), streamOf?, arrow]

variable {r : Reader} {line' : Nat} {rest' : Text} {fuel : Nat}

/-- Where nothing special is wanted, a token is taken as it stands. -/
lemma token_nothing {t : Token} (h : rawToken fuel false (.plain aliases line pushed rest) =
      .ok (t, .plain aliases line' none rest')) :
    token (fuel + 1) Wanted.nothing (.plain aliases line pushed rest) =
      .ok (t, .plain aliases line' none rest') := by
  rw [token.eq_def]
  cases t with
  | word w => cases hw : w.plain? <;> simp [bind_ok h, hw, Wanted.nothing]
  | _ => simp [bind_ok h, Wanted.nothing]

/-- A name that is neither a keyword nor an alias is a word, whatever is wanted. -/
lemma token_name {name : Text} (hk : String.ofList name ∉ Token.keywords)
    (ha : aliases.lookup name = none) (wanted : Wanted)
    (h : rawToken fuel false (.plain aliases line pushed rest) =
      .ok (.word [.literal false name], .plain aliases line' none rest')) :
    token (fuel + 1) wanted (.plain aliases line pushed rest) =
      .ok (.word [.literal false name], .plain aliases line' none rest') := by
  have halias : alias? name (.plain aliases line' none rest') =
      .ok (none, .plain aliases line' none rest') := by
    simp [alias?, Reader.plain, ha]
  rw [token.eq_def]
  simp only [bind_takeBlank, bind_ok h]
  simp [Word.plain?, hk]
  split_ifs <;> simp [bind_ok halias]

/-- Words in a row, each behind a space. -/
lemma simpleFrom_words {ws : List (Text × Word)} (hws : ∀ x ∈ ws, Spells x.1 x.2) (hc : Ends c)
    {n : Nat} (hlen : ∀ x ∈ ws, x.1.length + 4 < n) (start : Nat) {words : List Word}
    (hne : words ≠ []) :
    simpleFrom (n + ws.length) start [] words []
        (.plain aliases line none (ws.flatMap (fun x => ' ' :: x.1) ++ c :: rest)) =
      simpleFrom n start [] ((ws.map Prod.snd).reverse ++ words) []
        (.plain aliases line none (c :: rest)) := by
  induction ws generalizing words with
  | nil => simp
  | cons x ws ih =>
    simp only [List.forall_mem_cons] at hws hlen
    obtain ⟨m, hm⟩ : ∃ m, n + ws.length = m + 2 := ⟨n + ws.length - 2, by omega⟩
    obtain ⟨d, t, hd, ht⟩ : ∃ d t, Ends d ∧
        ws.flatMap (fun x => ' ' :: x.1) ++ c :: rest = d :: t := by
      cases ws with
      | nil => exact ⟨c, rest, hc, rfl⟩
      | cons y ws => exact ⟨' ', _, ends_space, rfl⟩
    have hrow : (x :: ws).flatMap (fun x => ' ' :: x.1) ++ c :: rest = ' ' :: (x.1 ++ d :: t) := by
      simp [← ht]
    have hraw : rawToken (m + 1) false (.plain aliases line none (' ' :: (x.1 ++ d :: t))) =
        .ok (.word x.2, .plain aliases line none (d :: t)) := by
      rw [rawToken_space, rawToken_spells hws.1 hd (by omega)]
    have hstep : simpleFrom (n + (x :: ws).length) start [] words []
        (.plain aliases line none (' ' :: (x.1 ++ d :: t))) =
          simpleFrom (n + ws.length) start [] (x.2 :: words) []
            (.plain aliases line none (d :: t)) := by
      rw [List.length_cons, ← Nat.add_assoc, simpleFrom.eq_def]
      simp only [List.isEmpty_eq_false_iff.2 hne, hm]
      simp [bind_ok (token_nothing hraw)]
    rw [hrow, hstep, ← ht, ih hws.2 hlen.2 (List.cons_ne_nil _ _)]
    simp

/-- A token that ends a simple command, and what of it is left for the list around it. -/
inductive EndsSimple : Token → Option Token → Prop
  | semicolon : EndsSimple .semicolon none
  | newline : EndsSimple .newline (some .newline)

lemma simpleFrom_ends {t : Token} {left : Option Token} (ht : EndsSimple t left)
    {words : List Word} (hne : words ≠ []) (start : Nat) (rs : List Redirection)
    (h : rawToken fuel false (.plain aliases line none rest) =
      .ok (t, .plain aliases line' none rest')) :
    simpleFrom (fuel + 2) start [] words rs (.plain aliases line none rest) =
      .ok (.simple start [] words.reverse rs.reverse, .plain aliases line' (some t) rest') := by
  rw [simpleFrom.eq_def]
  simp only [List.isEmpty_eq_false_iff.2 hne]
  cases ht <;> simp [bind_ok (token_nothing h)]

/-- At the end of a line, one stream is tied to another. -/
lemma simpleFrom_copy {words : List Word} (hne : words ≠ []) (start n : Nat) :
    simpleFrom (n + 7) start [] words []
        (.plain aliases line none (' ' :: '>' :: '&' :: '2' :: '\n' :: rest)) =
      .ok (.simple start [] words.reverse [(1, .copy 2)],
        .plain aliases (line + 1) (some .newline) rest) := by
  have hsign : rawToken (n + 5) false
      (.plain aliases line none (' ' :: '>' :: '&' :: '2' :: '\n' :: rest)) =
        .ok (.redirection 1 .copy, .plain aliases line none ('2' :: '\n' :: rest)) := by
    rw [rawToken_space, rawToken_copy]
  have hword : rawToken (n + 4) false (.plain aliases line none ('2' :: '\n' :: rest)) =
      .ok (.word [.literal false ['2']], .plain aliases line none ('\n' :: rest)) :=
    rawToken_spells (.name (w := ['2']) (by decide) (List.all_eq_true.1 (by decide))) ends_break
      (by simp)
  have htarget : target (n + 6) .copy (.plain aliases line none ('2' :: '\n' :: rest)) =
      .ok (.copy 2, .plain aliases line none ('\n' :: rest)) := by
    rw [target.eq_def]
    simp only [bind_ok (token_nothing hword)]
    rfl
  rw [simpleFrom.eq_def]
  simp only [List.isEmpty_eq_false_iff.2 hne]
  simp only [Bool.false_eq_true, if_false, bind_ok (token_nothing hsign), bind_ok htarget]
  rw [simpleFrom_ends .newline hne start _ (rawToken_break _)]
  rfl

/-- A name by which a command is called. -/
structure IsCommandName (aliases : List (Text × Text)) (name : Text) : Prop where
  ne_nil : name ≠ []
  isNameChar : ∀ c ∈ name, isNameChar c = true
  not_keyword : String.ofList name ∉ Token.keywords
  not_alias : aliases.lookup name = none

variable {name : Text} (hname : IsCommandName aliases name)
include hname

/-- The first word of a simple command, and the words behind it. -/
lemma simpleFrom_name {ws : List (Text × Word)} (hws : ∀ x ∈ ws, Spells x.1 x.2) (hc : Ends c)
    {n : Nat} (hlen : ∀ x ∈ ws, x.1.length + 4 < n) (h3 : 3 ≤ n) (start : Nat) :
    simpleFrom (n + ws.length + 1) start [] [] []
        (.plain aliases line (some (.word [.literal false name]))
          (ws.flatMap (fun x => ' ' :: x.1) ++ c :: rest)) =
      simpleFrom n start [] ((ws.map Prod.snd).reverse ++ [[.literal false name]]) []
        (.plain aliases line none (c :: rest)) := by
  have hassign : Word.assignment? [.literal false name] = none := by
    have hdrop : name.dropWhile Shell.isNameChar = [] :=
      List.dropWhile_eq_nil_iff.2 hname.isNameChar
    simp [Word.assignment?, hdrop]
  obtain ⟨m, hm⟩ : ∃ m, n + ws.length = m + 2 := ⟨n + ws.length - 2, by omega⟩
  rw [← simpleFrom_words hws hc hlen start (List.cons_ne_nil _ _), simpleFrom.eq_def]
  simp only [List.isEmpty_nil, if_true, hm]
  simp only [hassign, bind_ok (token_name hname.not_keyword hname.not_alias Wanted.names
    (rawToken_pushed _ _))]

omit hname in
/-- Nothing is joined to a simple command that ends there. -/
lemma conditions_simple {t : Token} {left : Option Token} (ht : EndsSimple t left) {n : Nat}
    {cmd : Command}
    (h : simpleFrom (n + 1) line [] [] []
        (.plain aliases line (some (.word [.literal false name])) rest) =
      .ok (cmd, .plain aliases line' (some t) rest')) :
    conditions (n + 5) (.plain aliases line (some (.word [.literal false name])) rest) =
      .ok (cmd, .plain aliases line' (some t) rest') := by
  have hfirst : ∀ m (rest : Text), token (m + 2) Wanted.nothing
      (.plain aliases line (some (.word [.literal false name])) rest) =
        .ok (.word [.literal false name], .plain aliases line none rest) :=
    fun m rest => token_nothing (rawToken_pushed _ m)
  have hlast : ∀ m, token (m + 2) Wanted.nothing (.plain aliases line' (some t) rest') =
      .ok (t, .plain aliases line' none rest') := fun m => token_nothing (rawToken_pushed t m)
  have hsimple : simple (n + 2) (.plain aliases line (some (.word [.literal false name])) rest) =
      .ok (cmd, .plain aliases line' (some t) rest') := by
    rw [simple.eq_def]
    exact h
  have hcommand : command (n + 3) Wanted.nothing
      (.plain aliases line (some (.word [.literal false name])) rest) =
        .ok (cmd, .plain aliases line' (some t) rest') := by
    rw [command.eq_def]
    simp [bind_ok (hfirst n rest), hsimple]
  have hpipes : morePipes (n + 3) cmd (.plain aliases line' (some t) rest') =
      .ok (cmd, .plain aliases line' (some t) rest') := by
    rw [morePipes.eq_def]
    cases ht <;> simp [bind_ok (hlast n)]
  have hpipeline : pipeline (n + 4) Wanted.nothing
      (.plain aliases line (some (.word [.literal false name])) rest) =
        .ok (cmd, .plain aliases line' (some t) rest') := by
    rw [pipeline.eq_def]
    simp [bind_ok (hfirst (n + 1) rest), bind_ok hcommand, hpipes]
  rw [conditions.eq_def]
  simp only [bind_ok hpipeline]
  rw [moreConditions.eq_def]
  cases ht <;> simp [bind_ok (hlast (n + 1))]

/-- A simple command on the top level goes behind the commands before it. -/
lemma list_simple {start : Text} {n : Nat} {t : Token} {left : Option Token}
    (ht : EndsSimple t left) {l : Nat} {assignments : List (Text × Word)} {words : List Word}
    {rs : List Redirection}
    (hfirst : rawToken (n + 4) false (.plain aliases line none start) =
      .ok (.word [.literal false name], .plain aliases line none rest))
    (h : simpleFrom (n + 1) line [] [] []
        (.plain aliases line (some (.word [.literal false name])) rest) =
      .ok (.simple l assignments words rs, .plain aliases line' (some t) rest'))
    (mayBeEmpty : Bool) (before : Option Command) :
    list (n + 6) true mayBeEmpty before (.plain aliases line none start) =
      list (n + 5) true true (then? before (.simple l assignments words rs))
        (.plain aliases line' left rest') := by
  have hlast : token (n + 5) Wanted.nothing (.plain aliases line' (some t) rest') =
      .ok (t, .plain aliases line' none rest') := token_nothing (rawToken_pushed t _)
  rw [list.eq_def]
  simp only [bind_ok (token_name hname.not_keyword hname.not_alias _ hfirst), bind_push,
    Bool.not_true, Bool.false_and, Bool.false_eq_true, if_false, bind_ok (conditions_simple ht h),
    bind_ok hlast]
  cases ht <;> simp

omit hname in
/-- The line break ends the list. -/
lemma list_newline (n : Nat) (mayBeEmpty : Bool) (before : Option Command) :
    list (n + 3) true mayBeEmpty before (.plain aliases line (some .newline) rest) =
      .ok (before, .plain aliases line none rest) := by
  have htoken : token (n + 2) { Wanted.words with newlines := false }
      (.plain aliases line (some .newline) rest) =
        .ok (.newline, .plain aliases line none rest) := by
    rw [token.eq_def]
    simp [bind_ok (rawToken_pushed .newline n)]
  have hdocuments : documents (n + 2) (.plain aliases line none rest) =
      .ok ((), .plain aliases line none rest) := by
    rw [documents.eq_def]
    simp
  rw [list.eq_def]
  simp only [Bool.not_true, bind_ok htoken, bind_ok hdocuments, pure_apply]

end Grammar

/-- The name of the command that prints. -/
def printer : Text := "printf".toList

/-- The format of the sentinel. -/
def sentinelFormat : Text := "\\n%s\\n".toList

/-- The redirections with which a command prints on a stream. -/
def printingOn : Session.Stream → List Redirection
  | .out => []
  | .err => [(1, .copy 2)]

/-- The command that prints a token on a stream. -/
def printing (line : Nat) (token : Text) (stream : Session.Stream) : Command :=
  .simple line [] [[.literal false printer], [.mark, .literal true sentinelFormat],
    [.literal false token]] (printingOn stream)

/-- What the sentinel is read as. -/
def sentinelCommand (line : Nat) (token : Text) : Command :=
  .sequence (printing line token .out) (printing line token .err)

namespace Grammar
open Parse

lemma isCommandName_printer (h : aliases.lookup printer = none) : IsCommandName aliases printer :=
  ⟨by decide, List.all_eq_true.1 (by decide), by decide, h⟩

/-- The words behind the name. -/
def printedWords (token : Text) : List (Text × Word) :=
  [('\'' :: sentinelFormat ++ ['\''], [.mark, .literal true sentinelFormat]),
    (token, [.literal false token])]

/-- What stands behind the name, up to what ends the command. -/
def printedText (token : Text) : Text := (printedWords token).flatMap fun x => ' ' :: x.1

variable {token : Text} (hne : token ≠ []) (ht : ∀ d ∈ token, isNameChar d = true)
include hne ht

lemma spells_printedWords : ∀ x ∈ printedWords token, Spells x.1 x.2 := by
  simp only [printedWords, List.forall_mem_cons]
  exact ⟨.quotes (by decide) (by decide) (by decide) (by decide), .name hne ht, by simp⟩

/-- One part of the sentinel is read up to what ends it. -/
lemma simpleFrom_printing (ha : aliases.lookup printer = none) {n : Nat}
    (hn : token.length + 13 < n) (hc : Ends c) (start : Nat) :
    simpleFrom (n + 3) start [] [] []
        (.plain aliases line (some (.word [.literal false printer]))
          (printedText token ++ c :: rest)) =
      simpleFrom n start [] [[.literal false token], [.mark, .literal true sentinelFormat],
        [.literal false printer]] [] (.plain aliases line none (c :: rest)) := by
  refine simpleFrom_name (isCommandName_printer ha) (spells_printedWords hne ht) hc ?_ (by omega)
    start
  have hformat : ('\'' :: sentinelFormat ++ ['\'']).length = 8 := by decide
  simp only [printedWords, List.forall_mem_cons, hformat]
  exact ⟨by omega, by omega, by simp⟩

lemma simpleFrom_printing_out (ha : aliases.lookup printer = none) {n : Nat}
    (hn : token.length + 13 < n) (line : Nat) (rest : Text) :
    simpleFrom (n + 3) line [] [] []
        (.plain aliases line (some (.word [.literal false printer]))
          (printedText token ++ ';' :: ' ' :: rest)) =
      .ok (printing line token .out, .plain aliases line (some .semicolon) (' ' :: rest)) := by
  obtain ⟨n, rfl⟩ : ∃ m, n = m + 3 := ⟨n - 3, by omega⟩
  rw [simpleFrom_printing hne ht ha hn ends_semicolon]
  exact simpleFrom_ends .semicolon (List.cons_ne_nil _ _) line [] (rawToken_semicolon _)

lemma simpleFrom_printing_err (ha : aliases.lookup printer = none) {n : Nat}
    (hn : token.length + 13 < n) (line : Nat) (rest : Text) :
    simpleFrom (n + 3) line [] [] []
        (.plain aliases line (some (.word [.literal false printer]))
          (printedText token ++ ' ' :: '>' :: '&' :: '2' :: '\n' :: rest)) =
      .ok (printing line token .err, .plain aliases (line + 1) (some .newline) rest) := by
  obtain ⟨n, rfl⟩ : ∃ m, n = m + 7 := ⟨n - 7, by omega⟩
  rw [simpleFrom_printing hne ht ha hn ends_space]
  exact simpleFrom_copy (List.cons_ne_nil _ _) line n

/-- The whole line of the sentinel is one command. -/
theorem list_sentinel (ha : aliases.lookup printer = none) (hlen : token.length + 30 < most) :
    list most true false none (.plain aliases line none (printer ++ (printedText token ++
        ';' :: ' ' :: (printer ++ (printedText token ++
          ' ' :: '>' :: '&' :: '2' :: '\n' :: rest))))) =
      .ok (some (sentinelCommand line token), .plain aliases (line + 1) none rest) := by
  obtain ⟨n, hn⟩ : ∃ n, most = n + 30 := ⟨most - 30, by omega⟩
  have hname := isCommandName_printer ha
  have hword : ∀ (m : Nat) (t : Text),
      rawToken (m + 10) false (.plain aliases line none (printer ++ (printedText token ++ t))) =
        .ok (.word [.literal false printer], .plain aliases line none (printedText token ++ t)) :=
    fun m t => rawToken_spells (.name hname.ne_nil hname.isNameChar) ends_space (by simp [printer])
  have hspace : ∀ (m : Nat) (t : Text),
      rawToken (m + 11) false
          (.plain aliases line none (' ' :: (printer ++ (printedText token ++ t)))) =
        .ok (.word [.literal false printer], .plain aliases line none (printedText token ++ t)) :=
    fun m t => (rawToken_space _).trans (hword m t)
  have hroom : token.length + 13 < n + 21 := by omega
  have hfirst := simpleFrom_printing_out hne ht ha (Nat.lt_succ_of_lt hroom) line
  have hsecond := simpleFrom_printing_err hne ht ha hroom line rest
  rw [hn, list_simple hname .semicolon (hword _ _) (hfirst _),
    list_simple hname .newline (hspace _ _) hsecond, list_newline]
  rfl

end Grammar

/-- The sentinel prints the token once for each stream. -/
lemma sentinelFor_shell (token : Text) : Session.Spec.shell.sentinelFor token =
    printer ++ (Grammar.printedText token ++
      ';' :: ' ' :: (printer ++ (Grammar.printedText token ++ " >&2".toList))) := by
  have hn : Session.Spec.placeholder ≠ [] := by decide
  have hfirst : Text.breakOn Session.Spec.placeholder Session.Spec.shell.sentinel =
      some ("printf '\\n%s\\n' ".toList, "; printf '\\n%s\\n' \x7btoken\x7d >&2".toList) := by
    decide
  have hsecond : Text.breakOn Session.Spec.placeholder
      "; printf '\\n%s\\n' \x7btoken\x7d >&2".toList =
        some ("; printf '\\n%s\\n' ".toList, " >&2".toList) := by
    decide
  have hlast : Text.breakOn Session.Spec.placeholder " >&2".toList = none := by decide
  rw [Session.Spec.sentinelFor, Text.replaceAll_of_breakOn hn hfirst,
    Text.replaceAll_of_breakOn hn hsecond, Text.replaceAll_of_none hlast]
  simp [printer, Grammar.printedText, Grammar.printedWords, sentinelFormat]

namespace Reader

/-- A reader in front of a command, of which more may come. -/
structure Waits (r : Reader) : Prop where
  segments : r.segments = []
  closed : r.closed = false
  afterBlank : r.afterBlank = false
  ending : r.ending = none

lemma waits_plain : (plain aliases line pushed rest).Waits := ⟨rfl, rfl, rfl, rfl⟩

namespace Waits
variable {r : Reader} (h : r.Waits)
include h

/-- A command is read in a plain script. -/
lemma complete_eq : Grammar.complete { r with aliases, known := [] } =
    (Grammar.list Parse.most true false none >>= fun found => do
      match found, (← get).pushed with
      | some c, _ => return .command c
      | none, some _ => return .ended
      | none, none => return .blank) (plain aliases r.line none r.rest) := by
  obtain ⟨segments, rest, line, closed, aliases', pushed, afterBlank, awaited, documents, ending,
    found, known⟩ := r
  obtain ⟨rfl, rfl, rfl, rfl⟩ := h
  rfl

lemma next_of_list {c : Command} {line' : Nat} {rest' : Text}
    (hl : Grammar.list Parse.most true false none (plain aliases r.line none r.rest) =
      .ok (some c, plain aliases line' none rest')) :
    r.next aliases = .ok (.command c, plain aliases line' none rest') := by
  rw [next, Grammar.passes, Grammar.withDocuments, h.complete_eq, Parse.bind_ok hl]
  rfl

/-- The line of the sentinel is read as the command that prints the token. -/
theorem next_sentinel {token : Text} (hne : token ≠ []) (ht : ∀ d ∈ token, isNameChar d = true)
    (hlen : token.length + 30 < Parse.most) (ha : aliases.lookup printer = none)
    (hr : r.rest = Session.Spec.shell.sentinelFor token ++ '\n' :: rest) :
    r.next aliases =
      .ok (.command (sentinelCommand r.line token), plain aliases (r.line + 1) none rest) := by
  have hrest : r.rest = printer ++ (Grammar.printedText token ++
      ';' :: ' ' :: (printer ++ (Grammar.printedText token ++
        ' ' :: '>' :: '&' :: '2' :: '\n' :: rest))) := by
    simp [hr, sentinelFor_shell]
  refine h.next_of_list ?_
  rw [hrest]
  exact Grammar.list_sentinel hne ht ha hlen

/-- Nothing is read where nothing has come yet. -/
theorem next_nil (hr : r.rest = []) : r.next aliases = .error .unfinished := by
  obtain ⟨n, hn⟩ : ∃ n, Parse.most = n + 3 := ⟨9999997, rfl⟩
  have hraw : Grammar.rawToken (n + 1) false (plain aliases r.line none []) =
      .error .unfinished := by
    rw [Grammar.rawToken.eq_def]
    rfl
  have htoken : ∀ wanted, Grammar.token (n + 2) wanted (plain aliases r.line none []) =
      .error .unfinished := by
    intro wanted
    rw [Grammar.token.eq_def]
    simp only [Grammar.bind_takeBlank, Parse.bind_error hraw]
  have hlist : Grammar.list Parse.most true false none (plain aliases r.line none []) =
      .error .unfinished := by
    rw [hn, Grammar.list.eq_def]
    simp only [Parse.bind_error (htoken _)]
  rw [next, Grammar.passes, Grammar.withDocuments, h.complete_eq, hr, Parse.bind_error hlist]

end Waits

end Reader

end Exemplar.Shell
