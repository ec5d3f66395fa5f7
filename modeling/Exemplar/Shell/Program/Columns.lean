import Exemplar.Shell.Format
import Exemplar.Shell.Program.Lines

/-!
# Programs for columns and characters

Programs that cut lines into fields, put lines together, and replace characters.
-/
namespace Exemplar.Shell.Program
open Text
open Builtin (Given)

/-- Positions from one to another; without an end they go on. -/
structure Span where
  first : Nat
  last : Option Nat

/-- One part of a list such as `1,3-5`. -/
def Span.read (kind : String) (t : Text) : Except Text Span :=
  let numbered := (kind ++ " are numbered from 1").toList
  let number := fun (t : Text) => match natOf? t with
    | some 0 => (.error numbered : Except Text Nat)
    | some n => .ok n
    | none =>
      let what := if kind = "fields" then "field" else "byte/character"
      let shown := if kind = "fields" then "value" else "position"
      .error (if kind = "fields" then ("invalid " ++ what ++ " " ++ shown ++ " ").toList ++ inQuotes t
        else "invalid byte or character range".toList)
  match splitBy (· == '-') t with
  | [a] => do
    let n ← if a.isEmpty then .error numbered else number a
    return ⟨n, some n⟩
  | [[], []] => .error "invalid range with no endpoint: -".toList
  | [a, []] => do return ⟨← number a, none⟩
  | [[], b] => do return ⟨1, some (← number b)⟩
  | [a, b] => do
    let first ← number a
    let last ← number b
    if last < first then .error "invalid decreasing range".toList else return ⟨first, some last⟩
  | _ => .error (if kind = "fields" then "invalid field range".toList
      else "invalid byte or character range".toList)

def spans (kind : String) (t : Text) : Except Text (List Span) :=
  (splitBy (fun c => c == ',' || c == ' ') t).mapM (Span.read kind)

def covers (found : List Span) (n : Nat) : Bool :=
  found.any fun s => s.first ≤ n && (match s.last with
    | some m => n ≤ m
    | none => true)

/-- The members of a list at positions that satisfy a condition. -/
def pick {α : Type} (wanted : Nat → Bool) (xs : List α) : List α :=
  (xs.zip (List.range xs.length)).filterMap fun x => if wanted (x.2 + 1) then some x.1 else none

/-- Neighbouring positions that are wanted, run by run. -/
def pickRuns (wanted : Nat → Bool) (found : List Span) (t : Text) : List Text :=
  let marked := t.zip (List.range t.length)
  let x := marked.foldl (fun (x : List Text × Bool) c =>
    let n := c.2 + 1
    if !wanted n then (x.1, false)
    else
      let begins := !x.2 || found.any fun s => s.first = n && !found.any fun r =>
        decide (r.first < n) && (match r.last with
          | some m => decide (n ≤ m)
          | none => true)
      match x.1 with
      | r :: rs => if begins then ([c.1] :: r :: rs, true) else ((c.1 :: r) :: rs, true)
      | [] => ([[c.1]], true)) ([], false)
  (x.1.map List.reverse).reverse

def cut : Action := fun args s =>
  withOptions 1 ⟨"b:c:f:d:sno:Cz", [("zero-terminated", 'z'), ("bytes", 'b'), ("characters", 'c'), ("fields", 'f'),
    ("delimiter", 'd'), ("only-delimited", 's'), ("output-delimiter", 'o'), ("complement", 'C')],
    false⟩ args s fun g s =>
    let asked := g.options.filter fun o => o.1 == 'b' || o.1 == 'c' || o.1 == 'f'
    match asked with
    | [] => misused 1 "you must specify a list of bytes, characters, or fields".toList s
    | [(letter, list)] =>
      let kind := if letter = 'f' then "fields" else "byte/character positions"
      let delimiter := (g.value? 'd').getD ['\t']
      if letter ≠ 'f' && g.has 'd' then
        misused 1 "an input delimiter may be specified only when operating on fields".toList s
      else if letter ≠ 'f' && g.has 's' then
        misused 1 "suppressing non-delimited lines makes sense\n\tonly when operating on fields".toList s
      else if delimiter.length > 1 then
        misused 1 "the delimiter must be a single character".toList s
      else match spans kind list with
        | .error message => misused 1 message s
        | .ok found =>
          let wanted := fun n => covers found n != g.has 'C'
          let d := delimiter.head?.getD '\x00'
          let line := fun (l : Text) =>
            if letter = 'f' then
              let fields := splitBy (· == d) l
              if fields.length = 1 then if g.has 's' then none else some l
              else some (((pick wanted fields).intersperse ((g.value? 'o').getD [d])).flatten)
            else match g.value? 'o' with
              | some o => some (((pickRuns wanted found l).intersperse o).flatten)
              | none => some (pick wanted l)
          let (t, s) := allInput plainTrouble 1 g.operands (s.withStatus 0)
          print (withEnds g (unlines ((linesOf (withEnds g t)).filterMap line))) s
    | _ => misused 1 "only one list may be specified".toList s

/-- The characters of a list of delimiters. -/
def delimiters : Text → List Text
  | '\\' :: c :: r =>
    (match c with
      | 'n' => ['\n']
      | 't' => ['\t']
      | '0' => []
      | c => [c]) :: delimiters r
  | c :: r => [c] :: delimiters r
  | [] => []

/-- Parts joined by delimiters in turn. -/
def joinedBy (ds : List Text) : Nat → List Text → Text
  | _, [] => []
  | _, [t] => t
  | n, t :: ts => t ++ (ds[n % ds.length]?).getD [] ++ joinedBy ds (n + 1) ts

/-- Rows of columns that may differ in length. -/
def rows : Nat → List (List Text) → List (List Text)
  | 0, _ => []
  | fuel + 1, columns =>
    if columns.all List.isEmpty then []
    else columns.map (fun c => c.head?.getD []) :: rows fuel (columns.map List.tail)

/-- Deal lines out to so many columns that read the same input. -/
def deal (count : Nat) (ls : List Text) : List (List Text) :=
  (List.range count).map fun k =>
    (ls.zip (List.range ls.length)).filterMap fun x => if x.2 % count = k then some x.1 else none

def paste : Action := fun args s =>
  withOptions 1 ⟨"d:sz", [("delimiters", 'd'), ("serial", 's'), ("zero-terminated", 'z')], false⟩ args s fun g s =>
    let ds := delimiters ((g.value? 'd').getD ['\t'])
    let ds := if ds.isEmpty then [[]] else ds
    let paths := if g.operands.isEmpty then [['-']] else g.operands
    let dashes := (paths.filter fun p => p = ['-']).length
    let shared := dashes > 1 && !g.has 's'
    let x := paths.foldl (fun (x : List (List Text) × Nat × Option (List (List Text)) × State) p =>
      let (columns, seen, dealt, s) := x
      if s.status ≠ 0 then x
      else if shared && p = ['-'] && dealt.isSome then
        (columns ++ [((dealt.getD [])[seen]?).getD []], seen + 1, dealt, s)
      else match content p s with
        | (.ok t, s) =>
          if shared && p = ['-'] then
            let dealt := deal dashes (linesOf (withEnds g t))
            (columns ++ [dealt.head?.getD []], 1, some dealt, s)
          else (columns ++ [linesOf (withEnds g t)], seen, dealt, s)
        | (.error e, s) => (columns, seen, dealt, fail 1 (plainTrouble p e) s))
      ([], 0, none, s.withStatus 0)
    let (columns, _, _, s) := x
    if g.has 's' then print (withEnds g (unlines (columns.map (joinedBy ds 0)))) s
    else if s.status ≠ 0 then s
    else
      let most := columns.foldl (fun n c => max n c.length) 0
      print (withEnds g (unlines ((rows most columns).map (joinedBy ds 0)))) s

/-- A character of a set, where backslash sequences are carried out. -/
def setChar : Text → Option (Char × Text)
  | [] => none
  | ['\\'] => some ('\\', [])
  | '\\' :: c :: r =>
    if Format.isOctal c then
      let digits := ((c :: r).take 3).takeWhile Format.isOctal
      let n := (Arithmetic.natOf? 8 digits).getD 0
      if n > 255 then
        let digits := digits.take 2
        some (Format.byte ((Arithmetic.natOf? 8 digits).getD 0), (c :: r).drop 2)
      else some (Format.byte n, (c :: r).drop digits.length)
    else some (((Format.simpleEscape? c).filter fun _ => c ≠ 'e').getD c, r)
  | c :: r => some (c, r)

/-- A part of a set of characters. -/
inductive SetPart
  | chars (t : Text)
  | named (name : Text)
  /-- A character repeated; without a count as often as needed. -/
  | repeated (c : Char) (count : Option Nat)

/-- A part that begins with a bracket. -/
def bracketPart? (t : Text) : Option (Except Text SetPart × Text) :=
  match t with
  | '[' :: ':' :: r =>
    let name := r.takeWhile Char.isAlpha
    match r.drop name.length with
    | ':' :: ']' :: rest =>
      if Range.classNames.contains (String.ofList name) then some (.ok (.named name), rest)
      else some (.error ("invalid character class ".toList ++ inQuotes name), rest)
    | _ => none
  | '[' :: '=' :: c :: '=' :: ']' :: rest => some (.ok (.chars [c]), rest)
  | '[' :: r =>
    match setChar r with
    | some (c, '*' :: r) =>
      let digits := r.takeWhile Char.isDigit
      match r.drop digits.length with
      | ']' :: rest =>
        let base := if digits.head? = some '0' then 8 else 10
        let count := (Arithmetic.natOf? base digits).bind fun n => if n = 0 then none else some n
        some (.ok (.repeated c count), rest)
      | _ => none
    | _ => none
  | _ => none

def setParts : Nat → Text → Except Text (List SetPart)
  | 0, _ => .ok []
  | fuel + 1, t =>
    match bracketPart? t with
    | some (part, rest) => do return (← part) :: (← setParts fuel rest)
    | none =>
      match setChar t with
      | none => .ok []
      | some (a, '-' :: r) =>
        match setChar r with
        | some (b, rest) =>
          if b < a then
            .error ("range-endpoints of '".toList ++ [a, '-', b] ++
              "' are in reverse collating sequence order".toList)
          else
            let range := (List.range (b.toNat + 1 - a.toNat)).map fun i => Char.ofNat (a.toNat + i)
            do return .chars range :: (← setParts fuel rest)
        | none => .ok [.chars [a, '-']]
      | some (a, rest) => do return .chars [a] :: (← setParts fuel rest)

def allBytes : Text := (List.range 256).map Char.ofNat

def SetPart.expand (filling : Nat) : SetPart → Text
  | chars t => t
  | named name => allBytes.filter (Range.inClass name)
  | repeated c count => List.replicate (count.getD filling) c

/-- The characters of a set; a repetition without a count fills up to a length. -/
def expandSet (length : Nat) (parts : List SetPart) : Text :=
  let fixed := (parts.flatMap fun p => p.expand 0).length
  parts.flatMap (SetPart.expand (length - fixed))

def isAmong (set : Text) (c : Char) : Bool := set.any (· == c)

/-- Drop repetitions of neighbours in a set. -/
def squeeze (set : Text) : Text → Text
  | c :: d :: r =>
    if c = d && isAmong set c then squeeze set (d :: r) else c :: squeeze set (d :: r)
  | t => t

def trOptions : Known :=
  ⟨"cCdst", [("complement", 'c'), ("delete", 'd'), ("squeeze-repeats", 's'),
    ("truncate-set1", 't')], true⟩

/-- What is wrong with the number of sets. -/
def setsTrouble? (deletes squeezes : Bool) (sets : List Text) : Option Text :=
  let least := if deletes == squeezes then 2 else 1
  let most := if deletes && !squeezes then 1 else 2
  match sets with
  | [] => some "missing operand".toList
  | [a] =>
    if least ≤ 1 then none
    else
      let why := if deletes then "Two strings must be given when both deleting and squeezing repeats."
        else "Two strings must be given when translating."
      some ("missing operand after ".toList ++ inQuotes a ++ ('\n' :: why.toList))
  | [_, b] =>
    if most ≥ 2 then none
    else some ("extra operand ".toList ++ inQuotes b ++
      "\nOnly one string may be given when deleting without squeezing repeats.".toList)
  | _ :: _ :: c :: _ => some ("extra operand ".toList ++ inQuotes c)

def translate (g : Given) (first second : List SetPart) (isTranslating : Bool) (t : Text) : Text :=
  let complement := g.has 'c' || g.has 'C'
  let given := expandSet 0 first
  let one := if complement then allBytes.filter fun c => !isAmong given c else given
  let two := expandSet one.length second
  if g.has 'd' then
    let kept := t.filter fun c => !isAmong one c
    if g.has 's' then squeeze two kept else kept
  else if !isTranslating then squeeze one t
  else
    let swap := fun (c : Char) =>
      match (List.zip one (List.range one.length)).reverse.lookup c with
      | some i =>
        if g.has 't' && i ≥ two.length then c else (two[i]?).getD (two.getLast?.getD c)
      | none => c
    let table := allBytes.map swap
    let swapped := t.map fun c => (table[c.toNat]?).getD c
    if g.has 's' then squeeze two swapped else swapped

def tr : Action := fun args s =>
  withOptions 1 trOptions args s fun g s =>
    match setsTrouble? (g.has 'd') (g.has 's') g.operands with
    | some message => misused 1 message s
    | none =>
      let parsed := g.operands.mapM fun t => setParts (t.length + 1) t
      match parsed with
      | .error message => fail 1 message s
      | .ok sets =>
        let second := (sets[1]?).getD []
        let isTranslating := sets.length = 2 && !g.has 'd'
        if isTranslating && !g.has 't' && (expandSet 1 second).isEmpty then
          fail 1 "when not truncating set1, string2 must be non-empty".toList s
        else
          let (t, s) := allInput plainTrouble 1 [] (s.withStatus 0)
          print (translate g (sets.head?.getD []) second isTranslating t) s

end Exemplar.Shell.Program
