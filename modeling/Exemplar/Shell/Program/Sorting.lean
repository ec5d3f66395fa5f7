import Exemplar.Shell.Program.Columns

/-!
# Programs that order and compare lines

Lines are ordered by keys, and by all their bytes where the keys are equal. Repeated
neighbours are put together, and ordered files are compared.
-/
namespace Exemplar.Shell.Program
open Text Number
open Builtin (Given)

/-- A part of a line by which it is ordered. Fields and characters are counted from zero. -/
structure Key where
  field : Nat
  char : Nat
  /-- The field and the character behind the key; zero characters stand for the field. -/
  ends : Option (Nat × Nat)
  /-- Blanks in front of the beginning or the end do not count. -/
  skipsFront : Bool
  skipsBack : Bool
  flags : Text

def isBlank (c : Char) : Bool := c == ' ' || c == '\t'

/-- What is left of a text behind so many fields. -/
def afterFields (tab : Option Char) : Nat → Text → Text
  | 0, t => t
  | n + 1, t =>
    match tab with
    | some d => afterFields tab n ((t.dropWhile (· != d)).drop 1)
    | none => afterFields tab n ((t.dropWhile isBlank).dropWhile fun c => !isBlank c)

/-- The key of a line. -/
def Key.of (tab : Option Char) (k : Key) (line : Text) : Text :=
  let start := afterFields tab k.field line
  let start := if k.skipsFront then start.dropWhile isBlank else start
  let start := start.drop k.char
  match k.ends with
  | none => start
  | some (field, 0) =>
    let rest := afterFields tab field line
    let last := match tab with
      | some d => rest.takeWhile (· != d)
      | none =>
        let blanks := rest.takeWhile isBlank
        blanks ++ (rest.drop blanks.length).takeWhile fun c => !isBlank c
    start.take (start.length - (rest.length - last.length))
  | some (field, char) =>
    let rest := afterFields tab field line
    let rest := if k.skipsBack then rest.dropWhile isBlank else rest
    start.take (start.length - (rest.length - char))

/-- One end of a key, such as `2.3n`: field, character and flags. -/
def keyEnd (t : Text) : Option (Nat × Nat × Text) :=
  let field := t.takeWhile Char.isDigit
  let rest := t.drop field.length
  match natOf? field, rest with
  | some f, '.' :: r =>
    let char := r.takeWhile Char.isDigit
    (natOf? char).map fun c => (f, c, r.drop char.length)
  | some f, flags => some (f, 0, flags)
  | none, _ => none

def Key.read (t : Text) : Option Key :=
  let front := t.takeWhile (· != ',')
  let back := t.drop (front.length + 1)
  match keyEnd front with
  | none => none
  | some (f, c, flags) =>
    if f = 0 then none
    else if back.isEmpty then some ⟨f - 1, c - 1, none, flags.any (· == 'b'), false, flags⟩
    else (keyEnd back).map fun (g, d, more) =>
      ⟨f - 1, c - 1, some (g - 1, d), flags.any (· == 'b'), more.any (· == 'b'), flags ++ more⟩

/-- A decimal number as a whole number and the places of its fraction. -/
def decimal (t : Text) : Int × Nat :=
  let t := t.dropWhile isBlank
  let (negative, r) := match t with
    | '-' :: r => (true, r)
    | r => (false, r)
  let whole := r.takeWhile Char.isDigit
  let part := match r.drop whole.length with
    | '.' :: r => r.takeWhile Char.isDigit
    | _ => []
  let n : Int := ((natOf? (whole ++ part)).getD 0 : Nat)
  (if negative then -n else n, part.length)

/-- The power of ten behind a number, such as the one in `1e3`. -/
def powerOf (t : Text) : Int :=
  let rest := (t.dropWhile isBlank).dropWhile fun c => c.isDigit || c == '.' || c == '-'
  let number := fun (sign : Int) (r : Text) =>
    sign * ((natOf? ((r.takeWhile Char.isDigit).take 4)).getD 0 : Nat)
  match rest with
  | e :: '-' :: r => if e.toLower = 'e' then number (-1) r else 0
  | e :: '+' :: r => if e.toLower = 'e' then number 1 r else 0
  | e :: r => if e.toLower = 'e' then number 1 r else 0
  | [] => 0

/-- Compare numbers that may have powers of ten; what is none stands in front. -/
def compareScientific (a b : Text) : Ordering :=
  let plain := fun (t : Text) => match t.dropWhile isBlank with
    | '+' :: r => r
    | r => r
  let (a, b) := (plain a, plain b)
  let isNumber := fun (t : Text) =>
    let t := if t.head? = some '-' then t.tail else t
    match t with
    | '.' :: c :: _ => c.isDigit
    | c :: _ => c.isDigit
    | [] => false
  let (m, i) := decimal a
  let (n, j) := decimal b
  let (x, y) := (powerOf a - i, powerOf b - j)
  (compare (isNumber a) (isNumber b)).then
    (compare (m * (tenTo (x - y).toNat : Int)) (n * (tenTo (y - x).toNat : Int)))

def compareDecimals (a b : Text) : Ordering :=
  let (m, i) := decimal a
  let (n, j) := decimal b
  compare (m * (tenTo j : Int)) (n * (tenTo i : Int))

/-- The power that the letter behind a number stands for. -/
def unitOf (t : Text) : Nat :=
  let rest := (t.dropWhile isBlank).dropWhile fun c => c.isDigit || c == '.' || c == '-'
  match rest.head? with
  | some c => (("KMGTPEZY".toList.takeWhile (· != c.toUpper)).length + 1) % 9
  | none => 0

def compareSizes (a b : Text) : Ordering :=
  let sign := fun (t : Text) => compare (decimal t).1 0
  match compare (sign a == .gt) (sign b == .gt), sign a, sign b with
  | .eq, .gt, .gt => (compare (unitOf a) (unitOf b)).then (compareDecimals a b)
  | .eq, .lt, .lt => (compare (unitOf b) (unitOf a)).then (compareDecimals a b)
  | _, _, _ => compareDecimals a b

def monthOf (t : Text) : Nat :=
  let name := String.ofList (((t.dropWhile isBlank).take 3).map Char.toUpper)
  let months := ["JAN", "FEB", "MAR", "APR", "MAY", "JUN", "JUL", "AUG", "SEP", "OCT", "NOV", "DEC"]
  if months.contains name then (months.takeWhile (· != name)).length + 1 else 0

/-- Compare texts in which numbers count as numbers. -/
def compareVersions : Nat → Text → Text → Ordering
  | 0, _, _ => .eq
  | _ + 1, [], [] => .eq
  | _ + 1, [], _ :: _ => .lt
  | _ + 1, _ :: _, [] => .gt
  | fuel + 1, a :: s, b :: t =>
    if a.isDigit && b.isDigit then
      let x := (a :: s).takeWhile Char.isDigit
      let y := (b :: t).takeWhile Char.isDigit
      (compare ((natOf? x).getD 0) ((natOf? y).getD 0)).then
        (compareVersions fuel ((a :: s).drop x.length) ((b :: t).drop y.length))
    else
      let weight := fun (c : Char) =>
        if c = '~' then 0 else if c.isDigit then 1 else if c.isAlpha then c.toNat + 2
        else c.toNat + 300
      (compare (weight a) (weight b)).then (compareVersions fuel s t)

def compareTexts (a b : Text) : Ordering :=
  if a = b then .eq else if before a b then .lt else .gt

/-- Compare keys in the manner of their flags. -/
def compareKeys (flags a b : Text) : Ordering :=
  let has := fun (c : Char) => flags.any (· == c)
  let seen := fun (t : Text) =>
    let t := if has 'd' then t.filter fun c => c.isAlphanum || isBlank c else t
    let t := if has 'i' then t.filter fun c => ' ' ≤ c && c ≤ '~' else t
    if has 'f' then t.map Char.toUpper else t
  let found :=
    if has 'n' then compareDecimals a b
    else if has 'g' then compareScientific a b
    else if has 'h' then compareSizes a b
    else if has 'M' then compare (monthOf a) (monthOf b)
    else if has 'V' then compareVersions (a.length + b.length + 1) a b
    else compareTexts (seen a) (seen b)
  if has 'r' then found.swap else found

def orderings : Text := "bdfgiMnrhV".toList

/-- How options compare two lines, with and without the last resort. -/
structure LineOrder where
  byKeys : Text → Text → Ordering
  whole : Text → Text → Ordering

def LineOrder.of (g : Given) (keys : List Key) : LineOrder :=
  let tab := (g.value? 't').bind fun t => if t = "\\0".toList then some '\x00' else t.head?
  let common := (g.options.map Prod.fst).filter fun c => orderings.any (· == c)
  let byKeys := fun (a b : Text) =>
    if keys.isEmpty then
      let trim := fun (t : Text) => if common.any (· == 'b') then t.dropWhile isBlank else t
      compareKeys common (trim a) (trim b)
    else keys.foldl (fun found k =>
      found.then
        (let own := k.flags.any fun c => orderings.any (· == c)
         let flags := if own then k.flags else common
         let k := if own then k else
          { k with skipsFront := common.any (· == 'b'), skipsBack := common.any (· == 'b') }
         compareKeys flags (k.of tab a) (k.of tab b))) .eq
  let last := fun (a b : Text) =>
    let found := compareTexts a b
    if common.any (· == 'r') then found.swap else found
  ⟨byKeys, fun a b => if g.has 's' || g.has 'u' then byKeys a b else (byKeys a b).then (last a b)⟩

/-- Only the first of lines that are equal. -/
def firstsOf (byKeys : Text → Text → Ordering) : List Text → List Text
  | a :: b :: ls =>
    if byKeys a b = .eq then firstsOf byKeys (a :: ls) else a :: firstsOf byKeys (b :: ls)
  | ls => ls
termination_by ls => ls.length

/-- The first line that stands behind a greater one, with its number. -/
def disorder? (follows : Text → Text → Bool) : Nat → List Text → Option (Nat × Text)
  | n, a :: b :: ls => if follows a b then disorder? follows (n + 1) (b :: ls) else some (n + 1, b)
  | _, _ => none

def sortOptions : Known :=
  ⟨"bcCdfghik:mMno:rRsS:t:T:uVz", [("numeric-sort", 'n'), ("reverse", 'r'), ("unique", 'u'),
    ("key", 'k'), ("field-separator", 't'), ("ignore-case", 'f'), ("output", 'o'), ("check", 'c'),
    ("ignore-leading-blanks", 'b'), ("stable", 's'), ("human-numeric-sort", 'h'),
    ("general-numeric-sort", 'g'), ("version-sort", 'V'), ("month-sort", 'M'), ("merge", 'm'),
    ("dictionary-order", 'd')], false⟩

def sort : Action := fun args s =>
  withOptions 2 sortOptions args s fun g s =>
    let asked := g.options.filter fun o => o.1 == 'k'
    match asked.find? fun o => (Key.read o.2).isNone with
    | some (_, t) =>
      let cause := if t.head? = some '0' then "field number is zero: invalid field specification "
        else "invalid number at field start: invalid count at start of "
      fail 2 (cause.toList ++ inQuotes t) s
    | none =>
      let order := LineOrder.of g (asked.filterMap fun o => Key.read o.2)
      let trouble : Trouble := fun path cause => "cannot read: ".toList ++ path ++ ": ".toList ++ cause
      let wrongTab := match g.value? 't' with
        | some t => t.length ≠ 1 && t ≠ "\\0".toList
        | none => false
      if wrongTab then
        let t := (g.value? 't').getD []
        if t.isEmpty then fail 2 "empty tab".toList s
        else fail 2 ("multi-character tab ".toList ++ inQuotes t) s
      else
        let found := (if g.operands.isEmpty then [['-']] else g.operands).foldl
          (fun (x : List (List Text) × State) path =>
            if x.2.status ≠ 0 || !x.2.goesOn then x
            else match content path x.2 with
              | (.ok t, s) => (linesOf (withEnds g t) :: x.1, s)
              | (.error e, s) =>
                let shown := if e = "Is a directory".toList then
                    "read failed: ".toList ++ path ++ ": ".toList ++ e
                  else trouble path e
                (x.1, fail 2 shown s)) ([], s.withStatus 0)
        let s := found.2
        if s.status ≠ 0 || !s.goesOn then s
        else
          let ls := found.1.reverse.flatten
          if g.has 'c' || g.has 'C' then
            let follows := fun (a b : Text) =>
              if g.has 'u' then order.byKeys a b == .lt else order.whole a b != .gt
            match disorder? follows 1 ls with
            | none => s
            | some (n, l) =>
              let path := g.operands.head?.getD ['-']
              if g.has 'C' then s.withStatus 1
              else fail 1 (path ++ ':' :: ofNat n ++ ": disorder: ".toList ++ l) s
          else
            let sorted := ls.mergeSort fun a b => order.whole a b != .gt
            let t := withEnds g
              (unlines (if g.has 'u' then firstsOf order.byKeys sorted else sorted))
            match g.value? 'o' with
            | none => print t s
            | some path =>
              match Opening.forWriting true false path s with
              | .ok (c, s) => s.writeTo c t
              | .error e => fail 2 ("open failed: ".toList ++ path ++ ": ".toList ++ e.toList) s

/-- Runs of neighbours with equal keys. -/
def runsBy (key : Text → Text) : List Text → List (Nat × Text)
  | [] => []
  | l :: ls =>
    match runsBy key ls with
    | (n, m) :: more => if key l = key m then (n + 1, l) :: more else (1, l) :: (n, m) :: more
    | [] => [(1, l)]

def uniq : Action := fun args s =>
  withOptions 1 ⟨"cdDuif:s:w:z", [("count", 'c'), ("repeated", 'd'), ("unique", 'u'),
    ("ignore-case", 'i'), ("skip-fields", 'f'), ("skip-chars", 's'), ("check-chars", 'w')],
    false⟩ args s fun g s =>
    let number := fun (c : Char) => (g.value? c).bind natOf?
    let key := fun (l : Text) =>
      let t := (afterFields none ((number 'f').getD 0) l).drop ((number 's').getD 0)
      let t := match number 'w' with
        | some n => t.take n
        | none => t
      if g.has 'i' then t.map Char.toLower else t
    let labelled := fun (x : Nat × Text) => if g.has 'c' then column 7 x.1 ++ ' ' :: x.2 else x.2
    let finish := fun (t : Text) (s : State) =>
      let runs := runsBy key (linesOf (withEnds g t))
      let shown := if g.has 'D' then
          let ls := linesOf (withEnds g t)
          let counts := runs.flatMap fun x => List.replicate x.1 x.1
          ((ls.zip counts).filter fun x => x.2 > 1).map Prod.fst
        else (runs.filter fun x => (!g.has 'd' || x.1 > 1) && (!g.has 'u' || x.1 == 1)).map labelled
      match g.operands with
      | [_, target] =>
        match Opening.forWriting true false target s with
        | .ok (c, s) => s.writeTo c (withEnds g (unlines shown))
        | .error e => fail 1 (target ++ ": ".toList ++ e.toList) s
      | _ => print (withEnds g (unlines shown)) s
    match g.operands with
    | _ :: _ :: extra :: _ => misused 1 ("extra operand ".toList ++ inQuotes extra) s
    | files => eachInput plainTrouble 1 (files.take 1) (s.withStatus 0) fun _ t s => finish t s

/-- Lines by the file they are in: one, two, or three for both. -/
def merge : Nat → List Text → List Text → List (Nat × Text)
  | 0, _, _ => []
  | _ + 1, [], bs => bs.map fun b => (2, b)
  | _ + 1, as, [] => as.map fun a => (1, a)
  | fuel + 1, a :: as, b :: bs =>
    match compareTexts a b with
    | .eq => (3, a) :: merge fuel as bs
    | .lt => (1, a) :: merge fuel as (b :: bs)
    | .gt => (2, b) :: merge fuel (a :: as) bs

def comm : Action := fun args s =>
  withOptions 1 (letters "123z") args s fun g s =>
    match g.operands with
    | [a, b] =>
      match content a (s.withStatus 0) with
      | (.error e, s) => fail 1 (plainTrouble a e) s
      | (.ok x, s) =>
        match content b s with
        | (.error e, s) => fail 1 (plainTrouble b e) s
        | (.ok y, s) =>
          let (x, y) := (linesOf x, linesOf y)
          let found := merge (x.length + y.length + 1) x y
          let hides := fun (n : Nat) => g.has (Char.ofNat (n + 48))
          let tabs := fun (n : Nat) =>
            ((List.range n).filter fun k => k ≥ 1 && !hides k).map fun _ => '\t'
          print (unlines (found.filterMap fun l =>
            if hides l.1 then none else some (tabs l.1 ++ l.2))) s
    | [] => misused 1 "missing operand".toList s
    | [a] => misused 1 ("missing operand after ".toList ++ inQuotes a) s
    | _ :: _ :: c :: _ => misused 1 ("extra operand ".toList ++ inQuotes c) s

end Exemplar.Shell.Program
