import Exemplar.Pool
import Mathlib

/-!
# Every schedule of a pool

All that a step can be is told once. Whoever moves, the tasks that were taken are the first
ones, and each of them is in the hands of a worker, on its way, waiting or released. When nobody
can move any more, nothing is left behind: the results of all tasks that were taken are released,
in order, and a task that was not taken stands behind one that asked to stop. Every step uses up
some of a fixed supply, so every schedule ends.
-/
namespace Exemplar

namespace Worker
variable {α : Type}

/-- The task that a worker has in hand. -/
def task? : Worker α → Option Nat
  | working k => some k
  | marking k _ => some k
  | sending k _ => some k
  | _ => none

/-- Steps that a worker can still take before it takes another task, and one for its result. -/
def weight : Worker α → Nat
  | looking => 2
  | claiming => 1
  | working _ => 6
  | marking _ _ => 5
  | sending _ _ => 4
  | gone => 0

end Worker

namespace Pool
variable {α : Type} {tasks : Tasks α} {p q : Pool α}

/-- All that a step can be: a worker among the others goes on, or the receiver does. -/
inductive Moves (tasks : Tasks α) (p : Pool α) : Pool α → Prop
  | look {l₁ l₂ : List (Worker α)} (h : p.workers = l₁ ++ .looking :: l₂)
      (hs : p.stopped = false) : Moves tasks p { p with workers := l₁ ++ .claiming :: l₂ }
  | leave {l₁ l₂ : List (Worker α)} (h : p.workers = l₁ ++ .looking :: l₂)
      (hs : p.stopped = true) : Moves tasks p { p with workers := l₁ ++ .gone :: l₂ }
  | claim {l₁ l₂ : List (Worker α)} (h : p.workers = l₁ ++ .claiming :: l₂)
      (hn : p.next < tasks.count) :
      Moves tasks p { p with next := p.next + 1, workers := l₁ ++ .working p.next :: l₂ }
  | exhaust {l₁ l₂ : List (Worker α)} (h : p.workers = l₁ ++ .claiming :: l₂)
      (hn : tasks.count ≤ p.next) :
      Moves tasks p { p with next := p.next + 1, workers := l₁ ++ .gone :: l₂ }
  | check {l₁ l₂ : List (Worker α)} {k : Nat} (h : p.workers = l₁ ++ .working k :: l₂) :
      Moves tasks p { p with workers := l₁ ++ .marking k (tasks.result k) :: l₂ }
  | mark {l₁ l₂ : List (Worker α)} {k : Nat} {r : α}
      (h : p.workers = l₁ ++ .marking k r :: l₂) :
      Moves tasks p { p with
        stopped := p.stopped || tasks.halts r, workers := l₁ ++ .sending k r :: l₂ }
  | send {l₁ l₂ : List (Worker α)} {k : Nat} {r : α}
      (h : p.workers = l₁ ++ .sending k r :: l₂) :
      Moves tasks p { p with sent := p.sent ++ [(k, r)], workers := l₁ ++ .looking :: l₂ }
  | receive {e : Nat × α} {rest : List (Nat × α)} (h : p.sent = e :: rest) :
      Moves tasks p
        (release (p.waiting.length + 1) { p with sent := rest, waiting := e :: p.waiting })

lemma exists_split_set {β : Type} {l : List β} {i : Nat} {x : β} (h : l[i]? = some x) :
    ∃ l₁ l₂, l = l₁ ++ x :: l₂ ∧ ∀ y, l.set i y = l₁ ++ y :: l₂ := by
  obtain ⟨hi, rfl⟩ := List.getElem?_eq_some_iff.1 h
  refine ⟨l.take i, l.drop (i + 1), ?_, fun y => List.set_eq_take_append_cons_drop.trans ?_⟩
  · rw [List.getElem_cons_drop, List.take_append_drop]
  · rw [if_pos hi]

lemma moves_of_worker {i : Nat} {w : Worker α} (hw : p.workers[i]? = some w)
    (h : p.moveWorker tasks i w = some q) : Moves tasks p q := by
  obtain ⟨l₁, l₂, hp, hset⟩ := exists_split_set hw
  cases w with
  | looking =>
    cases hs : p.stopped with
    | false =>
      obtain rfl : p.setWorker i .claiming = q := by simpa [moveWorker, hs] using h
      rw [setWorker, hset]
      exact .look hp hs
    | true =>
      obtain rfl : p.setWorker i .gone = q := by simpa [moveWorker, hs] using h
      rw [setWorker, hset]
      exact .leave hp hs
  | claiming =>
    obtain rfl := Option.some.inj h
    rw [setWorker, hset]
    by_cases hn : p.next < tasks.count
    · rw [if_pos hn]
      exact .claim hp hn
    · rw [if_neg hn]
      exact .exhaust hp (Nat.not_lt.1 hn)
  | working k =>
    obtain rfl := Option.some.inj h
    rw [setWorker, hset]
    exact .check hp
  | marking k r =>
    obtain rfl := Option.some.inj h
    rw [setWorker, hset]
    exact .mark hp
  | sending k r =>
    obtain rfl := Option.some.inj h
    rw [setWorker, hset]
    exact .send hp
  | gone => cases h

/-- Every step is one of these moves. -/
theorem moves_of_step (h : Step tasks p q) : Moves tasks p q := by
  obtain ⟨a, ha⟩ := h
  cases a with
  | worker i =>
    obtain ⟨w, hw, hq⟩ := Option.bind_eq_some_iff.1 ha
    exact moves_of_worker hw hq
  | receiver =>
    cases hs : p.sent with
    | nil => simp [act, receive, hs] at ha
    | cons e rest =>
      obtain rfl : release (p.waiting.length + 1)
          { p with sent := rest, waiting := e :: p.waiting } = q := by
        simpa [act, receive, hs] using ha
      exact .receive hs

/-- Perform actions one after the other, if all of them can be performed. -/
def perform (tasks : Tasks α) : List Action → Pool α → Option (Pool α)
  | [], p => some p
  | a :: as, p => (p.act tasks a).bind (perform tasks as)

theorem reaches_of_perform {as : List Action} (h : perform tasks as p = some q) :
    Reaches tasks p q := by
  induction as generalizing p with
  | nil =>
    obtain rfl := Option.some.inj h
    exact .refl p
  | cons a as ih =>
    obtain ⟨p', hp, hq⟩ := Option.bind_eq_some_iff.1 h
    exact .step ⟨a, hp⟩ (ih hq)

/-- Whatever holds at the start and is kept by every move holds all the time. -/
theorem Reaches.keeps {P : Pool α → Prop} (h : Reaches tasks p q)
    (hstep : ∀ p q, P p → Moves tasks p q → P q) (hp : P p) : P q := by
  induction h with
  | refl => exact hp
  | step s _ ih => exact ih (hstep _ _ hp (moves_of_step s))

/-- Releasing leaves the workers and what is on its way alone. -/
lemma release_eq (fuel : Nat) (p : Pool α) :
    release fuel p = { p with
      waiting := (release fuel p).waiting, released := (release fuel p).released } := by
  induction fuel generalizing p with
  | zero => rfl
  | succ fuel ih =>
    rw [release]
    split
    · rfl
    · rw [ih]

lemma mem_of_lookup {k : Nat} {r : α} {l : List (Nat × α)} (h : l.lookup k = some r) :
    (k, r) ∈ l := by
  obtain ⟨l₁, l₂, rfl, -⟩ := List.lookup_eq_some_iff.1 h
  simp

/-- The result that would be released next is not there. -/
def Settled (p : Pool α) : Prop := p.waiting.lookup p.released.length = none

lemma settled_release {fuel : Nat} (h : p.waiting.length ≤ fuel) : Settled (release fuel p) := by
  induction fuel generalizing p with
  | zero =>
    have hnil : p.waiting = [] := List.length_eq_zero_iff.1 (Nat.le_zero.1 h)
    simp [Settled, release, hnil]
  | succ fuel ih =>
    rw [release]
    split
    · assumption
    · rename_i r hl
      apply ih
      have hlt : (p.waiting.filter fun e => e.1 != p.released.length).length <
          p.waiting.length :=
        List.length_filter_lt_length_iff_exists.2 ⟨_, mem_of_lookup hl, by simp⟩
      change (p.waiting.filter fun e => e.1 != p.released.length).length ≤ fuel
      omega

lemma Settled.move (h : Settled p) (hm : Moves tasks p q) : Settled q := by
  cases hm with
  | receive => exact settled_release (Nat.le_refl _)
  | _ => exact h

/-- A result that belongs to a task which was taken. -/
structure Genuine (tasks : Tasks α) (next : Nat) (e : Nat × α) : Prop where
  lt_next : e.1 < next
  lt_count : e.1 < tasks.count
  result : e.2 = tasks.result e.1

/-- A worker has taken the task in its hands, and it is gone for a reason only. -/
def Fits (tasks : Tasks α) (p : Pool α) : Worker α → Prop
  | .looking => True
  | .claiming => True
  | .working k => k < p.next ∧ k < tasks.count
  | .marking k r => Genuine tasks p.next (k, r)
  | .sending k r => Genuine tasks p.next (k, r)
  | .gone => p.stopped = true ∨ tasks.count ≤ p.next

/-- Where a task that was taken can be. -/
inductive Placed (p : Pool α) (k : Nat) : Prop
  | held {w : Worker α} (hw : w ∈ p.workers) (hk : w.task? = some k)
  | sent {r : α} (h : (k, r) ∈ p.sent)
  | waiting {r : α} (h : (k, r) ∈ p.waiting)
  | released (h : k < p.released.length)

/-- What holds of a pool all the time. -/
structure Sound (tasks : Tasks α) (p : Pool α) : Prop where
  fits : ∀ w ∈ p.workers, Fits tasks p w
  sent : ∀ e ∈ p.sent, Genuine tasks p.next e
  waiting : ∀ e ∈ p.waiting, Genuine tasks p.next e
  released : p.released = (List.range p.released.length).map tasks.result
  released_le : p.released.length ≤ tasks.count
  /-- No task that was taken is lost. -/
  placed : ∀ k < p.next, k < tasks.count → Placed p k
  /-- Only a task that was taken can have asked to stop. -/
  stopped : p.stopped = true →
    ∃ k < p.next, k < tasks.count ∧ tasks.halts (tasks.result k) = true

lemma Genuine.mono {n m : Nat} {e : Nat × α} (h : Genuine tasks n e) (hnm : n ≤ m) :
    Genuine tasks m e :=
  ⟨Nat.lt_of_lt_of_le h.lt_next hnm, h.lt_count, h.result⟩

lemma Fits.mono {w : Worker α} (h : Fits tasks p w) (hn : p.next ≤ q.next)
    (hs : p.stopped = true → q.stopped = true) : Fits tasks q w := by
  cases w with
  | looking | claiming => trivial
  | working k => exact ⟨Nat.lt_of_lt_of_le h.1 hn, h.2⟩
  | marking k r | sending k r => exact Genuine.mono h hn
  | gone => exact h.imp hs fun hc => Nat.le_trans hc hn

lemma sound_start (tasks : Tasks α) (n : Nat) : Sound tasks (start n) where
  fits := fun w hw => by
    obtain rfl := List.eq_of_mem_replicate hw
    trivial
  sent := by simp [start]
  waiting := by simp [start]
  released := rfl
  released_le := Nat.zero_le _
  placed := fun k hk => absurd hk (Nat.not_lt_zero k)
  stopped := by simp [start]

/-- A worker goes on: the others keep what they have, and so does the receiver. It is left to
show what becomes of the task in the worker's hands and of a task that is taken. -/
lemma Sound.replace (h : Sound tasks p) {l₁ l₂ : List (Worker α)} {w w' : Worker α}
    (hp : p.workers = l₁ ++ w :: l₂) (hq : q.workers = l₁ ++ w' :: l₂)
    (hwaiting : q.waiting = p.waiting) (hreleased : q.released = p.released)
    (hnext : p.next ≤ q.next) (hsub : p.sent ⊆ q.sent)
    (fits : Fits tasks q w') (sent : ∀ e ∈ q.sent, Genuine tasks q.next e)
    (moved : ∀ k, w.task? = some k → Placed q k)
    (new : ∀ k, p.next ≤ k → k < q.next → k < tasks.count → Placed q k)
    (mono : p.stopped = true → q.stopped = true)
    (stopped : q.stopped = true →
      ∃ k < q.next, k < tasks.count ∧ tasks.halts (tasks.result k) = true) : Sound tasks q where
  fits := fun x hx => by
    rw [hq] at hx
    rcases List.mem_append.1 hx with hx | hx
    · exact (h.fits x (by simp [hp, hx])).mono hnext mono
    rcases List.mem_cons.1 hx with rfl | hx
    · exact fits
    · exact (h.fits x (by simp [hp, hx])).mono hnext mono
  sent := sent
  waiting := fun e he => (h.waiting e (hwaiting ▸ he)).mono hnext
  released := hreleased ▸ h.released
  released_le := hreleased ▸ h.released_le
  placed := fun k hk hc => by
    by_cases hlt : k < p.next
    · cases h.placed k hlt hc with
      | @held x hx hk =>
        rw [hp] at hx
        rcases List.mem_append.1 hx with hx | hx
        · exact .held (by simp [hq, hx]) hk
        rcases List.mem_cons.1 hx with rfl | hx
        · exact moved k hk
        · exact .held (by simp [hq, hx]) hk
      | sent he => exact .sent (hsub he)
      | waiting he => exact .waiting (hwaiting ▸ he)
      | released hr => exact .released (hreleased ▸ hr)
    · exact new k (Nat.not_lt.1 hlt) hk hc
  stopped := stopped

/-- Releasing the next result. -/
lemma Sound.releaseNext (h : Sound tasks p) {r : α}
    (hl : p.waiting.lookup p.released.length = some r) :
    Sound tasks { p with
      waiting := p.waiting.filter fun e => e.1 != p.released.length
      released := p.released ++ [r] } where
  fits := fun w hw => (h.fits w hw).mono (Nat.le_refl _) id
  sent := h.sent
  waiting := fun e he => h.waiting e (List.mem_of_mem_filter he)
  released := by
    have hr : r = tasks.result p.released.length := (h.waiting _ (mem_of_lookup hl)).result
    rw [List.length_append, List.length_singleton, List.range_succ, List.map_append,
      ← h.released, hr]
    rfl
  released_le := by
    have hlt : p.released.length < tasks.count := (h.waiting _ (mem_of_lookup hl)).lt_count
    rw [List.length_append, List.length_singleton]
    exact hlt
  placed := fun k hk hc => by
    cases h.placed k hk hc with
    | held hw hk => exact .held hw hk
    | sent he => exact .sent he
    | @waiting r' he =>
      by_cases hkey : k = p.released.length
      · exact .released (by simp [hkey])
      · exact .waiting (List.mem_filter.2 ⟨he, by simpa using hkey⟩)
    | released hr => exact .released (by rw [List.length_append]; omega)
  stopped := h.stopped

lemma Sound.release (h : Sound tasks p) (fuel : Nat) : Sound tasks (release fuel p) := by
  induction fuel generalizing p with
  | zero => exact h
  | succ fuel ih =>
    rw [Pool.release]
    split
    · exact h
    · exact ih (h.releaseNext ‹_›)

/-- The receiver takes a result. -/
lemma Sound.take (h : Sound tasks p) {e : Nat × α} {rest : List (Nat × α)}
    (hs : p.sent = e :: rest) :
    Sound tasks { p with sent := rest, waiting := e :: p.waiting } where
  fits := fun w hw => (h.fits w hw).mono (Nat.le_refl _) id
  sent := fun x hx => h.sent x (hs ▸ List.mem_cons_of_mem e hx)
  waiting := fun x hx => by
    rcases List.mem_cons.1 hx with rfl | hx
    · exact h.sent x (hs ▸ List.mem_cons_self)
    · exact h.waiting x hx
  released := h.released
  released_le := h.released_le
  placed := fun k hk hc => by
    cases h.placed k hk hc with
    | held hw hk => exact .held hw hk
    | @sent r he =>
      rw [hs] at he
      rcases List.mem_cons.1 he with rfl | he
      · exact .waiting List.mem_cons_self
      · exact .sent he
    | waiting he => exact .waiting (List.mem_cons_of_mem e he)
    | released hr => exact .released hr
  stopped := h.stopped

/-- Every move keeps a pool sound. -/
theorem Sound.move (h : Sound tasks p) (hm : Moves tasks p q) : Sound tasks q := by
  have hself : ∀ (l₁ l₂ : List (Worker α)) (w : Worker α), w ∈ l₁ ++ w :: l₂ := by simp
  have hfits : ∀ {l₁ l₂ : List (Worker α)} {w : Worker α}, p.workers = l₁ ++ w :: l₂ →
      Fits tasks p w := fun hw => h.fits _ (hw ▸ hself _ _ _)
  have hold : ∀ {P : Nat → Prop} (k : Nat), p.next ≤ k → k < p.next → P k :=
    fun k hle hlt => absurd hlt (Nat.not_lt.2 hle)
  cases hm with
  | look hw hs =>
    exact h.replace hw rfl rfl rfl (Nat.le_refl _) (List.Subset.refl _) trivial h.sent
      (by simp [Worker.task?]) (fun k hle hlt _ => hold k hle hlt) id h.stopped
  | leave hw hs =>
    exact h.replace hw rfl rfl rfl (Nat.le_refl _) (List.Subset.refl _) (.inl hs) h.sent
      (by simp [Worker.task?]) (fun k hle hlt _ => hold k hle hlt) id h.stopped
  | claim hw hn =>
    refine h.replace hw rfl rfl rfl (Nat.le_succ _) (List.Subset.refl _)
      ⟨Nat.lt_succ_self _, hn⟩ (fun e he => (h.sent e he).mono (Nat.le_succ _))
      (by simp [Worker.task?]) ?_ id ?_
    · intro k hle hlt _
      obtain rfl : p.next = k := Nat.le_antisymm hle (Nat.le_of_lt_succ hlt)
      exact .held (hself _ _ _) rfl
    · intro hs
      obtain ⟨k, hk, hstop⟩ := h.stopped hs
      exact ⟨k, Nat.lt_succ_of_lt hk, hstop⟩
  | exhaust hw hn =>
    refine h.replace hw rfl rfl rfl (Nat.le_succ _) (List.Subset.refl _)
      (.inr (Nat.le_succ_of_le hn)) (fun e he => (h.sent e he).mono (Nat.le_succ _))
      (by simp [Worker.task?]) (fun k hle _ hc => absurd hc (Nat.not_lt.2 (Nat.le_trans hn hle)))
      id ?_
    intro hs
    obtain ⟨k, hk, hstop⟩ := h.stopped hs
    exact ⟨k, Nat.lt_succ_of_lt hk, hstop⟩
  | @check l₁ l₂ k hw =>
    refine h.replace hw rfl rfl rfl (Nat.le_refl _) (List.Subset.refl _)
      ⟨(hfits hw).1, (hfits hw).2, rfl⟩ h.sent ?_ (fun k hle hlt _ => hold k hle hlt) id h.stopped
    rintro _ ⟨⟩
    exact .held (hself _ _ _) rfl
  | @mark l₁ l₂ k r hw =>
    have hr : Genuine tasks p.next (k, r) := hfits hw
    refine h.replace hw rfl rfl rfl (Nat.le_refl _) (List.Subset.refl _) hr h.sent ?_
      (fun k hle hlt _ => hold k hle hlt) (fun hs => by simp [hs]) ?_
    · rintro _ ⟨⟩
      exact .held (hself _ _ _) rfl
    · intro hs
      rcases Bool.or_eq_true_iff.1 hs with hs | hs
      · exact h.stopped hs
      · exact ⟨k, hr.lt_next, hr.lt_count, hr.result ▸ hs⟩
  | @send l₁ l₂ k r hw =>
    refine h.replace hw rfl rfl rfl (Nat.le_refl _) (List.subset_append_left _ _) trivial ?_ ?_
      (fun k hle hlt _ => hold k hle hlt) id h.stopped
    · intro e he
      rcases List.mem_append.1 he with he | he
      · exact h.sent e he
      · obtain rfl := List.mem_singleton.1 he
        exact hfits hw
    · rintro _ ⟨⟩
      exact .sent (List.mem_append_right _ (List.mem_singleton_self _))
  | receive hs => exact (h.take hs).release _

/-- Steps that are left at most: six for each task that was not taken, what the workers have in
hand, and what is on its way. -/
def supply (tasks : Tasks α) (p : Pool α) : Nat :=
  6 * (tasks.count - p.next) + (p.workers.map Worker.weight).sum + p.sent.length

/-- Every move uses up some of the supply. -/
theorem Moves.supply_lt (hm : Moves tasks p q) : supply tasks q < supply tasks p := by
  cases hm with
  | look hw | leave hw | check hw | mark hw | send hw =>
    simp only [supply, hw, List.map_append, List.map_cons, List.sum_append, List.sum_cons,
      List.length_append, List.length_singleton, Worker.weight]
    omega
  | claim hw hn | exhaust hw hn =>
    simp only [supply, hw, List.map_append, List.map_cons, List.sum_append, List.sum_cons,
      Worker.weight]
    omega
  | receive hs =>
    rw [release_eq]
    simp only [supply, hs, List.length_cons]
    omega

lemma supply_start (tasks : Tasks α) (n : Nat) : supply tasks (start n) = stepLimit tasks n := by
  simp [supply, start, stepLimit, Worker.weight, Nat.mul_comm]

lemma moveWorker_eq_none {i : Nat} {w : Worker α} :
    p.moveWorker tasks i w = none ↔ w = .gone := by
  cases w <;> simp [moveWorker]

lemma receive_eq_none : p.receive = none ↔ p.sent = [] := by
  cases hs : p.sent <;> simp [receive, hs]

/-- Nobody can move once all workers are gone and nothing is on its way. -/
lemma finished_iff : Finished tasks p ↔ (∀ w ∈ p.workers, w = .gone) ∧ p.sent = [] := by
  constructor
  · intro h
    refine ⟨fun w hw => ?_, receive_eq_none.1 (h .receiver)⟩
    obtain ⟨i, hi⟩ := List.mem_iff_getElem?.1 hw
    have hnone := h (.worker i)
    rw [act, hi] at hnone
    exact moveWorker_eq_none.1 hnone
  · rintro ⟨hw, hs⟩ a
    cases a with
    | worker i =>
      cases hi : p.workers[i]? with
      | none => simp [act, hi]
      | some w =>
        rw [act, hi]
        exact moveWorker_eq_none.2 (hw w (List.mem_of_getElem? hi))
    | receiver => exact receive_eq_none.2 hs

/-- Whoever is next can move unless nobody can. -/
lemma finished_of_nextAction (h : p.act tasks p.nextAction = none) : Finished tasks p := by
  rw [nextAction] at h
  split at h
  · rename_i i hi
    obtain ⟨hlt, hpresent, -⟩ := List.findIdx?_eq_some_iff_getElem.1 hi
    rw [act, List.getElem?_eq_getElem hlt] at h
    have hgone : p.workers[i] = .gone := moveWorker_eq_none.1 h
    simp [hgone, isGone] at hpresent
  · rename_i hnone
    refine finished_iff.2 ⟨fun w hw => ?_, receive_eq_none.1 h⟩
    have hgone := List.findIdx?_eq_none_iff.1 hnone w hw
    cases w <;> simp [isGone] at hgone ⊢

/-- Driven on long enough, a pool comes to its end. -/
lemma finished_drive {fuel : Nat} (h : supply tasks p ≤ fuel) :
    Finished tasks (drive tasks fuel p) := by
  induction fuel generalizing p with
  | zero =>
    intro a
    cases ha : p.act tasks a with
    | none => exact ha
    | some q =>
      have hlt := (moves_of_step ⟨a, ha⟩).supply_lt
      omega
  | succ fuel ih =>
    rw [drive]
    split
    · rename_i q hq
      have hlt := (moves_of_step ⟨_, hq⟩).supply_lt
      exact ih (by omega)
    · exact finished_of_nextAction ‹_›

/-- However far a schedule has come, it can be brought to an end. -/
theorem exists_finished (tasks : Tasks α) (p : Pool α) :
    ∃ q, Reaches tasks p q ∧ Finished tasks q :=
  ⟨_, drive_reaches tasks (supply tasks p) p, finished_drive (Nat.le_refl _)⟩

/-- The workers come to an end of their own. -/
theorem finished_finish (tasks : Tasks α) (n : Nat) : Finished tasks (finish tasks n) :=
  finished_drive (Nat.le_of_eq (supply_start tasks n))

lemma length_workers_of_reaches {n : Nat} (h : Reaches tasks (start n) p) :
    p.workers.length = n := by
  refine h.keeps (P := fun p => p.workers.length = n) (fun p q hp hm => ?_)
    List.length_replicate
  cases hm with
  | look hw | leave hw | claim hw | exhaust hw | check hw | mark hw | send hw =>
    rw [← hp, hw]
    simp
  | receive =>
    rw [release_eq]
    exact hp

/-- In the end every task that was taken has been released, because the one that would be next
is neither in anybody's hands nor on its way nor waiting. -/
lemma Sound.next_le_of_finished (h : Sound tasks p) (hs : Settled p) (hf : Finished tasks p)
    (hlt : p.released.length < tasks.count) : p.next ≤ p.released.length := by
  obtain ⟨hgone, hsent⟩ := finished_iff.1 hf
  by_contra hnext
  cases h.placed p.released.length (Nat.not_le.1 hnext) hlt with
  | held hw hk =>
    rw [hgone _ hw] at hk
    cases hk
  | sent he => simp [hsent] at he
  | waiting he => simpa using List.lookup_eq_none_iff.1 hs _ he
  | released hr => exact Nat.lt_irrefl _ hr

/-- What a schedule has released when it is finished: the results of the first tasks, in order.
Only a task among them that asked to stop can keep a task from being one of them. -/
theorem exists_released {n : Nat} (hn : min 1 tasks.count ≤ n) (hr : Reaches tasks (start n) p)
    (hf : Finished tasks p) :
    ∃ k ≤ tasks.count, p.released = (List.range k).map tasks.result ∧
      (k < tasks.count → ∃ j < k, tasks.halts (tasks.result j) = true) := by
  have h : Sound tasks p := hr.keeps (fun _ _ => Sound.move) (sound_start tasks n)
  have hs : Settled p := hr.keeps (fun _ _ => Settled.move) (rfl : Settled (start n))
  refine ⟨p.released.length, h.released_le, h.released, fun hlt => ?_⟩
  have hnext := h.next_le_of_finished hs hf hlt
  -- there is a worker, and it is gone although a task is left
  obtain ⟨w, hw⟩ : ∃ w, w ∈ p.workers := by
    apply List.exists_mem_of_length_pos
    rw [length_workers_of_reaches hr]
    omega
  have hgone := h.fits w hw
  rw [(finished_iff.1 hf).1 w hw] at hgone
  obtain ⟨k, hk, -, hstop⟩ := h.stopped (hgone.resolve_right (by omega))
  exact ⟨k, by omega, hstop⟩

end Pool
end Exemplar
