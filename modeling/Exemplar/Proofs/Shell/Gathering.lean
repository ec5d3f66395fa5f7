import Exemplar.Proofs.Session.Framing
import Exemplar.Shell.Running

/-!
# Events of a process

The writes of a process are laid out along the time, and those that are seen at once are put
together. Nothing is lost by that, and nothing changes its stream or its place.
-/
namespace Exemplar.Shell.Running
open Session (bytesOn Event Stream)

/-- An event in front of others comes alone, or it is read together with the batch behind it. -/
lemma gather_cons (t : Nat) (e : Event) (es : List Timed) :
    gather ((t, e) :: es) = ⟨1, t, e⟩ :: gather es ∨
      ∃ stream x y n u more, e = .data stream x ∧ gather es = ⟨n, u, .data stream y⟩ :: more ∧
        gather ((t, e) :: es) = ⟨n + 1, u, .data stream (x ++ y)⟩ :: more := by
  rw [gather.eq_def]
  dsimp only
  split
  · rename_i a x n u b y more hes
    split_ifs with hjoin
    · simp only [Bool.and_eq_true, decide_eq_true_eq] at hjoin
      obtain ⟨⟨rfl, -⟩, -⟩ := hjoin
      exact .inr ⟨a, x, y, n, u, more, rfl, hes, rfl⟩
    · exact .inl (by rw [hes])
  · exact .inl rfl

/-- The same bytes come on each stream, however they are put together. -/
theorem bytesOn_gather (stream : Stream) (es : List Timed) :
    bytesOn stream ((gather es).map Batch.event) = bytesOn stream (es.map Prod.snd) := by
  induction es with
  | nil => rfl
  | cons x es ih =>
    obtain ⟨t, e⟩ := x
    rw [List.map_cons, Session.bytesOn_cons, ← ih]
    rcases gather_cons t e es with hg | ⟨a, x, y, n, u, more, rfl, hes, hg⟩
    · rw [hg]
      rfl
    · rw [hg, hes]
      simp only [List.map_cons, Session.bytesOn_cons, Event.bytesOn]
      split_ifs <;> simp

theorem isData_gather {es : List Timed} (h : ∀ x ∈ es, x.2.isData = true) :
    ∀ e ∈ (gather es).map Batch.event, e.isData = true := by
  induction es with
  | nil => simp [gather]
  | cons x es ih =>
    obtain ⟨t, e⟩ := x
    rw [List.forall_mem_cons] at h
    have hes := ih h.2
    rcases gather_cons t e es with hg | ⟨a, x, y, n, u, more, rfl, hes', hg⟩
    · rw [hg, List.map_cons, List.forall_mem_cons]
      exact ⟨h.1, hes⟩
    · rw [hes', List.map_cons, List.forall_mem_cons] at hes
      rw [hg, List.map_cons, List.forall_mem_cons]
      exact ⟨rfl, hes.2⟩

/-- Batches stand for all of the events. -/
theorem count_gather (es : List Timed) (n : Nat) :
    (gather es).foldl (fun n b => n + b.count) n = n + es.length := by
  induction es generalizing n with
  | nil => rfl
  | cons x es ih =>
    obtain ⟨t, e⟩ := x
    rcases gather_cons t e es with hg | ⟨a, x, y, m, u, more, rfl, hes, hg⟩
    · rw [hg, List.foldl_cons, ih, List.length_cons]
      simp only
      omega
    · have hmore := ih (n + 1)
      rw [hes, List.foldl_cons] at hmore
      rw [hg, List.foldl_cons, List.length_cons, Nat.add_comm m 1, ← Nat.add_assoc, hmore]
      omega

/-- The last batch ends with the last event. -/
theorem gather_concat (es : List Timed) (t : Nat) (stream : Stream) (y : List UInt8) :
    ∃ front n x, gather (es ++ [(t, .data stream y)]) =
      front ++ [⟨n, t, .data stream (x ++ y)⟩] := by
  induction es with
  | nil => exact ⟨[], 1, [], rfl⟩
  | cons z es ih =>
    obtain ⟨u, e⟩ := z
    obtain ⟨front, n, x, ih⟩ := ih
    rcases gather_cons u e (es ++ [(t, .data stream y)]) with
      hg | ⟨a, x', y', m, v, more, rfl, hes, hg⟩
    · exact ⟨⟨1, u, e⟩ :: front, n, x, by rw [List.cons_append, hg, ih]; rfl⟩
    · rw [ih] at hes
      cases front with
      | nil =>
        simp only [List.nil_append, List.cons.injEq, Batch.mk.injEq, Event.data.injEq] at hes
        obtain ⟨⟨rfl, rfl, rfl, rfl⟩, rfl⟩ := hes
        exact ⟨[], n + 1, x' ++ x, by rw [List.cons_append, hg]; simp⟩
      | cons b front =>
        simp only [List.cons_append, List.cons.injEq] at hes
        obtain ⟨rfl, rfl⟩ := hes
        exact ⟨⟨m + 1, v, .data a (x' ++ y')⟩ :: front, n, x, by rw [List.cons_append, hg]; rfl⟩

end Exemplar.Shell.Running
