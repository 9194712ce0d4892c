/-
How often a sink is asked, by the answers that it would give.

A sink that is asked for one record again and again gives a sequence of
answers. Delivery takes these in order up to the first acknowledgement, or up
to the last rejection that the retries allow (`attempt_faring`), and it asks
for nothing else: the journal is the front of the sequence.

The retries are limited by a counter of rejections in a word of 32 bits. It
only grows while it is below the limit, which is such a word itself, so there
is always room for one more (`counted_eq`).
-/
import Intake.Proofs.Delivery.Journal

namespace Intake.Delivery

variable {τ : Type} [Sink τ]

-- ====================================================== the answers of a sink

/-- The answers of a sink that is asked to take a record again and again. -/
def answer (sink : τ) (r : Record) : Nat → Except Failure Unit
  | 0 => (Sink.deliver sink r).result
  | n + 1 => answer (Sink.deliver sink r).state r n

variable {answers : Nat → Except Failure Unit}

/-- The first acknowledgement comes behind so many rejections. -/
structure AcknowledgedAfter (answers : Nat → Except Failure Unit) (n : Nat) :
    Prop where
  acknowledged : answers n = .ok ()
  rejected : ∀ i < n, answers i ≠ .ok ()

/-- There is one first acknowledgement at most. -/
theorem AcknowledgedAfter.unique {m n : Nat} (hm : AcknowledgedAfter answers m)
    (hn : AcknowledgedAfter answers n) : m = n := by
  rcases Nat.lt_trichotomy m n with hlt | heq | hgt
  · exact absurd hm.acknowledged (hn.rejected m hlt)
  · exact heq
  · exact absurd hn.acknowledged (hm.rejected n hgt)

/-- One rejection in front puts off the first acknowledgement by one. -/
theorem AcknowledgedAfter.behind {e : Failure} {n : Nat}
    (hfirst : answers 0 = .error e)
    (h : AcknowledgedAfter (fun i => answers (i + 1)) n) :
    AcknowledgedAfter answers (n + 1) where
  acknowledged := h.acknowledged
  rejected := by
    intro i hi
    cases i with
    | zero =>
        rw [hfirst]
        exact nofun
    | succ i => exact h.rejected i (Nat.lt_of_succ_lt_succ hi)

-- =================================================== what delivering comes to

/-- The number of requests and the outcome that answers and retries lead to. -/
inductive Faring (answers : Nat → Except Failure Unit) (retries : Nat) :
    Nat → Except String Unit → Prop where
  | acknowledged {n : Nat} (hfirst : AcknowledgedAfter answers n)
      (hwithin : n ≤ retries) :
      Faring answers retries (n + 1) (.ok ())
  | givenUp {e : Failure} (hrejected : ∀ i ≤ retries, answers i ≠ .ok ())
      (hlast : answers retries = .error e) :
      Faring answers retries (retries + 1) (.error e.message)

/-- One more rejection, with one more retry for it. -/
theorem Faring.behind {e : Failure} {retries attempts : Nat}
    {result : Except String Unit} (hfirst : answers 0 = .error e)
    (h : Faring (fun i => answers (i + 1)) retries attempts result) :
    Faring answers (retries + 1) (attempts + 1) result := by
  cases h with
  | acknowledged hacknowledged hwithin =>
      exact
        .acknowledged (hacknowledged.behind hfirst) (Nat.succ_le_succ hwithin)
  | givenUp hrejected hlast =>
      refine .givenUp (fun i hi => ?_) hlast
      cases i with
      | zero =>
          rw [hfirst]
          exact nofun
      | succ i => exact hrejected i (Nat.le_of_succ_le_succ hi)

/-- A delivery fares as the answers of its sink say. -/
theorem attempt_faring (sink : τ) (r : Record) (retries : Nat) :
    Faring (answer sink r) retries (attempt sink r retries).attempts
      (attempt sink r retries).result := by
  fun_induction attempt sink r retries with
  | case1 retries sink asked h =>
      have hfirst : AcknowledgedAfter (answer sink r) 0 :=
        ⟨h, fun i hi => absurd hi i.not_lt_zero⟩
      exact .acknowledged hfirst (Nat.zero_le retries)
  | case2 sink asked e h =>
      have hanswer : answer sink r 0 = .error e := h
      refine .givenUp (fun i hi => ?_) hanswer
      rw [Nat.le_zero.mp hi, hanswer]
      intro heq
      cases heq
  | case3 sink asked e h retries rest ih => exact ih.behind h

/-- The sink is asked for the record and nothing else, and the journal shows
its answers. -/
theorem attempt_requests (j : Journaled τ) (r : Record) (retries : Nat) :
    (attempt j r retries).sink.journal
      = j.journal ++ (List.range (attempt j r retries).attempts).map
          fun i => ⟨r, answer j.sink r i⟩ := by
  fun_induction attempt j r retries with
  | case1 retries j asked h => rfl
  | case2 j asked e h => rfl
  | case3 j asked e h retries rest ih =>
      show rest.sink.journal = _
      rw [ih, deliver_journal, List.range_succ_eq_map, List.map_cons,
        List.map_map, List.append_assoc]
      rfl

/-- Keeping a journal does not change the answers. -/
theorem answer_journaled (j : Journaled τ) (r : Record) :
    answer j r = answer j.sink r := by
  funext n
  induction n generalizing j with
  | zero => rfl
  | succ n ih => exact ih _

-- ====================================================== the counter

/-- Below another count there is room. -/
theorem countOn_of_lt {count limit : UInt32} (h : count < limit) :
    countOn count = some (count + 1) := by
  have hless := UInt32.lt_iff_toNat_lt.mp h
  have hlimit : limit.toNat < UInt32.size := limit.toNat_lt
  rw [countOn, if_pos (by omega)]

/-- A count up to the limit fits its word to the end, and what is left of the
limit are the retries. -/
theorem counted_eq (sink : τ) (r : Record) {limit count : UInt32}
    (h : count ≤ limit) :
    counted sink r limit count
      = some (attempt sink r (limit.toNat - count.toNat)) := by
  fun_induction counted sink r limit count with
  | case1 sink count asked hanswer => rw [attempt_ok hanswer]
  | case2 sink count asked e hanswer hless hfull =>
      rw [countOn_of_lt hless] at hfull
      cases hfull
  | case3 sink count asked e hanswer hless next hnext ih =>
      have hless := UInt32.lt_iff_toNat_lt.mp hless
      have hcount := countOn_some hnext
      have hleft : limit.toNat - count.toNat
        = limit.toNat - next.toNat + 1 := by omega
      rw [ih (UInt32.le_iff_toNat_le.mpr (by omega)), hleft,
        attempt_again hanswer]
      rfl
  | case4 sink count asked e hanswer hnot =>
      have hleft : limit.toNat - count.toNat = 0 := by
        rw [UInt32.lt_iff_toNat_lt] at hnot
        omega
      rw [hleft, attempt_last hanswer]

-- ====================================================== the whole

/-- Delivering a record with a limit of retries, whatever the sink answers. The
counter of rejections never leaves its word. The sink is asked once more than
the limit at most, for this record and nothing else. If its first
acknowledgement comes within these requests, it is asked up to there and the
delivery is good; otherwise it is asked up to the limit and the last rejection
is told. -/
theorem counted_settles (sink : τ) (r : Record) (limit : UInt32) :
    ∃ d, counted (Journaled.start sink) r limit 0 = some d
      ∧ attempt (Journaled.start sink) r limit.toNat = d
      ∧ d.sink.journal
          = (List.range d.attempts).map (fun i => ⟨r, answer sink r i⟩)
      ∧ d.attempts ≤ limit.toNat + 1
      ∧ (∀ n ≤ limit.toNat, AcknowledgedAfter (answer sink r) n →
          d.attempts = n + 1 ∧ d.result = .ok ())
      ∧ ((∀ n ≤ limit.toNat, ¬AcknowledgedAfter (answer sink r) n) →
          d.attempts = limit.toNat + 1
            ∧ ∃ e, answer sink r limit.toNat = .error e
            ∧ d.result = .error e.message) := by
  have hcounted : counted (Journaled.start sink) r limit 0
      = some (attempt (Journaled.start sink) r limit.toNat) :=
    counted_eq _ r UInt32.zero_le
  have hrequests := attempt_requests (Journaled.start sink) r limit.toNat
  have hfaring := attempt_faring (Journaled.start sink) r limit.toNat
  rw [answer_journaled] at hfaring
  refine ⟨_, hcounted, rfl, hrequests, ?_⟩
  generalize attempt (Journaled.start sink) r limit.toNat = d at hfaring
  obtain ⟨final, result, attempts⟩ := d
  cases hfaring with
  | @acknowledged first hfirst hwithin =>
      refine ⟨Nat.succ_le_succ hwithin, fun n _ hn => ?_, fun hnone => ?_⟩
      · exact ⟨congrArg (· + 1) (hfirst.unique hn), rfl⟩
      · exact absurd hfirst (hnone first hwithin)
  | @givenUp e hrejected hlast =>
      refine
        ⟨Nat.le_refl _, fun n hn hfirst => ?_, fun _ => ⟨rfl, e, hlast, rfl⟩⟩
      exact absurd hfirst.acknowledged (hrejected n hn)

end Intake.Delivery
