/-
What a sink is asked, and what becomes of a record that it is asked to take.

A sink is a state that answers, so nothing in the end tells how often it was
asked and for what. `Journaled` is any sink with a list of its requests and
answers beside it; it answers as the sink does (`attempt_erase`), so what the
journal shows is what the sink went through.

Delivering one record writes a `Dispatch` into the journal: rejections that
were followed by another attempt, and the answer to the last one. The
retries limit their number, and they are used up before a record is given
up (`attempt_dispatch`).
-/
import Intake.Delivery.Retry

namespace Intake

/-- One request to a sink and its answer. -/
structure Asked where
  record : Record
  answer : Except Failure Unit

/-- A sink with a journal of what it was asked. -/
structure Journaled (τ : Type) where
  sink : τ
  journal : List Asked

namespace Journaled

variable {τ : Type} [Sink τ]

instance : Sink (Journaled τ) where
  name j := Sink.name j.sink
  deliver j r :=
    let asked := Sink.deliver j.sink r
    ⟨⟨asked.state, j.journal ++ [⟨r, asked.result⟩]⟩, asked.result⟩
  close j := (Sink.close j.sink).within fun sink => { j with sink }

/-- A sink that has not been asked anything. -/
def start (sink : τ) : Journaled τ := ⟨sink, []⟩

end Journaled

-- ====================================================== dispatches

/-- How a record fared that a sink was asked to take: the rejections after
which it was asked again, and its last answer. -/
structure Dispatch where
  record : Record
  rejections : List Failure
  answer : Except Failure Unit

namespace Dispatch

/-- The delivery ended with an acknowledgement. -/
def acknowledged (d : Dispatch) : Bool := d.answer.isOk

/-- The requests of a dispatch in order. -/
def requests (d : Dispatch) : List Asked :=
  d.rejections.map (fun e => ⟨d.record, .error e⟩) ++ [⟨d.record, d.answer⟩]

/-- The retries were kept to, and used up if the record was given up. -/
structure Settled (retries : Nat) (d : Dispatch) : Prop where
  kept : d.rejections.length ≤ retries
  exhausted : d.acknowledged = false → d.rejections.length = retries

/-- What the dispatch came to. -/
def result (d : Dispatch) : Except String Unit :=
  d.answer.mapError Failure.message

/-- The dispatch behind one more rejection. -/
def reject (e : Failure) (d : Dispatch) : Dispatch :=
  { d with rejections := e :: d.rejections }

/-- One more rejection in front takes one more retry. -/
theorem Settled.reject {retries : Nat} {d : Dispatch} (h : d.Settled retries)
    (e : Failure) :
    (d.reject e).Settled (retries + 1) where
  kept := Nat.succ_le_succ h.kept
  exhausted := fun hack => congrArg (· + 1) (h.exhausted hack)

end Dispatch

-- ====================================================== delivering

namespace Delivery

variable {τ : Type} [Sink τ]

section attempts

variable {sink : τ} {r : Record}

/-- An acknowledgement ends the delivery. -/
theorem attempt_ok (h : (Sink.deliver sink r).result = .ok ())
    (retries : Nat) :
    attempt sink r retries = ⟨(Sink.deliver sink r).state, .ok (), 1⟩ := by
  rw [attempt.eq_def]
  simp only [h]

/-- Without retries left, a rejection ends the delivery with its reason. -/
theorem attempt_last {e : Failure}
    (h : (Sink.deliver sink r).result = .error e) :
    attempt sink r 0 = ⟨(Sink.deliver sink r).state, .error e.message, 1⟩ := by
  rw [attempt.eq_def]
  simp only [h]

/-- With retries left, a rejection is followed by delivering again. -/
theorem attempt_again {e : Failure}
    (h : (Sink.deliver sink r).result = .error e) (retries : Nat) :
    attempt sink r (retries + 1)
      = ⟨(attempt (Sink.deliver sink r).state r retries).sink,
        (attempt (Sink.deliver sink r).state r retries).result,
        (attempt (Sink.deliver sink r).state r retries).attempts + 1⟩ := by
  rw [attempt.eq_def]
  simp only [h]

end attempts

/-- Every delivery is noted with what was answered. -/
theorem deliver_journal (j : Journaled τ) (r : Record) :
    (Sink.deliver j r).state.journal
      = j.journal ++ [⟨r, (Sink.deliver j r).result⟩] := rfl

/-- A journal changes nothing. -/
theorem attempt_erase (j : Journaled τ) (r : Record) (retries : Nat) :
    (attempt j r retries).sink.sink = (attempt j.sink r retries).sink
      ∧ (attempt j r retries).result = (attempt j.sink r retries).result := by
  fun_induction attempt j r retries with
  | case1 retries j asked h =>
      have hsink : (Sink.deliver j.sink r).result = .ok () := h
      rw [attempt_ok hsink]
      exact ⟨rfl, rfl⟩
  | case2 j asked e h =>
      have hsink : (Sink.deliver j.sink r).result = .error e := h
      rw [attempt_last hsink]
      exact ⟨rfl, rfl⟩
  | case3 j asked e h retries rest ih =>
      have hsink : (Sink.deliver j.sink r).result = .error e := h
      rw [attempt_again hsink]
      exact ih

/-- Delivering a record writes one dispatch of it. -/
theorem attempt_dispatch (j : Journaled τ) (r : Record) (retries : Nat) :
    ∃ d : Dispatch, d.record = r ∧ d.Settled retries
      ∧ (attempt j r retries).sink.journal = j.journal ++ d.requests
      ∧ (attempt j r retries).result = d.result := by
  fun_induction attempt j r retries with
  | case1 retries j asked h =>
      refine ⟨⟨r, [], .ok ()⟩, rfl, ⟨Nat.zero_le _, nofun⟩, ?_, rfl⟩
      show asked.state.journal = _
      rw [deliver_journal, h]
      rfl
  | case2 j asked e h =>
      refine ⟨⟨r, [], .error e⟩, rfl, ⟨Nat.le_refl 0, fun _ => rfl⟩, ?_, rfl⟩
      show asked.state.journal = _
      rw [deliver_journal, h]
      rfl
  | case3 j asked e h retries rest ih =>
      obtain ⟨d, rfl, hsettled, hjournal, hresult⟩ := ih
      refine ⟨d.reject e, rfl, hsettled.reject e, ?_, hresult⟩
      show rest.sink.journal = _
      rw [hjournal, deliver_journal, h, List.append_assoc]
      rfl

end Delivery

end Intake
