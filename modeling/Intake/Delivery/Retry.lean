/-
Delivery with retries: a rejected record is delivered again until it is
acknowledged or the retries are used up. The last rejection is told.

The retries are told by what is left of them (`attempt`), or by a counter
of rejections in a word of 32 bits that is compared with a limit
(`counted`).
-/
import Intake.Delivery.Sink

namespace Intake

/-- What delivering one record came to. -/
structure Delivery (σ : Type) where
  sink : σ
  result : Except String Unit
  /-- how often the sink was asked -/
  attempts : Nat

namespace Delivery

variable {σ : Type} [Sink σ]

/-- Delivers a record, and again as often as given while it is rejected. -/
def attempt (sink : σ) (r : Record) (retries : Nat) : Delivery σ :=
  let asked := Sink.deliver sink r
  match asked.result with
  | .ok () => ⟨asked.state, .ok (), 1⟩
  | .error e =>
    match retries with
    | 0 => ⟨asked.state, .error e.message, 1⟩
    | retries + 1 =>
      let rest := attempt asked.state r retries
      { rest with attempts := rest.attempts + 1 }

-- ====================================================== the counter

/-- The count of one rejection more, if there is room for it in the word. -/
def countOn (count : UInt32) : Option UInt32 :=
  if count.toNat + 1 < UInt32.size then some (count + 1) else none

/-- A count that fits its word is one more than before, without overflow. -/
theorem countOn_some {count next : UInt32} (h : countOn count = some next) :
    next.toNat = count.toNat + 1 := by
  rw [countOn, Option.ite_none_right_eq_some] at h
  obtain ⟨hroom, hnext⟩ := h
  rw [← Option.some.inj hnext, UInt32.toNat_add, UInt32.toNat_one]
  exact Nat.mod_eq_of_lt hroom

/-- Delivers a record again as long as fewer rejections than the limit were
counted. Nothing comes of it if the count does not fit its word. -/
def counted (sink : σ) (r : Record) (limit count : UInt32) :
    Option (Delivery σ) :=
  let asked := Sink.deliver sink r
  match asked.result with
  | .ok () => some ⟨asked.state, .ok (), 1⟩
  | .error e =>
    if count < limit then
      match _h : countOn count with
      | none => none
      | some next =>
        (counted asked.state r limit next).map fun rest =>
          { rest with attempts := rest.attempts + 1 }
    else some ⟨asked.state, .error e.message, 1⟩
termination_by limit.toNat - count.toNat
decreasing_by
  have hnext := countOn_some _h
  have hless : count.toNat < limit.toNat := UInt32.lt_iff_toNat_lt.mp ‹_›
  omega

end Delivery

end Intake
