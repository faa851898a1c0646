import Mathlib.Data.List.Basic

/-!
# Leftmost scanning

A recogniser looks at an offset and, where a record starts, returns the offset
at which that record stops.  A leftmost scan takes the first recognised offset,
jumps behind the record found there and goes on, until nothing is recognised
below a bound.

`Leftmost` is the judgement that a list of records is what such a scan finds.
It determines the list, and it gives the three facts a caller of a scanner
needs: the records are disjoint and in order, each of them is a recognised one,
and every recognised offset is inside one of them.
-/

namespace WiredTethering.Scan

/-- A record found by a scan: the offset it starts at and the one it stops
before. -/
structure Span where
  start : Nat
  stop : Nat
deriving DecidableEq, Repr

variable {recognise : Nat → Option Nat} {bound off : Nat} {spans : List Span}

/-- The records that a leftmost scan from an offset finds below `bound`. -/
inductive Leftmost (recognise : Nat → Option Nat) (bound : Nat) : Nat → List Span → Prop
  | done {off : Nat} (none_left : ∀ s, off ≤ s → s < bound → recognise s = none) :
      Leftmost recognise bound off []
  | found {off : Nat} {span : Span} {rest : List Span}
      (after : off ≤ span.start) (below : span.start < bound)
      (first : ∀ s, off ≤ s → s < span.start → recognise s = none)
      (recognised : recognise span.start = some span.stop)
      (advances : span.start < span.stop)
      (continued : Leftmost recognise bound span.stop rest) :
      Leftmost recognise bound off (span :: rest)

namespace Leftmost

/-- A scan has one result. -/
theorem unique {others : List Span} (scan : Leftmost recognise bound off spans)
    (other : Leftmost recognise bound off others) : spans = others := by
  induction scan generalizing others with
  | done none_left =>
      cases other with
      | done => rfl
      | found after below _ recognised =>
          rw [none_left _ after below] at recognised
          contradiction
  | @found off span rest after below first recognised _ _ ih =>
      cases other with
      | done none_left =>
          rw [none_left _ after below] at recognised
          contradiction
      | @found _ other rest' after' _ first' recognised' _ continued' =>
          have sameStart : span.start = other.start := by
            rcases Nat.lt_trichotomy span.start other.start with lt | eq | gt
            · rw [first' _ after lt] at recognised
              contradiction
            · exact eq
            · rw [first _ after' gt] at recognised'
              contradiction
          have sameStop : span.stop = other.stop := by
            rw [sameStart, recognised'] at recognised
            exact (Option.some.inj recognised).symm
          have sameSpan : span = other := by
            cases span
            cases other
            simp_all
          subst sameSpan
          rw [ih continued']

/-- A scan may start earlier in a stretch where nothing is recognised. -/
theorem weaken {earlier : Nat} (scan : Leftmost recognise bound off spans)
    (before : earlier ≤ off) (quiet : ∀ s, earlier ≤ s → s < off → recognise s = none) :
    Leftmost recognise bound earlier spans := by
  cases scan with
  | done none_left =>
      refine .done fun s after below => ?_
      by_cases inQuiet : s < off
      · exact quiet s after inQuiet
      · exact none_left s (Nat.le_of_not_lt inQuiet) below
  | found after below first recognised advances continued =>
      refine .found (Nat.le_trans before after) below (fun s late early => ?_)
        recognised advances continued
      by_cases inQuiet : s < off
      · exact quiet s late inQuiet
      · exact first s (Nat.le_of_not_lt inQuiet) early

/-- No record is lost: a recognised offset lies inside a record of the scan. -/
theorem complete (scan : Leftmost recognise bound off spans) {s : Nat}
    (after : off ≤ s) (below : s < bound) (accepted : (recognise s).isSome) :
    ∃ span ∈ spans, span.start ≤ s ∧ s < span.stop := by
  induction scan with
  | done none_left =>
      rw [none_left s after below] at accepted
      contradiction
  | @found off span rest _ _ first _ _ _ ih =>
      by_cases early : s < span.start
      · rw [first s after early] at accepted
        contradiction
      · by_cases inside : s < span.stop
        · exact ⟨span, List.mem_cons_self, Nat.le_of_not_lt early, inside⟩
        · obtain ⟨later, member, spans_s⟩ := ih (Nat.le_of_not_lt inside)
          exact ⟨later, List.mem_cons_of_mem span member, spans_s⟩

end Leftmost

end WiredTethering.Scan
