import PlayableCards.Card.Block

/-!
# Statistics

Counts of what became of the cards of a run.
-/

namespace PlayableCards

/-- Excluded cards by rule: in the order of the rules, and only for rules that occur. -/
abbrev Tally := List (Exclusion × Nat)

namespace Tally

def add (e : Exclusion) : Tally → Tally
  | [] => [(e, 1)]
  | (other, n) :: rest =>
    if e = other then (other, n + 1) :: rest
    else if e.rank < other.rank then (e, 1) :: (other, n) :: rest
    else (other, n) :: add e rest

def count (t : Tally) (e : Exclusion) : Nat :=
  match t with
  | [] => 0
  | (other, n) :: rest => if other = e then n else count rest e

def total : Tally → Nat
  | [] => 0
  | (_, n) :: rest => n + total rest

@[simp] theorem total_add (e : Exclusion) (t : Tally) : (t.add e).total = t.total + 1 := by
  induction t with
  | nil => rfl
  | cons entry rest ih =>
    obtain ⟨other, n⟩ := entry
    unfold add
    split
    · simp only [total]
      omega
    · split
      · simp only [total]
        omega
      · simp only [total, ih]
        omega

end Tally

structure Stats where
  records : Nat
  blocks : Nat
  unnamed : Nat
  excluded : Tally
  deriving DecidableEq, Repr

namespace Stats

def zero : Stats := ⟨0, 0, 0, []⟩

def record (s : Stats) (o : Outcome) : Stats :=
  let s := { s with records := s.records + 1 }
  match o with
  | .block _ => { s with blocks := s.blocks + 1 }
  | .unnamed => { s with unnamed := s.unnamed + 1 }
  | .excluded e => { s with excluded := s.excluded.add e }

def excludedTotal (s : Stats) : Nat := s.excluded.total

theorem record_balanced {s : Stats} (o : Outcome)
    (h : s.records = s.blocks + s.unnamed + s.excludedTotal) :
    (s.record o).records
      = (s.record o).blocks + (s.record o).unnamed + (s.record o).excludedTotal := by
  cases o <;> simp only [record, excludedTotal, Tally.total_add] at * <;> omega

/-- The counts that are reported of the rules: of each that has one, in the order of all rules. -/
def listed (s : Stats) : List (Exclusion × Nat) :=
  Exclusion.all.filterMap fun e => (s.excluded.lookup e).map fun n => (e, n)

def report (s : Stats) : List String :=
  ["Records:  " ++ toString s.records, "Blocks:   " ++ toString s.blocks,
    "Unnamed:  " ++ toString s.unnamed, "Excluded: " ++ toString s.excludedTotal]
    ++ s.listed.map fun entry => "  " ++ entry.1.label ++ ": " ++ toString entry.2

end Stats
end PlayableCards
