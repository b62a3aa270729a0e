import PlayableCards.Stream.Items

/-!
# Whole runs

A stream is run by handing its items to a consumer one by one. The next item is read only after
the consumer has taken the last, and none once the consumer has failed.
-/

namespace PlayableCards
namespace Stream

/-- Hands the items to `take` until the stream ends or fails, or `take` does. -/
def feed (t : Target α) (take : σ → α → Option IoFault × σ) (acc : σ) (s : Stream) :
    Option StreamFault × σ × Stream :=
  match _h : s.next t with
  | (.ended, s') => (none, acc, s')
  | (.failed fault, s') => (some fault, acc, s')
  | (.item value, s') =>
    match take acc value with
    | (some fault, acc') => (some (.io fault), acc', s')
    | (none, acc') => feed t take acc' s'
termination_by s.remaining
decreasing_by exact remaining_next_lt _h

def collect (t : Target α) (s : Stream) : List α × Option StreamFault × Stream :=
  match s.feed t (fun items value => (none, value :: items)) [] with
  | (fault, items, s') => (items.reverse, fault, s')

/-- The next of the items for which `f` gives something; all others are passed over. -/
def nextSome (t : Target α) (f : α → Option β) (s : Stream) : Yield β × Stream :=
  match _h : s.next t with
  | (.ended, s') => (.ended, s')
  | (.failed fault, s') => (.failed fault, s')
  | (.item value, s') =>
    match f value with
    | some b => (.item b, s')
    | none => nextSome t f s'
termination_by s.remaining
decreasing_by exact remaining_next_lt _h

end Stream
end PlayableCards
