import PlayableCards.Text.Alphabetic
import PlayableCards.Text.Lowercase
import PlayableCards.Text.Slice

/-!
# Markers in rules text

Words that only digital cards use. A marker occurs where it stands with no alphabetic character
directly before or after it; every occurrence counts, overlapping ones too.
-/

namespace PlayableCards
namespace Marker

def occurs (part : List Char) : List Char → Bool
  | [] => part.isEmpty
  | c :: cs => part.isPrefixOf (c :: cs) || occurs part cs

/-- Whether a neighbouring character, if there is one, keeps a word apart. -/
def bounds (neighbour : Option Char) : Bool := !neighbour.any Text.isAlphabetic

/-- The bytes to the next character of a text; one past its end. -/
def stride (cs : List Char) : Nat := cs.head?.elim 1 Char.utf8Size

theorem stride_pos (cs : List Char) : 0 < stride cs := by
  cases cs with
  | nil => exact Nat.one_pos
  | cons c cs => exact c.utf8Size_pos

/-- Looks for `marker` by itself in a text from an offset on, one occurrence after another, each
from the character after the start of the last. There is no answer if the text were to be cut
where it cannot be. -/
def scan? (marker text : List Char) (start : Nat) : Option Bool :=
  match _h : Text.splitAt? text start with
  | none => none
  | some (_, rest) =>
    match Text.offset? marker rest with
    | none => some false
    | some skipped =>
      match Text.splitAt? text (start + skipped),
        Text.splitAt? text (start + skipped + Text.size marker) with
      | some (before, here), some (_, after) =>
        if bounds before.getLast? && bounds after.head? then some true
        else scan? marker text (start + skipped + stride here)
      | _, _ => none
termination_by Text.size text + 1 - start
decreasing_by
  have := Text.le_size_of_splitAt? _h
  have := stride_pos here
  omega

/-- Looks for `marker` by itself in all of a text. The empty marker is nowhere. -/
def search? (marker text : List Char) : Option Bool :=
  if marker.isEmpty then some false else scan? marker text 0

def found (marker text : String) : Bool := search? marker.toList text.toList == some true

def digitalOnly : List String :=
  ["boon", "conjure", "double team", "draft", "heist", "incorporate", "intensity", "intensify",
    "perpetually", "seek", "specialize", "spellbook"]

def anyDigital (text : String) : Bool :=
  let lower := String.ofList (Text.lowercase text.toList)
  digitalOnly.any fun marker => found marker lower

end Marker
end PlayableCards
