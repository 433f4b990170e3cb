/-
This file models taking the first bytes of a UTF-8 string.

A cut that is not at a character boundary has no value: in the modelled language it panics.
On ASCII text a cut by bytes is a cut by characters.
-/

import Mathlib.Data.List.Basic

namespace ChimpChaos.Library

/-- The length of a string in bytes. -/
def byteLength (text : String) : Nat :=
  text.toList.foldr (fun char length => char.utf8Size + length) 0

/-- The characters that make up exactly the first bytes of a text, when the cut falls on a
character boundary. -/
def takeBytes : Nat → List Char → Option (List Char)
  | 0, _ => some []
  | _ + 1, [] => none
  | count + 1, char :: rest =>
    if char.utf8Size ≤ count + 1 then
      (takeBytes (count + 1 - char.utf8Size) rest).map (char :: ·)
    else none
  termination_by structural _ text => text

/-- The first bytes of a string. -/
def sliceTo (text : String) (count : Nat) : Option String :=
  (takeBytes count text.toList).map String.ofList

/-- Every character takes one byte. -/
def IsAscii (text : String) : Prop := ∀ char ∈ text.toList, char.utf8Size = 1

instance (text : String) : Decidable (IsAscii text) :=
  inferInstanceAs (Decidable (∀ char ∈ text.toList, char.utf8Size = 1))

theorem byteLength_of_isAscii {text : String} (ascii : IsAscii text) :
    byteLength text = text.toList.length := by
  unfold byteLength
  unfold IsAscii at ascii
  generalize text.toList = chars at ascii ⊢
  induction chars with
  | nil => rfl
  | cons char rest inductionHypothesis =>
    have single : char.utf8Size = 1 := ascii char List.mem_cons_self
    have tail := inductionHypothesis fun other member => ascii other (List.mem_cons_of_mem _ member)
    rw [List.foldr_cons, single, tail, List.length_cons, Nat.add_comm]

theorem takeBytes_of_isAscii (text : List Char) (ascii : ∀ char ∈ text, char.utf8Size = 1)
    (count : Nat) (bound : count ≤ text.length) :
    takeBytes count text = some (text.take count) := by
  induction text generalizing count with
  | nil =>
    obtain rfl : count = 0 := Nat.le_zero.mp bound
    rfl
  | cons char rest inductionHypothesis =>
    cases count with
    | zero => rfl
    | succ count =>
      have single : char.utf8Size = 1 := ascii char List.mem_cons_self
      have tail := inductionHypothesis
        (fun other member => ascii other (List.mem_cons_of_mem _ member)) count
        (Nat.le_of_succ_le_succ bound)
      rw [takeBytes, single, if_pos (by omega), Nat.add_sub_cancel, tail]
      rfl

/-- On ASCII text a slice that is not too long is a slice by characters. -/
theorem sliceTo_of_isAscii {text : String} (ascii : IsAscii text) (count : Nat)
    (bound : count ≤ byteLength text) :
    sliceTo text count = some (String.ofList (text.toList.take count)) := by
  rw [byteLength_of_isAscii ascii] at bound
  rw [sliceTo, takeBytes_of_isAscii _ ascii count bound, Option.map_some]

end ChimpChaos.Library
