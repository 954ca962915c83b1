import ObjectStorage.ItemInfo

/-!
# Assertions about infos

Checks that compare infos up to `ItemInfo.isEquivalent`, which looks only at
what the user decides.
-/

namespace ObjectStorage.Assertion

/-- Says that two infos are equivalent. -/
def sameInfo (actual expected : ItemInfo) : Bool :=
  actual.isEquivalent expected

/-- Says that two lists hold equivalent infos, one for one, in the same order. -/
def sameInfos (actual expected : List ItemInfo) : Bool :=
  actual.length = expected.length && (actual.zip expected).all fun (a, e) => sameInfo a e

/-- The list with the entry at place `i` taken out and the last entry moved there. -/
def swapRemove (infos : List ItemInfo) (i : Nat) : List ItemInfo :=
  match infos.getLast? with
  | none => []
  | some last => (infos.set i last).dropLast

/-- Takes the first equivalent of each expected info out of those that are still unmatched. -/
def matchAll : List ItemInfo → List ItemInfo → Bool
  | _, [] => true
  | unmatched, expected :: rest =>
    match unmatched.findIdx? fun actual => actual.isEquivalent expected with
    | some i => matchAll (swapRemove unmatched i) rest
    | none => false

/-- Says that two lists hold equivalent infos, one for one, in any order. -/
def sameInfosInAnyOrder (actual expected : List ItemInfo) : Bool :=
  actual.length = expected.length && matchAll actual expected

end ObjectStorage.Assertion
