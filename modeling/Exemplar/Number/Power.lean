/-!
# Powers of two and ten

Powers of the two bases that numbers are written in.
-/
namespace Exemplar.Number

def twoTo (n : Nat) : Nat := Nat.pow 2 n

def tenTo (n : Nat) : Nat := Nat.pow 10 n

theorem twoTo_pos (n : Nat) : 0 < twoTo n :=
  Nat.pow_pos (by decide : 0 < 2)

end Exemplar.Number
