/-!
Texts in the units of UTF-8. A unit is a byte, and is shown as the character with its number, so a
text of ASCII characters alone is its own sequence of units.
-/

namespace Stencil.Text

def units (cs : List Char) : List Char :=
  cs.flatMap fun c => (String.utf8EncodeChar c).map fun byte => Char.ofNat byte.toNat

theorem units_append (cs ds : List Char) : units (cs ++ ds) = units cs ++ units ds := by
  simp [units]

theorem utf8EncodeChar_of_ascii {c : Char} (h : c.toNat < 128) :
    String.utf8EncodeChar c = [UInt8.ofNat c.toNat] := by
  have hc : c.toNat ≤ 127 := by omega
  simp [String.utf8EncodeChar, hc]

/-- A text of ASCII characters is its own sequence of units. -/
theorem units_of_ascii {cs : List Char} (h : ∀ c ∈ cs, c.toNat < 128) : units cs = cs := by
  induction cs with
  | nil => rfl
  | cons c cs ih =>
    have hc : c.toNat < 128 := h c (by simp)
    have hcs := ih fun d hd => h d (by simp [hd])
    have hm : c.toNat % 256 = c.toNat := Nat.mod_eq_of_lt (by omega)
    rw [← List.singleton_append, units_append, hcs]
    simp [units, utf8EncodeChar_of_ascii hc, hm]

end Stencil.Text
