import Mathlib.Data.Nat.Notation

namespace XenNet.PageWindow

/-- Page `k` of the window shows page `page k`, if it shows one. -/
structure Window where
  count : Nat
  page : Nat → Option Nat

variable (size : Nat)

/-- What the window shows at a distance from its beginning, for pages of `size` bytes. -/
def Window.shown (w : Window) (o : Nat) : Option Nat :=
  if o / size < w.count then (w.page (o / size)).map fun page => size * page + o % size else none

/-- The window shows `bytes` bytes from `addr` on, each at its place. -/
def Window.ShowsBlock (w : Window) (addr bytes : Nat) : Prop :=
  ∀ o, o < bytes → w.shown size o = some (addr + o)

instance (w : Window) (addr bytes : Nat) : Decidable (w.ShowsBlock size addr bytes) :=
  inferInstanceAs (Decidable (∀ o, o < bytes → w.shown size o = some (addr + o)))

variable {size} {w : Window}

theorem Window.shown_eq_some_iff (hsize : 0 < size) {o h : Nat} :
    w.shown size o = some h ↔
      o / size < w.count ∧ w.page (o / size) = some (h / size) ∧ h % size = o % size := by
  have hrest : o % size < size := Nat.mod_lt o hsize
  rw [Window.shown]
  constructor
  · intro hshown
    split at hshown
    · rename_i hcount
      obtain ⟨page, hpage, rfl⟩ := Option.map_eq_some_iff.mp hshown
      refine ⟨hcount, ?_, ?_⟩
      · rw [hpage, Nat.mul_add_div hsize, Nat.div_eq_of_lt hrest, Nat.add_zero]
      · rw [Nat.mul_add_mod, Nat.mod_eq_of_lt hrest]
    · contradiction
  · rintro ⟨hcount, hpage, hoffset⟩
    rw [if_pos hcount, hpage, Option.map_some, ← hoffset, Nat.div_add_mod]

/-- Where the pages of a block follow each other, the window shows the block at its place
exactly when the block begins with a page and does not go beyond the last page. -/
theorem Window.showsBlock_iff (hsize : 0 < size) {addr bytes : Nat} (hbytes : 0 < bytes)
    (hpages : ∀ k, k < w.count → w.page k = some (addr / size + k)) :
    w.ShowsBlock size addr bytes ↔ addr % size = 0 ∧ bytes ≤ size * w.count := by
  constructor
  · intro hshows
    obtain ⟨_, _, hfirst⟩ := (Window.shown_eq_some_iff hsize).mp (hshows 0 hbytes)
    obtain ⟨hlast, _, _⟩ :=
      (Window.shown_eq_some_iff hsize).mp (hshows (bytes - 1) (Nat.sub_lt hbytes Nat.one_pos))
    refine ⟨hfirst.trans (Nat.zero_mod size), ?_⟩
    rw [Nat.div_lt_iff_lt_mul hsize, Nat.mul_comm] at hlast
    exact Nat.le_of_pred_lt hlast
  · rintro ⟨haligned, hfits⟩ o ho
    have hcount : o / size < w.count := Nat.div_lt_of_lt_mul (Nat.lt_of_lt_of_le ho hfits)
    have haddr : addr + o = o + size * (addr / size) := by
      rw [Nat.mul_div_cancel' (Nat.dvd_of_mod_eq_zero haligned), Nat.add_comm]
    refine (Window.shown_eq_some_iff hsize).mpr ⟨hcount, ?_, ?_⟩
    · rw [hpages _ hcount, haddr, Nat.add_mul_div_left _ _ hsize, Nat.add_comm]
    · rw [haddr, Nat.add_mul_mod_self_left]

end XenNet.PageWindow
