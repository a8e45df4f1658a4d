import ModalEditor.Text.Basic

namespace ModalEditor

/-!
# What differs between two texts

Two versions of a text share a head and a tail; only the middle differs.  The
head is taken as long as possible, then the tail as long as the rest allows, so
neither text is cut inside a character and the two shared parts never overlap.
-/

/-- The longest text that both texts start with. -/
def commonHead : Text → Text → Text
  | a :: first, b :: second => if a = b then a :: commonHead first second else []
  | _, _ => []

/-- Two texts taken apart: what they share at both ends and what stands between
in the old and in the new one. -/
structure Difference where
  head : Text
  removed : Text
  added : Text
  tail : Text
  deriving DecidableEq, Repr, Inhabited

namespace Difference

/-- The difference with the longest shared head and, after it, the longest
shared tail. -/
def between (old new : Text) : Difference :=
  let head := commonHead old new
  let oldRest := old.drop head.length
  let newRest := new.drop head.length
  let tail := (commonHead oldRest.reverse newRest.reverse).reverse
  { head
    removed := oldRest.take (oldRest.length - tail.length)
    added := newRest.take (newRest.length - tail.length)
    tail }

end Difference

theorem commonHead_prefix_left (first second : Text) :
    commonHead first second <+: first := by
  induction first generalizing second with
  | nil => simp [commonHead]
  | cons a first ih =>
      cases second with
      | nil => simp [commonHead]
      | cons b second =>
          simp only [commonHead]
          split
          · exact List.cons_prefix_cons.mpr ⟨rfl, ih second⟩
          · exact List.nil_prefix

theorem commonHead_comm (first second : Text) :
    commonHead first second = commonHead second first := by
  induction first generalizing second with
  | nil => cases second <;> rfl
  | cons a first ih =>
      cases second with
      | nil => rfl
      | cons b second =>
          simp only [commonHead, ih second]
          by_cases h : a = b
          · simp [h]
          · rw [if_neg h, if_neg fun e => h e.symm]

theorem commonHead_prefix_right (first second : Text) :
    commonHead first second <+: second :=
  commonHead_comm first second ▸ commonHead_prefix_left second first

end ModalEditor
