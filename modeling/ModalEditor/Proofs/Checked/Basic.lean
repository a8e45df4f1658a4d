import ModalEditor.Proofs.Text.Splice
import ModalEditor.Text.Position

namespace ModalEditor

/-!
# Steps that can go wrong

Natural numbers have no end, and taking, dropping and looking up yield something for every
argument.  A machine has a largest number, an index has to be below the length of what it
indexes, and the bytes of a text are cut only between characters.  Here are steps as a machine
takes them.  A step that would go wrong ends in a fault, and so does a loop that does not come
to its end in the number of rounds it is given.  What follows from steps that do not fail is
the same as without the checks.
-/

/-- What a step can fail with. -/
inductive Fault where
  /-- An index that is not below the length. -/
  | index
  /-- A slice that ends before it starts, reaches past the end or cuts a character. -/
  | slice
  /-- A sum past the largest number. -/
  | overflow
  /-- A difference below zero. -/
  | underflow
  /-- A text too large to be built. -/
  | capacity
  /-- A loop that goes on. -/
  | endless
  deriving DecidableEq, Repr

/-- A result, if no step on the way to it failed. -/
abbrev Checked (α : Type) := Except Fault α

namespace Checked

/-- How many numbers there are. -/
def wordSize : Nat := UInt64.size

/-- The largest number of bytes that a text has. -/
def maxBytes : Nat := UInt64.size / 2 - 1

variable {α β : Type}

@[simp]
theorem ok_bind (a : α) (next : α → Checked β) : (Except.ok a : Checked α) >>= next = next a :=
  rfl

@[simp]
theorem pure_eq (a : α) : (pure a : Checked α) = .ok a := rfl

@[simp]
theorem map_ok (f : α → β) (a : α) : f <$> (Except.ok a : Checked α) = .ok (f a) := rfl

/-! ## Numbers -/

def add (a b : Nat) : Checked Nat :=
  if a + b < wordSize then .ok (a + b) else .error .overflow

def sub (a b : Nat) : Checked Nat :=
  if b ≤ a then .ok (a - b) else .error .underflow

/-- A sum, or the largest number where there is none.  Likewise a difference of natural numbers
is zero where there is none. -/
def saturatingAdd (a b : Nat) : Nat :=
  min (a + b) (wordSize - 1)

theorem add_eq {a b : Nat} (h : a + b < wordSize) : add a b = .ok (a + b) :=
  if_pos h

theorem sub_eq {a b : Nat} (h : b ≤ a) : sub a b = .ok (a - b) :=
  if_pos h

/-- What is cut at a number of the machine does not show where a sum was. -/
theorem min_saturatingAdd {bound : Nat} (h : bound < wordSize) (a b : Nat) :
    min (saturatingAdd a b) bound = min (a + b) bound := by
  rw [saturatingAdd]
  omega

/-! ## Lists -/

/-- The item at an index. -/
def nth (items : List α) (i : Nat) : Checked α :=
  match items[i]? with
  | none => .error .index
  | some item => .ok item

/-- The items from one index up to another. -/
def slice (items : List α) (first stop : Nat) : Checked (List α) :=
  if first ≤ stop ∧ stop ≤ items.length then .ok ((items.take stop).drop first)
  else .error .slice

theorem nth_eq {items : List α} {i : Nat} {item : α} (h : items[i]? = some item) :
    nth items i = .ok item := by
  rw [nth, h]

theorem slice_eq {items : List α} {first stop : Nat} (h : first ≤ stop)
    (hStop : stop ≤ items.length) :
    slice items first stop = .ok ((items.take stop).drop first) :=
  if_pos ⟨h, hStop⟩

/-! ## Bytes -/

/-- The characters from one byte of a text up to another. -/
def sliceBytes (text : Text) (first stop : Nat) : Checked Text :=
  if first ≤ stop then
    match splitAtByte? text stop with
    | none => .error .slice
    | some (before, _) =>
        match splitAtByte? before first with
        | none => .error .slice
        | some (_, between) => .ok between
  else .error .slice

theorem sliceBytes_append (before between after : Text) :
    sliceBytes (before ++ between ++ after) (byteLength before)
      (byteLength (before ++ between)) = .ok between := by
  have hStop : splitAtByte? (before ++ between ++ after) (byteLength (before ++ between)) =
      some (before ++ between, after) := splitAtByte?_eq_some_iff.mpr ⟨rfl, rfl⟩
  have hFirst : splitAtByte? (before ++ between) (byteLength before) = some (before, between) :=
    splitAtByte?_eq_some_iff.mpr ⟨rfl, rfl⟩
  rw [sliceBytes, if_pos (by rw [byteLength_append]; exact Nat.le_add_right _ _), hStop]
  dsimp only
  rw [hFirst]

/-- A text has at least as many bytes as characters. -/
theorem length_le_byteLength (text : Text) : text.length ≤ byteLength text := by
  induction text with
  | nil => exact Nat.le_refl 0
  | cons c text ih =>
      have hSize := c.utf8Size_pos
      rw [List.length_cons, byteLength_cons]
      omega

/-- Beside the characters of a text that fits in memory there is room for as many again. -/
theorem length_add_maxBytes_lt {text : Text} (h : byteLength text ≤ maxBytes) :
    text.length + maxBytes + 1 < wordSize := by
  have hLength := length_le_byteLength text
  rw [maxBytes, UInt64.size] at h ⊢
  rw [wordSize, UInt64.size]
  omega

/-- Between two offsets in characters a text can be cut in bytes. -/
theorem sliceBytes_byteOffset (text : Text) {first stop : Nat} (h : first ≤ stop) :
    sliceBytes text (byteOffset text first) (byteOffset text stop) =
      .ok ((text.take stop).drop first) := by
  have hTaken : text.take first = (text.take stop).take first := by
    rw [List.take_take, Nat.min_eq_left h]
  have hParts := sliceBytes_append (text.take first) ((text.take stop).drop first)
    (text.drop stop)
  rwa [hTaken, List.take_append_drop, List.take_append_drop, ← hTaken] at hParts

theorem sliceBytes_start (text : Text) (stop : Nat) :
    sliceBytes text 0 (byteOffset text stop) = .ok (text.take stop) :=
  sliceBytes_byteOffset text (Nat.zero_le stop)

theorem sliceBytes_end (text : Text) (first : Nat) :
    sliceBytes text (byteOffset text first) (byteLength text) = .ok (text.drop first) := by
  have hParts := sliceBytes_append (text.take first) (text.drop first) []
  rwa [List.append_nil, List.take_append_drop] at hParts

/-! ## Loops -/

/-- Takes a step as long as a condition holds, for a number of rounds at most. -/
def whileLoop (condition : α → Checked Bool) (step : α → Checked α) : Nat → α → Checked α
  | 0, _ => .error .endless
  | rounds + 1, state => do
      if ← condition state then whileLoop condition step rounds (← step state) else pure state

/-- A loop comes to its end and keeps what each step keeps, if each step can be taken and brings
the end nearer. -/
theorem exists_whileLoop_eq (condition : α → Checked Bool) (step : α → Checked α)
    (Keeps : α → Prop) (distance : α → Nat)
    (hStep : ∀ state, Keeps state → condition state = .ok false ∨
      ∃ next, condition state = .ok true ∧ step state = .ok next ∧ Keeps next ∧
        distance next < distance state)
    {state : α} (h : Keeps state) (rounds : Nat) (hRounds : distance state < rounds) :
    ∃ last, whileLoop condition step rounds state = .ok last ∧ Keeps last ∧
      condition last = .ok false := by
  induction rounds generalizing state with
  | zero => omega
  | succ rounds ih =>
      rw [whileLoop]
      rcases hStep state h with hEnd | ⟨next, hOn, hNext, hKeeps, hNearer⟩
      · exact ⟨state, by simp [hEnd], h, hEnd⟩
      · obtain ⟨last, hLast⟩ := ih hKeeps (by omega)
        exact ⟨last, by simpa [hOn, hNext] using hLast⟩

end Checked

end ModalEditor
